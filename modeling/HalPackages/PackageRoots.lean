import HalPackages.Path
import HalPackages.QualifiedName.Written
import HalPackages.Text.Split

/-!
# Package roots

A package root says in which directory the packages below a prefix are kept.
Package and version of a name select a directory below the root that matches
first, and the outermost part of the local name selects a file in it.
-/

namespace HalPackages

open Text

/-- A table of roots that does not fit what is asked of it, or that is no table at all. -/
inductive ConfigError where
  | notFullyQualified (name : QualifiedName)
  | noPackageRoot (package : String)
  | invalidVersion (name : QualifiedName) (version : String)
  | packageIsRoot (package root : String)
  | malformedRoot (text : String)
deriving DecidableEq

/-- What a configuration error tells the user. -/
def ConfigError.message : ConfigError → String
  | notFullyQualified name => "'" ++ name.render ++ "' is not fully qualified"
  | noPackageRoot package => "no package root configured for package '" ++ package ++ "'"
  | invalidVersion name version =>
    "version '" ++ version ++ "' of '" ++ name.render ++
      "' must be '@' followed by a version number"
  | packageIsRoot package root =>
    "package '" ++ package ++ "' names the package root '" ++ root ++ "' itself"
  | malformedRoot text => "malformed package root '" ++ text ++ "' (expected <prefix>:<path>)"

/-- The directory of all packages that start with given segments. -/
structure PackageRoot where
  package : String
  path : String
deriving DecidableEq

namespace PackageRoot

/-- A root for a package prefix, whose trailing dots do not count. -/
def ofPair (package path : String) : Except ConfigError PackageRoot :=
  let package := String.ofList (package.toList.reverse.dropWhile (· == '.')).reverse
  if package = "" ∨ path = "" then .error (.malformedRoot (package ++ ":" ++ path))
  else .ok ⟨package, path⟩

/-- Read a root that is written as prefix, colon and path. -/
def parse (text : String) : Except ConfigError PackageRoot :=
  match splitFirst [':'] text.toList with
  | none => .error (.malformedRoot text)
  | some (package, path) =>
    (ofPair (String.ofList package) (String.ofList path)).mapError fun _ => .malformedRoot text

/-- What follows the root's prefix in a package: nothing, or a dot and more segments. -/
def below? (root : PackageRoot) (package : String) : Option (List Char) :=
  match afterMark? root.package.toList package.toList with
  | some [] => some []
  | some ('.' :: rest) => some ('.' :: rest)
  | _ => none

/-- Whether the root's prefix covers whole segments of a package. -/
def covers (root : PackageRoot) (package : String) : Bool :=
  (root.below? package).isSome

/-- The segments of a package below the root, joined by dots, if there are any. -/
def suffix? (root : PackageRoot) (package : String) : Option (List Char) :=
  match root.below? package with
  | some ('.' :: c :: rest) => some (c :: rest)
  | _ => none

/-- The root's path with a slash at its end. -/
def directory (root : PackageRoot) : List Char :=
  let path := root.path.toList
  if path.getLast? = some '/' then path else path ++ ['/']

end PackageRoot

/-- Package roots in the order in which they are tried. -/
structure PackageRoots where
  entries : List PackageRoot
deriving DecidableEq

namespace PackageRoots

/-- The table without roots. -/
def empty : PackageRoots := ⟨[]⟩

/-- A table of prefixes and paths. -/
def ofPairs (pairs : List (String × String)) : Except ConfigError PackageRoots := do
  return ⟨← pairs.mapM fun (package, path) => PackageRoot.ofPair package path⟩

/-- A table of written roots. -/
def ofTexts (texts : List String) : Except ConfigError PackageRoots := do
  return ⟨← texts.mapM PackageRoot.parse⟩

/-- Add a root that is tried after all others. -/
def push (roots : PackageRoots) (root : PackageRoot) : PackageRoots :=
  ⟨roots.entries ++ [root]⟩

/-- The first root that covers the package of a name, whose package and version must be given. -/
def find (roots : PackageRoots) (name : QualifiedName) : Except ConfigError PackageRoot :=
  if name.package = "" ∨ name.version = "" then .error (.notFullyQualified name)
  else
    match roots.entries.find? (·.covers name.package) with
    | some root => .ok root
    | none => .error (.noPackageRoot name.package)

/-- The digits and dots of a version, after its `@`. -/
def versionDirectory? (version : String) : Option (List Char) :=
  match version.toList with
  | '@' :: c :: rest => some (c :: rest)
  | _ => none

/-- The directory of a package below its root: a directory for each segment and one for the
version. -/
def relativePath (suffix version : List Char) : List Char :=
  (suffix.splitOn '.').flatMap (· ++ ['/']) ++ version ++ ['/']

/-- The directory of a name's package, starting at the root or, if asked for, below it. -/
def packagePath (roots : PackageRoots) (name : QualifiedName) (relative : Bool) :
    Except ConfigError String := do
  let root ← roots.find name
  match versionDirectory? name.version with
  | none => throw (.invalidVersion name name.version)
  | some version =>
    match root.suffix? name.package with
    | none => throw (.packageIsRoot name.package root.package)
    | some suffix =>
      let path := relativePath suffix version
      return String.ofList (if relative then path else root.directory ++ path)

/-- The file that declares a name. -/
def filePath (roots : PackageRoots) (name : QualifiedName) : Except ConfigError Path := do
  let directory ← roots.packagePath name false
  return ⟨directory ++ name.topLevelName ++ ".hal"⟩

end PackageRoots

end HalPackages
