import HalPackages.PackageRoots
import HalPackages.ParseError

/-!
# Why a file is not resolved
-/

namespace HalPackages

/-- The reason why the file of a name gives no document. -/
inductive ResolveFailure where
  | missing (path : Path)
  | parse (cause : ParseError)
  | packageMismatch (path : Path) (expected found : QualifiedName)
  | unexpectedInterface (path : Path) (interface : String)
  | interfaceMismatch (path : Path) (expected found : String)
  | expectedInterface (path : Path) (expected : String)
  | unresolvedImport (path : Path) (imported : QualifiedName)
  | circularImport (path : Path) (imported : QualifiedName)
  | config (cause : ConfigError)
deriving DecidableEq

namespace ResolveFailure

/-- A file that is not there is missing; every other parse error is kept as it is. -/
def ofParseError : ParseError → ResolveFailure
  | .missing path => missing path
  | cause => parse cause

/-- What a failure tells the user. -/
def message : ResolveFailure → String
  | missing path => "file at '" ++ path.text ++ "' does not exist"
  | parse cause => cause.message
  | packageMismatch path expected found =>
    "file at '" ++ path.text ++ "' does not match expected package and/or version (expected '" ++
      expected.render ++ "', found '" ++ found.render ++ "')"
  | unexpectedInterface path interface =>
    "file at '" ++ path.text ++ "' declares an interface '" ++ interface ++
      "' instead of the expected types common to the package"
  | interfaceMismatch path expected found =>
    "file at '" ++ path.text ++ "' does not declare interface type '" ++ expected ++
      "' (found '" ++ found ++ "')"
  | expectedInterface path expected =>
    "file at '" ++ path.text ++ "' declares types rather than the expected interface type '" ++
      expected ++ "'"
  | unresolvedImport path imported =>
    "file at '" ++ path.text ++ "' imports '" ++ imported.render ++
      "', which could not be resolved"
  | circularImport path imported =>
    "file at '" ++ path.text ++ "' imports '" ++ imported.render ++
      "', which is part of a circular import"
  | config cause => cause.message

/-- The file that a failure is about.  A problem of the configuration is about none. -/
def path? : ResolveFailure → Option Path
  | missing path | packageMismatch path _ _ | unexpectedInterface path _
  | interfaceMismatch path _ _ | expectedInterface path _ | unresolvedImport path _
  | circularImport path _ => some path
  | parse cause => some cause.path
  | config _ => none

/-- The place in the file that a failure is about. -/
def position? : ResolveFailure → Option Position
  | parse cause => cause.position?
  | _ => none

/-- The import that a failure blames. -/
def imported? : ResolveFailure → Option QualifiedName
  | unresolvedImport _ imported | circularImport _ imported => some imported
  | _ => none

end ResolveFailure

end HalPackages
