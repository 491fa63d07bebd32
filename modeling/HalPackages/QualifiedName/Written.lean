import HalPackages.QualifiedName.Version
import HalPackages.Text.Blank
import HalPackages.Text.Identifier

/-!
# The written form of a name

The written forms are `pkg@1.0::Name`, `pkg@1.0`, `@1.0::Name` and a bare
`Name`; package and local name are dotted paths.  White space around a name is
no part of it.
-/

namespace HalPackages

open Text

/-- Why a text is no written name. -/
inductive NameError where
  | empty
  | invalidIdentifier (text segment : String)
  | invalidVersion (text version : String)
  | missingName (text : String)
deriving DecidableEq

/-- What a name error tells the user. -/
def NameError.message : NameError → String
  | .empty => "empty qualified name"
  | .invalidIdentifier text segment => "invalid identifier '" ++ segment ++ "' in '" ++ text ++ "'"
  | .invalidVersion text version =>
    "invalid version '" ++ version ++ "' in '" ++ text ++ "' (expected @<major>.<minor>)"
  | .missingName text => "missing local name after '::' in '" ++ text ++ "'"

namespace QualifiedName

/-- A name in its written form; the `::` stands only between two texts. -/
def render (name : QualifiedName) : String :=
  let package := name.package ++ name.version
  if name.localName = "" then package
  else if package = "" then name.localName
  else package ++ "::" ++ name.localName

/-- All segments of a dotted path have to be identifiers; the first one that is not is blamed. -/
def checkPath (text path : List Char) : Except NameError Unit :=
  match badSegment? path with
  | some segment => .error (.invalidIdentifier (String.ofList text) (String.ofList segment))
  | none => .ok ()

/-- The parts of a text that has an `@`, checked from left to right; an empty package or local name
is left out. -/
def ofParts (text package version localName : List Char) : Except NameError QualifiedName := do
  if package ≠ [] then checkPath text package
  if !isVersion version then
    throw (.invalidVersion (String.ofList text) (String.ofList version))
  if localName ≠ [] then checkPath text localName
  return ⟨String.ofList package, String.ofList version, String.ofList localName⟩

/-- Read a text without surrounding white space.  Without an `@` all of it is a local name;
otherwise the package ends at the first `@` and the version at the first `::` after that. -/
def ofChars (text : List Char) : Except NameError QualifiedName :=
  if text = [] then throw .empty
  else
    match text.takeWhile (· != '@'), text.dropWhile (· != '@') with
    | _, [] => do
      checkPath text text
      return ⟨"", "", String.ofList text⟩
    | package, rest =>
      match splitFirst [':', ':'] rest with
      | none => ofParts text package rest []
      | some (_, []) => throw (.missingName (String.ofList text))
      | some (version, localName) => ofParts text package version localName

/-- Read the written form of a name. -/
def parse (text : String) : Except NameError QualifiedName :=
  ofChars (trim text.toList)

end QualifiedName

end HalPackages
