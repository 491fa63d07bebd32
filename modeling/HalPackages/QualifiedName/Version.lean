import HalPackages.QualifiedName
import HalPackages.Text.Number
import HalPackages.Text.Split

/-!
# Versions

A version is written `@major.minor`.  The written form asks for a run of digits
on both sides of the first dot; the numeric reading asks for two numbers of at
most 32 bits.
-/

namespace HalPackages

open Text

/-- The texts before and after the first dot of a version, without the leading `@`. -/
def versionParts? (version : List Char) : Option (List Char × List Char) :=
  (afterMark? ['@'] version).bind (splitFirst ['.'])

/-- Whether a text is a version: `@`, digits, a dot, digits. -/
def isVersion (version : List Char) : Bool :=
  match versionParts? version with
  | some (major, minor) => isDigits major && isDigits minor
  | none => false

namespace QualifiedName

/-- The major and the minor number of a name's version, if both are numbers of 32 bits. -/
def versionNumbers? (name : QualifiedName) : Option (Nat × Nat) := do
  let (major, minor) ← versionParts? name.version.toList
  return (← numberUpTo? 4294967295 major, ← numberUpTo? 4294967295 minor)

end QualifiedName

end HalPackages
