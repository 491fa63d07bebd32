/-!
# Qualified names

A qualified name has a package, a version and a local name, as in
`android.hardware.nfc@1.0::INfc.Status`.  Each part may be empty, and the local
name may be a dotted path into the file that declares it.
-/

namespace HalPackages

/-- A package, a version with its leading `@`, and a possibly dotted local name. -/
structure QualifiedName where
  package : String
  version : String
  localName : String
deriving DecidableEq, Inhabited

namespace QualifiedName

/-- The local name under which a package keeps the types its interfaces share. -/
def typesName : String := "types"

/-- Names are ordered by package, then by version, then by local name. -/
instance : Ord QualifiedName where
  compare a b :=
    (compare a.package b.package).then
      ((compare a.version b.version).then (compare a.localName b.localName))

/-- The names in ascending order; equal names keep their places. -/
def sort (names : List QualifiedName) : List QualifiedName :=
  names.mergeSort fun a b => (compare a b).isLE

/-- None of the three parts is empty. -/
def IsFullyQualified (name : QualifiedName) : Prop :=
  name.package ≠ "" ∧ name.version ≠ "" ∧ name.localName ≠ ""

instance (name : QualifiedName) : Decidable name.IsFullyQualified :=
  inferInstanceAs (Decidable (_ ∧ _))

/-- The name denotes a whole package: only its local name is empty. -/
def IsPackage (name : QualifiedName) : Prop :=
  name.package ≠ "" ∧ name.version ≠ "" ∧ name.localName = ""

instance (name : QualifiedName) : Decidable name.IsPackage :=
  inferInstanceAs (Decidable (_ ∧ _))

/-- The name denotes the file of types that a package shares. -/
def IsTypes (name : QualifiedName) : Prop :=
  name.localName = typesName

instance (name : QualifiedName) : Decidable name.IsTypes :=
  inferInstanceAs (Decidable (_ = _))

/-- The same package and version with another local name. -/
def withName (name : QualifiedName) (localName : String) : QualifiedName :=
  { name with localName }

/-- The first segment of the local name. -/
def topLevelName (name : QualifiedName) : String :=
  String.ofList (name.localName.toList.takeWhile (· != '.'))

/-- The name of the file that declares a name: nested names share the file of their outermost
declaration. -/
def fileIdentity (name : QualifiedName) : QualifiedName :=
  name.withName name.topLevelName

/-- The types file of the name's package. -/
def typesOfPackage (name : QualifiedName) : QualifiedName :=
  name.withName typesName

/-- The name's package as a whole. -/
def packageAndVersion (name : QualifiedName) : QualifiedName :=
  name.withName ""

/-- An empty package or version is filled in, as for a relative import. -/
def withDefaults (name : QualifiedName) (package version : String) : QualifiedName where
  package := if name.package = "" then package else name.package
  version := if name.version = "" then version else name.version
  localName := name.localName

@[simp]
theorem fileIdentity_fileIdentity (name : QualifiedName) :
    name.fileIdentity.fileIdentity = name.fileIdentity := by
  have htake (cs : List Char) :
      (cs.takeWhile (· != '.')).takeWhile (· != '.') = cs.takeWhile (· != '.') := by
    induction cs with
    | nil => rfl
    | cons c cs ih => by_cases h : c = '.' <;> simp [h, ih]
  simp [fileIdentity, withName, topLevelName, htake]

@[simp]
theorem fileIdentity_typesOfPackage (name : QualifiedName) :
    name.typesOfPackage.fileIdentity = name.typesOfPackage := by
  simp only [fileIdentity, topLevelName, typesOfPackage, withName, typesName]
  rw [show String.ofList ("types".toList.takeWhile (· != '.')) = "types" by decide]

end QualifiedName

end HalPackages
