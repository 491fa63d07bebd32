import HalPackages.Resolve.Plan
import HalPackages.Sources

/-!
# Loading a file

The plan for the file of a name: request the types that its package shares, parse
the file, check that it declares what its name says, and request its imports.
-/

namespace HalPackages

variable {Doc Declared : Type} [Document Doc Declared]

/-- Why a document is not the file of a name: its package and its version are compared first, then
its interface. -/
def mismatch? (key : QualifiedName) (path : Path) (document : Doc) : Option ResolveFailure :=
  let declared := Document.package document
  if declared.package ≠ key.package ∨ declared.version ≠ key.version then
    some (.packageMismatch path key.packageAndVersion declared.packageAndVersion)
  else
    match Document.interfaceName? document with
    | some interface =>
      if key.IsTypes then some (.unexpectedInterface path interface)
      else if interface ≠ key.localName then some (.interfaceMismatch path key.localName interface)
      else none
    | none => if key.IsTypes then none else some (.expectedInterface path key.localName)

theorem mismatch?_eq_none_iff {key : QualifiedName} {path : Path} {document : Doc} :
    mismatch? key path document = none ↔ Document.Declares document key := by
  rw [mismatch?, Document.Declares]
  by_cases hpackage : (Document.package document).package = key.package
  · by_cases hversion : (Document.package document).version = key.version
    · cases hinterface : Document.interfaceName? document with
      | none => by_cases htypes : key.IsTypes <;> simp [hpackage, hversion, htypes]
      | some interface =>
          by_cases htypes : key.IsTypes <;> by_cases hname : interface = key.localName <;>
            simp [hpackage, hversion, htypes, hname]
    · simp [hversion]
  · simp [hpackage]

namespace Storage

variable (storage : Storage Doc) (roots : PackageRoots)

/-- The names of all source files of a package, in the order of their file names.  A directory that
cannot be read has none. -/
def packageFiles (package : QualifiedName) : Except ConfigError (List QualifiedName) := do
  let directory ← roots.packagePath package false
  match storage.list ⟨directory⟩ with
  | .ok stems => return stems.map package.withName
  | .error _ => return []

/-- Request files until one is not resolved. -/
def requestAll : List QualifiedName → Plan (Option Unresolved)
  | [] => .done none
  | key :: keys => .ask key fun outcome =>
    match outcome with
    | .ok _ => requestAll keys
    | .error reason => .done (some reason)

/-- Request all files of a package, of which there must be one. -/
def importPackage (package : QualifiedName) : Plan (Option Unresolved) := do
  match ← Plan.ofConfig (storage.packageFiles roots package) with
  | [] => return some .failed
  | keys => requestAll keys

/-- Request the file that a name names and, if that fails, the types of its package.  The import is
pending if one of the two is. -/
def importName (name : QualifiedName) : Plan (Option Unresolved) := do
  match ← Plan.request name.fileIdentity with
  | .ok _ => return none
  | .error first =>
    match ← Plan.request name.typesOfPackage with
    | .ok _ => return none
    | .error second =>
      return some (if first = .pending ∨ second = .pending then .pending else .failed)

/-- Request what an import imports. -/
def importOne (name : QualifiedName) : Plan (Option Unresolved) :=
  if name.IsPackage then storage.importPackage roots name else importName name

/-- Request imports until one is not satisfied. -/
def importAll : List QualifiedName → Plan (Option (QualifiedName × Unresolved))
  | [] => return none
  | name :: names => do
    match ← storage.importOne roots name with
    | none => importAll names
    | some reason => return some (name, reason)

/-- The failure of a file whose import is not satisfied. -/
def importFailure (path : Path) (name : QualifiedName) : Unresolved → ResolveFailure
  | .pending => .circularImport path name
  | .failed => .unresolvedImport path name

/-- Parse the file of a name, check it and request its imports. -/
def loadFile (key : QualifiedName) : Plan (Except ResolveFailure (Path × Doc)) :=
  match roots.filePath key with
  | .error cause => .abort cause
  | .ok path =>
    .parsing path <|
      match storage.parse path with
      | .error cause => .done (.error (.ofParseError cause))
      | .ok document =>
        match mismatch? key path document with
        | some failure => .done (.error failure)
        | none => do
          match ← storage.importAll roots (Document.importsFor document key) with
          | none => return .ok (path, document)
          | some (name, reason) => return .error (importFailure path name reason)

/-- The plan for the file of a name.  Every other file requests the types of its package first;
it does not matter whether there are any. -/
def load (key : QualifiedName) : Plan (Except ResolveFailure (Path × Doc)) :=
  if key.IsTypes then storage.loadFile roots key
  else .ask key.typesOfPackage fun _ => storage.loadFile roots key

/-- A file that no document declares itself to be is loaded without any imports. -/
theorem silent_loadFile {key : QualifiedName}
    (h : ∀ path document, storage.parse path = .ok document → Document.identity document ≠ key) :
    (storage.loadFile roots key).Silent := by
  unfold loadFile
  split
  · trivial
  · rename_i path _
    unfold Plan.Silent
    split
    · trivial
    · rename_i document hparse
      split
      · trivial
      · rename_i hmismatch
        exact absurd (mismatch?_eq_none_iff.1 hmismatch).identity_eq (h path document hparse)

end Storage

end HalPackages
