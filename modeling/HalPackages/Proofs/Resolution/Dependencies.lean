import HalPackages.Proofs.Resolution.Calls
import HalPackages.Proofs.Resolution.Loading

/-!
# What a file depends on

A file depends on the types of its package and on the files that are tried for
its imports.  A storage alone decides this, before any call.  Loading a file
requests only what it depends on, and it goes on in the same way whichever
document a request gives.
-/

namespace HalPackages

variable {Doc Declared : Type} [Document Doc Declared]

/-- A file that has a path has a package and a version. -/
theorem PackageRoots.ne_empty_of_filePath {roots : PackageRoots} {key : QualifiedName}
    {path : Path} (h : roots.filePath key = .ok path) : key.package ≠ "" ∧ key.version ≠ "" := by
  rw [filePath, packagePath, find] at h
  split at h
  · contradiction
  · rename_i hgiven
    exact not_or.1 hgiven

/-- The imports of a file with a path have a package and a version, if need be those of the file. -/
theorem Document.ne_empty_of_mem_importsFor {roots : PackageRoots}
    {key imported : QualifiedName} {path : Path} {document : Doc}
    (hpath : roots.filePath key = .ok path)
    (himported : imported ∈ Document.importsFor document key) :
    imported.package ≠ "" ∧ imported.version ≠ "" := by
  obtain ⟨hpackage, hversion⟩ := PackageRoots.ne_empty_of_filePath hpath
  obtain ⟨written, _, rfl⟩ := List.mem_map.1 himported
  constructor <;> rw [QualifiedName.withDefaults] <;> dsimp only <;> split <;> assumption

/-- An import of a file with a path is an import of a whole package if it has no local name. -/
theorem Document.isPackage_iff_of_mem_importsFor {roots : PackageRoots}
    {key imported : QualifiedName} {path : Path} {document : Doc}
    (hpath : roots.filePath key = .ok path)
    (himported : imported ∈ Document.importsFor document key) :
    imported.IsPackage ↔ imported.localName = "" := by
  obtain ⟨hpackage, hversion⟩ := Document.ne_empty_of_mem_importsFor hpath himported
  rw [QualifiedName.IsPackage]
  exact ⟨fun h => h.2.2, fun h => ⟨hpackage, hversion, h⟩⟩

namespace Storage

section Graph

variable (storage : Storage Doc) (roots : PackageRoots)

/-- The files that are tried for an import: the file that it names and the types of its package, or
all files of a package that is imported as a whole. -/
inductive Tries (imported : QualifiedName) : QualifiedName → Prop where
  | file (hname : imported.localName ≠ "") : Tries imported imported.fileIdentity
  | types (hname : imported.localName ≠ "") : Tries imported imported.typesOfPackage
  | member {files : List QualifiedName} {member : QualifiedName}
      (hname : imported.localName = "")
      (hfiles : storage.packageFiles roots imported = .ok files) (hmember : member ∈ files) :
      Tries imported member

/-- The files that a file depends on. -/
inductive DependsOn (key : QualifiedName) : QualifiedName → Prop where
  | types (hkey : ¬ key.IsTypes) : DependsOn key key.typesOfPackage
  | imported {path : Path} {document : Doc} {imported other : QualifiedName}
      (hfile : storage.IsFile roots key path document)
      (himported : imported ∈ Document.importsFor document key)
      (htries : storage.Tries roots imported other) : DependsOn key other

/-- The files that a document imports as it is written: those that its named imports name and the
members of the packages that it imports as a whole. -/
inductive WrittenImport (key : QualifiedName) : QualifiedName → Prop where
  | file {path : Path} {document : Doc} {imported : QualifiedName}
      (hfile : storage.IsFile roots key path document)
      (himported : imported ∈ Document.importsFor document key)
      (hname : imported.localName ≠ "") : WrittenImport key imported.fileIdentity
  | member {path : Path} {document : Doc} {imported member : QualifiedName}
      {files : List QualifiedName} (hfile : storage.IsFile roots key path document)
      (himported : imported ∈ Document.importsFor document key)
      (hname : imported.localName = "")
      (hfiles : storage.packageFiles roots imported = .ok files) (hmember : member ∈ files) :
      WrittenImport key member

/-- An import is satisfied by files with a property: by the file that it names or the types of its
package, or by all files of a package that is imported as a whole, of which there must be one. -/
structure Satisfied (resolved : QualifiedName → Prop) (imported : QualifiedName) : Prop where
  named : imported.localName ≠ "" →
    resolved imported.fileIdentity ∨ resolved imported.typesOfPackage
  whole : imported.localName = "" → ∃ files, storage.packageFiles roots imported = .ok files ∧
    files ≠ [] ∧ ∀ file ∈ files, resolved file

end Graph

theorem Satisfied.mono {storage : Storage Doc} {roots : PackageRoots}
    {resolved resolved' : QualifiedName → Prop} {imported : QualifiedName}
    (h : storage.Satisfied roots resolved imported)
    (hmono : ∀ file, resolved file → resolved' file) :
    storage.Satisfied roots resolved' imported where
  named hname := (h.named hname).imp (hmono _) (hmono _)
  whole hname := by
    obtain ⟨files, hfiles, hne, hall⟩ := h.whole hname
    exact ⟨files, hfiles, hne, fun file hfile => hmono file (hall file hfile)⟩

end Storage

/-! ## Plans that request only some files -/

/-- Whether a request gave a document and, if it did not, why. -/
def Outcome.kind (outcome : Outcome) : Except Unresolved Unit :=
  outcome.map fun _ => ()

namespace Plan

variable {α β : Type}

/-- A plan requests only allowed files, and what it does next does not depend on which document a
request gives. -/
def Confined (allowed : QualifiedName → Prop) : Plan α → Prop
  | done _ | abort _ => True
  | parsing _ next => next.Confined allowed
  | ask key next => allowed key ∧
    (∀ left right : Outcome, left.kind = right.kind → next left = next right) ∧
      ∀ outcome, (next outcome).Confined allowed

variable {allowed allowed' : QualifiedName → Prop}

theorem Confined.mono {plan : Plan α} (h : plan.Confined allowed)
    (hmono : ∀ key, allowed key → allowed' key) : plan.Confined allowed' := by
  induction plan with
  | done | abort => trivial
  | parsing path next ih => exact ih h
  | ask key next ih =>
      obtain ⟨hkey, hkind, hnext⟩ := h
      exact ⟨hmono key hkey, hkind, fun outcome => ih outcome (hnext outcome)⟩

theorem confined_bind {plan : Plan α} {next : α → Plan β} (h : plan.Confined allowed)
    (hnext : ∀ value, (next value).Confined allowed) : (plan >>= next).Confined allowed := by
  change (plan.bind next).Confined allowed
  induction plan with
  | done value => exact hnext value
  | abort cause => trivial
  | parsing path rest ih => exact ih h
  | ask key rest ih =>
      obtain ⟨hkey, hkind, hrest⟩ := h
      refine ⟨hkey, ?_, fun outcome => ih outcome (hrest outcome)⟩
      intro left right heq
      exact congrArg (fun plan => plan.bind next) (hkind left right heq)

theorem confined_request {key : QualifiedName} {next : Outcome → Plan α} (hkey : allowed key)
    (hok : ∀ left right, next (.ok left) = next (.ok right))
    (hnext : ∀ outcome, (next outcome).Confined allowed) :
    (ask key next).Confined allowed := by
  refine ⟨hkey, ?_, hnext⟩
  intro left right heq
  cases left with
  | error reason =>
      cases right with
      | error reason' =>
          rw [show reason = reason' from Except.error.inj heq]
      | ok id => contradiction
  | ok id =>
      cases right with
      | error reason => contradiction
      | ok id' => exact hok id id'

end Plan

namespace Storage

variable {storage : Storage Doc} {roots : PackageRoots} {allowed : QualifiedName → Prop}

theorem confined_requestAll {keys : List QualifiedName} (h : ∀ key ∈ keys, allowed key) :
    (requestAll keys).Confined allowed := by
  induction keys with
  | nil => trivial
  | cons key keys ih =>
      rw [List.forall_mem_cons] at h
      apply Plan.confined_request h.1 (fun _ _ => rfl)
      intro outcome
      cases outcome with
      | error reason => trivial
      | ok id => exact ih h.2

theorem confined_importPackage {package : QualifiedName}
    (h : ∀ files, storage.packageFiles roots package = .ok files → ∀ key ∈ files, allowed key) :
    (storage.importPackage roots package).Confined allowed := by
  rw [importPackage]
  cases hfiles : storage.packageFiles roots package with
  | error cause => trivial
  | ok files =>
      have hall := confined_requestAll (h files hfiles)
      cases files with
      | nil => trivial
      | cons key keys => exact hall

theorem confined_importName {name : QualifiedName} (hfile : allowed name.fileIdentity)
    (htypes : allowed name.typesOfPackage) : (importName name).Confined allowed := by
  apply Plan.confined_request hfile (fun _ _ => rfl)
  intro outcome
  cases outcome with
  | ok id => trivial
  | error first =>
      apply Plan.confined_request htypes (fun _ _ => rfl)
      intro outcome
      cases outcome <;> trivial

theorem confined_importOne {imported : QualifiedName}
    (hpackage : imported.IsPackage ↔ imported.localName = "")
    (h : ∀ other, storage.Tries roots imported other → allowed other) :
    (storage.importOne roots imported).Confined allowed := by
  rw [importOne]
  split
  · rename_i hname
    rw [hpackage] at hname
    apply confined_importPackage
    intro files hfiles key hkey
    exact h key (.member hname hfiles hkey)
  · rename_i hname
    rw [hpackage] at hname
    exact confined_importName (h _ (.file hname)) (h _ (.types hname))

theorem confined_importAll {names : List QualifiedName}
    (h : ∀ name ∈ names, (storage.importOne roots name).Confined allowed) :
    (storage.importAll roots names).Confined allowed := by
  induction names with
  | nil => trivial
  | cons name names ih =>
      rw [List.forall_mem_cons] at h
      apply Plan.confined_bind h.1
      intro unsatisfied
      cases unsatisfied with
      | none => exact ih h.2
      | some reason => trivial

theorem confined_loadFile (key : QualifiedName) :
    (storage.loadFile roots key).Confined (storage.DependsOn roots key) := by
  rw [loadFile]
  split
  · trivial
  · rename_i path hpath
    rw [Plan.Confined]
    split
    · trivial
    · rename_i document hparse
      split
      · trivial
      · rename_i hmismatch
        have hfile : storage.IsFile roots key path document :=
          ⟨hpath, hparse, mismatch?_eq_none_iff.1 hmismatch⟩
        apply Plan.confined_bind
        · apply confined_importAll
          intro imported himported
          apply confined_importOne
          · exact Document.isPackage_iff_of_mem_importsFor hpath himported
          · intro other htries
            exact .imported hfile himported htries
        · intro unsatisfied
          cases unsatisfied <;> trivial

/-- Loading a file requests only what the file depends on. -/
theorem confined_load (storage : Storage Doc) (roots : PackageRoots) (key : QualifiedName) :
    (storage.load roots key).Confined (storage.DependsOn roots key) := by
  rw [load]
  split
  · exact confined_loadFile key
  · rename_i hkey
    apply Plan.confined_request (.types hkey) (fun _ _ => rfl)
    intro outcome
    exact confined_loadFile key

end Storage

/-! ## Two packages without a file in common -/

namespace TwoPackages

open MutualImports (nfc roots)

/-- An interface of another package. -/
def ir : QualifiedName := ⟨"hw.ir", "@1.0", "IIr"⟩

/-- The types of the other package. -/
def irTypes : Summary := ⟨⟨"hw.ir", "@1.0", ""⟩, none, [], ["Level"]⟩

/-- The interface imports one of the types by its name. -/
def irInterface : Summary := ⟨⟨"hw.ir", "@1.0", ""⟩, some "IIr", [⟨"", "", "Level"⟩], ["IIr"]⟩

/-- Next to the package with the files that import each other there is one without a cycle. -/
def storage : Storage Summary where
  parse path :=
    if path = ⟨"hw/ir/1.0/types.hal"⟩ then .ok irTypes
    else if path = ⟨"hw/ir/1.0/IIr.hal"⟩ then .ok irInterface
    else MutualImports.storage.parse path
  list := MutualImports.storage.list

def documents : List Summary :=
  [irTypes, irInterface, ⟨⟨"hw.nfc", "@1.0", ""⟩, none, [⟨"", "", "INfc"⟩], []⟩,
    ⟨⟨"hw.nfc", "@1.0", ""⟩, some "INfc", [], ["INfc", "INfc.Status"]⟩]

theorem mem_documents_of_parse {path : Path} {document : Summary}
    (h : storage.parse path = .ok document) : document ∈ documents := by
  simp only [storage, MutualImports.storage] at h
  split at h
  · cases h
    decide
  · split at h
    · cases h
      decide
    · split at h
      · cases h
        decide
      · split at h
        · cases h
          decide
        · contradiction

theorem package_imports : ∀ document ∈ documents, ∀ written ∈ Document.imports document,
    written.package = "" ∧ written.localName ≠ "" := by
  decide

/-- Files depend on files of their package only. -/
theorem package_eq_of_dependsOn {key other : QualifiedName}
    (h : storage.DependsOn roots key other) : other.package = key.package := by
  cases h with
  | types => rfl
  | @imported path document imported _ hfile himported htries =>
      obtain ⟨written, hwritten, rfl⟩ := List.mem_map.1 himported
      obtain ⟨hpackage, hname⟩ :=
        package_imports document (mem_documents_of_parse hfile.2.1) written hwritten
      have hfilled : (written.withDefaults key.package key.version).package = key.package :=
        if_pos hpackage
      cases htries with
      | file => exact hfilled
      | types => exact hfilled
      | member hempty => exact absurd hempty hname

/-- What requests for the two interfaces leave, one after the other. -/
def registry : Registry Summary where
  cache := ⟨MutualImports.registry.cache.entries ++
    [(ir, .resolved ⟨2⟩), (ir.typesOfPackage, .resolved ⟨1⟩),
      (ir.withName "Level", .failed (.missing ⟨"hw/ir/1.0/Level.hal"⟩))]⟩
  documents := MutualImports.registry.documents ++
    [⟨ir.typesOfPackage, ⟨"hw/ir/1.0/types.hal"⟩, irTypes⟩,
      ⟨ir, ⟨"hw/ir/1.0/IIr.hal"⟩, irInterface⟩]
  parsed := MutualImports.registry.parsed ++
    [⟨"hw/ir/1.0/types.hal"⟩, ⟨"hw/ir/1.0/IIr.hal"⟩, ⟨"hw/ir/1.0/Level.hal"⟩]

theorem resolves_nfc :
    (∅ : Registry Summary).Resolves storage roots nfc (.ok (some ⟨0⟩)) MutualImports.registry :=
  ⟨2, rfl⟩

theorem resolves_ir :
    MutualImports.registry.Resolves storage roots ir (.ok (some ⟨2⟩)) registry :=
  ⟨3, rfl⟩

theorem reachable_registry : registry.Reachable {storage} roots :=
  .resolve (.resolve .refl rfl resolves_nfc) rfl resolves_ir

end TwoPackages

end HalPackages
