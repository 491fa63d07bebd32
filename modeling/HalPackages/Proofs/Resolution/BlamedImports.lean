import HalPackages.Proofs.Resolution.Grounds

/-!
# The right import is blamed

The imports of a file are gone through in order, and loading ends at the first one
that is not satisfied.  Other files are loaded in between, so the record changes
while this goes on.  Still the import that is blamed in the end is the first one
that is not satisfied by what is recorded; and if it is not a circular import, no
later request can satisfy it.
-/

namespace HalPackages

open Relation

variable {Doc Declared : Type} [Document Doc Declared]

namespace Storage

section Imports

variable (storage : Storage Doc) (roots : PackageRoots)

/-- Files with a property keep an import from being satisfied: the file that it names and the types
of its package both have the property, or a package that is imported as a whole has no files or one
with the property. -/
structure Blocked (failed : QualifiedName → Prop) (imported : QualifiedName) : Prop where
  named : imported.localName ≠ "" → failed imported.fileIdentity ∧ failed imported.typesOfPackage
  whole : imported.localName = "" → ∃ files, storage.packageFiles roots imported = .ok files ∧
    (files = [] ∨ ∃ file ∈ files, failed file)

end Imports

variable {storage : Storage Doc} {roots : PackageRoots} {answers : Answers}
variable {failed failed' resolved : QualifiedName → Prop} {imported : QualifiedName}

theorem Blocked.mono (h : storage.Blocked roots failed imported)
    (hmono : ∀ file, failed file → failed' file) : storage.Blocked roots failed' imported where
  named hname := (h.named hname).imp (hmono _) (hmono _)
  whole hname := by
    obtain ⟨files, hfiles, hblocked⟩ := h.whole hname
    refine ⟨files, hfiles, hblocked.imp_right ?_⟩
    rintro ⟨file, hfile, hfailed⟩
    exact ⟨file, hfile, hmono file hfailed⟩

/-- An import is found to have failed because of files that were found to have failed. -/
theorem blocked_of_ends_importOne (hpackage : imported.IsPackage ↔ imported.localName = "")
    (h : (storage.importOne roots imported).Ends answers (.ok (some .failed))) :
    storage.Blocked roots (fun file => answers file (.ok (.error .failed))) imported := by
  rw [importOne] at h
  split at h
  · rename_i hname
    refine ⟨fun hne => absurd (hpackage.1 hname) hne, fun _ => ?_⟩
    obtain ⟨files, hfiles, ⟨hempty, _⟩ | ⟨_, hall⟩⟩ := exists_files_of_ends_importPackage h
    · exact ⟨files, hfiles, Or.inl hempty⟩
    · exact ⟨files, hfiles, Or.inr (exists_answer_of_ends_requestAll hall)⟩
  · rename_i hname
    rw [hpackage] at hname
    exact ⟨fun _ => failed_of_ends_importName h, fun heq => absurd heq hname⟩

end Storage

namespace Registry

/-- A file has a document. -/
def IsResolved (registry : Registry Doc) (file : QualifiedName) : Prop :=
  ∃ id, registry.slot? file = some (.resolved id)

/-- A file has failed. -/
def HasFailed (registry : Registry Doc) (file : QualifiedName) : Prop :=
  ∃ failure, registry.slot? file = some (.failed failure)

/-- A file that blames an import has it, all imports that are written before it are satisfied, and
if it is not circular, no file can satisfy it any more. -/
def BlamesRightly (storage : Storage Doc) (roots : PackageRoots) (registry : Registry Doc)
    (key : QualifiedName) (slot : Slot) : Prop :=
  ∀ path imported reason, slot = .failed (Storage.importFailure path imported reason) →
    ∃ document before after, storage.IsFile roots key path document ∧
      Document.importsFor document key = before ++ imported :: after ∧
        (∀ name ∈ before, storage.Satisfied roots registry.IsResolved name) ∧
          (reason = .failed → storage.Blocked roots registry.HasFailed imported)

variable {storage : Storage Doc} {roots : PackageRoots} {registry earlier later : Registry Doc}
variable {key other imported : QualifiedName} {slot : Slot} {path : Path}

theorem HasFailed.not_isResolved (h : registry.HasFailed key) : ¬ registry.IsResolved key := by
  rintro ⟨id, hresolved⟩
  obtain ⟨failure, hfailed⟩ := h
  rw [hfailed] at hresolved
  simp at hresolved

theorem GrowsOn.isResolved (hgrows : earlier.GrowsOn storage later) (h : earlier.IsResolved key) :
    later.IsResolved key := by
  obtain ⟨id, hslot⟩ := h
  exact ⟨id, hgrows.slots key _ hslot (by simp)⟩

theorem GrowsOn.hasFailed (hgrows : earlier.GrowsOn storage later) (h : earlier.HasFailed key) :
    later.HasFailed key := by
  obtain ⟨failure, hslot⟩ := h
  exact ⟨failure, hgrows.slots key _ hslot (by simp)⟩

/-- A document that is given belongs to a resolved file. -/
theorem Supports.isResolved
    (h : Answers.Gives (registry.Supports storage roots key) other) :
    registry.IsResolved other := by
  obtain ⟨id, hsupports⟩ := h
  exact ⟨id, hsupports.slot?_eq⟩

/-- A file that is answered to have failed is recorded so. -/
theorem Supports.hasFailed
    (h : registry.Supports storage roots key other (.ok (.error .failed))) :
    registry.HasFailed other := by
  generalize hanswer : (Except.ok (.error .failed) : Except ConfigError Outcome) = answer at h
  cases h with
  | pending => simp at hanswer
  | @recorded slot _ hslot hne =>
      cases slot with
      | resolving => exact absurd rfl hne
      | resolved id => simp [Slot.answer] at hanswer
      | failed failure => exact ⟨failure, hslot⟩

theorem BlamesRightly.mono (hgrows : earlier.GrowsOn storage later)
    (h : earlier.BlamesRightly storage roots key slot) :
    later.BlamesRightly storage roots key slot := by
  intro path imported reason hslot
  obtain ⟨document, before, after, hfile, hnames, hbefore, hblocked⟩ :=
    h path imported reason hslot
  refine ⟨document, before, after, hfile, hnames, ?_, ?_⟩
  · intro name hname
    exact (hbefore name hname).mono fun _ => hgrows.isResolved
  · intro hreason
    exact (hblocked hreason).mono fun _ => hgrows.hasFailed

/-- A file that comes to blame an import rightly does so. -/
theorem blamesRightly_settle {result : Except ConfigError (Loaded Doc)}
    (hkey : registry.slot? key = some .resolving)
    (hresult : (storage.load roots key).Ends (registry.Supports storage roots key) result)
    (hslot : (registry.settle key result).2.slot? key = some slot) :
    (registry.settle key result).2.BlamesRightly storage roots key slot := by
  rintro path imported reason rfl
  have hgrows := growsOn_settle_of_ends hkey hresult
  rcases eq_of_slot?_settle_failed hslot with rfl | ⟨cause, hconfig, _⟩
  · obtain ⟨path', document, reason', heq, hfile, himports⟩ :=
      Storage.exists_isFile_of_ends_load (Storage.imported?_importFailure _ _ _) hresult
    obtain ⟨rfl, rfl⟩ : path = path' ∧ reason = reason' := by
      cases reason <;> cases reason' <;> simp_all [Storage.importFailure]
    obtain ⟨before, after, hnames, hbefore, hends⟩ :=
      Storage.exists_first_of_ends_importAll himports
    have hpackage (name : QualifiedName) (hname : name ∈ before ++ imported :: after) :
        name.IsPackage ↔ name.localName = "" := by
      rw [← hnames] at hname
      exact Document.isPackage_iff_of_mem_importsFor hfile.1 hname
    refine ⟨document, before, after, hfile, hnames, ?_, ?_⟩
    · intro name hname
      have hsatisfied := Storage.satisfied_of_ends_importOne
        (hpackage name (List.mem_append_left _ hname)) (hbefore name hname)
      exact hsatisfied.mono fun _ hgives => hgrows.isResolved (Supports.isResolved hgives)
    · rintro rfl
      have hblocked := Storage.blocked_of_ends_importOne
        (hpackage imported (List.mem_append_right _ List.mem_cons_self)) hends
      exact hblocked.mono fun _ hsupports => hgrows.hasFailed (Supports.hasFailed hsupports)
  · exact absurd hconfig (Storage.isOfFile_importFailure path imported reason cause)

end Registry

namespace Moment

variable {storage : Storage Doc} {roots : PackageRoots} {moment : Moment Doc}
variable {key imported : QualifiedName} {path : Path} {failure : ResolveFailure}

end Moment

/-! ## An interface with one import too many -/

namespace MissingImport

open MutualImports (roots)

/-- An interface that imports one of the types of another package, which is there, and a name that
is declared nowhere. -/
def uwb : QualifiedName := ⟨"hw.uwb", "@1.0", "IUwb"⟩

def uwbInterface : Summary :=
  ⟨⟨"hw.uwb", "@1.0", ""⟩, some "IUwb", [⟨"hw.ir", "@1.0", "Level"⟩, ⟨"", "", "Gone"⟩], ["IUwb"]⟩

def storage : Storage Summary where
  parse path :=
    if path = ⟨"hw/uwb/1.0/IUwb.hal"⟩ then .ok uwbInterface else TwoPackages.storage.parse path
  list := TwoPackages.storage.list

/-- What a request for the interface leaves. -/
def registry : Registry Summary where
  cache := ⟨[
    (uwb, .failed (.unresolvedImport ⟨"hw/uwb/1.0/IUwb.hal"⟩ (uwb.withName "Gone"))),
    (uwb.typesOfPackage, .failed (.missing ⟨"hw/uwb/1.0/types.hal"⟩)),
    (⟨"hw.ir", "@1.0", "Level"⟩, .failed (.missing ⟨"hw/ir/1.0/Level.hal"⟩)),
    (⟨"hw.ir", "@1.0", "types"⟩, .resolved ⟨0⟩),
    (uwb.withName "Gone", .failed (.missing ⟨"hw/uwb/1.0/Gone.hal"⟩))]⟩
  documents := [⟨⟨"hw.ir", "@1.0", "types"⟩, ⟨"hw/ir/1.0/types.hal"⟩, TwoPackages.irTypes⟩]
  parsed := [⟨"hw/uwb/1.0/types.hal"⟩, ⟨"hw/uwb/1.0/IUwb.hal"⟩, ⟨"hw/ir/1.0/types.hal"⟩,
    ⟨"hw/ir/1.0/Level.hal"⟩, ⟨"hw/uwb/1.0/Gone.hal"⟩]

theorem resolves_uwb :
    (∅ : Registry Summary).Resolves storage roots uwb (.ok none) registry :=
  ⟨3, rfl⟩

end MissingImport

end HalPackages
