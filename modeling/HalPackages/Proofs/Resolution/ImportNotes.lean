import HalPackages.Proofs.Resolution.Reporting

/-!
# Notes on imports

When an import fails, the cause is not kept with the file that blames it.  It is
looked up only when the registry is reported on, possibly many calls later and with
other files on disk, under the one file that the import names.  For the import of a
name there is always something to be found: that file and the types of its package
had failed by then, and failures are kept.

An import of a whole package is tried under other names, those of the files in its
directory.  What failed there is recorded as well, but it is not where the note is
looked up.
-/

namespace HalPackages

variable {Doc Declared : Type} [Document Doc Declared]

namespace Registry

section Causes

variable (worlds : Set (Storage Doc)) (roots : PackageRoots) (registry : Registry Doc)

/-- What kept an import from being satisfied is recorded, if the import is blamed and is not
circular.  The directory of a package may have been any of those that were there. -/
def CauseRecorded (slot : Slot) : Prop :=
  ∀ path imported, slot = .failed (.unresolvedImport path imported) →
    ∃ storage ∈ worlds, storage.Blocked roots registry.HasFailed imported

/-- The causes are recorded of all imports that are blamed. -/
def CausesRecorded : Prop :=
  ∀ key slot, registry.slot? key = some slot → registry.CauseRecorded worlds roots slot

end Causes

variable {storage : Storage Doc} {roots : PackageRoots} {registry earlier later : Registry Doc}
variable {worlds : Set (Storage Doc)} {key imported : QualifiedName} {slot : Slot} {path : Path}

theorem CauseRecorded.mono (hgrows : earlier.GrowsOn storage later)
    (h : earlier.CauseRecorded worlds roots slot) : later.CauseRecorded worlds roots slot := by
  intro path imported hslot
  obtain ⟨listed, hworlds, hblocked⟩ := h path imported hslot
  exact ⟨listed, hworlds, hblocked.mono fun _ => hgrows.hasFailed⟩

/-- A registry that grows keeps the causes if it records them for one file more. -/
theorem CausesRecorded.mono (hgrows : earlier.GrowsOn storage later)
    (hothers : ∀ other, key ≠ other → later.slot? other = earlier.slot? other)
    (hkey : ∀ slot, later.slot? key = some slot → later.CauseRecorded worlds roots slot)
    (h : earlier.CausesRecorded worlds roots) : later.CausesRecorded worlds roots := by
  intro other slot hslot
  by_cases hother : key = other
  · subst hother
    exact hkey slot hslot
  · rw [hothers other hother] at hslot
    exact (h other slot hslot).mono hgrows

theorem CausesRecorded.start (storage : Storage Doc) (h : registry.CausesRecorded worlds roots)
    (hslot : registry.slot? key = none) : (registry.start key).CausesRecorded worlds roots := by
  apply h.mono (growsOn_start storage hslot)
  · intro other hne
    rw [slot?_start, if_neg hne]
  · rintro slot hstarted path imported rfl
    rw [slot?_start, if_pos rfl] at hstarted
    cases hstarted

/-- A file that comes to blame an import does so because of files that have failed. -/
theorem CausesRecorded.settle {result : Except ConfigError (Loaded Doc)}
    (h : registry.CausesRecorded worlds roots) (hworlds : storage ∈ worlds)
    (hslot : registry.slot? key = some .resolving)
    (hresult : (storage.load roots key).Ends (registry.Supports storage roots key) result) :
    (registry.settle key result).2.CausesRecorded worlds roots := by
  apply h.mono (growsOn_settle_of_ends hslot hresult)
  · intro other hne
    exact slot?_settle_of_ne hne
  · rintro slot hsettled path imported rfl
    obtain ⟨_, _, _, _, _, _, hblocked⟩ :=
      blamesRightly_settle hslot hresult hsettled path imported .failed rfl
    exact ⟨storage, hworlds, hblocked rfl⟩

end Registry

section Steps

variable {storage : Storage Doc} {roots : PackageRoots} {worlds : Set (Storage Doc)}
variable {first second : Moment Doc}

/-- What holds at every moment of a call when the files may have changed before it. -/
structure Moment.Caused (worlds : Set (Storage Doc)) (storage : Storage Doc) (roots : PackageRoots)
    (moment : Moment Doc) : Prop where
  sound : moment.Sound storage roots
  linked : moment.Linked storage roots
  causes : moment.registry.CausesRecorded worlds roots

theorem Step.causesRecorded (hstep : Step storage roots first second) (hworlds : storage ∈ worlds)
    (hsound : first.Sound storage roots) (hlinked : first.Linked storage roots)
    (h : first.registry.CausesRecorded worlds roots) :
    second.registry.CausesRecorded worlds roots := by
  cases hstep with
  | recorded | ask | resume | parse => exact h
  | start hslot => exact h.start storage hslot
  | finish => exact h.settle hworlds (hsound.slot?_loading List.mem_cons_self) (hlinked.1.ends rfl)
  | abort => exact h.settle hworlds (hsound.slot?_loading List.mem_cons_self) (hlinked.1.ends rfl)
  | propagate =>
      obtain ⟨awaited, hsupports, hplan, _⟩ := hlinked
      apply h.settle hworlds (hsound.slot?_loading List.mem_cons_self)
      exact hplan.ends (Or.inr ⟨_, hsupports, rfl⟩)

theorem Leads.caused (hleads : Leads storage roots first second) (hworlds : storage ∈ worlds)
    (h : first.Caused worlds storage roots) : second.Caused worlds storage roots := by
  induction hleads with
  | refl => exact h
  | tail _ hstep ih =>
      exact ⟨hstep.sound ih.sound, hstep.linked ih.sound ih.linked,
        hstep.causesRecorded hworlds ih.sound ih.linked ih.causes⟩

end Steps

namespace Registry

variable {registry : Registry Doc} {roots : PackageRoots} {worlds : Set (Storage Doc)}
variable {key imported : QualifiedName} {path : Path}

/-- Calls leave the causes of the failures that they record. -/
theorem Reachable.causesRecorded (h : registry.Reachable worlds roots) :
    registry.CausesRecorded worlds roots := by
  induction h with
  | refl =>
      intro key slot hslot
      rw [slot?_empty] at hslot
      contradiction
  | tail hreaches hcall ih =>
      obtain ⟨storage, hworlds, name, result, hcall⟩ := hcall
      obtain ⟨outcome, _, hleads⟩ := hcall.leads
      refine (hleads.caused hworlds ⟨?_, Moment.linked_ofCall _ name, ?_⟩).causes
      · exact Moment.sound_ofCall (Reachable.consistent hreaches) name
      · rw [Moment.registry_ofCall]
        exact ih

/-- A failed file has its diagnostic in the log. -/
theorem Consistent.exists_reports {loading : List QualifiedName} {failure : ResolveFailure}
    (h : registry.Consistent roots loading) (hslot : registry.slot? key = some (.failed failure)) :
    ∃ diagnostic ∈ registry.diagnostics.entries, registry.Reports key failure diagnostic := by
  refine ⟨registry.diagnostic key failure, ?_, registry.reports_diagnostic key failure⟩
  exact List.mem_map.2 ⟨(key, failure), h.mem_failures_iff.2 hslot, rfl⟩

/-- Between calls, a file that blames an import, though it is not circular, has a diagnostic.  If a
name is imported, the diagnostic has one note, which gives the name and the failure that is
recorded of the file that was tried first for it; what was tried next, the types of the package,
has failed as well.  If a whole package is imported, a file in its directory has failed, unless
the directory was empty; but there is no note, unless a file without a name has failed. -/
theorem import_failures_carry_causes (h : registry.Reachable worlds roots)
    (hslot : registry.slot? key = some (.failed (.unresolvedImport path imported))) :
    ∃ diagnostic ∈ registry.diagnostics.entries, registry.Describes key diagnostic ∧
      (imported.localName ≠ "" → registry.HasFailed imported.typesOfPackage ∧
        ∃ cause, registry.slot? imported.fileIdentity = some (.failed cause) ∧
          diagnostic.notes = [⟨none, "'" ++ imported.render ++ "': " ++ cause.message⟩]) ∧
      (imported.localName = "" →
        (¬ registry.HasFailed imported.fileIdentity → diagnostic.notes = []) ∧
          ∃ storage ∈ worlds, ∃ files, storage.packageFiles roots imported = .ok files ∧
            (files = [] ∨ ∃ file ∈ files, registry.HasFailed file)) := by
  obtain ⟨storage, hworlds, hblocked⟩ := h.causesRecorded key _ hslot path imported rfl
  obtain ⟨diagnostic, hmem, hreports⟩ := h.consistent.exists_reports hslot
  refine ⟨diagnostic, hmem, ⟨_, hslot, hreports⟩, ?_, ?_⟩
  · intro hname
    obtain ⟨⟨cause, hcause⟩, htypes⟩ := hblocked.named hname
    exact ⟨htypes, cause, hcause, hreports.note imported cause (.unresolved path imported) hcause⟩
  · intro hname
    refine ⟨fun hunfailed => hreports.no_note ?_, storage, hworlds, hblocked.whole hname⟩
    intro other hblames
    cases hblames
    exact hunfailed

end Registry

namespace MissingImport

open MutualImports (roots)

theorem note_on_gone :
    registry.Reachable {storage} roots ∧
      registry.slot? uwb =
        some (.failed (.unresolvedImport ⟨"hw/uwb/1.0/IUwb.hal"⟩ (uwb.withName "Gone"))) ∧
      ∃ diagnostic ∈ registry.diagnostics.entries, registry.Describes uwb diagnostic ∧
        diagnostic.notes = [⟨none,
          "'hw.uwb@1.0::Gone': file at 'hw/uwb/1.0/Gone.hal' does not exist"⟩] := by
  have hreachable : registry.Reachable {storage} roots := .resolve .refl rfl resolves_uwb
  have hslot : registry.slot? uwb =
      some (.failed (.unresolvedImport ⟨"hw/uwb/1.0/IUwb.hal"⟩ (uwb.withName "Gone"))) := rfl
  obtain ⟨diagnostic, hmem, hdescribes, hnamed, _⟩ :=
    Registry.import_failures_carry_causes hreachable hslot
  obtain ⟨_, cause, hcause, hnotes⟩ := hnamed (by decide)
  obtain rfl : ResolveFailure.missing ⟨"hw/uwb/1.0/Gone.hal"⟩ = cause :=
    Slot.failed.inj (Option.some.inj hcause)
  exact ⟨hreachable, hslot, diagnostic, hmem, hdescribes, hnotes⟩

end MissingImport

/-! ## A package with a broken member -/

namespace BrokenMember

/-- The types of one package import another package as a whole, and the only file there is empty. -/
def tree : FileTree :=
  .ofFiles [] [
    (⟨"hw/b/1.0/types.hal"⟩, "package hw.b@1.0;\nimport hw.a@1.0;\n".toUTF8),
    (⟨"hw/a/1.0/IA.hal"⟩, "".toUTF8)]

def roots : PackageRoots := ⟨[⟨"hw", "hw"⟩]⟩

/-- The file that imports the package. -/
def importer : QualifiedName := ⟨"hw.b", "@1.0", "types"⟩

/-- The imported package. -/
def imported : QualifiedName := ⟨"hw.a", "@1.0", ""⟩

/-- What a request for the types leaves. -/
def registry : Registry SourceFile :=
  ((∅ : Registry SourceFile).resolve tree.sources roots importer).2

/-- A package import has failed because of a file whose failure is recorded, and no diagnostic about
the file that imports it has a note. -/
theorem package_import_without_note :
    registry.Reachable {tree.sources.toStorage} roots ∧
      registry.slot? importer =
        some (.failed (.unresolvedImport ⟨"hw/b/1.0/types.hal"⟩ imported)) ∧
      tree.sources.packageFiles roots imported = .ok [imported.withName "IA"] ∧
      registry.HasFailed (imported.withName "IA") ∧
      ∀ diagnostic, registry.Describes importer diagnostic → diagnostic.notes = [] := by
  have hevaluated : registry.slot? importer =
        some (.failed (.unresolvedImport ⟨"hw/b/1.0/types.hal"⟩ imported)) ∧
      registry.slot? (imported.withName "IA") =
        some (.failed (.parse (.malformed ⟨"hw/a/1.0/IA.hal"⟩ ⟨0, 0⟩
          "expected 'package', found end of file"))) ∧
      registry.slot? imported.fileIdentity = none := by decide +kernel
  obtain ⟨hslot, hmember, hpackage⟩ := hevaluated
  refine ⟨.resolve .refl rfl (Registry.resolves_resolve _ _ _ _), hslot, by decide +kernel,
    ⟨_, hmember⟩, ?_⟩
  rintro diagnostic ⟨failure, hfailed, hreports⟩
  obtain rfl : ResolveFailure.unresolvedImport ⟨"hw/b/1.0/types.hal"⟩ imported = failure :=
    Slot.failed.inj (Option.some.inj (hslot.symm.trans hfailed))
  apply hreports.no_note
  rintro _ ⟨⟩ ⟨cause, hcause⟩
  rw [hpackage] at hcause
  contradiction

end BrokenMember

end HalPackages
