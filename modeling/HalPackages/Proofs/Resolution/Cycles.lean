import HalPackages.Proofs.Resolution.Grounds

/-!
# Circular imports are circular

A file is found to be pending by a look at what is recorded of it, and not at the
files that are being loaded.  Still an import is reported as circular only if a
file that is tried for it leads back to the file that imports it: what is recorded
as being resolved is the stack of files that are being loaded, and each of them
depends on the next one in.
-/

namespace HalPackages

open Relation

variable {Doc Declared : Type} [Document Doc Declared]

/-- A file has an import for which a file is tried that leads back to it. -/
def Storage.ImportsBack (storage : Storage Doc) (roots : PackageRoots) (key : QualifiedName)
    (path : Path) (imported : QualifiedName) : Prop :=
  ∃ document other, storage.IsFile roots key path document ∧
    imported ∈ Document.importsFor document key ∧ storage.Tries roots imported other ∧
      storage.DependsOn roots key other ∧ ReflTransGen (storage.DependsOn roots) other key

namespace Registry

variable {storage : Storage Doc} {roots : PackageRoots} {registry : Registry Doc}
variable {key imported : QualifiedName} {path : Path}

/-- A file that comes to blame a circular import has one. -/
theorem importsBack_of_ends_load
    (h : (storage.load roots key).Ends (registry.Supports storage roots key)
      (.ok (.error (.circularImport path imported)))) :
    storage.ImportsBack roots key path imported := by
  obtain ⟨path', document, reason, hfailure, hfile, himports⟩ :=
    Storage.exists_isFile_of_ends_load rfl h
  cases reason with
  | failed => contradiction
  | pending =>
      rw [Storage.importFailure, ResolveFailure.circularImport.injEq] at hfailure
      obtain ⟨rfl, _⟩ := hfailure
      obtain ⟨before, after, hnames, _, hends⟩ := Storage.exists_first_of_ends_importAll himports
      have himported : imported ∈ Document.importsFor document key := by
        rw [hnames]
        exact List.mem_append_right before List.mem_cons_self
      have hpackage := Document.isPackage_iff_of_mem_importsFor hfile.1 himported
      obtain ⟨other, htries, hsupports⟩ := Storage.exists_pending_of_ends_importOne hpackage hends
      exact ⟨document, other, hfile, himported, htries, hsupports.dependsOn,
        hsupports.leads_back⟩

/-- A recorded circular import leads back to the file that has it. -/
theorem Grounded.importsBack (h : registry.Grounded storage roots)
    (hslot : registry.slot? key = some (.failed (.circularImport path imported))) :
    storage.ImportsBack roots key path imported := by
  generalize heq : Slot.failed (.circularImport path imported) = slot at hslot
  have hne : slot ≠ .resolving := by
    rintro rfl
    contradiction
  revert heq
  -- The files alone decide whether an import leads back, so what happens later does not matter.
  apply h.settled_induction (fun _ hkept => hkept) _ key slot hslot hne
  rintro registry key result slot _ _ hresult hrecorded rfl
  rcases eq_of_slot?_settle_failed hrecorded with rfl | ⟨cause, hconfig, _⟩
  · exact importsBack_of_ends_load hresult
  · contradiction

end Registry

namespace Moment

variable {storage : Storage Doc} {roots : PackageRoots} {moment : Moment Doc}

/-- Each file that is being loaded depends on the next one in. -/
theorem Linked.isChain_loading (h : moment.Linked storage roots) :
    moment.loading.IsChain fun inner outer => storage.DependsOn roots outer inner := by
  obtain ⟨task, waiting, registry⟩ := moment
  cases task with
  | request key => exact Stacked.isChain_waiting h
  | load key plan => exact h.2.isChain
  | answer answer =>
      cases waiting with
      | nil => exact .nil
      | cons file waiting =>
          obtain ⟨_, _, hstack⟩ := h
          exact hstack.isChain_waiting

/-- At every moment of every call, a circular import that is recorded leads back to the file that
has it; and the files that are being resolved are those on the stack of files that are being
loaded, each of which depends on the next one in. -/
theorem circular_imports_lead_back (h : moment.Occurs storage roots) :
    (∀ key path imported,
      moment.registry.slot? key = some (.failed (.circularImport path imported)) →
        ∃ document other, storage.IsFile roots key path document ∧
          imported ∈ Document.importsFor document key ∧ storage.Tries roots imported other ∧
            storage.DependsOn roots key other ∧
              ReflTransGen (storage.DependsOn roots) other key) ∧
      (∀ key, moment.registry.slot? key = some .resolving ↔ key ∈ moment.loading) ∧
      moment.loading.Nodup ∧
      moment.loading.IsChain fun inner outer => storage.DependsOn roots outer inner := by
  obtain ⟨hsound, hlinked, hgrounded⟩ := h.grounded
  refine ⟨?_, hsound.consistent.resolving_iff, hsound.consistent.nodup_loading,
    hlinked.isChain_loading⟩
  intro key path imported hslot
  exact hgrounded.importsBack hslot

end Moment

namespace MutualImports

/-- A request for the interface when its types have come to nothing and the interface itself is
still being loaded. -/
def typesFailed : Moment Summary where
  task := .answer (.ok (.error .failed))
  waiting := [⟨nfc, fun _ => storage.loadFile roots nfc⟩]
  registry := {
    cache := ⟨[(nfc, .resolving),
      (nfc.typesOfPackage, .failed (.circularImport ⟨"hw/nfc/1.0/types.hal"⟩ nfc))]⟩
    documents := []
    parsed := [⟨"hw/nfc/1.0/types.hal"⟩] }

theorem occurs_typesFailed : typesFailed.Occurs storage roots := by
  have hstart : Leads storage roots (.ofCall ∅ nfc)
      ⟨.request nfc.typesOfPackage, [⟨nfc, fun _ => storage.loadFile roots nfc⟩],
        (∅ : Registry Summary).start nfc⟩ :=
    .tail (.single (.start rfl)) .ask
  have htypes : storage.requestWithin roots 1 nfc.typesOfPackage
      ((∅ : Registry Summary).start nfc) =
        some (.ok (.error .failed), typesFailed.registry) := rfl
  exact ⟨∅, nfc, .refl, hstart.trans (runWithin_request htypes (Nat.le_refl 2)).leads⟩

theorem types_import_back :
    typesFailed.Occurs storage roots ∧
      (∃ document other,
        storage.IsFile roots nfc.typesOfPackage ⟨"hw/nfc/1.0/types.hal"⟩ document ∧
          nfc ∈ Document.importsFor document nfc.typesOfPackage ∧
            storage.Tries roots nfc other ∧
              storage.DependsOn roots nfc.typesOfPackage other ∧
                ReflTransGen (storage.DependsOn roots) other nfc.typesOfPackage) ∧
      typesFailed.registry.slot? nfc = some .resolving := by
  obtain ⟨hback, hresolving, _, _⟩ := Moment.circular_imports_lead_back occurs_typesFailed
  refine ⟨occurs_typesFailed, hback nfc.typesOfPackage _ nfc rfl, ?_⟩
  exact (hresolving nfc).2 List.mem_cons_self

end MutualImports

end HalPackages
