import HalPackages.Proofs.Resolution.Diagnostics
import HalPackages.Proofs.Resolution.Documents
import HalPackages.Proofs.Resolution.RequestedFiles
import Mathlib.Data.List.Forall2

/-!
# Nothing is lost in reporting

The documents, the failures and the number of requested files come from three
walks over the same record, each with its own idea of which files it is about.
Between calls they leave nothing out and tell nothing twice: every requested file
either is shown to a visitor or has a diagnostic, and the counts add up.
-/

namespace HalPackages

variable {Doc Declared : Type} [Document Doc Declared]

/-! ## Severities -/

/-- Only a missing file is a mere warning. -/
theorem ResolveFailure.severity_eq_warning_iff {failure : ResolveFailure} :
    failure.severity = .warning ↔ ∃ path, failure = .missing path := by
  cases failure <;> simp [severity]

theorem ResolveFailure.severity_ne_error_iff {failure : ResolveFailure} :
    failure.severity ≠ .error ↔ ∃ path, failure = .missing path := by
  cases failure <;> simp [severity]

/-- Whether a file is recorded with a document. -/
def Slot.isResolved : Slot → Bool
  | .resolved _ => true
  | _ => false

/-- Whether a file is recorded as missing. -/
def Slot.isMissing : Slot → Bool
  | .failed failure => failure.severity = .warning
  | _ => false

namespace Registry

variable {registry : Registry Doc} {roots : PackageRoots} {worlds : Set (Storage Doc)}
variable {loading : List QualifiedName} {key : QualifiedName} {failure : ResolveFailure}

/-- A file is recorded as missing. -/
def IsMissing (registry : Registry Doc) (key : QualifiedName) : Prop :=
  ∃ path, registry.slot? key = some (.failed (.missing path))

theorem isMissing_iff_any : registry.IsMissing key ↔ (registry.slot? key).any Slot.isMissing := by
  rw [IsMissing]
  cases registry.slot? key with
  | none => simp
  | some slot =>
      cases slot with
      | resolving | resolved => simp [Slot.isMissing]
      | failed failure => simp [Slot.isMissing, ResolveFailure.severity_eq_warning_iff]

instance : DecidablePred registry.IsMissing :=
  fun _ => decidable_of_iff _ isMissing_iff_any.symm

/-- Every requested file is either among the visited or among the failed ones, once, and both are in
the order of the first requests. -/
structure Accounts (registry : Registry Doc) (visited failed : List QualifiedName) : Prop where
  nodup : registry.cache.keys.Nodup
  visited_sublist : visited.Sublist registry.cache.keys
  failed_sublist : failed.Sublist registry.cache.keys
  perm : (visited ++ failed).Perm registry.cache.keys

/-- Between calls a requested file has a document or a failure. -/
theorem Consistent.isResolved_or_hasFailed (h : registry.Consistent roots [])
    (hkey : key ∈ registry.cache.keys) : registry.IsResolved key ∨ registry.HasFailed key := by
  obtain ⟨slot, hslot⟩ := OrderedMap.mem_keys_iff.1 hkey
  cases slot with
  | resolving => exact absurd hslot (h.slot_ne_resolving key)
  | resolved id => exact Or.inl ⟨id, hslot⟩
  | failed failure => exact Or.inr ⟨failure, hslot⟩

/-! ## Three walks over one record -/

theorem Consistent.map_fst_resolved (h : registry.Consistent roots loading) :
    registry.resolved.map Prod.fst =
      (registry.cache.entries.filter fun entry => entry.2.isResolved).map Prod.fst := by
  rw [resolved, List.map_filterMap, ← List.filterMap_eq_map, ← List.filterMap_eq_filter,
    List.filterMap_filterMap]
  apply List.filterMap_congr
  rintro ⟨key, slot⟩ hmem
  have hslot := (OrderedMap.mem_entries_iff h.nodup_keys).1 hmem
  cases slot with
  | resolving | failed => rfl
  | resolved id =>
      obtain ⟨entry, hentry, _⟩ := (h.resolved_iff key id).1 hslot
      simp [document?, hentry, Slot.isResolved]

theorem Consistent.map_fst_failures (h : registry.Consistent roots []) :
    registry.failures.map Prod.fst =
      (registry.cache.entries.filter fun entry => !entry.2.isResolved).map Prod.fst := by
  rw [failures, List.map_filterMap, ← List.filterMap_eq_map, ← List.filterMap_eq_filter,
    List.filterMap_filterMap]
  apply List.filterMap_congr
  rintro ⟨key, slot⟩ hmem
  have hslot := (OrderedMap.mem_entries_iff h.nodup_keys).1 hmem
  cases slot with
  | resolving => exact absurd hslot (h.slot_ne_resolving key)
  | resolved | failed => rfl

/-- The files with documents and the failed files account for all. -/
theorem Consistent.accounts (h : registry.Consistent roots []) :
    registry.Accounts (registry.resolved.map Prod.fst) (registry.failures.map Prod.fst) where
  nodup := h.nodup_keys
  visited_sublist := by
    rw [h.map_fst_resolved]
    exact List.filter_sublist.map _
  failed_sublist := by
    rw [h.map_fst_failures]
    exact List.filter_sublist.map _
  perm := by
    rw [h.map_fst_resolved, h.map_fst_failures, ← List.map_append]
    exact (List.filter_append_perm _ _).map _

/-- The diagnostics are those of the failed files, one for each. -/
theorem Consistent.describes_failures (h : registry.Consistent roots loading) :
    List.Forall₂ registry.Describes (registry.failures.map Prod.fst)
      registry.diagnostics.entries := by
  rw [diagnostics, List.forall₂_map_left_iff, List.forall₂_map_right_iff, List.forall₂_same]
  rintro ⟨key, failure⟩ hmem
  exact ⟨failure, h.mem_failures_iff.1 hmem, registry.reports_diagnostic key failure⟩

/-- The warnings are about the missing files. -/
theorem Consistent.count_warning_diagnostics (h : registry.Consistent roots loading) :
    registry.diagnostics.count .warning =
      registry.cache.keys.countP fun key => registry.IsMissing key := by
  rw [DiagnosticLog.count, diagnostics, List.countP_map, failures, List.countP_filterMap,
    OrderedMap.keys, List.countP_map]
  apply List.countP_congr
  rintro ⟨key, slot⟩ hmem
  have hslot := (OrderedMap.mem_entries_iff h.nodup_keys).1 hmem
  rw [Function.comp_apply, decide_eq_true_iff, isMissing_iff_any, slot?, hslot]
  cases slot <;> simp [Slot.isMissing, diagnostic]

/-- There are no errors when only missing files have failed. -/
theorem Consistent.hasErrors_diagnostics_eq_false_iff (h : registry.Consistent roots []) :
    registry.diagnostics.hasErrors = false ↔
      ∀ key ∈ registry.cache.keys, ¬ registry.IsResolved key → registry.IsMissing key := by
  have hseverities : registry.diagnostics.hasErrors = false ↔
      ∀ key failure, registry.slot? key = some (.failed failure) → failure.severity ≠ .error := by
    simp [DiagnosticLog.hasErrors, diagnostics, h.mem_failures_iff, diagnostic]
  rw [hseverities]
  constructor
  · intro hnone key hkey hunresolved
    obtain ⟨failure, hslot⟩ := (h.isResolved_or_hasFailed hkey).resolve_left hunresolved
    obtain ⟨path, rfl⟩ := ResolveFailure.severity_ne_error_iff.1 (hnone key failure hslot)
    exact ⟨path, hslot⟩
  · intro hmissing key failure hslot
    have hfailed : registry.HasFailed key := ⟨failure, hslot⟩
    obtain ⟨path, hpath⟩ :=
      hmissing key (OrderedMap.mem_keys_iff.2 ⟨_, hslot⟩) hfailed.not_isResolved
    rw [ResolveFailure.severity_ne_error_iff]
    exact ⟨path, Slot.failed.inj (Option.some.inj (hslot.symm.trans hpath))⟩

/-- Between calls, each requested file either is shown once to a visitor that never fails or has one
diagnostic, and both come in the order of the first requests.  So the counts add up, the
warnings are the missing files, and without errors every other file has a document. -/
theorem reporting_accounts_for_all_files (h : registry.Reachable worlds roots) {ε σ : Type}
    {visit : Visitor Doc ε σ}
    (hvisit : ∀ name document state, (runVisit (visit name document) state).1 = .ok ())
    (state : σ) :
    (∃ visited last failed,
      runVisit (registry.forDocuments visit.noting) ([], state) = (.ok (), visited, last) ∧
        registry.Accounts (visited.map Prod.fst) failed ∧
          List.Forall₂ registry.Describes failed registry.diagnostics.entries) ∧
      registry.documents.length + registry.diagnostics.size = registry.size ∧
      registry.diagnostics.count .error + registry.diagnostics.count .warning =
        registry.diagnostics.size ∧
      registry.diagnostics.count .warning =
        registry.cache.keys.countP (fun key => registry.IsMissing key) ∧
      (registry.diagnostics.hasErrors = false ↔
        ∀ key ∈ registry.cache.keys, ¬ registry.IsResolved key → registry.IsMissing key) := by
  have hconsistent := h.consistent
  have haccounts := hconsistent.accounts
  refine ⟨?_, ?_, registry.diagnostics.count_error_add_count_warning,
    hconsistent.count_warning_diagnostics, hconsistent.hasErrors_diagnostics_eq_false_iff⟩
  · obtain ⟨seen, hnoting, hsees⟩ := visit.exists_runVisit_noting registry.resolved [] state
    obtain ⟨hok, rfl⟩ := hsees.eq_of_never_fails hvisit
    rw [hok, List.nil_append] at hnoting
    exact ⟨registry.resolved, _, registry.failures.map Prod.fst, hnoting, haccounts,
      hconsistent.describes_failures⟩
  · have hdocuments := hconsistent.resolved_perm.length_eq
    have hkeys := haccounts.perm.length_eq
    rw [List.length_map] at hdocuments
    rw [List.length_append, List.length_map, List.length_map, OrderedMap.keys,
      List.length_map] at hkeys
    rw [← hdocuments, DiagnosticLog.size, diagnostics, List.length_map]
    exact hkeys

end Registry

namespace MissingImport

open MutualImports (roots)

/-- What is reported of the interface, which imports a name that is not there. -/
def uwbDiagnostic : Diagnostic where
  severity := .error
  path := some ⟨"hw/uwb/1.0/IUwb.hal"⟩
  position := none
  code := some "E0005"
  message := "cannot resolve 'hw.uwb@1.0::IUwb': file at 'hw/uwb/1.0/IUwb.hal' imports " ++
    "'hw.uwb@1.0::Gone', which could not be resolved"
  notes := [⟨none, "'hw.uwb@1.0::Gone': file at 'hw/uwb/1.0/Gone.hal' does not exist"⟩]

/-- A visitor that counts the documents that it is shown. -/
def counting : Visitor Summary Empty Nat :=
  fun _ _ => modify (· + 1)

theorem reporting_uwb :
    registry.Reachable {storage} roots ∧
      (∀ name document state, (runVisit (counting name document) state).1 = .ok ()) ∧
      (∃ visited last failed,
        runVisit (registry.forDocuments counting.noting) ([], 0) = (.ok (), visited, last) ∧
          registry.Accounts (visited.map Prod.fst) failed ∧
            List.Forall₂ registry.Describes failed registry.diagnostics.entries) ∧
      uwbDiagnostic ∈ registry.diagnostics.entries ∧ registry.Describes uwb uwbDiagnostic ∧
      registry.documents.length = 1 ∧ registry.diagnostics.size = 4 ∧ registry.size = 5 ∧
      registry.diagnostics.count .warning = 3 ∧ registry.diagnostics.hasErrors = true := by
  have hreachable : registry.Reachable {storage} roots := .resolve .refl rfl resolves_uwb
  have hvisit : ∀ name document state,
      (runVisit (counting name document) state).1 = .ok () := fun _ _ _ => rfl
  obtain ⟨haccounts, hsize, _, hwarnings, herrors⟩ :=
    Registry.reporting_accounts_for_all_files hreachable hvisit 0
  have hdescribes : registry.Describes uwb uwbDiagnostic :=
    Registry.describes_iff.2 ⟨_, rfl, by decide +kernel⟩
  refine ⟨hreachable, hvisit, haccounts, by decide +kernel, hdescribes, rfl,
    Nat.add_left_cancel hsize, rfl, hwarnings, ?_⟩
  rw [← Bool.not_eq_false, herrors]
  intro hmissing
  obtain ⟨path, hslot⟩ := hmissing uwb List.mem_cons_self (by rintro ⟨id, hslot⟩; cases hslot)
  cases hslot

end MissingImport

end HalPackages
