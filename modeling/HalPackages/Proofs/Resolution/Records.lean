import HalPackages.Proofs.Resolution.Dependencies
import HalPackages.Proofs.Resolution.Growth

/-!
# Records without numbers

The number of a document tells when it was completed and nothing about the
document.  The record of a file says all that a registry knows of the file except
for this number.
-/

namespace HalPackages

variable {Doc Declared : Type} [Document Doc Declared]

/-- What a file comes to: a document with its name and its path, or a failure. -/
abbrev Verdict (Doc : Type) := Except ResolveFailure (DocumentEntry Doc)

/-- What a registry knows of a requested file, whatever the number of its document. -/
inductive FileRecord (Doc : Type) where
  | resolving
  | settled (verdict : Verdict Doc)

/-- The verdict on a file that was loaded. -/
def Verdict.ofLoaded (key : QualifiedName) : Except ConfigError (Loaded Doc) → Verdict Doc
  | .error cause => .error (.config cause)
  | .ok (.error failure) => .error failure
  | .ok (.ok (path, document)) => .ok ⟨key, path, document⟩

/-- The kind of answer that requests for a file with a verdict get. -/
def Verdict.kind : Verdict Doc → Except ConfigError (Except Unresolved Unit)
  | .ok _ => .ok (.ok ())
  | .error (.config cause) => .error cause
  | .error _ => .ok (.error .failed)

/-- The kind of answer that requests for a file with a record get. -/
def FileRecord.kind : FileRecord Doc → Except ConfigError (Except Unresolved Unit)
  | .resolving => .ok (.error .pending)
  | .settled verdict => verdict.kind

namespace Registry

/-- The record of a file, if it was ever requested. -/
def record? (registry : Registry Doc) (key : QualifiedName) : Option (FileRecord Doc) :=
  match registry.slot? key with
  | none => none
  | some .resolving => some .resolving
  | some (.failed failure) => some (.settled (.error failure))
  | some (.resolved id) => (registry.entry? id).map fun entry => .settled (.ok entry)

variable {registry earlier later : Registry Doc} {storage : Storage Doc}
variable {key other : QualifiedName}

theorem record?_of_slot_eq_none (hslot : registry.slot? key = none) :
    registry.record? key = none := by
  rw [record?, hslot]

theorem record?_of_resolving (hslot : registry.slot? key = some .resolving) :
    registry.record? key = some .resolving := by
  rw [record?, hslot]

theorem record?_of_failed {failure : ResolveFailure}
    (hslot : registry.slot? key = some (.failed failure)) :
    registry.record? key = some (.settled (.error failure)) := by
  rw [record?, hslot]

theorem record?_of_resolved {id : DocumentId} {entry : DocumentEntry Doc}
    (hslot : registry.slot? key = some (.resolved id)) (hentry : registry.entry? id = some entry) :
    registry.record? key = some (.settled (.ok entry)) := by
  simp only [record?, hslot, hentry, Option.map_some]

/-- What a request is answered depends only on the record of the file, apart from the number of its
document. -/
theorem kind_answer_of_record? {record : FileRecord Doc} {slot : Slot}
    (hrecord : registry.record? key = some record) (hslot : registry.slot? key = some slot) :
    slot.answer.map Outcome.kind = record.kind := by
  rw [record?, hslot] at hrecord
  cases slot with
  | resolving =>
      rw [← Option.some.inj hrecord]
      rfl
  | resolved id =>
      obtain ⟨entry, _, rfl⟩ := Option.map_eq_some_iff.1 hrecord
      rfl
  | failed failure =>
      rw [← Option.some.inj hrecord]
      cases failure <;> rfl

theorem record?_settle_self (registry : Registry Doc) (key : QualifiedName)
    (result : Except ConfigError (Loaded Doc)) :
    (registry.settle key result).2.record? key = some (.settled (.ofLoaded key result)) := by
  rcases result with cause | failure | ⟨path, document⟩
  · exact record?_of_failed (by rw [settle, slot?_fail, if_pos rfl])
  · exact record?_of_failed (by rw [settle, slot?_fail, if_pos rfl])
  · apply record?_of_resolved
    · rw [settle, slot?_install, if_pos rfl]
    · exact entry?_install_eq_some_iff.2 (Or.inr ⟨rfl, rfl⟩)

theorem record?_start (registry : Registry Doc) (key other : QualifiedName) :
    (registry.start key).record? other =
      if key = other then some .resolving else registry.record? other := by
  by_cases hkey : key = other
  · rw [if_pos hkey]
    exact record?_of_resolving (by rw [slot?_start, if_pos hkey])
  · rw [if_neg hkey, record?, slot?_start, if_neg hkey]
    rfl

/-! ## Numbers in range -/

/-- Every resolved file has the number of a document. -/
def InRange (registry : Registry Doc) : Prop :=
  ∀ key id, registry.slot? key = some (.resolved id) → id.index < registry.documents.length

theorem Consistent.inRange {roots : PackageRoots} {loading : List QualifiedName}
    (h : registry.Consistent roots loading) : registry.InRange := by
  intro key id hslot
  obtain ⟨entry, hentry, _⟩ := (h.resolved_iff key id).1 hslot
  exact (List.getElem?_eq_some_iff.1 hentry).1

theorem InRange.start (h : registry.InRange) (key : QualifiedName) :
    (registry.start key).InRange := by
  intro other id hslot
  rw [slot?_start] at hslot
  split at hslot
  · simp at hslot
  · exact h other id hslot

theorem InRange.settle (h : registry.InRange) (key : QualifiedName)
    (result : Except ConfigError (Loaded Doc)) : (registry.settle key result).2.InRange := by
  intro other id hslot
  have hlength : registry.documents.length ≤ (registry.settle key result).2.documents.length := by
    rcases result with cause | failure | ⟨path, document⟩
    · exact Nat.le_refl _
    · exact Nat.le_refl _
    · exact List.length_append ▸ Nat.le_add_right _ _
  by_cases hkey : key = other
  · subst hkey
    obtain ⟨rfl, path, document, rfl⟩ := eq_of_slot?_settle_resolved hslot
    simp [Registry.settle, install, nextId]
  · rw [slot?_settle_of_ne hkey] at hslot
    exact Nat.lt_of_lt_of_le (h other id hslot) hlength

/-- A file without a record was never requested. -/
theorem InRange.slot?_eq_none (h : registry.InRange) (hrecord : registry.record? key = none) :
    registry.slot? key = none := by
  rw [record?] at hrecord
  split at hrecord
  · assumption
  · contradiction
  · contradiction
  · rename_i id hslot
    rw [Option.map_eq_none_iff, entry?, List.getElem?_eq_none_iff] at hrecord
    exact absurd (h key id hslot) (Nat.not_lt.2 hrecord)

/-- A file that was requested has a record. -/
theorem InRange.exists_record (h : registry.InRange) {slot : Slot}
    (hslot : registry.slot? key = some slot) : ∃ record, registry.record? key = some record := by
  rw [← Option.isSome_iff_exists, Option.isSome_iff_ne_none]
  intro hrecord
  rw [h.slot?_eq_none hrecord] at hslot
  contradiction

/-- Settling one file leaves the records of all others. -/
theorem InRange.record?_settle_of_ne (h : registry.InRange) (hne : key ≠ other)
    (result : Except ConfigError (Loaded Doc)) :
    (registry.settle key result).2.record? other = registry.record? other := by
  rw [record?, record?, slot?_settle_of_ne hne]
  split
  · rfl
  · rfl
  · rfl
  · rename_i id hslot
    have hentry : Registry.entry? (registry.settle key result).2 id = registry.entry? id := by
      rcases result with cause | failure | ⟨path, document⟩
      · rfl
      · rfl
      · exact List.getElem?_append_left (h other id hslot)
    rw [hentry]

/-- The verdict on a file is kept when a registry grows. -/
theorem GrowsOn.record?_eq {verdict : Verdict Doc} (hgrows : earlier.GrowsOn storage later)
    (hrecord : earlier.record? key = some (.settled verdict)) :
    later.record? key = some (.settled verdict) := by
  rw [record?] at hrecord
  split at hrecord
  · contradiction
  · simp at hrecord
  · rename_i failure hslot
    rw [record?_of_failed (hgrows.slots key _ hslot (by simp))]
    exact hrecord
  · rename_i id hslot
    obtain ⟨entry, hentry, hverdict⟩ := Option.map_eq_some_iff.1 hrecord
    rw [record?_of_resolved (hgrows.slots key _ hslot (by simp)) (hgrows.entry?_eq hentry),
      hverdict]

end Registry

end HalPackages
