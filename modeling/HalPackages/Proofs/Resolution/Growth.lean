import HalPackages.Proofs.Resolution.Consistency

/-!
# Registries only grow

A request may reach the same file many times, from nested imports and in later
calls, and the files may have changed in between.  What is once recorded of a
file is kept all the same: keys and documents are only added at the end, and a
file that has an answer keeps it.  So a request that is repeated is answered from
the record.
-/

namespace HalPackages

open Relation

variable {Doc Declared : Type} [Document Doc Declared]

namespace Registry

/-- What requests on a storage make of a registry.  A file that is being resolved may get an answer,
all others keep theirs; keys and documents are added at the end, and the storage has each added
document at its path. -/
structure GrowsOn (storage : Storage Doc) (earlier later : Registry Doc) : Prop where
  keys : earlier.cache.keys <+: later.cache.keys
  slots : ∀ key slot, earlier.slot? key = some slot → slot ≠ .resolving →
    later.slot? key = some slot
  documents : ∃ added, later.documents = earlier.documents ++ added ∧
    ∀ entry ∈ added, storage.parse entry.path = .ok entry.document

variable {storage : Storage Doc} {roots : PackageRoots} {earlier middle later : Registry Doc}
variable {key : QualifiedName}

namespace GrowsOn

theorem refl (storage : Storage Doc) (registry : Registry Doc) :
    registry.GrowsOn storage registry where
  keys := List.prefix_refl _
  slots _ _ hslot _ := hslot
  documents := ⟨[], by simp⟩

theorem trans (h : earlier.GrowsOn storage middle) (h' : middle.GrowsOn storage later) :
    earlier.GrowsOn storage later where
  keys := h.keys.trans h'.keys
  slots key slot hslot hne := h'.slots key slot (h.slots key slot hslot hne) hne
  documents := by
    obtain ⟨added, hadded, hparse⟩ := h.documents
    obtain ⟨added', hadded', hparse'⟩ := h'.documents
    refine ⟨added ++ added', ?_, ?_⟩
    · rw [hadded', hadded, List.append_assoc]
    · intro entry hentry
      rcases List.mem_append.1 hentry with hentry | hentry
      · exact hparse entry hentry
      · exact hparse' entry hentry

theorem documents_isPrefix (h : earlier.GrowsOn storage later) :
    earlier.documents <+: later.documents := by
  obtain ⟨added, hadded, _⟩ := h.documents
  exact ⟨added, hadded.symm⟩

/-- The entry of a document is kept. -/
theorem entry?_eq (h : earlier.GrowsOn storage later) {id : DocumentId}
    {entry : DocumentEntry Doc} (hentry : earlier.entry? id = some entry) :
    later.entry? id = some entry := by
  obtain ⟨added, hadded, _⟩ := h.documents
  obtain ⟨hindex, _⟩ := List.getElem?_eq_some_iff.1 hentry
  rw [Registry.entry?, hadded, List.getElem?_append_left hindex]
  exact hentry

end GrowsOn

theorem growsOn_notePath (storage : Storage Doc) (registry : Registry Doc) (path : Path) :
    registry.GrowsOn storage (registry.notePath path) where
  keys := List.prefix_refl _
  slots _ _ hslot _ := hslot
  documents := ⟨[], by simp [notePath]⟩

theorem growsOn_start (storage : Storage Doc) {registry : Registry Doc}
    (hslot : registry.slot? key = none) : registry.GrowsOn storage (registry.start key) where
  keys := OrderedMap.keys_isPrefix_insert _ _ _
  slots other slot hother _ := by
    have hkey : key ≠ other := by
      rintro rfl
      rw [hslot] at hother
      contradiction
    rw [slot?_start, if_neg hkey]
    exact hother
  documents := ⟨[], by simp [start]⟩

/-- The slot of a file that is being resolved is not that of a file with an answer. -/
theorem ne_of_slot?_resolving {registry : Registry Doc} {other : QualifiedName} {slot : Slot}
    (hslot : registry.slot? key = some .resolving) (hother : registry.slot? other = some slot)
    (hne : slot ≠ .resolving) : key ≠ other := by
  rintro rfl
  rw [hslot, Option.some.injEq] at hother
  exact hne hother.symm

theorem growsOn_fail (storage : Storage Doc) {registry : Registry Doc}
    (hslot : registry.slot? key = some .resolving) (failure : ResolveFailure) :
    registry.GrowsOn storage (registry.fail key failure) where
  keys := OrderedMap.keys_isPrefix_insert _ _ _
  slots other slot hother hne := by
    rw [slot?_fail, if_neg (ne_of_slot?_resolving hslot hother hne)]
    exact hother
  documents := ⟨[], by simp [fail]⟩

theorem growsOn_install {registry : Registry Doc} {path : Path} {document : Doc}
    (hslot : registry.slot? key = some .resolving)
    (hparse : storage.parse path = .ok document) :
    registry.GrowsOn storage (registry.install key path document) where
  keys := OrderedMap.keys_isPrefix_insert _ _ _
  slots other slot hother hne := by
    rw [slot?_install, if_neg (ne_of_slot?_resolving hslot hother hne)]
    exact hother
  documents := by
    refine ⟨[⟨key, path, document⟩], rfl, ?_⟩
    intro entry hentry
    rw [List.mem_singleton.1 hentry]
    exact hparse

theorem growsOn_settle (roots : PackageRoots) {registry : Registry Doc}
    (hslot : registry.slot? key = some .resolving) {result : Except ConfigError (Loaded Doc)}
    (hresult : ∀ loaded, result = .ok loaded → storage.CanLoad roots key loaded) :
    registry.GrowsOn storage (registry.settle key result).2 := by
  rcases result with cause | failure | ⟨path, document⟩
  · exact growsOn_fail storage hslot (.config cause)
  · exact growsOn_fail storage hslot failure
  · exact growsOn_install hslot (hresult _ rfl).2.1

theorem slot?_settle_of_ne {registry : Registry Doc} {other : QualifiedName}
    {result : Except ConfigError (Loaded Doc)} (hne : key ≠ other) :
    (registry.settle key result).2.slot? other = registry.slot? other := by
  rcases result with cause | failure | ⟨path, document⟩
  · rw [settle, slot?_fail, if_neg hne]
  · rw [settle, slot?_fail, if_neg hne]
  · rw [settle, slot?_install, if_neg hne]

/-- A file is recorded as resolved if it has come to a document. -/
theorem eq_of_slot?_settle_resolved {registry : Registry Doc}
    {result : Except ConfigError (Loaded Doc)} {id : DocumentId}
    (hslot : (registry.settle key result).2.slot? key = some (.resolved id)) :
    id = registry.nextId ∧ ∃ path document, result = .ok (.ok (path, document)) := by
  rcases result with cause | failure | ⟨path, document⟩
  · simp [settle, slot?_fail] at hslot
  · simp [settle, slot?_fail] at hslot
  · rw [settle, slot?_install, if_pos rfl, Option.some.injEq, Slot.resolved.injEq] at hslot
    exact ⟨hslot.symm, path, document, rfl⟩

/-- A file is recorded as failed if it has come to that failure or its configuration is at fault. -/
theorem eq_of_slot?_settle_failed {registry : Registry Doc}
    {result : Except ConfigError (Loaded Doc)} {failure : ResolveFailure}
    (hslot : (registry.settle key result).2.slot? key = some (.failed failure)) :
    result = .ok (.error failure) ∨ ∃ cause, failure = .config cause ∧ result = .error cause := by
  rcases result with cause | failure' | ⟨path, document⟩
  · rw [settle, slot?_fail, if_pos rfl, Option.some.injEq, Slot.failed.injEq] at hslot
    exact Or.inr ⟨cause, hslot.symm, rfl⟩
  · rw [settle, slot?_fail, if_pos rfl, Option.some.injEq, Slot.failed.injEq] at hslot
    exact Or.inl (by rw [hslot])
  · simp [settle, slot?_install] at hslot

end Registry

/-! ## Steps and calls -/

variable {storage : Storage Doc} {roots : PackageRoots} {first second : Moment Doc}

theorem Moment.Sound.slot?_loading (h : first.Sound storage roots) {key : QualifiedName}
    (hkey : key ∈ first.loading) : first.registry.slot? key = some .resolving :=
  (h.consistent.resolving_iff key).2 hkey

theorem Step.growsOn (hstep : Step storage roots first second) (h : first.Sound storage roots) :
    first.registry.GrowsOn storage second.registry := by
  cases hstep with
  | recorded | ask | resume => exact Registry.GrowsOn.refl storage _
  | start hslot => exact Registry.growsOn_start storage hslot
  | @parse key path => exact Registry.growsOn_notePath storage _ path
  | finish =>
      exact Registry.growsOn_settle roots (h.slot?_loading List.mem_cons_self) h.canLoad_of_done
  | abort => exact Registry.growsOn_settle roots (h.slot?_loading List.mem_cons_self) (by simp)
  | propagate => exact Registry.growsOn_settle roots (h.slot?_loading List.mem_cons_self) (by simp)

theorem Leads.growsOn (hleads : Leads storage roots first second)
    (h : first.Sound storage roots) : first.registry.GrowsOn storage second.registry := by
  induction hleads with
  | refl => exact Registry.GrowsOn.refl storage _
  | tail hleads hstep ih => exact ih.trans (hstep.growsOn (Leads.sound hleads h))

/-! ## Later moments -/

namespace Moment

/-- What comes next: a step of the call or, after the answer to it, the first moment of another. -/
inductive Next (storage : Storage Doc) (roots : PackageRoots) : Moment Doc → Moment Doc → Prop where
  | step {first second : Moment Doc} (hstep : Step storage roots first second) :
      Next storage roots first second
  | call {answer : Except ConfigError Outcome} {registry : Registry Doc} (name : QualifiedName) :
      Next storage roots ⟨.answer answer, [], registry⟩ (.ofCall registry name)

/-- Any number of steps and calls lie between two moments. -/
def Precedes (storage : Storage Doc) (roots : PackageRoots) : Moment Doc → Moment Doc → Prop :=
  ReflTransGen (Next storage roots)

theorem Next.sound (hnext : Next storage roots first second) (h : first.Sound storage roots) :
    second.Sound storage roots := by
  cases hnext with
  | step hstep => exact hstep.sound h
  | call name => exact sound_ofCall h.consistent name

theorem Next.growsOn (hnext : Next storage roots first second) (h : first.Sound storage roots) :
    first.registry.GrowsOn storage second.registry := by
  cases hnext with
  | step hstep => exact hstep.growsOn h
  | call name =>
      rw [registry_ofCall]
      exact Registry.GrowsOn.refl storage _

/-- A registry only grows from one call to the next, too. -/
theorem Precedes.growsOn (hprecedes : Precedes storage roots first second)
    (h : first.Sound storage roots) : first.registry.GrowsOn storage second.registry := by
  have hboth : second.Sound storage roots ∧
      first.registry.GrowsOn storage second.registry := by
    induction hprecedes with
    | refl => exact ⟨h, Registry.GrowsOn.refl storage _⟩
    | tail _ hnext ih => exact ⟨hnext.sound ih.1, ih.2.trans (hnext.growsOn ih.1)⟩
  exact hboth.2

end Moment

namespace Registry

variable {registry later : Registry Doc} {name : QualifiedName}
variable {result : Except ConfigError (Option DocumentId)} {worlds : Set (Storage Doc)}
variable {key : QualifiedName} {slot : Slot}

theorem Resolves.growsOn (hcall : registry.Resolves storage roots name result later)
    (h : registry.Consistent roots []) : registry.GrowsOn storage later := by
  obtain ⟨outcome, _, hleads⟩ := hcall.leads
  have hgrows := hleads.growsOn (Moment.sound_ofCall h name)
  rw [Moment.registry_ofCall] at hgrows
  exact hgrows

theorem Resolves.slot?_eq (hcall : registry.Resolves storage roots name result later)
    (h : registry.Consistent roots []) (hslot : registry.slot? key = some slot) :
    later.slot? key = some slot := by
  apply (hcall.growsOn h).slots key slot hslot
  rintro rfl
  exact h.slot_ne_resolving key hslot

theorem Reaches.slot?_eq (hreaches : Reaches worlds roots registry later)
    (h : registry.Consistent roots []) (hslot : registry.slot? key = some slot) :
    later.slot? key = some slot := by
  induction hreaches with
  | refl => exact hslot
  | tail hreaches hcall ih =>
      obtain ⟨storage, _, name, result, hcall⟩ := hcall
      exact hcall.slot?_eq (Reaches.consistent hreaches h) ih

theorem Reaches.entry?_eq (hreaches : Reaches worlds roots registry later)
    (h : registry.Consistent roots []) {id : DocumentId} {entry : DocumentEntry Doc}
    (hentry : registry.entry? id = some entry) : later.entry? id = some entry := by
  induction hreaches with
  | refl => exact hentry
  | tail hreaches hcall ih =>
      obtain ⟨storage, _, name, result, hcall⟩ := hcall
      exact (hcall.growsOn (Reaches.consistent hreaches h)).entry?_eq ih

end Registry

end HalPackages
