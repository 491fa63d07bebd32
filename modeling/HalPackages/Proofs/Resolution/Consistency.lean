import HalPackages.Proofs.Resolution.Calls
import HalPackages.Proofs.Resolution.Loading

/-!
# Registries are consistent at every moment

In the middle of a call the registry is not at rest: the files that are being
loaded have no answer yet.  The invariant below therefore names them.  Every step
keeps it, so it holds at every moment of every call, and between two calls it
holds with no file left over.
-/

namespace HalPackages

open Relation

variable {Doc Declared : Type} [Document Doc Declared]

namespace Registry

/-- What holds of a registry while some files are being loaded.  Each of them and no other file has
the state of being resolved; the resolved files are those of the documents, one for one; and
every document is the file of its name. -/
structure Consistent (roots : PackageRoots) (loading : List QualifiedName)
    (registry : Registry Doc) : Prop where
  nodup_keys : registry.cache.keys.Nodup
  nodup_loading : loading.Nodup
  resolving_iff : ∀ key, registry.slot? key = some .resolving ↔ key ∈ loading
  resolved_iff : ∀ key id, registry.slot? key = some (.resolved id) ↔
    ∃ entry, registry.entry? id = some entry ∧ entry.name = key
  declares : ∀ entry ∈ registry.documents,
    roots.filePath entry.name = .ok entry.path ∧ Document.Declares entry.document entry.name

variable {roots : PackageRoots} {loading : List QualifiedName} {registry : Registry Doc}
variable {key : QualifiedName}

theorem consistent_empty : (∅ : Registry Doc).Consistent roots [] where
  nodup_keys := List.nodup_nil
  nodup_loading := List.nodup_nil
  resolving_iff _ := by simp [slot?_empty]
  resolved_iff _ id := by
    have hentry : Registry.entry? (∅ : Registry Doc) id = none := rfl
    simp [slot?_empty, hentry]
  declares _ hentry := absurd hentry List.not_mem_nil

namespace Consistent

theorem not_exists_entry (h : registry.Consistent roots loading)
    (hslot : ∀ id, registry.slot? key ≠ some (.resolved id)) (id : DocumentId) :
    ¬ ∃ entry, registry.entry? id = some entry ∧ entry.name = key := by
  rw [← h.resolved_iff]
  exact hslot id

theorem not_exists_entry_of_loading (h : registry.Consistent roots (key :: loading))
    (id : DocumentId) : ¬ ∃ entry, registry.entry? id = some entry ∧ entry.name = key := by
  apply h.not_exists_entry
  intro id
  rw [(h.resolving_iff key).2 List.mem_cons_self]
  simp

/-- A file that gets an answer is no longer being resolved. -/
theorem resolving_iff_of_answer (h : registry.Consistent roots (key :: loading)) {slot : Slot}
    (hslot : slot ≠ .resolving) (other : QualifiedName) :
    (if key = other then some slot else registry.slot? other) = some .resolving ↔
      other ∈ loading := by
  by_cases hkey : key = other
  · subst hkey
    rw [if_pos rfl, Option.some.injEq]
    exact iff_of_false hslot (List.nodup_cons.1 h.nodup_loading).1
  · rw [if_neg hkey, h.resolving_iff, List.mem_cons]
    exact or_iff_right (Ne.symm hkey)

theorem notePath (h : registry.Consistent roots loading) (path : Path) :
    (registry.notePath path).Consistent roots loading :=
  ⟨h.nodup_keys, h.nodup_loading, h.resolving_iff, h.resolved_iff, h.declares⟩

/-- A file that was never requested joins those that are being loaded. -/
theorem start (h : registry.Consistent roots loading) (hslot : registry.slot? key = none) :
    (registry.start key).Consistent roots (key :: loading) where
  nodup_keys := OrderedMap.nodup_keys_insert h.nodup_keys key .resolving
  nodup_loading := by
    rw [List.nodup_cons, ← h.resolving_iff, hslot]
    exact ⟨by simp, h.nodup_loading⟩
  resolving_iff other := by
    rw [slot?_start, List.mem_cons, ← h.resolving_iff]
    by_cases hkey : key = other
    · simp [hkey]
    · simp [hkey, Ne.symm hkey]
  resolved_iff other id := by
    rw [slot?_start]
    by_cases hkey : key = other
    · subst hkey
      -- No document can have this name, or the file would have been requested.
      simpa using h.not_exists_entry (by simp [hslot]) id
    · rw [if_neg hkey]
      exact h.resolved_iff other id
  declares := h.declares

theorem fail (h : registry.Consistent roots (key :: loading)) (failure : ResolveFailure) :
    (registry.fail key failure).Consistent roots loading where
  nodup_keys := OrderedMap.nodup_keys_insert h.nodup_keys key (.failed failure)
  nodup_loading := (List.nodup_cons.1 h.nodup_loading).2
  resolving_iff other := by
    rw [slot?_fail]
    exact h.resolving_iff_of_answer (by simp) other
  resolved_iff other id := by
    rw [slot?_fail]
    by_cases hkey : key = other
    · subst hkey
      simpa using h.not_exists_entry_of_loading id
    · rw [if_neg hkey]
      exact h.resolved_iff other id
  declares := h.declares

theorem install {path : Path} {document : Doc} (h : registry.Consistent roots (key :: loading))
    (hpath : roots.filePath key = .ok path) (hdeclares : Document.Declares document key) :
    (registry.install key path document).Consistent roots loading where
  nodup_keys := OrderedMap.nodup_keys_insert h.nodup_keys key (.resolved registry.nextId)
  nodup_loading := (List.nodup_cons.1 h.nodup_loading).2
  resolving_iff other := by
    rw [slot?_install]
    exact h.resolving_iff_of_answer (by simp) other
  resolved_iff other id := by
    rw [slot?_install]
    simp only [entry?_install_eq_some_iff]
    by_cases hkey : key = other
    · subst hkey
      rw [if_pos rfl, Option.some.injEq, Slot.resolved.injEq]
      constructor
      · intro hid
        exact ⟨⟨key, path, document⟩, Or.inr ⟨hid.symm, rfl⟩, rfl⟩
      · rintro ⟨entry, hentry | ⟨hid, _⟩, hname⟩
        · exact absurd ⟨entry, hentry, hname⟩ (h.not_exists_entry_of_loading id)
        · exact hid.symm
    · rw [if_neg hkey, h.resolved_iff]
      constructor
      · rintro ⟨entry, hentry, hname⟩
        exact ⟨entry, Or.inl hentry, hname⟩
      · rintro ⟨entry, hentry | ⟨_, heq⟩, hname⟩
        · exact ⟨entry, hentry, hname⟩
        · rw [heq] at hname
          exact absurd hname hkey
  declares entry hentry := by
    rw [Registry.install, List.mem_append, List.mem_singleton] at hentry
    rcases hentry with hentry | heq
    · exact h.declares entry hentry
    · rw [heq]
      exact ⟨hpath, hdeclares⟩

/-- A file that was loaded leaves those that are being loaded, whatever it came to. -/
theorem settle (storage : Storage Doc) {result : Except ConfigError (Loaded Doc)}
    (h : registry.Consistent roots (key :: loading))
    (hresult : ∀ loaded, result = .ok loaded → storage.CanLoad roots key loaded) :
    (registry.settle key result).2.Consistent roots loading := by
  rcases result with cause | failure | ⟨path, document⟩
  · exact h.fail (.config cause)
  · exact h.fail failure
  · obtain ⟨hpath, _, hdeclares⟩ := hresult _ rfl
    exact h.install hpath hdeclares

theorem slot_ne_resolving (h : registry.Consistent roots []) (key : QualifiedName) :
    registry.slot? key ≠ some .resolving := by
  intro hslot
  rw [h.resolving_iff] at hslot
  contradiction

end Consistent

end Registry

/-! ## Moments -/

variable {storage : Storage Doc} {roots : PackageRoots} {first second : Moment Doc}

/-- A moment whose registry is consistent and whose files can only come to what their storage
has. -/
structure Moment.Sound (storage : Storage Doc) (roots : PackageRoots) (moment : Moment Doc) :
    Prop where
  consistent : moment.registry.Consistent roots moment.loading
  yields_task : ∀ key plan, moment.task = .load key plan →
    plan.Yields (storage.CanLoad roots key)
  yields_waiting : ∀ file ∈ moment.waiting, ∀ outcome,
    (file.next outcome).Yields (storage.CanLoad roots file.key)

theorem Moment.sound_ofCall {registry : Registry Doc} (h : registry.Consistent roots [])
    (name : QualifiedName) : (Moment.ofCall registry name).Sound storage roots := by
  rw [Moment.ofCall]
  split <;> exact ⟨h, by simp, by simp⟩

/-- A file that is being loaded can only come to what its plan can come to. -/
theorem Plan.Yields.of_load_eq {property : QualifiedName → Loaded Doc → Prop}
    {key key' : QualifiedName} {plan plan' : Plan (Loaded Doc)} (h : plan.Yields (property key))
    (heq : Task.load key plan = Task.load key' plan') : plan'.Yields (property key') := by
  rw [Task.load.injEq] at heq
  obtain ⟨rfl, rfl⟩ := heq
  exact h

/-- A plan that is done has come to what its file can come to. -/
theorem Moment.Sound.canLoad_of_done {key : QualifiedName} {loaded : Loaded Doc}
    {waiting : List (Waiting Doc)} {registry : Registry Doc}
    (h : (⟨.load key (.done loaded), waiting, registry⟩ : Moment Doc).Sound storage roots)
    (loaded' : Loaded Doc)
    (heq : (Except.ok loaded : Except ConfigError (Loaded Doc)) = .ok loaded') :
    storage.CanLoad roots key loaded' := by
  rw [Except.ok.injEq] at heq
  rw [← heq]
  exact h.yields_task key (.done loaded) rfl

/-- Each step keeps moments sound. -/
theorem Step.sound (hstep : Step storage roots first second) (h : first.Sound storage roots) :
    second.Sound storage roots := by
  have hconsistent := h.consistent
  have htask := h.yields_task
  have hwaiting := h.yields_waiting
  cases hstep with
  | recorded => exact ⟨hconsistent, by simp, hwaiting⟩
  | @start key waiting registry hslot =>
      refine ⟨hconsistent.start hslot, ?_, hwaiting⟩
      intro key' plan
      exact Plan.Yields.of_load_eq (storage.yields_load roots key)
  | @parse key path next waiting registry =>
      refine ⟨hconsistent.notePath path, ?_, hwaiting⟩
      intro key' plan
      exact Plan.Yields.of_load_eq (htask key (.parsing path next) rfl)
  | @ask key other next waiting registry =>
      refine ⟨hconsistent, by simp, ?_⟩
      intro file hfile
      rcases List.mem_cons.1 hfile with rfl | hfile
      · exact htask key _ rfl
      · exact hwaiting file hfile
  | @resume key next outcome waiting registry =>
      refine ⟨hconsistent, ?_, fun file hfile => hwaiting file (List.mem_cons_of_mem _ hfile)⟩
      intro key' plan
      exact Plan.Yields.of_load_eq (hwaiting ⟨key, next⟩ List.mem_cons_self outcome)
  | finish =>
      exact ⟨hconsistent.settle storage h.canLoad_of_done, by simp [Moment.settled], hwaiting⟩
  | abort =>
      exact ⟨hconsistent.settle storage (by simp), by simp [Moment.settled], hwaiting⟩
  | propagate =>
      exact ⟨hconsistent.settle storage (by simp), by simp [Moment.settled],
        fun file hfile => hwaiting file (List.mem_cons_of_mem _ hfile)⟩

theorem Leads.sound (hleads : Leads storage roots first second) (h : first.Sound storage roots) :
    second.Sound storage roots := by
  induction hleads with
  | refl => exact h
  | tail _ hstep ih => exact hstep.sound ih

/-! ## Registries at rest -/

namespace Registry

variable {registry later : Registry Doc} {name : QualifiedName}
variable {result : Except ConfigError (Option DocumentId)} {worlds : Set (Storage Doc)}

theorem Resolves.consistent (hcall : registry.Resolves storage roots name result later)
    (h : registry.Consistent roots []) : later.Consistent roots [] := by
  obtain ⟨outcome, _, hleads⟩ := hcall.leads
  exact (hleads.sound (Moment.sound_ofCall h name)).consistent

theorem Reaches.consistent (hreaches : Reaches worlds roots registry later)
    (h : registry.Consistent roots []) : later.Consistent roots [] := by
  induction hreaches with
  | refl => exact h
  | tail _ hcall ih =>
      obtain ⟨storage, _, name, result, hcall⟩ := hcall
      exact hcall.consistent ih

theorem Reachable.consistent (h : Reachable worlds roots registry) :
    registry.Consistent roots [] :=
  Reaches.consistent h consistent_empty

end Registry

end HalPackages
