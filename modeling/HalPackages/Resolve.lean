import HalPackages.Resolve.Load

/-!
# Resolving names

Resolving a name requests the file that declares it.  A file is requested at most
once: later requests get the recorded answer, and a request for a file that is
still being resolved is answered with `pending`, so that circular imports end.

The nesting of requests is bounded.  A file leads to further requests only if a
document declares itself to be that file, and then it is no longer unrequested;
in between comes at most the request for the types of a package.  The theorem
`exists_requestWithin` turns this into a depth that always suffices.
-/

namespace HalPackages

variable {Doc Declared : Type} [Document Doc Declared]

/-- The answer to a request for a file that was requested before.  A problem of the configuration
is reported every time. -/
def Slot.answer : Slot → Except ConfigError Outcome
  | .resolving => .ok (.error .pending)
  | .resolved id => .ok (.ok id)
  | .failed (.config cause) => .error cause
  | .failed _ => .ok (.error .failed)

/-- Record what the plan for a file has come to. -/
def Registry.settle (registry : Registry Doc) (key : QualifiedName) :
    Except ConfigError (Except ResolveFailure (Path × Doc)) →
      Except ConfigError Outcome × Registry Doc
  | .error cause => (.error cause, registry.fail key (.config cause))
  | .ok (.error failure) => (.ok (.error .failed), registry.fail key failure)
  | .ok (.ok (path, document)) =>
    (.ok (.ok registry.nextId), registry.install key path document)

namespace Storage

variable (storage : Storage Doc) (roots : PackageRoots)

/-- Request a file.  A file that was not requested before is loaded, with requests nested at most
`depth` deep; there is no answer if they lead deeper. -/
def requestWithin : Nat → Requester Doc
  | 0, key, registry => (registry.slot? key).map fun slot => (slot.answer, registry)
  | depth + 1, key, registry =>
    match registry.slot? key with
    | some slot => some (slot.answer, registry)
    | none =>
      ((storage.load roots key).run (requestWithin depth) (registry.start key)).map
        fun (result, registry) => registry.settle key result

variable {storage roots}
variable {key : QualifiedName} {registry : Registry Doc}

theorem requestWithin_of_slot {slot : Slot} (hslot : registry.slot? key = some slot)
    (depth : Nat) :
    storage.requestWithin roots depth key registry = some (slot.answer, registry) := by
  cases depth with
  | zero => rw [requestWithin, hslot, Option.map_some]
  | succ depth => rw [requestWithin, hslot]

theorem requestWithin_zero_of_slot_eq_none (hslot : registry.slot? key = none) :
    storage.requestWithin roots 0 key registry = none := by
  rw [requestWithin, hslot, Option.map_none]

theorem requestWithin_succ_of_slot_eq_none (hslot : registry.slot? key = none) (depth : Nat) :
    storage.requestWithin roots (depth + 1) key registry =
      ((storage.load roots key).run (storage.requestWithin roots depth)
        (registry.start key)).map fun (result, registry) => registry.settle key result := by
  rw [requestWithin, hslot]

/-- The answer to a first request is what loading the file comes to. -/
theorem exists_run_of_requestWithin {depth : Nat} {answer : Except ConfigError Outcome}
    {later : Registry Doc} (hslot : registry.slot? key = none)
    (h : storage.requestWithin roots depth key registry = some (answer, later)) :
    ∃ below result middle, depth = below + 1 ∧
      (storage.load roots key).run (storage.requestWithin roots below) (registry.start key) =
        some (result, middle) ∧
      middle.settle key result = (answer, later) := by
  cases depth with
  | zero =>
      rw [requestWithin_zero_of_slot_eq_none hslot] at h
      contradiction
  | succ below =>
      rw [requestWithin_succ_of_slot_eq_none hslot, Option.map_eq_some_iff] at h
      obtain ⟨⟨result, middle⟩, hrun, hsettle⟩ := h
      exact ⟨below, result, middle, rfl, hrun, hsettle⟩

end Storage

/-! ## The depth suffices -/

/-- The names on a list that were not requested yet. -/
def Registry.unrequested (registry : Registry Doc) (names : List QualifiedName) : Nat :=
  names.countP (· ∉ registry.cache.keys)

theorem Registry.unrequested_anti {earlier later : Registry Doc} (names : List QualifiedName)
    (h : earlier.cache.keys ⊆ later.cache.keys) :
    later.unrequested names ≤ earlier.unrequested names := by
  unfold unrequested
  refine List.countP_mono_left fun name _ hname => ?_
  simp only [decide_eq_true_eq] at hname ⊢
  exact fun hmem => hname (h hmem)

theorem Registry.unrequested_lt {earlier later : Registry Doc} {names : List QualifiedName}
    {key : QualifiedName} (hkey : key ∈ names) (hearlier : key ∉ earlier.cache.keys)
    (hlater : key ∈ later.cache.keys) (h : earlier.cache.keys ⊆ later.cache.keys) :
    later.unrequested names < earlier.unrequested names := by
  unfold unrequested
  induction names with
  | nil => simp at hkey
  | cons name names ih =>
    have hrest : names.countP (· ∉ later.cache.keys) ≤ names.countP (· ∉ earlier.cache.keys) :=
      unrequested_anti names h
    by_cases hname : name = key
    · subst hname
      simp only [List.countP_cons, hearlier, hlater, not_true_eq_false, not_false_eq_true,
        decide_false, decide_true, if_true, Bool.false_eq_true, if_false]
      omega
    · have hmem : key ∈ names := by
        rcases List.mem_cons.1 hkey with rfl | hmem
        · exact absurd rfl hname
        · exact hmem
      have := ih hmem
      simp only [List.countP_cons]
      by_cases hnew : name ∈ earlier.cache.keys
      · simp only [hnew, h hnew]
        omega
      · by_cases hold : name ∈ later.cache.keys <;>
          simp only [hnew, hold, not_true_eq_false, not_false_eq_true, decide_false, decide_true,
            if_true, Bool.false_eq_true, if_false] <;> omega

/-- The keys of a registry are still there in a later one. -/
def Registry.KeptIn (earlier later : Registry Doc) : Prop :=
  earlier.cache.keys ⊆ later.cache.keys

theorem Registry.KeptIn.refl (registry : Registry Doc) : registry.KeptIn registry :=
  List.Subset.refl _

theorem Registry.KeptIn.trans {earlier middle later : Registry Doc}
    (h : earlier.KeptIn middle) (h' : middle.KeptIn later) : earlier.KeptIn later :=
  List.Subset.trans h h'

theorem Registry.keptIn_start (registry : Registry Doc) (key : QualifiedName) :
    registry.KeptIn (registry.start key) :=
  fun _ h => OrderedMap.mem_keys_insert.2 (Or.inr h)

theorem Registry.keptIn_settle (registry : Registry Doc) (key : QualifiedName)
    (result : Except ConfigError (Except ResolveFailure (Path × Doc))) :
    registry.KeptIn (registry.settle key result).2 := by
  intro name h
  rcases result with cause | (failure | ⟨path, document⟩) <;>
    exact OrderedMap.mem_keys_insert.2 (Or.inr h)

namespace Plan

variable {α : Type}

/-- A plan gets an answer if all of its requests do. -/
theorem exists_run {request : Requester Doc} (first : Registry Doc)
    (hrequest : ∀ key registry, first.KeptIn registry →
      ∃ result later, request key registry = some (result, later) ∧ registry.KeptIn later)
    (plan : Plan α) (registry : Registry Doc) (h : first.KeptIn registry) :
    ∃ result later, plan.run request registry = some (result, later) ∧ registry.KeptIn later := by
  induction plan generalizing registry with
  | done value => exact ⟨_, _, rfl, Registry.KeptIn.refl registry⟩
  | abort cause => exact ⟨_, _, rfl, Registry.KeptIn.refl registry⟩
  | parsing path next ih =>
    exact ih (registry.notePath path) h
  | ask key next ih =>
    obtain ⟨result, later, hok, hkept⟩ := hrequest key registry h
    rcases result with cause | outcome
    · exact ⟨.error cause, later, by simp only [run, hok], hkept⟩
    · obtain ⟨result, last, hrun, hlast⟩ := ih outcome later (h.trans hkept)
      exact ⟨result, last, by simp only [run, hok, hrun], hkept.trans hlast⟩

/-- A plan that requests nothing always gets an answer. -/
theorem exists_run_of_silent (request : Requester Doc) {plan : Plan α} (h : plan.Silent)
    (registry : Registry Doc) :
    ∃ result later, plan.run request registry = some (result, later) ∧ registry.KeptIn later := by
  induction plan generalizing registry with
  | done value => exact ⟨_, _, rfl, Registry.KeptIn.refl registry⟩
  | abort cause => exact ⟨_, _, rfl, Registry.KeptIn.refl registry⟩
  | parsing path next ih => exact ih h (registry.notePath path)
  | ask key next => exact h.elim

end Plan

namespace Storage

variable (storage : Storage Doc) (roots : PackageRoots)

/-- How many levels a request needs beyond two for each unrequested name. -/
def levels (key : QualifiedName) : Nat :=
  if key.IsTypes then 1 else 2

theorem one_le_levels (key : QualifiedName) : 1 ≤ levels key := by
  rw [levels]
  split <;> omega

theorem levels_le_two (key : QualifiedName) : levels key ≤ 2 := by
  rw [levels]
  split <;> omega

/-- Loading a file that no document declares itself to be comes to a result if the request for the
types of its package gets an answer. -/
theorem exists_run_load_of_undeclared {key : QualifiedName}
    (hkey : ∀ path document, storage.parse path = .ok document → Document.identity document ≠ key)
    {request : Requester Doc} {registry : Registry Doc}
    (htypes : ¬ key.IsTypes → ∃ result later,
      request key.typesOfPackage registry = some (result, later) ∧ registry.KeptIn later) :
    ∃ result later, (storage.load roots key).run request registry = some (result, later) ∧
      registry.KeptIn later := by
  have hsilent : (storage.loadFile roots key).Silent := storage.silent_loadFile roots hkey
  rw [load]
  split
  · exact Plan.exists_run_of_silent request hsilent registry
  · rename_i hother
    obtain ⟨result, later, hok, hkept⟩ := htypes hother
    rcases result with cause | outcome
    · exact ⟨.error cause, later, by simp only [Plan.run, hok], hkept⟩
    · obtain ⟨result, last, hlast, hkept'⟩ := Plan.exists_run_of_silent request hsilent later
      exact ⟨result, last, by simp only [Plan.run, hok, hlast], hkept.trans hkept'⟩

/-- A request gets an answer within two levels for each unrequested name that a document can
declare, and one or two more. -/
theorem exists_requestWithin {names : List QualifiedName}
    (hnames : ∀ path document, storage.parse path = .ok document →
      Document.identity document ∈ names)
    (depth : Nat) (key : QualifiedName) (registry : Registry Doc)
    (hdepth : 2 * registry.unrequested names + levels key ≤ depth) :
    ∃ result later, storage.requestWithin roots depth key registry = some (result, later) ∧
      registry.KeptIn later := by
  have hpos := one_le_levels key
  induction depth generalizing key registry with
  | zero => omega
  | succ depth ih =>
    cases hslot : registry.slot? key with
    | some slot =>
      exact ⟨_, _, requestWithin_of_slot hslot _, Registry.KeptIn.refl registry⟩
    | none =>
      have hnew : key ∉ registry.cache.keys := OrderedMap.get?_eq_none_iff.1 hslot
      have hstart := registry.keptIn_start key
      have hrun : ∃ result later,
          (storage.load roots key).run (storage.requestWithin roots depth) (registry.start key) =
            some (result, later) ∧ (registry.start key).KeptIn later := by
        by_cases hkey : key ∈ names
        · apply Plan.exists_run (registry.start key) _ _ _ (Registry.KeptIn.refl _)
          intro other registry' hkept
          have hstarted : key ∈ (registry.start key).cache.keys :=
            OrderedMap.mem_keys_insert.2 (Or.inl rfl)
          have hlt := Registry.unrequested_lt hkey hnew (hkept hstarted) (hstart.trans hkept)
          have hlevels := levels_le_two other
          exact ih other registry' (by omega) (one_le_levels other)
        · apply storage.exists_run_load_of_undeclared roots
          · intro path document hparse heq
            rw [← heq] at hkey
            exact hkey (hnames path document hparse)
          · intro htypes
            have hle := Registry.unrequested_anti names hstart
            have htwo : levels key = 2 := if_neg htypes
            have hone : levels key.typesOfPackage = 1 := if_pos rfl
            exact ih key.typesOfPackage (registry.start key) (by omega) (one_le_levels _)
      obtain ⟨result, later, hrun, hkept⟩ := hrun
      refine ⟨(later.settle key result).1, (later.settle key result).2, ?_, ?_⟩
      · rw [requestWithin_succ_of_slot_eq_none hslot, hrun, Option.map_some]
      · exact (hstart.trans hkept).trans (later.keptIn_settle key result)

theorem isSome_requestWithin {names : List QualifiedName}
    (hnames : ∀ path document, storage.parse path = .ok document →
      Document.identity document ∈ names)
    {depth : Nat} (hdepth : 2 * names.length + 2 ≤ depth) (key : QualifiedName)
    (registry : Registry Doc) : (storage.requestWithin roots depth key registry).isSome := by
  have hcount : registry.unrequested names ≤ names.length := List.countP_le_length
  have hlevels := levels_le_two key
  obtain ⟨result, later, hanswer, _⟩ := storage.exists_requestWithin roots hnames depth key
    registry (by omega)
  simp [hanswer]

end Storage

/-- The depth that suffices for every request. -/
def Sources.depth (sources : Sources Doc) : Nat :=
  2 * sources.bound + 2

namespace Registry

/-- Resolve a name to the document that declares it, with requests nested at most `depth` deep.
There is none if the file is missing or invalid or one of its imports is; a problem of the
configuration is reported as such. -/
def resolveWithin (depth : Nat) (registry : Registry Doc) (storage : Storage Doc)
    (roots : PackageRoots) (name : QualifiedName) :
    Option (Except ConfigError (Option DocumentId) × Registry Doc) :=
  if name.IsFullyQualified then
    (storage.requestWithin roots depth name.fileIdentity registry).map
      fun (result, registry) => (result.map Except.toOption, registry)
  else some (.error (.notFullyQualified name), registry)

theorem isSome_resolveWithin {storage : Storage Doc} {names : List QualifiedName}
    (hnames : ∀ path document, storage.parse path = .ok document →
      Document.identity document ∈ names)
    {depth : Nat} (hdepth : 2 * names.length + 2 ≤ depth) (registry : Registry Doc)
    (roots : PackageRoots) (name : QualifiedName) :
    (registry.resolveWithin depth storage roots name).isSome := by
  rw [resolveWithin]
  split
  · rw [Option.isSome_map]
    exact storage.isSome_requestWithin roots hnames hdepth name.fileIdentity registry
  · rfl

theorem isSome_resolveWithin_depth (registry : Registry Doc) (sources : Sources Doc)
    (roots : PackageRoots) (name : QualifiedName) :
    (registry.resolveWithin sources.depth sources.toStorage roots name).isSome := by
  obtain ⟨names, hlength, hnames⟩ := sources.bounded
  have hdepth : 2 * names.length + 2 ≤ sources.depth := by
    rw [Sources.depth]
    omega
  exact isSome_resolveWithin hnames hdepth registry roots name

/-- Resolve a name, however deep its requests lead. -/
def resolve (registry : Registry Doc) (sources : Sources Doc) (roots : PackageRoots)
    (name : QualifiedName) : Except ConfigError (Option DocumentId) × Registry Doc :=
  (registry.resolveWithin sources.depth sources.toStorage roots name).get
    (registry.isSome_resolveWithin_depth sources roots name)

end Registry

end HalPackages
