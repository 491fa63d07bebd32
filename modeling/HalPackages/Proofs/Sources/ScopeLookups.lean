import HalPackages.Proofs.Sources.Scopes

/-!
# Scopes as ordered maps

A scope is what attempts to insert declarations have left of the empty scope, and so
are the scopes inside it.  Its look-ups go through the positions that it keeps, and
they find what a search through its list of declarations finds.

A declaration is told apart from all others by its place: its index in its scope,
after those of the declarations around it.  When no name has a dot in it, places and
paths belong together one by one.
-/

namespace HalPackages

namespace Scope

/-! ## Attempts -/

/-- The scope after an attempt to insert a declaration.  One that is rejected leaves it as it is. -/
def attempt (scope : Scope) (decl : TypeDecl) : Scope :=
  match scope.insert decl with
  | .ok larger => larger
  | .error _ => scope

/-- What attempts to insert declarations, one after the other, leave of the empty scope. -/
def ofAttempts (decls : List TypeDecl) : Scope :=
  decls.foldl attempt ∅

/-- The scope was made by attempts to insert declarations, accepted or not, and so were the scopes
of the declarations. -/
inductive Made : Scope → Prop where
  | intro {decls : List TypeDecl} (hmembers : ∀ decl ∈ decls, Made decl.members) :
      Made (ofAttempts decls)

variable {scope larger : Scope} {decl other : TypeDecl} {name : String} {names : List String}

theorem attempt_of_ok (h : scope.insert decl = .ok larger) : scope.attempt decl = larger := by
  rw [attempt, h]

theorem attempt_of_error {back : TypeDecl} (h : scope.insert decl = .error back) :
    scope.attempt decl = scope := by
  rw [attempt, h]

theorem Built.attempt (hscope : scope.Built) (hmembers : decl.members.Built) :
    (scope.attempt decl).Built := by
  cases hinsert : scope.insert decl with
  | ok larger =>
      rw [attempt_of_ok hinsert]
      exact .insert hscope hmembers hinsert
  | error back =>
      rw [attempt_of_error hinsert]
      exact hscope

theorem Built.foldl_attempt {decls : List TypeDecl} (hscope : scope.Built)
    (hmembers : ∀ decl ∈ decls, decl.members.Built) : (decls.foldl Scope.attempt scope).Built := by
  induction decls generalizing scope with
  | nil => exact hscope
  | cons decl decls ih =>
      obtain ⟨hdecl, hdecls⟩ := List.forall_mem_cons.1 hmembers
      exact ih (hscope.attempt hdecl) hdecls

/-- Rejected attempts leave no trace. -/
theorem made_iff_built : scope.Made ↔ scope.Built := by
  constructor
  · intro h
    induction h with
    | intro _ ih => exact Built.empty.foldl_attempt ih
  · intro h
    induction h with
    | empty => exact .intro fun _ hdecl => absurd hdecl List.not_mem_nil
    | @insert _ _ decl _ _ hinsert ihScope ihMembers =>
        cases ihScope with
        | @intro decls hdecls =>
            rw [← attempt_of_ok hinsert]
            have hall : ∀ other ∈ decls ++ [decl], other.members.Made := by
              intro other hother
              rcases List.mem_append.1 hother with hother | hother
              · exact hdecls other hother
              · rw [List.mem_singleton.1 hother]
                exact ihMembers
            have hmade := Made.intro hall
            rw [ofAttempts, List.foldl_append] at hmade
            exact hmade

/-! ## Positions and searches -/

/-- A declaration comes back, as it was given, if its name is taken. -/
theorem Indexed.insert_eq_error_iff (h : scope.Indexed) {back : TypeDecl} :
    scope.insert decl = .error back ↔
      back = decl ∧ ∃ other ∈ scope.decls, other.name = decl.name := by
  have htaken : scope.positions.contains decl.name = true ↔
      ∃ other ∈ scope.decls, other.name = decl.name := by
    rw [Std.TreeMap.contains_eq_isSome_getElem?, Option.isSome_iff_exists]
    constructor
    · rintro ⟨index, hindex⟩
      obtain ⟨other, hother, hname⟩ := (h decl.name index).1 hindex
      exact ⟨other, List.mem_of_getElem? hother, hname⟩
    · rintro ⟨other, hother, hname⟩
      obtain ⟨index, hindex⟩ := List.mem_iff_getElem?.1 hother
      exact ⟨index, (h decl.name index).2 ⟨other, hindex, hname⟩⟩
  rw [← htaken, Scope.insert]
  split
  · rename_i hcontains
    rw [Except.error.injEq, eq_comm]
    simp [hcontains]
  · rename_i hcontains
    simp [hcontains]

theorem Indexed.lt_length (h : scope.Indexed) {index : Nat}
    (hindex : scope.positions[name]? = some index) : index < scope.decls.length := by
  obtain ⟨decl, hdecl, _⟩ := (h name index).1 hindex
  exact (List.getElem?_eq_some_iff.1 hdecl).1

/-- Declarations of one scope have different names. -/
theorem Indexed.index_unique (h : scope.Indexed) {first second : Nat}
    (hfirst : scope.decls[first]? = some decl) (hsecond : scope.decls[second]? = some other)
    (hname : decl.name = other.name) : first = second := by
  have hposition : scope.positions[decl.name]? = some first := (h _ first).2 ⟨decl, hfirst, rfl⟩
  have hposition' : scope.positions[decl.name]? = some second :=
    (h _ second).2 ⟨other, hsecond, hname.symm⟩
  exact Option.some.inj (hposition.symm.trans hposition')

/-- The position that is kept for a name leads where a search through the list leads. -/
theorem Indexed.get?_eq_find? (h : scope.Indexed) (name : String) :
    scope.get? name = scope.decls.find? fun decl => decl.name = name := by
  cases hfind : scope.decls.find? fun decl => decl.name = name with
  | some decl =>
      have hname := List.find?_some hfind
      exact h.get?_eq_some_iff.2 ⟨List.mem_of_find?_eq_some hfind, of_decide_eq_true hname⟩
  | none =>
      rw [Option.eq_none_iff_forall_ne_some]
      intro decl hget
      obtain ⟨hdecl, hname⟩ := h.get?_eq_some_iff.1 hget
      exact absurd (decide_eq_true hname) (List.find?_eq_none.1 hfind decl hdecl)

/-- The declaration that is found by one name after the other, each searched for among the
declarations inside the one before. -/
def search? (scope : Scope) : List String → Option TypeDecl
  | [] => none
  | [name] => scope.decls.find? fun decl => decl.name = name
  | name :: inner =>
    (scope.decls.find? fun decl => decl.name = name).bind fun decl => decl.members.search? inner

theorem Built.descend?_eq_search? (h : scope.Built) (names : List String) :
    scope.descend? names = scope.search? names := by
  induction names generalizing scope with
  | nil => rfl
  | cons name inner ih =>
      cases inner with
      | nil => exact h.indexed.get?_eq_find? name
      | cons next inner =>
          have hdescend : scope.descend? (name :: next :: inner) =
              (scope.get? name).bind fun decl => decl.members.descend? (next :: inner) := rfl
          have hsearch : scope.search? (name :: next :: inner) =
              (scope.decls.find? fun decl => decl.name = name).bind
                fun decl => decl.members.search? (next :: inner) := rfl
          rw [hdescend, hsearch, ← h.indexed.get?_eq_find?]
          refine Option.bind_congr fun decl hdecl => ih ?_
          exact h.members (h.indexed.get?_eq_some_iff.1 hdecl).1

/-! ## Places -/

/-- The declaration stands at a place: the indices lead to it from the outside in, each within the
members of the one before, and the names are those of the declarations on the way and its own. -/
inductive StandsAt : Scope → List Nat → List String → TypeDecl → Prop where
  | here {scope : Scope} {index : Nat} {decl : TypeDecl} (hdecl : scope.decls[index]? = some decl) :
      StandsAt scope [index] [decl.name] decl
  | inside {scope : Scope} {index : Nat} {outer decl : TypeDecl} {place : List Nat}
      {names : List String} (houter : scope.decls[index]? = some outer)
      (hinner : StandsAt outer.members place names decl) :
      StandsAt scope (index :: place) (outer.name :: names) decl

variable {place place' : List Nat} {names' : List String} {decl' : TypeDecl}

theorem declaresAt_iff_exists_place :
    scope.DeclaresAt names decl ↔ ∃ place, scope.StandsAt place names decl := by
  constructor
  · intro h
    induction h with
    | here hdecl =>
        obtain ⟨index, hindex⟩ := List.mem_iff_getElem?.1 hdecl
        exact ⟨[index], .here hindex⟩
    | inside houter _ ih =>
        obtain ⟨index, hindex⟩ := List.mem_iff_getElem?.1 houter
        obtain ⟨place, hplace⟩ := ih
        exact ⟨index :: place, .inside hindex hplace⟩
  · rintro ⟨place, h⟩
    induction h with
    | here hdecl => exact .here (List.mem_of_getElem? hdecl)
    | inside houter _ ih => exact .inside (List.mem_of_getElem? houter) ih

theorem StandsAt.names_ne_nil (h : scope.StandsAt place names decl) : names ≠ [] := by
  cases h <;> exact List.cons_ne_nil _ _

/-- The names on the way are names of declarations. -/
theorem StandsAt.exists_of_mem_names (h : scope.StandsAt place names decl) (hname : name ∈ names) :
    ∃ place names decl, scope.StandsAt place names decl ∧ decl.name = name := by
  induction h with
  | here hdecl => exact ⟨_, _, _, .here hdecl, (List.mem_singleton.1 hname).symm⟩
  | inside houter _ ih =>
      rcases List.mem_cons.1 hname with rfl | hname
      · exact ⟨_, _, _, .here houter, rfl⟩
      · obtain ⟨place, names, decl, hplace, hdecl⟩ := ih hname
        exact ⟨_, _, decl, .inside houter hplace, hdecl⟩

/-- A place has one way to it. -/
theorem StandsAt.names_unique (h : scope.StandsAt place names decl)
    (h' : scope.StandsAt place names' decl') : names = names' := by
  induction h generalizing names' with
  | here hdecl =>
      cases h' with
      | here hdecl' => rw [Option.some.inj (hdecl.symm.trans hdecl')]
      | inside _ hinner => cases hinner
  | inside houter hinner ih =>
      cases h' with
      | here => cases hinner
      | inside houter' hinner' =>
          obtain rfl := Option.some.inj (houter.symm.trans houter')
          rw [ih hinner']

/-- In a scope that was built by insertion, names lead to one place only. -/
theorem StandsAt.place_unique (h : scope.StandsAt place names decl) (hbuilt : scope.Built)
    (h' : scope.StandsAt place' names' decl') (hnames : names = names') : place = place' := by
  induction h generalizing place' names' with
  | here hdecl =>
      cases h' with
      | here hdecl' =>
          rw [hbuilt.indexed.index_unique hdecl hdecl' (List.head_eq_of_cons_eq hnames)]
      | inside _ hinner =>
          exact absurd (List.tail_eq_of_cons_eq hnames).symm hinner.names_ne_nil
  | inside houter hinner ih =>
      cases h' with
      | here => exact absurd (List.tail_eq_of_cons_eq hnames) hinner.names_ne_nil
      | inside houter' hinner' =>
          obtain rfl :=
            hbuilt.indexed.index_unique houter houter' (List.head_eq_of_cons_eq hnames)
          obtain rfl := Option.some.inj (houter.symm.trans houter')
          have hmembers := hbuilt.members (List.mem_of_getElem? houter)
          rw [ih hmembers hinner' (List.tail_eq_of_cons_eq hnames)]

/-! ## Paths -/

/-- The names that a path is made of. -/
def namesOf (path : String) : List String :=
  (path.toList.splitOn '.').map String.ofList

theorem intercalate_namesOf (path : String) : ".".intercalate (namesOf path) = path := by
  rw [← String.toList_inj, String.toList_intercalate, namesOf, List.map_map]
  have hmap : String.toList ∘ String.ofList = id := funext fun _ => String.toList_ofList
  rw [hmap, List.map_id]
  exact List.intercalate_splitOn '.'

theorem namesOf_intercalate (hnames : names ≠ []) (h : ∀ name ∈ names, '.' ∉ name.toList) :
    namesOf (".".intercalate names) = names := by
  have hdots : ∀ text ∈ names.map String.toList, '.' ∉ text := by
    intro text htext
    obtain ⟨name, hname, rfl⟩ := List.mem_map.1 htext
    exact h name hname
  have hne : names.map String.toList ≠ [] := by simpa using hnames
  have hmap : String.ofList ∘ String.toList = id := funext fun _ => String.ofList_toList
  calc
    namesOf (".".intercalate names)
      = ((['.'].intercalate (names.map String.toList)).splitOn '.').map String.ofList := by
        rw [namesOf, String.toList_intercalate]
        rfl
    _ = (names.map String.toList).map String.ofList := by
        rw [List.splitOn_intercalate '.' hdots hne]
    _ = names := by rw [List.map_map, hmap, List.map_id]

/-- No name in the scope, at any depth, has a dot in it. -/
def HasPlainNames (scope : Scope) : Prop :=
  ∀ place names decl, scope.StandsAt place names decl → '.' ∉ decl.name.toList

theorem StandsAt.namesOf_intercalate (h : scope.StandsAt place names decl)
    (hplain : scope.HasPlainNames) : namesOf (".".intercalate names) = names := by
  apply Scope.namesOf_intercalate h.names_ne_nil
  intro name hname
  obtain ⟨_, _, _, hstands, rfl⟩ := h.exists_of_mem_names hname
  exact hplain _ _ _ hstands

theorem Built.lookup?_eq_some_iff (h : scope.Built) {path : String} :
    scope.lookup? path = some decl ↔ ∃ place, scope.StandsAt place (namesOf path) decl := by
  rw [← declaresAt_iff_exists_place, ← h.descend?_eq_some_iff]
  rfl

/-! ## Main result -/

/-- A scope that was made by attempts to insert declarations is an ordered map from names to
declarations with the positions in bounds, and its look-ups are searches.  If no name has a dot in
it, what is looked up by a path is the declaration at the place whose names make up the path, and
different places have different paths. -/
theorem made_is_ordered_map (h : scope.Made) :
    (∀ decl ∈ scope.decls, decl.members.Made) ∧
    (∀ decl,
      ((∃ back, scope.insert decl = .error back) ↔ ∃ other ∈ scope.decls, other.name = decl.name) ∧
      (∀ back, scope.insert decl = .error back → back = decl ∧ scope.attempt decl = scope) ∧
      ∀ larger, scope.insert decl = .ok larger →
        larger.decls = scope.decls ++ [decl] ∧ scope.attempt decl = larger) ∧
    (∀ name, scope.get? name = scope.decls.find? fun decl => decl.name = name) ∧
    (∀ (name : String) (index : Nat), scope.positions[name]? = some index →
      index < scope.decls.length) ∧
    (∀ path, scope.lookup? path = scope.search? (namesOf path)) ∧
    (scope.HasPlainNames →
      (∀ path decl, scope.lookup? path = some decl ↔
        ∃ place names, scope.StandsAt place names decl ∧ path = ".".intercalate names) ∧
      ∀ place names decl place' names' decl', scope.StandsAt place names decl →
        scope.StandsAt place' names' decl' →
          (".".intercalate names = ".".intercalate names' ↔ place = place')) := by
  have hbuilt := made_iff_built.1 h
  have hindexed := hbuilt.indexed
  refine ⟨fun decl hdecl => made_iff_built.2 (hbuilt.members hdecl),
    fun decl => ⟨?_, fun back hback => ?_, fun larger hlarger => ?_⟩, hindexed.get?_eq_find?,
    fun _ _ => hindexed.lt_length, fun path => hbuilt.descend?_eq_search? _,
    fun hplain => ⟨fun path decl => ?_, ?_⟩⟩
  · simp [hindexed.insert_eq_error_iff]
  · exact ⟨(hindexed.insert_eq_error_iff.1 hback).1, attempt_of_error hback⟩
  · obtain ⟨_, rfl⟩ := insert_eq_ok_iff.1 hlarger
    exact ⟨rfl, attempt_of_ok hlarger⟩
  · rw [hbuilt.lookup?_eq_some_iff]
    constructor
    · rintro ⟨place, hplace⟩
      exact ⟨place, _, hplace, (intercalate_namesOf path).symm⟩
    · rintro ⟨place, names, hplace, rfl⟩
      rw [hplace.namesOf_intercalate hplain]
      exact ⟨place, hplace⟩
  · intro place names decl place' names' decl' hplace hplace'
    constructor
    · intro hpaths
      apply hplace.place_unique hbuilt hplace'
      rw [← hplace.namesOf_intercalate hplain, hpaths, hplace'.namesOf_intercalate hplain]
    · rintro rfl
      rw [hplace.names_unique hplace']

/-! ## A nested scope -/

theorem hasPlainNames_of_forall
    (h : ∀ decl ∈ scope.decls, '.' ∉ decl.name.toList ∧ decl.members.HasPlainNames) :
    scope.HasPlainNames := by
  intro place names decl hstands
  cases hstands with
  | here hdecl => exact (h decl (List.mem_of_getElem? hdecl)).1
  | inside houter hinner => exact (h _ (List.mem_of_getElem? houter)).2 _ _ _ hinner

def statusDecl : TypeDecl :=
  ⟨"Status", .enum, ⟨0, 0⟩, none, ∅⟩

def configDecl : TypeDecl :=
  ⟨"Config", .struct, ⟨0, 0⟩, none, ofAttempts [statusDecl]⟩

def nfcDecl : TypeDecl :=
  ⟨"INfc", .interface, ⟨0, 0⟩, none, ofAttempts [configDecl, statusDecl]⟩

/-- A second declaration of the interface's name, which is rejected. -/
def nfcTwin : TypeDecl :=
  ⟨"INfc", .union, ⟨0, 0⟩, none, ∅⟩

def nfcScope : Scope :=
  ofAttempts [nfcDecl, nfcTwin]

/-- The twin comes back, a name stands in two scopes under different paths, and each of them finds
its own declaration. -/
theorem nfcScope_is_ordered_map :
    nfcScope.Made ∧ nfcScope.HasPlainNames ∧
      (∃ back, nfcScope.insert nfcTwin = .error back) ∧
      nfcScope.get? "INfc" = nfcScope.decls.find? (fun decl => decl.name = "INfc") ∧
      nfcScope.lookup? "INfc.Config.Status" = some statusDecl ∧
      nfcScope.lookup? "INfc.Status" = some statusDecl ∧
      ".".intercalate ["INfc", "Config", "Status"] ≠ ".".intercalate ["INfc", "Status"] := by
  have hstatus : statusDecl.members.Made :=
    @Made.intro [] fun _ hdecl => absurd hdecl List.not_mem_nil
  have hconfig : configDecl.members.Made := .intro (by simpa using hstatus)
  have hnfc : nfcDecl.members.Made := .intro (by simpa using ⟨hconfig, hstatus⟩)
  have hmade : nfcScope.Made := .intro (by simpa using ⟨hnfc, hstatus⟩)
  have hplain : nfcScope.HasPlainNames := by
    have hnone : statusDecl.members.HasPlainNames :=
      hasPlainNames_of_forall fun _ hdecl => absurd hdecl List.not_mem_nil
    have hone : configDecl.members.HasPlainNames := hasPlainNames_of_forall <|
      List.forall_mem_singleton.2 ⟨by decide, hnone⟩
    have htwo : nfcDecl.members.HasPlainNames := hasPlainNames_of_forall <|
      List.forall_mem_cons.2 ⟨⟨by decide, hone⟩, List.forall_mem_singleton.2 ⟨by decide, hnone⟩⟩
    exact hasPlainNames_of_forall (List.forall_mem_singleton.2 ⟨by decide, htwo⟩)
  obtain ⟨_, hinsert, hget, _, _, hpaths⟩ := made_is_ordered_map hmade
  obtain ⟨hlookup, hplaces⟩ := hpaths hplain
  have hfirst : nfcScope.decls[0]? = some nfcDecl := rfl
  have hnested : nfcDecl.members.decls[0]? = some configDecl := rfl
  have hdeep : configDecl.members.decls[0]? = some statusDecl := rfl
  have hbeside : nfcDecl.members.decls[1]? = some statusDecl := rfl
  have hinner : nfcScope.StandsAt [0, 0, 0] ["INfc", "Config", "Status"] statusDecl :=
    .inside hfirst (.inside hnested (.here hdeep))
  have houter : nfcScope.StandsAt [0, 1] ["INfc", "Status"] statusDecl :=
    .inside hfirst (.here hbeside)
  refine ⟨hmade, hplain, (hinsert nfcTwin).1.2 ⟨nfcDecl, ?_, rfl⟩, hget "INfc", ?_, ?_, ?_⟩
  · exact List.mem_singleton_self nfcDecl
  · exact (hlookup _ _).2 ⟨_, _, hinner, rfl⟩
  · exact (hlookup _ _).2 ⟨_, _, houter, rfl⟩
  · rw [ne_eq, hplaces _ _ _ _ _ _ hinner houter]
    decide

end Scope

end HalPackages
