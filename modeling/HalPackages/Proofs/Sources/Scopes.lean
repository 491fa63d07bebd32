import HalPackages.Source.TypeDecl
import Mathlib.Data.List.Basic

/-!
# Look-ups in scopes

A scope finds a declaration through the position that it keeps for the name.  Which
declaration is meant by a path does not depend on positions: it is the one that is
reached through the lists of declarations.  The two agree in scopes that were built
by insertion, and so were the scopes of everything declared inside.
-/

namespace HalPackages

namespace Scope

/-- The scope was built by insertion, and so were the scopes of its declarations. -/
inductive Built : Scope → Prop where
  | empty : Built ∅
  | insert {scope scope' : Scope} {decl : TypeDecl} (hscope : Built scope)
      (hmembers : Built decl.members) (hinsert : scope.insert decl = .ok scope') : Built scope'

/-- A name has a position if it is declared, and it is that of its declaration. -/
def Indexed (scope : Scope) : Prop :=
  ∀ (name : String) (index : Nat), scope.positions[name]? = some index ↔
    ∃ decl, scope.decls[index]? = some decl ∧ decl.name = name

/-- The declaration is reached from a scope by a list of names, one inside the other. -/
inductive DeclaresAt : Scope → List String → TypeDecl → Prop where
  | here {scope : Scope} {decl : TypeDecl} (hdecl : decl ∈ scope.decls) :
      DeclaresAt scope [decl.name] decl
  | inside {scope : Scope} {outer decl : TypeDecl} {names : List String}
      (houter : outer ∈ scope.decls) (hinner : DeclaresAt outer.members names decl) :
      DeclaresAt scope (outer.name :: names) decl

variable {scope scope' : Scope} {decl other : TypeDecl} {name : String} {names : List String}

/-! ## Insertion -/

/-- A declaration that is inserted has a new name and comes last. -/
theorem insert_eq_ok_iff : scope.insert decl = .ok scope' ↔
    scope.positions[decl.name]? = none ∧
      scope' = ⟨scope.decls ++ [decl], scope.positions.insert decl.name scope.decls.length⟩ := by
  rw [insert, Std.TreeMap.contains_eq_isSome_getElem?]
  cases scope.positions[decl.name]? with
  | none => simp [eq_comm]
  | some index => simp

theorem mem_decls_of_insert (h : scope.insert decl = .ok scope') :
    other ∈ scope'.decls ↔ other ∈ scope.decls ∨ other = decl := by
  obtain ⟨_, rfl⟩ := insert_eq_ok_iff.1 h
  rw [List.mem_append, List.mem_singleton]

private theorem getElem?_decls_of_insert (h : scope.insert decl = .ok scope') {index : Nat} :
    scope'.decls[index]? = some other ↔
      scope.decls[index]? = some other ∨ index = scope.decls.length ∧ other = decl := by
  obtain ⟨_, rfl⟩ := insert_eq_ok_iff.1 h
  rcases Nat.lt_trichotomy index scope.decls.length with hindex | rfl | hindex
  · rw [List.getElem?_append_left hindex]
    simp [Nat.ne_of_lt hindex]
  · simp [eq_comm]
  · rw [List.getElem?_eq_none (by simp; omega), List.getElem?_eq_none (Nat.le_of_lt hindex)]
    simp [Nat.ne_of_gt hindex]

theorem indexed_empty : (∅ : Scope).Indexed := by
  intro name index
  have hpositions : (∅ : Scope).positions[name]? = none := Std.TreeMap.getElem?_emptyc
  have hdecls : (∅ : Scope).decls[index]? = none := rfl
  simp [hpositions, hdecls]

theorem Indexed.insert (h : scope.Indexed) (hinsert : scope.insert decl = .ok scope') :
    scope'.Indexed := by
  intro name index
  obtain ⟨hnew, heq⟩ := insert_eq_ok_iff.1 hinsert
  have hposition : scope'.positions[name]? =
      if decl.name = name then some scope.decls.length else scope.positions[name]? := by
    rw [heq, Std.TreeMap.getElem?_insert]
    simp only [Std.compare_eq_iff_eq]
  simp only [hposition, getElem?_decls_of_insert hinsert]
  by_cases hname : decl.name = name
  · subst hname
    rw [if_pos rfl, Option.some.injEq]
    constructor
    · rintro rfl
      exact ⟨decl, Or.inr ⟨rfl, rfl⟩, rfl⟩
    · rintro ⟨other, hother | ⟨rfl, _⟩, hname⟩
      · have htaken := (h decl.name index).2 ⟨other, hother, hname⟩
        rw [hnew] at htaken
        contradiction
      · rfl
  · rw [if_neg hname, h name index]
    constructor
    · rintro ⟨other, hother, hother'⟩
      exact ⟨other, Or.inl hother, hother'⟩
    · rintro ⟨other, hother | ⟨_, rfl⟩, hother'⟩
      · exact ⟨other, hother, hother'⟩
      · exact absurd hother' hname

theorem Built.indexed (h : scope.Built) : scope.Indexed := by
  induction h with
  | empty => exact indexed_empty
  | insert _ _ hinsert ih _ => exact ih.insert hinsert

theorem Built.members (h : scope.Built) (hdecl : decl ∈ scope.decls) : decl.members.Built := by
  induction h with
  | empty => contradiction
  | insert _ hmembers hinsert ih _ =>
      rcases (mem_decls_of_insert hinsert).1 hdecl with hold | rfl
      · exact ih hold
      · exact hmembers

/-! ## Look-ups -/

theorem Indexed.get?_eq_some_iff (h : scope.Indexed) :
    scope.get? name = some decl ↔ decl ∈ scope.decls ∧ decl.name = name := by
  rw [get?, Option.bind_eq_some_iff, List.mem_iff_getElem?]
  constructor
  · rintro ⟨index, hindex, hdecl⟩
    obtain ⟨other, hother, hname⟩ := (h name index).1 hindex
    obtain rfl : other = decl := Option.some.inj (hother.symm.trans hdecl)
    exact ⟨⟨index, hdecl⟩, hname⟩
  · rintro ⟨⟨index, hdecl⟩, hname⟩
    exact ⟨index, (h name index).2 ⟨decl, hdecl, hname⟩, hdecl⟩

/-- Going down by names finds the declaration that is reached by them. -/
theorem Built.descend?_eq_some_iff (h : scope.Built) :
    scope.descend? names = some decl ↔ scope.DeclaresAt names decl := by
  induction names generalizing scope with
  | nil =>
      rw [descend?]
      exact ⟨fun hnone => by contradiction, fun hdeclares => by cases hdeclares⟩
  | cons name inner ih =>
      cases inner with
      | nil =>
          rw [descend?, h.indexed.get?_eq_some_iff]
          constructor
          · rintro ⟨hdecl, rfl⟩
            exact .here hdecl
          · intro hdeclares
            cases hdeclares with
            | here hdecl => exact ⟨hdecl, rfl⟩
            | inside _ hinner => cases hinner
      | cons next inner =>
          have hdescend : scope.descend? (name :: next :: inner) =
              (scope.get? name).bind fun outer => outer.members.descend? (next :: inner) := rfl
          rw [hdescend, Option.bind_eq_some_iff]
          constructor
          · rintro ⟨outer, hget, hinner⟩
            obtain ⟨houter, rfl⟩ := h.indexed.get?_eq_some_iff.1 hget
            exact .inside houter ((ih (h.members houter)).1 hinner)
          · intro hdeclares
            cases hdeclares with
            | @inside _ outer _ _ houter hinner =>
                exact ⟨outer, h.indexed.get?_eq_some_iff.2 ⟨houter, rfl⟩,
                  (ih (h.members houter)).2 hinner⟩

/-- The last name is that of the declaration itself. -/
theorem DeclaresAt.getLast?_eq (h : scope.DeclaresAt names decl) :
    names.getLast? = some decl.name := by
  induction h with
  | here => rfl
  | inside _ _ ih => rw [List.getLast?_cons, ih, Option.getD_some]

end Scope

end HalPackages
