import HalPackages.Proofs.Sources.DerivedParts

/-!
# What counts as a group

A group is passed over exactly if its brackets are balanced: while tokens are passed
over, the brackets that are open stand in a stack, and what has been taken in the end
closes each of them in turn, with balanced tokens before each closing bracket.  The
same holds of annotations, whose arguments are groups.
-/

namespace HalPackages

open Grammar

variable {tokens others rest : List Token} {token : Token} {bracket : Bracket}
variable {outer : List Bracket}

namespace Grammar

/-! ## Balanced tokens -/

theorem Balanced.append (h : Balanced tokens) (hothers : Balanced others) :
    Balanced (tokens ++ others) := by
  induction h with
  | nil => exact hothers
  | plain htoken _ ih => exact .plain htoken ih
  | group hopener hinner hcloser _ _ ih =>
      rw [List.cons_append, List.append_assoc, List.cons_append]
      exact .group hopener hinner hcloser ih

theorem balanced_of_forall (h : ∀ token ∈ tokens, ¬ token.kind.IsBracket) : Balanced tokens := by
  induction tokens with
  | nil => exact .nil
  | cons token tokens ih =>
      obtain ⟨htoken, htokens⟩ := List.forall_mem_cons.1 h
      exact .plain htoken (ih htokens)

theorem Group.balanced (h : Group bracket tokens) : Balanced tokens := by
  obtain ⟨hopener, hinner, hcloser⟩ := h
  exact .group hopener hinner hcloser .nil

theorem Annotation.balanced (h : Annotation tokens) : Balanced tokens := by
  have hplain {word : Token} (hword : word.kind = .atWord) : ¬ word.kind.IsBracket := by
    rw [hword]
    exact id
  cases h with
  | bare hword => exact .plain (hplain hword) .nil
  | applied hword harguments => exact .plain (hplain hword) harguments.balanced

/-! ## Open brackets -/

/-- The tokens close all of some open brackets, innermost first, and end with the last of them. -/
inductive Closes : List Bracket → List Token → Prop where
  | last {bracket : Bracket} {inner : List Token} {closer : Token} (hinner : Balanced inner)
      (hcloser : closer.kind = .closing bracket) : Closes [bracket] (inner ++ [closer])
  | cons {bracket : Bracket} {outer : List Bracket} {inner rest : List Token} {closer : Token}
      (hinner : Balanced inner) (hcloser : closer.kind = .closing bracket)
      (hrest : Closes outer rest) : Closes (bracket :: outer) (inner ++ closer :: rest)

theorem Closes.ne_nil (h : Closes outer tokens) : outer ≠ [] := by
  cases h <;> exact List.cons_ne_nil _ _

/-- Balanced tokens may stand before. -/
theorem Closes.prepend (hothers : Balanced others) (h : Closes outer tokens) :
    Closes outer (others ++ tokens) := by
  cases h with
  | last hinner hcloser =>
      rw [← List.append_assoc]
      exact .last (hothers.append hinner) hcloser
  | cons hinner hcloser hrest =>
      rw [← List.append_assoc]
      exact .cons (hothers.append hinner) hcloser hrest

/-- A bracket that opens is closed first. -/
theorem Closes.opening (hopener : token.kind = .opening bracket) (houter : outer ≠ [])
    (h : Closes (bracket :: outer) tokens) : Closes outer (token :: tokens) := by
  cases h with
  | last => contradiction
  | @cons _ _ inner rest closer hinner hcloser hrest =>
      have hgroup : Group bracket (token :: (inner ++ [closer])) := .intro hopener hinner hcloser
      have h := hrest.prepend hgroup.balanced
      rwa [List.cons_append, List.append_assoc, List.singleton_append] at h

end Grammar

/-! ## What is passed over -/

theorem TokenKind.bracket_cases (kind : TokenKind) :
    (∃ bracket, kind = .opening bracket) ∨ (∃ bracket, kind = .closing bracket) ∨
      ¬ kind.IsBracket := by
  cases kind with
  | opening bracket => exact Or.inl ⟨bracket, rfl⟩
  | closing bracket => exact Or.inr (Or.inl ⟨bracket, rfl⟩)
  | _ => exact Or.inr (Or.inr id)

theorem eq_of_skipGroup_of_closing {closed : Bracket} (hcloser : token.kind = .closing closed)
    (h : skipGroup (bracket :: outer) (token :: tokens) = .ok rest) : closed = bracket := by
  refine Decidable.byContradiction fun hclosed => ?_
  rw [skipGroup_of_mismatch hcloser hclosed] at h
  contradiction

/-- When a group is passed over, some of whose brackets are open already, what is taken closes them;
and what closes them is taken. -/
theorem skipGroup_eq_ok_iff :
    skipGroup (bracket :: outer) tokens = .ok rest ↔
      ∃ taken, tokens = taken ++ rest ∧ Closes (bracket :: outer) taken := by
  constructor
  · intro h
    induction tokens generalizing bracket outer with
    | nil => contradiction
    | cons token tokens ih =>
        rcases token.kind.bracket_cases with ⟨opened, hopener⟩ | ⟨closed, hcloser⟩ | hplain
        · rw [skipGroup_of_opening hopener] at h
          obtain ⟨taken, rfl, htaken⟩ := ih h
          exact ⟨token :: taken, rfl, htaken.opening hopener (List.cons_ne_nil _ _)⟩
        · obtain rfl := eq_of_skipGroup_of_closing hcloser h
          rw [skipGroup_of_closing hcloser] at h
          split at h
          case isTrue houter =>
            cases h
            subst houter
            exact ⟨[token], rfl, .last .nil hcloser⟩
          case isFalse houter =>
            obtain ⟨next, outer, rfl⟩ := List.exists_cons_of_ne_nil houter
            obtain ⟨taken, rfl, htaken⟩ := ih h
            exact ⟨token :: taken, rfl, .cons .nil hcloser htaken⟩
        · rw [skipGroup_of_plain hplain] at h
          obtain ⟨taken, rfl, htaken⟩ := ih h
          exact ⟨token :: taken, rfl, htaken.prepend (.plain hplain .nil)⟩
  · rintro ⟨taken, rfl, htaken⟩
    generalize bracket :: outer = opened at htaken
    induction htaken with
    | last hinner hcloser =>
        rw [List.append_assoc, List.singleton_append, skipGroup_of_balanced hinner,
          skipGroup_of_closing hcloser, if_pos rfl]
    | cons hinner hcloser hrest ih =>
        rw [List.append_assoc, List.cons_append, skipGroup_of_balanced hinner,
          skipGroup_of_closing hcloser, if_neg hrest.ne_nil, ih]

/-- After an opening bracket, the group that it starts is what is passed over. -/
theorem skipBalanced_eq_ok_iff (hopener : token.kind = .opening bracket) :
    skipBalanced (token :: tokens) = .ok rest ↔
      ∃ group, token :: tokens = group ++ rest ∧ Group bracket group := by
  rw [skipBalanced, skipGroup_of_opening hopener, skipGroup_eq_ok_iff]
  constructor
  · rintro ⟨taken, rfl, htaken⟩
    cases htaken with
    | last hinner hcloser => exact ⟨_, rfl, .intro hopener hinner hcloser⟩
    | cons _ _ hrest => exact absurd rfl hrest.ne_nil
  · rintro ⟨group, heq, hopener', hinner, hcloser⟩
    obtain ⟨rfl, rfl⟩ := List.cons.inj heq
    exact ⟨_, rfl, .last hinner hcloser⟩

/-- Arguments are passed over if a parenthesis opens them. -/
theorem skipArguments_eq_ok_iff :
    skipArguments tokens = .ok rest ↔
      (rest = tokens ∧ ∀ token ∈ tokens.head?, token.kind ≠ .opening .paren) ∨
        ∃ arguments, tokens = arguments ++ rest ∧ Group .paren arguments := by
  constructor
  · intro h
    cases tokens with
    | nil =>
        cases h
        exact Or.inl ⟨rfl, fun _ htoken => by contradiction⟩
    | cons token tokens =>
        rw [skipArguments] at h
        split at h
        case isTrue hopener => exact Or.inr ((skipBalanced_eq_ok_iff hopener).1 h)
        case isFalse hopener =>
          cases h
          exact Or.inl ⟨rfl, forall_mem_head?_cons.2 hopener⟩
  · rintro (⟨rfl, hfirst⟩ | ⟨arguments, rfl, harguments⟩)
    · exact skipArguments_of_bare hfirst
    · exact skipArguments_of_group harguments

theorem EndsAnnotations.cons {first : List Token} {annotations : List (List Token)}
    (h : EndsAnnotations annotations rest)
    (hbare : ∀ word, first = [word] →
      ∀ token ∈ (annotations.flatten ++ rest).head?, token.kind ≠ .opening .paren) :
    EndsAnnotations (first :: annotations) rest := by
  refine ⟨h.atWord, fun word hlast => ?_⟩
  cases annotations with
  | nil => exact hbare word (Option.some.inj hlast)
  | cons next annotations => exact h.paren word (by rwa [List.getLast?_cons_cons] at hlast)

theorem EndsAnnotations.mono {annotations : List (List Token)}
    (h : EndsAnnotations annotations rest)
    (hhead : ∀ token ∈ others.head?, token ∈ rest.head?) : EndsAnnotations annotations others where
  atWord token htoken := h.atWord token (hhead token htoken)
  paren word hlast token htoken := h.paren word hlast token (hhead token htoken)

/-- All annotations are passed over, up to the first token that belongs to none. -/
theorem exists_annotations_of_skipAnnotations (h : skipAnnotations tokens = .ok rest) :
    ∃ annotations : List (List Token), tokens = annotations.flatten ++ rest ∧
      (∀ annotation ∈ annotations, Annotation annotation) ∧ EndsAnnotations annotations rest := by
  fun_induction skipAnnotations tokens with
  | case1 =>
      cases h
      exact ⟨[], rfl, fun _ hannotation => absurd hannotation List.not_mem_nil,
        ⟨fun _ htoken => by contradiction, fun _ hlast => by contradiction⟩⟩
  | case2 word tokens hword afterArguments hskipped ih =>
      obtain ⟨annotations, rfl, hannotations, hends⟩ := ih h
      rcases skipArguments_eq_ok_iff.1 hskipped with ⟨rfl, hfirst⟩ | ⟨arguments, rfl, harguments⟩
      · exact ⟨[word] :: annotations, rfl, List.forall_mem_cons.2 ⟨.bare hword, hannotations⟩,
          hends.cons fun _ _ => hfirst⟩
      · refine ⟨(word :: arguments) :: annotations, ?_,
          List.forall_mem_cons.2 ⟨.applied hword harguments, hannotations⟩, hends.cons ?_⟩
        · rw [List.flatten_cons, List.cons_append, List.cons_append, List.append_assoc]
        · rintro last heq
          obtain ⟨opener, tail, rfl, _⟩ := harguments.exists_eq_cons
          cases heq
  | case3 => contradiction
  | case4 token tokens hword =>
      cases h
      exact ⟨[], rfl, fun _ hannotation => absurd hannotation List.not_mem_nil,
        ⟨forall_mem_head?_cons.2 hword, fun _ hlast => by contradiction⟩⟩

end HalPackages
