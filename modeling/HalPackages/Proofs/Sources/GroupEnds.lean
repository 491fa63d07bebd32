import HalPackages.Proofs.Sources.Groups

/-!
# Where a group ends

An opening bracket starts at most one group.  If it starts one, just that group is
passed over.  If not, the bracket is never closed, and the reader stops at the first
closing bracket that does not match the innermost open one or, when there is no such
bracket, at the end.

Which bracket is open innermost is told without a stack: it is the one that balanced
tokens follow.  No other bracket can be, because from any of their tokens on, balanced
tokens close at least as many brackets as they open.
-/

namespace HalPackages

open Grammar

variable {tokens others before rest : List Token} {token closer : Token}
variable {bracket closed : Bracket} {outer : List Bracket} {rejection other : Rejection}

/-- How many more brackets a token opens than it closes. -/
def TokenKind.rise : TokenKind → Int
  | opening _ => 1
  | closing _ => -1
  | _ => 0

theorem TokenKind.rise_of_plain {kind : TokenKind} (h : ¬ kind.IsBracket) : kind.rise = 0 := by
  cases kind with
  | opening | closing => exact absurd trivial h
  | _ => rfl

/-- Two places in a list are the same, or one of them comes before the other. -/
theorem append_cons_cases {α : Type} {front front' back back' : List α} {a a' : α}
    (h : front ++ a :: back = front' ++ a' :: back') :
    (front = front' ∧ a = a') ∨
      (∃ between, front' = front ++ a :: between ∧ back = between ++ a' :: back') ∨
      ∃ between, front = front' ++ a' :: between ∧ back' = between ++ a :: back := by
  rcases List.append_eq_append_iff.1 h with ⟨gap, hfront, hgap⟩ | ⟨gap, hfront, hgap⟩
  · rcases List.cons_eq_append_iff.1 hgap with ⟨rfl, heq⟩ | ⟨between, rfl, hback⟩
    · rw [List.append_nil] at hfront
      exact Or.inl ⟨hfront.symm, (List.cons.inj heq).1.symm⟩
    · exact Or.inr (Or.inl ⟨between, hfront, hback⟩)
  · rcases List.cons_eq_append_iff.1 hgap with ⟨rfl, heq⟩ | ⟨between, rfl, hback⟩
    · rw [List.append_nil] at hfront
      exact Or.inl ⟨hfront, (List.cons.inj heq).1⟩
    · exact Or.inr (Or.inr ⟨between, hfront, hback⟩)

namespace Grammar

/-! ## Opened and closed brackets -/

/-- How many more brackets tokens open than they close. -/
def rise : List Token → Int
  | [] => 0
  | token :: tokens => token.kind.rise + rise tokens

theorem rise_append (tokens others : List Token) :
    rise (tokens ++ others) = rise tokens + rise others := by
  induction tokens with
  | nil => rw [List.nil_append, rise, Int.zero_add]
  | cons token tokens ih => rw [List.cons_append, rise, ih, rise, Int.add_assoc]

theorem Balanced.rise_eq_zero (h : Balanced tokens) : rise tokens = 0 := by
  induction h with
  | nil => rfl
  | plain htoken _ ih => rw [rise, TokenKind.rise_of_plain htoken, ih, Int.add_zero]
  | group hopener _ hcloser _ ihInner ihRest =>
      rw [rise, rise_append, rise, hopener, hcloser, ihInner, ihRest]
      rfl

theorem Balanced.rise_suffix_le (h : Balanced tokens) (hothers : others <:+ tokens) :
    rise others ≤ 0 := by
  induction h generalizing others with
  | nil =>
      rw [List.suffix_nil.1 hothers]
      exact Int.le_refl 0
  | plain htoken hrest ih =>
      rcases List.suffix_cons_iff.1 hothers with rfl | hothers
      · exact Int.le_of_eq (Balanced.plain htoken hrest).rise_eq_zero
      · exact ih hothers
  | @group bracket opener closer inner rest hopener hinner hcloser hrest ihInner ihRest =>
      have hclosing : rise (closer :: rest) = -1 := by
        rw [rise, hcloser, hrest.rise_eq_zero]
        rfl
      rcases List.suffix_cons_iff.1 hothers with rfl | ⟨front, heq⟩
      · exact Int.le_of_eq (Balanced.group hopener hinner hcloser hrest).rise_eq_zero
      · rcases List.append_eq_append_iff.1 heq with ⟨last, hlast, rfl⟩ | ⟨first, _, hfirst⟩
        · -- The suffix starts inside the group and has its closing bracket in addition.
          have hrise := ihInner ⟨front, hlast.symm⟩
          rw [rise_append, hclosing]
          omega
        · rcases List.suffix_cons_iff.1 ⟨first, hfirst.symm⟩ with rfl | hothers
          · rw [hclosing]
            decide
          · exact ihRest hothers

/-! ## The innermost open bracket -/

/-- Some tokens leave a bracket of this kind open, and no other after it: those that follow it are
balanced. -/
inductive Innermost (bracket : Bracket) : List Token → Prop where
  | intro {before inner : List Token} {opener : Token} (hopener : opener.kind = .opening bracket)
      (hinner : Balanced inner) : Innermost bracket (before ++ opener :: inner)

/-- Balanced tokens leave no bracket open. -/
theorem Balanced.not_innermost (h : Balanced tokens) : ¬ Innermost bracket tokens := by
  rintro @⟨before, inner, opener, hopener, hinner⟩
  have hrise := h.rise_suffix_le (List.suffix_append before (opener :: inner))
  rw [rise, hopener, hinner.rise_eq_zero] at hrise
  contradiction

/-- No two brackets are open innermost. -/
theorem Innermost.unique (h : Innermost bracket tokens) (hclosed : Innermost closed tokens) :
    bracket = closed := by
  obtain @⟨before, inner, opener, hopener, hinner⟩ := h
  generalize htokens : before ++ opener :: inner = tokens at hclosed
  obtain @⟨before', inner', opener', hopener', hinner'⟩ := hclosed
  rcases append_cons_cases htokens with ⟨_, rfl⟩ | ⟨between, _, rfl⟩ | ⟨between, _, rfl⟩
  · exact TokenKind.opening.inj (hopener.symm.trans hopener')
  · exact absurd (.intro hopener' hinner') hinner.not_innermost
  · exact absurd (.intro hopener hinner) hinner'.not_innermost

/-! ## Closing brackets that match -/

/-- Every closing bracket matches the bracket that is open innermost before it. -/
def ClosersMatch (tokens : List Token) : Prop :=
  ∀ ⦃before after : List Token⦄ ⦃closer : Token⦄ ⦃closed : Bracket⦄,
    tokens = before ++ closer :: after → closer.kind = .closing closed → Innermost closed before

theorem ClosersMatch.concat (h : ClosersMatch tokens)
    (htoken : ∀ closed, token.kind = .closing closed → Innermost closed tokens) :
    ClosersMatch (tokens ++ [token]) := by
  intro before after closer closed heq hcloser
  rcases append_cons_cases heq with ⟨rfl, rfl⟩ | ⟨between, _, hnil⟩ | ⟨between, rfl, _⟩
  · exact htoken closed hcloser
  · exact absurd hnil.symm (List.append_ne_nil_of_right_ne_nil _ (List.cons_ne_nil _ _))
  · exact h rfl hcloser

/-- Where tokens with an open bracket are refused: at the first closing bracket that does not match
the innermost open one, or at the end, when there is no such bracket. -/
inductive RefusedAt : List Token → Rejection → Prop where
  | mismatch {before after : List Token} {closer : Token} {closed : Bracket}
      (hbefore : ClosersMatch before) (hcloser : closer.kind = .closing closed)
      (hinnermost : ¬ Innermost closed before) :
      RefusedAt (before ++ closer :: after) (closer.reject (.unbalanced closed))
  | atEnd {tokens : List Token} (htokens : ClosersMatch tokens) :
      RefusedAt tokens (.atEnd .openGroup)

/-- Tokens are refused in one way only. -/
theorem RefusedAt.unique (h : RefusedAt tokens rejection) (hother : RefusedAt tokens other) :
    rejection = other := by
  cases h with
  | @mismatch before after closer closed hbefore hcloser hinnermost =>
      generalize htokens : before ++ closer :: after = tokens at hother
      cases hother with
      | atEnd hmatch => exact absurd (hmatch htokens.symm hcloser) hinnermost
      | @mismatch _ _ _ closed' hbefore' hcloser' hinnermost' =>
          rcases append_cons_cases htokens with ⟨_, rfl⟩ | ⟨between, rfl, _⟩ | ⟨between, rfl, _⟩
          · obtain rfl : closed = closed' := TokenKind.closing.inj (hcloser.symm.trans hcloser')
            rfl
          · exact absurd (hbefore' rfl hcloser) hinnermost
          · exact absurd (hbefore rfl hcloser') hinnermost'
  | atEnd hmatch =>
      cases hother with
      | mismatch _ hcloser hinnermost => exact absurd (hmatch rfl hcloser) hinnermost
      | atEnd => rfl

/-! ## What is open on the way -/

/-- Tokens leave some brackets open, innermost first, with balanced tokens after each of them. -/
inductive LeavesOpen : List Bracket → List Token → Prop where
  | nil : LeavesOpen [] []
  | cons {bracket : Bracket} {outer : List Bracket} {before inner : List Token} {opener : Token}
      (hbefore : LeavesOpen outer before) (hopener : opener.kind = .opening bracket)
      (hinner : Balanced inner) : LeavesOpen (bracket :: outer) (before ++ opener :: inner)

theorem LeavesOpen.innermost (h : LeavesOpen (bracket :: outer) tokens) :
    Innermost bracket tokens := by
  cases h with
  | cons _ hopener hinner => exact .intro hopener hinner

theorem LeavesOpen.append (h : LeavesOpen (bracket :: outer) tokens) (hothers : Balanced others) :
    LeavesOpen (bracket :: outer) (tokens ++ others) := by
  cases h with
  | cons hbefore hopener hinner =>
      rw [List.append_assoc, List.cons_append]
      exact .cons hbefore hopener (hinner.append hothers)

/-- What the reader has taken while the brackets of a stack are open. -/
structure Taken (opened : List Bracket) (before : List Token) : Prop where
  leavesOpen : LeavesOpen opened before
  closersMatch : ClosersMatch before

theorem Taken.nil : Taken [] [] where
  leavesOpen := .nil
  closersMatch _ _ _ _ htokens :=
    absurd htokens.symm (List.append_ne_nil_of_right_ne_nil _ (List.cons_ne_nil _ _))

theorem Taken.opening (h : Taken outer before) (hopener : token.kind = .opening bracket) :
    Taken (bracket :: outer) (before ++ [token]) where
  leavesOpen := .cons h.leavesOpen hopener .nil
  closersMatch := h.closersMatch.concat fun _ hcloser =>
    TokenKind.noConfusion (hopener.symm.trans hcloser)

/-- The innermost bracket and the one that closes it make a group in the bracket around them. -/
theorem Taken.closing (h : Taken (bracket :: outer) before) (houter : outer ≠ [])
    (hcloser : token.kind = .closing bracket) : Taken outer (before ++ [token]) where
  leavesOpen := by
    obtain ⟨next, outer, rfl⟩ := List.exists_cons_of_ne_nil houter
    cases h.leavesOpen with
    | @cons _ _ before inner opener hbefore hopener hinner =>
        have hgroup : Group bracket (opener :: (inner ++ [token])) := .intro hopener hinner hcloser
        rw [List.append_assoc, List.cons_append]
        exact hbefore.append hgroup.balanced
  closersMatch := h.closersMatch.concat fun closed hcloser' => by
    obtain rfl : bracket = closed := TokenKind.closing.inj (hcloser.symm.trans hcloser')
    exact h.leavesOpen.innermost

theorem Taken.plain (h : Taken (bracket :: outer) before) (hplain : ¬ token.kind.IsBracket) :
    Taken (bracket :: outer) (before ++ [token]) where
  leavesOpen := h.leavesOpen.append (.plain hplain .nil)
  closersMatch := h.closersMatch.concat fun closed hcloser => by
    rw [hcloser] at hplain
    exact absurd trivial hplain

end Grammar

/-- The place where the reader stops is that of all tokens, those taken before included.  The
induction is on the tokens to come, and each of them goes over to those that are taken. -/
theorem refusedAt_of_skipGroup (htaken : Taken (bracket :: outer) before)
    (h : skipGroup (bracket :: outer) tokens = .error rejection) :
    RefusedAt (before ++ tokens) rejection := by
  induction tokens generalizing bracket outer before with
  | nil =>
      cases h
      rw [List.append_nil]
      exact .atEnd htaken.closersMatch
  | cons token tokens ih =>
      rcases token.kind.bracket_cases with ⟨opened, hopener⟩ | ⟨closed, hcloser⟩ | hplain
      · rw [skipGroup_of_opening hopener] at h
        rw [List.append_cons]
        exact ih (htaken.opening hopener) h
      · by_cases hclosed : closed = bracket
        · subst hclosed
          rw [skipGroup_of_closing hcloser] at h
          split at h
          case isTrue => contradiction
          case isFalse houter =>
            obtain ⟨next, outer, rfl⟩ := List.exists_cons_of_ne_nil houter
            rw [List.append_cons]
            exact ih (htaken.closing houter hcloser) h
        · rw [skipGroup_of_mismatch hcloser hclosed] at h
          cases h
          exact .mismatch htaken.closersMatch hcloser fun hinnermost =>
            hclosed (hinnermost.unique htaken.leavesOpen.innermost)
      · rw [skipGroup_of_plain hplain] at h
        rw [List.append_cons]
        exact ih (htaken.plain hplain) h

/-! ## One group -/

theorem refusedAt_of_skipBalanced (hopener : token.kind = .opening bracket)
    (h : skipBalanced (token :: tokens) = .error rejection) :
    RefusedAt (token :: tokens) rejection := by
  rw [skipBalanced, skipGroup_of_opening hopener] at h
  exact refusedAt_of_skipGroup (Taken.nil.opening hopener) h

/-- Two groups at the same place are the same, because both are what is passed over there. -/
theorem Grammar.Group.unique {group other : List Token} (h : Group bracket group)
    (hother : Group bracket other) (htokens : group <+: tokens) (hothers : other <+: tokens) :
    group = other := by
  obtain ⟨rest, rfl⟩ := htokens
  obtain ⟨rest', heq⟩ := hothers
  have hskip : skipBalanced (other ++ rest') = .ok rest' := skipBalanced_of_group hother
  rw [heq, skipBalanced_of_group h, Except.ok.injEq] at hskip
  rw [← hskip] at heq
  exact (List.append_cancel_right heq).symm

/-- After an opening bracket, the reader succeeds exactly if a group starts there, of which there is
at most one, and goes on directly after it.  Otherwise it stops at the first closing bracket that
does not match the innermost open one, or at the end if there is none. -/
theorem skipBalanced_takes_one_group (tokens : List Token)
    (hopener : token.kind = .opening bracket) :
    (∀ rest, skipBalanced (token :: tokens) = .ok rest ↔
        ∃ group, token :: tokens = group ++ rest ∧ Group bracket group) ∧
      (∀ group other, group <+: token :: tokens → other <+: token :: tokens →
        Group bracket group → Group bracket other → group = other) ∧
      ∀ rejection, skipBalanced (token :: tokens) = .error rejection ↔
        (∀ group, group <+: token :: tokens → ¬ Group bracket group) ∧
          RefusedAt (token :: tokens) rejection := by
  refine ⟨fun _ => skipBalanced_eq_ok_iff hopener,
    fun _ _ hgroup hother h h' => h.unique h' hgroup hother, fun rejection => ⟨fun h => ?_, ?_⟩⟩
  · refine ⟨?_, refusedAt_of_skipBalanced hopener h⟩
    rintro group ⟨rest, heq⟩ hgroup
    rw [(skipBalanced_eq_ok_iff hopener).2 ⟨group, heq.symm, hgroup⟩] at h
    contradiction
  · rintro ⟨hnone, hrefused⟩
    cases hskip : skipBalanced (token :: tokens) with
    | ok rest =>
        obtain ⟨group, heq, hgroup⟩ := (skipBalanced_eq_ok_iff hopener).1 hskip
        exact absurd hgroup (hnone group ⟨rest, heq.symm⟩)
    | error other => rw [hrefused.unique (refusedAt_of_skipBalanced hopener hskip)]

/-! ## Brackets that cross -/

namespace CrossedBrackets

def opener : Token := ⟨.opening .paren, "(", ⟨0, 1⟩⟩

/-- The square bracket is closed before the parenthesis. -/
def nested : List Token :=
  [⟨.opening .square, "[", ⟨1, 2⟩⟩, ⟨.name, "x", ⟨2, 3⟩⟩, ⟨.closing .square, "]", ⟨3, 4⟩⟩,
    ⟨.closing .paren, ")", ⟨4, 5⟩⟩]

/-- The square bracket is closed after the parenthesis. -/
def crossed : List Token :=
  [⟨.opening .square, "[", ⟨1, 2⟩⟩, ⟨.name, "x", ⟨2, 3⟩⟩, ⟨.closing .paren, ")", ⟨3, 4⟩⟩,
    ⟨.closing .square, "]", ⟨4, 5⟩⟩]

/-- Nothing closes the parenthesis. -/
def unclosed : List Token :=
  nested.dropLast

theorem nested_taken_others_refused :
    opener.kind = .opening .paren ∧
      (skipBalanced (opener :: (nested ++ crossed)) = .ok crossed ∧
        ∃ group, opener :: (nested ++ crossed) = group ++ crossed ∧ Group .paren group) ∧
      ((∀ group, group <+: opener :: crossed → ¬ Group .paren group) ∧
        RefusedAt (opener :: crossed) ⟨some ⟨3, 4⟩, .unbalanced .paren⟩) ∧
      (∀ group, group <+: opener :: unclosed → ¬ Group .paren group) ∧
        RefusedAt (opener :: unclosed) (.atEnd .openGroup) := by
  have hopener : opener.kind = .opening .paren := rfl
  obtain ⟨htaken, _⟩ := skipBalanced_takes_one_group (nested ++ crossed) hopener
  obtain ⟨_, _, hcrossed⟩ := skipBalanced_takes_one_group crossed hopener
  obtain ⟨_, _, hunclosed⟩ := skipBalanced_takes_one_group unclosed hopener
  exact ⟨hopener, ⟨rfl, (htaken crossed).1 rfl⟩, (hcrossed _).1 rfl, (hunclosed _).1 rfl⟩

end CrossedBrackets

end HalPackages
