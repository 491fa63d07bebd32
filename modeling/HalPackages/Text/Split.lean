/-!
# Splitting a text at a mark

`splitFirst mark text` is the text before and the text after the first
occurrence of the mark.  Its lemmas say that nothing is lost, and that no
earlier place of the text starts with the mark.  `splitLast` does the same at the
last occurrence of a single character.
-/

namespace HalPackages.Text

variable {α : Type} [BEq α] [LawfulBEq α]

/-- What follows a mark at the start of a text. -/
def afterMark? (mark text : List α) : Option (List α) :=
  mark.isPrefixOf? text

omit [LawfulBEq α] in
theorem afterMark?_cons_cons (m x : α) (mark text : List α) :
    afterMark? (m :: mark) (x :: text) = if m == x then afterMark? mark text else none := rfl

theorem afterMark?_eq_some_iff {mark text after : List α} :
    afterMark? mark text = some after ↔ text = mark ++ after := by
  induction mark generalizing text with
  | nil =>
    rw [List.nil_append]
    exact Option.some_inj
  | cons m mark ih =>
    cases text with
    | nil =>
      have hnone : afterMark? (m :: mark) [] = none := rfl
      simp [hnone]
    | cons x xs =>
      rw [afterMark?_cons_cons]
      by_cases h : m = x
      · subst h
        simpa using ih
      · simp [h, Ne.symm h]

theorem afterMark?_eq_none_iff {mark text : List α} :
    afterMark? mark text = none ↔ ¬ mark <+: text := by
  rw [Option.eq_none_iff_forall_not_mem]
  constructor
  · rintro h ⟨after, rfl⟩
    exact h after (afterMark?_eq_some_iff.2 rfl)
  · rintro h after hafter
    exact h ⟨after, (afterMark?_eq_some_iff.1 hafter).symm⟩

/-- What stands before and after the first occurrence of a mark. -/
def splitFirst (mark : List α) : List α → Option (List α × List α)
  | [] => (afterMark? mark []).map fun after => ([], after)
  | x :: xs =>
    match afterMark? mark (x :: xs) with
    | some after => some ([], after)
    | none => (splitFirst mark xs).map fun (before, after) => (x :: before, after)

/-- The mark and its two sides make up the text. -/
theorem append_of_splitFirst {mark text before after : List α}
    (h : splitFirst mark text = some (before, after)) : before ++ mark ++ after = text := by
  induction text generalizing before with
  | nil =>
    simp only [splitFirst, Option.map_eq_some_iff, Prod.mk.injEq] at h
    obtain ⟨_, hmark, rfl, rfl⟩ := h
    exact (afterMark?_eq_some_iff.1 hmark).symm
  | cons x xs ih =>
    simp only [splitFirst] at h
    split at h
    · rename_i hmark
      simp only [Option.some.injEq, Prod.mk.injEq] at h
      obtain ⟨rfl, rfl⟩ := h
      exact (afterMark?_eq_some_iff.1 hmark).symm
    · obtain ⟨⟨before', after'⟩, hxs, heq⟩ := Option.map_eq_some_iff.1 h
      simp only [Prod.mk.injEq] at heq
      obtain ⟨rfl, rfl⟩ := heq
      simpa using ih hxs

/-- The mark does not stand at any place before the one that is split. -/
theorem not_isPrefix_of_splitFirst {mark text before after : List α}
    (h : splitFirst mark text = some (before, after)) {n : Nat} (hn : n < before.length) :
    ¬ mark <+: text.drop n := by
  induction text generalizing before n with
  | nil =>
    simp only [splitFirst, Option.map_eq_some_iff, Prod.mk.injEq] at h
    obtain ⟨_, _, rfl, _⟩ := h
    simp at hn
  | cons x xs ih =>
    simp only [splitFirst] at h
    split at h
    · simp only [Option.some.injEq, Prod.mk.injEq] at h
      obtain ⟨rfl, _⟩ := h
      simp at hn
    · rename_i hnone
      obtain ⟨⟨before', after'⟩, hxs, heq⟩ := Option.map_eq_some_iff.1 h
      simp only [Prod.mk.injEq] at heq
      obtain ⟨rfl, rfl⟩ := heq
      cases n with
      | zero => exact afterMark?_eq_none_iff.1 hnone
      | succ n => exact ih hxs (by simpa using hn)

/-- A text is left whole only when the mark does not occur in it. -/
theorem splitFirst_eq_none_iff {mark text : List α} :
    splitFirst mark text = none ↔ ¬ mark <:+: text := by
  induction text with
  | nil => simp [splitFirst, afterMark?_eq_none_iff]
  | cons x xs ih =>
    simp only [splitFirst, List.infix_cons_iff, not_or]
    split
    · rename_i hmark
      have : mark <+: x :: xs := ⟨_, (afterMark?_eq_some_iff.1 hmark).symm⟩
      simp [this]
    · rename_i hnone
      simp [afterMark?_eq_none_iff.1 hnone, ih]

/-- What stands before and after the last occurrence of a character. -/
def splitLast (mark : α) : List α → Option (List α × List α)
  | [] => none
  | x :: xs =>
    match splitLast mark xs with
    | some (before, after) => some (x :: before, after)
    | none => if x == mark then some ([], xs) else none

/-- A text is left whole only when the character does not occur in it. -/
theorem splitLast_eq_none_iff {mark : α} {text : List α} :
    splitLast mark text = none ↔ mark ∉ text := by
  induction text with
  | nil => simp [splitLast]
  | cons x xs ih =>
    rw [splitLast, List.mem_cons, not_or, ← ih]
    cases splitLast mark xs <;> simp [eq_comm (a := mark)]

theorem splitLast_append {mark : α} {after : List α} (h : mark ∉ after) (before : List α) :
    splitLast mark (before ++ mark :: after) = some (before, after) := by
  induction before with
  | nil =>
    rw [List.nil_append, splitLast, splitLast_eq_none_iff.2 h]
    exact if_pos BEq.rfl
  | cons x before ih => rw [List.cons_append, splitLast, ih]

/-- The character and its two sides make up the text, and it does not occur again. -/
theorem splitLast_eq_some_iff {mark : α} {text before after : List α} :
    splitLast mark text = some (before, after) ↔
      text = before ++ mark :: after ∧ mark ∉ after := by
  constructor
  · intro h
    induction text generalizing before with
    | nil => contradiction
    | cons x xs ih =>
      rw [splitLast] at h
      split at h
      · rename_i before' after' hxs
        cases h
        obtain ⟨rfl, hafter⟩ := ih hxs
        exact ⟨rfl, hafter⟩
      · rename_i hxs
        rw [Option.ite_none_right_eq_some, beq_iff_eq] at h
        obtain ⟨rfl, h⟩ := h
        cases h
        exact ⟨rfl, splitLast_eq_none_iff.1 hxs⟩
  · rintro ⟨rfl, hafter⟩
    exact splitLast_append hafter before

end HalPackages.Text
