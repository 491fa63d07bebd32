/-!
# Sets of code points

A set of characters is given as an ascending table of closed ranges of code
points.  A look-up walks the table and stops at the first range that ends at or
after the code point; on an ascending table this loses nothing.  So a table comes
with the proof that it ascends.
-/

namespace HalPackages.Text

/-- Whether a code point lies in one of the ranges of an ascending table. -/
def inRanges : List (Nat × Nat) → Nat → Bool
  | [], _ => false
  | (low, high) :: ranges, n =>
    if n < low then false else if n ≤ high then true else inRanges ranges n

/-- Whether a table lists its ranges from low to high, without overlaps, from `floor` on. -/
def ascendsFrom (floor : Nat) : List (Nat × Nat) → Bool
  | [] => true
  | (low, high) :: ranges => floor ≤ low && low ≤ high && ascendsFrom (high + 1) ranges

theorem le_of_ascendsFrom {floor : Nat} {ranges : List (Nat × Nat)}
    (h : ascendsFrom floor ranges = true) {range : Nat × Nat} (hmem : range ∈ ranges) :
    floor ≤ range.1 := by
  induction ranges generalizing floor with
  | nil => simp at hmem
  | cons first ranges ih =>
    obtain ⟨low, high⟩ := first
    simp only [ascendsFrom, Bool.and_eq_true, decide_eq_true_eq] at h
    rcases List.mem_cons.1 hmem with rfl | hmem
    · exact h.1.1
    · have := ih h.2 hmem
      omega

/-- On an ascending table the look-up finds a code point exactly if some range holds it. -/
theorem inRanges_iff {floor : Nat} {ranges : List (Nat × Nat)}
    (h : ascendsFrom floor ranges = true) (n : Nat) :
    inRanges ranges n = true ↔ ∃ range ∈ ranges, range.1 ≤ n ∧ n ≤ range.2 := by
  induction ranges generalizing floor with
  | nil => simp [inRanges]
  | cons first ranges ih =>
    obtain ⟨low, high⟩ := first
    simp only [ascendsFrom, Bool.and_eq_true, decide_eq_true_eq] at h
    simp only [inRanges, List.mem_cons, exists_eq_or_imp]
    split
    · rename_i hlow
      simp only [Bool.false_eq_true, false_iff, not_or, not_exists, not_and]
      refine ⟨by omega, fun range hmem hle => ?_⟩
      have := le_of_ascendsFrom h.2 hmem
      omega
    · split
      · simp only [true_iff]
        left
        omega
      · rw [ih h.2]
        constructor
        · exact Or.inr
        · rintro (⟨_, _⟩ | hrange)
          · omega
          · exact hrange

/-- An ascending table of ranges of code points. -/
structure RangeTable where
  ranges : List (Nat × Nat)
  ascends : ascendsFrom 0 ranges = true

namespace RangeTable

/-- Whether a code point lies in one of the ranges of a table. -/
def contains (table : RangeTable) (n : Nat) : Bool :=
  inRanges table.ranges n

theorem contains_iff (table : RangeTable) (n : Nat) :
    table.contains n = true ↔ ∃ range ∈ table.ranges, range.1 ≤ n ∧ n ≤ range.2 :=
  inRanges_iff table.ascends n

end RangeTable

end HalPackages.Text
