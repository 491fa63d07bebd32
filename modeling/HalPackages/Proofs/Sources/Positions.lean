import HalPackages.Proofs.Sources.Bytes
import Mathlib.Algebra.Group.Nat.Defs
import Mathlib.Data.List.Count
import Mathlib.Data.List.TakeWhile

/-!
# Lines and columns

A line index finds the line of an offset in a table of line starts.  The table is
strictly ascending, and the starts up to an offset are zero and the offsets behind the
line breaks below it.  So the line counts these breaks, the column counts the bytes
after the last of them, and different offsets have different positions in the order
of the text.
-/

namespace HalPackages

open Text

/-- A position comes before another one if it is on an earlier line, or in an earlier column of the
same line. -/
def Position.Before (position other : Position) : Prop :=
  position.line < other.line ∨ position.line = other.line ∧ position.column < other.column

namespace LineIndex

variable {offset : Nat}

/-! ## The table of line starts -/

theorem breaksFrom_eq (base : Nat) (cs : List Char) :
    breaksFrom base cs = ((bytes cs).idxsOf lineBreak base).map (· + 1) := by
  induction cs generalizing base with
  | nil => rfl
  | cons c cs ih =>
      rw [breaksFrom, bytes_cons, List.idxsOf_append, String.length_utf8EncodeChar]
      by_cases hc : c = '\n'
      · subst hc
        rw [if_pos rfl, ih]
        rfl
      · have hnone : (String.utf8EncodeChar c).idxsOf lineBreak base = [] :=
          List.idxsOf_eq_nil_iff.2 fun byte hbyte =>
            beq_false_of_ne fun heq => lineBreak_notMem hc (heq ▸ hbyte)
        rw [if_neg hc, ih, hnone, List.nil_append]

/-- The places of the line breaks below an offset are found before all others. -/
theorem takeWhile_idxsOf (text : List UInt8) (offset : Nat) :
    (text.idxsOf lineBreak).takeWhile (· < offset) = (text.take offset).idxsOf lineBreak := by
  rcases Nat.le_total text.length offset with hend | hend
  · rw [List.take_of_length_le hend, List.takeWhile_eq_self_iff]
    intro place hplace
    have hlt := List.lt_add_of_mem_idxsOf place hplace
    exact decide_eq_true (by omega)
  · have hbelow : ∀ place ∈ (text.take offset).idxsOf lineBreak,
        decide (place < offset) = true := by
      intro place hplace
      have hlt := List.lt_add_of_mem_idxsOf place hplace
      rw [List.length_take] at hlt
      exact decide_eq_true (by omega)
    have habove : ((text.drop offset).idxsOf lineBreak offset).takeWhile (· < offset) = [] := by
      refine List.takeWhile_eq_nil_iff.2 fun hpos hfirst => ?_
      have hle := List.ge_of_mem_idxsOf _ (List.get_mem _ ⟨0, hpos⟩)
      exact absurd (of_decide_eq_true hfirst) (Nat.not_lt.2 hle)
    have hsplit : text.idxsOf lineBreak =
        (text.take offset).idxsOf lineBreak ++ (text.drop offset).idxsOf lineBreak offset := by
      have happend := @List.idxsOf_append _ (text.take offset) (text.drop offset) lineBreak 0 _
      rw [List.take_append_drop, List.length_take, Nat.min_eq_left hend, Nat.zero_add] at happend
      exact happend
    rw [hsplit, List.takeWhile_append_of_pos hbelow, habove, List.append_nil]

/-- The starts of lines up to an offset. -/
theorem takeWhile_starts (text : String) (offset : Nat) :
    (ofText text).starts.takeWhile (· ≤ offset) =
      0 :: (((bytes text.toList).take offset).idxsOf lineBreak).map (· + 1) := by
  rw [ofText, breaksFrom_eq, List.takeWhile_cons_of_pos (by simp), List.takeWhile_map,
    ← takeWhile_idxsOf]
  rfl

theorem pairwise_starts (text : String) : (ofText text).starts.Pairwise (· < ·) := by
  rw [ofText, breaksFrom_eq, List.pairwise_cons, List.pairwise_map]
  refine ⟨?_, List.pairwise_idxsOf.imp Nat.succ_lt_succ⟩
  intro start hstart
  obtain ⟨place, _, rfl⟩ := List.mem_map.1 hstart
  exact Nat.succ_pos place

theorem le_utf8ByteSize_of_mem_starts {text : String} {start : Nat}
    (h : start ∈ (ofText text).starts) : start ≤ text.utf8ByteSize := by
  rw [ofText, breaksFrom_eq, List.mem_cons] at h
  rcases h with rfl | h
  · exact Nat.zero_le _
  · obtain ⟨place, hplace, rfl⟩ := List.mem_map.1 h
    have hlt := List.lt_add_of_mem_idxsOf place hplace
    rw [length_bytes, byteLength_toList] at hlt
    exact hlt

/-! ## The line of an offset -/

/-- A line starts at an offset at the start of the text or just behind a line break, and it goes on
without a line break up to another offset. -/
structure LineReaches (text : List UInt8) (start offset : Nat) : Prop where
  le_offset : start ≤ offset
  begins : start = 0 ∨ ∃ place, start = place + 1 ∧ text[place]? = some lineBreak
  goes_on : ∀ place, start ≤ place → place < offset → text[place]? ≠ some lineBreak

theorem mem_idxsOf_take_iff {text : List UInt8} {place : Nat} :
    place ∈ (text.take offset).idxsOf lineBreak ↔
      place < offset ∧ text[place]? = some lineBreak := by
  rw [List.mem_idxsOf_iff_exists_getElem_pos]
  constructor
  · rintro ⟨hplace, hbyte⟩
    rw [List.length_take] at hplace
    rw [List.getElem_take, beq_iff_eq] at hbyte
    exact ⟨by omega, List.getElem?_eq_some_iff.2 ⟨by omega, hbyte⟩⟩
  · rintro ⟨hplace, hbyte⟩
    obtain ⟨hlength, hbyte⟩ := List.getElem?_eq_some_iff.1 hbyte
    refine ⟨by rw [List.length_take]; omega, ?_⟩
    rw [List.getElem_take, beq_iff_eq]
    exact hbyte

/-- The last start up to an offset is that of the line which reaches the offset. -/
theorem lineReaches_getLastD (text : List UInt8) (offset : Nat) :
    LineReaches text ((((text.take offset).idxsOf lineBreak).map (· + 1)).getLastD 0) offset := by
  rcases List.eq_nil_or_concat ((text.take offset).idxsOf lineBreak) with
    hnone | ⟨front, last, hlast⟩
  · rw [hnone]
    refine ⟨Nat.zero_le offset, Or.inl rfl, ?_⟩
    intro place _ hplace hbyte
    have hmem := mem_idxsOf_take_iff.2 ⟨hplace, hbyte⟩
    rw [hnone] at hmem
    exact absurd hmem List.not_mem_nil
  · rw [List.concat_eq_append] at hlast
    have hmem : last ∈ (text.take offset).idxsOf lineBreak := by
      rw [hlast]
      exact List.mem_append_right _ (List.mem_singleton_self last)
    obtain ⟨hbelow, hbreak⟩ := mem_idxsOf_take_iff.1 hmem
    have hstart : (((text.take offset).idxsOf lineBreak).map (· + 1)).getLastD 0 = last + 1 := by
      rw [hlast, List.map_append, List.map_singleton, List.getLastD_concat]
    rw [hstart]
    refine ⟨hbelow, Or.inr ⟨last, rfl, hbreak⟩, ?_⟩
    intro place hle hplace hbyte
    -- a later break below the offset would come after the last one
    have hother := mem_idxsOf_take_iff.2 ⟨hplace, hbyte⟩
    have hsorted : ((text.take offset).idxsOf lineBreak).Pairwise (· < ·) := List.pairwise_idxsOf
    rw [hlast] at hother hsorted
    rcases List.mem_append.1 hother with hfront | heq
    · have hlt := (List.pairwise_append.1 hsorted).2.2 place hfront last
        (List.mem_singleton_self last)
      omega
    · rw [List.mem_singleton] at heq
      omega

/-- The line of an offset counts the line breaks below it, and the column what comes after the start
of the line. -/
theorem exists_position_eq (text : String) (offset : Nat) :
    ∃ start, LineReaches (bytes text.toList) start offset ∧
      (ofText text).starts[((bytes text.toList).take offset).count lineBreak]? = some start ∧
      (ofText text).position offset =
        ⟨((bytes text.toList).take offset).count lineBreak, offset - start⟩ := by
  have hreached := takeWhile_starts text offset
  refine ⟨_, lineReaches_getLastD (bytes text.toList) offset, ?_, ?_⟩
  · -- the starts up to the offset are the first ones of the table
    obtain ⟨rest, hrest⟩ := List.takeWhile_prefix (l := (ofText text).starts) (decide <| · ≤ offset)
    have hlast := @List.getLast?_eq_getElem? _
      (0 :: (((bytes text.toList).take offset).idxsOf lineBreak).map (· + 1))
    rw [List.getLast?_cons, ← List.getLastD_eq_getLast?, List.length_cons, List.length_map,
      List.length_idxsOf, Nat.add_sub_cancel] at hlast
    rw [← hrest, hreached, List.getElem?_append_left, ← hlast]
    rw [List.length_cons, List.length_map, List.length_idxsOf]
    exact Nat.lt_succ_self _
  · rw [position, hreached, List.length_cons, List.length_map, List.length_idxsOf,
      Nat.add_sub_cancel, List.getLastD_cons]

/-- Neither the line nor the column of an offset is greater than the offset. -/
theorem position_le (text : String) (offset : Nat) :
    ((ofText text).position offset).line ≤ offset ∧
      ((ofText text).position offset).column ≤ offset := by
  obtain ⟨start, _, _, hposition⟩ := exists_position_eq text offset
  rw [hposition]
  exact ⟨List.count_le_length.trans (List.length_take_le _ _), Nat.sub_le _ _⟩

theorem before_of_lt (text : String) {other : Nat} (h : offset < other) :
    ((ofText text).position offset).Before ((ofText text).position other) := by
  obtain ⟨start, hreaches, hstart, hposition⟩ := exists_position_eq text offset
  obtain ⟨start', _, hstart', hposition'⟩ := exists_position_eq text other
  have hlines : ((bytes text.toList).take offset).count lineBreak ≤
      ((bytes text.toList).take other).count lineBreak :=
    (List.take_prefix_take_left (Nat.le_of_lt h)).sublist.count_le lineBreak
  rw [hposition, hposition', Position.Before]
  rcases Nat.lt_or_eq_of_le hlines with hearlier | hsame
  · exact Or.inl hearlier
  · -- offsets on the same line are counted from the same start
    rw [hsame, hstart', Option.some.injEq] at hstart
    have hle := hreaches.le_offset
    exact Or.inr ⟨hsame, by dsimp only; omega⟩

/-- The line of an offset is the number of line breaks below it, and the column counts from the
start of that line, which lies behind the last of these breaks.  The table that is searched for the
line is strictly ascending, and for a text of less than 4 GiB the table and the lines fit into 32
bits.  Positions have the order of their offsets, so different offsets have different ones. -/
theorem positions_exact (text : String) (htext : text.utf8ByteSize < 2 ^ 32) :
    (ofText text).starts.Pairwise (· < ·) ∧
      (∀ start ∈ (ofText text).starts, start < 2 ^ 32) ∧
      (∀ offset, ∃ start, LineReaches text.toUTF8.data.toList start offset ∧
        (ofText text).starts[((ofText text).position offset).line]? = some start ∧
        ((ofText text).position offset).line =
          (text.toUTF8.data.toList.take offset).count lineBreak ∧
        ((ofText text).position offset).line < 2 ^ 32 ∧
        start + ((ofText text).position offset).column = offset) ∧
      (∀ offset other, offset < other →
        ((ofText text).position offset).Before ((ofText text).position other)) ∧
      Function.Injective (ofText text).position := by
  rw [← bytes_toList]
  refine ⟨pairwise_starts text, ?_, ?_, fun offset other h => before_of_lt text h, ?_⟩
  · exact fun start hstart => Nat.lt_of_le_of_lt (le_utf8ByteSize_of_mem_starts hstart) htext
  · intro offset
    obtain ⟨start, hreaches, hstart, hposition⟩ := exists_position_eq text offset
    have hlength : ((bytes text.toList).take offset).count lineBreak ≤ text.utf8ByteSize := by
      rw [← byteLength_toList, ← length_bytes]
      exact List.count_le_length.trans (List.length_take_le' _ _)
    rw [hposition]
    exact ⟨start, hreaches, hstart, rfl, Nat.lt_of_le_of_lt hlength htext,
      Nat.add_sub_cancel' hreaches.le_offset⟩
  · intro offset other heq
    have hirrefl (position : Position) : ¬ position.Before position := by
      rintro (hline | ⟨_, hcolumn⟩)
      · exact Nat.lt_irrefl _ hline
      · exact Nat.lt_irrefl _ hcolumn
    rcases Nat.lt_trichotomy offset other with hlt | rfl | hlt
    · exact absurd (heq ▸ before_of_lt text hlt) (hirrefl _)
    · rfl
    · exact absurd (heq ▸ before_of_lt text hlt) (hirrefl _)

/-- A character of two bytes, an empty line and an offset past the end. -/
theorem positions_of_three_lines :
    ("é\n\nab" : String).utf8ByteSize < 2 ^ 32 ∧
      (ofText "é\n\nab").position 2 = ⟨0, 2⟩ ∧ (ofText "é\n\nab").position 3 = ⟨1, 0⟩ ∧
      (ofText "é\n\nab").position 9 = ⟨2, 5⟩ ∧
      (∃ start, LineReaches "é\n\nab".toUTF8.data.toList start 9 ∧ start + 5 = 9) ∧
      Position.Before ⟨1, 0⟩ ⟨2, 5⟩ := by
  have htext : ("é\n\nab" : String).utf8ByteSize < 2 ^ 32 := by decide
  have hthird : (ofText "é\n\nab").position 3 = ⟨1, 0⟩ := by decide
  have hninth : (ofText "é\n\nab").position 9 = ⟨2, 5⟩ := by decide
  obtain ⟨_, _, hlines, hordered, _⟩ := positions_exact "é\n\nab" htext
  obtain ⟨start, hreaches, _, _, _, hcolumn⟩ := hlines 9
  have hbefore := hordered 3 9 (by decide)
  rw [hthird, hninth] at hbefore
  rw [hninth] at hcolumn
  exact ⟨htext, by decide, hthird, hninth, ⟨start, hreaches, hcolumn⟩, hbefore⟩

end LineIndex

end HalPackages
