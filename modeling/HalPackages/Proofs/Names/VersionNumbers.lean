import HalPackages.Proofs.Names.WrittenForm
import Mathlib.Data.List.Induction
import Mathlib.Data.Nat.Digits.Defs

/-!
# The numbers of a version

A version is read twice: names are written with any two runs of digits, and its
numbers are read as numbers of 32 bits.  The two agree on all versions whose numbers
have room in 32 bits, as long as no sign stands in front of a number.
-/

namespace HalPackages

namespace Text

/-- The number that digits write in base ten; the last of them counts the ones. -/
def writtenNumber (digits : List Char) : Nat :=
  Nat.ofDigits 10 (digits.map fun digit => digit.toNat - '0'.toNat).reverse

theorem decimalValue_eq_writtenNumber (digits : List Char) :
    decimalValue digits = writtenNumber digits := by
  induction digits using List.reverseRecOn with
  | nil => rfl
  | append_singleton digits digit ih =>
      rw [writtenNumber] at ih
      rw [writtenNumber, List.map_append, List.reverse_append, List.map_singleton,
        List.reverse_singleton, List.singleton_append, Nat.ofDigits_cons, ← ih, Nat.add_comm]
      rw [decimalValue, List.foldl_append]
      rfl

/-- A text denotes a number if it writes the number in digits, after a plus sign or without. -/
theorem numberUpTo?_eq_some_iff {bound number : Nat} {text : List Char} :
    numberUpTo? bound text = some number ↔
      ∃ digits, (text = digits ∨ text = '+' :: digits) ∧ isDigits digits = true ∧
        writtenNumber digits = number ∧ number ≤ bound := by
  have hdigits (digits : List Char) :
      (if isDigits digits && decimalValue digits ≤ bound then some (decimalValue digits)
          else none) = some number ↔
        isDigits digits = true ∧ writtenNumber digits = number ∧ number ≤ bound := by
    rw [decimalValue_eq_writtenNumber, Option.ite_none_right_eq_some, Bool.and_eq_true,
      decide_eq_true_eq, Option.some.injEq, and_assoc]
    refine and_congr_right fun _ => ?_
    constructor
    · rintro ⟨hbound, rfl⟩
      exact ⟨rfl, hbound⟩
    · rintro ⟨rfl, hbound⟩
      exact ⟨hbound, rfl⟩
  by_cases hplus : ∃ digits, text = '+' :: digits
  · obtain ⟨digits, rfl⟩ := hplus
    refine (hdigits digits).trans ⟨fun h => ⟨digits, Or.inr rfl, h⟩, ?_⟩
    rintro ⟨digits', rfl | heq, h⟩
    · exact absurd ((isDigits_iff.1 h.1).2 '+' List.mem_cons_self) (by decide)
    · obtain rfl : digits = digits' := (List.cons.inj heq).2
      exact h
  · have hwhole : numberUpTo? bound text =
        if isDigits text && decimalValue text ≤ bound then some (decimalValue text) else none := by
      unfold numberUpTo?
      dsimp only
      split
      · exact absurd ⟨_, rfl⟩ hplus
      · rfl
    rw [hwhole, hdigits]
    refine ⟨fun h => ⟨text, Or.inl rfl, h⟩, ?_⟩
    rintro ⟨digits, rfl | heq, h⟩
    · exact h
    · exact absurd ⟨digits, heq⟩ hplus

/-- A part without a sign is read as a number if it is made of digits and the number has room. -/
theorem numberUpTo?_iff_of_unsigned {part : List Char} {number : Nat} (h : part.head? ≠ some '+') :
    numberUpTo? 4294967295 part = some number ↔
      isDigits part = true ∧ writtenNumber part = number ∧ number < 2 ^ 32 := by
  rw [numberUpTo?_eq_some_iff]
  constructor
  · rintro ⟨digits, rfl | rfl, hdigits, hnumber, hbound⟩
    · exact ⟨hdigits, hnumber, by omega⟩
    · exact absurd rfl h
  · rintro ⟨hdigits, hnumber, hbound⟩
    exact ⟨part, Or.inl rfl, hdigits, hnumber, by omega⟩

end Text

open Text

/-! ## The numbers that a version writes -/

/-- The version is written with the digits of two numbers. -/
def WritesNumbers (version : List Char) (major minor : Nat) : Prop :=
  ∃ majorDigits minorDigits, version = '@' :: (majorDigits ++ '.' :: minorDigits) ∧
    isDigits majorDigits = true ∧ isDigits minorDigits = true ∧
      writtenNumber majorDigits = major ∧ writtenNumber minorDigits = minor

theorem isVersion_iff_writesNumbers {version : List Char} :
    isVersion version = true ↔ ∃ major minor, WritesNumbers version major minor := by
  rw [isVersion_iff]
  constructor
  · rintro ⟨majorDigits, minorDigits, htext, hmajor, hminor⟩
    exact ⟨_, _, majorDigits, minorDigits, htext, hmajor, hminor, rfl, rfl⟩
  · rintro ⟨_, _, majorDigits, minorDigits, htext, hmajor, hminor, _⟩
    exact ⟨majorDigits, minorDigits, htext, hmajor, hminor⟩

/-- One of the two parts of the version starts with a plus sign. -/
def HasSign (version : List Char) : Prop :=
  ∃ major minor, version = '@' :: (major ++ '.' :: minor) ∧ '.' ∉ major ∧
    (major.head? = some '+' ∨ minor.head? = some '+')

namespace QualifiedName

variable {name : QualifiedName} {major minor : Nat}

/-- The version is one that some text writes a name with. -/
def HasWrittenVersion (name : QualifiedName) : Prop :=
  name.version ≠ "" ∧ ∃ other : QualifiedName, other.IsWritten ∧ other.version = name.version

theorem hasWrittenVersion_iff :
    name.HasWrittenVersion ↔ isVersion name.version.toList = true := by
  constructor
  · rintro ⟨hne, other, hother, heq⟩
    rw [← heq] at hne ⊢
    exact hother.isWellFormed.isVersion_version.resolve_left hne
  · intro hversion
    refine ⟨?_, ⟨"", name.version, ""⟩, ?_, rfl⟩
    · intro hempty
      rw [hempty] at hversion
      contradiction
    · -- a version alone writes a name
      have hname : QualifiedName.IsWellFormed ⟨"", name.version, ""⟩ :=
        .versioned (Or.inl rfl) hversion (Or.inl rfl)
      exact ⟨render ⟨"", name.version, ""⟩, parse_render hname⟩

theorem versionNumbers?_eq_some_iff :
    name.versionNumbers? = some (major, minor) ↔
      ∃ majorPart minorPart, versionParts? name.version.toList = some (majorPart, minorPart) ∧
        numberUpTo? 4294967295 majorPart = some major ∧
          numberUpTo? 4294967295 minorPart = some minor := by
  simp only [versionNumbers?, bind, Option.bind_eq_some_iff, pure, Option.some.injEq,
    Prod.mk.injEq]
  constructor
  · rintro ⟨⟨majorPart, minorPart⟩, hparts, _, hmajor, _, hminor, rfl, rfl⟩
    exact ⟨majorPart, minorPart, hparts, hmajor, hminor⟩
  · rintro ⟨majorPart, minorPart, hparts, hmajor, hminor⟩
    exact ⟨(majorPart, minorPart), hparts, major, hmajor, minor, hminor, rfl, rfl⟩

/-- If no part of a version has a sign, its numbers are read exactly if names are written with the
version and the two numbers that it writes have room in 32 bits. -/
theorem numbers_iff_writesNumbers (name : QualifiedName)
    (h : ¬ HasSign name.version.toList) :
    (name.HasWrittenVersion ↔ ∃ major minor, WritesNumbers name.version.toList major minor) ∧
      ∀ major minor, name.versionNumbers? = some (major, minor) ↔
        WritesNumbers name.version.toList major minor ∧ major < 2 ^ 32 ∧ minor < 2 ^ 32 := by
  refine ⟨hasWrittenVersion_iff.trans isVersion_iff_writesNumbers, ?_⟩
  intro major minor
  rw [versionNumbers?_eq_some_iff]
  constructor
  · rintro ⟨majorPart, minorPart, hparts, hmajor, hminor⟩
    obtain ⟨htext, hdot⟩ := versionParts?_eq_some_iff.1 hparts
    have hunsigned : ¬ (majorPart.head? = some '+' ∨ minorPart.head? = some '+') :=
      fun hsign => h ⟨majorPart, minorPart, htext, hdot, hsign⟩
    obtain ⟨hmajorSign, hminorSign⟩ := not_or.1 hunsigned
    obtain ⟨hmajorDigits, hmajorNumber, hmajorBound⟩ :=
      (numberUpTo?_iff_of_unsigned hmajorSign).1 hmajor
    obtain ⟨hminorDigits, hminorNumber, hminorBound⟩ :=
      (numberUpTo?_iff_of_unsigned hminorSign).1 hminor
    exact ⟨⟨majorPart, minorPart, htext, hmajorDigits, hminorDigits, hmajorNumber, hminorNumber⟩,
      hmajorBound, hminorBound⟩
  · rintro ⟨⟨majorDigits, minorDigits, htext, hmajor, hminor, hmajorNumber, hminorNumber⟩,
      hmajorBound, hminorBound⟩
    have hsign {digits : List Char} (hdigits : isDigits digits = true) :
        digits.head? ≠ some '+' := fun hplus =>
      absurd ((isDigits_iff.1 hdigits).2 '+' (List.mem_of_head? hplus)) (by decide)
    have hdot : '.' ∉ majorDigits := fun hmem =>
      absurd ((isDigits_iff.1 hmajor).2 '.' hmem) (by decide)
    exact ⟨majorDigits, minorDigits, versionParts?_eq_some_iff.2 ⟨htext, hdot⟩,
      (numberUpTo?_iff_of_unsigned (hsign hmajor)).2 ⟨hmajor, hmajorNumber, hmajorBound⟩,
      (numberUpTo?_iff_of_unsigned (hsign hminor)).2 ⟨hminor, hminorNumber, hminorBound⟩⟩

/-- A leading zero does not count, and the second part goes on to the end of the version. -/
theorem numbers_of_leading_zero :
    ¬ HasSign "@03.12".toList ∧
      versionNumbers? ⟨"hw.nfc", "@03.12", "INfc"⟩ = some (3, 12) ∧
      WritesNumbers "@03.12".toList 3 12 ∧
      HasWrittenVersion ⟨"hw.nfc", "@03.12", "INfc"⟩ := by
  have hunsigned : ¬ HasSign "@03.12".toList := by
    rintro ⟨major, minor, htext, hdot, hsign⟩
    have hparts := versionParts?_eq_some_iff.2 ⟨htext, hdot⟩
    rw [show versionParts? "@03.12".toList = some ("03".toList, "12".toList) by decide] at hparts
    obtain ⟨rfl, rfl⟩ := Prod.mk.inj (Option.some.inj hparts)
    revert hsign
    decide
  have hnumbers : versionNumbers? ⟨"hw.nfc", "@03.12", "INfc"⟩ = some (3, 12) := by decide
  obtain ⟨hwritten, hread⟩ :=
    numbers_iff_writesNumbers ⟨"hw.nfc", "@03.12", "INfc"⟩ hunsigned
  have hwrites := ((hread 3 12).1 hnumbers).1
  exact ⟨hunsigned, hnumbers, hwrites, hwritten.2 ⟨3, 12, hwrites⟩⟩

/-- A name can be written with a version whose first number has no room in 32 bits. -/
theorem not_forall_numbers_iff_writesNumbers :
    ¬ ∀ (name : QualifiedName) (major minor : Nat),
      name.versionNumbers? = some (major, minor) ↔
        name.HasWrittenVersion ∧ WritesNumbers name.version.toList major minor := by
  intro h
  have hwrites : WritesNumbers "@4294967296.0".toList 4294967296 0 :=
    ⟨"4294967296".toList, "0".toList, by decide⟩
  have hwritten : HasWrittenVersion ⟨"hw.nfc", "@4294967296.0", "INfc"⟩ :=
    hasWrittenVersion_iff.2 (isVersion_iff_writesNumbers.2 ⟨_, _, hwrites⟩)
  have hread := (h ⟨"hw.nfc", "@4294967296.0", "INfc"⟩ 4294967296 0).2 ⟨hwritten, hwrites⟩
  exact absurd hread (by decide)

end QualifiedName

end HalPackages
