/-!
# Decimal numbers

The value of a run of ASCII digits, and the bounded reading that version numbers
get: one plus sign may stand in front, leading zeros are allowed, and a number
above the bound is no number.
-/

namespace HalPackages.Text

/-- The value of a run of digits, most significant first. -/
def decimalValue (digits : List Char) : Nat :=
  digits.foldl (fun value digit => 10 * value + (digit.toNat - '0'.toNat)) 0

/-- Whether a text is a non-empty run of ASCII digits. -/
def isDigits (text : List Char) : Bool :=
  !text.isEmpty && text.all Char.isDigit

/-- The number up to `bound` that a text denotes, with or without a plus sign in front. -/
def numberUpTo? (bound : Nat) (text : List Char) : Option Nat :=
  let digits := match text with
    | '+' :: digits => digits
    | _ => text
  if isDigits digits && decimalValue digits ≤ bound then some (decimalValue digits) else none

end HalPackages.Text
