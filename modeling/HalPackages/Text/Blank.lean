import HalPackages.Text.Ranges

/-!
# White space

The characters with the Unicode property `White_Space`, and the text that is
left when they are removed from both ends.
-/

namespace HalPackages.Text

/-- The code points with the property `White_Space`. -/
def blankTable : RangeTable where
  ranges := [
    (0x0009, 0x000D), (0x0020, 0x0020), (0x0085, 0x0085), (0x00A0, 0x00A0), (0x1680, 0x1680),
    (0x2000, 0x200A), (0x2028, 0x2029), (0x202F, 0x202F), (0x205F, 0x205F), (0x3000, 0x3000)]
  ascends := by decide

/-- Whether a character is white space. -/
def isBlank (c : Char) : Bool :=
  blankTable.contains c.toNat

/-- A text without its leading and its trailing white space. -/
def trim (text : List Char) : List Char :=
  ((text.dropWhile isBlank).reverse.dropWhile isBlank).reverse

/-- A text that neither starts nor ends with white space is left alone. -/
theorem trim_eq_self {text : List Char} (hfirst : ∀ c ∈ text.head?, isBlank c = false)
    (hlast : ∀ c ∈ text.getLast?, isBlank c = false) : trim text = text := by
  have hdrop : ∀ {cs : List Char}, (∀ c ∈ cs.head?, isBlank c = false) →
      cs.dropWhile isBlank = cs := by
    intro cs hcs
    cases cs with
    | nil => rfl
    | cons c cs => simp [List.dropWhile, hcs c rfl]
  rw [trim, hdrop hfirst, hdrop, List.reverse_reverse]
  intro c hc
  rw [List.head?_reverse] at hc
  exact hlast c hc

end HalPackages.Text
