import HalPackages.Text.IdentifierContinue

/-!
# Identifiers and dotted paths

An identifier starts with an underscore or a character of `XID_Start` and goes on
with characters of `XID_Continue`.  A dotted path is a list of identifiers with
dots between them.
-/

namespace HalPackages.Text

/-- Whether a text is one identifier. -/
def isIdentifier : List Char → Bool
  | [] => false
  | first :: rest => (first == '_' || isStart first) && rest.all isContinue

/-- The segment of a dotted path that is not an identifier, if there is one: the first of them. -/
def badSegment? (path : List Char) : Option (List Char) :=
  (path.splitOn '.').find? fun segment => !isIdentifier segment

/-- A path has no bad segment when all of its segments are identifiers. -/
theorem badSegment?_eq_none_iff {path : List Char} :
    badSegment? path = none ↔ ∀ segment ∈ path.splitOn '.', isIdentifier segment = true := by
  simp [badSegment?]

end HalPackages.Text
