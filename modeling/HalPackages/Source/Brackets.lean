import HalPackages.Source.SyntaxError

/-!
# Balanced groups

A group starts with an opening bracket and ends with the closing bracket that
matches it; in between, every bracket that opens is closed by one of its kind.
-/

namespace HalPackages

/-- The tokens after a group some of whose brackets, innermost first, are already open. -/
def skipGroup (opened : List Bracket) : List Token → Except Rejection (List Token)
  | [] => .error (.atEnd .openGroup)
  | token :: rest =>
    match token.kind, opened with
    | .opening bracket, _ => skipGroup (bracket :: opened) rest
    | .closing bracket, [] => .error (token.reject (.unbalanced bracket))
    | .closing bracket, innermost :: outer =>
      if innermost ≠ bracket then .error (token.reject (.unbalanced bracket))
      else if outer = [] then .ok rest
      else skipGroup outer rest
    | _, [] => .ok rest
    | _, _ => skipGroup opened rest

/-- The tokens after the group that starts with the first one. -/
def skipBalanced (tokens : List Token) : Except Rejection (List Token) :=
  skipGroup [] tokens

theorem length_lt_of_skipGroup {opened : List Bracket} {tokens rest : List Token}
    (h : skipGroup opened tokens = .ok rest) : rest.length < tokens.length := by
  fun_induction skipGroup opened tokens <;> simp_all <;> omega

/-- Skipping a group always gets ahead. -/
theorem length_lt_of_skipBalanced {tokens rest : List Token} (h : skipBalanced tokens = .ok rest) :
    rest.length < tokens.length :=
  length_lt_of_skipGroup h

end HalPackages
