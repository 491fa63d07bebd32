import HalPackages.Source.Brackets

/-!
# Skipped text

Annotations, fields, methods and the values of enums declare no types.  They are
passed over, but their brackets have to balance.
-/

namespace HalPackages

/-- The tokens after the arguments of an annotation, if it has any. -/
def skipArguments : List Token → Except Rejection (List Token)
  | [] => .ok []
  | token :: rest =>
    if token.kind = .opening .paren then skipBalanced (token :: rest) else .ok (token :: rest)

theorem length_le_of_skipArguments {tokens rest : List Token}
    (h : skipArguments tokens = .ok rest) : rest.length ≤ tokens.length := by
  fun_cases skipArguments tokens with
  | case1 => simp_all [skipArguments]
  | case2 token tail hkind =>
    rw [skipArguments, if_pos hkind] at h
    exact Nat.le_of_lt (length_lt_of_skipBalanced h)
  | case3 token tail hkind =>
    rw [skipArguments, if_neg hkind, Except.ok.injEq] at h
    simp [← h]

/-- The tokens after any number of annotations. -/
def skipAnnotations : List Token → Except Rejection (List Token)
  | [] => .ok []
  | token :: rest =>
    if token.kind = .atWord then
      match _h : skipArguments rest with
      | .ok rest' => skipAnnotations rest'
      | .error rejection => .error rejection
    else .ok (token :: rest)
termination_by tokens => tokens.length
decreasing_by exact Nat.lt_succ_of_le (length_le_of_skipArguments _h)

theorem length_le_of_skipAnnotations {tokens rest : List Token}
    (h : skipAnnotations tokens = .ok rest) : rest.length ≤ tokens.length := by
  fun_induction skipAnnotations tokens with
  | case1 => simp_all
  | case2 token tail hkind rest' hargs ih =>
    have := length_le_of_skipArguments hargs
    have := ih h
    simp only [List.length_cons]
    omega
  | case3 => simp at h
  | case4 => simp_all

/-- The tokens after a field or a method: after its semicolon, or from the brace that ends the body
around it. -/
def skipMember : List Token → Except Rejection (List Token)
  | [] => .error (.atEnd .openMember)
  | token :: rest =>
    match token.kind with
    | .semicolon => .ok rest
    | .closing .brace => .ok (token :: rest)
    | .opening _ =>
      match _h : skipBalanced (token :: rest) with
      | .ok rest' => skipMember rest'
      | .error rejection => .error rejection
    | _ => skipMember rest
termination_by tokens => tokens.length
decreasing_by
  · exact length_lt_of_skipBalanced _h
  · simp

theorem length_le_of_skipMember {tokens rest : List Token} (h : skipMember tokens = .ok rest) :
    rest.length ≤ tokens.length := by
  fun_induction skipMember tokens with
  | case1 => simp at h
  | case2 => simp_all
  | case3 => simp_all
  | case4 token tail _ _ rest' hgroup ih =>
    have := length_lt_of_skipBalanced hgroup
    have := ih h
    omega
  | case5 => simp at h
  | case6 token tail _ _ _ ih =>
    have := ih h
    simp only [List.length_cons]
    omega

/-- A member that does not start with a closing brace has at least one token. -/
theorem length_lt_of_skipMember {token : Token} {tokens rest : List Token}
    (hfirst : token.kind ≠ .closing .brace) (h : skipMember (token :: tokens) = .ok rest) :
    rest.length < (token :: tokens).length := by
  rw [skipMember] at h
  split at h
  · simp_all
  · contradiction
  · split at h
    · rename_i hgroup
      have := length_lt_of_skipBalanced hgroup
      have := length_le_of_skipMember h
      omega
    · simp at h
  · have := length_le_of_skipMember h
    simp only [List.length_cons]
    omega

end HalPackages
