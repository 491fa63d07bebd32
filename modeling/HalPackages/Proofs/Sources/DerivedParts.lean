import HalPackages.Proofs.Sources.Readers

/-!
# Reading the parts of a derivation

What the grammar derives, the reader takes or passes over to its end, whatever
follows: a group up to the bracket that closes it, annotations up to the first token
that belongs to none of them, a member up to its semicolon, and a header up to the
brace that opens a body.
-/

namespace HalPackages

open Grammar

variable {opened : List OpenDecl} {scope : Scope} {tokens rest : List Token} {token : Token}
variable {bracket : Bracket}

/-! ## Groups -/

theorem skipGroup_of_plain (htoken : ¬ token.kind.IsBracket) (outer : List Bracket) :
    skipGroup (bracket :: outer) (token :: rest) = skipGroup (bracket :: outer) rest := by
  rw [skipGroup.eq_def]
  cases hkind : token.kind with
  | opening | closing =>
      rw [hkind] at htoken
      exact absurd trivial htoken
  | _ => simp only [hkind]

theorem skipGroup_of_opening (hopener : token.kind = .opening bracket) (outer : List Bracket) :
    skipGroup outer (token :: rest) = skipGroup (bracket :: outer) rest := by
  rw [skipGroup.eq_def]
  simp only [hopener]

theorem skipGroup_of_closing (hcloser : token.kind = .closing bracket) (outer : List Bracket) :
    skipGroup (bracket :: outer) (token :: rest) =
      if outer = [] then .ok rest else skipGroup outer rest := by
  rw [skipGroup.eq_def]
  simp [hcloser]

theorem skipGroup_of_mismatch {closed : Bracket} (hcloser : token.kind = .closing closed)
    (hclosed : closed ≠ bracket) (outer : List Bracket) :
    skipGroup (bracket :: outer) (token :: rest) = .error (token.reject (.unbalanced closed)) := by
  rw [skipGroup.eq_def]
  simp only [hcloser]
  rw [if_pos (Ne.symm hclosed)]

/-- Balanced tokens leave the open brackets as they are. -/
theorem skipGroup_of_balanced (h : Balanced tokens) (outer : List Bracket) :
    skipGroup (bracket :: outer) (tokens ++ rest) = skipGroup (bracket :: outer) rest := by
  induction h generalizing bracket outer rest with
  | nil => rfl
  | plain htoken _ ih => rw [List.cons_append, skipGroup_of_plain htoken, ih]
  | group hopener _ hcloser _ ihInner ihRest =>
      rw [List.cons_append, List.append_assoc, List.cons_append, skipGroup_of_opening hopener,
        ihInner, skipGroup_of_closing hcloser, if_neg (List.cons_ne_nil _ _), ihRest]

theorem skipBalanced_of_group (h : Group bracket tokens) :
    skipBalanced (tokens ++ rest) = .ok rest := by
  obtain ⟨hopener, hinner, hcloser⟩ := h
  rw [skipBalanced, List.cons_append, List.append_assoc, List.singleton_append,
    skipGroup_of_opening hopener, skipGroup_of_balanced hinner, skipGroup_of_closing hcloser,
    if_pos rfl]

/-- A group starts with its opening bracket. -/
theorem Grammar.Group.exists_eq_cons (h : Group bracket tokens) :
    ∃ opener tail, tokens = opener :: tail ∧ opener.kind = .opening bracket := by
  obtain ⟨hopener, _, _⟩ := h
  exact ⟨_, _, rfl, hopener⟩

/-! ## Annotations -/

/-- An annotation starts with its word. -/
theorem Grammar.Annotation.exists_eq_cons (h : Annotation tokens) :
    ∃ word tail, tokens = word :: tail ∧ word.kind = .atWord := by
  cases h with
  | bare hword => exact ⟨_, _, rfl, hword⟩
  | applied hword _ => exact ⟨_, _, rfl, hword⟩

/-- What follows annotations is neither an annotation nor, after one without arguments, a
parenthesis. -/
structure EndsAnnotations (annotations : List (List Token)) (rest : List Token) : Prop where
  atWord : ∀ token ∈ rest.head?, token.kind ≠ .atWord
  paren : ∀ word, annotations.getLast? = some [word] →
    ∀ token ∈ rest.head?, token.kind ≠ .opening .paren

theorem skipArguments_of_bare (h : ∀ token ∈ rest.head?, token.kind ≠ .opening .paren) :
    skipArguments rest = .ok rest := by
  cases rest with
  | nil => rfl
  | cons token rest => rw [skipArguments, if_neg (h token rfl)]

theorem skipArguments_of_group (h : Group .paren tokens) :
    skipArguments (tokens ++ rest) = .ok rest := by
  obtain ⟨opener, tail, rfl, hopener⟩ := h.exists_eq_cons
  rw [List.cons_append, skipArguments, if_pos hopener, ← List.cons_append]
  exact skipBalanced_of_group h

theorem skipAnnotations_of_arguments {rest' : List Token} (hword : token.kind = .atWord)
    (h : skipArguments rest = .ok rest') :
    skipAnnotations (token :: rest) = skipAnnotations rest' := by
  rw [skipAnnotations, if_pos hword]
  split
  · rename_i heq
    rw [Except.ok.inj (h.symm.trans heq)]
  · rename_i heq
    rw [h] at heq
    contradiction

/-- After the first annotation come the others, and no parenthesis if the first has no arguments:
the next annotation starts with none, and neither does what follows the last. -/
theorem EndsAnnotations.of_cons {first : List Token} {annotations : List (List Token)}
    (h : ∀ other ∈ annotations, Annotation other)
    (hends : EndsAnnotations (first :: annotations) rest) :
    EndsAnnotations annotations rest ∧ ∀ word, first = [word] →
      ∀ token ∈ (annotations.flatten ++ rest).head?, token.kind ≠ .opening .paren := by
  cases annotations with
  | nil =>
      refine ⟨⟨hends.atWord, fun _ hlast => by contradiction⟩, ?_⟩
      rintro word rfl
      exact hends.paren word rfl
  | cons next annotations =>
      refine ⟨⟨hends.atWord, fun word hlast => hends.paren word ?_⟩, fun _ _ => ?_⟩
      · rwa [List.getLast?_cons_cons]
      · obtain ⟨word, tail, rfl, hword⟩ := (h next List.mem_cons_self).exists_eq_cons
        refine forall_mem_head?_cons.2 ?_
        rw [hword]
        exact TokenKind.noConfusion

theorem skipAnnotations_of_ends {annotations : List (List Token)}
    (h : ∀ annotation ∈ annotations, Annotation annotation)
    (hrest : EndsAnnotations annotations rest) :
    skipAnnotations (annotations.flatten ++ rest) = .ok rest := by
  induction annotations with
  | nil =>
      cases rest with
      | nil => rw [List.flatten_nil, List.nil_append, skipAnnotations]
      | cons token rest =>
          rw [List.flatten_nil, List.nil_append, skipAnnotations, if_neg (hrest.atWord token rfl)]
  | cons first annotations ih =>
      obtain ⟨hfirst, hannotations⟩ := List.forall_mem_cons.1 h
      obtain ⟨hothers, hbare⟩ := hrest.of_cons hannotations
      have hskip := ih hannotations hothers
      rw [List.flatten_cons, List.append_assoc]
      cases hfirst with
      | applied hword harguments =>
          rw [List.cons_append,
            skipAnnotations_of_arguments hword (skipArguments_of_group harguments), hskip]
      | @bare word hword =>
          have hnone := skipArguments_of_bare (hbare word rfl)
          rw [List.singleton_append, skipAnnotations_of_arguments hword hnone, hskip]

/-! ## Members -/

theorem skipMember_of_group {rest' : List Token} (hopener : token.kind = .opening bracket)
    (h : skipBalanced (token :: rest) = .ok rest') :
    skipMember (token :: rest) = skipMember rest' := by
  rw [skipMember]
  simp only [hopener]
  split
  · rename_i heq
    rw [Except.ok.inj (h.symm.trans heq)]
  · rename_i heq
    rw [h] at heq
    contradiction

theorem skipMember_of_plain (htoken : ¬ token.kind.IsBracket)
    (hsemicolon : token.kind ≠ .semicolon) :
    skipMember (token :: rest) = skipMember rest := by
  rw [skipMember]
  cases hkind : token.kind with
  | opening | closing =>
      rw [hkind] at htoken
      exact absurd trivial htoken
  | semicolon => contradiction
  | _ => rfl

theorem skipMember_of_body (h : MemberBody tokens) :
    skipMember (tokens ++ rest) = skipMember rest := by
  induction h with
  | nil => rfl
  | plain htoken hsemicolon _ ih =>
      rw [List.cons_append, skipMember_of_plain htoken hsemicolon, ih]
  | @group bracket group others hgroup _ ih =>
      obtain ⟨opener, tail, rfl, hopener⟩ := hgroup.exists_eq_cons
      have hskip : skipBalanced (opener :: (tail ++ (others ++ rest))) = .ok (others ++ rest) := by
        rw [← List.cons_append]
        exact skipBalanced_of_group hgroup
      rw [List.append_assoc, List.cons_append, skipMember_of_group hopener hskip, ih]

theorem skipMember_of_member (h : Member tokens) : skipMember (tokens ++ rest) = .ok rest := by
  obtain ⟨body, semicolon, rfl, hbody, hsemicolon⟩ := h.ends
  rw [List.append_assoc, List.singleton_append, skipMember_of_body hbody, skipMember]
  simp only [hsemicolon]

/-! ## Declarations without a body -/

/-- After a declaration stands either what follows it or that without a semicolon. -/
def Follows (rest rest' : List Token) : Prop :=
  rest' = rest ∨ rest' = skipOptional .semicolon rest

theorem follows_of_ending (h : Ending tokens) :
    Follows rest (skipOptional .semicolon (tokens ++ rest)) := by
  cases h with
  | absent => exact Or.inr rfl
  | present hsemicolon =>
      left
      rw [List.singleton_append, skipOptional, if_pos hsemicolon]

theorem skipEnumBody_of_group (h : Group .brace tokens) :
    skipEnumBody (tokens ++ rest) = .ok rest := by
  obtain ⟨opener, tail, rfl, hopener⟩ := h.exists_eq_cons
  rw [List.cons_append, skipEnumBody, if_pos hopener, ← List.cons_append]
  exact skipBalanced_of_group h

theorem enumDecl_of_parts {name : Token} {valueType values : List Token}
    (hname : name.IsIdentifier) (hvalueType : ValueType valueType) (hvalues : Group .brace values) :
    enumDecl (name :: (valueType ++ (values ++ rest))) =
      .ok (⟨name.text, .enum, name.span, none, ∅⟩, skipOptional .semicolon rest) := by
  have hbrace : ∀ token ∈ (values ++ rest).head?, token.kind ≠ .colon := by
    obtain ⟨opener, tail, rfl, hopener⟩ := hvalues.exists_eq_cons
    refine forall_mem_head?_cons.2 ?_
    rw [hopener]
    exact TokenKind.noConfusion
  have htype : skipValueType (valueType ++ (values ++ rest)) = .ok (values ++ rest) :=
    skipValueType_eq_ok_iff.2 ⟨valueType, hvalueType, rfl, fun _ => hbrace⟩
  refine except_bind_eq_ok.2 ⟨_, expectIdentifier_eq_ok_iff.2 ⟨rfl, hname⟩, ?_⟩
  exact except_bind_eq_ok.2 ⟨_, htype,
    except_bind_eq_ok.2 ⟨_, skipEnumBody_of_group hvalues, rfl⟩⟩

/-- A declaration without a body is read and added. -/
theorem advanceAt_of_flatDecl (opened : List OpenDecl) (scope : Scope) (rest : List Token)
    {decl : TypeDecl} (h : FlatDecl decl tokens) :
    ∃ keyword tail rest', tokens = keyword :: tail ∧ keyword.kind.StartsDeclaration ∧
      Follows rest rest' ∧
      advanceAt opened scope keyword (tail ++ rest) = addDecl opened scope (.ok (decl, rest')) := by
  cases h with
  | @enum keyword name valueType values ending hkeyword hname hvalueType hvalues hending =>
      refine ⟨_, _, _, rfl, by rw [hkeyword]; trivial, follows_of_ending hending, ?_⟩
      have hread : enumDecl (name :: (valueType ++ (values ++ (ending ++ rest)))) = _ :=
        enumDecl_of_parts hname hvalueType hvalues
      simp only [List.cons_append, List.append_assoc]
      rw [← hread, advanceAt.eq_def]
      simp only [hkeyword]
  | @typedef keyword name semicolon aliased hkeyword haliased hname hsemicolon =>
      refine ⟨_, _, rest, rfl, by rw [hkeyword]; trivial, Or.inl rfl, ?_⟩
      have hread : typedefDecl keyword (aliased ++ name :: semicolon :: rest) = _ :=
        typedefDecl_eq_ok_iff.2 ⟨aliased, name, semicolon, rfl, haliased, hname, hsemicolon, rfl⟩
      simp only [List.append_assoc, List.cons_append, List.nil_append]
      rw [← hread, advanceAt.eq_def]
      simp only [hkeyword]

/-! ## Headers -/

/-- A header is read up to the brace that opens the body. -/
theorem advanceAt_of_header (scope : Scope) (rest : List Token) {kind : TypeKind} {name : Token}
    {parent : Option QualifiedName} (h : Header kind name parent tokens)
    (hkind : kind = .interface → opened = []) :
    ∃ keyword tail, tokens = keyword :: tail ∧ keyword.kind.StartsDeclaration ∧
      advanceAt opened scope keyword (tail ++ rest) =
        .ok (.going (⟨name, kind, parent, scope⟩ :: opened) ∅ rest) := by
  cases h with
  | @struct _ _ brace hkeyword hname hbrace | @union _ _ brace hkeyword hname hbrace =>
      refine ⟨_, _, rfl, by rw [hkeyword]; trivial, ?_⟩
      rw [advanceAt.eq_def]
      simp only [hkeyword]
      exact except_bind_eq_ok.2
        ⟨_, bodyHeader_eq_ok_iff.2 ⟨name, brace, rfl, hname, hbrace, rfl⟩, rfl⟩
  | @interface _ _ brace hkeyword hname hbrace =>
      obtain rfl := hkind rfl
      refine ⟨_, _, rfl, by rw [hkeyword]; trivial, ?_⟩
      have hparent : parentName (brace :: rest) = .ok (none, brace :: rest) := by
        refine parentName_eq_ok_iff.2 (Or.inl ⟨rfl, rfl, forall_mem_head?_cons.2 ?_⟩)
        rw [hbrace]
        exact TokenKind.noConfusion
      rw [advanceAt.eq_def]
      simp only [hkeyword]
      exact except_bind_eq_ok.2
        ⟨_, interfaceHeader_eq_ok_iff.2 ⟨name, _, _, brace, rfl, hname, hparent, hbrace, rfl⟩, rfl⟩
  | @extending _ _ extending written brace parentName' hkeyword hname hextending hwritten
      hparentName hbrace =>
      obtain rfl := hkind rfl
      refine ⟨_, _, rfl, by rw [hkeyword]; trivial, ?_⟩
      have hparent : parentName (extending :: written :: brace :: rest) =
          .ok (some parentName', brace :: rest) :=
        parentName_eq_ok_iff.2
          (Or.inr ⟨extending, written, _, rfl, hextending, hwritten, hparentName, rfl⟩)
      rw [advanceAt.eq_def]
      simp only [hkeyword]
      exact except_bind_eq_ok.2
        ⟨_, interfaceHeader_eq_ok_iff.2 ⟨name, _, _, brace, rfl, hname, hparent, hbrace, rfl⟩, rfl⟩

end HalPackages
