import HalPackages.Proofs.Sources.Groups

/-!
# The steps of the reader

Whatever the tokens are, a step that succeeds passes over annotations and then does one
of five things: it ends the file, opens a declaration, adds one without a body, closes
the innermost open one, or passes over a member.  What it takes is known exactly.  The
reader takes the tokens in order and never twice, so what is left, and the name token
that a step takes, is a sublist of what there was.
-/

namespace HalPackages

open Grammar

variable {opened : List OpenDecl} {scope scope' : Scope} {progress : Progress}
variable {tokens rest : List Token} {token : Token}

/-! ## Members -/

namespace Grammar

/-- The first tokens are those of a member, and the second ones are left when the closing brackets
that nothing in the member opens are left out.  There are no braces among these. -/
inductive LooseMember : List Token → List Token → Prop where
  | nil : LooseMember [] []
  | plain {token : Token} {rest kept : List Token} (htoken : ¬ token.kind.IsBracket)
      (hsemicolon : token.kind ≠ .semicolon) (hrest : LooseMember rest kept) :
      LooseMember (token :: rest) (token :: kept)
  | group {bracket : Bracket} {group rest kept : List Token} (hgroup : Group bracket group)
      (hrest : LooseMember rest kept) : LooseMember (group ++ rest) (group ++ kept)
  | stray {bracket : Bracket} {token : Token} {rest kept : List Token}
      (htoken : token.kind = .closing bracket) (hbrace : bracket ≠ .brace)
      (hrest : LooseMember rest kept) : LooseMember (token :: rest) kept

end Grammar

/-- A member is passed over up to its semicolon or to the brace that ends the body. -/
theorem exists_looseMember_of_skipMember (h : skipMember tokens = .ok rest) :
    ∃ member kept, LooseMember member kept ∧
      ((∃ semicolon, tokens = member ++ semicolon :: rest ∧ semicolon.kind = .semicolon) ∨
        tokens = member ++ rest ∧ ∃ closer after, rest = closer :: after ∧
          closer.kind = .closing .brace) := by
  fun_induction skipMember tokens with
  | case1 => contradiction
  | case2 semicolon tokens hsemicolon =>
      cases h
      exact ⟨[], [], .nil, Or.inl ⟨semicolon, rfl, hsemicolon⟩⟩
  | case3 closer tokens hcloser =>
      cases h
      exact ⟨[], [], .nil, Or.inr ⟨rfl, closer, tokens, rfl, hcloser⟩⟩
  | case4 opener tokens bracket hopener afterGroup hgroup ih =>
      obtain ⟨group, heq, hgroup⟩ := (skipBalanced_eq_ok_iff hopener).1 hgroup
      obtain ⟨member, kept, hmember, hends⟩ := ih h
      refine ⟨group ++ member, group ++ kept, .group hgroup hmember, ?_⟩
      rw [heq]
      simpa only [List.append_assoc, List.append_cancel_left_eq] using hends
  | case5 => contradiction
  | case6 token tokens hsemicolon hbrace hopener ih =>
      obtain ⟨member, kept, hmember, hends⟩ := ih h
      have hends' : (∃ semicolon, token :: tokens = (token :: member) ++ semicolon :: rest ∧
          semicolon.kind = .semicolon) ∨ token :: tokens = (token :: member) ++ rest ∧
            ∃ closer after, rest = closer :: after ∧ closer.kind = .closing .brace := by
        simpa only [List.cons_append, List.cons.injEq, true_and] using hends
      rcases token.kind.bracket_cases with ⟨bracket, hkind⟩ | ⟨bracket, hkind⟩ | hplain
      · exact absurd hkind (hopener bracket)
      · refine ⟨_, kept, .stray hkind ?_ hmember, hends'⟩
        rintro rfl
        exact hbrace hkind
      · exact ⟨_, _, .plain hplain hsemicolon hmember, hends'⟩

/-! ## Declarations without a body -/

theorem skipOptional_eq_append (tokens : List Token) :
    ∃ ending, Ending ending ∧ tokens = ending ++ skipOptional .semicolon tokens := by
  fun_cases skipOptional .semicolon tokens with
  | case1 => exact ⟨[], .absent, rfl⟩
  | case2 token tokens hsemicolon => exact ⟨[token], .present hsemicolon, rfl⟩
  | case3 => exact ⟨[], .absent, rfl⟩

theorem exists_flatDecl_of_enumDecl {keyword : Token} {decl : TypeDecl}
    (hkeyword : keyword.kind = .keyword .enum) (h : enumDecl tokens = .ok (decl, rest)) :
    ∃ taken, keyword :: tokens = taken ++ rest ∧ FlatDecl decl taken := by
  obtain ⟨⟨name, afterName⟩, hname, h⟩ := except_bind_eq_ok.1 h
  obtain ⟨afterType, htype, h⟩ := except_bind_eq_ok.1 h
  obtain ⟨afterBody, hbody, h⟩ := except_bind_eq_ok.1 h
  cases h
  obtain ⟨rfl, hidentifier⟩ := expectIdentifier_eq_ok_iff.1 hname
  obtain ⟨valueType, hvalueType, rfl, _⟩ := skipValueType_eq_ok_iff.1 htype
  obtain ⟨values, hvalues, rfl⟩ :
      ∃ values, Group .brace values ∧ afterType = values ++ afterBody := by
    unfold skipEnumBody at hbody
    split at hbody
    case h_1 => contradiction
    case h_2 =>
      split at hbody
      case isTrue hopener =>
        obtain ⟨values, heq, hvalues⟩ := (skipBalanced_eq_ok_iff hopener).1 hbody
        exact ⟨values, hvalues, heq⟩
      case isFalse => contradiction
  obtain ⟨ending, hending, heq⟩ := skipOptional_eq_append afterBody
  refine ⟨_, ?_, .enum hkeyword hidentifier hvalueType hvalues hending⟩
  simp only [List.cons_append, List.append_assoc, ← heq]

theorem exists_flatDecl_of_typedefDecl {keyword : Token} {decl : TypeDecl}
    (hkeyword : keyword.kind = .keyword .typedef)
    (h : typedefDecl keyword tokens = .ok (decl, rest)) :
    ∃ taken, keyword :: tokens = taken ++ rest ∧ FlatDecl decl taken := by
  obtain ⟨aliased, name, semicolon, rfl, haliased, hname, hsemicolon, rfl⟩ :=
    typedefDecl_eq_ok_iff.1 h
  refine ⟨_, ?_, .typedef hkeyword haliased hname hsemicolon⟩
  simp only [List.cons_append, List.append_assoc, List.nil_append]

/-! ## What a step takes -/

/-- What one step of the reader takes after the annotations, and what it does to the open
declarations and to the scope. -/
inductive Takes (opened : List OpenDecl) (scope : Scope) : List Token → Progress → Prop where
  | finished (hopened : opened = []) : Takes opened scope [] (.finished scope)
  | opens {kind : TypeKind} {name : Token} {parent : Option QualifiedName}
      {header rest : List Token}
      (hheader : Header kind name parent header) (hkind : kind = .interface → opened = []) :
      Takes opened scope (header ++ rest) (.going (⟨name, kind, parent, scope⟩ :: opened) ∅ rest)
  | adds {decl : TypeDecl} {scope' : Scope} {taken rest : List Token} (hdecl : FlatDecl decl taken)
      (hdeclare : declare scope decl = .ok scope') :
      Takes opened scope (taken ++ rest) (.going opened scope' rest)
  | closes {decl : OpenDecl} {outer : List OpenDecl} {scope' : Scope} {closer : Token}
      {after ending rest : List Token} (hopened : opened = decl :: outer)
      (hcloser : closer.kind = .closing .brace) (hending : Ending ending)
      (hafter : after = ending ++ rest)
      (hdeclare : declare decl.outer (decl.withMembers scope) = .ok scope') :
      Takes opened scope (closer :: after) (.going outer scope' rest)
  | member {member kept rest : List Token} {semicolon : Token} (hopened : opened ≠ [])
      (hmember : LooseMember member kept) (hsemicolon : semicolon.kind = .semicolon)
      (hstarts : ∀ token ∈ member.head?, ¬ token.kind.StartsDeclaration ∧ token.kind ≠ .atWord) :
      Takes opened scope (member ++ semicolon :: rest) (.going opened scope rest)
  /-- The brace that ends the body ends its last member, too. -/
  | lastMember {member kept rest : List Token} {closer : Token} (hopened : opened ≠ [])
      (hmember : LooseMember member kept) (hcloser : closer.kind = .closing .brace)
      (hstarts : ∀ token ∈ member.head?, ¬ token.kind.StartsDeclaration ∧ token.kind ≠ .atWord) :
      Takes opened scope (member ++ closer :: rest) (.going opened scope (closer :: rest))

/-- The cases are those of the first token. -/
theorem takes_of_advanceAt (hword : token.kind ≠ .atWord)
    (h : advanceAt opened scope token rest = .ok progress) :
    Takes opened scope (token :: rest) progress := by
  unfold advanceAt at h
  split at h
  case h_1 hkeyword =>
    obtain ⟨⟨decl, afterHeader⟩, hheader, h⟩ := except_bind_eq_ok.1 h
    cases h
    obtain ⟨name, afterName, parent, brace, rfl, hname, hparent, hbrace, rfl⟩ :=
      interfaceHeader_eq_ok_iff.1 hheader
    rcases parentName_eq_ok_iff.1 hparent with
      ⟨rfl, rfl, _⟩ | ⟨extending, written, parent, rfl, hextending, hwritten, hparse, rfl⟩
    · exact .opens (.interface hkeyword hname hbrace) fun _ => rfl
    · exact .opens (.extending hkeyword hname hextending hwritten hparse hbrace) fun _ => rfl
  case h_2 => contradiction
  case h_3 hkeyword =>
    obtain ⟨⟨decl, afterHeader⟩, hheader, h⟩ := except_bind_eq_ok.1 h
    cases h
    obtain ⟨name, brace, rfl, hname, hbrace, rfl⟩ := bodyHeader_eq_ok_iff.1 hheader
    exact .opens (.struct hkeyword hname hbrace) TypeKind.noConfusion
  case h_4 hkeyword =>
    obtain ⟨⟨decl, afterHeader⟩, hheader, h⟩ := except_bind_eq_ok.1 h
    cases h
    obtain ⟨name, brace, rfl, hname, hbrace, rfl⟩ := bodyHeader_eq_ok_iff.1 hheader
    exact .opens (.union hkeyword hname hbrace) TypeKind.noConfusion
  case h_5 hkeyword =>
    obtain ⟨⟨decl, afterDecl⟩, hdecl, h⟩ := except_bind_eq_ok.1 h
    obtain ⟨scope', hdeclare, h⟩ := except_bind_eq_ok.1 h
    cases h
    obtain ⟨taken, heq, hflat⟩ := exists_flatDecl_of_enumDecl hkeyword hdecl
    rw [heq]
    exact .adds hflat hdeclare
  case h_6 hkeyword =>
    obtain ⟨⟨decl, afterDecl⟩, hdecl, h⟩ := except_bind_eq_ok.1 h
    obtain ⟨scope', hdeclare, h⟩ := except_bind_eq_ok.1 h
    cases h
    obtain ⟨taken, heq, hflat⟩ := exists_flatDecl_of_typedefDecl hkeyword hdecl
    rw [heq]
    exact .adds hflat hdeclare
  case h_7 => contradiction
  case h_8 hcloser =>
    obtain ⟨⟨decl, afterBody⟩, hclosed, h⟩ := except_bind_eq_ok.1 h
    cases hclosed
    obtain ⟨scope', hdeclare, h⟩ := except_bind_eq_ok.1 h
    cases h
    obtain ⟨ending, hending, heq⟩ := skipOptional_eq_append rest
    exact .closes rfl hcloser hending heq hdeclare
  case h_9 hinterface hstruct hunion henum htypedef hbrace =>
    have hstarts : ¬ token.kind.StartsDeclaration := by
      unfold TokenKind.StartsDeclaration
      split
      case h_1 hkind => exact absurd hkind hinterface
      case h_2 hkind => exact absurd hkind hstruct
      case h_3 hkind => exact absurd hkind hunion
      case h_4 hkind => exact absurd hkind henum
      case h_5 hkind => exact absurd hkind htypedef
      case h_6 => exact id
    obtain ⟨afterMember, hmember, h⟩ := except_bind_eq_ok.1 h
    cases h
    obtain ⟨member, kept, hloose, hends⟩ := exists_looseMember_of_skipMember hmember
    have hfirst {after : List Token} (heq : token :: rest = member ++ after) :
        ∀ first ∈ member.head?, ¬ first.kind.StartsDeclaration ∧ first.kind ≠ .atWord := by
      cases member with
      | nil => exact fun _ hfirst => by contradiction
      | cons first member =>
          obtain ⟨rfl, _⟩ := List.cons.inj heq
          exact forall_mem_head?_cons.2 ⟨hstarts, hword⟩
    rcases hends with ⟨semicolon, heq, hsemicolon⟩ | ⟨heq, closer, after, rfl, hcloser⟩
    · rw [heq]
      exact .member (List.cons_ne_nil _ _) hloose hsemicolon (hfirst heq)
    · rw [heq]
      exact .lastMember (List.cons_ne_nil _ _) hloose hcloser (hfirst heq)

theorem exists_takes_of_advance (h : advance opened scope tokens = .ok progress) :
    ∃ (annotations : List (List Token)) (rest : List Token), tokens = annotations.flatten ++ rest ∧
      (∀ annotation ∈ annotations, Annotation annotation) ∧ EndsAnnotations annotations rest ∧
      Takes opened scope rest progress := by
  obtain ⟨skipped, hskipped, hprogress⟩ := except_bind_eq_ok.1 h
  obtain ⟨annotations, rfl, hannotations, hends⟩ := exists_annotations_of_skipAnnotations hskipped
  refine ⟨annotations, skipped, rfl, hannotations, hends, ?_⟩
  split at hprogress
  case h_1 =>
    split at hprogress
    case isTrue hopened =>
      cases hprogress
      exact .finished hopened
    case isFalse => contradiction
  case h_2 token rest => exact takes_of_advanceAt (hends.atWord token rfl) hprogress

/-! ## Steps -/

/-- What one step of the reader does to the declarations, and which tokens it leaves. -/
inductive ReaderStep (opened : List OpenDecl) (scope : Scope) (tokens : List Token) :
    Progress → Prop where
  | finished (hopened : opened = []) : ReaderStep opened scope tokens (.finished scope)
  | opens {name : Token} {kind : TypeKind} {parent : Option QualifiedName} {rest : List Token}
      (hname : name.IsIdentifier) (hkind : kind.hasScope = true)
      (hlevel : kind = .interface → opened = []) (hparent : parent ≠ none → kind = .interface)
      (hrest : (name :: rest).Sublist tokens) :
      ReaderStep opened scope tokens (.going (⟨name, kind, parent, scope⟩ :: opened) ∅ rest)
  | adds {name : Token} {kind : TypeKind} {scope' : Scope} {rest : List Token}
      (hname : name.IsIdentifier) (hkind : kind.hasScope = false)
      (hdeclare : declare scope ⟨name.text, kind, name.span, none, ∅⟩ = .ok scope')
      (hrest : (name :: rest).Sublist tokens) :
      ReaderStep opened scope tokens (.going opened scope' rest)
  | closes {decl : OpenDecl} {outer : List OpenDecl} {scope' : Scope} {rest : List Token}
      (hopened : opened = decl :: outer)
      (hdeclare : declare decl.outer (decl.withMembers scope) = .ok scope')
      (hrest : rest.Sublist tokens) : ReaderStep opened scope tokens (.going outer scope' rest)
  | skips {rest : List Token} (hrest : rest.Sublist tokens) :
      ReaderStep opened scope tokens (.going opened scope rest)

theorem ReaderStep.mono {others : List Token} (h : ReaderStep opened scope tokens progress)
    (htokens : tokens.Sublist others) : ReaderStep opened scope others progress := by
  cases h with
  | finished hopened => exact .finished hopened
  | opens hname hkind hlevel hparent hrest =>
      exact .opens hname hkind hlevel hparent (hrest.trans htokens)
  | adds hname hkind hdeclare hrest => exact .adds hname hkind hdeclare (hrest.trans htokens)
  | closes hopened hdeclare hrest => exact .closes hopened hdeclare (hrest.trans htokens)
  | skips hrest => exact .skips (hrest.trans htokens)

theorem readerStep_of_takes (h : Takes opened scope tokens progress) :
    ReaderStep opened scope tokens progress := by
  cases h with
  | finished hopened => exact .finished hopened
  | @opens _ _ _ _ rest hheader hkind =>
      have hrest (name brace : Token) : (name :: rest).Sublist (name :: brace :: rest) :=
        (List.sublist_cons_self _ _).cons_cons _
      cases hheader with
      | struct _ hname | union _ hname =>
          exact .opens hname rfl hkind (fun hparent => absurd rfl hparent) ((hrest _ _).cons _)
      | interface _ hname =>
          exact .opens hname rfl hkind (fun _ => rfl) ((hrest _ _).cons _)
      | extending _ hname =>
          refine .opens hname rfl hkind (fun _ => rfl) (List.Sublist.cons _ (.cons_cons _ ?_))
          exact ((List.sublist_cons_self _ _).cons _).cons _
  | @adds _ _ _ rest hdecl hdeclare =>
      cases hdecl with
      | enum _ hname =>
          exact .adds hname rfl hdeclare (((List.sublist_append_right _ _).cons_cons _).cons _)
      | @typedef _ name semicolon aliased _ _ hname =>
          have hrest : (name :: rest).Sublist (aliased ++ name :: semicolon :: rest) :=
            ((List.sublist_cons_self _ _).cons_cons _).trans (List.sublist_append_right _ _)
          rw [List.cons_append, List.append_assoc]
          exact .adds hname rfl hdeclare (hrest.cons _)
  | closes hopened _ _ hafter hdeclare =>
      subst hafter
      exact .closes hopened hdeclare ((List.sublist_append_right _ _).cons _)
  | member => exact .skips ((List.sublist_cons_self _ _).trans (List.sublist_append_right _ _))
  | lastMember => exact .skips (List.sublist_append_right _ _)

theorem readerStep_of_advance (h : advance opened scope tokens = .ok progress) :
    ReaderStep opened scope tokens progress := by
  obtain ⟨annotations, rest, rfl, _, _, htakes⟩ := exists_takes_of_advance h
  exact (readerStep_of_takes htakes).mono (List.sublist_append_right _ _)

end HalPackages
