import HalPackages.Source.SourceFile

/-!
# Reading moved tokens

The reader looks at the kinds and the texts of tokens and copies their spans.  So if
the spans of all tokens are changed in one way, it takes the same steps, and the spans
in what it returns are changed in that way too.  Every reader has one equation that
says so, for answers and rejections alike.
-/

namespace HalPackages

variable {α β γ : Type} (f : Span → Span)

/-! ## Changed spans -/

/-- The token with its span changed. -/
def Token.mapSpan (token : Token) : Token :=
  { token with span := f token.span }

@[simp]
theorem Token.mapSpan_kind (token : Token) : (token.mapSpan f).kind = token.kind := rfl

@[simp]
theorem Token.mapSpan_text (token : Token) : (token.mapSpan f).text = token.text := rfl

/-- The declaration with its span and those of the declarations inside it changed. -/
def TypeDecl.mapSpan (f : Span → Span) (decl : TypeDecl) : TypeDecl :=
  match decl with
  | ⟨name, kind, span, parent, ⟨decls, positions⟩⟩ =>
    ⟨name, kind, f span, parent, ⟨ofDecls f decls, positions⟩⟩
where
  /-- The same for a list of declarations. -/
  ofDecls (f : Span → Span) : List TypeDecl → List TypeDecl
    | [] => []
    | decl :: decls => decl.mapSpan f :: ofDecls f decls

/-- The scope with the spans of its declarations changed. -/
def Scope.mapSpan (scope : Scope) : Scope :=
  ⟨scope.decls.map (TypeDecl.mapSpan f), scope.positions⟩

theorem TypeDecl.mapSpan_eq (decl : TypeDecl) :
    decl.mapSpan f =
      { decl with span := f decl.span, members := decl.members.mapSpan f } := by
  have hdecls (decls : List TypeDecl) :
      TypeDecl.mapSpan.ofDecls f decls = decls.map (TypeDecl.mapSpan f) := by
    induction decls with
    | nil => rfl
    | cons decl decls ih => rw [TypeDecl.mapSpan.ofDecls, ih, List.map_cons]
  obtain ⟨name, kind, span, parent, ⟨decls, positions⟩⟩ := decl
  rw [TypeDecl.mapSpan, hdecls]
  rfl

@[simp]
theorem TypeDecl.mapSpan_name (decl : TypeDecl) : (decl.mapSpan f).name = decl.name := by
  rw [TypeDecl.mapSpan_eq]

@[simp]
theorem TypeDecl.mapSpan_kind (decl : TypeDecl) : (decl.mapSpan f).kind = decl.kind := by
  rw [TypeDecl.mapSpan_eq]

@[simp]
theorem TypeDecl.mapSpan_span (decl : TypeDecl) : (decl.mapSpan f).span = f decl.span := by
  rw [TypeDecl.mapSpan_eq]

/-- The open declaration with the spans of its name and of the scope around it changed. -/
def OpenDecl.mapSpan (decl : OpenDecl) : OpenDecl :=
  { decl with name := decl.name.mapSpan f, outer := decl.outer.mapSpan f }

/-- The rejection with its place changed. -/
def Rejection.mapSpan (rejection : Rejection) : Rejection :=
  { rejection with place := rejection.place.map f }

@[simp]
theorem Rejection.mapSpan_atEnd (problem : SyntaxProblem) :
    (Rejection.atEnd problem).mapSpan f = .atEnd problem := rfl

@[simp]
theorem Token.mapSpan_reject (token : Token) (problem : SyntaxProblem) :
    (token.reject problem).mapSpan f = (token.mapSpan f).reject problem := rfl

/-- The state of the reader with all of its spans changed. -/
def Progress.mapSpan : Progress → Progress
  | .finished root => .finished (root.mapSpan f)
  | .going opened scope rest =>
    .going (opened.map (OpenDecl.mapSpan f)) (scope.mapSpan f) (rest.map (Token.mapSpan f))

/-- The file with the spans of its declarations changed. -/
def SourceFile.mapSpan (file : SourceFile) : SourceFile :=
  { file with root := file.root.mapSpan f }

/-- The answer of a reader changed by a function, or its rejection with its place changed. -/
def moveAnswer (g : α → β) : Except Rejection α → Except Rejection β
  | .ok answer => .ok (g answer)
  | .error rejection => .error (rejection.mapSpan f)

@[simp]
theorem moveAnswer_ok (g : α → β) (answer : α) :
    moveAnswer f g (.ok answer) = .ok (g answer) := rfl

@[simp]
theorem moveAnswer_error (g : α → β) (rejection : Rejection) :
    moveAnswer f g (.error rejection) = .error (rejection.mapSpan f) := rfl

/-- What a reader takes and what it leaves, with all spans changed. -/
def moveTaken (g : α → β) (taken : α × List Token) : β × List Token :=
  (g taken.1, taken.2.map (Token.mapSpan f))

/-- Readers one after the other. -/
theorem moveAnswer_bind {g : α → β} {δ : Type} {g' : γ → δ} {answer : Except Rejection α}
    {next : α → Except Rejection γ} {next' : β → Except Rejection δ}
    (h : ∀ a, next' (g a) = moveAnswer f g' (next a)) :
    (moveAnswer f g answer >>= next') = moveAnswer f g' (answer >>= next) := by
  cases answer with
  | error rejection => rfl
  | ok a => exact h a

/-- Readers that decide on something that has no spans. -/
theorem moveAnswer_ite {p : Prop} [Decidable p] {g : α → β} {answer other : Except Rejection α}
    {answer' other' : Except Rejection β} (h : answer' = moveAnswer f g answer)
    (hother : other' = moveAnswer f g other) :
    (if p then answer' else other') = moveAnswer f g (if p then answer else other) := by
  rw [h, hother, apply_ite (moveAnswer f g)]

variable (tokens : List Token)

/-! ## Skipped text -/

theorem skipGroup_mapSpan (opened : List Bracket) :
    skipGroup opened (tokens.map (Token.mapSpan f)) =
      moveAnswer f (List.map (Token.mapSpan f)) (skipGroup opened tokens) := by
  fun_induction skipGroup opened tokens <;> simp_all [skipGroup]

theorem skipBalanced_mapSpan :
    skipBalanced (tokens.map (Token.mapSpan f)) =
      moveAnswer f (List.map (Token.mapSpan f)) (skipBalanced tokens) :=
  skipGroup_mapSpan f tokens []

theorem skipArguments_mapSpan :
    skipArguments (tokens.map (Token.mapSpan f)) =
      moveAnswer f (List.map (Token.mapSpan f)) (skipArguments tokens) := by
  cases tokens with
  | nil => rfl
  | cons token rest =>
      rw [List.map_cons, skipArguments, skipArguments, Token.mapSpan_kind]
      exact moveAnswer_ite f (skipBalanced_mapSpan f (token :: rest)) rfl

theorem skipAnnotations_eq_bind {token : Token} (hword : token.kind = .atWord)
    (rest : List Token) :
    skipAnnotations (token :: rest) = skipArguments rest >>= skipAnnotations := by
  rw [skipAnnotations, if_pos hword]
  split
  all_goals
    rename_i hargs
    rw [hargs]
    rfl

theorem skipAnnotations_mapSpan :
    skipAnnotations (tokens.map (Token.mapSpan f)) =
      moveAnswer f (List.map (Token.mapSpan f)) (skipAnnotations tokens) := by
  fun_induction skipAnnotations tokens with
  | case1 => rw [List.map_nil, skipAnnotations, moveAnswer_ok, List.map_nil]
  | case2 token rest hword rest' hargs ih =>
      have hmoved : (token.mapSpan f).kind = .atWord := hword
      rw [List.map_cons, skipAnnotations_eq_bind hmoved, skipArguments_mapSpan, hargs]
      exact ih
  | case3 token rest hword rejection hargs =>
      have hmoved : (token.mapSpan f).kind = .atWord := hword
      rw [List.map_cons, skipAnnotations_eq_bind hmoved, skipArguments_mapSpan, hargs]
      rfl
  | case4 token rest hword =>
      rw [List.map_cons, skipAnnotations, Token.mapSpan_kind, if_neg hword]
      rfl

theorem skipMember_eq_bind {token : Token} {bracket : Bracket}
    (hopener : token.kind = .opening bracket) (rest : List Token) :
    skipMember (token :: rest) = skipBalanced (token :: rest) >>= skipMember := by
  rw [skipMember]
  simp only [hopener]
  split
  all_goals
    rename_i hgroup
    rw [hgroup]
    rfl

theorem skipMember_mapSpan :
    skipMember (tokens.map (Token.mapSpan f)) =
      moveAnswer f (List.map (Token.mapSpan f)) (skipMember tokens) := by
  fun_induction skipMember tokens with
  | case1 => simp [skipMember]
  | case2 token rest hkind => simp [skipMember, hkind]
  | case3 token rest hkind => simp [skipMember, hkind]
  | case4 token rest bracket hopener rest' hgroup ih =>
      have hmoved : (token.mapSpan f).kind = .opening bracket := hopener
      rw [List.map_cons, skipMember_eq_bind hmoved, ← List.map_cons, skipBalanced_mapSpan, hgroup]
      exact ih
  | case5 token rest bracket hopener rejection hgroup =>
      have hmoved : (token.mapSpan f).kind = .opening bracket := hopener
      rw [List.map_cons, skipMember_eq_bind hmoved, ← List.map_cons, skipBalanced_mapSpan, hgroup]
      rfl
  | case6 token rest hsemicolon hbrace hopening ih =>
      rw [List.map_cons, skipMember, Token.mapSpan_kind]
      split <;> simp_all

/-! ## Single tokens and names -/

theorem expect_mapSpan (kind : TokenKind) :
    expect kind (tokens.map (Token.mapSpan f)) =
      moveAnswer f (moveTaken f (Token.mapSpan f)) (expect kind tokens) := by
  cases tokens with
  | nil => rfl
  | cons token rest =>
      rw [List.map_cons, expect, expect, Token.mapSpan_kind]
      exact moveAnswer_ite f rfl rfl

theorem skipOptional_mapSpan (kind : TokenKind) :
    skipOptional kind (tokens.map (Token.mapSpan f)) =
      (skipOptional kind tokens).map (Token.mapSpan f) := by
  cases tokens with
  | nil => rfl
  | cons token rest =>
      rw [List.map_cons, skipOptional, skipOptional, Token.mapSpan_kind]
      split <;> rfl

theorem Token.qualifiedName_mapSpan (token : Token) :
    (token.mapSpan f).qualifiedName = moveAnswer f id token.qualifiedName := by
  rw [Token.qualifiedName, Token.qualifiedName, Token.mapSpan_text]
  split <;> rfl

theorem Token.isSimple_mapSpan (token : Token) :
    (token.mapSpan f).isSimple = token.isSimple := rfl

theorem expectIdentifier_mapSpan :
    expectIdentifier (tokens.map (Token.mapSpan f)) =
      moveAnswer f (moveTaken f (Token.mapSpan f)) (expectIdentifier tokens) := by
  rw [expectIdentifier, expectIdentifier, expect_mapSpan]
  apply moveAnswer_bind
  rintro ⟨token, rest⟩
  dsimp only [moveTaken]
  rw [Token.isSimple_mapSpan]
  exact moveAnswer_ite f rfl rfl

/-! ## Declarations without a body -/

theorem skipValueType_mapSpan :
    skipValueType (tokens.map (Token.mapSpan f)) =
      moveAnswer f (List.map (Token.mapSpan f)) (skipValueType tokens) := by
  cases tokens with
  | nil => rfl
  | cons token rest =>
      rw [List.map_cons, skipValueType, skipValueType, Token.mapSpan_kind]
      refine moveAnswer_ite f ?_ rfl
      rw [expect_mapSpan]
      cases expect .name rest <;> rfl

theorem skipEnumBody_mapSpan :
    skipEnumBody (tokens.map (Token.mapSpan f)) =
      moveAnswer f (List.map (Token.mapSpan f)) (skipEnumBody tokens) := by
  cases tokens with
  | nil => rfl
  | cons token rest =>
      rw [List.map_cons, skipEnumBody, skipEnumBody, Token.mapSpan_kind]
      exact moveAnswer_ite f (skipBalanced_mapSpan f (token :: rest)) rfl

theorem enumDecl_mapSpan :
    enumDecl (tokens.map (Token.mapSpan f)) =
      moveAnswer f (moveTaken f (TypeDecl.mapSpan f)) (enumDecl tokens) := by
  rw [enumDecl, enumDecl, expectIdentifier_mapSpan]
  apply moveAnswer_bind
  rintro ⟨name, rest⟩
  dsimp only [moveTaken]
  rw [skipValueType_mapSpan]
  apply moveAnswer_bind
  intro rest
  rw [skipEnumBody_mapSpan]
  apply moveAnswer_bind
  intro rest
  rw [skipOptional_mapSpan]
  rfl

theorem toSemicolon_mapSpan (last : Option Token) :
    toSemicolon (last.map (Token.mapSpan f)) (tokens.map (Token.mapSpan f)) =
      moveAnswer f (moveTaken f (Option.map (Token.mapSpan f))) (toSemicolon last tokens) := by
  fun_induction toSemicolon last tokens with
  | case1 => rfl
  | case2 last token rest hkind =>
      rw [List.map_cons, toSemicolon, Token.mapSpan_kind, if_pos hkind]
      rfl
  | case3 last token rest hkind ih =>
      rw [List.map_cons, toSemicolon, Token.mapSpan_kind, if_neg hkind]
      exact ih

theorem typedefDecl_mapSpan (keyword : Token) :
    typedefDecl (keyword.mapSpan f) (tokens.map (Token.mapSpan f)) =
      moveAnswer f (moveTaken f (TypeDecl.mapSpan f)) (typedefDecl keyword tokens) := by
  have hlast := toSemicolon_mapSpan f tokens none
  rw [Option.map_none] at hlast
  rw [typedefDecl, typedefDecl, hlast]
  apply moveAnswer_bind
  rintro ⟨last, rest⟩
  cases last with
  | none => rfl
  | some name =>
      dsimp only [moveTaken, Option.map_some]
      rw [Token.mapSpan_kind, Token.isSimple_mapSpan]
      exact moveAnswer_ite f rfl rfl

/-! ## Declarations with a body -/

theorem bodyHeader_mapSpan (kind : TypeKind) (outer : Scope) :
    bodyHeader kind (outer.mapSpan f) (tokens.map (Token.mapSpan f)) =
      moveAnswer f (moveTaken f (OpenDecl.mapSpan f)) (bodyHeader kind outer tokens) := by
  rw [bodyHeader, bodyHeader, expectIdentifier_mapSpan]
  apply moveAnswer_bind
  rintro ⟨name, rest⟩
  dsimp only [moveTaken]
  rw [expect_mapSpan]
  apply moveAnswer_bind
  intro
  rfl

theorem parentName_mapSpan :
    parentName (tokens.map (Token.mapSpan f)) =
      moveAnswer f (moveTaken f id) (parentName tokens) := by
  cases tokens with
  | nil => rfl
  | cons token rest =>
      rw [List.map_cons, parentName, parentName, Token.mapSpan_kind]
      refine moveAnswer_ite f ?_ rfl
      rw [expect_mapSpan]
      apply moveAnswer_bind
      rintro ⟨name, rest⟩
      dsimp only [moveTaken]
      rw [Token.qualifiedName_mapSpan]
      apply moveAnswer_bind
      intro
      rfl

theorem interfaceHeader_mapSpan (outer : Scope) :
    interfaceHeader (outer.mapSpan f) (tokens.map (Token.mapSpan f)) =
      moveAnswer f (moveTaken f (OpenDecl.mapSpan f)) (interfaceHeader outer tokens) := by
  rw [interfaceHeader, interfaceHeader, expectIdentifier_mapSpan]
  apply moveAnswer_bind
  rintro ⟨name, rest⟩
  dsimp only [moveTaken]
  rw [parentName_mapSpan]
  apply moveAnswer_bind
  rintro ⟨parent, rest⟩
  dsimp only [moveTaken]
  rw [expect_mapSpan]
  apply moveAnswer_bind
  intro
  rfl

/-- The index of a scope has no spans in it. -/
theorem Scope.insert_mapSpan (scope : Scope) (decl : TypeDecl) :
    (scope.mapSpan f).insert (decl.mapSpan f) =
      match scope.insert decl with
      | .ok larger => .ok (larger.mapSpan f)
      | .error back => .error (back.mapSpan f) := by
  rw [Scope.insert, Scope.insert, TypeDecl.mapSpan_name]
  by_cases hname : scope.positions.contains decl.name = true
  · rw [Scope.mapSpan, if_pos hname, if_pos hname]
  · rw [Scope.mapSpan, if_neg hname, if_neg hname]
    simp [Scope.mapSpan]

theorem declare_mapSpan (scope : Scope) (decl : TypeDecl) :
    declare (scope.mapSpan f) (decl.mapSpan f) =
      moveAnswer f (Scope.mapSpan f) (declare scope decl) := by
  have hinterface : (scope.mapSpan f).decls.any (·.kind = .interface) =
      scope.decls.any (·.kind = .interface) := by
    simp [Scope.mapSpan, List.any_map, Function.comp_def]
  rw [declare, declare, hinterface, TypeDecl.mapSpan_kind, Scope.insert_mapSpan]
  apply moveAnswer_ite
  · rw [TypeDecl.mapSpan_span]
    rfl
  · cases scope.insert decl with
    | ok larger => rfl
    | error back =>
        dsimp only
        rw [TypeDecl.mapSpan_span, TypeDecl.mapSpan_name]
        rfl

theorem OpenDecl.withMembers_mapSpan (decl : OpenDecl) (members : Scope) :
    (decl.mapSpan f).withMembers (members.mapSpan f) = (decl.withMembers members).mapSpan f := by
  rw [TypeDecl.mapSpan_eq]
  rfl

/-! ## The reader -/

theorem enterBody_mapSpan (opened : List OpenDecl)
    (header : Except Rejection (OpenDecl × List Token)) :
    enterBody (opened.map (OpenDecl.mapSpan f))
        (moveAnswer f (moveTaken f (OpenDecl.mapSpan f)) header) =
      moveAnswer f (Progress.mapSpan f) (enterBody opened header) := by
  apply moveAnswer_bind
  intro
  rfl

theorem addDecl_mapSpan (opened : List OpenDecl) (scope : Scope)
    (item : Except Rejection (TypeDecl × List Token)) :
    addDecl (opened.map (OpenDecl.mapSpan f)) (scope.mapSpan f)
        (moveAnswer f (moveTaken f (TypeDecl.mapSpan f)) item) =
      moveAnswer f (Progress.mapSpan f) (addDecl opened scope item) := by
  apply moveAnswer_bind
  rintro ⟨decl, rest⟩
  dsimp only [moveTaken]
  rw [declare_mapSpan]
  apply moveAnswer_bind
  intro
  rfl

theorem advanceAt_mapSpan (opened : List OpenDecl) (scope : Scope) (token : Token) :
    advanceAt (opened.map (OpenDecl.mapSpan f)) (scope.mapSpan f) (token.mapSpan f)
        (tokens.map (Token.mapSpan f)) =
      moveAnswer f (Progress.mapSpan f) (advanceAt opened scope token tokens) := by
  rw [advanceAt.eq_def, Token.mapSpan_kind]
  fun_cases advanceAt opened scope token tokens with
  | case1 hkind =>
      simp only [hkind, List.map_nil]
      rw [interfaceHeader_mapSpan]
      exact enterBody_mapSpan f [] _
  | case2 decl outer hkind =>
      simp only [hkind, List.map_cons]
      rfl
  | case3 _ hkind =>
      simp only [hkind]
      rw [bodyHeader_mapSpan]
      exact enterBody_mapSpan f opened _
  | case4 _ hkind =>
      simp only [hkind]
      rw [bodyHeader_mapSpan]
      exact enterBody_mapSpan f opened _
  | case5 _ hkind =>
      simp only [hkind]
      rw [enumDecl_mapSpan]
      exact addDecl_mapSpan f opened scope _
  | case6 _ hkind =>
      simp only [hkind]
      rw [typedefDecl_mapSpan]
      exact addDecl_mapSpan f opened scope _
  | case7 =>
      split <;> simp_all
  | case8 decl outer hkind =>
      simp only [hkind, List.map_cons]
      rw [OpenDecl.withMembers_mapSpan, skipOptional_mapSpan]
      exact addDecl_mapSpan f outer decl.outer (.ok (_, _))
  | case9 decl outer =>
      have hmember : Progress.going ((decl :: outer).map (OpenDecl.mapSpan f)) (scope.mapSpan f) <$>
            skipMember ((token :: tokens).map (Token.mapSpan f)) =
          moveAnswer f (Progress.mapSpan f)
            (Progress.going (decl :: outer) scope <$> skipMember (token :: tokens)) := by
        rw [skipMember_mapSpan]
        cases skipMember (token :: tokens) <;> rfl
      -- the tokens of the other cases are no members
      split
      case h_9 => exact hmember
      all_goals simp_all

theorem advance_mapSpan (opened : List OpenDecl) (scope : Scope) :
    advance (opened.map (OpenDecl.mapSpan f)) (scope.mapSpan f) (tokens.map (Token.mapSpan f)) =
      moveAnswer f (Progress.mapSpan f) (advance opened scope tokens) := by
  rw [advance, advance, skipAnnotations_mapSpan]
  apply moveAnswer_bind
  intro rest
  cases rest with
  | nil => cases opened <;> rfl
  | cons token rest => exact advanceAt_mapSpan f rest opened scope token

theorem readDecls_eq_bind (opened : List OpenDecl) (scope : Scope) :
    readDecls opened scope tokens = advance opened scope tokens >>= fun progress =>
      match progress with
      | .finished root => .ok root
      | .going opened scope rest => readDecls opened scope rest := by
  rw [readDecls]
  split
  all_goals
    rename_i hprogress
    rw [hprogress]
    rfl

theorem readDecls_mapSpan (opened : List OpenDecl) (scope : Scope) :
    readDecls (opened.map (OpenDecl.mapSpan f)) (scope.mapSpan f)
        (tokens.map (Token.mapSpan f)) =
      moveAnswer f (Scope.mapSpan f) (readDecls opened scope tokens) := by
  fun_induction readDecls opened scope tokens with
  | case1 opened scope tokens rejection h =>
      rw [readDecls_eq_bind, advance_mapSpan, h]
      rfl
  | case2 opened scope tokens root h =>
      rw [readDecls_eq_bind, advance_mapSpan, h]
      rfl
  | case3 opened scope tokens opened' scope' rest h ih =>
      rw [readDecls_eq_bind, advance_mapSpan, h]
      exact ih

namespace SourceFile

theorem packageLine_mapSpan :
    packageLine (tokens.map (Token.mapSpan f)) =
      moveAnswer f (moveTaken f id) (packageLine tokens) := by
  rw [packageLine, packageLine, expect_mapSpan]
  apply moveAnswer_bind
  rintro ⟨_, rest⟩
  dsimp only [moveTaken]
  rw [expect_mapSpan]
  apply moveAnswer_bind
  rintro ⟨token, rest⟩
  dsimp only [moveTaken]
  rw [Token.qualifiedName_mapSpan]
  apply moveAnswer_bind
  intro package
  dsimp only [id]
  refine moveAnswer_ite f ?_ rfl
  rw [expect_mapSpan]
  apply moveAnswer_bind
  intro
  rfl

theorem importLine_mapSpan :
    importLine (tokens.map (Token.mapSpan f)) =
      moveAnswer f (moveTaken f id) (importLine tokens) := by
  rw [importLine, importLine, expect_mapSpan]
  apply moveAnswer_bind
  rintro ⟨token, rest⟩
  dsimp only [moveTaken]
  rw [Token.qualifiedName_mapSpan]
  apply moveAnswer_bind
  intro name
  rw [expect_mapSpan]
  apply moveAnswer_bind
  intro
  rfl

theorem importLines_eq_bind {token : Token} (hkind : token.kind = .keyword .imports)
    (rest : List Token) :
    importLines (token :: rest) = importLine rest >>= fun first =>
      importLines first.2 >>= fun others => .ok (first.1 :: others.1, others.2) := by
  rw [importLines, if_pos hkind]
  split
  · rename_i hline
    rw [hline]
    rfl
  · rename_i name rest hline
    rw [hline]
    change _ = importLines rest >>= fun others => .ok (name :: others.1, others.2)
    cases importLines rest <;> rfl

theorem importLines_mapSpan :
    importLines (tokens.map (Token.mapSpan f)) =
      moveAnswer f (moveTaken f id) (importLines tokens) := by
  fun_induction importLines tokens with
  | case1 =>
      rw [List.map_nil, importLines]
      rfl
  | case2 token rest hkind rejection hline =>
      have hmoved : (token.mapSpan f).kind = .keyword .imports := hkind
      rw [List.map_cons, importLines_eq_bind hmoved, importLine_mapSpan, hline]
      rfl
  | case3 token rest hkind name rest' hline rejection hothers ih =>
      have hmoved : (token.mapSpan f).kind = .keyword .imports := hkind
      rw [hothers] at ih
      rw [List.map_cons, importLines_eq_bind hmoved, importLine_mapSpan, hline]
      change importLines (rest'.map (Token.mapSpan f)) >>= _ = _
      rw [ih]
      rfl
  | case4 token rest hkind name rest' hline names rest'' hothers ih =>
      have hmoved : (token.mapSpan f).kind = .keyword .imports := hkind
      rw [hothers] at ih
      rw [List.map_cons, importLines_eq_bind hmoved, importLine_mapSpan, hline]
      change importLines (rest'.map (Token.mapSpan f)) >>= _ = _
      rw [ih]
      rfl
  | case5 token rest hkind =>
      rw [List.map_cons, importLines, Token.mapSpan_kind, if_neg hkind]
      rfl

/-- The file that changed tokens write. -/
theorem ofTokens_mapSpan :
    ofTokens (tokens.map (Token.mapSpan f)) =
      moveAnswer f (SourceFile.mapSpan f) (ofTokens tokens) := by
  rw [ofTokens, ofTokens, packageLine_mapSpan]
  apply moveAnswer_bind
  rintro ⟨package, rest⟩
  dsimp only [moveTaken]
  rw [importLines_mapSpan]
  apply moveAnswer_bind
  rintro ⟨imports, rest⟩
  have hdecls : readDecls [] ∅ (rest.map (Token.mapSpan f)) =
      moveAnswer f (Scope.mapSpan f) (readDecls [] ∅ rest) := readDecls_mapSpan f rest [] ∅
  dsimp only [moveTaken]
  rw [hdecls]
  apply moveAnswer_bind
  intro
  rfl

end SourceFile

end HalPackages
