import HalPackages.Proofs.Sources.Grammar

/-!
# What the readers take

Each of the readers of single lines and headers succeeds exactly on the tokens of
its form, whatever follows them, and leaves what follows.
-/

namespace HalPackages

open Grammar

variable {tokens rest : List Token} {token : Token} {name : QualifiedName}

/-! ## Tokens and names -/

theorem Token.qualifiedName_eq_ok_iff :
    token.qualifiedName = .ok name ↔ QualifiedName.parse token.text = .ok name := by
  rw [Token.qualifiedName]
  split
  case h_1 hparse => rw [hparse, Except.ok.injEq, Except.ok.injEq]
  case h_2 hparse =>
    rw [hparse]
    exact ⟨fun h => by contradiction, fun h => by contradiction⟩

theorem expect_eq_ok_iff {kind : TokenKind} :
    expect kind tokens = .ok (token, rest) ↔ tokens = token :: rest ∧ token.kind = kind := by
  constructor
  · intro h
    unfold expect at h
    split at h
    case h_1 => contradiction
    case h_2 =>
      split at h
      case isTrue hkind =>
        cases h
        exact ⟨rfl, hkind⟩
      case isFalse => contradiction
  · rintro ⟨rfl, hkind⟩
    rw [expect, if_pos hkind]

theorem expectIdentifier_eq_ok_iff :
    expectIdentifier tokens = .ok (token, rest) ↔ tokens = token :: rest ∧ token.IsIdentifier := by
  rw [Token.isIdentifier_iff, ← and_assoc, ← expect_eq_ok_iff]
  constructor
  · intro h
    obtain ⟨⟨name, afterName⟩, hname, hsimple⟩ := except_bind_eq_ok.1 h
    dsimp only at hsimple
    split at hsimple
    case isTrue hplain =>
      cases hsimple
      exact ⟨hname, hplain⟩
    case isFalse => contradiction
  · rintro ⟨hname, hplain⟩
    exact except_bind_eq_ok.2 ⟨(token, rest), hname, if_pos hplain⟩

/-! ## Headers -/

theorem bodyHeader_eq_ok_iff {kind : TypeKind} {outer : Scope} {decl : OpenDecl} :
    bodyHeader kind outer tokens = .ok (decl, rest) ↔
      ∃ name brace, tokens = name :: brace :: rest ∧ name.IsIdentifier ∧
        brace.kind = .opening .brace ∧ decl = ⟨name, kind, none, outer⟩ := by
  constructor
  · intro h
    obtain ⟨⟨name, afterName⟩, hname, h⟩ := except_bind_eq_ok.1 h
    obtain ⟨⟨brace, afterBrace⟩, hbrace, h⟩ := except_bind_eq_ok.1 h
    cases h
    obtain ⟨rfl, hidentifier⟩ := expectIdentifier_eq_ok_iff.1 hname
    obtain ⟨rfl, hkind⟩ := expect_eq_ok_iff.1 hbrace
    exact ⟨name, brace, rfl, hidentifier, hkind, rfl⟩
  · rintro ⟨name, brace, rfl, hidentifier, hkind, rfl⟩
    exact except_bind_eq_ok.2 ⟨_, expectIdentifier_eq_ok_iff.2 ⟨rfl, hidentifier⟩,
      except_bind_eq_ok.2 ⟨_, expect_eq_ok_iff.2 ⟨rfl, hkind⟩, rfl⟩⟩

/-- The interface that a header extends, if it extends one. -/
theorem parentName_eq_ok_iff {parent : Option QualifiedName} :
    parentName tokens = .ok (parent, rest) ↔
      (parent = none ∧ rest = tokens ∧
          ∀ token ∈ tokens.head?, token.kind ≠ .keyword .extending) ∨
        ∃ extending written name, tokens = extending :: written :: rest ∧
          extending.kind = .keyword .extending ∧ written.kind = .name ∧
          QualifiedName.parse written.text = .ok name ∧ parent = some name := by
  constructor
  · intro h
    unfold parentName at h
    split at h
    case h_1 extending tokens =>
      split at h
      case isTrue hextending =>
        obtain ⟨⟨written, afterName⟩, hwritten, h⟩ := except_bind_eq_ok.1 h
        obtain ⟨name, hname, h⟩ := except_bind_eq_ok.1 h
        cases h
        obtain ⟨rfl, hkind⟩ := expect_eq_ok_iff.1 hwritten
        exact Or.inr ⟨extending, written, name, rfl, hextending, hkind,
          Token.qualifiedName_eq_ok_iff.1 hname, rfl⟩
      case isFalse hextending =>
        cases h
        exact Or.inl ⟨rfl, rfl, forall_mem_head?_cons.2 hextending⟩
    case h_2 =>
      cases h
      exact Or.inl ⟨rfl, rfl, fun _ htoken => by contradiction⟩
  · rintro (⟨rfl, rfl, hfirst⟩ | ⟨extending, written, name, rfl, hextending, hkind, hname, rfl⟩)
    · cases rest with
      | nil => rfl
      | cons token rest => exact if_neg (hfirst token rfl)
    · rw [parentName, if_pos hextending]
      exact except_bind_eq_ok.2 ⟨_, expect_eq_ok_iff.2 ⟨rfl, hkind⟩,
        except_bind_eq_ok.2 ⟨_, Token.qualifiedName_eq_ok_iff.2 hname, rfl⟩⟩

theorem interfaceHeader_eq_ok_iff {outer : Scope} {decl : OpenDecl} :
    interfaceHeader outer tokens = .ok (decl, rest) ↔
      ∃ name afterName parent brace, tokens = name :: afterName ∧ name.IsIdentifier ∧
        parentName afterName = .ok (parent, brace :: rest) ∧ brace.kind = .opening .brace ∧
        decl = ⟨name, .interface, parent, outer⟩ := by
  constructor
  · intro h
    obtain ⟨⟨name, afterName⟩, hname, h⟩ := except_bind_eq_ok.1 h
    obtain ⟨⟨parent, afterParent⟩, hparent, h⟩ := except_bind_eq_ok.1 h
    obtain ⟨⟨brace, afterBrace⟩, hbrace, h⟩ := except_bind_eq_ok.1 h
    cases h
    obtain ⟨rfl, hidentifier⟩ := expectIdentifier_eq_ok_iff.1 hname
    obtain ⟨rfl, hkind⟩ := expect_eq_ok_iff.1 hbrace
    exact ⟨name, afterName, parent, brace, rfl, hidentifier, hparent, hkind, rfl⟩
  · rintro ⟨name, afterName, parent, brace, rfl, hidentifier, hparent, hkind, rfl⟩
    refine except_bind_eq_ok.2 ⟨_, expectIdentifier_eq_ok_iff.2 ⟨rfl, hidentifier⟩, ?_⟩
    refine except_bind_eq_ok.2 ⟨_, hparent, ?_⟩
    exact except_bind_eq_ok.2 ⟨_, expect_eq_ok_iff.2 ⟨rfl, hkind⟩, rfl⟩

/-! ## Enums and typedefs -/

/-- A value type is taken if a colon stands first. -/
theorem skipValueType_eq_ok_iff :
    skipValueType tokens = .ok rest ↔
      ∃ valueType, ValueType valueType ∧ tokens = valueType ++ rest ∧
        (valueType = [] → ∀ token ∈ rest.head?, token.kind ≠ .colon) := by
  constructor
  · intro h
    unfold skipValueType at h
    split at h
    case h_1 =>
      cases h
      exact ⟨[], .absent, rfl, fun _ _ htoken => by contradiction⟩
    case h_2 colon tokens =>
      split at h
      case isTrue hcolon =>
        obtain ⟨⟨name, afterName⟩, hname, h⟩ := except_bind_eq_ok.1 h
        cases h
        obtain ⟨rfl, hkind⟩ := expect_eq_ok_iff.1 hname
        exact ⟨_, .present hcolon hkind, rfl, fun hnil => by contradiction⟩
      case isFalse hcolon =>
        cases h
        exact ⟨[], .absent, rfl, fun _ => forall_mem_head?_cons.2 hcolon⟩
  · rintro ⟨valueType, hvalueType, rfl, hfirst⟩
    cases hvalueType with
    | absent =>
        cases rest with
        | nil => rfl
        | cons token rest => exact if_neg (hfirst rfl token rfl)
    | present hcolon hname =>
        rw [List.cons_append, List.singleton_append, skipValueType, if_pos hcolon]
        exact except_bind_eq_ok.2 ⟨_, expect_eq_ok_iff.2 ⟨rfl, hname⟩, rfl⟩

/-- The tokens up to the next semicolon are taken, and the last of them is kept. -/
theorem toSemicolon_eq_ok_iff {first last : Option Token} :
    toSemicolon first tokens = .ok (last, rest) ↔
      ∃ before semicolon, tokens = before ++ semicolon :: rest ∧
        (∀ token ∈ before, token.kind ≠ .semicolon) ∧ semicolon.kind = .semicolon ∧
        last = before.getLast?.or first := by
  constructor
  · intro h
    fun_induction toSemicolon first tokens with
    | case1 => contradiction
    | case2 first semicolon tokens hsemicolon =>
        cases h
        exact ⟨[], semicolon, rfl, fun _ htoken => absurd htoken List.not_mem_nil, hsemicolon, rfl⟩
    | case3 first token tokens htoken ih =>
        obtain ⟨before, semicolon, rfl, hbefore, hsemicolon, rfl⟩ := ih h
        refine ⟨token :: before, semicolon, rfl, List.forall_mem_cons.2 ⟨htoken, hbefore⟩,
          hsemicolon, ?_⟩
        rw [List.getLast?_cons]
        cases before.getLast? <;> rfl
  · rintro ⟨before, semicolon, rfl, hbefore, hsemicolon, rfl⟩
    induction before generalizing first with
    | nil => rw [List.nil_append, toSemicolon, if_pos hsemicolon, List.getLast?_nil, Option.none_or]
    | cons token before ih =>
        obtain ⟨htoken, hbefore⟩ := List.forall_mem_cons.1 hbefore
        rw [List.cons_append, toSemicolon, if_neg htoken, ih hbefore, List.getLast?_cons]
        cases before.getLast? <;> rfl

/-- A typedef ends with the identifier before its semicolon. -/
theorem typedefDecl_eq_ok_iff {keyword : Token} {decl : TypeDecl} :
    typedefDecl keyword tokens = .ok (decl, rest) ↔
      ∃ aliased name semicolon, tokens = aliased ++ name :: semicolon :: rest ∧
        (∀ token ∈ aliased, token.kind ≠ .semicolon) ∧ name.IsIdentifier ∧
        semicolon.kind = .semicolon ∧ decl = ⟨name.text, .typedef, name.span, none, ∅⟩ := by
  constructor
  · intro h
    obtain ⟨⟨last, afterLast⟩, htail, hdecl⟩ := except_bind_eq_ok.1 h
    obtain ⟨before, semicolon, rfl, hbefore, hsemicolon, hlast⟩ := toSemicolon_eq_ok_iff.1 htail
    dsimp only at hdecl
    split at hdecl
    case h_1 name =>
      split at hdecl
      case isTrue hname =>
        cases hdecl
        rw [Option.or_none] at hlast
        obtain ⟨aliased, rfl⟩ := List.getLast?_eq_some_iff.1 hlast.symm
        refine ⟨aliased, name, semicolon, ?_, ?_, Token.isIdentifier_iff.2 hname, hsemicolon, rfl⟩
        · rw [List.append_assoc, List.singleton_append]
        · exact fun token htoken => hbefore token (List.mem_append_left _ htoken)
      case isFalse => contradiction
    case h_2 => contradiction
  · rintro ⟨aliased, name, semicolon, rfl, haliased, hname, hsemicolon, rfl⟩
    have htail :
        toSemicolon none (aliased ++ name :: semicolon :: rest) = .ok (some name, rest) := by
      refine toSemicolon_eq_ok_iff.2 ⟨aliased ++ [name], semicolon, ?_, ?_, hsemicolon, ?_⟩
      · rw [List.append_assoc, List.singleton_append]
      · intro token htoken
        rcases List.mem_append.1 htoken with htoken | htoken
        · exact haliased token htoken
        · rw [List.mem_singleton.1 htoken, hname.kind]
          exact TokenKind.noConfusion
      · rw [List.getLast?_concat, Option.some_or]
    exact except_bind_eq_ok.2 ⟨_, htail, if_pos (Token.isIdentifier_iff.1 hname)⟩

/-- A declaration is added if its name is new, and an interface only if it is the first one. -/
theorem declare_eq_ok_iff {scope scope' : Scope} {decl : TypeDecl} :
    declare scope decl = .ok scope' ↔
      (decl.kind = .interface → ∀ other ∈ scope.decls, other.kind ≠ .interface) ∧
        scope.insert decl = .ok scope' := by
  have hinterface : (¬ (decl.kind = .interface ∧ scope.decls.any (·.kind = .interface) = true)) ↔
      (decl.kind = .interface → ∀ other ∈ scope.decls, other.kind ≠ .interface) := by
    simp
  rw [← hinterface, declare]
  split
  case isTrue hsecond => exact ⟨fun h => by contradiction, fun h => absurd hsecond h.1⟩
  case isFalse hfirst =>
    split
    case h_1 hinsert => rw [hinsert, and_iff_right hfirst, Except.ok.injEq, Except.ok.injEq]
    case h_2 hinsert =>
      rw [hinsert]
      exact ⟨fun h => by contradiction, fun h => by have := h.2; contradiction⟩

/-! ## Package and imports -/

/-- Every import is written by a name token. -/
theorem Grammar.Imports.exists_token {names : List QualifiedName} (h : Imports tokens names) :
    ∀ name ∈ names, ∃ token ∈ tokens, token.kind = .name ∧
      QualifiedName.parse token.text = .ok name := by
  induction h with
  | nil => exact fun _ hname => absurd hname List.not_mem_nil
  | @cons keyword written semicolon name others names _ hwritten hname _ _ ih =>
      refine List.forall_mem_cons.2 ⟨⟨written, by simp, hwritten, hname⟩, fun name hname => ?_⟩
      obtain ⟨token, htoken, hwritten⟩ := ih name hname
      exact ⟨token, by simp [htoken], hwritten⟩

namespace SourceFile

theorem packageLine_eq_ok_iff :
    packageLine tokens = .ok (name, rest) ↔
      ∃ keyword written semicolon, tokens = keyword :: written :: semicolon :: rest ∧
        keyword.kind = .keyword .package ∧ written.kind = .name ∧
        QualifiedName.parse written.text = .ok name ∧ name.IsPackage ∧
        semicolon.kind = .semicolon := by
  constructor
  · intro h
    obtain ⟨⟨keyword, afterKeyword⟩, hkeyword, h⟩ := except_bind_eq_ok.1 h
    obtain ⟨⟨written, afterName⟩, hwritten, h⟩ := except_bind_eq_ok.1 h
    obtain ⟨package, hpackage, hline⟩ := except_bind_eq_ok.1 h
    obtain ⟨rfl, hkeywordKind⟩ := expect_eq_ok_iff.1 hkeyword
    obtain ⟨rfl, hwrittenKind⟩ := expect_eq_ok_iff.1 hwritten
    dsimp only at hline
    split at hline
    case isFalse => contradiction
    case isTrue hform =>
      obtain ⟨⟨semicolon, afterEnd⟩, hsemicolon, hend⟩ := except_bind_eq_ok.1 hline
      cases hend
      obtain ⟨rfl, hsemicolonKind⟩ := expect_eq_ok_iff.1 hsemicolon
      exact ⟨keyword, written, semicolon, rfl, hkeywordKind, hwrittenKind,
        Token.qualifiedName_eq_ok_iff.1 hpackage, hform, hsemicolonKind⟩
  · rintro ⟨keyword, written, semicolon, rfl, hkeyword, hwritten, hname, hform, hsemicolon⟩
    refine except_bind_eq_ok.2 ⟨_, expect_eq_ok_iff.2 ⟨rfl, hkeyword⟩, ?_⟩
    refine except_bind_eq_ok.2 ⟨_, expect_eq_ok_iff.2 ⟨rfl, hwritten⟩, ?_⟩
    refine except_bind_eq_ok.2 ⟨_, Token.qualifiedName_eq_ok_iff.2 hname, ?_⟩
    rw [if_pos hform]
    exact except_bind_eq_ok.2 ⟨_, expect_eq_ok_iff.2 ⟨rfl, hsemicolon⟩, rfl⟩

theorem importLine_eq_ok_iff :
    importLine tokens = .ok (name, rest) ↔
      ∃ written semicolon, tokens = written :: semicolon :: rest ∧ written.kind = .name ∧
        QualifiedName.parse written.text = .ok name ∧ semicolon.kind = .semicolon := by
  constructor
  · intro h
    obtain ⟨⟨written, afterName⟩, hwritten, h⟩ := except_bind_eq_ok.1 h
    obtain ⟨name', hname, h⟩ := except_bind_eq_ok.1 h
    obtain ⟨⟨semicolon, afterEnd⟩, hsemicolon, h⟩ := except_bind_eq_ok.1 h
    cases h
    obtain ⟨rfl, hwrittenKind⟩ := expect_eq_ok_iff.1 hwritten
    obtain ⟨rfl, hsemicolonKind⟩ := expect_eq_ok_iff.1 hsemicolon
    exact ⟨written, semicolon, rfl, hwrittenKind, Token.qualifiedName_eq_ok_iff.1 hname,
      hsemicolonKind⟩
  · rintro ⟨written, semicolon, rfl, hwritten, hname, hsemicolon⟩
    refine except_bind_eq_ok.2 ⟨_, expect_eq_ok_iff.2 ⟨rfl, hwritten⟩, ?_⟩
    refine except_bind_eq_ok.2 ⟨_, Token.qualifiedName_eq_ok_iff.2 hname, ?_⟩
    exact except_bind_eq_ok.2 ⟨_, expect_eq_ok_iff.2 ⟨rfl, hsemicolon⟩, rfl⟩

/-- All imports are taken, up to the first token that starts none. -/
theorem importLines_eq_ok_iff {names : List QualifiedName} :
    importLines tokens = .ok (names, rest) ↔
      ∃ lines, tokens = lines ++ rest ∧ Imports lines names ∧
        ∀ token ∈ rest.head?, token.kind ≠ .keyword .imports := by
  constructor
  · intro h
    fun_induction importLines tokens generalizing names rest with
    | case1 =>
        cases h
        exact ⟨[], rfl, .nil, fun _ htoken => by contradiction⟩
    | case2 | case3 => contradiction
    | case4 keyword tokens hkeyword first afterLine hline others afterLines hlines ih =>
        cases h
        obtain ⟨written, semicolon, rfl, hwritten, hname, hsemicolon⟩ :=
          importLine_eq_ok_iff.1 hline
        obtain ⟨lines, rfl, hothers, hrest⟩ := ih hlines
        exact ⟨_, rfl, .cons hkeyword hwritten hname hsemicolon hothers, hrest⟩
    | case5 token tokens hkeyword =>
        cases h
        exact ⟨[], rfl, .nil, forall_mem_head?_cons.2 hkeyword⟩
  · rintro ⟨lines, rfl, hlines, hrest⟩
    induction hlines with
    | nil =>
        cases rest with
        | nil => rw [List.nil_append, importLines]
        | cons token rest => rw [List.nil_append, importLines, if_neg (hrest token rfl)]
    | @cons keyword written semicolon name others names hkeyword hwritten hname hsemicolon _ ih =>
        have hline : importLine (written :: semicolon :: (others ++ rest)) =
            .ok (name, others ++ rest) :=
          importLine_eq_ok_iff.2 ⟨written, semicolon, rfl, hwritten, hname, hsemicolon⟩
        rw [List.cons_append, List.cons_append, List.cons_append, importLines, if_pos hkeyword]
        split
        case h_1 heq => cases hline.symm.trans heq
        case h_2 heq =>
          cases hline.symm.trans heq
          rw [ih]

end SourceFile

end HalPackages
