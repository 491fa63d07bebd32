import HalPackages.Proofs.Sources.ReaderSteps

/-!
# Brackets of accepted sources

Groups have to balance, and every body ends with a brace.  Still the brackets of an
accepted source need not be balanced.  A typedef takes whatever stands before its
semicolon, brackets included, and a member is passed over up to a semicolon or to the
brace that ends the body around it, even if it closes parentheses or square brackets
that nothing has opened.

When these brackets are left out, the rest is balanced.  The reader goes through the
bodies with a stack, so what remains to be read is described body by body: the rest
of the innermost one, its closing brace, the rest of the one around it, and so on up
to the file.
-/

namespace HalPackages

variable {tokens rest kept : List Token} {token : Token}

instance : DecidablePred TokenKind.IsBracket
  | .opening _ | .closing _ => isTrue trivial
  | .keyword _ | .name | .atWord | .number | .string | .leftAngle | .rightAngle | .semicolon
  | .colon | .comma | .equals | .operator => isFalse id

namespace Grammar

/-! ## Brackets to leave out -/

/-- The first tokens are read at a level, and the second ones are left when the brackets before the
names of typedefs and those that no member opens are left out. -/
inductive Pruned : Level → List Token → List Token → Prop where
  | nil {level : Level} : Pruned level [] []
  /-- A parenthesis after the word would be taken for its arguments. -/
  | annotated {level : Level} {first rest kept : List Token} (hfirst : Annotation first)
      (hparen : ∀ word, first = [word] → ∀ token ∈ rest.head?, token.kind ≠ .opening .paren)
      (hrest : Pruned level rest kept) : Pruned level (first ++ rest) (first ++ kept)
  | nested {level : Level} {kind : TypeKind} {name closer : Token} {parent : Option QualifiedName}
      {header inner keptInner ending rest kept : List Token}
      (hheader : Header kind name parent header)
      (hkind : kind = .interface → level = .file) (hinner : Pruned .body inner keptInner)
      (hcloser : closer.kind = .closing .brace) (hending : Ending ending)
      (hrest : Pruned level rest kept) :
      Pruned level (header ++ (inner ++ closer :: (ending ++ rest)))
        (header ++ (keptInner ++ closer :: (ending ++ kept)))
  | enum {level : Level} {decl : TypeDecl} {enum rest kept : List Token}
      (hdecl : FlatDecl decl enum) (hkind : decl.kind = .enum) (hrest : Pruned level rest kept) :
      Pruned level (enum ++ rest) (enum ++ kept)
  | typedef {level : Level} {keyword name semicolon : Token} {aliased rest kept : List Token}
      (hkeyword : keyword.kind = .keyword .typedef)
      (haliased : ∀ token ∈ aliased, token.kind ≠ .semicolon) (hname : name.IsIdentifier)
      (hsemicolon : semicolon.kind = .semicolon) (hrest : Pruned level rest kept) :
      Pruned level (keyword :: (aliased ++ name :: semicolon :: rest))
        (keyword :: (aliased.filter (¬ ·.kind.IsBracket) ++ name :: semicolon :: kept))
  | member {member keptMember rest kept : List Token} {semicolon : Token}
      (hmember : LooseMember member keptMember) (hsemicolon : semicolon.kind = .semicolon)
      (hstarts : ∀ token ∈ member.head?, ¬ token.kind.StartsDeclaration ∧ token.kind ≠ .atWord)
      (hrest : Pruned .body rest kept) :
      Pruned .body (member ++ semicolon :: rest) (keptMember ++ semicolon :: kept)
  /-- The brace that ends the body ends its last member, too. -/
  | lastMember {member keptMember : List Token} (hmember : LooseMember member keptMember)
      (hstarts : ∀ token ∈ member.head?, ¬ token.kind.StartsDeclaration ∧ token.kind ≠ .atWord) :
      Pruned .body member keptMember

/-- The first tokens are those of a file, and the second ones are left when the same brackets are
left out. -/
inductive PrunedFile : List Token → List Token → Prop where
  | intro {keyword written semicolon : Token} {importTokens declTokens kept : List Token}
      {imports : List QualifiedName} (hkeyword : keyword.kind = .keyword .package)
      (hwritten : written.kind = .name) (hsemicolon : semicolon.kind = .semicolon)
      (himports : Imports importTokens imports) (hdecls : Pruned .file declTokens kept) :
      PrunedFile (keyword :: written :: semicolon :: (importTokens ++ declTokens))
        (keyword :: written :: semicolon :: (importTokens ++ kept))

/-! ## The rest is balanced -/

theorem not_isBracket_of_eq {kind : TokenKind} (htoken : token.kind = kind)
    (hkind : ¬ kind.IsBracket) : ¬ token.kind.IsBracket := by
  rwa [htoken]

theorem balanced_filter (tokens : List Token) :
    Balanced (tokens.filter (¬ ·.kind.IsBracket)) :=
  balanced_of_forall fun _ htoken => of_decide_eq_true (List.mem_filter.1 htoken).2

theorem LooseMember.balanced (h : LooseMember tokens kept) : Balanced kept := by
  induction h with
  | nil => exact .nil
  | plain htoken _ _ ih => exact .plain htoken ih
  | group hgroup _ ih => exact hgroup.balanced.append ih
  | stray _ _ _ ih => exact ih

/-- The brace that opens a body comes last in its header. -/
theorem Header.exists_eq_append {kind : TypeKind} {name : Token} {parent : Option QualifiedName}
    (h : Header kind name parent tokens) :
    ∃ before brace, tokens = before ++ [brace] ∧ Balanced before ∧
      brace.kind = .opening .brace := by
  cases h with
  | struct hkeyword hname hbrace | union hkeyword hname hbrace | interface hkeyword hname hbrace =>
      refine ⟨[_, _], _, rfl, ?_, hbrace⟩
      exact .plain (not_isBracket_of_eq hkeyword id)
        (.plain (not_isBracket_of_eq hname.kind id) .nil)
  | extending hkeyword hname hextending hparent _ hbrace =>
      refine ⟨[_, _, _, _], _, rfl, ?_, hbrace⟩
      exact .plain (not_isBracket_of_eq hkeyword id) (.plain (not_isBracket_of_eq hname.kind id)
        (.plain (not_isBracket_of_eq hextending id) (.plain (not_isBracket_of_eq hparent id) .nil)))

theorem Ending.balanced (h : Ending tokens) : Balanced tokens := by
  cases h with
  | absent => exact .nil
  | present hsemicolon => exact .plain (not_isBracket_of_eq hsemicolon id) .nil

theorem ValueType.balanced (h : ValueType tokens) : Balanced tokens := by
  cases h with
  | absent => exact .nil
  | present hcolon hname =>
      exact .plain (not_isBracket_of_eq hcolon id) (.plain (not_isBracket_of_eq hname id) .nil)

theorem FlatDecl.balanced_of_enum {decl : TypeDecl} (h : FlatDecl decl tokens)
    (hkind : decl.kind = .enum) : Balanced tokens := by
  cases h with
  | enum hkeyword hname hvalueType hvalues hending =>
      exact .plain (not_isBracket_of_eq hkeyword id) (.plain (not_isBracket_of_eq hname.kind id)
        (hvalueType.balanced.append (hvalues.balanced.append hending.balanced)))
  | typedef => contradiction

theorem Imports.balanced {names : List QualifiedName} (h : Imports tokens names) :
    Balanced tokens := by
  induction h with
  | nil => exact .nil
  | cons hkeyword hwritten _ hsemicolon _ ih =>
      exact .plain (not_isBracket_of_eq hkeyword id) (.plain (not_isBracket_of_eq hwritten id)
        (.plain (not_isBracket_of_eq hsemicolon id) ih))

theorem Pruned.balanced {level : Level} (h : Pruned level tokens kept) : Balanced kept := by
  induction h with
  | nil => exact .nil
  | annotated hfirst _ _ ih => exact hfirst.balanced.append ih
  | nested hheader _ _ hcloser hending _ ihInner ihRest =>
      obtain ⟨before, brace, rfl, hbefore, hbrace⟩ := hheader.exists_eq_append
      rw [List.append_assoc]
      exact hbefore.append (.group hbrace ihInner hcloser (hending.balanced.append ihRest))
  | enum hdecl hkind _ ih => exact (hdecl.balanced_of_enum hkind).append ih
  | typedef hkeyword _ hname hsemicolon _ ih =>
      have hname' := not_isBracket_of_eq hname.kind id
      exact .plain (not_isBracket_of_eq hkeyword id) ((balanced_filter _).append
        (.plain hname' (.plain (not_isBracket_of_eq hsemicolon id) ih)))
  | member hmember hsemicolon _ _ ih =>
      exact hmember.balanced.append (.plain (not_isBracket_of_eq hsemicolon id) ih)
  | lastMember hmember => exact hmember.balanced

theorem PrunedFile.balanced (h : PrunedFile tokens kept) : Balanced kept := by
  obtain ⟨hkeyword, hwritten, hsemicolon, himports, hdecls⟩ := h
  exact .plain (not_isBracket_of_eq hkeyword id) (.plain (not_isBracket_of_eq hwritten id)
    (.plain (not_isBracket_of_eq hsemicolon id) (himports.balanced.append hdecls.balanced)))

end Grammar

open Grammar

variable {opened : List OpenDecl} {scope : Scope} {progress : Progress}

/-! ## What remains to be read -/

namespace Grammar

/-- What remains of the bodies of some open declarations, innermost first, and of the file around
them. -/
inductive Remaining : Nat → List Token → List Token → Prop where
  | file {tokens kept : List Token} (hdecls : Pruned .file tokens kept) : Remaining 0 tokens kept
  | body {depth : Nat} {inner keptInner ending rest kept : List Token} {closer : Token}
      (hinner : Pruned .body inner keptInner) (hcloser : closer.kind = .closing .brace)
      (hending : Ending ending) (hrest : Remaining depth rest kept) :
      Remaining (depth + 1) (inner ++ closer :: (ending ++ rest))
        (keptInner ++ closer :: (ending ++ kept))

variable {depth : Nat}

/-- What may stand first at a level may stand first in what remains. -/
theorem Remaining.prepend (first : List Token)
    (hfirst : ∀ {level : Level} {after keptAfter : List Token}, (depth = 0 ↔ level = .file) →
      (∀ token ∈ after.head?, token ∈ rest.head?) → Pruned level after keptAfter →
        ∃ kept', Pruned level (first ++ after) kept')
    (h : Remaining depth rest kept) : ∃ kept', Remaining depth (first ++ rest) kept' := by
  cases h with
  | file hdecls =>
      obtain ⟨kept', hdecls'⟩ := hfirst (iff_of_true rfl rfl) (fun _ htoken => htoken) hdecls
      exact ⟨kept', .file hdecls'⟩
  | @body depth inner _ _ _ _ closer hinner hcloser hending hrest =>
      obtain ⟨kept', hinner'⟩ := by
        refine hfirst (iff_of_false (Nat.succ_ne_zero _) Level.noConfusion) ?_ hinner
        intro token htoken
        cases inner with
        | nil => contradiction
        | cons => exact htoken
      rw [← List.append_assoc]
      exact ⟨_, .body hinner' hcloser hending hrest⟩

theorem ne_of_kind_eq {kind other : TokenKind} (htoken : token.kind = kind) (hkind : kind ≠ other) :
    token.kind ≠ other := by
  rwa [htoken]

theorem LooseMember.head_ne_closer (h : LooseMember tokens kept) :
    ∀ token ∈ tokens.head?, token.kind ≠ .closing .brace := by
  cases h with
  | nil => exact fun _ htoken => by contradiction
  | plain htoken =>
      refine forall_mem_head?_cons.2 ?_
      intro hkind
      rw [hkind] at htoken
      exact htoken trivial
  | group hgroup =>
      obtain ⟨opener, tail, rfl, hopener⟩ := hgroup.exists_eq_cons
      exact forall_mem_head?_cons.2 (ne_of_kind_eq hopener TokenKind.noConfusion)
  | stray htoken hbrace =>
      exact forall_mem_head?_cons.2 (ne_of_kind_eq htoken (mt TokenKind.closing.inj hbrace))

/-- Nothing in a body starts with the brace that ends it. -/
theorem Pruned.head_ne_closer {level : Level} (h : Pruned level tokens kept) :
    ∀ token ∈ tokens.head?, token.kind ≠ .closing .brace := by
  cases h with
  | nil => exact fun _ htoken => by contradiction
  | annotated hfirst =>
      obtain ⟨word, tail, rfl, hword⟩ := hfirst.exists_eq_cons
      exact forall_mem_head?_cons.2 (ne_of_kind_eq hword TokenKind.noConfusion)
  | nested hheader =>
      cases hheader with
      | struct hkeyword | union hkeyword | interface hkeyword | extending hkeyword =>
          exact forall_mem_head?_cons.2 (ne_of_kind_eq hkeyword TokenKind.noConfusion)
  | enum hdecl =>
      cases hdecl with
      | enum hkeyword | typedef hkeyword =>
          exact forall_mem_head?_cons.2 (ne_of_kind_eq hkeyword TokenKind.noConfusion)
  | typedef hkeyword => exact forall_mem_head?_cons.2 (ne_of_kind_eq hkeyword TokenKind.noConfusion)
  | @member member _ _ _ _ hmember hsemicolon =>
      cases member with
      | nil => exact forall_mem_head?_cons.2 (ne_of_kind_eq hsemicolon TokenKind.noConfusion)
      | cons first member => exact hmember.head_ne_closer
  | lastMember hmember => exact hmember.head_ne_closer

theorem Pruned.annotations {level : Level} {annotations : List (List Token)}
    (h : ∀ annotation ∈ annotations, Annotation annotation)
    (hends : EndsAnnotations annotations rest) (hrest : Pruned level rest kept) :
    Pruned level (annotations.flatten ++ rest) (annotations.flatten ++ kept) := by
  induction annotations with
  | nil => exact hrest
  | cons first annotations ih =>
      obtain ⟨hfirst, hannotations⟩ := List.forall_mem_cons.1 h
      obtain ⟨hothers, hbare⟩ := hends.of_cons hannotations
      rw [List.flatten_cons, List.append_assoc, List.append_assoc]
      exact .annotated hfirst hbare (ih hannotations hothers)

/-- A declaration without a body stands before what is read after it. -/
theorem Pruned.flat {level : Level} {decl : TypeDecl} {taken : List Token}
    (hrest : Pruned level rest kept) (hdecl : FlatDecl decl taken) :
    ∃ kept', Pruned level (taken ++ rest) kept' := by
  cases hdecl with
  | enum hkeyword hname hvalueType hvalues hending =>
      exact ⟨_, .enum (.enum hkeyword hname hvalueType hvalues hending) rfl hrest⟩
  | typedef hkeyword haliased hname hsemicolon =>
      have htypedef := Pruned.typedef hkeyword haliased hname hsemicolon hrest
      exact ⟨_, by simpa only [List.cons_append, List.append_assoc, List.nil_append] using htypedef⟩

/-- What a step takes stands before what remains after it. -/
theorem Remaining.of_takes {opened' : List OpenDecl} {scope' : Scope}
    (h : Takes opened scope tokens (.going opened' scope' rest))
    (hrest : Remaining opened'.length rest kept) :
    ∃ kept', Remaining opened.length tokens kept' := by
  cases h with
  | @opens kind _ _ header _ hheader hkind =>
      -- The body and the brace that ends it are taken off what remains.
      cases hrest with
      | @body _ inner _ ending rest _ closer hinner hcloser hending hrest =>
          have hprepend := hrest.prepend (header ++ (inner ++ closer :: ending))
            fun {level _ _} hlevel _ hafter => by
              have hkind' : kind = .interface → level = .file := fun hinterface =>
                hlevel.1 (List.length_eq_zero_iff.2 (hkind hinterface))
              have hnested := Pruned.nested hheader hkind' hinner hcloser hending hafter
              exact ⟨_, by simpa only [List.append_assoc, List.cons_append] using hnested⟩
          simpa only [List.append_assoc, List.cons_append] using hprepend
  | adds hdecl => exact hrest.prepend _ fun _ _ hafter => hafter.flat hdecl
  | closes hopened hcloser hending hafter =>
      subst hopened hafter
      exact ⟨_, .body .nil hcloser hending hrest⟩
  | @member member _ _ semicolon hopened hmember hsemicolon hstarts =>
      have hprepend := hrest.prepend (member ++ [semicolon]) fun {level _ _} hlevel _ hafter => by
        cases level with
        | file => exact absurd (List.length_eq_zero_iff.1 (hlevel.2 rfl)) hopened
        | body =>
            have hmember' := Pruned.member hmember hsemicolon hstarts hafter
            exact ⟨_, by simpa only [List.append_assoc, List.singleton_append] using hmember'⟩
      simpa only [List.append_assoc, List.singleton_append] using hprepend
  | @lastMember member _ rest closer hopened hmember hcloser hstarts =>
      generalize hdepth : opened.length = depth at hrest ⊢
      generalize htokens : closer :: rest = tokens at hrest ⊢
      cases hrest with
      | file => exact absurd (List.length_eq_zero_iff.1 hdepth) hopened
      | @body _ inner _ _ _ _ closer' hinner hcloser' hending hrest =>
          -- The brace is the one that ends the body, so nothing of the body is left.
          cases inner with
          | nil => exact ⟨_, .body (.lastMember hmember hstarts) hcloser' hending hrest⟩
          | cons first inner =>
              obtain ⟨rfl, _⟩ := List.cons.inj htokens
              exact absurd hcloser (hinner.head_ne_closer closer rfl)

/-- All tokens that are read in the end remain to be read in the bodies that are open.  The
induction is on the steps, and each of them is taken back. -/
theorem exists_remaining_of_readDecls {root : Scope}
    (h : readDecls opened scope tokens = .ok root) :
    ∃ kept, Remaining opened.length tokens kept := by
  fun_induction readDecls opened scope tokens with
  | case1 => contradiction
  | case2 opened scope tokens root' hstep =>
      obtain ⟨annotations, rest, rfl, hannotations, hends, htakes⟩ := exists_takes_of_advance hstep
      cases htakes with
      | finished hopened =>
          subst hopened
          exact ⟨_, .file (.annotations hannotations hends .nil)⟩
  | case3 opened scope tokens opened' scope' rest hstep ih =>
      obtain ⟨annotations, rest', rfl, hannotations, hends, htakes⟩ := exists_takes_of_advance hstep
      obtain ⟨kept, hrest⟩ := ih h
      obtain ⟨kept', hremaining⟩ := hrest.of_takes htakes
      exact hremaining.prepend _ fun _ hhead hafter =>
        ⟨_, hafter.annotations hannotations (hends.mono hhead)⟩

end Grammar

namespace SourceFile

theorem exists_prunedFile_of_ofTokens {file : SourceFile} (h : ofTokens tokens = .ok file) :
    ∃ kept, PrunedFile tokens kept := by
  obtain ⟨⟨package, afterPackage⟩, hpackage, h⟩ := except_bind_eq_ok.1 h
  obtain ⟨⟨imports, afterImports⟩, himports, h⟩ := except_bind_eq_ok.1 h
  obtain ⟨root, hroot, h⟩ := except_bind_eq_ok.1 h
  obtain ⟨keyword, written, semicolon, rfl, hkeyword, hwritten, _, _, hsemicolon⟩ :=
    packageLine_eq_ok_iff.1 hpackage
  obtain ⟨lines, rfl, hlines, _⟩ := importLines_eq_ok_iff.1 himports
  obtain ⟨kept, hremaining⟩ := exists_remaining_of_readDecls hroot
  cases hremaining with
  | file hdecls => exact ⟨_, .intro hkeyword hwritten hsemicolon hlines hdecls⟩

/-- The brackets of an accepted source are properly nested when those are left out that stand
between the keyword and the name of a typedef, and the closing parentheses and square brackets
that stand in a member and that nothing in the member opens. -/
theorem brackets_nested_of_parseAt {path : Path} {text : String} {file : SourceFile}
    (h : parseAt path text = .ok file) :
    ∃ tokens, tokenize text = .ok tokens ∧ (∃ kept, PrunedFile tokens kept) ∧
      ∀ kept, PrunedFile tokens kept → Balanced kept := by
  obtain ⟨tokens, htokens, hfile⟩ := exists_tokens_of_parse (parseAt_eq_ok_iff.1 h)
  exact ⟨tokens, htokens, exists_prunedFile_of_ofTokens hfile, fun _ => PrunedFile.balanced⟩

/-! ## A struct with loose brackets -/

namespace LooseBrackets

/-- Two brackets are opened in a typedef, and two that were not opened are closed in a field. -/
def text : String :=
  "package a@1.0;\nstruct S \x7b\n  typedef \x7b( Data;\n  int32_t x]);\n\x7d;"

def path : Path := ⟨"hw/a/1.0/types.hal"⟩

/-- A brace that could follow the text. -/
def brace : Token := ⟨.closing .brace, "\x7d", ⟨61, 62⟩⟩

theorem exists_parseAt_text : ∃ file, parseAt path text = .ok file := by
  have hsome : (parseAt path text).toOption.isSome = true := by decide +kernel
  cases hparse : parseAt path text with
  | error cause =>
      rw [hparse] at hsome
      contradiction
  | ok file => exact ⟨file, rfl⟩

theorem brackets_of_text :
    ∃ file tokens kept, parseAt path text = .ok file ∧ tokenize text = .ok tokens ∧
      PrunedFile tokens kept ∧ Balanced kept := by
  obtain ⟨file, hparse⟩ := exists_parseAt_text
  obtain ⟨tokens, htokens, ⟨kept, hpruned⟩, hbalanced⟩ := brackets_nested_of_parseAt hparse
  exact ⟨file, tokens, kept, hparse, htokens, hpruned, hbalanced kept hpruned⟩

/-- The brackets of an accepted source need not be balanced. -/
theorem text_not_balanced :
    ∃ file tokens, parseAt path text = .ok file ∧ tokenize text = .ok tokens ∧
      ¬ Balanced tokens := by
  obtain ⟨file, hparse⟩ := exists_parseAt_text
  obtain ⟨tokens, htokens, _⟩ := exists_tokens_of_parse (parseAt_eq_ok_iff.1 hparse)
  refine ⟨file, tokens, hparse, htokens, fun hbalanced => ?_⟩
  -- Balanced tokens could stand between two braces.
  have hgroup : (tokenize text).toOption.map
      (fun tokens => (skipGroup [.brace] (tokens ++ [brace])).toOption) = some none := by
    decide +kernel
  rw [htokens] at hgroup
  have hskip : skipGroup [.brace] (tokens ++ [brace]) = skipGroup [.brace] [brace] :=
    skipGroup_of_balanced hbalanced []
  have hnone : (skipGroup [.brace] (tokens ++ [brace])).toOption = none := Option.some.inj hgroup
  rw [hskip] at hnone
  contradiction

end LooseBrackets

end SourceFile

end HalPackages
