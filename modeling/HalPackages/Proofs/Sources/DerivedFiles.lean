import HalPackages.Proofs.Sources.DerivedDecls

/-!
# Reading derived files

A text whose tokens the grammar derives is read to its end, and the file is the
derived one.
-/

namespace HalPackages

open Grammar

variable {tokens : List Token}

namespace SourceFile

/-! ## Files -/

/-- Tokens that the grammar derives are read as the derived file. -/
theorem ofTokens_of_file {file : SourceFile} (h : File tokens file) :
    ofTokens tokens = .ok file := by
  cases h with
  | @intro keyword written semicolon package importTokens declTokens imports decls hkeyword
      hwritten hpackage hform hsemicolon himports hdecls hnames hinterface =>
      have hread : readDecls [] (Scope.ofDecls []) (declTokens ++ []) =
          readDecls [] (Scope.ofDecls ([] ++ decls)) [] :=
        readDecls_of_items hdecls ⟨rfl, rfl⟩ (pairwise_compatible_of_file hnames hinterface)
      rw [List.append_nil, List.nil_append] at hread
      have hpackageLine : packageLine
          (keyword :: written :: semicolon :: (importTokens ++ declTokens)) =
            .ok (package, importTokens ++ declTokens) :=
        packageLine_eq_ok_iff.2
          ⟨keyword, written, semicolon, rfl, hkeyword, hwritten, hpackage, hform, hsemicolon⟩
      have himportLines : importLines (importTokens ++ declTokens) = .ok (imports, declTokens) :=
        importLines_eq_ok_iff.2
          ⟨importTokens, rfl, himports, hdecls.head_ne TokenKind.noConfusion id⟩
      have hroot : readDecls [] ∅ declTokens = .ok (Scope.ofDecls decls) := by
        change readDecls [] (Scope.ofDecls []) declTokens = _
        rw [hread, readDecls, advance, skipAnnotations]
        rfl
      exact except_bind_eq_ok.2 ⟨_, hpackageLine,
        except_bind_eq_ok.2 ⟨_, himportLines, except_bind_eq_ok.2 ⟨_, hroot, rfl⟩⟩⟩

/-- A text whose tokens the grammar derives is read, and the file is the derived one. -/
theorem parseAt_of_derived {text : String} {file : SourceFile}
    (htokens : tokenize text = .ok tokens) (h : File tokens file) (path : Path) :
    parseAt path text = .ok file := by
  rw [parseAt_eq_ok_iff, parse, htokens]
  change (ofTokens tokens).mapError _ = _
  rw [ofTokens_of_file h]
  rfl

/-! ## A field of a type declared in its place -/

namespace NestedField

/-- The declaration of a field is that of its type and a member with the name of the field. -/
def text : String :=
  "package a@1.0; import b@1.0; @c interface I { struct S { x[z]; } y; };"

def header : List Token :=
  [⟨.keyword .interface, "interface", ⟨32, 41⟩⟩, ⟨.name, "I", ⟨42, 43⟩⟩,
    ⟨.opening .brace, "\x7b", ⟨44, 45⟩⟩]

def fieldHeader : List Token :=
  [⟨.keyword .struct, "struct", ⟨46, 52⟩⟩, ⟨.name, "S", ⟨53, 54⟩⟩,
    ⟨.opening .brace, "\x7b", ⟨55, 56⟩⟩]

/-- The member of the struct. -/
def element : List Token :=
  [⟨.name, "x", ⟨57, 58⟩⟩, ⟨.opening .square, "[", ⟨58, 59⟩⟩, ⟨.name, "z", ⟨59, 60⟩⟩,
    ⟨.closing .square, "]", ⟨60, 61⟩⟩, ⟨.semicolon, ";", ⟨61, 62⟩⟩]

/-- The member of the interface. -/
def fieldName : List Token :=
  [⟨.name, "y", ⟨65, 66⟩⟩, ⟨.semicolon, ";", ⟨66, 67⟩⟩]

def fieldTokens : List Token :=
  fieldHeader ++ (element ++ ⟨.closing .brace, "\x7d", ⟨63, 64⟩⟩ :: fieldName)

def declTokens : List Token :=
  ⟨.atWord, "@c", ⟨29, 31⟩⟩ :: (header ++ (fieldTokens ++
    [⟨.closing .brace, "\x7d", ⟨68, 69⟩⟩, ⟨.semicolon, ";", ⟨69, 70⟩⟩]))

def importTokens : List Token :=
  [⟨.keyword .imports, "import", ⟨15, 21⟩⟩, ⟨.name, "b@1.0", ⟨22, 27⟩⟩,
    ⟨.semicolon, ";", ⟨27, 28⟩⟩]

def textTokens : List Token :=
  ⟨.keyword .package, "package", ⟨0, 7⟩⟩ :: ⟨.name, "a@1.0", ⟨8, 13⟩⟩ ::
    ⟨.semicolon, ";", ⟨13, 14⟩⟩ :: (importTokens ++ declTokens)

def fieldType : TypeDecl :=
  ⟨"S", .struct, ⟨53, 54⟩, none, Scope.ofDecls []⟩

def interfaceDecl : TypeDecl :=
  ⟨"I", .interface, ⟨42, 43⟩, none, Scope.ofDecls [fieldType]⟩

def file : SourceFile :=
  ⟨⟨"a", "@1.0", ""⟩, [⟨"b", "@1.0", ""⟩], Scope.ofDecls [interfaceDecl]⟩

theorem tokenize_text : tokenize text = .ok textTokens := by
  have htokens : (tokenize text).toOption = some textTokens := by decide +kernel
  cases htext : tokenize text with
  | error bad =>
      rw [htext] at htokens
      contradiction
  | ok tokens =>
      rw [htext] at htokens
      rw [Option.some.inj htokens]

theorem no_annotations : ∀ annotation ∈ ([] : List (List Token)), Annotation annotation :=
  fun _ hannotation => absurd hannotation List.not_mem_nil

theorem member_element : Member element where
  ends := by
    have hindex : Group .square [⟨.opening .square, "[", ⟨58, 59⟩⟩, ⟨.name, "z", ⟨59, 60⟩⟩,
        ⟨.closing .square, "]", ⟨60, 61⟩⟩] :=
      .intro rfl (.plain id .nil) rfl
    exact ⟨_, _, rfl, .plain id TokenKind.noConfusion (.group hindex .nil), rfl⟩
  starts := forall_mem_head?_cons.2 ⟨id, TokenKind.noConfusion⟩

theorem member_fieldName : Member fieldName where
  ends := ⟨_, _, rfl, .plain id TokenKind.noConfusion .nil, rfl⟩
  starts := forall_mem_head?_cons.2 ⟨id, TokenKind.noConfusion⟩

theorem items_fieldTokens : Items .body fieldTokens [fieldType] := by
  have hheader : Header .struct ⟨.name, "S", ⟨53, 54⟩⟩ none fieldHeader :=
    .struct rfl (Token.isIdentifier_iff.2 ⟨rfl, rfl⟩) rfl
  have hinner : Items .body (element ++ []) [] :=
    .member no_annotations member_element (fun _ hlast => by contradiction) .nil
  have hrest : Items .body (fieldName ++ []) [] :=
    .member no_annotations member_fieldName (fun _ hlast => by contradiction) .nil
  exact .nested no_annotations hheader TypeKind.noConfusion hinner .nil rfl .absent hrest

theorem items_declTokens : Items .file declTokens [interfaceDecl] := by
  have hannotations : ∀ annotation ∈ [[⟨.atWord, "@c", ⟨29, 31⟩⟩]], Annotation annotation := by
    intro annotation hannotation
    rw [List.mem_singleton.1 hannotation]
    exact .bare rfl
  have hheader : Header .interface ⟨.name, "I", ⟨42, 43⟩⟩ none header :=
    .interface rfl (Token.isIdentifier_iff.2 ⟨rfl, rfl⟩) rfl
  have hending : Ending [⟨.semicolon, ";", ⟨69, 70⟩⟩] := .present rfl
  exact .nested hannotations hheader (fun _ => rfl) items_fieldTokens
    (List.pairwise_singleton _ _) rfl hending .nil

theorem file_textTokens : File textTokens file := by
  have himports : Imports importTokens [⟨"b", "@1.0", ""⟩] := .cons rfl rfl rfl rfl .nil
  exact .intro rfl rfl rfl (by decide) rfl himports items_declTokens (List.pairwise_singleton _ _)
    (by decide)

/-- The struct is declared inside the interface, and the names of the fields are left out. -/
theorem parseAt_nestedField :
    tokenize text = .ok textTokens ∧ File textTokens file ∧
      parseAt ⟨"hw/a/1.0/I.hal"⟩ text = .ok file :=
  ⟨tokenize_text, file_textTokens, parseAt_of_derived tokenize_text file_textTokens _⟩

end NestedField

end SourceFile

end HalPackages
