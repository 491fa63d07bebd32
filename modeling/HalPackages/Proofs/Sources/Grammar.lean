import HalPackages.Source.SourceFile

/-!
# The grammar of sources

What the tokens of a source look like, and what they declare:

    file       = "package" NAME ";" { "import" NAME ";" } { declaration }
    interface  = "interface" IDENT [ "extends" NAME ] "{" { declaration | member } "}" [ ";" ]
    struct     = "struct" IDENT "{" { declaration | member } "}" [ ";" ]
    union      = "union" IDENT "{" { declaration | member } "}" [ ";" ]
    enum       = "enum" IDENT [ ":" NAME ] group [ ";" ]
    typedef    = "typedef" { token } IDENT ";"
    annotation = "@" word [ group ]

A declaration or a member may have annotations before it, interfaces stand only at
the top level of a file, and a group is a pair of brackets with balanced tokens in
between.  The grammar does not refer to the reader.
-/

namespace HalPackages

/-! ## Tokens -/

/-- The token opens or closes something. -/
def TokenKind.IsBracket : TokenKind → Prop
  | opening _ | closing _ => True
  | _ => False

/-- The token starts a declaration. -/
def TokenKind.StartsDeclaration : TokenKind → Prop
  | keyword .interface | keyword .struct | keyword .union | keyword .enum | keyword .typedef => True
  | _ => False

/-- The token is a name that has neither a path nor a package or a version. -/
structure Token.IsIdentifier (token : Token) : Prop where
  kind : token.kind = .name
  plain : ∀ c ∈ token.text.toList, c ≠ '.' ∧ c ≠ '@' ∧ c ≠ ':'

/-- This is what the reader asks of the name of a declaration. -/
theorem Token.isIdentifier_iff {token : Token} :
    token.IsIdentifier ↔ token.kind = .name ∧ token.isSimple = true := by
  have hmarks (c : Char) :
      (c ≠ '.' ∧ c ≠ '@' ∧ c ≠ ':') ↔ (!(c == '.' || c == '@' || c == ':')) = true := by
    simp [and_assoc]
  rw [Token.isSimple, List.all_eq_true]
  constructor
  · intro h
    exact ⟨h.kind, fun c hc => (hmarks c).1 (h.plain c hc)⟩
  · rintro ⟨hkind, hplain⟩
    exact ⟨hkind, fun c hc => (hmarks c).2 (hplain c hc)⟩

/-- What holds of the first token, if there is one. -/
@[simp]
theorem forall_mem_head?_cons {P : Token → Prop} {token : Token} {tokens : List Token} :
    (∀ first ∈ (token :: tokens).head?, P first) ↔ P token := by
  simp

namespace Scope

/-- The position of each name in a list of declarations. -/
def positionsOf (decls : List TypeDecl) : Std.TreeMap String Nat :=
  decls.zipIdx.foldl (fun positions (decl, index) => positions.insert decl.name index) ∅

/-- The scope of a list of declarations, which have different names. -/
def ofDecls (decls : List TypeDecl) : Scope :=
  ⟨decls, positionsOf decls⟩

end Scope

namespace Grammar

/-! ## Groups, annotations and members -/

/-- Every bracket that opens is closed by one of its kind. -/
inductive Balanced : List Token → Prop where
  | nil : Balanced []
  | plain {token : Token} {rest : List Token} (htoken : ¬ token.kind.IsBracket)
      (hrest : Balanced rest) : Balanced (token :: rest)
  | group {bracket : Bracket} {opener closer : Token} {inner rest : List Token}
      (hopener : opener.kind = .opening bracket) (hinner : Balanced inner)
      (hcloser : closer.kind = .closing bracket) (hrest : Balanced rest) :
      Balanced (opener :: (inner ++ closer :: rest))

/-- A bracket, balanced tokens, and the bracket that closes the first one. -/
inductive Group (bracket : Bracket) : List Token → Prop where
  | intro {opener closer : Token} {inner : List Token} (hopener : opener.kind = .opening bracket)
      (hinner : Balanced inner) (hcloser : closer.kind = .closing bracket) :
      Group bracket (opener :: (inner ++ [closer]))

/-- An annotation with or without arguments. -/
inductive Annotation : List Token → Prop where
  | bare {word : Token} (hword : word.kind = .atWord) : Annotation [word]
  | applied {word : Token} {arguments : List Token} (hword : word.kind = .atWord)
      (harguments : Group .paren arguments) : Annotation (word :: arguments)

/-- What a member has before its semicolon: groups and other tokens. -/
inductive MemberBody : List Token → Prop where
  | nil : MemberBody []
  | plain {token : Token} {rest : List Token} (htoken : ¬ token.kind.IsBracket)
      (hsemicolon : token.kind ≠ .semicolon) (hrest : MemberBody rest) : MemberBody (token :: rest)
  | group {bracket : Bracket} {group rest : List Token} (hgroup : Group bracket group)
      (hrest : MemberBody rest) : MemberBody (group ++ rest)

/-- A field, a method, or a semicolon alone.  It starts like no declaration and no annotation. -/
structure Member (tokens : List Token) : Prop where
  ends : ∃ body semicolon, tokens = body ++ [semicolon] ∧ MemberBody body ∧
    semicolon.kind = .semicolon
  starts : ∀ token ∈ tokens.head?, ¬ token.kind.StartsDeclaration ∧ token.kind ≠ .atWord

/-! ## Declarations -/

/-- The semicolon that may stand after a body. -/
inductive Ending : List Token → Prop where
  | absent : Ending []
  | present {semicolon : Token} (hsemicolon : semicolon.kind = .semicolon) : Ending [semicolon]

/-- The value type that an enum may have. -/
inductive ValueType : List Token → Prop where
  | absent : ValueType []
  | present {colon name : Token} (hcolon : colon.kind = .colon) (hname : name.kind = .name) :
      ValueType [colon, name]

/-- What stands before the body of a declaration of a given kind: its name, the interface that it
extends, and the brace that opens the body. -/
inductive Header : TypeKind → Token → Option QualifiedName → List Token → Prop where
  | struct {keyword name brace : Token} (hkeyword : keyword.kind = .keyword .struct)
      (hname : name.IsIdentifier) (hbrace : brace.kind = .opening .brace) :
      Header .struct name none [keyword, name, brace]
  | union {keyword name brace : Token} (hkeyword : keyword.kind = .keyword .union)
      (hname : name.IsIdentifier) (hbrace : brace.kind = .opening .brace) :
      Header .union name none [keyword, name, brace]
  | interface {keyword name brace : Token} (hkeyword : keyword.kind = .keyword .interface)
      (hname : name.IsIdentifier) (hbrace : brace.kind = .opening .brace) :
      Header .interface name none [keyword, name, brace]
  | extending {keyword name extending parent brace : Token} {parentName : QualifiedName}
      (hkeyword : keyword.kind = .keyword .interface) (hname : name.IsIdentifier)
      (hextending : extending.kind = .keyword .extending) (hparent : parent.kind = .name)
      (hparentName : QualifiedName.parse parent.text = .ok parentName)
      (hbrace : brace.kind = .opening .brace) :
      Header .interface name (some parentName) [keyword, name, extending, parent, brace]

/-- A declaration without a body to declare types in. -/
inductive FlatDecl : TypeDecl → List Token → Prop where
  | enum {keyword name : Token} {valueType values ending : List Token}
      (hkeyword : keyword.kind = .keyword .enum) (hname : name.IsIdentifier)
      (hvalueType : ValueType valueType) (hvalues : Group .brace values)
      (hending : Ending ending) :
      FlatDecl ⟨name.text, .enum, name.span, none, ∅⟩
        (keyword :: name :: (valueType ++ (values ++ ending)))
  | typedef {keyword name semicolon : Token} {aliased : List Token}
      (hkeyword : keyword.kind = .keyword .typedef)
      (haliased : ∀ token ∈ aliased, token.kind ≠ .semicolon) (hname : name.IsIdentifier)
      (hsemicolon : semicolon.kind = .semicolon) :
      FlatDecl ⟨name.text, .typedef, name.span, none, ∅⟩
        (keyword :: (aliased ++ [name, semicolon]))

/-- Where declarations stand. -/
inductive Level where
  /-- At the top of a file. -/
  | file
  /-- In the body of a declaration. -/
  | body
deriving DecidableEq

/-- The declarations that tokens make at a level, in order.  Only a body has members, and only a
file declares interfaces. -/
inductive Items : Level → List Token → List TypeDecl → Prop where
  | nil {level : Level} : Items level [] []
  | nested {level : Level} {kind : TypeKind} {name closer : Token} {parent : Option QualifiedName}
      {annotations : List (List Token)} {header inner ending rest : List Token}
      {members decls : List TypeDecl}
      (hannotations : ∀ annotation ∈ annotations, Annotation annotation)
      (hheader : Header kind name parent header) (hkind : kind = .interface → level = .file)
      (hinner : Items .body inner members) (hnames : (members.map TypeDecl.name).Nodup)
      (hcloser : closer.kind = .closing .brace) (hending : Ending ending)
      (hrest : Items level rest decls) :
      Items level (annotations.flatten ++ (header ++ (inner ++ closer :: (ending ++ rest))))
        (⟨name.text, kind, name.span, parent, Scope.ofDecls members⟩ :: decls)
  | flat {level : Level} {annotations : List (List Token)} {decl : TypeDecl}
      {tokens rest : List Token} {decls : List TypeDecl}
      (hannotations : ∀ annotation ∈ annotations, Annotation annotation)
      (hdecl : FlatDecl decl tokens) (hrest : Items level rest decls) :
      Items level (annotations.flatten ++ (tokens ++ rest)) (decl :: decls)
  /-- A parenthesis after an annotation without arguments would be taken for its arguments. -/
  | member {annotations : List (List Token)} {member rest : List Token} {decls : List TypeDecl}
      (hannotations : ∀ annotation ∈ annotations, Annotation annotation) (hmember : Member member)
      (hparen : ∀ word, annotations.getLast? = some [word] →
        ∀ token ∈ member.head?, token.kind ≠ .opening .paren)
      (hrest : Items .body rest decls) :
      Items .body (annotations.flatten ++ (member ++ rest)) decls

/-! ## Files -/

/-- The imports of a file, as they are written. -/
inductive Imports : List Token → List QualifiedName → Prop where
  | nil : Imports [] []
  | cons {keyword written semicolon : Token} {name : QualifiedName} {rest : List Token}
      {names : List QualifiedName} (hkeyword : keyword.kind = .keyword .imports)
      (hwritten : written.kind = .name) (hname : QualifiedName.parse written.text = .ok name)
      (hsemicolon : semicolon.kind = .semicolon) (hrest : Imports rest names) :
      Imports (keyword :: written :: semicolon :: rest) (name :: names)

/-- The file that tokens write.  Its declarations have different names, and at most one of them is
an interface. -/
inductive File : List Token → SourceFile → Prop where
  | intro {keyword written semicolon : Token} {package : QualifiedName}
      {importTokens declTokens : List Token} {imports : List QualifiedName} {decls : List TypeDecl}
      (hkeyword : keyword.kind = .keyword .package) (hwritten : written.kind = .name)
      (hpackage : QualifiedName.parse written.text = .ok package) (hform : package.IsPackage)
      (hsemicolon : semicolon.kind = .semicolon) (himports : Imports importTokens imports)
      (hdecls : Items .file declTokens decls) (hnames : (decls.map TypeDecl.name).Nodup)
      (hinterface : decls.countP (·.kind = .interface) ≤ 1) :
      File (keyword :: written :: semicolon :: (importTokens ++ declTokens))
        ⟨package, imports, Scope.ofDecls decls⟩

end Grammar

end HalPackages
