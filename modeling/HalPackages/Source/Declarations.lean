import HalPackages.Source.Members
import HalPackages.Source.TypeDecl

/-!
# Reading declarations

Declarations are read one step at a time.  The state of the reader is the list of
declarations whose bodies are open, innermost first, and the scope of the
innermost one; every step that does not end the file uses up tokens.
-/

namespace HalPackages

/-! ## Single tokens and names -/

/-- Take a token of a given kind. -/
def expect (kind : TokenKind) : List Token → Except Rejection (Token × List Token)
  | [] => .error (.atEnd (.unexpectedEnd kind))
  | token :: rest =>
    if token.kind = kind then .ok (token, rest)
    else .error (token.reject (.unexpectedToken kind token.kind))

/-- The tokens after one of a given kind, if it stands first. -/
def skipOptional (kind : TokenKind) : List Token → List Token
  | [] => []
  | token :: rest => if token.kind = kind then rest else token :: rest

/-- The name that a token writes. -/
def Token.qualifiedName (token : Token) : Except Rejection QualifiedName :=
  match QualifiedName.parse token.text with
  | .ok name => .ok name
  | .error cause => .error (token.reject (.badName cause))

/-- Whether the text of a name token is one identifier. -/
def Token.isSimple (token : Token) : Bool :=
  token.text.toList.all fun c => !(c == '.' || c == '@' || c == ':')

/-- Take a name that is one identifier. -/
def expectIdentifier (tokens : List Token) : Except Rejection (Token × List Token) := do
  let (token, rest) ← expect .name tokens
  if token.isSimple then return (token, rest)
  else throw (token.reject (.notSimple token.text))

/-! ## Declarations without a body -/

/-- The tokens after the value type of an enum, if it has one. -/
def skipValueType : List Token → Except Rejection (List Token)
  | [] => .ok []
  | token :: rest =>
    if token.kind = .colon then Prod.snd <$> expect .name rest else .ok (token :: rest)

/-- The tokens after the values of an enum. -/
def skipEnumBody : List Token → Except Rejection (List Token)
  | [] => .error (.atEnd .enumWithoutBody)
  | token :: rest =>
    if token.kind = .opening .brace then skipBalanced (token :: rest)
    else .error (token.reject .enumWithoutBody)

/-- Take the rest of an enum: its name, its value type if it has one, and its values. -/
def enumDecl (tokens : List Token) : Except Rejection (TypeDecl × List Token) := do
  let (name, rest) ← expectIdentifier tokens
  let rest ← skipValueType rest
  let rest ← skipEnumBody rest
  return (⟨name.text, .enum, name.span, none, ∅⟩, skipOptional .semicolon rest)

/-- The tokens after the next semicolon, and the last token before it. -/
def toSemicolon (last : Option Token) : List Token → Except Rejection (Option Token × List Token)
  | [] => .error (.atEnd .unterminatedTypedef)
  | token :: rest =>
    if token.kind = .semicolon then .ok (last, rest) else toSemicolon (some token) rest

/-- Take the rest of a typedef, which ends with the new name. -/
def typedefDecl (keyword : Token) (tokens : List Token) :
    Except Rejection (TypeDecl × List Token) := do
  let (last, rest) ← toSemicolon none tokens
  match last with
  | some name =>
    if name.kind = .name ∧ name.isSimple then
      return (⟨name.text, .typedef, name.span, none, ∅⟩, rest)
    else throw (keyword.reject .unnamedTypedef)
  | none => throw (keyword.reject .unnamedTypedef)

/-! ## Declarations with a body -/

/-- A declaration whose body is being read, and the scope around it so far. -/
structure OpenDecl where
  name : Token
  kind : TypeKind
  parent : Option QualifiedName
  outer : Scope

/-- The declaration that results when the body has been read. -/
def OpenDecl.withMembers (decl : OpenDecl) (members : Scope) : TypeDecl :=
  ⟨decl.name.text, decl.kind, decl.name.span, decl.parent, members⟩

/-- Take the header of a struct or a union, up to the brace that opens its body. -/
def bodyHeader (kind : TypeKind) (outer : Scope) (tokens : List Token) :
    Except Rejection (OpenDecl × List Token) := do
  let (name, rest) ← expectIdentifier tokens
  let (_, rest) ← expect (.opening .brace) rest
  return (⟨name, kind, none, outer⟩, rest)

/-- Take the name of a parent interface, if there is one. -/
def parentName (tokens : List Token) : Except Rejection (Option QualifiedName × List Token) := do
  match tokens with
  | token :: rest =>
    if token.kind = .keyword .extending then
      let (name, rest) ← expect .name rest
      return (some (← name.qualifiedName), rest)
    else return (none, tokens)
  | [] => return (none, [])

/-- Take the header of an interface, up to the brace that opens its body. -/
def interfaceHeader (outer : Scope) (tokens : List Token) :
    Except Rejection (OpenDecl × List Token) := do
  let (name, rest) ← expectIdentifier tokens
  let (parent, rest) ← parentName rest
  let (_, rest) ← expect (.opening .brace) rest
  return (⟨name, .interface, parent, outer⟩, rest)

/-- Add a declaration to a scope that has none of its name, and no second interface. -/
def declare (scope : Scope) (decl : TypeDecl) : Except Rejection Scope :=
  if decl.kind = .interface ∧ scope.decls.any (·.kind = .interface) then
    .error ⟨some decl.span, .secondInterface⟩
  else
    match scope.insert decl with
    | .ok scope => .ok scope
    | .error decl => .error ⟨some decl.span, .redefinition decl.name⟩

/-! ## The reader -/

/-- Where a step leaves the reader. -/
inductive Progress where
  /-- The file has ended and its declarations are complete. -/
  | finished (root : Scope)
  /-- There is more to read, in the body of the innermost open declaration. -/
  | going (opened : List OpenDecl) (scope : Scope) (rest : List Token)

/-- Go on inside the body that a header opens. -/
def enterBody (opened : List OpenDecl) (header : Except Rejection (OpenDecl × List Token)) :
    Except Rejection Progress := do
  let (decl, rest) ← header
  return .going (decl :: opened) ∅ rest

/-- Go on after a declaration that has been read completely. -/
def addDecl (opened : List OpenDecl) (scope : Scope)
    (item : Except Rejection (TypeDecl × List Token)) : Except Rejection Progress := do
  let (decl, rest) ← item
  let scope ← declare scope decl
  return .going opened scope rest

/-- Read what a token that is no annotation starts: a declaration without a body, the header of one
with a body, the end of a body, or one member to skip. -/
def advanceAt (opened : List OpenDecl) (scope : Scope) (token : Token) (rest : List Token) :
    Except Rejection Progress :=
  match token.kind, opened with
  | .keyword .interface, [] => enterBody [] (interfaceHeader scope rest)
  | .keyword .interface, _ :: _ => .error (token.reject .nestedInterface)
  | .keyword .struct, _ => enterBody opened (bodyHeader .struct scope rest)
  | .keyword .union, _ => enterBody opened (bodyHeader .union scope rest)
  | .keyword .enum, _ => addDecl opened scope (enumDecl rest)
  | .keyword .typedef, _ => addDecl opened scope (typedefDecl token rest)
  | kind, [] => .error (token.reject (.notADeclaration kind))
  | .closing .brace, decl :: outer =>
    addDecl outer decl.outer (.ok (decl.withMembers scope, skipOptional .semicolon rest))
  | _, _ :: _ => .going opened scope <$> skipMember (token :: rest)

/-- One step of the reader. -/
def advance (opened : List OpenDecl) (scope : Scope) (tokens : List Token) :
    Except Rejection Progress := do
  match ← skipAnnotations tokens with
  | [] => if opened = [] then .ok (.finished scope) else .error (.atEnd .openBody)
  | token :: rest => advanceAt opened scope token rest

/-! ## Every step gets ahead -/

theorem except_bind_eq_ok {ε α β : Type} {x : Except ε α} {f : α → Except ε β} {b : β} :
    (x >>= f) = .ok b ↔ ∃ a, x = .ok a ∧ f a = .ok b := by
  cases x <;> simp [bind, Except.bind]

private theorem except_map_eq_ok {α β : Type} {x : Except Rejection α} {f : α → β} {b : β} :
    f <$> x = .ok b ↔ ∃ a, x = .ok a ∧ f a = b := by
  cases x <;> simp [Functor.map, Except.map]

theorem length_lt_of_expect {kind : TokenKind} {token : Token} {tokens rest : List Token}
    (h : expect kind tokens = .ok (token, rest)) : rest.length < tokens.length := by
  fun_cases expect kind tokens <;> simp_all [expect]

theorem length_skipOptional_le (kind : TokenKind) (tokens : List Token) :
    (skipOptional kind tokens).length ≤ tokens.length := by
  fun_cases skipOptional kind tokens <;> simp

theorem length_lt_of_expectIdentifier {token : Token} {tokens rest : List Token}
    (h : expectIdentifier tokens = .ok (token, rest)) : rest.length < tokens.length := by
  obtain ⟨⟨name, rest'⟩, hexpect, h⟩ := except_bind_eq_ok.1 h
  dsimp only at h
  split at h
  · cases h
    exact length_lt_of_expect hexpect
  · cases h

theorem length_lt_of_toSemicolon {first last : Option Token} {tokens rest : List Token}
    (h : toSemicolon first tokens = .ok (last, rest)) : rest.length < tokens.length := by
  fun_induction toSemicolon first tokens <;> simp_all
  omega

theorem length_lt_of_typedefDecl {keyword : Token} {decl : TypeDecl} {tokens rest : List Token}
    (h : typedefDecl keyword tokens = .ok (decl, rest)) : rest.length < tokens.length := by
  obtain ⟨⟨last, rest'⟩, htail, h⟩ := except_bind_eq_ok.1 h
  have hlength := length_lt_of_toSemicolon htail
  dsimp only at h
  split at h
  · split at h
    · cases h
      exact hlength
    · cases h
  · cases h

theorem length_le_of_skipValueType {tokens rest : List Token}
    (h : skipValueType tokens = .ok rest) : rest.length ≤ tokens.length := by
  unfold skipValueType at h
  split at h
  · cases h
    exact Nat.le_refl _
  · split at h
    · obtain ⟨⟨name, afterName⟩, hname, h⟩ := except_map_eq_ok.1 h
      subst h
      exact Nat.le_of_lt (Nat.lt_succ_of_lt (length_lt_of_expect hname))
    · cases h
      exact Nat.le_refl _

theorem length_lt_of_skipEnumBody {tokens rest : List Token}
    (h : skipEnumBody tokens = .ok rest) : rest.length < tokens.length := by
  unfold skipEnumBody at h
  split at h
  · cases h
  · split at h
    · exact length_lt_of_skipBalanced h
    · cases h

theorem length_lt_of_enumDecl {decl : TypeDecl} {tokens rest : List Token}
    (h : enumDecl tokens = .ok (decl, rest)) : rest.length < tokens.length := by
  obtain ⟨⟨name, afterName⟩, hname, h⟩ := except_bind_eq_ok.1 h
  obtain ⟨afterType, htype, h⟩ := except_bind_eq_ok.1 h
  obtain ⟨afterBody, hbody, h⟩ := except_bind_eq_ok.1 h
  cases h
  have := length_lt_of_expectIdentifier hname
  have := length_le_of_skipValueType htype
  have := length_lt_of_skipEnumBody hbody
  have := length_skipOptional_le .semicolon afterBody
  dsimp only at *
  omega

theorem length_lt_of_bodyHeader {kind : TypeKind} {outer : Scope} {decl : OpenDecl}
    {tokens rest : List Token} (h : bodyHeader kind outer tokens = .ok (decl, rest)) :
    rest.length < tokens.length := by
  obtain ⟨⟨name, afterName⟩, hname, h⟩ := except_bind_eq_ok.1 h
  obtain ⟨⟨brace, afterBrace⟩, hbrace, h⟩ := except_bind_eq_ok.1 h
  cases h
  exact Nat.lt_trans (length_lt_of_expect hbrace) (length_lt_of_expectIdentifier hname)

theorem length_le_of_parentName {parent : Option QualifiedName} {tokens rest : List Token}
    (h : parentName tokens = .ok (parent, rest)) : rest.length ≤ tokens.length := by
  unfold parentName at h
  split at h
  · split at h
    · obtain ⟨⟨name, afterName⟩, hname, h⟩ := except_bind_eq_ok.1 h
      obtain ⟨parent, hparent, h⟩ := except_bind_eq_ok.1 h
      cases h
      have := length_lt_of_expect hname
      simp only [List.length_cons]
      omega
    · cases h
      exact Nat.le_refl _
  · cases h
    exact Nat.le_refl _

theorem length_lt_of_interfaceHeader {outer : Scope} {decl : OpenDecl} {tokens rest : List Token}
    (h : interfaceHeader outer tokens = .ok (decl, rest)) : rest.length < tokens.length := by
  obtain ⟨⟨name, afterName⟩, hname, h⟩ := except_bind_eq_ok.1 h
  obtain ⟨⟨parent, afterParent⟩, hparent, h⟩ := except_bind_eq_ok.1 h
  obtain ⟨⟨brace, afterBrace⟩, hbrace, h⟩ := except_bind_eq_ok.1 h
  cases h
  have := length_lt_of_expectIdentifier hname
  have := length_le_of_parentName hparent
  have := length_lt_of_expect hbrace
  omega

theorem length_lt_of_enterBody {opened opened' : List OpenDecl} {scope : Scope}
    {header : Except Rejection (OpenDecl × List Token)} {rest : List Token} {bound : Nat}
    (hheader : ∀ decl tail, header = .ok (decl, tail) → tail.length < bound)
    (h : enterBody opened header = .ok (.going opened' scope rest)) : rest.length < bound := by
  obtain ⟨⟨decl, tail⟩, hok, h⟩ := except_bind_eq_ok.1 h
  cases h
  exact hheader decl _ hok

theorem length_lt_of_addDecl {opened opened' : List OpenDecl} {scope scope' : Scope}
    {item : Except Rejection (TypeDecl × List Token)} {rest : List Token} {bound : Nat}
    (hitem : ∀ decl tail, item = .ok (decl, tail) → tail.length < bound)
    (h : addDecl opened scope item = .ok (.going opened' scope' rest)) : rest.length < bound := by
  obtain ⟨⟨decl, tail⟩, hok, h⟩ := except_bind_eq_ok.1 h
  obtain ⟨scope'', _, h⟩ := except_bind_eq_ok.1 h
  cases h
  exact hitem decl _ hok

theorem length_lt_of_advanceAt {opened opened' : List OpenDecl} {scope scope' : Scope}
    {token : Token} {tail rest : List Token}
    (h : advanceAt opened scope token tail = .ok (.going opened' scope' rest)) :
    rest.length < tail.length + 1 := by
  unfold advanceAt at h
  split at h
  · exact length_lt_of_enterBody
      (fun _ _ h => Nat.lt_succ_of_lt (length_lt_of_interfaceHeader h)) h
  · cases h
  · exact length_lt_of_enterBody (fun _ _ h => Nat.lt_succ_of_lt (length_lt_of_bodyHeader h)) h
  · exact length_lt_of_enterBody (fun _ _ h => Nat.lt_succ_of_lt (length_lt_of_bodyHeader h)) h
  · exact length_lt_of_addDecl (fun _ _ h => Nat.lt_succ_of_lt (length_lt_of_enumDecl h)) h
  · exact length_lt_of_addDecl (fun _ _ h => Nat.lt_succ_of_lt (length_lt_of_typedefDecl h)) h
  · cases h
  · refine length_lt_of_addDecl (fun _ _ h => ?_) h
    cases h
    exact Nat.lt_succ_of_le (length_skipOptional_le _ _)
  · rename_i hbrace
    obtain ⟨rest', hmember, h⟩ := except_map_eq_ok.1 h
    cases h
    exact length_lt_of_skipMember hbrace hmember

/-- A step that leaves more to read has used up a token. -/
theorem length_lt_of_advance {opened opened' : List OpenDecl} {scope scope' : Scope}
    {tokens rest : List Token}
    (h : advance opened scope tokens = .ok (.going opened' scope' rest)) :
    rest.length < tokens.length := by
  obtain ⟨skipped, hskipped, h⟩ := except_bind_eq_ok.1 h
  have hlength := length_le_of_skipAnnotations hskipped
  split at h
  · split at h <;> cases h
  · exact Nat.lt_of_lt_of_le (length_lt_of_advanceAt h) hlength

/-- Read all declarations of a file. -/
def readDecls (opened : List OpenDecl) (scope : Scope) (tokens : List Token) :
    Except Rejection Scope :=
  match _h : advance opened scope tokens with
  | .error rejection => .error rejection
  | .ok (.finished root) => .ok root
  | .ok (.going opened scope rest) => readDecls opened scope rest
termination_by tokens.length
decreasing_by exact length_lt_of_advance _h

end HalPackages
