import HalPackages.ParseError
import HalPackages.Source.Declarations

/-!
# Source files

A source file names its package, imports other names and declares types.  What a
text declares is read off its tokens.
-/

namespace HalPackages

/-- The package of a file, its imports as they are written, and the types it declares. -/
structure SourceFile where
  package : QualifiedName
  imports : List QualifiedName
  root : Scope

namespace SourceFile

/-- The interface that a file declares, if it declares one. -/
def interface? (file : SourceFile) : Option TypeDecl :=
  file.root.decls.find? (·.kind = .interface)

/-- Take the line that names the package. -/
def packageLine (tokens : List Token) : Except Rejection (QualifiedName × List Token) := do
  let (_, rest) ← expect (.keyword .package) tokens
  let (token, rest) ← expect .name rest
  let package ← token.qualifiedName
  if package.IsPackage then
    let (_, rest) ← expect .semicolon rest
    return (package, rest)
  else throw (token.reject .notAPackage)

/-- Take the rest of an import, after its keyword. -/
def importLine (tokens : List Token) : Except Rejection (QualifiedName × List Token) := do
  let (token, rest) ← expect .name tokens
  let name ← token.qualifiedName
  let (_, rest) ← expect .semicolon rest
  return (name, rest)

theorem length_lt_of_importLine {name : QualifiedName} {tokens rest : List Token}
    (h : importLine tokens = .ok (name, rest)) : rest.length < tokens.length := by
  obtain ⟨⟨token, afterName⟩, hname, h⟩ := except_bind_eq_ok.1 h
  obtain ⟨_, _, h⟩ := except_bind_eq_ok.1 h
  obtain ⟨⟨semicolon, afterEnd⟩, hend, h⟩ := except_bind_eq_ok.1 h
  cases h
  have := length_lt_of_expect hname
  have := length_lt_of_expect hend
  omega

/-- Take all imports. -/
def importLines (tokens : List Token) : Except Rejection (List QualifiedName × List Token) :=
  match tokens with
  | [] => .ok ([], [])
  | token :: rest =>
    if token.kind = .keyword .imports then
      match _h : importLine rest with
      | .error rejection => .error rejection
      | .ok (name, rest) =>
        match importLines rest with
        | .error rejection => .error rejection
        | .ok (names, rest) => .ok (name :: names, rest)
    else .ok ([], token :: rest)
termination_by tokens.length
decreasing_by exact Nat.lt_succ_of_lt (length_lt_of_importLine _h)

/-- The file that a list of tokens writes. -/
def ofTokens (tokens : List Token) : Except Rejection SourceFile := do
  let (package, rest) ← packageLine tokens
  let (imports, rest) ← importLines rest
  let root ← readDecls [] ∅ rest
  return ⟨package, imports, root⟩

/-- The file that a text writes. -/
def parse (text : String) : Except SyntaxError SourceFile :=
  let file := match tokenize text with
    | .ok tokens => ofTokens tokens
    | .error bad => .error bad.rejection
  file.mapError (·.locate text)

/-- The file that a text at a path writes; the path only serves the error. -/
def parseAt (path : Path) (text : String) : Except ParseError SourceFile :=
  (parse text).mapError fun cause => .malformed path cause.position cause.problem.message

theorem except_mapError_eq_ok {ε ε' α : Type} {x : Except ε α} {f : ε → ε'} {a : α} :
    x.mapError f = .ok a ↔ x = .ok a := by
  cases x with
  | error cause => exact ⟨fun h => by contradiction, fun h => by contradiction⟩
  | ok value =>
      exact ⟨fun h => congrArg Except.ok (Except.ok.inj h),
        fun h => congrArg Except.ok (Except.ok.inj h)⟩

theorem except_mapError_eq_error {ε ε' α : Type} {x : Except ε α} {f : ε → ε'} {cause' : ε'} :
    x.mapError f = .error cause' ↔ ∃ cause, x = .error cause ∧ f cause = cause' := by
  cases x with
  | error cause =>
      constructor
      · exact fun h => ⟨cause, rfl, Except.error.inj h⟩
      · rintro ⟨_, h, rfl⟩
        exact congrArg (fun cause => Except.error (f cause)) (Except.error.inj h)
  | ok value => exact ⟨fun h => by contradiction, fun ⟨_, h, _⟩ => by contradiction⟩

/-- The path is no part of the file. -/
theorem parseAt_eq_ok_iff {path : Path} {text : String} {file : SourceFile} :
    parseAt path text = .ok file ↔ parse text = .ok file :=
  except_mapError_eq_ok

/-- A file that a text writes is the one that its tokens write. -/
theorem exists_tokens_of_parse {text : String} {file : SourceFile} (h : parse text = .ok file) :
    ∃ tokens, tokenize text = .ok tokens ∧ ofTokens tokens = .ok file := by
  have hfile := except_mapError_eq_ok.1 h
  split at hfile
  · rename_i tokens htokens
    exact ⟨tokens, htokens, hfile⟩
  · contradiction

/-- The type at a dotted path from the top level of a file. -/
def lookupType? (file : SourceFile) (path : String) : Option TypeDecl :=
  file.root.lookup? path

end SourceFile

end HalPackages
