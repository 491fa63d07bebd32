import HalPackages.Source.Token
import HalPackages.Text.Split

/-!
# Cutting a source into pieces

A source is cut into consecutive pieces: tokens, text to skip (white space and
comments) and text that is neither.  The pieces put together are the source, and
the source has tokens when no piece is refused.
-/

namespace HalPackages

open Text

/-- What a piece of a source is. -/
inductive PieceKind where
  | token (kind : TokenKind)
  | skipped
  | refused
deriving DecidableEq

/-- A piece of a source, never empty. -/
structure Piece where
  kind : PieceKind
  text : List Char
deriving DecidableEq

namespace Piece

/-! ## Character classes -/

/-- The white space that separates tokens. -/
def isSeparator (c : Char) : Bool :=
  c == ' ' || c == '\t' || c == '\r' || c == '\n' || c == '\x0c'

/-- Words start with an ASCII letter or an underscore. -/
def isWordStart (c : Char) : Bool :=
  c.isAlpha || c == '_'

/-- Words go on with ASCII letters, digits and underscores. -/
def isWordPart (c : Char) : Bool :=
  c.isAlphanum || c == '_'

/-- The signs that are one-character operators. -/
def isOperator (c : Char) : Bool :=
  ['-', '+', '*', '/', '%', '|', '&', '^', '~', '!', '?', '.'].contains c

/-! ## Words and names -/

/-- The rest of a dotted path and what follows it.  A dot belongs to the path only if a word starts
after it. -/
def pathTail : List Char → List Char × List Char
  | [] => ([], [])
  | ['.'] => ([], ['.'])
  | '.' :: c :: cs =>
    if isWordStart c then
      let (path, rest) := pathTail cs
      ('.' :: c :: path, rest)
    else ([], '.' :: c :: cs)
  | c :: cs =>
    if isWordPart c then
      let (path, rest) := pathTail cs
      (c :: path, rest)
    else ([], c :: cs)

/-- What stands where a name may have a version. -/
inductive VersionTail where
  /-- No `@` with a digit after it. -/
  | absent
  /-- A version and what follows it. -/
  | present (version rest : List Char)
  /-- A major number that no minor number follows. -/
  | incomplete (version rest : List Char)

/-- Look for `@`, digits, a dot and digits at the start of a text. -/
def versionTail : List Char → VersionTail
  | '@' :: cs =>
    let major := cs.takeWhile Char.isDigit
    if major = [] then .absent
    else
      match cs.dropWhile Char.isDigit with
      | '.' :: ds =>
        let minor := ds.takeWhile Char.isDigit
        if minor = [] then .incomplete ('@' :: major) ('.' :: ds)
        else .present ('@' :: major ++ '.' :: minor) (ds.dropWhile Char.isDigit)
      | rest => .incomplete ('@' :: major) rest
  | _ => .absent

/-- The `::` part of a name and what follows it.  The colons belong to the name only if a word
starts after them. -/
def localTail : List Char → List Char × List Char
  | ':' :: ':' :: c :: cs =>
    if isWordStart c then
      let (path, rest) := pathTail cs
      (':' :: ':' :: c :: path, rest)
    else ([], ':' :: ':' :: c :: cs)
  | cs => ([], cs)

/-- A word is reserved unless the next character makes it look like a longer name. -/
def wordKind (text rest : List Char) : TokenKind :=
  match Keyword.ofSpelling? text with
  | some keyword =>
    match rest with
    | '.' :: _ | ':' :: _ | '@' :: _ => .name
    | _ => .keyword keyword
  | none => .name

/-- The longest name at the start of a text that starts with a word. -/
def nameAt (first : Char) (text : List Char) : Piece × List Char :=
  let (path, afterPath) := pathTail text
  match versionTail afterPath with
  | .incomplete version rest => (⟨.refused, first :: path ++ version⟩, rest)
  | .present version afterVersion =>
    let (localName, rest) := localTail afterVersion
    (⟨.token .name, first :: path ++ version ++ localName⟩, rest)
  | .absent =>
    let (localName, rest) := localTail afterPath
    (⟨.token (wordKind (first :: path ++ localName) rest), first :: path ++ localName⟩, rest)

/-! ## Annotations, strings and comments -/

/-- An annotation is an `@` with a word after it. -/
def annotationAt : List Char → Piece × List Char
  | c :: cs =>
    if isWordStart c then
      (⟨.token .atWord, '@' :: c :: cs.takeWhile isWordPart⟩, cs.dropWhile isWordPart)
    else (⟨.refused, ['@']⟩, c :: cs)
  | [] => (⟨.refused, ['@']⟩, [])

/-- What follows an opening quote: whether a closing quote ends it, the text up to there, and the
rest.  A backslash takes the next character with it, which must not be a line break. -/
def stringTail : List Char → Bool × List Char × List Char
  | [] => (false, [], [])
  | ['\\'] => (false, [], ['\\'])
  | '\\' :: c :: cs =>
    if c = '\n' then (false, [], '\\' :: c :: cs)
    else
      let (closed, text, rest) := stringTail cs
      (closed, '\\' :: c :: text, rest)
  | c :: cs =>
    if c = '"' then (true, ['"'], cs)
    else
      let (closed, text, rest) := stringTail cs
      (closed, c :: text, rest)

/-- A string literal, or the text that was read in search of its end. -/
def stringAt (text : List Char) : Piece × List Char :=
  let (closed, body, rest) := stringTail text
  (⟨if closed then .token .string else .refused, '"' :: body⟩, rest)

/-- After a slash: a comment to the end of the line, a comment to the next `*/`, or an operator. -/
def slashAt : List Char → Piece × List Char
  | '/' :: cs => (⟨.skipped, '/' :: '/' :: cs.takeWhile (· != '\n')⟩, cs.dropWhile (· != '\n'))
  | '*' :: cs =>
    match splitFirst ['*', '/'] cs with
    | some (comment, rest) => (⟨.skipped, '/' :: '*' :: comment ++ ['*', '/']⟩, rest)
    | none => (⟨.refused, '/' :: '*' :: cs⟩, [])
  | cs => (⟨.token .operator, ['/']⟩, cs)

/-- The token that a single sign makes. -/
def signKind (c : Char) : PieceKind :=
  match c with
  | '{' => .token (.opening .brace)
  | '}' => .token (.closing .brace)
  | '(' => .token (.opening .paren)
  | ')' => .token (.closing .paren)
  | '[' => .token (.opening .square)
  | ']' => .token (.closing .square)
  | '<' => .token .leftAngle
  | '>' => .token .rightAngle
  | ';' => .token .semicolon
  | ':' => .token .colon
  | ',' => .token .comma
  | '=' => .token .equals
  | _ => if isOperator c then .token .operator else .refused

/-! ## Pieces -/

/-- The first piece of a text that is not empty, and what follows it. -/
def first (c : Char) (cs : List Char) : Piece × List Char :=
  if isSeparator c then (⟨.skipped, c :: cs.takeWhile isSeparator⟩, cs.dropWhile isSeparator)
  else if isWordStart c then nameAt c cs
  else if c.isDigit then (⟨.token .number, c :: cs.takeWhile isWordPart⟩, cs.dropWhile isWordPart)
  else if c = '@' then annotationAt cs
  else if c = '"' then stringAt cs
  else if c = '/' then slashAt cs
  else (⟨signKind c, [c]⟩, cs)

/-! ## Nothing is lost -/

theorem pathTail_append (cs : List Char) : (pathTail cs).1 ++ (pathTail cs).2 = cs := by
  fun_induction pathTail cs <;> simp_all

/-- The version and the text after it, if there is one. -/
theorem versionTail_append (cs : List Char) :
    match versionTail cs with
    | .absent => True
    | .present version rest | .incomplete version rest => version ++ rest = cs := by
  have hdigits (ds : List Char) : ds.takeWhile Char.isDigit ++ ds.dropWhile Char.isDigit = ds :=
    List.takeWhile_append_dropWhile
  fun_cases versionTail cs with
  | case1 => trivial
  | case2 cs major _ ds hds => simp [major, ← hds, hdigits]
  | case3 cs major _ ds hds minor => simp [major, minor, hdigits, ← hds]
  | case4 cs major => simp [major, hdigits]
  | case5 => trivial

theorem localTail_append (cs : List Char) : (localTail cs).1 ++ (localTail cs).2 = cs := by
  fun_cases localTail cs with
  | case1 c cs _ path rest heq => simpa [*] using pathTail_append cs
  | case2 => simp [*]
  | case3 => simp_all

theorem stringTail_append (cs : List Char) :
    (stringTail cs).2.1 ++ (stringTail cs).2.2 = cs := by
  fun_induction stringTail cs <;> simp_all

theorem nameAt_append (c : Char) (cs : List Char) :
    (nameAt c cs).1.text ++ (nameAt c cs).2 = c :: cs := by
  have hpath := pathTail_append cs
  have hversion := versionTail_append (pathTail cs).2
  unfold nameAt
  split
  rename_i path afterPath heq
  simp only [heq] at hpath hversion
  split
  all_goals
    rename_i htail
    simp only [htail] at hversion
  · simp [hversion, hpath]
  · rename_i version afterVersion
    have hlocal := localTail_append afterVersion
    simp [hlocal, hversion, hpath]
  · have hlocal := localTail_append afterPath
    simp [hlocal, hpath]

theorem slashAt_append (cs : List Char) : (slashAt cs).1.text ++ (slashAt cs).2 = '/' :: cs := by
  fun_cases slashAt cs with
  | case1 cs => simp
  | case2 cs comment rest h => simpa using append_of_splitFirst h
  | case3 cs => simp
  | case4 cs => simp

/-- The first piece and what follows it make up the text. -/
theorem first_append (c : Char) (cs : List Char) :
    (first c cs).1.text ++ (first c cs).2 = c :: cs := by
  fun_cases first c cs with
  | case1 => simp
  | case2 => exact nameAt_append c cs
  | case3 => simp
  | case4 _ _ _ h =>
    subst h
    fun_cases annotationAt cs <;> simp
  | case5 _ _ _ _ h =>
    subst h
    simpa [stringAt] using stringTail_append cs
  | case6 _ _ _ _ _ h =>
    subst h
    exact slashAt_append cs
  | case7 => simp

/-- A piece is never empty. -/
theorem first_text_ne_nil (c : Char) (cs : List Char) : (first c cs).1.text ≠ [] := by
  fun_cases first c cs with
  | case1 => simp
  | case2 => fun_cases nameAt c cs <;> simp
  | case3 => simp
  | case4 => fun_cases annotationAt cs <;> simp
  | case5 => simp [stringAt]
  | case6 => fun_cases slashAt cs <;> simp
  | case7 => simp

theorem length_first_lt (c : Char) (cs : List Char) :
    (first c cs).2.length < (c :: cs).length := by
  have happend := congrArg List.length (first_append c cs)
  have hpos := List.length_pos_iff.2 (first_text_ne_nil c cs)
  rw [List.length_append] at happend
  omega

end Piece

/-- The pieces of a text, in order. -/
def piecesOf : List Char → List Piece
  | [] => []
  | c :: cs => (Piece.first c cs).1 :: piecesOf (Piece.first c cs).2
termination_by cs => cs.length
decreasing_by exact Piece.length_first_lt c cs

/-- The pieces put together are the text. -/
theorem flatMap_text_piecesOf (cs : List Char) : (piecesOf cs).flatMap Piece.text = cs := by
  fun_induction piecesOf cs with
  | case1 => rfl
  | case2 c cs ih => rw [List.flatMap_cons, ih, Piece.first_append]

/-- Text that belongs to no token, and where it stands. -/
structure BadText where
  text : String
  span : Span
deriving DecidableEq

/-- The tokens among pieces that start at a given offset, up to the first refused piece.  Offsets
are not bounded here, but they do not go beyond the end of the text. -/
def tokensFrom (offset : Nat) : List Piece → Except BadText (List Token)
  | [] => .ok []
  | ⟨kind, text⟩ :: pieces =>
    let span : Span := ⟨offset, offset + byteLength text⟩
    match kind with
    | .refused => .error ⟨String.ofList text, span⟩
    | .skipped => tokensFrom span.stop pieces
    | .token kind => do
      let tokens ← tokensFrom span.stop pieces
      return ⟨kind, String.ofList text, span⟩ :: tokens

/-- The tokens of a source text. -/
def tokenize (text : String) : Except BadText (List Token) :=
  tokensFrom 0 (piecesOf text.toList)

end HalPackages
