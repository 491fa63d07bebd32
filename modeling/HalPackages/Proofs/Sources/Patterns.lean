import HalPackages.Proofs.Sources.Tokens
import Mathlib.Computability.Language
import Mathlib.Data.List.TakeWhile

/-!
# Patterns of tokens

Each kind of token has a pattern, which does not refer to the way in which a source
is cut into pieces:

    word       = letter-or-underscore { letter | digit | underscore }
    path       = word { "." word }
    version    = "@" digit { digit } "." digit { digit }
    name       = path [ version ] [ "::" path ]
    annotation = "@" word
    number     = digit { letter | digit | underscore }
    string     = quote { any but quote and backslash | backslash any but newline } quote

The other tokens are written in one way, but for the operators, which are single
signs.  What is taken for a token always is in the pattern of its kind.
-/

namespace HalPackages

open scoped Computability

namespace Pattern

/-- The words of one character of a class. -/
def oneOf (accepts : Char → Prop) : Language Char :=
  {word : List Char | ∃ c, accepts c ∧ word = [c]}

/-- One word only. -/
def literal (text : List Char) : Language Char :=
  {text}

def word : Language Char :=
  oneOf (fun c => c.isAlpha ∨ c = '_') * (oneOf fun c => c.isAlphanum ∨ c = '_')∗

def path : Language Char :=
  word * (literal ['.'] * word)∗

def digits : Language Char :=
  oneOf (fun c => c.isDigit) * (oneOf fun c => c.isDigit)∗

def version : Language Char :=
  literal ['@'] * digits * (literal ['.'] * digits)

def name : Language Char :=
  path * ((1 + version) * (1 + literal [':', ':'] * path))

def atWord : Language Char :=
  literal ['@'] * word

def number : Language Char :=
  oneOf (fun c => c.isDigit) * (oneOf fun c => c.isAlphanum ∨ c = '_')∗

/-- What may stand between quotes. -/
def stringPart : Language Char :=
  oneOf (fun c => c ≠ '"' ∧ c ≠ '\\') + literal ['\\'] * oneOf (· ≠ '\n')

def string : Language Char :=
  literal ['"'] * (stringPart∗ * literal ['"'])

def operator : Language Char :=
  oneOf (· ∈ ['-', '+', '*', '/', '%', '|', '&', '^', '~', '!', '?', '.'])

end Pattern

/-- The words that a kind of token stands for. -/
def TokenKind.pattern : TokenKind → Language Char
  | keyword reserved => Pattern.literal reserved.spelling.toList
  | name => Pattern.name
  | atWord => Pattern.atWord
  | number => Pattern.number
  | string => Pattern.string
  | opening bracket => Pattern.literal [bracket.opener]
  | closing bracket => Pattern.literal [bracket.closer]
  | leftAngle => Pattern.literal ['<']
  | rightAngle => Pattern.literal ['>']
  | semicolon => Pattern.literal [';']
  | colon => Pattern.literal [':']
  | comma => Pattern.literal [',']
  | equals => Pattern.literal ['=']
  | operator => Pattern.operator

namespace Pattern

variable {accepts : Char → Prop} {c : Char} {cs : List Char} {first rest : List Char}
variable {pattern : Language Char}

theorem mem_oneOf (hc : accepts c) : [c] ∈ oneOf accepts :=
  ⟨c, hc, rfl⟩

theorem cons_mem (hc : accepts c) (hcs : cs ∈ pattern) : c :: cs ∈ oneOf accepts * pattern :=
  Language.append_mem_mul (mem_oneOf hc) hcs

theorem literal_append_mem (text : List Char) (hcs : cs ∈ pattern) :
    text ++ cs ∈ literal text * pattern :=
  Language.append_mem_mul (Set.mem_singleton text) hcs

theorem append_mem_kstar (hfirst : first ∈ pattern) (hrest : rest ∈ pattern∗) :
    first ++ rest ∈ pattern∗ := by
  obtain ⟨words, rfl, hwords⟩ := hrest
  exact ⟨first :: words, rfl, List.forall_mem_cons.2 ⟨hfirst, hwords⟩⟩

theorem mem_kstar_of_forall (h : ∀ c ∈ cs, accepts c) : cs ∈ (oneOf accepts)∗ := by
  induction cs with
  | nil => exact Language.nil_mem_kstar _
  | cons c cs ih =>
      obtain ⟨hc, hcs⟩ := List.forall_mem_cons.1 h
      exact append_mem_kstar (mem_oneOf hc) (ih hcs)

/-- What is not there is optional. -/
theorem nil_mem_optional : [] ∈ 1 + pattern :=
  Or.inl rfl

theorem mem_optional (h : cs ∈ pattern) : cs ∈ 1 + pattern :=
  Or.inr h

end Pattern

namespace Piece

open Pattern

variable {c : Char} {cs rest : List Char} {kind : TokenKind}

theorem takeWhile_mem_kstar {accepts : Char → Prop} {test : Char → Bool}
    (h : ∀ c, test c = true → accepts c) (cs : List Char) :
    cs.takeWhile test ∈ (oneOf accepts)∗ :=
  mem_kstar_of_forall fun c hc => h c (List.mem_takeWhile_imp hc)

/-! ## Names -/

/-- The rest of a path is the rest of its first word and other words after dots. -/
theorem pathTail_mem (cs : List Char) :
    (pathTail cs).1 ∈
      (oneOf fun c => c.isAlphanum ∨ c = '_')∗ * (literal ['.'] * word)∗ := by
  fun_induction pathTail cs with
  | case1 | case2 | case4 | case6 =>
      exact Language.append_mem_mul (Language.nil_mem_kstar _) (Language.nil_mem_kstar _)
  | case3 c cs hstart path rest heq ih =>
      rw [heq] at ih
      obtain ⟨part, hpart, words, hwords, rfl⟩ := ih
      have hword : c :: part ∈ word := cons_mem (isWordStart_iff.1 hstart) hpart
      have hdotted := literal_append_mem ['.'] hword
      exact Language.append_mem_mul (Language.nil_mem_kstar _) (append_mem_kstar hdotted hwords)
  | case5 c cs _ _ hpart path rest heq ih =>
      rw [heq] at ih
      obtain ⟨part, hpart', words, hwords, rfl⟩ := ih
      have hparts := append_mem_kstar (mem_oneOf (isWordPart_iff.1 hpart)) hpart'
      exact Language.append_mem_mul hparts hwords

theorem cons_pathTail_mem_path (hstart : isWordStart c = true) (cs : List Char) :
    c :: (pathTail cs).1 ∈ path := by
  obtain ⟨part, hpart, words, hwords, heq⟩ := pathTail_mem cs
  rw [← heq]
  exact Language.append_mem_mul (cons_mem (isWordStart_iff.1 hstart) hpart) hwords

theorem takeWhile_isDigit_mem_digits (h : cs.takeWhile Char.isDigit ≠ []) :
    cs.takeWhile Char.isDigit ∈ digits := by
  obtain ⟨d, ds, heq⟩ := List.exists_cons_of_ne_nil h
  have hdigits : ∀ d ∈ cs.takeWhile Char.isDigit, d.isDigit = true := fun _ =>
    List.mem_takeWhile_imp
  rw [heq] at hdigits ⊢
  obtain ⟨hd, hds⟩ := List.forall_mem_cons.1 hdigits
  exact cons_mem hd (mem_kstar_of_forall hds)

theorem mem_version_of_versionTail {text : List Char} (h : versionTail cs = .present text rest) :
    text ∈ version := by
  unfold versionTail at h
  split at h
  case h_2 => contradiction
  case h_1 cs =>
    dsimp only at h
    split at h
    case isTrue => contradiction
    case isFalse hmajor =>
      split at h
      case h_2 => contradiction
      case h_1 ds _ =>
        split at h
        case isTrue => contradiction
        case isFalse hminor =>
          cases h
          exact Language.append_mem_mul
            (literal_append_mem ['@'] (takeWhile_isDigit_mem_digits hmajor))
            (literal_append_mem ['.'] (takeWhile_isDigit_mem_digits hminor))

theorem localTail_mem (cs : List Char) : (localTail cs).1 ∈ 1 + literal [':', ':'] * path := by
  unfold localTail
  split
  case h_2 => exact nil_mem_optional
  case h_1 c cs =>
    split
    case isTrue hstart =>
      exact mem_optional (literal_append_mem [':', ':'] (cons_pathTail_mem_path hstart cs))
    case isFalse => exact nil_mem_optional

/-- A reserved word is spelled like its keyword, and every other word is a name. -/
theorem mem_pattern_wordKind (h : cs ∈ name) (rest : List Char) :
    cs ∈ (wordKind cs rest).pattern := by
  unfold wordKind
  split
  case h_1 keyword hkeyword =>
    split
    case h_4 =>
      have hspelling := List.find?_some hkeyword
      exact (of_decide_eq_true hspelling).symm
    all_goals exact h
  case h_2 => exact h

theorem mem_pattern_of_nameAt (hstart : isWordStart c = true)
    (h : (nameAt c cs).1.kind = .token kind) : (nameAt c cs).1.text ∈ kind.pattern := by
  have hpath := cons_pathTail_mem_path hstart cs
  rcases htail : pathTail cs with ⟨path, afterPath⟩
  rw [htail] at hpath
  cases hversion : versionTail afterPath with
  | incomplete =>
      simp only [nameAt, htail, hversion] at h
      contradiction
  | present version afterVersion =>
      simp only [nameAt, htail, hversion] at h ⊢
      cases h
      rw [List.append_assoc]
      have hlocal := localTail_mem afterVersion
      exact Language.append_mem_mul hpath (Language.append_mem_mul
        (mem_optional (mem_version_of_versionTail hversion)) hlocal)
  | absent =>
      simp only [nameAt, htail, hversion] at h ⊢
      cases h
      have hlocal := localTail_mem afterPath
      exact mem_pattern_wordKind (Language.append_mem_mul hpath (Language.append_mem_mul
        nil_mem_optional hlocal)) _

/-! ## Other tokens -/

theorem mem_pattern_of_annotationAt (h : (annotationAt cs).1.kind = .token kind) :
    (annotationAt cs).1.text ∈ kind.pattern := by
  revert h
  unfold annotationAt
  split
  case h_2 => exact fun h => by contradiction
  case h_1 c cs =>
    split
    case isFalse => exact fun h => by contradiction
    case isTrue hstart =>
      intro h
      cases h
      have hword : c :: cs.takeWhile isWordPart ∈ word :=
        cons_mem (isWordStart_iff.1 hstart) (takeWhile_mem_kstar (fun _ => isWordPart_iff.1) cs)
      exact literal_append_mem ['@'] hword

/-- What is read up to a closing quote stands between quotes. -/
theorem stringTail_mem (h : (stringTail cs).1 = true) :
    (stringTail cs).2.1 ∈ stringPart∗ * literal ['"'] := by
  fun_induction stringTail cs with
  | case1 | case2 | case3 => contradiction
  | case4 c cs hc closed text rest heq ih =>
      rw [heq] at ih
      obtain ⟨parts, hparts, quote, hquote, rfl⟩ := ih h
      have hpart : ['\\', c] ∈ stringPart :=
        Or.inr (literal_append_mem ['\\'] (mem_oneOf hc))
      exact Language.append_mem_mul (append_mem_kstar hpart hparts) hquote
  | case5 => exact Language.append_mem_mul (Language.nil_mem_kstar _) (Set.mem_singleton _)
  | case6 c cs hlast hescape hquote closed text rest heq ih =>
      rw [heq] at ih
      obtain ⟨parts, hparts, quote, hquote', rfl⟩ := ih h
      have hbackslash : c ≠ '\\' := by
        intro hc
        cases cs with
        | nil => exact hlast hc rfl
        | cons d ds => exact hescape d ds hc rfl
      have hpart : [c] ∈ stringPart := Or.inl (mem_oneOf ⟨hquote, hbackslash⟩)
      exact Language.append_mem_mul (append_mem_kstar hpart hparts) hquote'

theorem mem_pattern_of_stringAt (h : (stringAt cs).1.kind = .token kind) :
    (stringAt cs).1.text ∈ kind.pattern := by
  have hbody : (stringTail cs).1 = true → (stringTail cs).2.1 ∈ stringPart∗ * literal ['"'] :=
    stringTail_mem
  rcases htail : stringTail cs with ⟨closed, body, rest⟩
  simp only [stringAt, htail] at h hbody ⊢
  cases closed with
  | false => contradiction
  | true =>
      cases h
      exact literal_append_mem ['"'] (hbody rfl)

theorem mem_pattern_of_slashAt (h : (slashAt cs).1.kind = .token kind) :
    (slashAt cs).1.text ∈ kind.pattern := by
  revert h
  unfold slashAt
  split
  case h_1 => exact fun h => by contradiction
  case h_2 =>
    split
    case h_1 | h_2 => exact fun h => by contradiction
  case h_3 =>
    intro h
    cases h
    exact mem_oneOf (by decide)

theorem mem_pattern_of_signKind (h : signKind c = .token kind) : [c] ∈ kind.pattern := by
  unfold signKind at h
  split at h
  case h_13 =>
    split at h
    case isTrue hoperator =>
      cases h
      exact mem_oneOf (List.contains_iff_mem.1 hoperator)
    case isFalse => contradiction
  all_goals
    cases h
    exact Set.mem_singleton _

/-- What is taken for a token is in the pattern of its kind. -/
theorem mem_pattern_of_first (h : (first c cs).1.kind = .token kind) :
    (first c cs).1.text ∈ kind.pattern := by
  revert h
  fun_cases first c cs with
  | case1 => exact fun h => by contradiction
  | case2 _ hstart => exact mem_pattern_of_nameAt hstart
  | case3 _ _ hdigit =>
      intro h
      cases h
      exact cons_mem hdigit (takeWhile_mem_kstar (fun _ => isWordPart_iff.1) cs)
  | case4 => exact mem_pattern_of_annotationAt
  | case5 => exact mem_pattern_of_stringAt
  | case6 => exact mem_pattern_of_slashAt
  | case7 => exact mem_pattern_of_signKind

end Piece

end HalPackages
