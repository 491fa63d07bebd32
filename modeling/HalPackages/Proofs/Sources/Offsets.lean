import HalPackages.Proofs.Sources.Coverage
import HalPackages.Proofs.Sources.MovedSpans
import HalPackages.Proofs.Sources.Positions

/-!
# Offsets in 32 bits

Offsets are counted without a bound, but none lies behind the end of its text.  So in
a text of less than 4 GiB nothing is lost where an offset is kept in 32 bits: not in
the spans of the tokens, not in a span that is refused, and, since the reader only
copies the spans of tokens, neither in what it returns nor in the places of its errors.
-/

namespace HalPackages

/-- The span lies between the start and the end of a text. -/
structure Span.Within (span : Span) (text : String) : Prop where
  start_le_stop : span.start ≤ span.stop
  stop_le : span.stop ≤ text.utf8ByteSize

/-- The span as it is kept in 32 bits. -/
def Span.narrow (span : Span) : Span :=
  ⟨span.start % 2 ^ 32, span.stop % 2 ^ 32⟩

variable {span : Span} {text : String} {tokens : List Token} {token : Token}

theorem Span.Covers.within {word : List Char} (h : span.Covers text.toList word) :
    span.Within text := by
  obtain ⟨before, after, htext, hstart, hstop⟩ := h
  have hlength := congrArg byteLength htext
  rw [byteLength_toList, byteLength_append, byteLength_append] at hlength
  constructor
  · omega
  · omega

theorem Span.Within.fits (h : span.Within text) (htext : text.utf8ByteSize < 2 ^ 32) :
    span.start < 2 ^ 32 ∧ span.stop < 2 ^ 32 := by
  have hstop : span.stop < 2 ^ 32 := Nat.lt_of_le_of_lt h.stop_le htext
  exact ⟨Nat.lt_of_le_of_lt h.start_le_stop hstop, hstop⟩

theorem Span.Within.narrow_eq (h : span.Within text) (htext : text.utf8ByteSize < 2 ^ 32) :
    span.narrow = span := by
  obtain ⟨hstart, hstop⟩ := h.fits htext
  rw [Span.narrow, Nat.mod_eq_of_lt hstart, Nat.mod_eq_of_lt hstop]

/-! ## Tokens -/

theorem within_of_tokenize (h : tokenize text = .ok tokens) (htoken : token ∈ tokens) :
    token.span.Within text :=
  (covers_of_tokenize h htoken).within

theorem within_of_refused {bad : BadText} (h : tokenize text = .error bad) :
    bad.span.Within text :=
  (covers_of_refused h).within

theorem map_narrow_of_tokenize (htext : text.utf8ByteSize < 2 ^ 32)
    (h : tokenize text = .ok tokens) : tokens.map (Token.mapSpan Span.narrow) = tokens := by
  have hfixed : ∀ token ∈ tokens, token.mapSpan Span.narrow = token := by
    intro token htoken
    rw [Token.mapSpan, (within_of_tokenize h htoken).narrow_eq htext]
  rw [List.map_congr_left hfixed, List.map_id']

/-! ## Files and errors -/

theorem Rejection.offset_lt {rejection : Rejection} (htext : text.utf8ByteSize < 2 ^ 32)
    (h : rejection.mapSpan Span.narrow = rejection) : rejection.offset text < 2 ^ 32 := by
  have hplace : rejection.place.map Span.narrow = rejection.place := congrArg place h
  rw [offset]
  cases hspan : rejection.place with
  | none =>
      rw [byteLength_toList]
      exact htext
  | some span =>
      rw [hspan, Option.map_some, Option.some.injEq] at hplace
      rw [← hplace]
      exact Nat.mod_lt _ (by decide)

namespace SourceFile

/-- The reader gives the same for the tokens of a text and for those that keep 32 bits of each
offset. -/
theorem moveAnswer_narrow_ofTokens (htext : text.utf8ByteSize < 2 ^ 32)
    (h : tokenize text = .ok tokens) :
    moveAnswer Span.narrow (SourceFile.mapSpan Span.narrow) (ofTokens tokens) =
      ofTokens tokens := by
  rw [← ofTokens_mapSpan, map_narrow_of_tokenize htext h]

theorem mapSpan_narrow_of_parse {file : SourceFile} (htext : text.utf8ByteSize < 2 ^ 32)
    (h : parse text = .ok file) : file.mapSpan Span.narrow = file := by
  obtain ⟨tokens, htokens, hfile⟩ := exists_tokens_of_parse h
  have hsame := moveAnswer_narrow_ofTokens htext htokens
  rw [hfile] at hsame
  exact Except.ok.inj hsame

/-- An error is where a rejection has its place, which is within 32 bits. -/
theorem exists_rejection_of_parse {cause : SyntaxError} (htext : text.utf8ByteSize < 2 ^ 32)
    (h : parse text = .error cause) :
    ∃ rejection : Rejection, cause = rejection.locate text ∧
      rejection.mapSpan Span.narrow = rejection := by
  obtain ⟨rejection, hrejection, rfl⟩ := except_mapError_eq_error.1 h
  refine ⟨rejection, rfl, ?_⟩
  split at hrejection
  · rename_i tokens htokens
    have hsame := moveAnswer_narrow_ofTokens htext htokens
    rw [hrejection] at hsame
    exact Except.error.inj hsame
  · rename_i bad hbad
    rw [← Except.error.inj hrejection, BadText.rejection, Rejection.mapSpan, Option.map_some,
      (within_of_refused hbad).narrow_eq htext]

/-- What is read from a text of less than 4 GiB has room in 32 bits: the spans of its tokens, a span
that is refused, the spans of the declarations, and the offset of an error with its line and its
column. -/
theorem offsets_fit (text : String) (htext : text.utf8ByteSize < 2 ^ 32) :
    (∀ tokens, tokenize text = .ok tokens →
      ∀ token ∈ tokens, token.span.start < 2 ^ 32 ∧ token.span.stop < 2 ^ 32) ∧
    (∀ bad, tokenize text = .error bad → bad.span.start < 2 ^ 32 ∧ bad.span.stop < 2 ^ 32) ∧
    (∀ file, parse text = .ok file → file.mapSpan Span.narrow = file) ∧
    ∀ cause, parse text = .error cause → ∃ offset < 2 ^ 32,
      cause.position = (LineIndex.ofText text).position offset ∧
        cause.position.line < 2 ^ 32 ∧ cause.position.column < 2 ^ 32 := by
  refine ⟨?_, ?_, fun file => mapSpan_narrow_of_parse htext, ?_⟩
  · intro tokens htokens token htoken
    exact (within_of_tokenize htokens htoken).fits htext
  · intro bad hbad
    exact (within_of_refused hbad).fits htext
  · intro cause hcause
    obtain ⟨rejection, rfl, hnarrow⟩ := exists_rejection_of_parse htext hcause
    have hoffset := Rejection.offset_lt htext hnarrow
    obtain ⟨hline, hcolumn⟩ := LineIndex.position_le text (rejection.offset text)
    exact ⟨rejection.offset text, hoffset, rfl, Nat.lt_of_le_of_lt hline hoffset,
      Nat.lt_of_le_of_lt hcolumn hoffset⟩

end SourceFile

end HalPackages
