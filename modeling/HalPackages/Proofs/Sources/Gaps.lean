import HalPackages.Proofs.Sources.Coverage
import HalPackages.Proofs.Sources.MovedSpans
import HalPackages.Proofs.Sources.Scans

/-!
# Gaps between tokens

White space can be put in after a token.  Nothing that the scanner looks for past the
end of a piece has white space in it, so what it did not find there it does not find
with white space put in, at the end of the piece or behind it.  There is one exception:
a reserved word with a sign after it that joins words is a name, and with white space
after it is not.
-/

namespace HalPackages

namespace Text

variable {α : Type} [BEq α] [LawfulBEq α] {mark text before after : List α}

/-- The first mark stays the first one, whatever follows it. -/
theorem splitFirst_append_of_splitFirst (h : splitFirst mark text = some (before, after))
    (other : List α) : splitFirst mark (before ++ mark ++ other) = some (before, other) := by
  have hfound (other : List α) : afterMark? mark (mark ++ other) = some other :=
    afterMark?_eq_some_iff.2 rfl
  have hfirst (other : List α) : splitFirst mark (mark ++ other) = some ([], other) := by
    cases hmark : mark ++ other with
    | nil => rw [splitFirst, ← hmark, hfound]; rfl
    | cons x xs => rw [splitFirst, ← hmark, hfound]
  induction text generalizing before with
  | nil =>
      obtain ⟨_, _, heq⟩ := Option.map_eq_some_iff.1 h
      cases heq
      exact hfirst other
  | cons x xs ih =>
      have htext := append_of_splitFirst h
      rw [splitFirst] at h
      split at h
      · cases h
        exact hfirst other
      · rename_i hnone
        obtain ⟨⟨before', after'⟩, hxs, heq⟩ := Option.map_eq_some_iff.1 h
        cases heq
        have hlater : afterMark? mark (x :: (before' ++ mark ++ other)) = none := by
          rw [afterMark?_eq_none_iff] at hnone ⊢
          intro hprefix
          have hlength : mark.length ≤ (x :: (before' ++ mark)).length := by simp; omega
          have hinside : mark <+: x :: (before' ++ mark) :=
            List.prefix_of_prefix_length_le hprefix ⟨other, by simp⟩ hlength
          apply hnone
          rw [← htext]
          exact hinside.trans ⟨after, by simp⟩
        rw [List.cons_append, List.cons_append, splitFirst, hlater, ih hxs]
        rfl

end Text

open Text

namespace Piece

variable {c sep : Char} {body front rest more : List Char} {classes : List (Char → Bool)}
variable {kind : TokenKind}

/-! ## Nothing more is found -/

/-- If none of the classes has a separator in it, they are not found across one. -/
theorem startsLike_gap (hsep : sep ∈ separators) (hclasses : classes.all rejectsSeparators = true)
    (h : startsLike classes (front ++ rest) = false) :
    startsLike classes (front ++ sep :: more) = false := by
  induction front generalizing classes with
  | nil =>
      cases classes with
      | nil => simp at h
      | cons accepts others =>
          rw [List.all_cons, Bool.and_eq_true] at hclasses
          simp [eq_false_of_rejectsSeparators hclasses.1 hsep]
  | cons c front ih =>
      cases classes with
      | nil => simp at h
      | cons accepts others =>
          rw [List.all_cons, Bool.and_eq_true] at hclasses
          rw [List.cons_append, startsLike_cons_cons, Bool.and_eq_false_iff] at h ⊢
          exact h.imp_right (ih hclasses.2)

/-- Only the first character counts for a single class. -/
theorem startsLike_singleton_append {accepts : Char → Bool} (hfront : front ≠ [])
    (left right : List Char) :
    startsLike [accepts] (front ++ left) = startsLike [accepts] (front ++ right) := by
  obtain ⟨c, cs, rfl⟩ := List.exists_cons_of_ne_nil hfront
  simp

theorem EndsPath.gap (hsep : sep ∈ separators) (h : EndsPath (front ++ rest)) :
    EndsPath (front ++ sep :: more) :=
  ⟨startsLike_gap hsep (by decide) h.word, startsLike_gap hsep (by decide) h.dot⟩

theorem LocalPart.gap {localName : List Char} (hsep : sep ∈ separators)
    (h : LocalPart localName (front ++ rest)) : LocalPart localName (front ++ sep :: more) := by
  cases h with
  | absent hrest => exact .absent (startsLike_gap hsep (by decide) hrest)
  | present hstart hpath hrest => exact .present hstart hpath (hrest.gap hsep)

/-- The signs that make a name of a keyword. -/
def joinsWords (c : Char) : Bool :=
  c == '.' || c == ':' || c == '@'

theorem wordKind_of_keyword {text : List Char} {keyword : Keyword}
    (h : Keyword.ofSpelling? text = some keyword) (rest : List Char) :
    wordKind text rest = if startsLike [joinsWords] rest then .name else .keyword keyword := by
  rw [wordKind, h]
  dsimp only
  split
  · simp [joinsWords]
  · simp [joinsWords]
  · simp [joinsWords]
  · rename_i hdot hcolon hat
    cases rest with
    | nil => simp
    | cons c cs =>
        have hc : joinsWords c = false := by
          simp only [joinsWords, Bool.or_eq_false_iff, beq_eq_false_iff_ne]
          exact ⟨⟨fun h => hdot cs (by rw [h]), fun h => hcolon cs (by rw [h])⟩,
            fun h => hat cs (by rw [h])⟩
        simp [hc]

example : wordKind "enum".toList ['.'] = .name ∧
    wordKind "enum".toList [' ', '.'] = .keyword .enum := by decide

/-- A word keeps its kind, unless it is spelled like a keyword and the sign that makes it a name is
moved away. -/
theorem wordKind_gap {text : List Char} (hsep : sep ∈ separators)
    (hname : front = [] → wordKind text (front ++ rest) = .name →
      Keyword.ofSpelling? text = none) :
    wordKind text (front ++ rest) = wordKind text (front ++ sep :: more) := by
  cases hkeyword : Keyword.ofSpelling? text with
  | none => rw [wordKind_eq_name hkeyword, wordKind_eq_name hkeyword]
  | some keyword =>
      rw [wordKind_of_keyword hkeyword] at hname ⊢
      rw [wordKind_of_keyword hkeyword]
      rw [hkeyword] at hname
      by_cases hfront : front = []
      · have hjoins : startsLike [joinsWords] (front ++ rest) = false := by
          by_contra hjoins
          exact absurd (hname hfront (if_pos (by simpa using hjoins))) (Option.some_ne_none _)
        rw [hjoins, startsLike_gap hsep (by decide) hjoins]
      · rw [startsLike_singleton_append hfront rest (sep :: more)]

theorem NamePart.gap (hsep : sep ∈ separators) (h : NamePart c body (front ++ rest) kind)
    (hname : front = [] → kind = .name → Keyword.ofSpelling? (c :: body) = none) :
    NamePart c body (front ++ sep :: more) kind := by
  cases h with
  | @versioned path version localName _ hpath hversion hdigits hlocal =>
      rw [← List.append_assoc] at hdigits
      refine .versioned hpath hversion ?_ (hlocal.gap hsep)
      rw [← List.append_assoc]
      exact startsLike_gap hsep (by decide) hdigits
  | @plain path localName _ hpath hends habsent hlocal =>
      rw [← List.append_assoc] at hends habsent
      rw [wordKind_gap hsep hname]
      refine .plain hpath ?_ ?_ (hlocal.gap hsep)
      · rw [← List.append_assoc]
        exact hends.gap hsep
      · rw [← List.append_assoc]
        exact startsLike_gap hsep (by decide) habsent

theorem nameAt_gap (hsep : sep ∈ separators)
    (h : nameAt c (body ++ (front ++ rest)) = (⟨.token kind, c :: body⟩, front ++ rest))
    (hname : front = [] → kind = .name → Keyword.ofSpelling? (c :: body) = none) :
    nameAt c (body ++ (front ++ sep :: more)) = (⟨.token kind, c :: body⟩, front ++ sep :: more) :=
  nameAt_eq_iff.2 ⟨rfl, (nameAt_eq_iff.1 h).2.gap hsep hname⟩

/-! ## The other pieces -/

theorem span_gap (hsep : sep ∈ separators) {accepts : Char → Bool}
    (haccepts : rejectsSeparators accepts = true)
    (h : (body ++ (front ++ rest)).takeWhile accepts = body ∧
      (body ++ (front ++ rest)).dropWhile accepts = front ++ rest) :
    (body ++ (front ++ sep :: more)).takeWhile accepts = body ∧
      (body ++ (front ++ sep :: more)).dropWhile accepts = front ++ sep :: more := by
  obtain ⟨_, hbody, hrest⟩ := span_eq_iff.1 h
  exact span_append hbody (startsLike_gap hsep (by simpa using haccepts) hrest)

theorem annotationAt_gap (hsep : sep ∈ separators) {pieceKind : PieceKind}
    (h : annotationAt (body ++ (front ++ rest)) = (⟨pieceKind, '@' :: body⟩, front ++ rest))
    (hkind : pieceKind ≠ .refused) :
    annotationAt (body ++ (front ++ sep :: more)) =
      (⟨pieceKind, '@' :: body⟩, front ++ sep :: more) := by
  cases body with
  | nil =>
      -- without a word there is no annotation
      rw [List.nil_append] at h
      rcases hrest : front ++ rest with _ | ⟨c, cs⟩
      · rw [hrest, annotationAt, Prod.mk.injEq, Piece.mk.injEq] at h
        exact absurd h.1.1.symm hkind
      · rw [hrest, annotationAt] at h
        split at h
        · simp at h
        · rw [Prod.mk.injEq, Piece.mk.injEq] at h
          exact absurd h.1.1.symm hkind
  | cons c cs =>
      rw [List.cons_append, annotationAt] at h ⊢
      by_cases hc : isWordStart c = true
      · rw [if_pos hc] at h ⊢
        simp only [Prod.mk.injEq, Piece.mk.injEq, List.cons.injEq, true_and] at h ⊢
        exact ⟨⟨h.1.1, (span_gap hsep (by decide) ⟨h.1.2, h.2⟩).1⟩,
          (span_gap hsep (by decide) ⟨h.1.2, h.2⟩).2⟩
      · rw [if_neg hc] at h
        simp only [Prod.mk.injEq, Piece.mk.injEq] at h
        exact absurd h.1.1.symm hkind

theorem stringTail_of_ne_backslash (hc : c ≠ '\\') (hquote : c ≠ '"') (cs : List Char) :
    stringTail (c :: cs) =
      ((stringTail cs).1, c :: (stringTail cs).2.1, (stringTail cs).2.2) := by
  rw [stringTail.eq_def]
  split <;> simp_all

/-- The rest of a string literal ends at its closing quote, whatever follows. -/
theorem stringTail_append_of_closed {cs : List Char} (h : stringTail cs = (true, body, rest))
    (more : List Char) : stringTail (body ++ more) = (true, body, more) := by
  fun_induction stringTail cs generalizing body with
  | case1 => cases h
  | case2 => cases h
  | case3 => cases h
  | case4 c cs hbreak closed text _ heq ih =>
      obtain ⟨rfl, rfl, rfl⟩ := h
      have hrest := ih heq
      rw [List.cons_append, List.cons_append, stringTail, if_neg hbreak, hrest]
  | case5 cs =>
      obtain ⟨_, rfl, rfl⟩ := h
      rw [List.singleton_append, stringTail.eq_def]
      simp
  | case6 c cs hlast hescape hquote closed text _ heq ih =>
      have hc : c ≠ '\\' := by
        cases cs with
        | nil => exact fun hc => hlast hc rfl
        | cons d ds => exact fun hc => hescape d ds hc rfl
      obtain ⟨rfl, rfl, rfl⟩ := h
      rw [List.cons_append, stringTail_of_ne_backslash hc hquote, ih heq]

theorem stringAt_gap {pieceKind : PieceKind}
    (h : stringAt (body ++ rest) = (⟨pieceKind, '"' :: body⟩, rest))
    (hkind : pieceKind ≠ .refused) :
    stringAt (body ++ more) = (⟨pieceKind, '"' :: body⟩, more) := by
  rcases htail : stringTail (body ++ rest) with ⟨closed, body', rest'⟩
  rw [stringAt, htail] at h
  simp only [Prod.mk.injEq, Piece.mk.injEq, List.cons.injEq, true_and] at h
  obtain ⟨⟨rfl, rfl⟩, rfl⟩ := h
  cases closed with
  | false => exact absurd rfl hkind
  | true => rw [stringAt, stringTail_append_of_closed htail]

/-- What makes a comment of a slash. -/
def opensComment (c : Char) : Bool :=
  c == '/' || c == '*'

theorem slashAt_of_not_opensComment {cs : List Char} (h : startsLike [opensComment] cs = false) :
    slashAt cs = (⟨.token .operator, ['/']⟩, cs) := by
  rw [slashAt.eq_def]
  split <;> simp_all [opensComment]

theorem slashAt_gap (hsep : sep ∈ separators) {pieceKind : PieceKind}
    (h : slashAt (body ++ (front ++ rest)) = (⟨pieceKind, '/' :: body⟩, front ++ rest))
    (hkind : pieceKind ≠ .refused) (hfront : front = [] → pieceKind ≠ .skipped) :
    slashAt (body ++ (front ++ sep :: more)) =
      (⟨pieceKind, '/' :: body⟩, front ++ sep :: more) := by
  revert h
  fun_cases slashAt (body ++ (front ++ rest)) with
  | case1 cs =>
      -- a comment to the end of the line
      intro h
      simp only [Prod.mk.injEq, Piece.mk.injEq, List.cons.injEq, true_and] at h
      obtain ⟨⟨rfl, rfl⟩, hrest⟩ := h
      obtain ⟨_, hline, hbreak⟩ := span_eq_iff.1 ⟨rfl, hrest⟩
      have hne : front ≠ [] := fun hnil => hfront hnil rfl
      rw [startsLike_singleton_append hne rest (sep :: more)] at hbreak
      obtain ⟨htake, hdrop⟩ := span_append hline hbreak
      rw [List.cons_append, slashAt, htake, hdrop]
  | case2 cs comment after hsplit =>
      intro h
      simp only [Prod.mk.injEq, Piece.mk.injEq, List.cons_append, List.cons.injEq, true_and] at h
      obtain ⟨⟨rfl, rfl⟩, rfl⟩ := h
      have hcomment := splitFirst_append_of_splitFirst hsplit (front ++ sep :: more)
      rw [List.cons_append, slashAt, hcomment]
      rfl
  | case3 cs hsplit =>
      intro h
      simp only [Prod.mk.injEq, Piece.mk.injEq] at h
      exact absurd h.1.1.symm hkind
  | case4 text hline hblock =>
      intro h
      simp only [Prod.mk.injEq, Piece.mk.injEq, List.cons.injEq, true_and] at h
      obtain ⟨⟨rfl, rfl⟩, rfl⟩ := h
      have hrest : startsLike [opensComment] (front ++ rest) = false := by
        cases htext : front ++ rest with
        | nil => rfl
        | cons c cs =>
            have hslash : c ≠ '/' := fun hc => hline cs (by rw [htext, hc])
            have hstar : c ≠ '*' := fun hc => hblock cs (by rw [htext, hc])
            simp [opensComment, hslash, hstar]
      rw [List.nil_append]
      exact slashAt_of_not_opensComment (startsLike_gap hsep (by decide) hrest)

/-- A piece is found again with a gap behind it, or right after it if it is a token and not a name
spelled like a keyword. -/
theorem first_gap (hsep : sep ∈ separators) {pieceKind : PieceKind}
    (h : first c (body ++ (front ++ rest)) = (⟨pieceKind, c :: body⟩, front ++ rest))
    (hkind : pieceKind ≠ .refused) (hskipped : front = [] → pieceKind ≠ .skipped)
    (hname : front = [] → pieceKind = .token .name → Keyword.ofSpelling? (c :: body) = none) :
    first c (body ++ (front ++ sep :: more)) =
      (⟨pieceKind, c :: body⟩, front ++ sep :: more) := by
  unfold first at h ⊢
  split at h
  case isTrue hseparator =>
    rw [if_pos hseparator]
    simp only [Prod.mk.injEq, Piece.mk.injEq, List.cons.injEq, true_and] at h ⊢
    obtain ⟨⟨rfl, hrun⟩, hrest⟩ := h
    obtain ⟨_, hrun, hend⟩ := span_eq_iff.1 ⟨hrun, hrest⟩
    have hne : front ≠ [] := fun hnil => hskipped hnil rfl
    rw [startsLike_singleton_append hne rest (sep :: more)] at hend
    exact ⟨⟨rfl, (span_append hrun hend).1⟩, (span_append hrun hend).2⟩
  case isFalse hseparator =>
    rw [if_neg hseparator]
    split at h
    case isTrue hstart =>
      rw [if_pos hstart]
      cases pieceKind with
      | refused => contradiction
      | skipped =>
          have hnever := kind_nameAt_ne_skipped c (body ++ (front ++ rest))
          rw [h] at hnever
          contradiction
      | token kind =>
          exact nameAt_gap hsep h fun hnil hkind => hname hnil (congrArg PieceKind.token hkind)
    case isFalse hstart =>
      rw [if_neg hstart]
      split at h
      case isTrue hdigit =>
        rw [if_pos hdigit]
        simp only [Prod.mk.injEq, Piece.mk.injEq, List.cons.injEq, true_and] at h ⊢
        exact ⟨⟨h.1.1, (span_gap hsep (by decide) ⟨h.1.2, h.2⟩).1⟩,
          (span_gap hsep (by decide) ⟨h.1.2, h.2⟩).2⟩
      case isFalse hdigit =>
        rw [if_neg hdigit]
        split at h
        case isTrue hat =>
          subst hat
          rw [if_pos rfl]
          exact annotationAt_gap hsep h hkind
        case isFalse hat =>
          rw [if_neg hat]
          split at h
          case isTrue hquote =>
            subst hquote
            rw [if_pos rfl]
            exact stringAt_gap h hkind
          case isFalse hquote =>
            rw [if_neg hquote]
            split at h
            case isTrue hslash =>
              subst hslash
              rw [if_pos rfl]
              exact slashAt_gap hsep h hkind hskipped
            case isFalse hslash =>
              rw [if_neg hslash]
              simp only [Prod.mk.injEq, Piece.mk.injEq, List.cons.injEq, true_and] at h ⊢
              obtain ⟨⟨rfl, rfl⟩, _⟩ := h
              exact ⟨⟨rfl, rfl⟩, rfl⟩

theorem exists_first_eq (c : Char) (cs : List Char) :
    ∃ pieceKind body rest, cs = body ++ rest ∧ first c cs = (⟨pieceKind, c :: body⟩, rest) := by
  have happend := first_append c cs
  rcases hfirst : first c cs with ⟨⟨pieceKind, text⟩, rest⟩
  obtain ⟨d, body, hbody⟩ := List.exists_cons_of_ne_nil (first_text_ne_nil c cs)
  rw [hfirst] at happend hbody
  dsimp only at happend hbody
  subst hbody
  obtain ⟨rfl, rfl⟩ := List.cons.inj happend
  exact ⟨pieceKind, body, rest, rfl, rfl⟩

theorem first_separators {gap : List Char} (hgap : ∀ c ∈ gap, c ∈ separators)
    {pieceKind : PieceKind}
    (h : first c (body ++ (front ++ rest)) = (⟨pieceKind, c :: body⟩, front ++ rest))
    (hkind : pieceKind ≠ .refused) (hskipped : front = [] → pieceKind ≠ .skipped)
    (hname : front = [] → pieceKind = .token .name → Keyword.ofSpelling? (c :: body) = none) :
    first c (body ++ (front ++ (gap ++ rest))) =
      (⟨pieceKind, c :: body⟩, front ++ (gap ++ rest)) := by
  cases gap with
  | nil => exact h
  | cons sep gap => exact first_gap (hgap sep List.mem_cons_self) h hkind hskipped hname

end Piece

/-! ## Moved tokens -/

/-- The span with everything from a bound on moved by some bytes. -/
def Span.shift (bound bytes : Nat) (span : Span) : Span :=
  if span.start < bound then span else ⟨span.start + bytes, span.stop + bytes⟩

open Piece

section TokensFrom

variable {offset bound : Nat} {cs gap : List Char} {pieces : List Piece}
variable {tokens : List Token} {token : Token}

/-- Tokens that are found later in a text are the same ones moved. -/
theorem tokensFrom_add (h : tokensFrom offset pieces = .ok tokens) (hbound : bound ≤ offset)
    (bytes : Nat) :
    tokensFrom (offset + bytes) pieces =
      .ok (tokens.map (Token.mapSpan (Span.shift bound bytes))) := by
  induction pieces generalizing offset tokens with
  | nil =>
      cases h
      rfl
  | cons piece pieces ih =>
      obtain ⟨kind, text⟩ := piece
      have hcomm : offset + bytes + byteLength text = offset + byteLength text + bytes :=
        Nat.add_right_comm _ _ _
      cases kind with
      | refused => contradiction
      | skipped =>
          have hrest := ih h (Nat.le_add_right_of_le hbound)
          rw [← hcomm] at hrest
          exact hrest
      | token kind =>
          obtain ⟨others, hothers, rfl⟩ := tokensFrom_token_eq_ok_iff.1 h
          have hrest := ih hothers (Nat.le_add_right_of_le hbound)
          rw [tokensFrom_token_eq_ok_iff]
          refine ⟨_, hcomm ▸ hrest, ?_⟩
          rw [List.map_cons, Token.mapSpan, Span.shift, if_neg (Nat.not_lt.2 hbound), hcomm]

theorem piecesOf_of_first {c : Char} {piece : Piece} {rest : List Char}
    (h : first c cs = (piece, rest)) : piecesOf (c :: cs) = piece :: piecesOf rest := by
  rw [piecesOf, h]

/-- White space before the first token is skipped. -/
theorem tokensFrom_dropWhile (offset : Nat) (cs : List Char) :
    tokensFrom offset (piecesOf cs) =
      tokensFrom (offset + byteLength (cs.takeWhile isSeparator))
        (piecesOf (cs.dropWhile isSeparator)) := by
  cases cs with
  | nil => rfl
  | cons c cs =>
      by_cases hc : isSeparator c = true
      · rw [piecesOf_of_first (if_pos hc), List.takeWhile_cons_of_pos hc,
          List.dropWhile_cons_of_pos hc]
        rfl
      · rw [List.takeWhile_cons_of_neg hc, List.dropWhile_cons_of_neg hc]
        rfl

theorem tokensFrom_append_separators (hgap : ∀ c ∈ gap, c ∈ separators) (offset : Nat)
    (cs : List Char) :
    tokensFrom offset (piecesOf (gap ++ cs)) =
      tokensFrom (offset + byteLength gap) (piecesOf cs) := by
  have hgap (c : Char) (hc : c ∈ gap) : isSeparator c = true := isSeparator_iff.2 (hgap c hc)
  rw [tokensFrom_dropWhile, tokensFrom_dropWhile (offset + byteLength gap),
    List.takeWhile_append_of_pos hgap, List.dropWhile_append_of_pos hgap, byteLength_append,
    Nat.add_assoc]

/-- White space put in after a token moves the tokens behind it. -/
theorem exists_tokensFrom_gap (h : tokensFrom offset (piecesOf cs) = .ok tokens)
    (htoken : token ∈ tokens)
    (hname : token.kind = .name → Keyword.ofSpelling? token.text.toList = none) :
    ∃ front rest, cs = front ++ rest ∧ front ≠ [] ∧
      offset + byteLength front = token.span.stop ∧
      ∀ gap, (∀ c ∈ gap, c ∈ separators) →
        tokensFrom offset (piecesOf (front ++ (gap ++ rest))) =
          .ok (tokens.map (Token.mapSpan (Span.shift token.span.stop (byteLength gap)))) := by
  -- by induction on the pieces: the token is the first piece or stands behind it
  fun_induction piecesOf cs generalizing offset tokens with
  | case1 =>
      cases h
      contradiction
  | case2 c cs ih =>
      obtain ⟨pieceKind, body, rest, rfl, hfirst⟩ := exists_first_eq c cs
      rw [hfirst] at h ih
      dsimp only at ih
      have hpositive : 0 < byteLength (c :: body) := byteLength_pos (List.cons_ne_nil c body)
      -- a gap behind the first piece leaves that piece alone
      have hbehind {others : List Token} (hkind : pieceKind ≠ .refused)
          (hothers : tokensFrom (offset + byteLength (c :: body)) (piecesOf rest) = .ok others)
          (hlater : token ∈ others) :
          ∃ front after, c :: (body ++ rest) = c :: body ++ front ++ after ∧
            offset + byteLength (c :: body ++ front) = token.span.stop ∧
            offset < token.span.stop ∧
            ∀ gap, (∀ c ∈ gap, c ∈ separators) →
              piecesOf (c :: body ++ front ++ (gap ++ after)) =
                  ⟨pieceKind, c :: body⟩ :: piecesOf (front ++ (gap ++ after)) ∧
                tokensFrom (offset + byteLength (c :: body)) (piecesOf (front ++ (gap ++ after))) =
                  .ok (others.map
                    (Token.mapSpan (Span.shift token.span.stop (byteLength gap)))) := by
        obtain ⟨front, after, rfl, hne, hstop, hgaps⟩ := ih hothers hlater
        refine ⟨front, after, by simp, ?_, by omega, fun gap hgap => ⟨?_, hgaps gap hgap⟩⟩
        · rw [byteLength_append, ← Nat.add_assoc, hstop]
        · rw [List.append_assoc, List.cons_append]
          exact piecesOf_of_first
            (first_separators hgap hfirst hkind (absurd · hne) (absurd · hne))
      cases pieceKind with
      | refused => contradiction
      | skipped =>
          obtain ⟨front, after, htext, hstop, _, hgaps⟩ := hbehind (by simp) h htoken
          refine ⟨c :: body ++ front, after, htext, by simp, hstop, fun gap hgap => ?_⟩
          obtain ⟨hpieces, htokens⟩ := hgaps gap hgap
          rw [hpieces]
          exact htokens
      | token kind =>
          obtain ⟨others, hothers, rfl⟩ := tokensFrom_token_eq_ok_iff.1 h
          rcases List.mem_cons.1 htoken with rfl | hlater
          · rw [String.toList_ofList] at hname
            refine ⟨c :: body, rest, rfl, by simp, rfl, fun gap hgap => ?_⟩
            have hnew : first c (body ++ (gap ++ rest)) =
                (⟨.token kind, c :: body⟩, gap ++ rest) := by
              refine @first_separators c body [] rest gap hgap _ hfirst (by simp) (by simp) ?_
              exact fun _ hkind => hname (PieceKind.token.inj hkind)
            -- the scanner goes on behind the gap with the pieces that stood there before
            have hbefore : offset < offset + byteLength (c :: body) :=
              Nat.lt_add_of_pos_right hpositive
            have hmoved := tokensFrom_add hothers (Nat.le_refl _) (byteLength gap)
            rw [← tokensFrom_append_separators hgap] at hmoved
            rw [List.cons_append, piecesOf_of_first hnew, tokensFrom_token_eq_ok_iff]
            refine ⟨_, hmoved, ?_⟩
            rw [List.map_cons, Token.mapSpan, Span.shift, if_pos hbefore]
          · obtain ⟨front, after, htext, hstop, hbefore, hgaps⟩ := hbehind (by simp) hothers hlater
            refine ⟨c :: body ++ front, after, htext, by simp, hstop, fun gap hgap => ?_⟩
            obtain ⟨hpieces, htokens⟩ := hgaps gap hgap
            rw [hpieces, tokensFrom_token_eq_ok_iff]
            refine ⟨_, htokens, ?_⟩
            rw [List.map_cons, Token.mapSpan, Span.shift, if_pos hbefore]

end TokensFrom

/-! ## Texts with a gap -/

namespace SourceFile

variable {text : String} {tokens : List Token} {token : Token}

/-- If a text has tokens, it writes the file that they write. -/
theorem parseAt_eq_ok_iff_ofTokens (h : tokenize text = .ok tokens) (path : Path)
    (file : SourceFile) : parseAt path text = .ok file ↔ ofTokens tokens = .ok file := by
  rw [parseAt_eq_ok_iff, parse, except_mapError_eq_ok, h]

theorem moveAnswer_eq_ok_iff {α β : Type} {f : Span → Span} {g : α → β}
    {answer : Except Rejection α} {b : β} :
    moveAnswer f g answer = .ok b ↔ ∃ a, answer = .ok a ∧ b = g a := by
  cases answer with
  | error rejection => simp
  | ok a => simp [eq_comm]

/-- White space after a token that is no name spelled like a keyword moves what stands behind it and
changes nothing else: the tokens are the same up to their spans, and so are the declarations. -/
theorem gap_moves_rest (h : tokenize text = .ok tokens) (htoken : token ∈ tokens)
    (hname : token.kind = .name → ∀ keyword : Keyword, token.text ≠ keyword.spelling) :
    ∃ front rest, text.toList = front ++ rest ∧ byteLength front = token.span.stop ∧
      ∀ gap, (∀ c ∈ gap, c ∈ [' ', '\t', '\r', '\n', '\x0c']) →
        tokenize (String.ofList (front ++ gap ++ rest)) =
            .ok (tokens.map (Token.mapSpan (Span.shift token.span.stop (byteLength gap)))) ∧
          ∀ path moved, parseAt path (String.ofList (front ++ gap ++ rest)) = .ok moved ↔
            ∃ file, parseAt path text = .ok file ∧
              moved = file.mapSpan (Span.shift token.span.stop (byteLength gap)) := by
  have hunreserved (hkind : token.kind = .name) :
      Keyword.ofSpelling? token.text.toList = none :=
    Keyword.ofSpelling?_eq_none_iff.2 fun keyword hsame =>
      hname hkind keyword (String.toList_inj.1 hsame).symm
  obtain ⟨front, rest, htext, _, hstop, hgaps⟩ := exists_tokensFrom_gap h htoken hunreserved
  refine ⟨front, rest, htext, by rw [← hstop, Nat.zero_add], fun gap hgap => ?_⟩
  have hmoved : tokenize (String.ofList (front ++ gap ++ rest)) =
      .ok (tokens.map (Token.mapSpan (Span.shift token.span.stop (byteLength gap)))) := by
    rw [tokenize, String.toList_ofList, List.append_assoc]
    exact hgaps gap hgap
  refine ⟨hmoved, fun path moved => ?_⟩
  rw [parseAt_eq_ok_iff_ofTokens hmoved, ofTokens_mapSpan, moveAnswer_eq_ok_iff]
  exact exists_congr fun file => and_congr_left' (parseAt_eq_ok_iff_ofTokens h path file).symm

/-- A source whose enum has no white space after its name. -/
def denseEnum : String :=
  "package a@1.0;enum E\x7bX\x7d"

def denseTokens : List Token :=
  [⟨.keyword .package, "package", ⟨0, 7⟩⟩, ⟨.name, "a@1.0", ⟨8, 13⟩⟩, ⟨.semicolon, ";", ⟨13, 14⟩⟩,
    ⟨.keyword .enum, "enum", ⟨14, 18⟩⟩, ⟨.name, "E", ⟨19, 20⟩⟩,
    ⟨.opening .brace, "\x7b", ⟨20, 21⟩⟩, ⟨.name, "X", ⟨21, 22⟩⟩,
    ⟨.closing .brace, "\x7d", ⟨22, 23⟩⟩]

/-- A line break and a blank after the name are three bytes. -/
theorem denseEnum_with_gap :
    ∃ file front rest, tokenize denseEnum = .ok denseTokens ∧
      parseAt ⟨"hw/a/1.0/types.hal"⟩ denseEnum = .ok file ∧ denseEnum.toList = front ++ rest ∧
      byteLength front = 20 ∧
      tokenize (String.ofList (front ++ ['\r', '\n', ' '] ++ rest)) =
        .ok (denseTokens.map (Token.mapSpan (Span.shift 20 3))) ∧
      parseAt ⟨"hw/a/1.0/types.hal"⟩ (String.ofList (front ++ ['\r', '\n', ' '] ++ rest)) =
        .ok (file.mapSpan (Span.shift 20 3)) := by
  have htokens : tokenize denseEnum = .ok denseTokens := by decide +kernel
  have hname : (⟨.name, "E", ⟨19, 20⟩⟩ : Token) ∈ denseTokens := by decide +kernel
  have hsome : (parseAt ⟨"hw/a/1.0/types.hal"⟩ denseEnum).toOption.isSome = true := by
    decide +kernel
  obtain ⟨front, rest, htext, hstop, hgaps⟩ := gap_moves_rest htokens hname
    fun _ keyword => by cases keyword <;> decide +kernel
  obtain ⟨hmoved, hparse⟩ := hgaps ['\r', '\n', ' '] (by simp)
  cases hfile : parseAt ⟨"hw/a/1.0/types.hal"⟩ denseEnum with
  | error cause =>
      rw [hfile] at hsome
      contradiction
  | ok file =>
      exact ⟨file, front, rest, htokens, rfl, htext, hstop, hmoved,
        (hparse _ _).2 ⟨file, hfile, rfl⟩⟩

end SourceFile

end HalPackages
