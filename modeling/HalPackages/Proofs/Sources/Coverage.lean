import HalPackages.Proofs.Sources.Patterns

/-!
# Tokens account for their text

A text is made of its tokens and of text that stands for nothing: white space, comments
to the end of a line, and comments up to the next end mark.  When the text has no
tokens, the same holds of what stands before the first place that is refused.

Where a line comment ends depends on what follows it, so skipped text is described
together with the text after it.
-/

namespace HalPackages

/-- Text that stands for nothing, with the text that follows it.  A line comment goes up to a
newline or to the end, and a block comment to the first end mark after its start. -/
inductive Skipped : List Char → List Char → Prop where
  | nil {after : List Char} : Skipped [] after
  | blank {c : Char} {gap after : List Char} (hc : c ∈ [' ', '\t', '\r', '\n', '\x0c'])
      (hgap : Skipped gap after) : Skipped (c :: gap) after
  | lineComment {comment gap after : List Char} (hcomment : '\n' ∉ comment)
      (hends : ∀ c ∈ (gap ++ after).head?, c = '\n') (hgap : Skipped gap after) :
      Skipped ('/' :: '/' :: (comment ++ gap)) after
  | blockComment {comment gap after : List Char}
      (hcomment : ¬ ['*', '/'] <:+: comment ++ ['*']) (hgap : Skipped gap after) :
      Skipped ('/' :: '*' :: (comment ++ '*' :: '/' :: gap)) after

/-- A text that starts at an offset is made of tokens, with skipped text before, between and after
them.  The span of a token is that of its word, which is in the pattern of its kind. -/
inductive LaidOut : Nat → List Char → List Token → List Char → Prop where
  | done {offset : Nat} {gap after : List Char} (hgap : Skipped gap after) :
      LaidOut offset gap [] after
  | token {offset : Nat} {kind : TokenKind} {gap word rest after : List Char} {tokens : List Token}
      (hgap : Skipped gap (word ++ (rest ++ after))) (hword : word ∈ kind.pattern)
      (hrest : LaidOut (offset + byteLength gap + byteLength word) rest tokens after) :
      LaidOut offset (gap ++ (word ++ rest))
        (⟨kind, String.ofList word,
          ⟨offset + byteLength gap, offset + byteLength gap + byteLength word⟩⟩ :: tokens) after

variable {offset : Nat} {c : Char} {cs gap text word rest after : List Char} {kind : TokenKind}
variable {tokens : List Token}

/-! ## Skipped pieces -/

theorem Skipped.blanks {blanks : List Char} (h : ∀ c ∈ blanks, Piece.isSeparator c = true)
    (hgap : Skipped gap after) : Skipped (blanks ++ gap) after := by
  induction blanks with
  | nil => exact hgap
  | cons c blanks ih =>
      obtain ⟨hc, hblanks⟩ := List.forall_mem_cons.1 h
      refine .blank ?_ (ih hblanks)
      simpa [Piece.isSeparator, or_assoc] using hc

namespace Piece

theorem kind_nameAt_ne_skipped (c : Char) (cs : List Char) : (nameAt c cs).1.kind ≠ .skipped := by
  fun_cases nameAt c cs <;> simp

theorem kind_annotationAt_ne_skipped (cs : List Char) :
    (annotationAt cs).1.kind ≠ .skipped := by
  fun_cases annotationAt cs <;> simp

theorem kind_stringAt_ne_skipped (cs : List Char) : (stringAt cs).1.kind ≠ .skipped := by
  rw [stringAt]
  split
  dsimp only
  split <;> simp

theorem signKind_ne_skipped (c : Char) : signKind c ≠ .skipped := by
  unfold signKind
  split
  case h_13 => split <;> simp
  all_goals simp

/-- The first end mark of a block comment is the one that ends it. -/
theorem not_isInfix_of_splitFirst {comment : List Char}
    (h : Text.splitFirst ['*', '/'] cs = some (comment, rest)) :
    ¬ ['*', '/'] <:+: comment ++ ['*'] := by
  rintro ⟨before, tail, heq⟩
  have hlength := congrArg List.length heq
  simp only [List.length_append, List.length_cons, List.length_nil] at hlength
  apply Text.not_isPrefix_of_splitFirst h (by omega : before.length < comment.length)
  refine ⟨tail ++ '/' :: rest, ?_⟩
  calc
    ['*', '/'] ++ (tail ++ '/' :: rest)
      = (before ++ (['*', '/'] ++ (tail ++ '/' :: rest))).drop before.length :=
        List.drop_left.symm
    _ = ((before ++ ['*', '/'] ++ tail) ++ '/' :: rest).drop before.length := by
        simp only [List.append_assoc]
    _ = ((comment ++ ['*']) ++ '/' :: rest).drop before.length := by rw [heq]
    _ = cs.drop before.length := by
        rw [← Text.append_of_splitFirst h]
        simp only [List.append_assoc, List.cons_append, List.nil_append]

theorem skipped_of_slashAt (h : (slashAt cs).1.kind = .skipped)
    (hrest : (slashAt cs).2 = gap ++ after) (hgap : Skipped gap after) :
    Skipped ((slashAt cs).1.text ++ gap) after := by
  revert h hrest
  unfold slashAt
  split
  case h_1 cs =>
    intro _ hrest
    dsimp only at hrest
    refine .lineComment ?_ ?_ hgap
    · intro hnewline
      simpa using List.mem_takeWhile_imp hnewline
    · intro c hc
      have hfirst := List.head?_dropWhile_not (· != '\n') cs
      rw [hrest, Option.mem_def.1 hc] at hfirst
      simpa using hfirst
  case h_2 =>
    split
    case h_1 comment _ hsplit =>
      intro _ _
      have hcomment := not_isInfix_of_splitFirst hsplit
      simpa using Skipped.blockComment hcomment hgap
    case h_2 => exact fun h => by contradiction
  case h_3 => exact fun h => by contradiction

/-- What is skipped stands for nothing, and so does what is skipped after it. -/
theorem skipped_of_first (h : (first c cs).1.kind = .skipped)
    (hrest : (first c cs).2 = gap ++ after) (hgap : Skipped gap after) :
    Skipped ((first c cs).1.text ++ gap) after := by
  revert h hrest
  fun_cases first c cs with
  | case1 hseparator =>
      intro _ _
      refine Skipped.blanks (List.forall_mem_cons.2 ⟨hseparator, ?_⟩) hgap
      exact fun _ => List.mem_takeWhile_imp
  | case2 => exact fun h => absurd h (kind_nameAt_ne_skipped c cs)
  | case3 => exact fun h => by contradiction
  | case4 => exact fun h => absurd h (kind_annotationAt_ne_skipped cs)
  | case5 => exact fun h => absurd h (kind_stringAt_ne_skipped cs)
  | case6 => exact fun h hrest => skipped_of_slashAt h hrest hgap
  | case7 => exact fun h => absurd h (signKind_ne_skipped c)

end Piece

/-! ## Texts and their tokens -/

/-- A text that starts at an offset is laid out by the tokens found in it; or it is laid out up to a
place that is refused. -/
def Accounts (offset : Nat) (text : List Char) : Except BadText (List Token) → Prop
  | .ok tokens => LaidOut offset text tokens []
  | .error bad => ∃ before tokens after, text = before ++ (bad.text.toList ++ after) ∧
      bad.text.toList ≠ [] ∧ LaidOut offset before tokens (bad.text.toList ++ after) ∧
      bad.span = ⟨offset + byteLength before,
        offset + byteLength before + byteLength bad.text.toList⟩

/-- Skipped text may stand before. -/
theorem LaidOut.skip (h : LaidOut (offset + byteLength text) rest tokens after)
    (hskip : ∀ gap following, gap ++ following = rest ++ after → Skipped gap following →
      Skipped (text ++ gap) following) :
    LaidOut offset (text ++ rest) tokens after := by
  cases h with
  | done hgap => exact .done (hskip _ _ rfl hgap)
  | token hgap hword hrest =>
      rw [Nat.add_assoc offset, ← byteLength_append] at hrest ⊢
      rw [← List.append_assoc]
      refine .token (hskip _ _ ?_ hgap) hword hrest
      simp only [List.append_assoc]

theorem Accounts.skip {outcome : Except BadText (List Token)}
    (h : Accounts (offset + byteLength text) rest outcome)
    (hskip : ∀ gap following, gap ++ following = rest → Skipped gap following →
      Skipped (text ++ gap) following) : Accounts offset (text ++ rest) outcome := by
  cases outcome with
  | ok tokens =>
      refine LaidOut.skip h fun gap following heq => hskip gap following ?_
      rw [heq, List.append_nil]
  | error bad =>
      obtain ⟨before, tokens, after, rfl, hbad, hbefore, hspan⟩ := h
      refine ⟨text ++ before, tokens, after, ?_, hbad, hbefore.skip hskip, ?_⟩
      · rw [List.append_assoc]
      · rw [hspan, byteLength_append, Nat.add_assoc offset]

/-- A token may stand before. -/
theorem Accounts.token {outcome : Except BadText (List Token)} (hword : word ∈ kind.pattern)
    (h : Accounts (offset + byteLength word) rest outcome) :
    Accounts offset (word ++ rest)
      (outcome.map (⟨kind, String.ofList word, ⟨offset, offset + byteLength word⟩⟩ :: ·)) := by
  cases outcome with
  | ok tokens => exact LaidOut.token .nil hword h
  | error bad =>
      obtain ⟨before, tokens, after, rfl, hbad, hbefore, hspan⟩ := h
      refine ⟨word ++ before, _, after, ?_, hbad, LaidOut.token .nil hword hbefore, ?_⟩
      · rw [List.append_assoc]
      · rw [hspan, byteLength_append, Nat.add_assoc offset]

/-- The induction is on the pieces of the text: each is skipped, a token, or refused. -/
theorem accounts_tokensFrom (offset : Nat) (cs : List Char) :
    Accounts offset cs (tokensFrom offset (piecesOf cs)) := by
  fun_induction piecesOf cs generalizing offset with
  | case1 => exact .done .nil
  | case2 c cs ih =>
      have happend := Piece.first_append c cs
      have hne := Piece.first_text_ne_nil c cs
      have hpattern (kind : TokenKind) := @Piece.mem_pattern_of_first c cs kind
      have hskipped (gap after : List Char) := @Piece.skipped_of_first c cs gap after
      generalize Piece.first c cs = piece at *
      obtain ⟨⟨kind, text⟩, rest⟩ := piece
      rw [← happend]
      cases kind with
      | refused =>
          refine ⟨[], [], rest, ?_, ?_, .done .nil, ?_⟩
          · rw [String.toList_ofList, List.nil_append]
          · rw [String.toList_ofList]
            exact hne
          · rw [String.toList_ofList]
            rfl
      | skipped => exact (ih _).skip fun gap after heq => hskipped gap after rfl heq.symm
      | token kind => exact (ih _).token (hpattern kind rfl)

/-! ## Main result -/

section Tokenize

variable {text : String} {token : Token}

theorem LaidOut.forall_mem_pattern {text : List Char} (h : LaidOut offset text tokens after) :
    ∀ token ∈ tokens, token.text.toList ∈ token.kind.pattern := by
  induction h with
  | done => exact fun _ htoken => absurd htoken List.not_mem_nil
  | token _ hword _ ih =>
      refine List.forall_mem_cons.2 ⟨?_, ih⟩
      rw [String.toList_ofList]
      exact hword

/-- A span that covers a word has as many bytes as the word, so it is not empty unless the word
is. -/
theorem Span.Covers.start_lt_stop {span : Span} {text word : List Char} (h : span.Covers text word)
    (hword : word ≠ []) : span.start < span.stop := by
  obtain ⟨before, after, _, hstart, hstop⟩ := h
  rw [hstart, hstop]
  exact Nat.lt_add_of_pos_right (byteLength_pos hword)

/-- Text that is refused is what its span covers. -/
theorem covers_of_refused {bad : BadText} (h : tokenize text = .error bad) :
    bad.span.Covers text.toList bad.text.toList := by
  have haccounts : Accounts 0 text.toList (tokenize text) := accounts_tokensFrom 0 text.toList
  rw [h] at haccounts
  obtain ⟨before, tokens, after, htext, _, _, hspan⟩ := haccounts
  rw [Nat.zero_add] at hspan
  exact ⟨before, after, htext, by rw [hspan], by rw [hspan]⟩

/-- If a text has tokens, they are laid out in it with nothing but skipped text around them, each of
them covers what it stands for, and they stand one after the other.  If it has none, the text
that is refused is covered by its span, and what stands before it is laid out in the same way. -/
theorem tokenize_accounts_for_text (text : String) :
    (∀ tokens, tokenize text = .ok tokens →
      LaidOut 0 text.toList tokens [] ∧
        (∀ token ∈ tokens, token.span.start < token.span.stop ∧
          token.span.Covers text.toList token.text.toList ∧
          token.text.toList ∈ token.kind.pattern) ∧
        tokens.Pairwise fun first second => first.span.Before second.span) ∧
    ∀ bad, tokenize text = .error bad →
      bad.span.start < bad.span.stop ∧ bad.span.Covers text.toList bad.text.toList ∧
        ∃ before tokens after, text.toList = before ++ (bad.text.toList ++ after) ∧
          bad.span.start = byteLength before ∧
          LaidOut 0 before tokens (bad.text.toList ++ after) := by
  have haccounts : Accounts 0 text.toList (tokenize text) := accounts_tokensFrom 0 text.toList
  constructor
  · intro tokens htokens
    rw [htokens] at haccounts
    have hlaid : LaidOut 0 text.toList tokens [] := haccounts
    refine ⟨hlaid, fun token htoken => ?_, pairwise_before_of_tokenize htokens⟩
    have hcovers := covers_of_tokenize htokens htoken
    have hne := text_ne_nil_of_mem_piecesOf (piece_mem_of_tokenize htokens htoken)
    exact ⟨hcovers.start_lt_stop hne, hcovers, hlaid.forall_mem_pattern token htoken⟩
  · intro bad hbad
    rw [hbad] at haccounts
    obtain ⟨before, tokens, after, htext, hne, hbefore, hspan⟩ := haccounts
    rw [Nat.zero_add] at hspan
    have hcovers := covers_of_refused hbad
    exact ⟨hcovers.start_lt_stop hne, hcovers, before, tokens, after, htext, by rw [hspan],
      hbefore⟩

end Tokenize

/-- Comments of both kinds around the tokens. -/
def commented : String :=
  "/* a ** b */ enum /**/ E; // done"

/-- A comment without an end. -/
def unclosed : String :=
  "struct S; /* never closed"

theorem commented_and_unclosed_accounted :
    (∃ tokens, tokenize commented = .ok tokens ∧
      tokens.map Token.span = [⟨13, 17⟩, ⟨23, 24⟩, ⟨24, 25⟩] ∧
      LaidOut 0 commented.toList tokens []) ∧
    ∃ bad, tokenize unclosed = .error bad ∧ bad.span = ⟨10, 25⟩ ∧
      ∃ before tokens after, unclosed.toList = before ++ (bad.text.toList ++ after) ∧
        bad.span.start = byteLength before ∧
        LaidOut 0 before tokens (bad.text.toList ++ after) := by
  constructor
  · have hspans : (tokenize commented).toOption.map (List.map Token.span) =
        some [⟨13, 17⟩, ⟨23, 24⟩, ⟨24, 25⟩] := by decide +kernel
    cases htokens : tokenize commented with
    | error bad =>
        rw [htokens] at hspans
        contradiction
    | ok tokens =>
        rw [htokens] at hspans
        obtain ⟨hlaid, _⟩ := (tokenize_accounts_for_text commented).1 tokens htokens
        exact ⟨tokens, rfl, Option.some.inj hspans, hlaid⟩
  · have hspan : (match tokenize unclosed with
        | .ok _ => none
        | .error bad => some bad.span) = some ⟨10, 25⟩ := by decide +kernel
    cases hbad : tokenize unclosed with
    | ok tokens =>
        rw [hbad] at hspan
        contradiction
    | error bad =>
        rw [hbad] at hspan
        obtain ⟨_, _, hbefore⟩ := (tokenize_accounts_for_text unclosed).2 bad hbad
        exact ⟨bad, rfl, Option.some.inj hspan, hbefore⟩

end HalPackages
