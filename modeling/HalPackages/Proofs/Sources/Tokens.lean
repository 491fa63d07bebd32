import HalPackages.Proofs.Sources.Grammar

/-!
# Tokens in their text

A token stands for the characters that its span covers, and the tokens of a text
stand one after the other.  A name token with no mark in it is a word: the marks are
the only characters that paths, versions and local names add to the letters, digits
and underscores of words.
-/

namespace HalPackages

/-- The span covers a word in a text: it starts and stops between characters, and the word is what
stands there. -/
def Span.Covers (span : Span) (text word : List Char) : Prop :=
  ∃ before after, text = before ++ (word ++ after) ∧ span.start = byteLength before ∧
    span.stop = byteLength before + byteLength word

/-- The first span starts and stops before the second one starts. -/
structure Span.Before (first second : Span) : Prop where
  start : first.start < second.start
  stop : first.stop ≤ second.start

/-- An ASCII letter or an underscore, and then letters, digits and underscores. -/
def IsWord : List Char → Prop
  | [] => False
  | c :: cs => (c.isAlpha ∨ c = '_') ∧ ∀ d ∈ cs, d.isAlphanum ∨ d = '_'

/-! ## Pieces -/

theorem exists_first_of_mem_piecesOf {text : List Char} {piece : Piece}
    (h : piece ∈ piecesOf text) : ∃ c cs, piece = (Piece.first c cs).1 := by
  fun_induction piecesOf text with
  | case1 => contradiction
  | case2 c cs ih =>
      rcases List.mem_cons.1 h with rfl | h
      · exact ⟨c, cs, rfl⟩
      · exact ih h

theorem text_ne_nil_of_mem_piecesOf {text : List Char} {piece : Piece}
    (h : piece ∈ piecesOf text) : piece.text ≠ [] := by
  obtain ⟨c, cs, rfl⟩ := exists_first_of_mem_piecesOf h
  exact Piece.first_text_ne_nil c cs

theorem byteLength_pos {text : List Char} (h : text ≠ []) : 0 < byteLength text := by
  obtain ⟨c, cs, rfl⟩ := List.exists_cons_of_ne_nil h
  rw [byteLength_cons]
  exact Nat.add_pos_left c.utf8Size_pos _

section TokensFrom

variable {offset : Nat} {text : List Char} {pieces : List Piece} {tokens : List Token}
variable {token : Token}

theorem tokensFrom_token_eq_ok_iff {kind : TokenKind} :
    tokensFrom offset (⟨.token kind, text⟩ :: pieces) = .ok tokens ↔
      ∃ others, tokensFrom (offset + byteLength text) pieces = .ok others ∧
        tokens = ⟨kind, String.ofList text, ⟨offset, offset + byteLength text⟩⟩ :: others := by
  rw [tokensFrom, except_bind_eq_ok]
  exact exists_congr fun others => and_congr_right fun _ =>
    ⟨fun h => (Except.ok.inj h).symm, fun h => congrArg Except.ok h.symm⟩

/-- A token is a piece, and its span is what the piece takes after the ones before it. -/
theorem exists_piece_of_mem_tokensFrom (h : tokensFrom offset pieces = .ok tokens)
    (htoken : token ∈ tokens) :
    ∃ before after, pieces = before ++ ⟨.token token.kind, token.text.toList⟩ :: after ∧
      token.span.start = offset + byteLength (before.flatMap Piece.text) ∧
      token.span.stop = token.span.start + byteLength token.text.toList := by
  induction pieces generalizing offset tokens with
  | nil =>
      cases h
      contradiction
  | cons piece pieces ih =>
      obtain ⟨kind, text⟩ := piece
      -- what follows starts after the piece
      have hlater (others : List Token)
          (hothers : tokensFrom (offset + byteLength text) pieces = .ok others)
          (htoken : token ∈ others) :
          ∃ before after, ⟨kind, text⟩ :: pieces =
              before ++ ⟨.token token.kind, token.text.toList⟩ :: after ∧
            token.span.start = offset + byteLength (before.flatMap Piece.text) ∧
            token.span.stop = token.span.start + byteLength token.text.toList := by
        obtain ⟨before, after, rfl, hstart, hstop⟩ := ih hothers htoken
        refine ⟨⟨kind, text⟩ :: before, after, rfl, ?_, hstop⟩
        rw [hstart, List.flatMap_cons, byteLength_append, ← Nat.add_assoc]
      cases kind with
      | refused => contradiction
      | skipped => exact hlater tokens h htoken
      | token kind =>
          obtain ⟨others, hothers, rfl⟩ := tokensFrom_token_eq_ok_iff.1 h
          rcases List.mem_cons.1 htoken with rfl | htoken
          · rw [String.toList_ofList]
            exact ⟨[], pieces, rfl, rfl, rfl⟩
          · exact hlater others hothers htoken

/-- The tokens start behind the given offset, one after the other. -/
theorem pairwise_before_of_tokensFrom (hpieces : ∀ piece ∈ pieces, piece.text ≠ [])
    (h : tokensFrom offset pieces = .ok tokens) :
    (∀ token ∈ tokens, offset ≤ token.span.start) ∧
      tokens.Pairwise fun first second => first.span.Before second.span := by
  induction pieces generalizing offset tokens with
  | nil =>
      cases h
      exact ⟨fun _ htoken => absurd htoken List.not_mem_nil, .nil⟩
  | cons piece pieces ih =>
      obtain ⟨kind, text⟩ := piece
      have hpieces' : ∀ piece ∈ pieces, piece.text ≠ [] := fun piece hpiece =>
        hpieces piece (List.mem_cons_of_mem _ hpiece)
      have hpositive : 0 < byteLength text := byteLength_pos (hpieces _ List.mem_cons_self)
      cases kind with
      | refused => contradiction
      | skipped =>
          obtain ⟨hbounds, hpairs⟩ := ih hpieces' h
          exact ⟨fun token htoken => Nat.le_of_add_right_le (hbounds token htoken), hpairs⟩
      | token kind =>
          obtain ⟨others, hothers, rfl⟩ := tokensFrom_token_eq_ok_iff.1 h
          obtain ⟨hbounds, hpairs⟩ := ih hpieces' hothers
          refine ⟨?_, .cons ?_ hpairs⟩
          · refine List.forall_mem_cons.2 ⟨Nat.le_refl _, ?_⟩
            exact fun token htoken => Nat.le_of_add_right_le (hbounds token htoken)
          · intro token htoken
            have hbound := hbounds token htoken
            exact ⟨by dsimp only; omega, hbound⟩

end TokensFrom

/-! ## Words -/

namespace Piece

variable {c d : Char} {cs : List Char}

theorem isWordPart_iff : isWordPart c = true ↔ c.isAlphanum ∨ c = '_' := by
  rw [isWordPart, Bool.or_eq_true, beq_iff_eq]

theorem isWordStart_iff : isWordStart c = true ↔ c.isAlpha ∨ c = '_' := by
  rw [isWordStart, Bool.or_eq_true, beq_iff_eq]

theorem isWordPart_of_isWordStart (h : isWordStart c = true) : isWordPart c = true := by
  rw [isWordPart_iff, Char.isAlphanum, Bool.or_eq_true]
  exact (isWordStart_iff.1 h).imp_left Or.inl

/-- The dots are the only marks in a path. -/
theorem isWordPart_of_mem_pathTail (hd : d ∈ (pathTail cs).1) (hdot : d ≠ '.') :
    isWordPart d = true := by
  fun_induction pathTail cs with
  | case1 => contradiction
  | case2 => contradiction
  | case3 c cs hstart path rest heq ih =>
      rw [heq] at ih
      rcases List.mem_cons.1 hd with rfl | hd
      · contradiction
      · rcases List.mem_cons.1 hd with rfl | hd
        · exact isWordPart_of_isWordStart hstart
        · exact ih hd
  | case4 => contradiction
  | case5 c cs _ _ hpart path rest heq ih =>
      rw [heq] at ih
      rcases List.mem_cons.1 hd with rfl | hd
      · exact hpart
      · exact ih hd
  | case6 => contradiction

/-- A version starts with its mark. -/
theorem at_mem_of_versionTail {version rest : List Char}
    (h : versionTail cs = .present version rest) : '@' ∈ version := by
  unfold versionTail at h
  split at h
  case h_2 => contradiction
  case h_1 digits =>
    dsimp only at h
    split at h
    case isTrue => contradiction
    case isFalse =>
      split at h
      case h_2 => contradiction
      case h_1 =>
        split at h
        case isTrue => contradiction
        case isFalse =>
          cases h
          exact List.mem_cons_self

/-- A local name starts with its marks. -/
theorem colon_mem_localTail (cs : List Char) :
    (localTail cs).1 = [] ∨ ':' ∈ (localTail cs).1 := by
  unfold localTail
  split
  case h_2 => exact Or.inl rfl
  case h_1 =>
    split
    case isTrue => exact Or.inr List.mem_cons_self
    case isFalse => exact Or.inl rfl

/-- What a name adds to its path has a mark in it. -/
theorem exists_text_of_nameAt (hkind : (nameAt c cs).1.kind ≠ .refused) :
    ∃ tail, (nameAt c cs).1.text = c :: ((pathTail cs).1 ++ tail) ∧
      (tail = [] ∨ '@' ∈ tail ∨ ':' ∈ tail) := by
  rcases hpath : pathTail cs with ⟨path, afterPath⟩
  cases hversion : versionTail afterPath with
  | incomplete version rest =>
      simp only [nameAt, hpath, hversion] at hkind
      exact absurd rfl hkind
  | present version afterVersion =>
      rcases hlocal : localTail afterVersion with ⟨localName, rest⟩
      refine ⟨version ++ localName, ?_, Or.inr (Or.inl ?_)⟩
      · simp only [nameAt, hpath, hversion, hlocal, List.cons_append, List.append_assoc]
      · exact List.mem_append_left _ (at_mem_of_versionTail hversion)
  | absent =>
      rcases hlocal : localTail afterPath with ⟨localName, rest⟩
      refine ⟨localName, ?_, ?_⟩
      · simp only [nameAt, hpath, hversion, hlocal, List.cons_append]
      · have hcolon := colon_mem_localTail afterPath
        rw [hlocal] at hcolon
        exact hcolon.imp_right Or.inr

/-- A name with no mark in it is a word. -/
theorem isWord_of_nameAt (hstart : isWordStart c = true)
    (hkind : (nameAt c cs).1.kind ≠ .refused)
    (hplain : ∀ d ∈ (nameAt c cs).1.text, d ≠ '.' ∧ d ≠ '@' ∧ d ≠ ':') :
    IsWord (nameAt c cs).1.text := by
  obtain ⟨tail, htext, htail⟩ := exists_text_of_nameAt hkind
  rw [htext] at hplain ⊢
  have htail : tail = [] := by
    rcases htail with rfl | hat | hcolon
    · rfl
    · exact absurd rfl (hplain '@' (List.mem_cons_of_mem _ (List.mem_append_right _ hat))).2.1
    · exact absurd rfl (hplain ':' (List.mem_cons_of_mem _ (List.mem_append_right _ hcolon))).2.2
  subst htail
  rw [List.append_nil] at hplain ⊢
  refine ⟨isWordStart_iff.1 hstart, fun d hd => ?_⟩
  exact isWordPart_iff.1
    (isWordPart_of_mem_pathTail hd (hplain d (List.mem_cons_of_mem _ hd)).1)

theorem kind_annotationAt_ne (cs : List Char) : (annotationAt cs).1.kind ≠ .token .name := by
  fun_cases annotationAt cs <;> simp

theorem kind_stringAt_ne (cs : List Char) : (stringAt cs).1.kind ≠ .token .name := by
  rw [stringAt]
  split
  dsimp only
  split <;> simp

theorem kind_slashAt_ne (cs : List Char) : (slashAt cs).1.kind ≠ .token .name := by
  fun_cases slashAt cs <;> simp

theorem signKind_ne (c : Char) : signKind c ≠ .token .name := by
  unfold signKind
  split
  case h_13 => split <;> simp
  all_goals simp

/-- Only what starts like a word is a name. -/
theorem first_eq_nameAt (h : (first c cs).1.kind = .token .name) :
    isWordStart c = true ∧ first c cs = nameAt c cs := by
  unfold first at h ⊢
  split at h
  case isTrue => contradiction
  case isFalse hseparator =>
    split at h
    case isTrue hstart =>
      rw [if_neg hseparator, if_pos hstart]
      exact ⟨hstart, rfl⟩
    case isFalse =>
      split at h
      case isTrue => cases h
      case isFalse =>
        split at h
        case isTrue => exact absurd h (kind_annotationAt_ne cs)
        case isFalse =>
          split at h
          case isTrue => exact absurd h (kind_stringAt_ne cs)
          case isFalse =>
            split at h
            case isTrue => exact absurd h (kind_slashAt_ne cs)
            case isFalse => exact absurd h (signKind_ne c)

end Piece

section Tokenize

variable {text : String} {tokens : List Token} {token : Token}

/-- A token stands for what its span covers. -/
theorem covers_of_tokenize (h : tokenize text = .ok tokens) (htoken : token ∈ tokens) :
    token.span.Covers text.toList token.text.toList := by
  obtain ⟨before, after, hpieces, hstart, hstop⟩ := exists_piece_of_mem_tokensFrom h htoken
  rw [Nat.zero_add] at hstart
  refine ⟨before.flatMap Piece.text, after.flatMap Piece.text, ?_, hstart, hstart ▸ hstop⟩
  rw [← flatMap_text_piecesOf text.toList, hpieces, List.flatMap_append, List.flatMap_cons]

/-- A token is a piece of the text. -/
theorem piece_mem_of_tokenize (h : tokenize text = .ok tokens) (htoken : token ∈ tokens) :
    ⟨.token token.kind, token.text.toList⟩ ∈ piecesOf text.toList := by
  obtain ⟨before, after, hpieces, _⟩ := exists_piece_of_mem_tokensFrom h htoken
  rw [hpieces]
  exact List.mem_append_right _ List.mem_cons_self

/-- The tokens stand one after the other. -/
theorem pairwise_before_of_tokenize (h : tokenize text = .ok tokens) :
    tokens.Pairwise fun first second => first.span.Before second.span :=
  (pairwise_before_of_tokensFrom (fun _ => text_ne_nil_of_mem_piecesOf) h).2

/-- An identifier is a word. -/
theorem isWord_of_isIdentifier (h : tokenize text = .ok tokens) (htoken : token ∈ tokens)
    (hidentifier : token.IsIdentifier) : IsWord token.text.toList := by
  obtain ⟨c, cs, hfirst⟩ := exists_first_of_mem_piecesOf (piece_mem_of_tokenize h htoken)
  have hkind : (Piece.first c cs).1.kind = .token .name := by
    rw [← hfirst, hidentifier.kind]
  obtain ⟨hstart, hname⟩ := Piece.first_eq_nameAt hkind
  rw [hname] at hfirst hkind
  have htext : token.text.toList = (Piece.nameAt c cs).1.text := congrArg Piece.text hfirst
  rw [htext]
  apply Piece.isWord_of_nameAt hstart
  · rw [hkind]
    exact PieceKind.noConfusion
  · rw [← htext]
    exact hidentifier.plain

end Tokenize

end HalPackages
