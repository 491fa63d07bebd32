import HalPackages.Proofs.Sources.Scans

/-!
# Names as tokens

Two recognisers read names: the scanner cuts the longest name out of a source, and the
parser of names splits a whole text at its marks.  The scanner knows ASCII only, and on
ASCII the paths of the one are the dotted paths of the other.  So the text of a name
token is the written form of a name, unless it has a local name without a version; and
the written form of a name is one name token, unless it starts with a version or is a
reserved word.
-/

namespace HalPackages

open Text

/-! ## Identifiers in ASCII -/

section Ascii

variable {c : Char} {word path : List Char}

theorem forall_ascii {p : Char → Prop} (h : ∀ n < 128, p (Char.ofNat n)) (hc : c.toNat < 128) :
    p c := by
  have hn := h c.toNat hc
  rwa [Char.ofNat_toNat] at hn

theorem isStart_eq_isAlpha (hc : c.toNat < 128) : isStart c = c.isAlpha :=
  forall_ascii (p := fun c => isStart c = c.isAlpha) (by decide +kernel) hc

theorem isContinue_eq_isWordPart (hc : c.toNat < 128) : isContinue c = Piece.isWordPart c :=
  forall_ascii (p := fun c => isContinue c = Piece.isWordPart c) (by decide +kernel) hc

theorem toNat_lt_of_isWordPart (h : Piece.isWordPart c = true) : c.toNat < 128 := by
  have hupper : c.isUpper = decide ('A'.val ≤ c.val ∧ c.val ≤ 'Z'.val) := rfl
  have hlower : c.isLower = (decide ('a'.val ≤ c.val) && decide (c.val ≤ 'z'.val)) := rfl
  have halpha : c.isAlpha = (c.isUpper || c.isLower) := rfl
  rcases Piece.isWordPart_iff.1 h with halphanum | rfl
  · rw [Char.isAlphanum, halpha, hupper, hlower] at halphanum
    simp only [Bool.or_eq_true, Bool.and_eq_true, decide_eq_true_eq, UInt32.le_iff_toNat_le,
      Char.isDigit_iff_toNat] at halphanum
    rcases halphanum with (⟨_, hhigh⟩ | ⟨_, hhigh⟩) | ⟨_, hhigh⟩
    · exact Nat.lt_of_le_of_lt hhigh (by decide)
    · exact Nat.lt_of_le_of_lt hhigh (by decide)
    · exact Nat.lt_of_le_of_lt hhigh (by decide)
  · decide

theorem isIdentifier_singleton (h : Piece.isWordStart c = true) : isIdentifier [c] = true := by
  have hc : c.toNat < 128 := toNat_lt_of_isWordPart (Piece.isWordPart_of_isWordStart h)
  rw [isIdentifier, isStart_eq_isAlpha hc, Bool.or_comm]
  rw [Piece.isWordStart] at h
  rw [h]
  rfl

theorem isIdentifier_append_singleton (hword : isIdentifier word = true)
    (hc : Piece.isWordPart c = true) : isIdentifier (word ++ [c]) = true := by
  cases word with
  | nil => contradiction
  | cons first rest =>
      rw [isIdentifier, Bool.and_eq_true, List.all_eq_true] at hword
      rw [List.cons_append, isIdentifier, Bool.and_eq_true, List.all_eq_true]
      refine ⟨hword.1, List.forall_mem_append.2 ⟨hword.2, List.forall_mem_singleton.2 ?_⟩⟩
      rw [isContinue_eq_isWordPart (toNat_lt_of_isWordPart hc)]
      exact hc

theorem isDotted_of_isIdentifier (h : isIdentifier word = true) : IsDotted word := by
  intro segment hsegment
  rw [List.splitOn_eq_singleton (dot_notMem_of_isIdentifier h), List.mem_singleton] at hsegment
  rw [hsegment]
  exact h

theorem isDotted_append_dot (hfront : IsDotted word) (hback : IsDotted path) :
    IsDotted (word ++ '.' :: path) := by
  rw [IsDotted, List.splitOn_append_cons_self]
  exact List.forall_mem_append.2 ⟨hfront, hback⟩

/-- A dotted path starts like an identifier. -/
theorem isWordStart_of_isDotted (h : IsDotted (c :: path)) (hc : c.toNat < 128) :
    Piece.isWordStart c = true := by
  obtain ⟨rest, hrest⟩ := exists_splitOn_eq_takeWhile_cons '.' (c :: path)
  have hfirst : isIdentifier ((c :: path).takeWhile (· != '.')) = true :=
    h _ (hrest ▸ List.mem_cons_self)
  by_cases hdot : c = '.'
  · simp [hdot, isIdentifier] at hfirst
  · rw [List.takeWhile_cons_of_pos (by simpa using hdot), isIdentifier, Bool.and_eq_true,
      isStart_eq_isAlpha hc, Bool.or_comm] at hfirst
    exact hfirst.1

/-- A word and the path that goes on after it are a dotted path. -/
theorem isDotted_of_goesOnPath (hword : isIdentifier word = true) (hpath : Piece.GoesOnPath path) :
    IsDotted (word ++ path) := by
  induction hpath generalizing word with
  | nil =>
      rw [List.append_nil]
      exact isDotted_of_isIdentifier hword
  | @part c cs hpart _ ih =>
      have hlonger : IsDotted (word ++ [c] ++ cs) := ih (isIdentifier_append_singleton hword hpart)
      rw [List.append_assoc] at hlonger
      exact hlonger
  | @dot c cs hstart _ ih =>
      have hback : IsDotted ([c] ++ cs) := ih (isIdentifier_singleton hstart)
      exact isDotted_append_dot (isDotted_of_isIdentifier hword) hback

/-- A dotted path in ASCII goes on as a path after each of its words. -/
theorem goesOnPath_of_isDotted (word : List Char) (h : IsDotted (word ++ path))
    (hpath : ∀ c ∈ path, c.toNat < 128) : Piece.GoesOnPath path := by
  fun_induction Piece.pathTail path generalizing word with
  | case1 => exact .nil
  | case2 => exact absurd rfl h.of_append.ne_nil
  | case3 c cs hstart _ _ _ ih =>
      have hback : IsDotted ([c] ++ cs) := h.of_append
      exact .dot hstart (ih [c] hback fun d hd => hpath d (by simp [hd]))
  | case4 c cs hstart =>
      exact absurd (isWordStart_of_isDotted h.of_append (hpath c (by simp))) hstart
  | case5 c cs _ _ hpart _ _ _ ih =>
      have hlonger : IsDotted (word ++ [c] ++ cs) := by
        rw [List.append_assoc]
        exact h
      exact .part hpart (ih (word ++ [c]) hlonger fun d hd => hpath d (List.mem_cons_of_mem c hd))
  | case6 c cs hlast hdots hpart =>
      have hdot : c ≠ '.' := by
        rintro rfl
        cases cs with
        | nil => exact hlast rfl rfl
        | cons d ds => exact hdots d ds rfl rfl
      have hcontinue := h.isContinue_of_mem (List.mem_append_right word List.mem_cons_self) hdot
      rw [isContinue_eq_isWordPart (hpath c List.mem_cons_self)] at hcontinue
      exact absurd hcontinue hpart

/-- A dotted path in ASCII is a word and the path that goes on after it. -/
theorem isWordStart_and_goesOnPath (h : IsDotted (c :: path))
    (hascii : ∀ d ∈ c :: path, d.toNat < 128) :
    Piece.isWordStart c = true ∧ Piece.GoesOnPath path := by
  obtain ⟨hc, hpath⟩ := List.forall_mem_cons.1 hascii
  exact ⟨isWordStart_of_isDotted h hc, goesOnPath_of_isDotted [c] h hpath⟩

end Ascii

/-! ## From tokens to names -/

namespace QualifiedName

variable {name : QualifiedName} {text : String}

theorem ne_empty_of_isVersion {version : String} (h : isVersion version.toList = true) :
    version ≠ "" := by
  rintro rfl
  contradiction

/-- A text without white space is the written form of the name that is read from it. -/
theorem render_of_parse (htext : ∀ c ∈ text.toList, isBlank c = false)
    (h : parse text = .ok name) : name.render = text := by
  have htrim : trim text.toList = text.toList :=
    trim_eq_self (fun c hc => htext c (List.mem_of_head? hc))
      (fun c hc => htext c (List.mem_of_getLast? hc))
  have hrender := render_of_ofChars h
  rw [htrim] at hrender
  exact String.toList_inj.1 hrender

/-- A written form without a version is a dotted path, which has no colons. -/
theorem IsWellFormed.at_mem_or (h : name.IsWellFormed) :
    '@' ∈ name.render.toList ∨ ¬ [':', ':'] <:+: name.render.toList := by
  cases h with
  | bare hpackage hversion hlocal =>
      rw [render_of_bare hpackage hversion]
      refine Or.inr fun hcolons => ?_
      exact hlocal.notMem (by decide) (by decide) (hcolons.subset List.mem_cons_self)
  | versioned _ hversion _ =>
      have hne : name.version ≠ "" := ne_empty_of_isVersion hversion
      obtain ⟨major, minor, htext, _⟩ := isVersion_iff.1 hversion
      rw [toList_render_of_version hne, htext]
      exact Or.inl (List.mem_append_right _ List.mem_cons_self)

end QualifiedName

namespace Piece

open QualifiedName

variable {c : Char} {body path localName rest : List Char} {kind : TokenKind}

theorem isDotted_cons_of_goesOnPath (hstart : isWordStart c = true) (hpath : GoesOnPath path) :
    IsDotted (c :: path) :=
  isDotted_of_goesOnPath (isIdentifier_singleton hstart) hpath

theorem LocalPart.exists_localForm (h : LocalPart localName rest) :
    ∃ text : String, (text = "" ∨ IsDotted text.toList) ∧ localName = localForm text := by
  cases h with
  | absent => exact ⟨"", Or.inl rfl, rfl⟩
  | @present c path _ hstart hpath _ =>
      refine ⟨String.ofList (c :: path), Or.inr ?_,
        (localForm_of_ne_nil (List.cons_ne_nil _ _)).symm⟩
      rw [String.toList_ofList]
      exact isDotted_cons_of_goesOnPath hstart hpath

/-- What is cut out as a name is the written form of a name, or it has two paths with colons
between them and no version. -/
theorem NamePart.exists_name_or_paths (h : NamePart c body rest kind)
    (hstart : isWordStart c = true) :
    (∃ name : QualifiedName, name.IsWellFormed ∧ name.render.toList = c :: body) ∨
      ∃ front back, IsDotted front ∧ IsDotted back ∧
        c :: body = front ++ ':' :: ':' :: back := by
  cases h with
  | @versioned path version localName _ hpath hversion _ hlocal =>
      have hdotted : IsDotted (c :: path) := isDotted_cons_of_goesOnPath hstart hpath
      obtain ⟨text, htext, rfl⟩ := hlocal.exists_localForm
      have hne : String.ofList version ≠ "" := ofList_ne_empty (ne_nil_of_isVersion hversion)
      refine Or.inl ⟨⟨String.ofList (c :: path), String.ofList version, text⟩, ?_, ?_⟩
      · refine .versioned (Or.inr ?_) ?_ htext
        · rw [String.toList_ofList]
          exact hdotted
        · rw [String.toList_ofList]
          exact hversion
      · rw [toList_render_of_version hne, String.toList_ofList, String.toList_ofList]
        rfl
  | @plain path localName _ hpath _ _ hlocal =>
      have hdotted : IsDotted (c :: path) := isDotted_cons_of_goesOnPath hstart hpath
      cases hlocal with
      | absent =>
          rw [List.append_nil]
          refine Or.inl ⟨⟨"", "", String.ofList (c :: path)⟩, .bare rfl rfl ?_, ?_⟩
          · rw [String.toList_ofList]
            exact hdotted
          · rw [render_of_bare rfl rfl, String.toList_ofList]
      | @present d path' _ hstart' hpath' =>
          exact Or.inr ⟨c :: path, d :: path', hdotted, isDotted_cons_of_goesOnPath hstart' hpath',
            rfl⟩

end Piece

section Tokenize

open QualifiedName

variable {text : String} {tokens : List Token} {token : Token} {name : QualifiedName}

/-- A name token is cut out as a name. -/
theorem exists_namePart_of_tokenize (h : tokenize text = .ok tokens) (htoken : token ∈ tokens)
    (hkind : token.kind = .name) :
    ∃ c body rest, Piece.isWordStart c = true ∧ token.text.toList = c :: body ∧
      Piece.NamePart c body rest .name := by
  obtain ⟨c, cs, hpiece⟩ := exists_first_of_mem_piecesOf (piece_mem_of_tokenize h htoken)
  have hfirst : (Piece.first c cs).1.kind = .token .name := by rw [← hpiece, hkind]
  obtain ⟨hstart, hname⟩ := Piece.first_eq_nameAt hfirst
  have happend := Piece.first_append c cs
  obtain ⟨d, body, hbody⟩ := List.exists_cons_of_ne_nil (Piece.first_text_ne_nil c cs)
  rw [hbody, List.cons_append] at happend
  obtain ⟨rfl, _⟩ := List.cons.inj happend
  have hcut : Piece.nameAt d cs = (⟨.token .name, d :: body⟩, (Piece.first d cs).2) := by
    rw [← hname, ← hbody, ← hfirst]
  refine ⟨d, body, (Piece.first d cs).2, hstart, ?_, (Piece.nameAt_eq_iff.1 hcut).2⟩
  rw [← hbody, ← hpiece]

/-- The text of a name token is read as a name if it has a version or no colons. -/
theorem parse_of_name_token (h : tokenize text = .ok tokens) (htoken : token ∈ tokens)
    (hkind : token.kind = .name) :
    ((∃ name, parse token.text = .ok name) ↔
        '@' ∈ token.text.toList ∨ ¬ [':', ':'] <:+: token.text.toList) ∧
      ∀ name, parse token.text = .ok name → name.render = token.text := by
  obtain ⟨c, body, rest, hstart, htext, hpart⟩ := exists_namePart_of_tokenize h htoken hkind
  rcases hpart.exists_name_or_paths hstart with
    ⟨name, hname, hrender⟩ | ⟨front, back, hfront, hback, hpaths⟩
  · have hsame : token.text = name.render := by rw [← String.toList_inj, htext, hrender]
    rw [hsame]
    refine ⟨iff_of_true ⟨name, parse_render hname⟩ hname.at_mem_or, fun other hother => ?_⟩
    exact render_of_parse (fun _ => isBlank_eq_false_of_mem_render hname) hother
  · rw [hpaths] at htext
    have hblank : ∀ c ∈ token.text.toList, isBlank c = false := by
      rw [htext]
      refine List.forall_mem_append.2 ⟨fun _ => hfront.isBlank_eq_false, ?_⟩
      refine List.forall_mem_cons.2 ⟨by decide, List.forall_mem_cons.2 ⟨by decide, ?_⟩⟩
      exact fun _ => hback.isBlank_eq_false
    have hnone : ¬ ('@' ∈ token.text.toList ∨ ¬ [':', ':'] <:+: token.text.toList) := by
      rw [htext, not_or, not_not]
      refine ⟨?_, front, back, by simp⟩
      simp [at_notMem_of_isDotted hfront, at_notMem_of_isDotted hback]
    have hunread (name : QualifiedName) : parse token.text ≠ .ok name := by
      intro hname
      have hmarks := (isWellFormed_of_ofChars hname).at_mem_or
      rw [render_of_parse hblank hname] at hmarks
      exact hnone hmarks
    refine ⟨iff_of_false (fun ⟨name, hname⟩ => hunread name hname) hnone, fun name hname => ?_⟩
    exact absurd hname (hunread name)

/-! ## From names to tokens -/

/-- A name that takes the whole text is its only token. -/
theorem tokenize_of_namePart {c : Char} {body : List Char} (hstart : Piece.isWordStart c = true)
    (hpart : Piece.NamePart c body [] .name) :
    tokenize (String.ofList (c :: body)) =
      .ok [⟨.name, String.ofList (c :: body), ⟨0, byteLength (c :: body)⟩⟩] := by
  have hfirst : Piece.first c body = (⟨.token .name, c :: body⟩, []) := by
    rw [Piece.first_of_isWordStart hstart]
    exact Piece.nameAt_eq_iff.2 ⟨(List.append_nil body).symm, hpart⟩
  rw [tokenize, String.toList_ofList, piecesOf, hfirst, piecesOf, tokensFrom_token_eq_ok_iff]
  exact ⟨[], rfl, by rw [Nat.zero_add]⟩

/-- Where the text ends, the local part of a written form is one. -/
theorem localPart_localForm {localName : String}
    (hlocal : localName = "" ∨ IsDotted localName.toList)
    (hascii : ∀ c ∈ localForm localName, c.toNat < 128) :
    Piece.LocalPart (localForm localName) [] := by
  by_cases hempty : localName = ""
  · rw [localForm, if_pos hempty]
    exact .absent rfl
  · have hdotted := hlocal.resolve_left hempty
    obtain ⟨c, path, hcons⟩ := List.exists_cons_of_ne_nil hdotted.ne_nil
    rw [localForm, if_neg hempty, hcons] at hascii ⊢
    rw [hcons] at hdotted
    obtain ⟨hstart, hpath⟩ := isWordStart_and_goesOnPath hdotted fun d hd =>
      hascii d (List.mem_cons_of_mem _ (List.mem_cons_of_mem _ hd))
    exact .present hstart hpath ⟨rfl, rfl⟩

/-- The written form is cut out as a name, unless it starts with a version or is reserved. -/
theorem exists_namePart_of_render (h : name.IsWellFormed)
    (hascii : ∀ c ∈ name.render.toList, c.toNat < 128)
    (hfirst : name.package ≠ "" ∨ name.version = "")
    (hkeyword : ∀ keyword : Keyword, name.render ≠ keyword.spelling) :
    ∃ c body, name.render.toList = c :: body ∧ Piece.isWordStart c = true ∧
      Piece.NamePart c body [] .name := by
  cases h with
  | bare hpackage hversion hlocal =>
      have hunreserved : Keyword.ofSpelling? name.render.toList = none := by
        rw [Keyword.ofSpelling?_eq_none_iff]
        exact fun keyword hsame => hkeyword keyword (String.toList_inj.1 hsame).symm
      rw [render_of_bare hpackage hversion] at hascii hunreserved ⊢
      obtain ⟨c, path, hcons⟩ := List.exists_cons_of_ne_nil hlocal.ne_nil
      rw [hcons] at hlocal hascii hunreserved ⊢
      obtain ⟨hstart, hpath⟩ := isWordStart_and_goesOnPath hlocal hascii
      have hpart : Piece.NamePart c (path ++ []) [] (Piece.wordKind (c :: (path ++ [])) []) :=
        .plain hpath ⟨rfl, rfl⟩ rfl (.absent rfl)
      rw [List.append_nil, Piece.wordKind_eq_name hunreserved] at hpart
      exact ⟨c, path, rfl, hstart, hpart⟩
  | versioned hpackage hversion hlocal =>
      have hne : name.version ≠ "" := ne_empty_of_isVersion hversion
      have hdotted := hpackage.resolve_left (hfirst.resolve_right hne)
      obtain ⟨c, path, hcons⟩ := List.exists_cons_of_ne_nil hdotted.ne_nil
      rw [hcons] at hdotted
      rw [toList_render_of_version hne, hcons, List.cons_append] at hascii ⊢
      have hforward (d : Char) (hd : d ∈ c :: path) : d.toNat < 128 :=
        hascii d (List.mem_append_left _ hd)
      have hlocalPart : Piece.LocalPart (localForm name.localName) [] :=
        localPart_localForm hlocal fun d hd => hascii d (by simp [hd])
      have hdigits : Piece.startsLike [Char.isDigit] (localForm name.localName ++ []) = false := by
        rw [List.append_nil, localForm]
        split <;> rfl
      obtain ⟨hstart, hpath⟩ := isWordStart_and_goesOnPath hdotted hforward
      exact ⟨c, _, rfl, hstart, .versioned hpath hversion hdigits hlocalPart⟩

end Tokenize

open QualifiedName

/-- The text of a name token is read as a name exactly if it has an `@` or no `::`, and it is then
the written form of the name.  The written form of a name in ASCII is one name token, unless it
starts with a version or is a reserved word. -/
theorem name_tokens_are_written_names :
    (∀ text tokens token, tokenize text = .ok tokens → token ∈ tokens → token.kind = .name →
      ((∃ name, parse token.text = .ok name) ↔
          '@' ∈ token.text.toList ∨ ¬ [':', ':'] <:+: token.text.toList) ∧
        ∀ name, parse token.text = .ok name → name.render = token.text) ∧
    ∀ name : QualifiedName, name.IsWritten → (∀ c ∈ name.render.toList, c.toNat < 128) →
      (name.package ≠ "" ∨ name.version = "") →
      (∀ keyword : Keyword, name.render ≠ keyword.spelling) →
      tokenize name.render =
        .ok [⟨.name, name.render, ⟨0, byteLength name.render.toList⟩⟩] := by
  refine ⟨fun text tokens token htokens htoken hkind => parse_of_name_token htokens htoken hkind,
    fun name hwritten hascii hfirst hkeyword => ?_⟩
  obtain ⟨c, body, hrender, hstart, hpart⟩ :=
    exists_namePart_of_render hwritten.isWellFormed hascii hfirst hkeyword
  have htoken := tokenize_of_namePart hstart hpart
  rw [← hrender, String.ofList_toList] at htoken
  exact htoken

/-- A path that starts with a reserved word, a local name without a version, and a name with
both. -/
def threeNames : List Token :=
  [⟨.name, "enum.Status", ⟨0, 11⟩⟩, ⟨.name, "nfc::Kind", ⟨12, 21⟩⟩,
    ⟨.name, "nfc@1.0::INfc", ⟨22, 35⟩⟩]

theorem threeNames_are_written_names :
    tokenize "enum.Status nfc::Kind nfc@1.0::INfc" = .ok threeNames ∧
      (∃ name, parse "enum.Status" = .ok name ∧ name.render = "enum.Status") ∧
      (¬ ∃ name, parse "nfc::Kind" = .ok name) ∧
      (∃ name, parse "nfc@1.0::INfc" = .ok name ∧ name.render = "nfc@1.0::INfc") ∧
      tokenize (render ⟨"nfc", "@1.0", "INfc"⟩) =
        .ok [⟨.name, render ⟨"nfc", "@1.0", "INfc"⟩, ⟨0, 13⟩⟩] := by
  have htokens : tokenize "enum.Status nfc::Kind nfc@1.0::INfc" = .ok threeNames := by
    decide +kernel
  obtain ⟨hforward, hbackward⟩ := name_tokens_are_written_names
  have hname (token : Token) (htoken : token ∈ threeNames) :=
    hforward _ _ token htokens htoken (by revert token; decide +kernel)
  obtain ⟨hstatus, hstatusForm⟩ := hname ⟨.name, "enum.Status", ⟨0, 11⟩⟩ (by decide +kernel)
  obtain ⟨hkind, _⟩ := hname ⟨.name, "nfc::Kind", ⟨12, 21⟩⟩ (by decide +kernel)
  obtain ⟨hnfc, hnfcForm⟩ := hname ⟨.name, "nfc@1.0::INfc", ⟨22, 35⟩⟩ (by decide +kernel)
  refine ⟨htokens, ?_, ?_, ?_, ?_⟩
  · obtain ⟨name, hread⟩ := hstatus.2 (by decide +kernel)
    exact ⟨name, hread, hstatusForm name hread⟩
  · rw [hkind]
    decide +kernel
  · obtain ⟨name, hread⟩ := hnfc.2 (by decide +kernel)
    exact ⟨name, hread, hnfcForm name hread⟩
  · have hascii : ∀ c ∈ (render ⟨"nfc", "@1.0", "INfc"⟩).toList, c.toNat < 128 := by
      simp [render]
    apply hbackward ⟨"nfc", "@1.0", "INfc"⟩ ⟨"nfc@1.0::INfc", rfl⟩ hascii (Or.inl (by decide))
    intro keyword
    cases keyword <;> decide +kernel

end HalPackages
