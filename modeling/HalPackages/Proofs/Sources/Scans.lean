import HalPackages.Proofs.Names.WrittenForm
import HalPackages.Proofs.Sources.Tokens
import Mathlib.Data.List.TakeWhile

/-!
# Where scans stop

A scan goes on as long as it finds characters of certain classes, at most three in a
row, and stops where they do not come next.  So what is found at the start of a text is
found again when the text after it is exchanged for another one, as long as nothing
comes next in the other one that does not come next in the first.
-/

namespace HalPackages

open Text

namespace Keyword

theorem mem_all (keyword : Keyword) : keyword ∈ all := by
  cases keyword <;> decide

/-- What is spelled like no keyword is none. -/
theorem ofSpelling?_eq_none_iff {text : List Char} :
    ofSpelling? text = none ↔ ∀ keyword : Keyword, keyword.spelling.toList ≠ text := by
  rw [ofSpelling?, List.find?_eq_none]
  exact ⟨fun h keyword => by simpa using h keyword (mem_all keyword),
    fun h keyword _ => by simpa using h keyword⟩

end Keyword

namespace Piece

variable {c : Char} {cs path rest rest' : List Char}

/-! ## What comes next -/

/-- The text starts with characters of the given classes, one after the other. -/
def startsLike : List (Char → Bool) → List Char → Bool
  | [], _ => true
  | _ :: _, [] => false
  | accepts :: others, c :: cs => accepts c && startsLike others cs

@[simp]
theorem startsLike_nil (cs : List Char) : startsLike [] cs = true := by
  cases cs <;> rfl

@[simp]
theorem startsLike_cons_nil (accepts : Char → Bool) (others : List (Char → Bool)) :
    startsLike (accepts :: others) [] = false := rfl

@[simp]
theorem startsLike_cons_cons (accepts : Char → Bool) (others : List (Char → Bool)) (c : Char)
    (cs : List Char) :
    startsLike (accepts :: others) (c :: cs) = (accepts c && startsLike others cs) := rfl

/-- A run of characters of a class ends where none of them comes next. -/
theorem span_append {accepts : Char → Bool} {run : List Char}
    (hrun : ∀ c ∈ run, accepts c = true) (hrest : startsLike [accepts] rest = false) :
    (run ++ rest).takeWhile accepts = run ∧ (run ++ rest).dropWhile accepts = rest := by
  rw [List.takeWhile_append_of_pos hrun, List.dropWhile_append_of_pos hrun]
  cases rest with
  | nil => simp
  | cons c cs =>
      have hc : accepts c = false := by simpa using hrest
      simp [hc]

theorem startsLike_dropWhile (accepts : Char → Bool) (cs : List Char) :
    startsLike [accepts] (cs.dropWhile accepts) = false := by
  cases hdrop : cs.dropWhile accepts with
  | nil => rfl
  | cons c rest =>
      have hc := List.head?_dropWhile_not accepts cs
      rw [hdrop] at hc
      simpa using hc

theorem span_eq_iff {accepts : Char → Bool} {run : List Char} :
    cs.takeWhile accepts = run ∧ cs.dropWhile accepts = rest ↔
      cs = run ++ rest ∧ (∀ c ∈ run, accepts c = true) ∧ startsLike [accepts] rest = false := by
  constructor
  · rintro ⟨rfl, rfl⟩
    exact ⟨List.takeWhile_append_dropWhile.symm, fun _ => List.mem_takeWhile_imp,
      startsLike_dropWhile accepts cs⟩
  · rintro ⟨rfl, hrun, hrest⟩
    exact span_append hrun hrest

theorem takeWhile_eq_nil_iff {accepts : Char → Bool} :
    cs.takeWhile accepts = [] ↔ startsLike [accepts] cs = false := by
  cases cs with
  | nil => simp
  | cons c cs => by_cases hc : accepts c = true <;> simp [hc]

/-! ## Paths -/

/-- A path does not go on in the text: neither with the rest of a word nor with a dot and another
word. -/
structure EndsPath (rest : List Char) : Prop where
  word : startsLike [isWordPart] rest = false
  dot : startsLike [(· == '.'), isWordStart] rest = false

/-- All of the text goes on a path: parts of words, and dots with a word after them. -/
inductive GoesOnPath : List Char → Prop where
  | nil : GoesOnPath []
  | part {c : Char} {cs : List Char} (hpart : isWordPart c = true) (hpath : GoesOnPath cs) :
      GoesOnPath (c :: cs)
  | dot {c : Char} {cs : List Char} (hstart : isWordStart c = true) (hpath : GoesOnPath cs) :
      GoesOnPath ('.' :: c :: cs)

theorem ne_dot_of_isWordPart (h : isWordPart c = true) : c ≠ '.' := by
  rintro rfl
  exact absurd h (by decide)

theorem pathTail_of_isWordPart (h : isWordPart c = true) (cs : List Char) :
    pathTail (c :: cs) = (c :: (pathTail cs).1, (pathTail cs).2) := by
  have hdot := ne_dot_of_isWordPart h
  rw [pathTail.eq_def]
  split
  · contradiction
  · simp_all
  · simp_all
  · simp_all

theorem pathTail_of_isWordStart (h : isWordStart c = true) (cs : List Char) :
    pathTail ('.' :: c :: cs) = ('.' :: c :: (pathTail cs).1, (pathTail cs).2) := by
  rw [pathTail, if_pos h]

theorem pathTail_of_endsPath (h : EndsPath rest) : pathTail rest = ([], rest) := by
  obtain ⟨hword, hdot⟩ := h
  rw [pathTail.eq_def]
  split <;> simp_all

theorem endsPath_pathTail (cs : List Char) : EndsPath (pathTail cs).2 := by
  fun_induction pathTail cs with
  | case1 => exact ⟨rfl, rfl⟩
  | case2 => exact ⟨by decide, rfl⟩
  | case3 c cs _ path rest heq ih => simpa [heq] using ih
  | case4 c cs hstart => exact ⟨by simp [show isWordPart '.' = false by decide], by simp [hstart]⟩
  | case5 c cs _ _ _ path rest heq ih => simpa [heq] using ih
  | case6 c cs hlast hdots hpart =>
      refine ⟨by simp [hpart], ?_⟩
      cases cs with
      | nil => simp
      | cons d cs =>
          have hdot : c ≠ '.' := fun h => hdots d cs h rfl
          simp [hdot]

theorem goesOnPath_pathTail (cs : List Char) : GoesOnPath (pathTail cs).1 := by
  fun_induction pathTail cs with
  | case1 | case2 | case4 | case6 => exact .nil
  | case3 c cs hstart path _ heq ih =>
      rw [heq] at ih
      exact .dot hstart ih
  | case5 c cs _ _ hpart path _ heq ih =>
      rw [heq] at ih
      exact .part hpart ih

theorem pathTail_append_of_goesOnPath (hpath : GoesOnPath path) (hrest : EndsPath rest) :
    pathTail (path ++ rest) = (path, rest) := by
  induction hpath with
  | nil => exact pathTail_of_endsPath hrest
  | part hpart _ ih => rw [List.cons_append, pathTail_of_isWordPart hpart, ih]
  | dot hstart _ ih => rw [List.cons_append, List.cons_append, pathTail_of_isWordStart hstart, ih]

/-- A path goes as far as it can. -/
theorem pathTail_eq_iff :
    pathTail cs = (path, rest) ↔ cs = path ++ rest ∧ GoesOnPath path ∧ EndsPath rest := by
  constructor
  · intro h
    have htext := pathTail_append cs
    have hpath := goesOnPath_pathTail cs
    have hrest := endsPath_pathTail cs
    rw [h] at htext hpath hrest
    exact ⟨htext.symm, hpath, hrest⟩
  · rintro ⟨rfl, hpath, hrest⟩
    exact pathTail_append_of_goesOnPath hpath hrest

/-! ## Versions -/

/-- There is no version where no digit comes after an `@`. -/
theorem versionTail_eq_absent_iff :
    versionTail cs = .absent ↔ startsLike [(· == '@'), Char.isDigit] cs = false := by
  have hdigit {ds : List Char} (hmajor : ds.takeWhile Char.isDigit ≠ []) :
      startsLike [(· == '@'), Char.isDigit] ('@' :: ds) = true := by
    have hfirst : startsLike [Char.isDigit] ds = true := by
      rw [← Bool.not_eq_false, ← takeWhile_eq_nil_iff]
      exact hmajor
    rw [startsLike_cons_cons, hfirst]
    rfl
  fun_cases versionTail cs with
  | case1 ds major hmajor =>
      have hnone := takeWhile_eq_nil_iff.1 hmajor
      simpa using hnone
  | case2 ds major hmajor => simp [hdigit hmajor]
  | case3 ds major hmajor => simp [hdigit hmajor]
  | case4 ds major hmajor => simp [hdigit hmajor]
  | case5 =>
      rename_i hother
      cases cs with
      | nil => simp
      | cons c ds =>
          have hc : c ≠ '@' := fun hc => hother ds (by rw [hc])
          simp [hc]

/-- A version goes as far as its digits. -/
theorem versionTail_eq_present_iff {version : List Char} :
    versionTail cs = .present version rest ↔
      cs = version ++ rest ∧ isVersion version = true ∧ startsLike [Char.isDigit] rest = false := by
  constructor
  · intro h
    have happend := versionTail_append cs
    rw [h] at happend
    refine ⟨happend.symm, ?_⟩
    revert h
    fun_cases versionTail cs with
    | case1 | case2 | case4 | case5 => exact fun h => by contradiction
    | case3 ds major hmajor ms hms minor hminor =>
        intro h
        cases h
        refine ⟨isVersion_iff.2 ⟨major, minor, rfl, ?_, ?_⟩, startsLike_dropWhile _ ms⟩
        · exact isDigits_iff.2 ⟨hmajor, fun _ => List.mem_takeWhile_imp⟩
        · exact isDigits_iff.2 ⟨hminor, fun _ => List.mem_takeWhile_imp⟩
  · rintro ⟨rfl, hversion, hrest⟩
    obtain ⟨major, minor, rfl, hmajor, hminor⟩ := isVersion_iff.1 hversion
    rw [isDigits_iff] at hmajor hminor
    have hdot : startsLike [Char.isDigit] ('.' :: (minor ++ rest)) = false := by
      simp [show Char.isDigit '.' = false by decide]
    obtain ⟨hmajorTake, hmajorDrop⟩ := span_append hmajor.2 hdot
    obtain ⟨hminorTake, hminorDrop⟩ := span_append hminor.2 hrest
    have htext : '@' :: (major ++ '.' :: minor) ++ rest =
        '@' :: (major ++ '.' :: (minor ++ rest)) := by simp
    rw [htext, versionTail]
    simp only [hmajorTake, hmajorDrop, hminorTake, hminorDrop, if_neg hmajor.1, if_neg hminor.1,
      List.cons_append]

/-! ## Names -/

/-- The local part of a name and what comes after it: there is none where no word comes after two
colons, and else it is the colons and a path. -/
inductive LocalPart : List Char → List Char → Prop where
  | absent {rest : List Char}
      (hrest : startsLike [(· == ':'), (· == ':'), isWordStart] rest = false) : LocalPart [] rest
  | present {c : Char} {path rest : List Char} (hstart : isWordStart c = true)
      (hpath : GoesOnPath path) (hrest : EndsPath rest) : LocalPart (':' :: ':' :: c :: path) rest

theorem localTail_eq_iff {localName : List Char} :
    localTail cs = (localName, rest) ↔ cs = localName ++ rest ∧ LocalPart localName rest := by
  constructor
  · intro h
    have happend := localTail_append cs
    rw [h] at happend
    refine ⟨happend.symm, ?_⟩
    revert h
    fun_cases localTail cs with
    | case1 c ds hstart path rest' heq =>
        intro h
        cases h
        obtain ⟨_, hpath, hrest⟩ := pathTail_eq_iff.1 heq
        exact .present hstart hpath hrest
    | case2 c ds hstart =>
        intro h
        cases h
        exact .absent (by simp [hstart])
    | case3 =>
        rename_i hother
        intro h
        cases h
        refine .absent ?_
        cases cs with
        | nil => rfl
        | cons c ds =>
            cases ds with
            | nil => simp
            | cons d es =>
                cases es with
                | nil => simp
                | cons e fs =>
                    have hcolons : c = ':' → d ≠ ':' := by
                      rintro rfl rfl
                      exact hother e fs rfl
                    simpa using fun hc hd => absurd hd (hcolons hc)
  · rintro ⟨rfl, hlocal⟩
    cases hlocal with
    | absent hrest =>
        rw [List.nil_append, localTail.eq_def]
        split
        · rename_i c ds
          have hc : ¬ isWordStart c = true := by simpa using hrest
          rw [if_neg hc]
        · rfl
    | @present c path _ hstart hpath hrest =>
        have htail : pathTail (path ++ rest) = (path, rest) := pathTail_eq_iff.2 ⟨rfl, hpath, hrest⟩
        simp only [List.cons_append, localTail, htail, if_pos hstart]

theorem wordKind_eq_name {text : List Char} (h : Keyword.ofSpelling? text = none)
    (rest : List Char) : wordKind text rest = .name := by
  rw [wordKind, h]

/-- A name that starts with a character: the rest of it, what comes after it, and the kind of token
that it makes. -/
inductive NamePart (c : Char) : List Char → List Char → TokenKind → Prop where
  | versioned {path version localName rest : List Char} (hpath : GoesOnPath path)
      (hversion : isVersion version = true)
      (hdigits : startsLike [Char.isDigit] (localName ++ rest) = false)
      (hlocal : LocalPart localName rest) :
      NamePart c (path ++ (version ++ localName)) rest .name
  | plain {path localName rest : List Char} (hpath : GoesOnPath path)
      (hends : EndsPath (localName ++ rest))
      (habsent : startsLike [(· == '@'), Char.isDigit] (localName ++ rest) = false)
      (hlocal : LocalPart localName rest) :
      NamePart c (path ++ localName) rest (wordKind (c :: (path ++ localName)) rest)

/-- What a version starts with does not go on a path. -/
theorem endsPath_of_isVersion {version : List Char} (h : isVersion version = true)
    (rest : List Char) : EndsPath (version ++ rest) := by
  obtain ⟨major, minor, rfl, _⟩ := isVersion_iff.1 h
  exact ⟨by simp [show isWordPart '@' = false by decide], by simp⟩

theorem nameAt_eq_iff {body : List Char} {kind : TokenKind} :
    nameAt c cs = (⟨.token kind, c :: body⟩, rest) ↔
      cs = body ++ rest ∧ NamePart c body rest kind := by
  constructor
  · intro h
    rcases hpath : pathTail cs with ⟨path, afterPath⟩
    obtain ⟨rfl, hgoes, hends⟩ := pathTail_eq_iff.1 hpath
    cases hversion : versionTail afterPath with
    | incomplete version rest' =>
        simp only [nameAt, hpath, hversion] at h
        cases h
    | present version afterVersion =>
        rcases htail : localTail afterVersion with ⟨localName, rest'⟩
        simp only [nameAt, hpath, hversion, htail] at h
        obtain ⟨rfl, hdigits, hafter⟩ := versionTail_eq_present_iff.1 hversion
        obtain ⟨rfl, hlocal⟩ := localTail_eq_iff.1 htail
        simp only [Prod.mk.injEq, Piece.mk.injEq, PieceKind.token.injEq, List.cons_append,
          List.cons.injEq, true_and, List.append_assoc] at h
        obtain ⟨⟨rfl, rfl⟩, rfl⟩ := h
        exact ⟨by simp, .versioned hgoes hdigits hafter hlocal⟩
    | absent =>
        rcases htail : localTail afterPath with ⟨localName, rest'⟩
        simp only [nameAt, hpath, hversion, htail] at h
        obtain ⟨rfl, hlocal⟩ := localTail_eq_iff.1 htail
        simp only [Prod.mk.injEq, Piece.mk.injEq, PieceKind.token.injEq, List.cons_append,
          List.cons.injEq, true_and] at h
        obtain ⟨⟨rfl, rfl⟩, rfl⟩ := h
        exact ⟨by simp, .plain hgoes hends (versionTail_eq_absent_iff.1 hversion) hlocal⟩
  · rintro ⟨rfl, hname⟩
    cases hname with
    | @versioned path version localName _ hpath hversion hdigits hlocal =>
        have hends := endsPath_of_isVersion hversion (localName ++ rest)
        have htail : pathTail (path ++ (version ++ (localName ++ rest))) =
            (path, version ++ (localName ++ rest)) := pathTail_eq_iff.2 ⟨rfl, hpath, hends⟩
        have hpresent : versionTail (version ++ (localName ++ rest)) =
            .present version (localName ++ rest) :=
          versionTail_eq_present_iff.2 ⟨rfl, hversion, hdigits⟩
        have hlocalTail : localTail (localName ++ rest) = (localName, rest) :=
          localTail_eq_iff.2 ⟨rfl, hlocal⟩
        simp only [List.append_assoc, nameAt, htail, hpresent, hlocalTail, List.cons_append]
    | @plain path localName _ hpath hends habsent hlocal =>
        have htail : pathTail (path ++ (localName ++ rest)) = (path, localName ++ rest) :=
          pathTail_eq_iff.2 ⟨rfl, hpath, hends⟩
        have hnone := versionTail_eq_absent_iff.2 habsent
        have hlocalTail : localTail (localName ++ rest) = (localName, rest) :=
          localTail_eq_iff.2 ⟨rfl, hlocal⟩
        simp only [List.append_assoc, nameAt, htail, hnone, hlocalTail, List.cons_append]

/-! ## Separators -/

/-- The white space that separates tokens. -/
def separators : List Char := [' ', '\t', '\r', '\n', '\x0c']

theorem isSeparator_iff : isSeparator c = true ↔ c ∈ separators := by
  simp [isSeparator, separators, or_assoc]

/-- Whether a class of characters has no separator in it. -/
def rejectsSeparators (accepts : Char → Bool) : Bool :=
  separators.all fun sep => !accepts sep

theorem eq_false_of_rejectsSeparators {accepts : Char → Bool}
    (haccepts : rejectsSeparators accepts = true) (hc : c ∈ separators) : accepts c = false := by
  rw [rejectsSeparators, List.all_eq_true] at haccepts
  simpa using haccepts c hc

theorem isSeparator_eq_false_of_isWordStart (h : isWordStart c = true) :
    isSeparator c = false := by
  have hreject : rejectsSeparators isWordStart = true := by decide
  rw [Bool.eq_false_iff, ne_eq, isSeparator_iff]
  intro hc
  rw [eq_false_of_rejectsSeparators hreject hc] at h
  contradiction

/-- What starts like a word is a name. -/
theorem first_of_isWordStart (h : isWordStart c = true) (cs : List Char) :
    first c cs = nameAt c cs := by
  rw [first, isSeparator_eq_false_of_isWordStart h, h, if_neg Bool.false_ne_true, if_pos rfl]

end Piece

end HalPackages
