import HalPackages.Proofs.Names.WrittenNames

/-!
# Reading and writing names

A text is read as a name exactly if the name is well formed and the text, without
the white space around it, is its written form.  So a well-formed name is read back
from its written form, and no other name has the same one.
-/

namespace HalPackages

namespace Text

theorem ofList_ne_empty {text : List Char} (h : text ≠ []) : String.ofList text ≠ "" := by
  intro hempty
  exact h (String.ofList_injective hempty)

/-! ## Characters that no identifier has -/

theorem isContinue_eq_false_of_isBlank {c : Char} (h : isBlank c = true) :
    isContinue c = false := by
  have hranges : ∀ range ∈ blankTable.ranges,
      ∀ n ∈ List.range' range.1 (range.2 + 1 - range.1),
        startTable.contains n = false ∧ tailTable.contains n = false := by decide +kernel
  obtain ⟨range, hrange, hlow, hhigh⟩ := (blankTable.contains_iff c.toNat).1 h
  obtain ⟨hstart, htail⟩ := hranges range hrange c.toNat (List.mem_range'_1.2 (by omega))
  rw [isContinue, isStart, hstart, htail, Bool.or_false]

theorem isBlank_eq_false_of_isDigit {c : Char} (h : c.isDigit = true) : isBlank c = false := by
  have hranges : ∀ range ∈ blankTable.ranges, range.2 < '0'.toNat ∨ '9'.toNat < range.1 := by
    decide
  rw [Char.isDigit_iff_toNat] at h
  rw [Bool.eq_false_iff]
  intro hblank
  obtain ⟨range, hrange, hlow, hhigh⟩ := (blankTable.contains_iff c.toNat).1 hblank
  have hapart := hranges range hrange
  omega

/-- A dotted path has only dots and characters that go on an identifier. -/
theorem IsDotted.isContinue_of_mem {path : List Char} (h : IsDotted path) {c : Char}
    (hmem : c ∈ path) (hdot : c ≠ '.') : isContinue c = true := by
  obtain ⟨segment, hsegment, hc⟩ := exists_mem_splitOn hmem '.' hdot
  exact isContinue_of_mem_of_isIdentifier (h segment hsegment) hc

theorem IsDotted.notMem {path : List Char} (h : IsDotted path) {c : Char} (hdot : c ≠ '.')
    (hc : isContinue c = false) : c ∉ path := by
  intro hmem
  rw [h.isContinue_of_mem hmem hdot] at hc
  contradiction

theorem IsDotted.ne_nil {path : List Char} (h : IsDotted path) : path ≠ [] := by
  rintro rfl
  exact absurd (h [] (by simp)) (by decide)

theorem IsDotted.isBlank_eq_false {path : List Char} (h : IsDotted path) {c : Char}
    (hmem : c ∈ path) : isBlank c = false := by
  by_cases hdot : c = '.'
  · subst hdot
    decide
  · rw [Bool.eq_false_iff]
    intro hblank
    exact h.notMem hdot (isContinue_eq_false_of_isBlank hblank) hmem

/-! ## Splitting where the mark is known to stand -/

variable {α : Type} [BEq α] [LawfulBEq α]

theorem splitFirst_append_of_notMem {m : α} {mark before after : List α} (h : m ∉ before) :
    splitFirst (m :: mark) (before ++ (m :: mark ++ after)) = some (before, after) := by
  induction before with
  | nil =>
      have hmark : afterMark? (m :: mark) (m :: (mark ++ after)) = some after :=
        afterMark?_eq_some_iff.2 rfl
      rw [List.nil_append, List.cons_append, splitFirst, hmark]
  | cons x before ih =>
      have hx : ¬ (m == x) = true := fun heq => h (by simp [LawfulBEq.eq_of_beq heq])
      have hnone : afterMark? (m :: mark) (x :: (before ++ (m :: mark ++ after))) = none := by
        rw [afterMark?_cons_cons, if_neg hx]
      rw [List.cons_append, splitFirst, hnone, ih fun hmem => h (List.mem_cons_of_mem x hmem)]
      rfl

theorem splitFirst_eq_none_of_notMem {m : α} {mark text : List α} (h : m ∉ text) :
    splitFirst (m :: mark) text = none :=
  splitFirst_eq_none_iff.2 fun hmark => h (hmark.subset List.mem_cons_self)

end Text

open Text

/-- The parts of a version stand after its `@`, on both sides of the first dot. -/
theorem versionParts?_eq_some_iff {version major minor : List Char} :
    versionParts? version = some (major, minor) ↔
      version = '@' :: (major ++ '.' :: minor) ∧ '.' ∉ major := by
  constructor
  · intro h
    obtain ⟨rest, hrest, hsplit⟩ := Option.bind_eq_some_iff.1 h
    have htext := append_of_splitFirst hsplit
    refine ⟨?_, ?_⟩
    · rw [afterMark?_eq_some_iff.1 hrest, ← htext, List.append_assoc]
      rfl
    · intro hdot
      obtain ⟨before, after, rfl⟩ := List.append_of_mem hdot
      apply not_isPrefix_of_splitFirst hsplit (n := before.length) (by simp)
      rw [← htext]
      simp
  · rintro ⟨rfl, hdot⟩
    have hmark : afterMark? ['@'] ('@' :: (major ++ '.' :: minor)) =
        some (major ++ '.' :: minor) := afterMark?_eq_some_iff.2 rfl
    rw [versionParts?, hmark]
    exact splitFirst_append_of_notMem hdot

/-- A version is `@`, digits, a dot and digits. -/
theorem isVersion_iff {version : List Char} :
    isVersion version = true ↔ ∃ major minor, version = '@' :: (major ++ '.' :: minor) ∧
      isDigits major = true ∧ isDigits minor = true := by
  constructor
  · exact exists_digits_of_isVersion
  · rintro ⟨major, minor, rfl, hmajor, hminor⟩
    have hdot : '.' ∉ major := fun hmem => absurd ((isDigits_iff.1 hmajor).2 '.' hmem) (by decide)
    rw [isVersion, versionParts?_eq_some_iff.2 ⟨rfl, hdot⟩]
    simp [hmajor, hminor]

theorem ne_nil_of_isVersion {version : List Char} (h : isVersion version = true) :
    version ≠ [] := by
  obtain ⟨major, minor, rfl, _⟩ := isVersion_iff.1 h
  exact List.cons_ne_nil _ _

theorem mem_of_isVersion {version : List Char} (h : isVersion version = true) {c : Char}
    (hmem : c ∈ version) : c = '@' ∨ c = '.' ∨ c.isDigit = true := by
  obtain ⟨major, minor, rfl, hmajor, hminor⟩ := isVersion_iff.1 h
  rw [isDigits_iff] at hmajor hminor
  rcases List.mem_cons.1 hmem with rfl | hmem
  · exact Or.inl rfl
  · rcases List.mem_append.1 hmem with hmem | hmem
    · exact Or.inr (Or.inr (hmajor.2 c hmem))
    · rcases List.mem_cons.1 hmem with rfl | hmem
      · exact Or.inr (Or.inl rfl)
      · exact Or.inr (Or.inr (hminor.2 c hmem))

namespace QualifiedName

variable {name : QualifiedName}

/-! ## The written form -/

/-- What the local name adds to the written form of a package and a version. -/
def localForm (localName : String) : List Char :=
  if localName = "" then [] else ':' :: ':' :: localName.toList

theorem localForm_of_ne_nil {localName : List Char} (h : localName ≠ []) :
    localForm (String.ofList localName) = ':' :: ':' :: localName := by
  rw [localForm, if_neg (ofList_ne_empty h), String.toList_ofList]

theorem render_of_bare (hpackage : name.package = "") (hversion : name.version = "") :
    name.render = name.localName := by
  rw [render, hpackage, hversion]
  by_cases hlocal : name.localName = ""
  · rw [if_pos hlocal, hlocal]
    rfl
  · rw [if_neg hlocal]
    exact if_pos rfl

theorem toList_render_of_version (hversion : name.version ≠ "") :
    name.render.toList =
      name.package.toList ++ (name.version.toList ++ localForm name.localName) := by
  have hpackage : name.package ++ name.version ≠ "" := by
    intro hempty
    exact hversion (String.append_eq_empty_iff.1 hempty).2
  rw [render, localForm]
  by_cases hlocal : name.localName = ""
  · rw [if_pos hlocal, if_pos hlocal, String.toList_append, List.append_nil]
  · rw [if_neg hlocal, if_neg hlocal, if_neg hpackage]
    simp

/-- A text with an `@` is read part by part. -/
theorem ofParts_eq_ok_iff {text package version localName : List Char} :
    ofParts text package version localName = .ok name ↔
      (package = [] ∨ IsDotted package) ∧ isVersion version = true ∧
        (localName = [] ∨ IsDotted localName) ∧
          name = ⟨String.ofList package, String.ofList version, String.ofList localName⟩ := by
  have hpath (path : List Char) :
      (if path = [] then Except.ok () else checkPath text path) = .ok () ↔
        path = [] ∨ IsDotted path := by
    by_cases hempty : path = []
    · simp [hempty]
    · simp [hempty, checkPath_eq_ok_iff]
  have hcheck : (if isVersion version = true then Except.ok ()
      else .error (NameError.invalidVersion (String.ofList text) (String.ofList version))) =
        .ok () ↔ isVersion version = true := by
    cases isVersion version <;> simp
  rw [ofParts_eq]
  constructor
  · intro h
    obtain ⟨_, hpackage, h⟩ := except_bind_eq_ok.1 h
    obtain ⟨_, hversion, h⟩ := except_bind_eq_ok.1 h
    obtain ⟨_, hlocal, h⟩ := except_bind_eq_ok.1 h
    exact ⟨(hpath package).1 hpackage, hcheck.1 hversion, (hpath localName).1 hlocal,
      (Except.ok.inj h).symm⟩
  · rintro ⟨hpackage, hversion, hlocal, rfl⟩
    rw [(hpath package).2 hpackage, hcheck.2 hversion, (hpath localName).2 hlocal]
    rfl

/-- Reading a text gives a well-formed name, whose written form is the text. -/
theorem render_of_ofChars {text : List Char} (h : ofChars text = .ok name) :
    name.render.toList = text := by
  rw [ofChars] at h
  split at h
  · contradiction
  · split at h
    · obtain ⟨_, _, h⟩ := except_bind_eq_ok.1 h
      cases h
      rw [render_of_bare rfl rfl, String.toList_ofList]
    · have hparts {version localName : List Char}
          (h : ofParts text (text.takeWhile (· != '@')) version localName = .ok name)
          (htext : text.dropWhile (· != '@') = version ++ localForm (String.ofList localName)) :
          name.render.toList = text := by
        obtain ⟨_, hversion, _, rfl⟩ := ofParts_eq_ok_iff.1 h
        have hne : String.ofList version ≠ "" := ofList_ne_empty (ne_nil_of_isVersion hversion)
        rw [toList_render_of_version hne, String.toList_ofList, String.toList_ofList, ← htext,
          List.takeWhile_append_dropWhile]
      split at h
      · rename_i hnone
        refine hparts h ?_
        simp [localForm]
      · contradiction
      · rename_i version localName hempty hsplit
        have hne : localName ≠ [] := fun h => hempty h
        refine hparts h ?_
        rw [localForm_of_ne_nil hne, ← append_of_splitFirst hsplit, List.append_assoc]
        rfl

theorem at_notMem_of_isDotted {path : List Char} (h : IsDotted path) : '@' ∉ path :=
  h.notMem (by decide) (by decide)

/-- A local name alone is read as such. -/
theorem ofChars_of_isDotted {text : List Char} (h : IsDotted text) :
    ofChars text = .ok ⟨"", "", String.ofList text⟩ := by
  have hnone : text.dropWhile (· != '@') = [] := by
    rw [← List.append_nil text, List.dropWhile_append_of_pos]
    · rfl
    · intro c hc
      rw [bne_iff_ne]
      rintro rfl
      exact at_notMem_of_isDotted h hc
  rw [ofChars, if_neg h.ne_nil, hnone]
  dsimp only
  rw [checkPath_eq_ok_iff.2 h]
  rfl

/-- The first `@` ends the package. -/
theorem takeWhile_dropWhile_of_at {package : List Char} (hpackage : '@' ∉ package)
    (rest : List Char) :
    (package ++ '@' :: rest).takeWhile (· != '@') = package ∧
      (package ++ '@' :: rest).dropWhile (· != '@') = '@' :: rest := by
  have hfront : ∀ c ∈ package, (c != '@') = true := by
    intro c hc
    rw [bne_iff_ne]
    rintro rfl
    exact hpackage hc
  rw [List.takeWhile_append_of_pos hfront, List.dropWhile_append_of_pos hfront]
  simp

theorem ofChars_of_at {package rest : List Char} (hpackage : '@' ∉ package)
    (hsplit : splitFirst [':', ':'] ('@' :: rest) = none) :
    ofChars (package ++ '@' :: rest) =
      ofParts (package ++ '@' :: rest) package ('@' :: rest) [] := by
  have hne : package ++ '@' :: rest ≠ [] :=
    List.append_ne_nil_of_right_ne_nil _ (List.cons_ne_nil _ _)
  obtain ⟨htake, hdrop⟩ := takeWhile_dropWhile_of_at hpackage rest
  simp only [ofChars, if_neg hne, htake, hdrop, hsplit]

theorem ofChars_of_colons {package rest version localName : List Char} {c : Char}
    (hpackage : '@' ∉ package)
    (hsplit : splitFirst [':', ':'] ('@' :: rest) = some (version, c :: localName)) :
    ofChars (package ++ '@' :: rest) =
      ofParts (package ++ '@' :: rest) package version (c :: localName) := by
  have hne : package ++ '@' :: rest ≠ [] :=
    List.append_ne_nil_of_right_ne_nil _ (List.cons_ne_nil _ _)
  obtain ⟨htake, hdrop⟩ := takeWhile_dropWhile_of_at hpackage rest
  simp only [ofChars, if_neg hne, htake, hdrop, hsplit]

/-- A version is read as such, and so are the paths before and after it. -/
theorem ofChars_of_isVersion {package version : List Char} {localName : String}
    (hpackage : package = [] ∨ IsDotted package) (hversion : isVersion version = true)
    (hlocal : localName = "" ∨ IsDotted localName.toList) :
    ofChars (package ++ (version ++ localForm localName)) =
      .ok ⟨String.ofList package, String.ofList version, localName⟩ := by
  have hat : '@' ∉ package := by
    rcases hpackage with rfl | hdotted
    · exact List.not_mem_nil
    · exact at_notMem_of_isDotted hdotted
  have hcolon : ':' ∉ version := fun hmem =>
    absurd (mem_of_isVersion hversion hmem) (by decide)
  have hparts (text written : List Char) (hwritten : written = [] ∨ IsDotted written) :
      ofParts text package version written =
        .ok ⟨String.ofList package, String.ofList version, String.ofList written⟩ :=
    ofParts_eq_ok_iff.2 ⟨hpackage, hversion, hwritten, rfl⟩
  obtain ⟨major, minor, hrest, _⟩ := isVersion_iff.1 hversion
  by_cases hempty : localName = ""
  · have hsplit : splitFirst [':', ':'] version = none := splitFirst_eq_none_of_notMem hcolon
    subst hempty
    rw [localForm, if_pos rfl, List.append_nil]
    rw [hrest] at hsplit ⊢
    rw [ofChars_of_at hat hsplit, ← hrest]
    exact hparts _ [] (Or.inl rfl)
  · have hdotted : IsDotted localName.toList := hlocal.resolve_left hempty
    obtain ⟨c, cs, hcons⟩ := List.exists_cons_of_ne_nil hdotted.ne_nil
    have hsplit : splitFirst [':', ':'] (version ++ localForm localName) =
        some (version, c :: cs) := by
      rw [localForm, if_neg hempty, hcons]
      exact splitFirst_append_of_notMem hcolon
    have hread := hparts (package ++ (version ++ localForm localName)) localName.toList
      (Or.inr hdotted)
    rw [String.ofList_toList, hcons] at hread
    rw [hrest, List.cons_append] at hsplit hread ⊢
    rw [ofChars_of_colons hat hsplit]
    exact hread

/-- The written form of a well-formed name is read as the name. -/
theorem ofChars_render (h : name.IsWellFormed) : ofChars name.render.toList = .ok name := by
  obtain ⟨package, version, localName⟩ := name
  cases h with
  | bare hpackage hversion hlocal =>
      dsimp only at hpackage hversion hlocal
      subst hpackage hversion
      rw [render_of_bare rfl rfl, ofChars_of_isDotted hlocal, String.ofList_toList]
  | versioned hpackage hversion hlocal =>
      dsimp only at hpackage hversion hlocal
      have hne : version ≠ "" := by
        rintro rfl
        contradiction
      have hpath : package.toList = [] ∨ IsDotted package.toList :=
        hpackage.imp_left fun hempty => by rw [hempty]; rfl
      rw [toList_render_of_version hne, ofChars_of_isVersion hpath hversion hlocal,
        String.ofList_toList, String.ofList_toList]

theorem isBlank_eq_false_of_mem_render (h : name.IsWellFormed) {c : Char}
    (hmem : c ∈ name.render.toList) : isBlank c = false := by
  cases h with
  | bare hpackage hversion hlocal =>
      rw [render_of_bare hpackage hversion] at hmem
      exact hlocal.isBlank_eq_false hmem
  | versioned hpackage hversion hlocal =>
      have hpath {path : String} (hpath : path = "" ∨ IsDotted path.toList)
          (hmem : c ∈ path.toList) : isBlank c = false := by
        rcases hpath with rfl | hdotted
        · exact absurd hmem List.not_mem_nil
        · exact hdotted.isBlank_eq_false hmem
      have hne : name.version ≠ "" := by
        intro hempty
        rw [hempty] at hversion
        contradiction
      rw [toList_render_of_version hne] at hmem
      rcases List.mem_append.1 hmem with hmem | hmem
      · exact hpath hpackage hmem
      · rcases List.mem_append.1 hmem with hmem | hmem
        · rcases mem_of_isVersion hversion hmem with rfl | rfl | hdigit
          · decide
          · decide
          · exact isBlank_eq_false_of_isDigit hdigit
        · rw [localForm] at hmem
          split at hmem
          · contradiction
          · simp only [List.mem_cons] at hmem
            rcases hmem with rfl | rfl | hmem
            · decide
            · decide
            · exact hpath hlocal hmem

/-- No white space is lost from a written form. -/
theorem trim_render (h : name.IsWellFormed) : trim name.render.toList = name.render.toList :=
  trim_eq_self
    (fun _ hc => isBlank_eq_false_of_mem_render h (List.mem_of_head? hc))
    (fun _ hc => isBlank_eq_false_of_mem_render h (List.mem_of_getLast? hc))

/-- A well-formed name is read back from its written form. -/
theorem parse_render (h : name.IsWellFormed) : parse name.render = .ok name := by
  rw [parse, trim_render h]
  exact ofChars_render h

theorem isWellFormed_iff : name.IsWellFormed ↔
    (name.package = "" ∧ name.version = "" ∧ IsDotted name.localName.toList) ∨
      ((name.package = "" ∨ IsDotted name.package.toList) ∧
        (∃ major minor, name.version.toList = '@' :: (major ++ '.' :: minor) ∧
          isDigits major = true ∧ isDigits minor = true) ∧
        (name.localName = "" ∨ IsDotted name.localName.toList)) := by
  rw [← isVersion_iff]
  constructor
  · rintro (⟨hpackage, hversion, hlocal⟩ | ⟨hpackage, hversion, hlocal⟩)
    · exact Or.inl ⟨hpackage, hversion, hlocal⟩
    · exact Or.inr ⟨hpackage, hversion, hlocal⟩
  · rintro (⟨hpackage, hversion, hlocal⟩ | ⟨hpackage, hversion, hlocal⟩)
    · exact .bare hpackage hversion hlocal
    · exact .versioned hpackage hversion hlocal

/-- Reading and writing are inverse to each other: a text is read as a name exactly if the name is
well formed and the text is its written form, up to white space around it. -/
theorem parse_eq_ok_iff_render (text : String) (name other : QualifiedName) :
    (parse text = .ok name ↔
        ((name.package = "" ∧ name.version = "" ∧ IsDotted name.localName.toList) ∨
          ((name.package = "" ∨ IsDotted name.package.toList) ∧
            (∃ major minor, name.version.toList = '@' :: (major ++ '.' :: minor) ∧
              isDigits major = true ∧ isDigits minor = true) ∧
            (name.localName = "" ∨ IsDotted name.localName.toList))) ∧
          trim text.toList = name.render.toList) ∧
      (name.IsWellFormed → parse name.render = .ok name) ∧
      (parse text = .ok name → name.render = String.ofList (trim text.toList)) ∧
      (name.IsWellFormed → other.IsWellFormed → name.render = other.render → name = other) := by
  rw [← isWellFormed_iff]
  refine ⟨⟨?_, ?_⟩, parse_render, ?_, ?_⟩
  · intro h
    exact ⟨isWellFormed_of_ofChars h, (render_of_ofChars h).symm⟩
  · rintro ⟨hname, htext⟩
    rw [parse, htext]
    exact ofChars_render hname
  · intro h
    rw [← render_of_ofChars h, String.ofList_toList]
  · intro hname hother heq
    have hsame := parse_render hname
    rw [heq, parse_render hother] at hsame
    exact (Except.ok.inj hsame).symm

/-- A nested type of an interface, read with a blank before and a line break after it, and the
types of another version. -/
theorem parse_status_iff_render :
    parse " android.nfc@1.0::INfc.Status\n" = .ok ⟨"android.nfc", "@1.0", "INfc.Status"⟩ ∧
      QualifiedName.IsWellFormed ⟨"android.nfc", "@1.0", "INfc.Status"⟩ ∧
      QualifiedName.IsWellFormed ⟨"", "@1.1", "types"⟩ ∧
      parse "android.nfc@1.0::INfc.Status" = .ok ⟨"android.nfc", "@1.0", "INfc.Status"⟩ ∧
      render ⟨"android.nfc", "@1.0", "INfc.Status"⟩ ≠ render ⟨"", "@1.1", "types"⟩ := by
  have hstatus : parse " android.nfc@1.0::INfc.Status\n" =
      .ok ⟨"android.nfc", "@1.0", "INfc.Status"⟩ := rfl
  have htypes : QualifiedName.IsWellFormed ⟨"", "@1.1", "types"⟩ :=
    IsWritten.isWellFormed ⟨"@1.1::types", rfl⟩
  obtain ⟨hread, hback, hwritten, hinjective⟩ := parse_eq_ok_iff_render
    " android.nfc@1.0::INfc.Status\n" ⟨"android.nfc", "@1.0", "INfc.Status"⟩ ⟨"", "@1.1", "types"⟩
  have hwellFormed := isWellFormed_iff.2 (hread.1 hstatus).1
  exact ⟨hstatus, hwellFormed, htypes, hback hwellFormed, fun heq =>
    absurd (hinjective hwellFormed htypes heq) (by decide)⟩

end QualifiedName

end HalPackages
