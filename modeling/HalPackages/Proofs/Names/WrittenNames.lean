import HalPackages.Proofs.Sources.Readers

/-!
# Written names

What the written form of a name tells about its parts: package and local name are
empty or dotted paths, and the version is empty or a version.  None of them has a
slash in it.  The names in the imports of a source file are written names.
-/

namespace HalPackages

namespace Text

/-! ## Texts between marks -/

section Marks

variable {α : Type} [BEq α] [LawfulBEq α] {mark : α} {text segment : List α}

/-- The first text is the one before the first mark. -/
theorem exists_splitOn_eq_takeWhile_cons (mark : α) (text : List α) :
    ∃ rest, text.splitOn mark = text.takeWhile (· != mark) :: rest := by
  induction text with
  | nil => exact ⟨[], rfl⟩
  | cons x xs ih =>
      obtain ⟨rest, hrest⟩ := ih
      rw [List.splitOn_cons_eq_if_modifyHead, hrest]
      by_cases hx : x = mark
      · exact ⟨xs.takeWhile (· != mark) :: rest, by simp [hx]⟩
      · exact ⟨rest, by simp [hx]⟩

/-- A mark stands in none of the texts. -/
theorem not_mem_of_mem_splitOn (h : segment ∈ text.splitOn mark) : mark ∉ segment := by
  induction text generalizing segment with
  | nil =>
      rw [List.splitOn_nil, List.mem_singleton] at h
      rw [h]
      exact List.not_mem_nil
  | cons x xs ih =>
      obtain ⟨rest, hrest⟩ := exists_splitOn_eq_takeWhile_cons mark xs
      rw [List.splitOn_cons_eq_if_modifyHead] at h
      split at h
      · rcases List.mem_cons.1 h with rfl | h
        · exact List.not_mem_nil
        · exact ih h
      · -- what is not a mark only makes the first text longer
        rename_i hx
        rw [hrest, List.modifyHead_cons] at h
        rw [hrest] at ih
        rcases List.mem_cons.1 h with rfl | h
        · intro hmem
          rcases List.mem_cons.1 hmem with rfl | hmem
          · exact hx BEq.rfl
          · exact ih List.mem_cons_self hmem
        · exact ih (List.mem_cons_of_mem _ h)

/-- What is not a mark stands in one of the texts. -/
theorem exists_mem_splitOn {x : α} (h : x ∈ text) (mark : α) (hx : x ≠ mark) :
    ∃ segment ∈ text.splitOn mark, x ∈ segment := by
  induction text with
  | nil => exact absurd h List.not_mem_nil
  | cons y ys ih =>
      obtain ⟨rest, hrest⟩ := exists_splitOn_eq_takeWhile_cons mark ys
      rw [List.splitOn_cons_eq_if_modifyHead]
      split
      · rename_i hy
        rcases List.mem_cons.1 h with rfl | h
        · exact absurd (LawfulBEq.eq_of_beq hy) hx
        · obtain ⟨segment, hsegment, hmem⟩ := ih h
          exact ⟨segment, List.mem_cons_of_mem _ hsegment, hmem⟩
      · rw [hrest] at ih ⊢
        rw [List.modifyHead_cons]
        rcases List.mem_cons.1 h with rfl | h
        · exact ⟨_, List.mem_cons_self, List.mem_cons_self⟩
        · obtain ⟨segment, hsegment, hmem⟩ := ih h
          rcases List.mem_cons.1 hsegment with rfl | hsegment
          · exact ⟨_, List.mem_cons_self, List.mem_cons_of_mem _ hmem⟩
          · exact ⟨segment, List.mem_cons_of_mem _ hsegment, hmem⟩

end Marks

/-! ## Identifiers and versions -/

theorem ne_nil_of_isIdentifier {text : List Char} (h : isIdentifier text = true) : text ≠ [] := by
  rintro rfl
  contradiction

theorem isContinue_of_mem_of_isIdentifier {text : List Char} (h : isIdentifier text = true)
    {c : Char} (hc : c ∈ text) : isContinue c = true := by
  cases text with
  | nil => contradiction
  | cons first rest =>
      rw [isIdentifier, Bool.and_eq_true, Bool.or_eq_true, beq_iff_eq, List.all_eq_true] at h
      rcases List.mem_cons.1 hc with rfl | hc
      · rcases h.1 with rfl | hstart
        · decide
        · exact isContinue_of_isStart hstart
      · exact h.2 c hc

theorem dot_notMem_of_isIdentifier {text : List Char} (h : isIdentifier text = true) :
    '.' ∉ text :=
  fun hdot => absurd (isContinue_of_mem_of_isIdentifier h hdot) (by decide)

theorem slash_notMem_of_isIdentifier {text : List Char} (h : isIdentifier text = true) :
    '/' ∉ text :=
  fun hslash => absurd (isContinue_of_mem_of_isIdentifier h hslash) (by decide)

/-- Identifiers with dots between them. -/
def IsDotted (path : List Char) : Prop :=
  ∀ segment ∈ path.splitOn '.', isIdentifier segment = true

theorem IsDotted.slash_notMem {path : List Char} (h : IsDotted path) : '/' ∉ path := by
  intro hslash
  obtain ⟨segment, hsegment, hmem⟩ := exists_mem_splitOn hslash '.' (by decide)
  exact slash_notMem_of_isIdentifier (h segment hsegment) hmem

/-- What follows a dot in a dotted path is a dotted path. -/
theorem IsDotted.of_append {front rest : List Char} (h : IsDotted (front ++ '.' :: rest)) :
    IsDotted rest := by
  intro segment hsegment
  apply h segment
  rw [List.splitOn_append_cons_self]
  exact List.mem_append_right _ hsegment

theorem isDigits_iff {text : List Char} :
    isDigits text = true ↔ text ≠ [] ∧ ∀ c ∈ text, c.isDigit = true := by
  simp [isDigits]

end Text

open Text

/-- The text of a version: `@`, digits, a dot, digits. -/
theorem exists_digits_of_isVersion {version : List Char} (h : isVersion version = true) :
    ∃ major minor, version = '@' :: (major ++ '.' :: minor) ∧
      isDigits major = true ∧ isDigits minor = true := by
  rw [isVersion] at h
  split at h
  · rename_i major minor hparts
    rw [Bool.and_eq_true] at h
    obtain ⟨rest, hrest, hsplit⟩ := Option.bind_eq_some_iff.1 hparts
    refine ⟨major, minor, ?_, h.1, h.2⟩
    have htext := append_of_splitFirst hsplit
    rw [List.append_assoc] at htext
    rw [afterMark?_eq_some_iff.1 hrest, ← htext]
    rfl
  · contradiction

namespace QualifiedName

variable {name : QualifiedName}

/-- A name that some text writes. -/
def IsWritten (name : QualifiedName) : Prop :=
  ∃ text, parse text = .ok name

/-- A local name alone, or a version with a package, with a local name, with both or with
neither. -/
inductive IsWellFormed (name : QualifiedName) : Prop where
  | bare (hpackage : name.package = "") (hversion : name.version = "")
      (hlocal : IsDotted name.localName.toList)
  | versioned (hpackage : name.package = "" ∨ IsDotted name.package.toList)
      (hversion : isVersion name.version.toList = true)
      (hlocal : name.localName = "" ∨ IsDotted name.localName.toList)

theorem IsWellFormed.package_isDotted (h : name.IsWellFormed) :
    name.package = "" ∨ IsDotted name.package.toList := by
  cases h with
  | bare hpackage => exact Or.inl hpackage
  | versioned hpackage => exact hpackage

theorem IsWellFormed.isVersion_version (h : name.IsWellFormed) :
    name.version = "" ∨ isVersion name.version.toList = true := by
  cases h with
  | bare _ hversion => exact Or.inl hversion
  | versioned _ hversion => exact Or.inr hversion

theorem IsWellFormed.localName_isDotted (h : name.IsWellFormed) :
    name.localName = "" ∨ IsDotted name.localName.toList := by
  cases h with
  | bare _ _ hlocal => exact Or.inr hlocal
  | versioned _ _ hlocal => exact hlocal

theorem checkPath_eq_ok_iff {text path : List Char} :
    checkPath text path = .ok () ↔ IsDotted path := by
  rw [IsDotted, ← badSegment?_eq_none_iff, checkPath]
  split
  · rename_i segment hbad
    rw [hbad]
    exact ⟨fun h => (by contradiction), fun h => (by contradiction)⟩
  · rename_i hgood
    exact ⟨fun _ => hgood, fun _ => rfl⟩

/-- The parts of a text are checked one after the other. -/
theorem ofParts_eq (text package version localName : List Char) :
    ofParts text package version localName = (do
      (if package = [] then .ok () else checkPath text package)
      (if isVersion version then .ok ()
        else .error (.invalidVersion (String.ofList text) (String.ofList version)))
      (if localName = [] then .ok () else checkPath text localName)
      .ok ⟨String.ofList package, String.ofList version, String.ofList localName⟩) := by
  unfold ofParts
  by_cases hpackage : package = [] <;> by_cases hlocal : localName = [] <;>
    cases hversion : isVersion version <;>
    simp only [hpackage, hlocal, ne_eq, not_true_eq_false, not_false_eq_true, if_true, if_false,
      Bool.not_false, Bool.not_true, Bool.false_eq_true] <;> rfl

/-- A text that has an `@` and can be read has a version, and the other two parts are left out or
dotted paths. -/
theorem isWellFormed_of_ofParts {text package version localName : List Char}
    (h : ofParts text package version localName = .ok name) : name.IsWellFormed := by
  have hpath {path : List Char}
      (hcheck : (if path = [] then .ok () else checkPath text path) = .ok ()) :
      String.ofList path = "" ∨ IsDotted (String.ofList path).toList := by
    split at hcheck
    · rename_i hempty
      rw [hempty]
      exact Or.inl rfl
    · rw [String.toList_ofList]
      exact Or.inr (checkPath_eq_ok_iff.1 hcheck)
  rw [ofParts_eq] at h
  obtain ⟨_, hpackage, h⟩ := except_bind_eq_ok.1 h
  obtain ⟨_, hversion, h⟩ := except_bind_eq_ok.1 h
  obtain ⟨_, hlocal, h⟩ := except_bind_eq_ok.1 h
  cases h
  refine .versioned (hpath hpackage) ?_ (hpath hlocal)
  rw [String.toList_ofList]
  split at hversion
  · assumption
  · contradiction

theorem isWellFormed_of_ofChars {text : List Char} (h : ofChars text = .ok name) :
    name.IsWellFormed := by
  rw [ofChars] at h
  split at h
  · contradiction
  · split at h
    · obtain ⟨_, hlocal, h⟩ := except_bind_eq_ok.1 h
      cases h
      refine .bare rfl rfl ?_
      rw [String.toList_ofList]
      exact checkPath_eq_ok_iff.1 hlocal
    · split at h
      · exact isWellFormed_of_ofParts h
      · contradiction
      · exact isWellFormed_of_ofParts h

theorem IsWritten.isWellFormed (h : name.IsWritten) : name.IsWellFormed := by
  obtain ⟨text, htext⟩ := h
  exact isWellFormed_of_ofChars htext

end QualifiedName

/-! ## Names in source files -/

/-- The imports of a source file are written names. -/
theorem SourceFile.isWritten_of_mem_imports {text : String} {file : SourceFile}
    (h : parse text = .ok file) {name : QualifiedName} (hname : name ∈ file.imports) :
    name.IsWritten := by
  obtain ⟨tokens, _, h⟩ := exists_tokens_of_parse h
  obtain ⟨⟨_, afterPackage⟩, _, h⟩ := except_bind_eq_ok.1 h
  obtain ⟨⟨imports, afterImports⟩, himports, h⟩ := except_bind_eq_ok.1 h
  obtain ⟨_, _, h⟩ := except_bind_eq_ok.1 h
  cases h
  obtain ⟨lines, _, hlines, _⟩ := importLines_eq_ok_iff.1 himports
  obtain ⟨token, _, _, hparse⟩ := hlines.exists_token name hname
  exact ⟨token.text, hparse⟩

end HalPackages
