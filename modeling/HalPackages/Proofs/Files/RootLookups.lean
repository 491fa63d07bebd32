import HalPackages.Proofs.Files.Layout

/-!
# The root of a package

A root is looked for by comparing texts, and what is found is a matter of segments: it
is the first root of the table whose prefix is made of the first segments of the
package.  A root that is found stays the one that is found when others are added after
it, and so does everything that is said about a package on the strength of its root.
-/

namespace HalPackages

/-! ## Segments of prefixes -/

namespace Text

theorem intercalate_append {α : Type} (mark : List α) {first rest : List (List α)}
    (hfirst : first ≠ []) (hrest : rest ≠ []) :
    mark.intercalate (first ++ rest) = mark.intercalate first ++ mark ++ mark.intercalate rest := by
  induction first with
  | nil => contradiction
  | cons text others ih =>
      by_cases hothers : others = []
      · rw [hothers, List.singleton_append, List.intercalate_cons_of_ne_nil hrest,
          List.intercalate_singleton]
      · have hrest' : others ++ rest ≠ [] := List.append_ne_nil_of_right_ne_nil _ hrest
        rw [List.cons_append, List.intercalate_cons_of_ne_nil hrest', ih hothers,
          List.intercalate_cons_of_ne_nil hothers]
        simp only [List.append_assoc]

/-- The segments of a text are the first ones of another text if the other is the text itself or
goes on with a dot after it. -/
theorem splitOn_isPrefix_iff {front text : List Char} :
    front.splitOn '.' <+: text.splitOn '.' ↔
      text = front ∨ ∃ below, text = front ++ '.' :: below := by
  constructor
  · rintro ⟨rest, hrest⟩
    have htext : ['.'].intercalate (front.splitOn '.' ++ rest) = text := by
      rw [hrest, List.intercalate_splitOn]
    by_cases hnone : rest = []
    · left
      rw [← htext, hnone, List.append_nil, List.intercalate_splitOn]
    · right
      refine ⟨['.'].intercalate rest, ?_⟩
      rw [← htext, intercalate_append _ (List.splitOn_ne_nil _ _) hnone,
        List.intercalate_splitOn, List.append_assoc]
      rfl
  · rintro (rfl | ⟨below, rfl⟩)
    · exact List.prefix_refl _
    · rw [List.splitOn_append_cons_self]
      exact List.prefix_append _ _

end Text

namespace PackageRoot

variable {root : PackageRoot} {package : String}

/-- The segments of the root's prefix are the first segments of the package. -/
def StartsSegments (root : PackageRoot) (package : String) : Prop :=
  root.package.toList.splitOn '.' <+: package.toList.splitOn '.'

theorem covers_iff : root.covers package = true ↔ root.StartsSegments package := by
  rw [StartsSegments, Text.splitOn_isPrefix_iff, covers, below?]
  have hbelow (rest : List Char) :
      Text.afterMark? root.package.toList package.toList = some rest ↔
        package.toList = root.package.toList ++ rest := Text.afterMark?_eq_some_iff
  rcases hafter : Text.afterMark? root.package.toList package.toList with _ | _ | ⟨c, rest⟩
  · have hnot (rest : List Char) : package.toList ≠ root.package.toList ++ rest := by
      intro h
      rw [(hbelow rest).2 h] at hafter
      contradiction
    have hself : package.toList ≠ root.package.toList := by
      simpa using hnot []
    simp [hself, hnot]
  · have hself := (hbelow []).1 hafter
    simp only [Option.isSome_some, true_iff]
    left
    rw [hself, List.append_nil]
  · have hlonger := (hbelow (c :: rest)).1 hafter
    by_cases hdot : c = '.'
    · subst hdot
      simp only [Option.isSome_some, true_iff]
      exact Or.inr ⟨rest, hlonger⟩
    · simp [hlonger, hdot]

/-- Nothing is left of a package below a root if the package is the root's prefix, with or without a
dot after it. -/
theorem suffix?_eq_none_iff (h : root.StartsSegments package) :
    root.suffix? package = none ↔ package = root.package ∨ package = root.package ++ "." := by
  have hsuffix (suffix : List Char) : root.suffix? package = some suffix ↔
      suffix ≠ [] ∧ package.toList = root.package.toList ++ '.' :: suffix := suffix?_eq_some_iff
  rw [← String.toList_inj, ← String.toList_inj, String.toList_append,
    Option.eq_none_iff_forall_ne_some]
  simp only [ne_eq, hsuffix, not_and]
  rcases Text.splitOn_isPrefix_iff.1 h with hself | ⟨below, hbelow⟩
  · simp [hself]
  · rw [hbelow]
    by_cases hnone : below = []
    · simp [hnone]
    · simp [hnone]

end PackageRoot

namespace PackageRoots

variable {roots : PackageRoots} {root : PackageRoot} {name : QualifiedName} {relative : Bool}

/-! ## The first root -/

/-- The root is the first one in the table whose segments start the package. -/
def FirstRoot (roots : PackageRoots) (package : String) (root : PackageRoot) : Prop :=
  root.StartsSegments package ∧
    ∃ before after, roots.entries = before ++ root :: after ∧
      ∀ earlier ∈ before, ¬ earlier.StartsSegments package

theorem find?_covers_eq_some_iff {package : String} :
    roots.entries.find? (·.covers package) = some root ↔ roots.FirstRoot package root := by
  rw [List.find?_eq_some_iff_append, FirstRoot, PackageRoot.covers_iff]
  simp only [Bool.not_eq_true', ← Bool.not_eq_true, PackageRoot.covers_iff]

theorem find?_covers_eq_none_iff {package : String} :
    roots.entries.find? (·.covers package) = none ↔
      ∀ root ∈ roots.entries, ¬ root.StartsSegments package := by
  simp only [List.find?_eq_none, PackageRoot.covers_iff]

theorem find_eq_ok_iff : roots.find name = .ok root ↔
    ¬ (name.package = "" ∨ name.version = "") ∧ roots.FirstRoot name.package root := by
  rw [← find?_covers_eq_some_iff, find]
  by_cases hgiven : name.package = "" ∨ name.version = ""
  · simp [hgiven]
  · rw [if_neg hgiven]
    cases roots.entries.find? (·.covers name.package) <;> simp [hgiven]

/-- A name without a package or a version is refused before the table is looked at. -/
theorem find_eq_error_iff {cause : ConfigError} : roots.find name = .error cause ↔
    ((name.package = "" ∨ name.version = "") ∧ cause = .notFullyQualified name) ∨
      (¬ (name.package = "" ∨ name.version = "") ∧
        (∀ root ∈ roots.entries, ¬ root.StartsSegments name.package) ∧
          cause = .noPackageRoot name.package) := by
  rw [← find?_covers_eq_none_iff, find]
  by_cases hgiven : name.package = "" ∨ name.version = ""
  · rw [if_pos hgiven, Except.error.injEq, eq_comm]
    simp [hgiven]
  · rw [if_neg hgiven]
    cases roots.entries.find? (·.covers name.package) with
    | some root => simp [hgiven]
    | none =>
        rw [Except.error.injEq, eq_comm]
        simp [hgiven]

/-! ## The directory of a package -/

/-- The version is an `@` with at least one character after it. -/
def HasVersionText (name : QualifiedName) : Prop :=
  ∃ c rest, name.version.toList = '@' :: c :: rest

theorem versionDirectory?_eq_none_iff :
    versionDirectory? name.version = none ↔ ¬ HasVersionText name := by
  rw [HasVersionText, versionDirectory?]
  split
  · rename_i c rest heq
    simp [heq]
  · rename_i hother
    simpa using hother

/-- The package is the prefix of the root, with or without a dot after it. -/
def IsRoot (root : PackageRoot) (name : QualifiedName) : Prop :=
  name.package = root.package ∨ name.package = root.package ++ "."

/-- Once the root is found, the version is checked first and then the package. -/
theorem packagePath_cases (h : roots.find name = .ok root) (relative : Bool) :
    (¬ HasVersionText name ∧
        roots.packagePath name relative = .error (.invalidVersion name name.version)) ∨
      (HasVersionText name ∧ IsRoot root name ∧
        roots.packagePath name relative = .error (.packageIsRoot name.package root.package)) ∨
      (HasVersionText name ∧ ¬ IsRoot root name ∧
        ∃ path, roots.packagePath name relative = .ok path) := by
  have hroot : root.StartsSegments name.package := (find_eq_ok_iff.1 h).2.1
  have hisRoot : root.suffix? name.package = none ↔ IsRoot root name :=
    PackageRoot.suffix?_eq_none_iff hroot
  have hversion : versionDirectory? name.version = none ↔ ¬ HasVersionText name :=
    versionDirectory?_eq_none_iff
  rw [packagePath, h]
  dsimp only [bind, Except.bind]
  cases hdirectory : versionDirectory? name.version with
  | none => exact Or.inl ⟨hversion.1 hdirectory, rfl⟩
  | some version =>
      have hgiven : HasVersionText name := by
        rw [← not_not (a := HasVersionText name), ← hversion, hdirectory]
        exact Option.some_ne_none version
      cases hsuffix : root.suffix? name.package with
      | none => exact Or.inr (Or.inl ⟨hgiven, hisRoot.1 hsuffix, rfl⟩)
      | some suffix =>
          refine Or.inr (Or.inr ⟨hgiven, ?_, _, rfl⟩)
          rw [← hisRoot, hsuffix]
          exact Option.some_ne_none suffix

/-- Without a root there is no directory. -/
theorem packagePath_of_error {cause : ConfigError} (h : roots.find name = .error cause) :
    roots.packagePath name relative = .error cause := by
  rw [packagePath, h]
  rfl

/-! ## Larger tables -/

/-- The error is found out only once a root has been found. -/
def FollowsRoot : ConfigError → Prop
  | .invalidVersion _ _ => True
  | .packageIsRoot _ _ => True
  | _ => False

/-- The answer is a success or an error that is found out only once a root has been found. -/
def IsLasting {α : Type} (answer : Except ConfigError α) : Prop :=
  ∀ cause, answer = .error cause → FollowsRoot cause

theorem not_followsRoot_of_find {cause : ConfigError} (h : roots.find name = .error cause) :
    ¬ FollowsRoot cause := by
  rcases find_eq_error_iff.1 h with ⟨_, rfl⟩ | ⟨_, _, rfl⟩
  · exact id
  · exact id

/-- Where no root is found, no lasting answer is given. -/
theorem exists_find_of_isLasting (h : IsLasting (roots.packagePath name relative)) :
    ∃ root, roots.find name = .ok root := by
  cases hfind : roots.find name with
  | ok root => exact ⟨root, rfl⟩
  | error cause =>
      exact absurd (h cause (packagePath_of_error hfind)) (not_followsRoot_of_find hfind)

theorem entries_foldl_push (roots : PackageRoots) (more : List PackageRoot) :
    (more.foldl push roots).entries = roots.entries ++ more := by
  induction more generalizing roots with
  | nil => exact (List.append_nil _).symm
  | cons root more ih =>
      rw [List.foldl_cons, ih, push, List.append_assoc]
      rfl

/-- A root that is found is found in a larger table, too. -/
theorem find_foldl_push (more : List PackageRoot) (h : roots.find name = .ok root) :
    (more.foldl push roots).find name = .ok root := by
  obtain ⟨hgiven, hstarts, before, after, hentries, hearlier⟩ := find_eq_ok_iff.1 h
  apply find_eq_ok_iff.2
  refine ⟨hgiven, hstarts, before, after ++ more, ?_, hearlier⟩
  rw [entries_foldl_push, hentries, List.append_assoc, List.cons_append]

theorem packagePath_foldl_push (more : List PackageRoot)
    (h : IsLasting (roots.packagePath name relative)) :
    (more.foldl push roots).packagePath name relative = roots.packagePath name relative := by
  obtain ⟨root, hroot⟩ := exists_find_of_isLasting h
  rw [packagePath, packagePath, find_foldl_push more hroot, hroot]

/-- The path of a file fails as that of its directory does. -/
theorem filePath_of_error {cause : ConfigError}
    (h : roots.packagePath name false = .error cause) : roots.filePath name = .error cause := by
  rw [filePath, h]
  rfl

theorem filePath_foldl_push (more : List PackageRoot) (h : IsLasting (roots.filePath name)) :
    (more.foldl push roots).filePath name = roots.filePath name := by
  have hdirectory : IsLasting (roots.packagePath name false) := fun cause hcause =>
    h cause (filePath_of_error hcause)
  rw [filePath, filePath, packagePath_foldl_push more hdirectory]

/-! ## Main result -/

/-- The root of a name is the first one whose segments start the name's package.  Once it is found,
the version is blamed before the package, a name that passes both checks has a directory, and none
of this changes when roots are added. -/
theorem find_first_by_segments (roots : PackageRoots) (name : QualifiedName) :
    (roots.find name = .error (.notFullyQualified name) ↔
        name.package = "" ∨ name.version = "") ∧
      (roots.find name = .error (.noPackageRoot name.package) ↔
        ¬ (name.package = "" ∨ name.version = "") ∧
          ∀ root ∈ roots.entries, ¬ root.StartsSegments name.package) ∧
      (∀ root, roots.find name = .ok root ↔
        ¬ (name.package = "" ∨ name.version = "") ∧ roots.FirstRoot name.package root) ∧
      (∀ cause relative, roots.find name = .error cause →
        roots.packagePath name relative = .error cause) ∧
      (∀ root relative, roots.find name = .ok root →
        (roots.packagePath name relative = .error (.invalidVersion name name.version) ↔
          ¬ HasVersionText name) ∧
        (roots.packagePath name relative = .error (.packageIsRoot name.package root.package) ↔
          HasVersionText name ∧ IsRoot root name) ∧
        ((∃ path, roots.packagePath name relative = .ok path) ↔
          HasVersionText name ∧ ¬ IsRoot root name)) ∧
      ∀ more : List PackageRoot,
        (IsLasting (roots.find name) → (more.foldl push roots).find name = roots.find name) ∧
        (∀ relative, IsLasting (roots.packagePath name relative) →
          (more.foldl push roots).packagePath name relative = roots.packagePath name relative) ∧
        (IsLasting (roots.filePath name) →
          (more.foldl push roots).filePath name = roots.filePath name) := by
  refine ⟨?_, ?_, fun root => find_eq_ok_iff, fun _ _ => packagePath_of_error, ?_, fun more => ?_⟩
  · rw [find_eq_error_iff]
    simp
  · rw [find_eq_error_iff]
    simp
  · intro root relative hroot
    rcases packagePath_cases hroot relative with
      ⟨hversion, hpath⟩ | ⟨hversion, hroot, hpath⟩ | ⟨hversion, hroot, path, hpath⟩
    · simp [hpath, hversion]
    · simp [hpath, hversion, hroot]
    · simp [hpath, hversion, hroot]
  · refine ⟨fun h => ?_, fun _ => packagePath_foldl_push more, filePath_foldl_push more⟩
    cases hfind : roots.find name with
    | ok root => exact find_foldl_push more hfind
    | error cause => exact absurd (h cause hfind) (not_followsRoot_of_find hfind)

/-- A table whose second root lies below the first one. -/
def nestedRoots : PackageRoots :=
  ⟨[⟨"android", "a"⟩, ⟨"android.hardware", "hw"⟩]⟩

/-- Of two roots that fit, the first one is found, also when a third one is added. -/
theorem find_first_of_nestedRoots :
    nestedRoots.FirstRoot "android.hardware.nfc" ⟨"android", "a"⟩ ∧
      (∃ path, nestedRoots.packagePath ⟨"android.hardware.nfc", "@1.0", "INfc"⟩ false = .ok path) ∧
      (nestedRoots.push ⟨"android.hardware.nfc", "nfc"⟩).filePath
        ⟨"android.hardware.nfc", "@1.0", "INfc"⟩ = .ok ⟨"a/hardware/nfc/1.0/INfc.hal"⟩ := by
  have hroot : nestedRoots.find ⟨"android.hardware.nfc", "@1.0", "INfc"⟩ =
      .ok ⟨"android", "a"⟩ := by decide
  have hfile : nestedRoots.filePath ⟨"android.hardware.nfc", "@1.0", "INfc"⟩ =
      .ok ⟨"a/hardware/nfc/1.0/INfc.hal"⟩ := rfl
  have hlasting : IsLasting (nestedRoots.filePath ⟨"android.hardware.nfc", "@1.0", "INfc"⟩) := by
    intro cause hcause
    rw [hfile] at hcause
    contradiction
  have hversion : HasVersionText ⟨"android.hardware.nfc", "@1.0", "INfc"⟩ :=
    ⟨'1', ['.', '0'], rfl⟩
  have hbelow : ¬ IsRoot ⟨"android", "a"⟩ ⟨"android.hardware.nfc", "@1.0", "INfc"⟩ := by
    rw [IsRoot]
    decide
  obtain ⟨_, _, hfound, _, hpath, hlarger⟩ :=
    find_first_by_segments nestedRoots ⟨"android.hardware.nfc", "@1.0", "INfc"⟩
  refine ⟨((hfound _).1 hroot).2, (hpath _ false hroot).2.2.2 ⟨hversion, hbelow⟩, ?_⟩
  rw [← hfile]
  exact (hlarger [⟨"android.hardware.nfc", "nfc"⟩]).2.2 hlasting

end PackageRoots

end HalPackages
