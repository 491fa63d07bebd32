import HalPackages.Proofs.Files.PathParts

/-!
# Where the file of a name lies

A name leads below its root under names of its own: one for each segment of the
package after the root's prefix, one for the version and one for the file.  None
of them leads back out, and together they tell the file apart from all others with
the same root.
-/

namespace HalPackages

open Text

/-! ## Texts that can be names of entries -/

namespace Path

theorem isName_of_isIdentifier {text : List Char} (h : isIdentifier text = true) : IsName text where
  ne_nil := ne_nil_of_isIdentifier h
  ne_dot := by
    rintro rfl
    exact dot_notMem_of_isIdentifier h List.mem_cons_self
  ne_dots := by
    rintro rfl
    exact dot_notMem_of_isIdentifier h List.mem_cons_self
  slash_notMem := slash_notMem_of_isIdentifier h

theorem isName_of_isVersion {version : List Char} (h : isVersion ('@' :: version) = true) :
    IsName version := by
  obtain ⟨major, minor, heq, hmajor, hminor⟩ := exists_digits_of_isVersion h
  rw [List.cons.injEq] at heq
  rw [isDigits_iff] at hmajor hminor
  obtain ⟨digit, digits, rfl⟩ := List.exists_cons_of_ne_nil hmajor.1
  have hdigit : digit ≠ '.' := by
    rintro rfl
    exact absurd (hmajor.2 '.' List.mem_cons_self) (by decide)
  rw [heq.2]
  refine ⟨List.cons_ne_nil _ _, ?_, ?_, ?_⟩
  · exact fun h => hdigit (List.head_eq_of_cons_eq h)
  · exact fun h => hdigit (List.head_eq_of_cons_eq h)
  · intro hslash
    rcases List.mem_append.1 hslash with hslash | hslash
    · exact absurd (hmajor.2 '/' hslash) (by decide)
    · rcases List.mem_cons.1 hslash with hslash | hslash
      · contradiction
      · exact absurd (hminor.2 '/' hslash) (by decide)

theorem isName_append_hal {stem : List Char} (h : '/' ∉ stem) : IsName (stem ++ ".hal".toList) where
  ne_nil := List.append_ne_nil_of_right_ne_nil _ (by decide)
  ne_dot heq := absurd (congrArg List.length heq) (by simp)
  ne_dots heq := absurd (congrArg List.length heq) (by simp)
  slash_notMem hslash := (List.mem_append.1 hslash).elim h (by decide)

end Path

namespace PackageRoot

variable {root : PackageRoot}

/-- A root's directory ends with a slash. -/
theorem exists_directory_eq (root : PackageRoot) : ∃ front, root.directory = front ++ ['/'] := by
  rw [directory]
  split
  · rename_i hlast
    exact ⟨root.path.toList.dropLast, (List.dropLast_append_getLast? '/' hlast).symm⟩
  · exact ⟨root.path.toList, rfl⟩

/-- A package below a root is the root's prefix, a dot and more segments. -/
theorem suffix?_eq_some_iff {package : String} {suffix : List Char} :
    root.suffix? package = some suffix ↔
      suffix ≠ [] ∧ package.toList = root.package.toList ++ '.' :: suffix := by
  rw [← afterMark?_eq_some_iff, suffix?, below?]
  rcases afterMark? root.package.toList package.toList with _ | _ | ⟨c, rest⟩
  · simp
  · simp
  · by_cases hdot : c = '.'
    · subst hdot
      cases rest <;> simp
      rintro rfl
      exact List.cons_ne_nil _ _
    · simp [hdot]

end PackageRoot

namespace QualifiedName

/-- A name for which a file can be looked for: package and version are as they are written, and the
file is named inside a directory. -/
structure NamesFile (key : QualifiedName) : Prop where
  package : key.package = "" ∨ IsDotted key.package.toList
  version : key.version = "" ∨ isVersion key.version.toList = true
  localName : '/' ∉ key.localName.toList

theorem IsWellFormed.namesFile {name : QualifiedName} (h : name.IsWellFormed) :
    name.NamesFile where
  package := h.package_isDotted
  version := h.isVersion_version
  localName := by
    rcases h.localName_isDotted with hempty | hdotted
    · rw [hempty]
      exact List.not_mem_nil
    · exact hdotted.slash_notMem

end QualifiedName

namespace PackageRoots

variable {roots : PackageRoots} {root : PackageRoot} {key other : QualifiedName} {path : Path}

theorem mem_entries_of_find {name : QualifiedName} (h : roots.find name = .ok root) :
    root ∈ roots.entries := by
  rw [find] at h
  split at h
  · contradiction
  · split at h
    · rename_i hfirst
      rw [← Except.ok.inj h]
      exact List.mem_of_find?_eq_some hfirst
    · contradiction

theorem versionDirectory?_eq_some_iff {version : String} {directory : List Char} :
    versionDirectory? version = some directory ↔
      directory ≠ [] ∧ version.toList = '@' :: directory := by
  rw [versionDirectory?]
  split
  · rename_i c rest heq
    rw [heq]
    simp only [Option.some.injEq, List.cons.injEq, true_and]
    constructor
    · rintro rfl
      exact ⟨List.cons_ne_nil _ _, rfl⟩
    · exact fun h => h.2
  · rename_i hother
    refine ⟨fun h => by contradiction, ?_⟩
    rintro ⟨hne, heq⟩
    obtain ⟨c, rest, rfl⟩ := List.exists_cons_of_ne_nil hne
    exact absurd heq (hother c rest)

/-- The directory of a name's package is made of a root, the segments below its prefix and the
version. -/
theorem exists_of_packagePath {relative : Bool} {text : String}
    (h : roots.packagePath key relative = .ok text) :
    ∃ root suffix version, roots.find key = .ok root ∧
      root.suffix? key.package = some suffix ∧ versionDirectory? key.version = some version ∧
        text = String.ofList (if relative then relativePath suffix version
          else root.directory ++ relativePath suffix version) := by
  obtain ⟨root, hroot, h⟩ := except_bind_eq_ok.1 h
  split at h
  · contradiction
  · rename_i version hversion
    split at h
    · contradiction
    · rename_i suffix hsuffix
      exact ⟨root, suffix, version, hroot, hsuffix, hversion, (Except.ok.inj h).symm⟩

/-- The names that lead from a root to a file. -/
def fileNames (suffix version file : List Char) : List (List Char) :=
  suffix.splitOn '.' ++ [version, file ++ ".hal".toList]

theorem relativePath_append (suffix version last : List Char) :
    relativePath suffix version ++ last =
      ['/'].intercalate (suffix.splitOn '.' ++ [version, last]) := by
  have hflat (names : List (List Char)) :
      names.flatMap (· ++ ['/']) ++ version ++ ['/'] ++ last =
        ['/'].intercalate (names ++ [version, last]) := by
    induction names with
    | nil => simp
    | cons name names ih =>
        rw [List.cons_append, List.intercalate_cons_of_ne_nil (by simp), ← ih]
        simp
  exact hflat _

/-- Names that lead to the same file differ in nothing. -/
theorem fileNames_inj {suffix version file suffix' version' file' : List Char} :
    fileNames suffix version file = fileNames suffix' version' file' ↔
      suffix = suffix' ∧ version = version' ∧ file = file' := by
  constructor
  · intro h
    obtain ⟨hsuffix, hrest⟩ := List.append_inj' h rfl
    simp only [List.cons.injEq, List.append_cancel_right_eq, and_true] at hrest
    have htext := congrArg (List.intercalate ['.']) hsuffix
    rw [List.intercalate_splitOn, List.intercalate_splitOn] at htext
    exact ⟨htext, hrest⟩
  · rintro ⟨rfl, rfl, rfl⟩
    rfl

/-- The path of a file, and the root and the names that it is made of. -/
theorem exists_of_filePath (h : roots.filePath key = .ok path) :
    ∃ root suffix version, roots.find key = .ok root ∧
      root.suffix? key.package = some suffix ∧ versionDirectory? key.version = some version ∧
        path = ⟨String.ofList (root.directory ++
          ['/'].intercalate (fileNames suffix version key.topLevelName.toList))⟩ := by
  obtain ⟨directory, hdirectory, h⟩ := except_bind_eq_ok.1 h
  obtain ⟨root, suffix, version, hroot, hsuffix, hversion, rfl⟩ := exists_of_packagePath hdirectory
  refine ⟨root, suffix, version, hroot, hsuffix, hversion, ?_⟩
  rw [← Except.ok.inj h, fileNames, ← relativePath_append, Path.mk.injEq, ← String.toList_inj]
  simp

theorem isName_of_mem_fileNames (hkey : key.NamesFile) {suffix version : List Char}
    (hsuffix : root.suffix? key.package = some suffix)
    (hversion : versionDirectory? key.version = some version) {name : List Char}
    (hname : name ∈ fileNames suffix version key.topLevelName.toList) : Path.IsName name := by
  rcases List.mem_append.1 hname with hsegment | hname
  · have hpackage := (PackageRoot.suffix?_eq_some_iff.1 hsuffix).2
    have hdotted : IsDotted (root.package.toList ++ '.' :: suffix) := by
      rw [← hpackage]
      refine hkey.package.resolve_left fun hempty => ?_
      rw [hempty] at hpackage
      exact List.append_ne_nil_of_right_ne_nil _ (List.cons_ne_nil _ _) hpackage.symm
    exact Path.isName_of_isIdentifier (hdotted.of_append name hsegment)
  · rcases List.mem_cons.1 hname with rfl | hname
    · have htext := (versionDirectory?_eq_some_iff.1 hversion).2
      apply Path.isName_of_isVersion
      rw [← htext]
      refine hkey.version.resolve_left fun hempty => ?_
      rw [hempty] at htext
      contradiction
    · rw [List.mem_singleton.1 hname]
      apply Path.isName_append_hal
      rw [QualifiedName.topLevelName, String.toList_ofList]
      exact fun hslash => hkey.localName (List.takeWhile_subset _ hslash)

/-- The file of a name lies below its root under names of its own. -/
theorem parts_of_filePath (hkey : key.NamesFile) (h : roots.filePath key = .ok path) :
    ∃ root suffix version, roots.find key = .ok root ∧
      root.suffix? key.package = some suffix ∧ versionDirectory? key.version = some version ∧
        path.parts = (Path.mk (String.ofList root.directory)).parts ++
          (fileNames suffix version key.topLevelName.toList).map fun name =>
            .name (String.ofList name) := by
  obtain ⟨root, suffix, version, hroot, hsuffix, hversion, rfl⟩ := exists_of_filePath h
  refine ⟨root, suffix, version, hroot, hsuffix, hversion, ?_⟩
  obtain ⟨front, hfront⟩ := root.exists_directory_eq
  have hne : fileNames suffix version key.topLevelName.toList ≠ [] :=
    List.append_ne_nil_of_right_ne_nil _ (List.cons_ne_nil _ _)
  rw [hfront, List.append_assoc, List.singleton_append]
  exact Path.parts_append_names hne fun _ => isName_of_mem_fileNames hkey hsuffix hversion

/-- Names with the same root have the same path only if they have the same file. -/
theorem fileIdentity_eq_of_same_filePath (hkey : key.NamesFile) (hother : other.NamesFile)
    (hroot : roots.find key = roots.find other) {otherPath : Path}
    (hpath : roots.filePath key = .ok path) (hotherPath : roots.filePath other = .ok otherPath)
    (hsame : path.Same otherPath) : key.fileIdentity = other.fileIdentity := by
  obtain ⟨root, suffix, version, hfind, hsuffix, hversion, hparts⟩ := parts_of_filePath hkey hpath
  obtain ⟨root', suffix', version', hfind', hsuffix', hversion', hparts'⟩ :=
    parts_of_filePath hother hotherPath
  obtain rfl : root = root' := Except.ok.inj (hfind.symm.trans (hroot.trans hfind'))
  -- the root's own parts come first in both paths, so the names after them are the same
  have hinjective : Function.Injective fun name : List Char => PathPart.name (String.ofList name) :=
    fun left right heq => String.ofList_injective (PathPart.name.inj heq)
  rw [Path.Same, hparts, hparts', List.append_cancel_left_eq, hinjective.list_map.eq_iff,
    fileNames_inj, String.toList_inj] at hsame
  obtain ⟨rfl, rfl, hname⟩ := hsame
  -- package and version are given back by what is left of them after the prefix and the `@`
  have hpackage := (PackageRoot.suffix?_eq_some_iff.1 hsuffix).2.trans
    (PackageRoot.suffix?_eq_some_iff.1 hsuffix').2.symm
  have hversions := (versionDirectory?_eq_some_iff.1 hversion).2.trans
    (versionDirectory?_eq_some_iff.1 hversion').2.symm
  rw [String.toList_inj] at hpackage hversions
  rw [QualifiedName.fileIdentity, QualifiedName.fileIdentity, hname, QualifiedName.withName,
    QualifiedName.withName, hpackage, hversions]

end PackageRoots

end HalPackages
