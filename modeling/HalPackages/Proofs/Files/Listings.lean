import HalPackages.Proofs.Files.FileNames
import HalPackages.Proofs.Names.NameTokens
import HalPackages.Proofs.Sources.Bytes
import HalPackages.Resolve.Load

/-!
# The listing of a package

A directory is listed by walking over all places of the tree in the order of their
names and keeping the stems of the source files that stand directly inside it.  What is
sorted are whole file names, and what is listed are stems.  The two orders differ when
a stem goes on after another one with a character before the dot; names of letters,
digits and underscores have none.
-/

namespace HalPackages

/-! ## The order of stems -/

namespace Text

variable {mark : Char} {front other rest rest' : List Char}

/-- If a mark comes before all characters in front of it, texts up to the mark have the same order
as the ones that go on with it. -/
theorem lt_of_append_cons_lt (hfront : ∀ c ∈ front, mark < c) (hother : ∀ c ∈ other, mark < c)
    (h : front ++ mark :: rest < other ++ mark :: rest) : front < other := by
  induction front generalizing other with
  | nil =>
      cases other with
      | nil => exact absurd h (List.lt_irrefl _)
      | cons d ds => exact List.nil_lt_cons d ds
  | cons c cs ih =>
      have hmark : mark < c := hfront c List.mem_cons_self
      cases other with
      | nil =>
          rcases List.cons_lt_cons_iff.1 h with hlt | ⟨heq, _⟩
          · exact absurd hlt (Char.lt_asymm hmark)
          · exact absurd heq (Char.ne_of_lt hmark).symm
      | cons d ds =>
          rcases List.cons_lt_cons_iff.1 h with hlt | ⟨rfl, hlt⟩
          · exact List.cons_lt_cons_iff.2 (Or.inl hlt)
          · have hds := ih (fun x hx => hfront x (List.mem_cons_of_mem _ hx))
              (fun x hx => hother x (List.mem_cons_of_mem _ hx)) hlt
            exact List.cons_lt_cons_iff.2 (Or.inr ⟨rfl, hds⟩)

theorem dot_lt_of_isWordPart {c : Char} (h : Piece.isWordPart c = true) : '.' < c :=
  forall_ascii (p := fun c => Piece.isWordPart c = true → '.' < c) (by decide +kernel)
    (toNat_lt_of_isWordPart h) h

end Text

open Text

namespace FileTree

variable {tree : FileTree} {path : Path} {place : List String} {stem other : String}

/-! ## What is listed of a directory -/

/-- No extension leads out of the tree. -/
theorem node?_append_source (tree : FileTree) (place : List String) (stem : String) :
    tree.node? (place ++ [stem ++ ".hal"]) = tree.nodes[place ++ [stem ++ ".hal"]]? := by
  have hlast (name : String) (h : stem ++ ".hal" = name) : name.toList.getLast? = some 'l' := by
    rw [← h, String.toList_append, List.getLast?_append]
    rfl
  have hup : stem ++ ".hal" ≠ ".." := fun h => absurd (hlast _ h) (by decide)
  have hroot : stem ++ ".hal" ≠ "/" := fun h => absurd (hlast _ h) (by decide)
  rw [node?, isTopOrAbove, List.all_append]
  simp [hup, hroot]

/-- Places in one directory have the order of their names. -/
theorem compare_append_singleton (place : List String) (name name' : String) :
    compare (place ++ [name]) (place ++ [name']) = compare name name' := by
  induction place with
  | nil =>
      rw [List.nil_append, List.nil_append, List.compare_eq_compareLex, List.compareLex_cons_cons]
      exact Ordering.then_eq
  | cons first place ih =>
      rw [List.cons_append, List.cons_append, List.compare_eq_compareLex,
        List.compareLex_cons_cons, Std.ReflOrd.compare_self, ← List.compare_eq_compareLex, ih]
      rfl

/-- The stems that a list of a directory has: those of its source files, each one once, in the order
of the bytes of the file names.  If they are all made of ASCII letters, digits and underscores, this
is the order of their own bytes. -/
structure Lists (tree : FileTree) (place : List String) (stems : List String) : Prop where
  mem_iff : ∀ stem, stem ∈ stems ↔
    stem ≠ "" ∧ ∃ content, tree.node? (place ++ [stem ++ ".hal"]) = some (.file content)
  nodup : stems.Nodup
  ordered_names : stems.Pairwise fun stem other =>
    (stem ++ ".hal").toUTF8.data.toList < (other ++ ".hal").toUTF8.data.toList
  ordered_stems : (∀ stem ∈ stems, ∀ c ∈ stem.toList, Piece.isWordPart c = true) →
    stems.Pairwise fun stem other => stem.toUTF8.data.toList < other.toUTF8.data.toList

/-- Stems are listed in the order of the file names. -/
theorem pairwise_stemIn? (tree : FileTree) (place : List String) :
    (tree.nodes.toList.filterMap (stemIn? place)).Pairwise fun stem other =>
      stem.toList ++ ".hal".toList < other.toList ++ ".hal".toList := by
  rw [List.pairwise_filterMap]
  refine Std.TreeMap.ordered_keys_toList.imp ?_
  intro entry entry' hentries stem hstem other hother
  obtain ⟨_, _, rfl⟩ := stemIn?_eq_some_iff.1 hstem
  obtain ⟨_, _, rfl⟩ := stemIn?_eq_some_iff.1 hother
  rw [compare_append_singleton] at hentries
  have hnames : stem ++ ".hal" < other ++ ".hal" := compareOfLessAndEq_eq_lt.1 hentries
  rw [← String.toList_append, ← String.toList_append]
  exact hnames

theorem lists_filterMap (tree : FileTree) (place : List String) :
    tree.Lists place (tree.nodes.toList.filterMap (stemIn? place)) where
  mem_iff stem := by
    rw [List.mem_filterMap, node?_append_source]
    constructor
    · rintro ⟨entry, hentry, hstem⟩
      obtain ⟨hne, content, rfl⟩ := stemIn?_eq_some_iff.1 hstem
      exact ⟨hne, content, Std.TreeMap.mem_toList_iff_getElem?_eq_some.1 hentry⟩
    · rintro ⟨hne, content, hnode⟩
      exact ⟨_, Std.TreeMap.mem_toList_iff_getElem?_eq_some.2 hnode,
        stemIn?_eq_some_iff.2 ⟨hne, content, rfl⟩⟩
  nodup := by
    refine (pairwise_stemIn? tree place).imp ?_
    rintro stem _ hlt rfl
    exact List.lt_irrefl _ hlt
  ordered_names := by
    refine (pairwise_stemIn? tree place).imp ?_
    intro stem other hlt
    rw [← bytes_toList, ← bytes_toList, String.toList_append, String.toList_append]
    exact bytes_lt_bytes hlt
  ordered_stems := by
    intro hwords
    refine (pairwise_stemIn? tree place).imp_of_mem ?_
    intro stem other hstem hother hlt
    have hdot (name : String) (hname : name ∈ tree.nodes.toList.filterMap (stemIn? place)) :
        ∀ c ∈ name.toList, '.' < c := fun c hc => dot_lt_of_isWordPart (hwords name hname c hc)
    rw [← bytes_toList, ← bytes_toList]
    exact bytes_lt_bytes (lt_of_append_cons_lt (hdot stem hstem) (hdot other hother) hlt)

theorem sourceStems_of_find (h : tree.find path = .ok (place, .directory)) :
    tree.sourceStems path = .ok (tree.nodes.toList.filterMap (stemIn? place)) := by
  rw [sourceStems, h]

/-- Only a directory has files to list. -/
theorem sourceStems_eq_nil_or_error (h : ∀ place, tree.find path ≠ .ok (place, .directory)) :
    tree.sourceStems path = .ok [] ∨ ∃ cause, tree.sourceStems path = .error cause := by
  rw [sourceStems]
  split
  · exact Or.inr ⟨_, rfl⟩
  · exact Or.inl rfl
  · rename_i place hfind
    exact absurd hfind (h place)

end FileTree

/-! ## What is listed of a package -/

namespace Storage

variable {Doc : Type} {storage : Storage Doc} {roots : PackageRoots} {package : QualifiedName}
variable {directory : String}

/-- The files of a package are found in the directory of the package, if it has one. -/
theorem packageFiles_eq_map : storage.packageFiles roots package =
    (roots.packagePath package false).map fun directory =>
      ((storage.list ⟨directory⟩).toOption.getD []).map package.withName := by
  rw [packageFiles]
  cases roots.packagePath package false with
  | error cause => rfl
  | ok directory =>
      dsimp only [bind, Except.bind, Except.map]
      cases storage.list ⟨directory⟩ <;> rfl

end Storage

namespace FileTree

variable {Doc : Type}

/-- A directory that can be read is listed, and what is listed are its source files, in the order of
their names.  The files of a package are what is listed of the directory of the package, and none
are found where no directory is; that no directory can be told is the only error. -/
theorem listings_exact (tree : FileTree) (roots : PackageRoots)
    (parse : Path → Except ParseError Doc) :
    (∀ path place, tree.find path = .ok (place, .directory) →
      ∃ stems, tree.sourceStems path = .ok stems ∧ tree.Lists place stems) ∧
    ∀ name : QualifiedName,
      (∀ cause, Storage.packageFiles ⟨parse, tree.sourceStems⟩ roots name = .error cause ↔
        roots.packagePath name false = .error cause) ∧
      ∀ directory, roots.packagePath name false = .ok directory →
        (∀ place, tree.find ⟨directory⟩ = .ok (place, .directory) →
          ∃ stems, tree.sourceStems ⟨directory⟩ = .ok stems ∧
            Storage.packageFiles ⟨parse, tree.sourceStems⟩ roots name =
              .ok (stems.map fun stem => ⟨name.package, name.version, stem⟩)) ∧
        ((∀ place, tree.find ⟨directory⟩ ≠ .ok (place, .directory)) →
          Storage.packageFiles ⟨parse, tree.sourceStems⟩ roots name = .ok []) := by
  refine ⟨fun path place hfind => ⟨_, sourceStems_of_find hfind, lists_filterMap tree place⟩, ?_⟩
  intro name
  rw [Storage.packageFiles_eq_map]
  refine ⟨fun cause => ?_, fun directory hpath => ?_⟩
  · cases roots.packagePath name false with
    | error cause' => simp only [Except.map, Except.error.injEq]
    | ok directory => simp only [Except.map, reduceCtorEq]
  · rw [hpath]
    refine ⟨fun place hfind => ⟨_, sourceStems_of_find hfind, ?_⟩, fun hnone => ?_⟩
    · dsimp only [Except.map]
      rw [sourceStems_of_find hfind]
      rfl
    · dsimp only [Except.map]
      rcases sourceStems_eq_nil_or_error hnone with hempty | ⟨cause, herror⟩
      · rw [hempty]
        rfl
      · rw [herror]
        rfl

end FileTree

/-! ## A directory with other things in it -/

namespace MixedDirectory

/-- A package directory with three source files, a file that is only an extension, a file with
another extension, a directory with the name of a source file and a directory with one inside. -/
def tree : FileTree :=
  .ofFiles [⟨"hw/a/1.0/IDirectory.hal"⟩] [
    (⟨"hw/a/1.0/types.hal"⟩, .empty), (⟨"hw/a/1.0/IA.hal"⟩, .empty),
    (⟨"hw/a/1.0/IA-old.hal"⟩, .empty), (⟨"hw/a/1.0/.hal"⟩, .empty),
    (⟨"hw/a/1.0/IA.halx"⟩, .empty), (⟨"hw/a/1.0/default/IDeep.hal"⟩, .empty)]

def roots : PackageRoots := ⟨[⟨"hw", "hw"⟩]⟩

def package : QualifiedName := ⟨"hw.a", "@1.0", ""⟩

theorem find_package :
    tree.find ⟨"hw/a/1.0/"⟩ = .ok (["hw", "a", "1.0"], .directory) := by
  rfl

theorem stems_package : tree.sourceStems ⟨"hw/a/1.0/"⟩ = .ok ["IA-old", "IA", "types"] := by
  decide +kernel

/-- The longer stem is listed first, as its file name is the smaller one. -/
theorem files_of_mixed_directory :
    roots.packagePath package false = .ok "hw/a/1.0/" ∧
      tree.find ⟨"hw/a/1.0/"⟩ = .ok (["hw", "a", "1.0"], .directory) ∧
      tree.Lists ["hw", "a", "1.0"] ["IA-old", "IA", "types"] ∧
      Storage.packageFiles ⟨tree.parse, tree.sourceStems⟩ roots package =
        .ok [⟨"hw.a", "@1.0", "IA-old"⟩, ⟨"hw.a", "@1.0", "IA"⟩, ⟨"hw.a", "@1.0", "types"⟩] := by
  have hpath : roots.packagePath package false = .ok "hw/a/1.0/" := by decide +kernel
  obtain ⟨hdirectories, hpackages⟩ := FileTree.listings_exact tree roots tree.parse
  obtain ⟨stems, hstems, hlists⟩ := hdirectories _ _ find_package
  obtain ⟨stems', hstems', hfiles⟩ := ((hpackages package).2 _ hpath).1 _ find_package
  obtain rfl := Except.ok.inj (stems_package.symm.trans hstems)
  obtain rfl := Except.ok.inj (stems_package.symm.trans hstems')
  exact ⟨hpath, find_package, hlists, hfiles⟩

end MixedDirectory

end HalPackages
