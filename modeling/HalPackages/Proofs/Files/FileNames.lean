import HalPackages.FileTree
import HalPackages.Proofs.Files.PathParts

/-!
# The names in a file tree

What stands in a tree stands there under the last name of its place.  In a tree
that comes about by making directories, writing files and removing them, that is a
name that a directory can list, without a slash in it, since it has been a part of
a path.  The source files of a directory are found by these names.
-/

namespace HalPackages

open Text

namespace FileTree

variable {tree : FileTree} {path : Path} {place : List String} {node : FileNode} {name : String}

/-- Whatever stands in the tree is listed under a name that a directory can list. -/
def WellNamed (tree : FileTree) : Prop :=
  ∀ place node, tree.nodes[place]? = some node →
    ∃ (directory : List String) (name : String),
      place = directory ++ [name] ∧ Path.IsName name.toList

theorem wellNamed_empty : (∅ : FileTree).WellNamed := by
  intro place node h
  rw [show (∅ : FileTree).nodes[place]? = none from Std.TreeMap.getElem?_emptyc] at h
  contradiction

/-! ## Writing keeps the names -/

/-- A node at a place with a name can join the tree. -/
theorem WellNamed.of_forall (h : tree.WellNamed) {later : FileTree}
    (hname : Path.IsName name.toList)
    (hnodes : ∀ other node, later.nodes[other]? = some node →
      other = place ++ [name] ∨ tree.nodes[other]? = some node) : later.WellNamed := by
  intro other node hnode
  rcases hnodes other node hnode with hother | hold
  · exact ⟨place, name, hother, hname⟩
  · exact h other node hold

theorem WellNamed.insert (h : tree.WellNamed) (hname : Path.IsName name.toList) :
    (FileTree.mk (tree.nodes.insert (place ++ [name]) node)).WellNamed := by
  apply h.of_forall hname
  intro other node' hnode
  rw [Std.TreeMap.getElem?_insert] at hnode
  split at hnode
  · rename_i heq
    exact Or.inl (Std.LawfulEqOrd.eq_of_compare heq).symm
  · exact Or.inr hnode

theorem WellNamed.insertIfNew (h : tree.WellNamed) (hname : Path.IsName name.toList) :
    (FileTree.mk (tree.nodes.insertIfNew (place ++ [name]) node)).WellNamed := by
  apply h.of_forall hname
  intro other node' hnode
  rw [Std.TreeMap.getElem?_insertIfNew] at hnode
  split at hnode
  · rename_i heq
    exact Or.inl (Std.LawfulEqOrd.eq_of_compare heq.1).symm
  · exact Or.inr hnode

theorem WellNamed.makeDirectories (h : tree.WellNamed) {parts : List PathPart}
    (hparts : ∀ name, .name name ∈ parts → Path.IsName name.toList) (place : List String) :
    (tree.makeDirectories place parts).1.WellNamed := by
  induction parts generalizing tree place with
  | nil => exact h
  | cons part parts ih =>
      have hrest : ∀ name, .name name ∈ parts → Path.IsName name.toList :=
        fun name hname => hparts name (List.mem_cons_of_mem _ hname)
      cases part with
      | name name => exact ih (h.insertIfNew (hparts name List.mem_cons_self)) hrest _
      | up | here | root => exact ih h hrest _

theorem WellNamed.addDirectory (h : tree.WellNamed) (path : Path) :
    (tree.addDirectory path).WellNamed :=
  h.makeDirectories (fun _ => Path.isName_of_mem_parts) []

theorem WellNamed.write (h : tree.WellNamed) (path : Path) (content : ByteArray) :
    (tree.write path content).WellNamed := by
  rw [FileTree.write]
  split
  · rename_i name hlast
    have hname : Path.IsName name.toList :=
      Path.isName_of_mem_parts (List.mem_of_getLast? hlast)
    have hdirectories : (tree.makeDirectories [] path.parts.dropLast).1.WellNamed :=
      h.makeDirectories
        (fun _ hmem => Path.isName_of_mem_parts ((List.dropLast_sublist _).subset hmem)) []
    dsimp only
    split
    · exact hdirectories
    · exact hdirectories.insert hname
  · exact h

theorem WellNamed.remove (h : tree.WellNamed) (path : Path) : (tree.remove path).WellNamed := by
  rw [FileTree.remove]
  split
  · intro other node hnode
    rw [Std.TreeMap.getElem?_erase] at hnode
    split at hnode
    · contradiction
    · exact h other node hnode
  · exact h

/-- A tree of some directories and files is well named. -/
theorem wellNamed_ofFiles (directories : List Path) (files : List (Path × ByteArray)) :
    (ofFiles directories files).WellNamed := by
  have hdirectories : (directories.foldl addDirectory empty).WellNamed :=
    List.foldlRecOn directories _ wellNamed_empty fun _ h path _ => h.addDirectory path
  exact List.foldlRecOn files _ hdirectories fun _ h file _ => h.write file.1 file.2

/-! ## The source files of a directory -/

/-- A file name is split at its last dot, if that is not the first character. -/
theorem splitExtension?_eq_some_iff {stem extension : String} :
    splitExtension? name = some (stem, extension) ↔
      name ≠ ".." ∧ stem ≠ "" ∧ '.' ∉ extension.toList ∧
        name.toList = stem.toList ++ '.' :: extension.toList := by
  obtain ⟨front, rfl⟩ := stem.exists_eq_ofList
  obtain ⟨rest, rfl⟩ := extension.exists_eq_ofList
  rw [String.toList_ofList, String.toList_ofList, and_comm (a := '.' ∉ rest),
    ← splitLast_eq_some_iff, Ne, Ne, String.ofList_eq_empty_iff, splitExtension?]
  split
  · rename_i hdots
    simp [hdots]
  · rename_i hdots
    rcases splitLast '.' name.toList with _ | ⟨_ | ⟨c, before⟩, after⟩
    · simp
    · constructor
      · intro h
        contradiction
      · rintro ⟨_, hfront, hsides⟩
        cases hsides
        contradiction
    · simp only [Option.some.injEq, Prod.mk.injEq, String.ofList_inj]
      constructor
      · rintro ⟨rfl, rfl⟩
        exact ⟨hdots, List.cons_ne_nil _ _, rfl, rfl⟩
      · exact fun h => h.2.2

/-- The stem of a source file is what stands before the extension, if that is not all of its
name. -/
theorem sourceStem?_eq_some_iff {stem : String} :
    sourceStem? name = some stem ↔ stem ≠ "" ∧ name.toList = stem.toList ++ ".hal".toList := by
  have hsplit : sourceStem? name = some stem ↔ splitExtension? name = some (stem, "hal") := by
    rw [sourceStem?, extension?, fileStem, sourceExtension]
    rcases splitExtension? name with _ | ⟨before, after⟩
    · simp
    · simp [and_comm]
  have hdots (h : name.toList = stem.toList ++ ".hal".toList) : name ≠ ".." := by
    rintro rfl
    have hlength := congrArg List.length h
    simp at hlength
  rw [hsplit, splitExtension?_eq_some_iff]
  exact ⟨fun ⟨_, hstem, _, htext⟩ => ⟨hstem, htext⟩,
    fun ⟨hstem, htext⟩ => ⟨hdots htext, hstem, by decide, htext⟩⟩

/-- A stem is listed for a file under the name that the stem and the extension make up. -/
theorem stemIn?_eq_some_iff {stem : String} {entry : List String × FileNode} :
    stemIn? place entry = some stem ↔
      stem ≠ "" ∧ ∃ content, entry = (place ++ [stem ++ ".hal"], .file content) := by
  obtain ⟨target, node⟩ := entry
  cases node with
  | directory => simp [stemIn?]
  | file content =>
      have htarget (names : List String) : afterMark? place target = some names ↔
          target = place ++ names := afterMark?_eq_some_iff
      have hname (name : String) : sourceStem? name = some stem ↔
          stem ≠ "" ∧ name = stem ++ ".hal" := by
        rw [sourceStem?_eq_some_iff, ← String.toList_inj, String.toList_append]
      rw [stemIn?]
      constructor
      · intro h
        split at h
        · rename_i name hplace
          obtain ⟨hstem, rfl⟩ := (hname name).1 h
          rw [(htarget _).1 hplace]
          exact ⟨hstem, content, rfl⟩
        · contradiction
      · rintro ⟨hstem, content', heq⟩
        obtain ⟨rfl, -⟩ := Prod.mk.inj heq
        rw [(htarget _).2 rfl]
        exact (hname _).2 ⟨hstem, rfl⟩

/-- The stems that are listed are those of files inside the directory. -/
theorem exists_file_of_mem_sourceStems {stems : List String} (h : tree.sourceStems path = .ok stems)
    {stem : String} (hstem : stem ∈ stems) :
    ∃ (directory : List String) (name : String) (content : ByteArray),
      tree.nodes[directory ++ [name]]? = some (.file content) ∧
        stem ≠ "" ∧ name.toList = stem.toList ++ ".hal".toList := by
  rw [sourceStems] at h
  split at h
  · contradiction
  · cases h
    contradiction
  · rename_i directory hfind
    rw [← Except.ok.inj h, List.mem_filterMap] at hstem
    obtain ⟨entry, hmem, hvalue⟩ := hstem
    obtain ⟨hne, content, rfl⟩ := stemIn?_eq_some_iff.1 hvalue
    exact ⟨directory, stem ++ ".hal", content, Std.TreeMap.mem_toList_iff_getElem?_eq_some.1 hmem,
      hne, String.toList_append⟩

theorem WellNamed.slash_notMem_of_mem_sourceStems (h : tree.WellNamed) {stems : List String}
    (hstems : tree.sourceStems path = .ok stems) {stem : String} (hstem : stem ∈ stems) :
    '/' ∉ stem.toList := by
  obtain ⟨directory, name, content, hnode, _, hname⟩ := exists_file_of_mem_sourceStems hstems hstem
  obtain ⟨directory', name', hplace, hisName⟩ := h _ _ hnode
  obtain ⟨_, hnames⟩ := List.append_inj' hplace rfl
  rw [List.singleton_inj] at hnames
  rw [← hnames, hname] at hisName
  exact fun hslash => hisName.slash_notMem (List.mem_append_left _ hslash)

end FileTree

end HalPackages
