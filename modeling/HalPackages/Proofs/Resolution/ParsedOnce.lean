import HalPackages.Proofs.Files.FileNames
import HalPackages.Proofs.Files.FilePaths
import HalPackages.Proofs.Resolution.ParserLog
import HalPackages.Proofs.Resolution.RequestedFiles

/-!
# No file is parsed twice

Each name is requested from the parser at most once, but this alone does not tell
how often a file is parsed: several names could have the same path.  Names that can
be written, and all names that a file depends on, have different paths below one
root if they have different files.  So no path is parsed twice as long as the names
that directories list are those of files.
-/

namespace HalPackages

open Relation

/-! ## Names that files are looked for under -/

namespace QualifiedName

variable {name key : QualifiedName}

theorem NamesFile.withName (h : name.NamesFile) {localName : String}
    (hslash : '/' ∉ localName.toList) : (name.withName localName).NamesFile :=
  ⟨h.package, h.version, hslash⟩

theorem NamesFile.fileIdentity (h : name.NamesFile) : name.fileIdentity.NamesFile := by
  apply h.withName
  rw [topLevelName, String.toList_ofList]
  exact fun hslash => h.localName (List.takeWhile_subset _ hslash)

theorem NamesFile.typesOfPackage (h : name.NamesFile) : name.typesOfPackage.NamesFile :=
  h.withName (by decide)

theorem NamesFile.withDefaults (h : name.NamesFile) (hkey : key.NamesFile) :
    (name.withDefaults key.package key.version).NamesFile := by
  refine ⟨?_, ?_, h.localName⟩
  · rw [QualifiedName.withDefaults]
    dsimp only
    split
    · exact hkey.package
    · exact h.package
  · rw [QualifiedName.withDefaults]
    dsimp only
    split
    · exact hkey.version
    · exact h.version

end QualifiedName

namespace FileTree

variable {tree : FileTree} {roots : PackageRoots} {key other : QualifiedName}

/-- A file can be looked for under every name that a file of the tree depends on. -/
theorem WellNamed.namesFile_of_dependsOn (h : tree.WellNamed) (hkey : key.NamesFile)
    (hedge : tree.sources.toStorage.DependsOn roots key other) : other.NamesFile := by
  cases hedge with
  | types => exact hkey.typesOfPackage
  | @imported path file imported _ hfile himported htries =>
      obtain ⟨written, hwritten, rfl⟩ := List.mem_map.1 himported
      obtain ⟨_, _, text, _, _, hparse⟩ := exists_content_of_parse hfile.2.1
      have hname := (SourceFile.isWritten_of_mem_imports hparse hwritten).isWellFormed.namesFile
      have himport := hname.withDefaults hkey
      cases htries with
      | file => exact himport.fileIdentity
      | types => exact himport.typesOfPackage
      | member _ hfiles hmember =>
          obtain ⟨directory, stems, stem, hstems, hstem, rfl⟩ :=
            Storage.exists_stem_of_mem_packageFiles hfiles hmember
          exact himport.withName (h.slash_notMem_of_mem_sourceStems hstems hstem)

/-- In a tree in which the stems of source files have no dots, directories list only names of
files. -/
theorem listsFiles_of_forall_names
    (h : ∀ name ∈ tree.nodes.toList.flatMap Prod.fst, ∀ stem ∈ sourceStem? name,
      '.' ∉ stem.toList) : tree.sources.toStorage.ListsFiles roots := by
  apply Storage.listsFiles_of_forall_stems
  intro directory stems hstems stem hstem
  obtain ⟨place, name, content, hnode, hname⟩ := exists_file_of_mem_sourceStems hstems hstem
  refine h name ?_ stem (sourceStem?_eq_some_iff.2 hname)
  exact List.mem_flatMap.2 ⟨_, Std.TreeMap.mem_toList_iff_getElem?_eq_some.2 hnode,
    List.mem_append_right _ List.mem_cons_self⟩

end FileTree

/-! ## The calls of the parser -/

namespace Registry

/-- The paths that are parsed are pairwise different if the requested names have different ones. -/
theorem Logged.pairwise_parsed {Doc Declared : Type} [Document Doc Declared]
    {registry : Registry Doc} {roots : PackageRoots} {fresh files : List QualifiedName}
    (h : registry.Logged roots fresh files)
    (hpaths : ∀ key ∈ registry.cache.keys, ∀ other ∈ registry.cache.keys, ∀ path otherPath,
      roots.filePath key = .ok path → roots.filePath other = .ok otherPath →
        path.Same otherPath → key = other) :
    registry.parsed.Pairwise fun left right => ¬ left.Same right := by
  have hfiles : files.Pairwise fun key other => ∀ path otherPath,
      roots.filePath key = .ok path → roots.filePath other = .ok otherPath →
        ¬ path.Same otherPath := by
    refine h.nodup.imp_of_mem ?_
    intro key other hkey hother hne path otherPath hpath hotherPath hsame
    exact hne (hpaths key (h.requested key hkey) other (h.requested other hother) path otherPath
      hpath hotherPath hsame)
  have hvalues : (registry.parsed.map Except.ok).Pairwise
      fun left right : Except ConfigError Path => ∀ path otherPath,
        left = .ok path → right = .ok otherPath → ¬ path.Same otherPath := by
    rw [h.paths]
    exact List.pairwise_map.2 hfiles
  exact (List.pairwise_map.1 hvalues).imp fun hdifferent => hdifferent _ _ rfl rfl

/-- With one root, and in a tree whose directories list only names of files, no path is parsed
twice, whatever written names calls ask for. -/
theorem parsed_once {tree : FileTree} {root : PackageRoot} {registry : Registry SourceFile}
    (htree : tree.WellNamed) (hlists : tree.sources.toStorage.ListsFiles ⟨[root]⟩)
    (h : registry.ReachableBy {name | name.IsWritten} {tree.sources.toStorage} ⟨[root]⟩) :
    registry.parsed.Pairwise fun left right => ¬ left.Same right := by
  obtain ⟨files, hlogged⟩ := h.reachable.exists_logged
  -- requested names are of a form in which paths tell them apart, up to what follows a dot
  have hnames : ∀ key ∈ registry.cache.keys, key.NamesFile := by
    refine h.forall_keys (fun name hname _ => hname.isWellFormed.namesFile.fileIdentity) ?_
    rintro storage rfl key other hkey hedge
    exact htree.namesFile_of_dependsOn hkey hedge
  -- and nothing does follow one
  have hfiles : ∀ key ∈ registry.cache.keys, key.fileIdentity = key := by
    refine h.forall_keys (fun name _ _ => name.fileIdentity_fileIdentity) ?_
    rintro storage rfl key other _ hedge
    exact hlists.fileIdentity_eq_of_dependsOn hedge
  have hroot {key : QualifiedName} {path : Path}
      (hpath : (PackageRoots.mk [root]).filePath key = .ok path) :
      (PackageRoots.mk [root]).find key = .ok root := by
    obtain ⟨root', _, _, hfind, _⟩ := PackageRoots.exists_of_filePath hpath
    rw [hfind, List.mem_singleton.1 (PackageRoots.mem_entries_of_find hfind)]
  apply hlogged.pairwise_parsed
  intro key hkey other hother path otherPath hpath hotherPath hsame
  rw [← hfiles key hkey, ← hfiles other hother]
  exact PackageRoots.fileIdentity_eq_of_same_filePath (hnames key hkey) (hnames other hother)
    ((hroot hpath).trans (hroot hotherPath).symm) hpath hotherPath hsame

end Registry

/-! ## A file with one name and a file with two -/

namespace WholePackage

open DottedStem (roots)

/-- The types of one package import another package, which has one interface. -/
def tree : FileTree :=
  .ofFiles [] [
    (⟨"hw/b/1.0/types.hal"⟩, "package hw.b@1.0;\nimport hw.a@1.0;\n".toUTF8),
    (⟨"hw/a/1.0/IA.hal"⟩, "package hw.a@1.0;\ninterface IA {};\n".toUTF8)]

/-- What a request for the types leaves. -/
def registry : Registry SourceFile :=
  ((∅ : Registry SourceFile).resolve tree.sources roots ⟨"hw.b", "@1.0", "types"⟩).2

/-- What a request for the interface leaves after that. -/
def later : Registry SourceFile :=
  (registry.resolve tree.sources roots ⟨"hw.a", "@1.0", "IA"⟩).2

theorem interface_parsed_once :
    tree.WellNamed ∧ tree.sources.toStorage.ListsFiles roots ∧
      later.ReachableBy {name | name.IsWritten} {tree.sources.toStorage} roots ∧
      later.parsed = [⟨"hw/b/1.0/types.hal"⟩, ⟨"hw/a/1.0/types.hal"⟩, ⟨"hw/a/1.0/IA.hal"⟩] ∧
      later.parsed.Pairwise fun left right => ¬ left.Same right := by
  have htree : tree.WellNamed := FileTree.wellNamed_ofFiles _ _
  have hlists : tree.sources.toStorage.ListsFiles roots :=
    FileTree.listsFiles_of_forall_names (by decide +kernel)
  have hregistry : registry.ReachableBy {name | name.IsWritten} {tree.sources.toStorage} roots :=
    .resolve .refl rfl ⟨"hw.b@1.0::types", rfl⟩ (Registry.resolves_resolve _ _ _ _)
  have hlater : later.ReachableBy {name | name.IsWritten} {tree.sources.toStorage} roots :=
    .resolve hregistry rfl ⟨"hw.a@1.0::IA", rfl⟩ (Registry.resolves_resolve _ _ _ _)
  exact ⟨htree, hlists, hlater, by decide +kernel, Registry.parsed_once htree hlists hlater⟩

end WholePackage

namespace DottedStem

/-- What a request for the file without the dot leaves after the request for the types. -/
def later : Registry SourceFile :=
  (registry.resolve tree.sources roots ⟨"hw.a", "@1.0", "IA"⟩).2

/-- A path is parsed under the stem that its directory lists and under the name of the file. -/
theorem path_parsed_twice :
    tree.WellNamed ∧
      later.ReachableBy {name | name.IsWritten} {tree.sources.toStorage} roots ∧
      later.parsed = [⟨"hw/b/1.0/types.hal"⟩, ⟨"hw/a/1.0/types.hal"⟩, ⟨"hw/a/1.0/IA.hal"⟩,
        ⟨"hw/a/1.0/IA.hal"⟩] ∧
      ¬ later.parsed.Pairwise fun left right => ¬ left.Same right := by
  have hparsed : later.parsed = [⟨"hw/b/1.0/types.hal"⟩, ⟨"hw/a/1.0/types.hal"⟩,
      ⟨"hw/a/1.0/IA.hal"⟩, ⟨"hw/a/1.0/IA.hal"⟩] := by decide +kernel
  refine ⟨FileTree.wellNamed_ofFiles _ _, ?_, hparsed, ?_⟩
  · exact reachableBy_registry.resolve rfl ⟨"hw.a@1.0::IA", rfl⟩ (Registry.resolves_resolve _ _ _ _)
  · rw [hparsed]
    decide

end DottedStem

end HalPackages
