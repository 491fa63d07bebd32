import HalPackages.Document
import HalPackages.FileTree

/-!
# Where documents come from

A storage gives the document at a path and the source files in a directory.  Of
sources it is also known that only finitely many files can be documents: the
names that they declare themselves to be are bounded in number, and this bounds
how deep one request can lead.
-/

namespace HalPackages

/-- A parser and a directory listing. -/
structure Storage (Doc : Type) where
  /-- The document at a path. -/
  parse : Path → Except ParseError Doc
  /-- The stems of the source files in a directory. -/
  list : Path → Except FileError (List String)

/-- A storage that may give documents at any number of paths, but they declare at most `bound`
different names. -/
structure Sources (Doc : Type) {Declared : Type} [Document Doc Declared] extends Storage Doc where
  /-- A number of names. -/
  bound : Nat
  /-- Every document declares one of as many names as the bound says. -/
  bounded : ∃ names : List QualifiedName, names.length ≤ bound ∧
    ∀ path document, parse path = .ok document → Document.identity document ∈ names

namespace FileTree

/-- The document that a file of a tree gives. -/
def parse (tree : FileTree) (path : Path) : Except ParseError SourceFile :=
  if tree.isReadable path then
    match tree.read path with
    | .ok text => SourceFile.parseAt path text
    | .error cause => .error (.unreadable path cause.message)
  else .error (.missing path)

/-- The name that the content of a file declares itself to be. -/
def contentIdentity? : List String × FileNode → Option QualifiedName
  | (_, .file content) =>
    (String.fromUTF8? content).bind fun text =>
      (SourceFile.parse text).toOption.map Document.identity
  | (_, .directory) => none

/-- The node at the end of a path is one of the tree's, or the top directory. -/
theorem get?_of_find {tree : FileTree} {path : Path} {place : List String} {content : ByteArray}
    (h : tree.find path = .ok (place, .file content)) :
    tree.nodes[place]? = some (.file content) := by
  unfold find at h
  split at h
  · cases h
  · split at h
    · cases h
    · rename_i place' _
      split at h
      · cases h
      · rename_i content' hnode
        split at h
        · cases h
        · cases h
          unfold node? at hnode
          split at hnode
          · cases hnode
          · exact hnode
      · cases h

/-- A document of a tree is the content of one of its files. -/
theorem exists_content_of_parse {tree : FileTree} {path : Path} {file : SourceFile}
    (h : tree.parse path = .ok file) :
    ∃ (place : List String) (content : ByteArray) (text : String),
      tree.nodes[place]? = some (.file content) ∧
        String.fromUTF8? content = some text ∧ SourceFile.parse text = .ok file := by
  unfold parse at h
  split at h
  · split at h
    · rename_i text hread
      unfold read at hread
      split at hread
      · cases hread
      · cases hread
      · rename_i place content hfind
        split at hread
        · rename_i text' hutf8
          cases hread
          exact ⟨place, content, text, get?_of_find hfind, hutf8, SourceFile.parseAt_eq_ok_iff.1 h⟩
        · cases hread
    · cases h
  · cases h

/-- A document of a tree is what the content of one of its files declares. -/
theorem identity_of_parse {tree : FileTree} {path : Path} {file : SourceFile}
    (h : tree.parse path = .ok file) :
    Document.identity file ∈ tree.nodes.toList.filterMap contentIdentity? := by
  obtain ⟨place, content, text, hnode, hutf8, hparse⟩ := exists_content_of_parse h
  refine List.mem_filterMap.2 ⟨(place, .file content), ?_, ?_⟩
  · exact Std.TreeMap.mem_toList_iff_getElem?_eq_some.2 hnode
  · simp [contentIdentity?, hutf8, hparse, Except.toOption]

/-- The source files of a tree as documents. -/
def sources (tree : FileTree) : Sources SourceFile where
  parse := tree.parse
  list := tree.sourceStems
  bound := tree.nodes.size
  bounded := ⟨tree.nodes.toList.filterMap contentIdentity?,
    Nat.le_trans (List.length_filterMap_le _ _) (Nat.le_of_eq Std.TreeMap.length_toList),
    fun _ _ => identity_of_parse⟩

end FileTree

end HalPackages
