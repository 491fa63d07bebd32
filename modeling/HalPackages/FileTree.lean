import HalPackages.Path
import HalPackages.Text.Split
import Std.Data.TreeMap

/-!
# File trees

A finite tree of files and directories.  Each file and directory other than the
top one is listed under the names that lead to it; a path is followed from the
top, name by name.  Two dots that lead out of the tree, and the slash that an
absolute path starts with, lead to directories in which nothing is found.
-/

namespace HalPackages

open Text

/-- What stands at a place of a file tree. -/
inductive FileNode where
  | file (content : ByteArray)
  | directory

/-- Why a file or a directory cannot be read. -/
inductive FileError where
  | notFound
  | notADirectory
  | isADirectory
  | invalidText
  /-- A name or the whole path is longer than a file system takes. -/
  | nameTooLong
  /-- The path has a character that no path can have. -/
  | invalidPath
deriving DecidableEq

/-- What a file error tells the user. -/
def FileError.message : FileError → String
  | notFound => "No such file or directory (os error 2)"
  | notADirectory => "Not a directory (os error 20)"
  | isADirectory => "Is a directory (os error 21)"
  | invalidText => "stream did not contain valid UTF-8"
  | nameTooLong => "File name too long (os error 36)"
  | invalidPath => "file name contained an unexpected NUL byte"

/-- The files and directories of a tree, by the names that lead to them. -/
structure FileTree where
  nodes : Std.TreeMap (List String) FileNode

namespace FileTree

/-- The tree that has only its top directory. -/
def empty : FileTree := ⟨∅⟩

instance : EmptyCollection FileTree := ⟨empty⟩

instance : Inhabited FileTree := ⟨empty⟩

/-- Whether a place is the top directory, which no names lead to, or a directory that holds the
top one, which only two dots and a slash lead to. -/
def isTopOrAbove (place : List String) : Bool :=
  place.all fun name => name = ".." || name = "/"

/-- What the names of a place lead to. -/
def node? (tree : FileTree) (place : List String) : Option FileNode :=
  if isTopOrAbove place then some .directory else tree.nodes[place]?

/-- The place that two dots lead to. -/
def placeAbove (place : List String) : List String :=
  if isTopOrAbove place then place ++ [".."] else place.dropLast

/-! ## Following a path -/

/-- The most bytes that a name can have. -/
def nameLimit : Nat := 255

/-- The most bytes that a path can have. -/
def pathLimit : Nat := 4095

/-- Follow the parts of a path from a place of the tree. -/
def walk (tree : FileTree) (place : List String) : List PathPart → Except FileError (List String)
  | [] => .ok place
  | part :: parts =>
    match tree.node? place with
    | none => .error .notFound
    | some (.file _) => .error .notADirectory
    | some .directory =>
      match part with
      | .here => tree.walk place parts
      | .name name =>
        if nameLimit < name.utf8ByteSize then .error .nameTooLong
        else tree.walk (place ++ [name]) parts
      | .up => tree.walk (placeAbove place) parts
      | .root => tree.walk ["/"] parts

/-- Why a path leads nowhere in any tree, if its text alone is the reason. -/
def malformed? (path : Path) : Option FileError :=
  if path.text = "" then some .notFound
  else if '\x00' ∈ path.text.toList then some .invalidPath
  else if pathLimit < path.text.utf8ByteSize then some .nameTooLong
  else none

/-- The place that a path leads to, and what stands there. -/
def find (tree : FileTree) (path : Path) : Except FileError (List String × FileNode) :=
  match malformed? path with
  | some cause => .error cause
  | none =>
    match tree.walk [] path.parts with
    | .error cause => .error cause
    | .ok place =>
      match tree.node? place with
      | none => .error .notFound
      | some (.file content) =>
        if path.namesDirectory then .error .notADirectory else .ok (place, .file content)
      | some .directory => .ok (place, .directory)

/-! ## Reading -/

/-- Whether a path leads to a file. -/
def isReadable (tree : FileTree) (path : Path) : Bool :=
  match tree.find path with
  | .ok (_, .file _) => true
  | _ => false

/-- The text of a file. -/
def read (tree : FileTree) (path : Path) : Except FileError String :=
  match tree.find path with
  | .error cause => .error cause
  | .ok (_, .directory) => .error .isADirectory
  | .ok (_, .file content) =>
    match String.fromUTF8? content with
    | some text => .ok text
    | none => .error .invalidText

/-- What stands before and after the last dot of a file name.  A dot at the front alone does not
split a name, and two dots are not the name of a file. -/
def splitExtension? (name : String) : Option (String × String) :=
  if name = ".." then none
  else
    match splitLast '.' name.toList with
    | none | some ([], _) => none
    | some (before, after) => some (String.ofList before, String.ofList after)

/-- The extension of a file name. -/
def extension? (name : String) : Option String :=
  (splitExtension? name).map Prod.snd

/-- A file name without its extension. -/
def fileStem (name : String) : String :=
  match splitExtension? name with
  | some (stem, _) => stem
  | none => name

/-- The extension of HAL sources. -/
def sourceExtension : String := "hal"

/-- The name of a HAL source without its extension. -/
def sourceStem? (name : String) : Option String :=
  if extension? name = some sourceExtension then some (fileStem name) else none

/-- The stem of the source file that stands at a place directly inside a directory. -/
def stemIn? (directory : List String) : List String × FileNode → Option String
  | (place, .file _) =>
    match afterMark? directory place with
    | some [name] => sourceStem? name
    | _ => none
  | (_, .directory) => none

/-- The stems of the source files directly inside a directory, in the order of their file names.
A path that leads to a file lists nothing. -/
def sourceStems (tree : FileTree) (path : Path) : Except FileError (List String) :=
  match tree.find path with
  | .error cause => .error cause
  | .ok (_, .file _) => .ok []
  | .ok (place, .directory) => .ok (tree.nodes.toList.filterMap (stemIn? place))

/-! ## Writing -/

/-- Make the directories that the parts of a path lead through, from a place on, and tell where they
lead.  Two dots go back out of a directory, which stays made.  A file in the way stays a file. -/
def makeDirectories (tree : FileTree) (place : List String) :
    List PathPart → FileTree × List String
  | [] => (tree, place)
  | .name name :: parts =>
    makeDirectories ⟨tree.nodes.insertIfNew (place ++ [name]) .directory⟩ (place ++ [name]) parts
  | .up :: parts => tree.makeDirectories (placeAbove place) parts
  | .here :: parts => tree.makeDirectories place parts
  | .root :: parts => tree.makeDirectories ["/"] parts

/-- Make a directory and the ones that its path leads through. -/
def addDirectory (tree : FileTree) (path : Path) : FileTree :=
  (tree.makeDirectories [] path.parts).1

/-- Write a file, and make the directories that its path leads through.  A directory is not
overwritten. -/
def write (tree : FileTree) (path : Path) (content : ByteArray) : FileTree :=
  match path.parts.getLast? with
  | some (.name name) =>
    let (tree, place) := tree.makeDirectories [] path.parts.dropLast
    match tree.node? (place ++ [name]) with
    | some .directory => tree
    | _ => ⟨tree.nodes.insert (place ++ [name]) (.file content)⟩
  | _ => tree

/-- Remove a file. -/
def remove (tree : FileTree) (path : Path) : FileTree :=
  match tree.find path with
  | .ok (place, .file _) => ⟨tree.nodes.erase place⟩
  | _ => tree

/-- The tree of some directories and files. -/
def ofFiles (directories : List Path) (files : List (Path × ByteArray)) : FileTree :=
  files.foldl (fun tree (path, content) => tree.write path content)
    (directories.foldl addDirectory empty)

end FileTree

end HalPackages
