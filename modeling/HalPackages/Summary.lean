import HalPackages.Sources

/-!
# Summaries

A summary is a document that was not read from a source but is given outright.
A table of summaries stands in for a parser: it says what is found at each path.
-/

namespace HalPackages

/-- A document that lists the types that can be looked up in it. -/
structure Summary where
  package : QualifiedName
  interfaceName : Option String
  imports : List QualifiedName
  types : List String
deriving DecidableEq

instance : Document Summary String where
  package := Summary.package
  interfaceName? := Summary.interfaceName
  imports := Summary.imports
  lookupType? summary path := summary.types.find? (· = path)

/-- What a table says about a path. -/
inductive SummaryEntry where
  | summary (summary : Summary)
  | missing (path : Path)
  | unreadable (reason : String)
  | malformed (position : Position) (message : String)
deriving DecidableEq

/-- Paths with what is found there.  Later entries hide earlier ones of the same path. -/
structure SummaryTable where
  entries : List (Path × SummaryEntry)

namespace SummaryTable

/-- What the table says about a path, however it is written. -/
def entry? (table : SummaryTable) (path : Path) : Option SummaryEntry :=
  (table.entries.reverse.find? (·.1.Same path)).map Prod.snd

/-- The summary at a path. -/
def parse (table : SummaryTable) (path : Path) : Except ParseError Summary :=
  match table.entry? path with
  | none => .error (.missing path)
  | some (.summary summary) => .ok summary
  | some (.missing other) => .error (.missing other)
  | some (.unreadable reason) => .error (.unreadable path reason)
  | some (.malformed position message) => .error (.malformed path position message)

/-- The name that an entry declares itself to be the file of. -/
def entryIdentity? : Path × SummaryEntry → Option QualifiedName
  | (_, .summary summary) => some (Document.identity summary)
  | _ => none

/-- A summary that is found at a path is one of the table's. -/
theorem exists_entry_of_parse {table : SummaryTable} {path : Path} {summary : Summary}
    (h : table.parse path = .ok summary) : ∃ other, (other, .summary summary) ∈ table.entries := by
  unfold parse at h
  split at h <;> cases h
  rename_i hentry
  obtain ⟨⟨other, _⟩, hfind, rfl⟩ := Option.map_eq_some_iff.1 hentry
  exact ⟨other, List.mem_reverse.1 (List.mem_of_find?_eq_some hfind)⟩

theorem identity_of_parse {table : SummaryTable} {path : Path} {summary : Summary}
    (h : table.parse path = .ok summary) :
    Document.identity summary ∈ table.entries.filterMap entryIdentity? := by
  obtain ⟨other, hentry⟩ := exists_entry_of_parse h
  exact List.mem_filterMap.2 ⟨(other, .summary summary), hentry, rfl⟩

/-- The summaries of a table as documents; directories are listed from a tree. -/
def sources (table : SummaryTable) (tree : FileTree) : Sources Summary where
  parse := table.parse
  list := tree.sourceStems
  bound := table.entries.length
  bounded := ⟨table.entries.filterMap entryIdentity?, List.length_filterMap_le _ _,
    fun _ _ => identity_of_parse⟩

end SummaryTable

end HalPackages
