import HalPackages.PackageRoots
import HalPackages.Proofs.Names.WrittenNames
import Mathlib.Data.List.Basic

/-!
# The parts of a path

The texts between the slashes of a path stand for its parts, and what follows a
slash adds its parts to those before it.  Two dots, a single dot and nothing at all
between two slashes are no names; every other text is the name of an entry of a
directory.  So the names that are written below a directory come out again as the
last parts of the path.
-/

namespace HalPackages

open Text

namespace Path

/-- The part that the text before the first slash stands for. -/
def firstPart? (segment : List Char) : Option PathPart :=
  if segment = [] then some .root
  else if segment = ['.'] then some .here
  else part? segment

/-- The parts that the texts between slashes stand for. -/
def partsOf : List (List Char) → List PathPart
  | [] => []
  | first :: segments => (firstPart? first).toList ++ segments.filterMap part?

theorem parts_eq_partsOf (path : Path) (h : path.text ≠ "") :
    path.parts = partsOf (path.text.toList.splitOn '/') := by
  rw [parts, if_neg h]
  obtain ⟨segments, hsegments⟩ := exists_splitOn_eq_takeWhile_cons '/' path.text.toList
  rw [hsegments]
  generalize path.text.toList.takeWhile (· != '/') = first
  rw [partsOf, firstPart?]
  split
  · rename_i hfirst
    rw [List.cons.injEq] at hfirst
    rw [if_pos hfirst.1, hfirst.2]
    rfl
  · rename_i hfirst
    rw [List.cons.injEq] at hfirst
    rw [hfirst.1, hfirst.2]
    rfl
  · rename_i hroot hhere
    have hnil : first ≠ [] := fun h => hroot segments (by rw [h])
    have hdot : first ≠ ['.'] := fun h => hhere segments (by rw [h])
    rw [if_neg hnil, if_neg hdot, List.filterMap_cons]
    cases part? first <;> rfl

/-- Only the first text can stand for a root or for a dot. -/
theorem partsOf_append {front rest : List (List Char)} (h : front ≠ []) :
    partsOf (front ++ rest) = partsOf front ++ rest.filterMap part? := by
  obtain ⟨first, segments, rfl⟩ := List.exists_cons_of_ne_nil h
  rw [List.cons_append, partsOf, partsOf, List.filterMap_append, List.append_assoc]

/-- A text that a directory can have as the name of an entry. -/
structure IsName (text : List Char) : Prop where
  ne_nil : text ≠ []
  ne_dot : text ≠ ['.']
  ne_dots : text ≠ ['.', '.']
  slash_notMem : '/' ∉ text

theorem IsName.part?_eq {text : List Char} (h : IsName text) :
    part? text = some (.name (String.ofList text)) := by
  rw [part?, if_neg (not_or.2 ⟨h.ne_nil, h.ne_dot⟩), if_neg h.ne_dots]

theorem filterMap_part?_of_forall_isName {texts : List (List Char)}
    (h : ∀ text ∈ texts, IsName text) :
    texts.filterMap part? = texts.map fun text => .name (String.ofList text) :=
  List.filterMap_eq_map_iff_forall_eq_some.2 fun text htext => (h text htext).part?_eq

theorem isName_of_part? {text : List Char} {name : String} (h : part? text = some (.name name))
    (hslash : '/' ∉ text) : IsName name.toList := by
  rw [part?] at h
  split at h
  · contradiction
  · rename_i hplain
    obtain ⟨hnil, hdot⟩ := not_or.1 hplain
    split at h
    · cases h
    · rename_i hdots
      cases h
      rw [String.toList_ofList]
      exact ⟨hnil, hdot, hdots, hslash⟩

theorem isName_of_mem_parts {path : Path} {name : String} (h : .name name ∈ path.parts) :
    IsName name.toList := by
  -- the texts between slashes have no slashes, and a part is one of these texts
  have htext : path.text ≠ "" := by
    intro hempty
    rw [parts, if_pos hempty] at h
    contradiction
  rw [parts_eq_partsOf path htext] at h
  obtain ⟨segments, hsegments⟩ := exists_splitOn_eq_takeWhile_cons '/' path.text.toList
  have hslash : ∀ segment ∈ path.text.toList.splitOn '/', '/' ∉ segment :=
    fun segment hsegment => not_mem_of_mem_splitOn hsegment
  rw [hsegments] at h hslash
  rcases List.mem_append.1 h with hfirst | hrest
  · rw [Option.mem_toList, firstPart?] at hfirst
    split at hfirst
    · cases hfirst
    · split at hfirst
      · cases hfirst
      · exact isName_of_part? hfirst (hslash _ List.mem_cons_self)
  · obtain ⟨segment, hsegment, hpart⟩ := List.mem_filterMap.1 hrest
    exact isName_of_part? hpart (hslash segment (List.mem_cons_of_mem _ hsegment))

/-- Names below a directory are the last parts of a path. -/
theorem parts_append_names {front : List Char} {names : List (List Char)} (hne : names ≠ [])
    (hnames : ∀ name ∈ names, IsName name) :
    (Path.mk (String.ofList (front ++ '/' :: ['/'].intercalate names))).parts =
      (Path.mk (String.ofList (front ++ ['/']))).parts ++
        names.map fun name => .name (String.ofList name) := by
  have hparts (rest : List Char) :
      (Path.mk (String.ofList (front ++ '/' :: rest))).parts =
        partsOf (front.splitOn '/') ++ (rest.splitOn '/').filterMap part? := by
    have htext : String.ofList (front ++ '/' :: rest) ≠ "" := by
      intro hempty
      have hlist := congrArg String.toList hempty
      rw [String.toList_ofList] at hlist
      exact List.append_ne_nil_of_right_ne_nil front (List.cons_ne_nil _ _) hlist
    rw [parts_eq_partsOf ⟨String.ofList (front ++ '/' :: rest)⟩ htext, String.toList_ofList,
      List.splitOn_append_cons_self, partsOf_append (List.splitOn_ne_nil _ _)]
  have hslash : ∀ name ∈ names, '/' ∉ name := fun name hname => (hnames name hname).slash_notMem
  rw [hparts, hparts, List.splitOn_intercalate '/' hslash hne,
    filterMap_part?_of_forall_isName hnames]
  rw [show (([] : List Char).splitOn '/').filterMap part? = [] from rfl, List.append_nil]

end Path

end HalPackages
