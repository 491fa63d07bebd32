/-!
# File paths

A path is kept and shown as it was built.  Two paths are the same when their
parts are: repeated and trailing slashes make no difference, and neither does a
`.` that is not the first part.
-/

namespace HalPackages

/-- A path in its written form. -/
structure Path where
  text : String
deriving DecidableEq, Inhabited

/-- One part of a path. -/
inductive PathPart where
  /-- The slash that an absolute path starts with. -/
  | root
  /-- A dot at the start of a path. -/
  | here
  /-- Two dots. -/
  | up
  | name (name : String)
deriving DecidableEq

namespace Path

/-- The part that a text between two slashes stands for; nothing and a dot stand for none. -/
def part? (segment : List Char) : Option PathPart :=
  if segment = [] ∨ segment = ['.'] then none
  else if segment = ['.', '.'] then some .up
  else some (.name (String.ofList segment))

/-- The parts of a path, in order. -/
def parts (path : Path) : List PathPart :=
  if path.text = "" then []
  else
    match path.text.toList.splitOn '/' with
    | [] :: segments => .root :: segments.filterMap part?
    | ['.'] :: segments => .here :: segments.filterMap part?
    | segments => segments.filterMap part?

/-- Whether a path is written in a form that only a directory answers to: with a slash, or a slash
and a dot, at the end. -/
def namesDirectory (path : Path) : Bool :=
  match (path.text.toList.splitOn '/').reverse with
  | [] :: _ :: _ | ['.'] :: _ :: _ => true
  | _ => false

/-- Two paths with the same parts. -/
def Same (left right : Path) : Prop :=
  left.parts = right.parts

instance (left right : Path) : Decidable (left.Same right) :=
  inferInstanceAs (Decidable (_ = _))

theorem Same.refl (path : Path) : path.Same path := rfl

end Path

end HalPackages
