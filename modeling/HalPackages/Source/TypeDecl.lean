import HalPackages.QualifiedName
import HalPackages.Source.Position
import Std.Data.TreeMap

/-!
# Declared types

A source declares named types, and interfaces, structs and unions declare
further types inside their bodies.  A scope keeps its declarations in the order
in which they were made, with at most one of each name.
-/

namespace HalPackages

/-- The kinds of types that a source can declare. -/
inductive TypeKind where
  | interface
  | struct
  | union
  | enum
  | typedef
deriving DecidableEq, Inhabited

/-- The word that introduces a declaration of this kind. -/
def TypeKind.word : TypeKind → String
  | interface => "interface"
  | struct => "struct"
  | union => "union"
  | enum => "enum"
  | typedef => "typedef"

/-- Whether types can be declared in the body of a type of this kind. -/
def TypeKind.hasScope : TypeKind → Bool
  | interface | struct | union => true
  | enum | typedef => false

mutual

/-- A named type, where its name stands, the interface it extends and the types declared inside
it. -/
structure TypeDecl where
  name : String
  kind : TypeKind
  span : Span
  parent : Option QualifiedName
  members : Scope

/-- Declarations in order, and the position of each name among them. -/
structure Scope where
  decls : List TypeDecl
  positions : Std.TreeMap String Nat

end

namespace Scope

/-- The scope without declarations. -/
def empty : Scope := ⟨[], ∅⟩

instance : EmptyCollection Scope := ⟨empty⟩

instance : Inhabited Scope := ⟨empty⟩

/-- The number of declarations of the scope itself. -/
def size (scope : Scope) : Nat :=
  scope.decls.length

/-- Add a declaration after the others.  If its name is taken, the declaration comes back and the
scope stays as it is. -/
def insert (scope : Scope) (decl : TypeDecl) : Except TypeDecl Scope :=
  if scope.positions.contains decl.name then .error decl
  else .ok ⟨scope.decls ++ [decl], scope.positions.insert decl.name scope.decls.length⟩

/-- The declaration of a name. -/
def get? (scope : Scope) (name : String) : Option TypeDecl :=
  scope.positions[name]?.bind fun position => scope.decls[position]?

/-- The declaration that is reached by one name after the other, from the outside in. -/
def descend? (scope : Scope) : List String → Option TypeDecl
  | [] => none
  | [name] => scope.get? name
  | name :: inner => (scope.get? name).bind fun decl => decl.members.descend? inner

/-- The declaration at a dotted path. -/
def lookup? (scope : Scope) (path : String) : Option TypeDecl :=
  scope.descend? ((path.toList.splitOn '.').map String.ofList)

end Scope

/-- A declaration and the ones inside it, outer ones first, each with its depth. -/
def TypeDecl.preorder (depth : Nat) (decl : TypeDecl) : List (Nat × TypeDecl) :=
  match decl with
  | ⟨name, kind, span, parent, ⟨decls, positions⟩⟩ =>
    (depth, ⟨name, kind, span, parent, ⟨decls, positions⟩⟩) :: ofDecls (depth + 1) decls
where
  /-- The same for a list of declarations of one depth. -/
  ofDecls (depth : Nat) : List TypeDecl → List (Nat × TypeDecl)
    | [] => []
    | decl :: decls => decl.preorder depth ++ ofDecls depth decls

/-- All declarations of a scope, outer ones first, each with its depth. -/
def Scope.preorder (scope : Scope) : List (Nat × TypeDecl) :=
  TypeDecl.preorder.ofDecls 0 scope.decls

end HalPackages
