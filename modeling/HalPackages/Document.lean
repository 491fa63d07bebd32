import HalPackages.Source.SourceFile

/-!
# Documents

A document is what resolution sees of a parsed file: the package it declares, its
interface, its imports and the types that can be looked up in it.
-/

namespace HalPackages

/-- What can be asked of a document.  A look-up gives a `Declared`. -/
class Document (Doc : Type) (Declared : outParam Type) where
  /-- The package and the version that the file declares. -/
  package : Doc → QualifiedName
  /-- The interface that the file declares.  A file of types declares none. -/
  interfaceName? : Doc → Option String
  /-- The imports as written; their package and version may be left out. -/
  imports : Doc → List QualifiedName
  /-- The type at a dotted path from the top level of the file. -/
  lookupType? : Doc → String → Option Declared

instance : Document SourceFile TypeDecl where
  package file := file.package
  interfaceName? file := file.interface?.map TypeDecl.name
  imports file := file.imports
  lookupType? file := file.lookupType?

namespace Document

variable {Doc Declared : Type} [Document Doc Declared]

/-- The name that a document declares itself to be the file of. -/
def identity (document : Doc) : QualifiedName :=
  (package document).withName ((interfaceName? document).getD QualifiedName.typesName)

/-- A document is the file of a name if it declares the name's package and version and the name's
interface; the file of a package's types declares no interface. -/
def Declares (document : Doc) (key : QualifiedName) : Prop :=
  (package document).package = key.package ∧ (package document).version = key.version ∧
    interfaceName? document = if key.IsTypes then none else some key.localName

theorem Declares.identity_eq {document : Doc} {key : QualifiedName}
    (h : Declares document key) : identity document = key := by
  obtain ⟨hpackage, hversion, hinterface⟩ := h
  rw [identity, QualifiedName.withName, hpackage, hversion, hinterface]
  split
  · rename_i htypes
    rw [Option.getD_none, ← show key.localName = QualifiedName.typesName from htypes]
  · rfl

/-- The imports of the file of a name, with package and version filled in. -/
def importsFor (document : Doc) (key : QualifiedName) : List QualifiedName :=
  (imports document).map (·.withDefaults key.package key.version)

end Document

end HalPackages
