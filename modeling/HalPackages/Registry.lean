import HalPackages.Document
import HalPackages.OrderedMap
import HalPackages.Registry.Failure

/-!
# The registry of documents

A registry remembers, for every file that was ever requested, whether it is still
being resolved, has a document or has failed.  Files are known by the name of
their outermost declaration; they are listed in the order of their first request,
and documents in the order in which they were completed.
-/

namespace HalPackages

/-- The position of a document among those of a registry.  It has room in 32 bits as long as there
are no more than `2 ^ 32` documents. -/
structure DocumentId where
  index : Nat
deriving DecidableEq

/-- A document identifier as it is shown. -/
def DocumentId.render (id : DocumentId) : String :=
  "doc#" ++ toString id.index

/-- What a registry knows of a requested file. -/
inductive Slot where
  | resolving
  | resolved (id : DocumentId)
  | failed (failure : ResolveFailure)
deriving DecidableEq

/-- What can be told about any file, requested or not. -/
inductive ResolveState where
  | unseen
  | resolving
  | resolved (id : DocumentId)
  | failed
deriving DecidableEq

/-- A document with the name and the path it was resolved under. -/
structure DocumentEntry (Doc : Type) where
  name : QualifiedName
  path : Path
  document : Doc

/-- A document identifier that a registry has not given out. -/
structure ForeignDocument where
  id : DocumentId
deriving DecidableEq

/-- What the use of a foreign identifier tells the user. -/
def ForeignDocument.message (error : ForeignDocument) : String :=
  error.id.render ++ " was not issued by this coordinator"

/-- A type that was found under a name. -/
structure FoundType (Declared : Type) where
  name : QualifiedName
  document : DocumentId
  declared : Declared

/-- The requested files, the documents, and the paths that were parsed, each in order. -/
structure Registry (Doc : Type) where
  cache : OrderedMap QualifiedName Slot
  documents : List (DocumentEntry Doc)
  parsed : List Path

namespace Registry

variable {Doc : Type}

/-- The registry of which nothing was requested. -/
def empty : Registry Doc := ⟨∅, [], []⟩

instance : EmptyCollection (Registry Doc) := ⟨empty⟩

instance : Inhabited (Registry Doc) := ⟨empty⟩

/-! ## What is known -/

/-- What is known of a file. -/
def slot? (registry : Registry Doc) (key : QualifiedName) : Option Slot :=
  registry.cache.get? key

/-- The number of files ever requested. -/
def size (registry : Registry Doc) : Nat :=
  registry.cache.size

/-- The state of the file that declares a name. -/
def state (registry : Registry Doc) (name : QualifiedName) : ResolveState :=
  match registry.slot? name.fileIdentity with
  | none => .unseen
  | some .resolving => .resolving
  | some (.resolved id) => .resolved id
  | some (.failed _) => .failed

/-- Why the file that declares a name has failed. -/
def failure? (registry : Registry Doc) (name : QualifiedName) : Option ResolveFailure :=
  match registry.slot? name.fileIdentity with
  | some (.failed failure) => some failure
  | _ => none

/-- The failed files, in the order of their first request. -/
def failures (registry : Registry Doc) : List (QualifiedName × ResolveFailure) :=
  registry.cache.entries.filterMap fun (key, slot) =>
    match slot with
    | .failed failure => some (key, failure)
    | _ => none

/-! ## Documents -/

/-- The entry of a document. -/
def entry? (registry : Registry Doc) (id : DocumentId) : Option (DocumentEntry Doc) :=
  registry.documents[id.index]?

/-- The entry of a document that this registry has given out. -/
def entry (registry : Registry Doc) (id : DocumentId) :
    Except ForeignDocument (DocumentEntry Doc) :=
  match registry.entry? id with
  | some entry => .ok entry
  | none => .error ⟨id⟩

/-- The document of an identifier, if this registry has given it out. -/
def document? (registry : Registry Doc) (id : DocumentId) : Option Doc :=
  (registry.entry? id).map DocumentEntry.document

/-- The document of an identifier. -/
def document (registry : Registry Doc) (id : DocumentId) : Except ForeignDocument Doc :=
  (registry.entry id).map DocumentEntry.document

/-- The file that a document was resolved as. -/
def documentName (registry : Registry Doc) (id : DocumentId) :
    Except ForeignDocument QualifiedName :=
  (registry.entry id).map DocumentEntry.name

/-- The path that a document was read from. -/
def documentPath (registry : Registry Doc) (id : DocumentId) : Except ForeignDocument Path :=
  (registry.entry id).map DocumentEntry.path

/-- The document of the file that declares a name. -/
def get? (registry : Registry Doc) (name : QualifiedName) : Option Doc :=
  match registry.state name with
  | .resolved id => registry.document? id
  | _ => none

/-- All documents with their identifiers, in the order in which they were completed. -/
def entries (registry : Registry Doc) : List (DocumentId × DocumentEntry Doc) :=
  registry.documents.zipIdx.map fun (entry, index) => (⟨index⟩, entry)

/-- The resolved files with their documents, in the order of their first request. -/
def resolved (registry : Registry Doc) : List (QualifiedName × Doc) :=
  registry.cache.entries.filterMap fun (key, slot) =>
    match slot with
    | .resolved id => (registry.document? id).map fun document => (key, document)
    | _ => none

/-- Visit the resolved files in the order of their first request.  A visit that fails is the
last. -/
def forDocuments {m : Type → Type} [Monad m] (registry : Registry Doc)
    (visit : QualifiedName → Doc → m Unit) : m Unit :=
  registry.resolved.forM fun (name, document) => visit name document

/-! ## Types -/

/-- A type in the document of a resolved file. -/
def typeIn? {Declared : Type} [Document Doc Declared] (registry : Registry Doc)
    (name key : QualifiedName) : Option (FoundType Declared) :=
  match registry.slot? key with
  | some (.resolved id) =>
    ((registry.document? id).bind (Document.lookupType? · name.localName)).map
      (⟨name, id, ·⟩)
  | _ => none

/-- Find a type that is already resolved: in the file that the name names, else among the types
that its package shares. -/
def lookupType {Declared : Type} [Document Doc Declared] (registry : Registry Doc)
    (name : QualifiedName) : Except ConfigError (Option (FoundType Declared)) :=
  if name.IsFullyQualified then
    .ok (registry.typeIn? name name.fileIdentity <|> registry.typeIn? name name.typesOfPackage)
  else .error (.notFullyQualified name)

/-! ## Changes -/

/-- Record that a file is being resolved. -/
def start (registry : Registry Doc) (key : QualifiedName) : Registry Doc :=
  { registry with cache := registry.cache.insert key .resolving }

/-- Record that a path is handed to the parser. -/
def notePath (registry : Registry Doc) (path : Path) : Registry Doc :=
  { registry with parsed := registry.parsed ++ [path] }

/-- Record that a file has failed. -/
def fail (registry : Registry Doc) (key : QualifiedName) (failure : ResolveFailure) :
    Registry Doc :=
  { registry with cache := registry.cache.insert key (.failed failure) }

/-- The identifier that the next document gets. -/
def nextId (registry : Registry Doc) : DocumentId :=
  ⟨registry.documents.length⟩

/-- Record the document of a file. -/
def install (registry : Registry Doc) (key : QualifiedName) (path : Path) (document : Doc) :
    Registry Doc :=
  { registry with
    cache := registry.cache.insert key (.resolved registry.nextId)
    documents := registry.documents ++ [⟨key, path, document⟩] }

theorem slot?_empty (key : QualifiedName) : (∅ : Registry Doc).slot? key = none := rfl

theorem slot?_start (registry : Registry Doc) (key other : QualifiedName) :
    (registry.start key).slot? other =
      if key = other then some .resolving else registry.slot? other :=
  OrderedMap.get?_insert _ _ _ _

theorem slot?_fail (registry : Registry Doc) (key other : QualifiedName)
    (failure : ResolveFailure) :
    (registry.fail key failure).slot? other =
      if key = other then some (.failed failure) else registry.slot? other :=
  OrderedMap.get?_insert _ _ _ _

theorem slot?_install (registry : Registry Doc) (key other : QualifiedName) (path : Path)
    (document : Doc) :
    (registry.install key path document).slot? other =
      if key = other then some (.resolved registry.nextId) else registry.slot? other :=
  OrderedMap.get?_insert _ _ _ _

@[simp]
theorem entry?_start (registry : Registry Doc) (key : QualifiedName) (id : DocumentId) :
    Registry.entry? (registry.start key) id = registry.entry? id := rfl

@[simp]
theorem entry?_fail (registry : Registry Doc) (key : QualifiedName) (failure : ResolveFailure)
    (id : DocumentId) :
    Registry.entry? (registry.fail key failure) id = registry.entry? id := rfl

/-- The entries after a document was installed are the earlier ones and the new one. -/
theorem entry?_install_eq_some_iff {registry : Registry Doc} {key : QualifiedName} {path : Path}
    {document : Doc} {id : DocumentId} {entry : DocumentEntry Doc} :
    Registry.entry? (registry.install key path document) id = some entry ↔
      registry.entry? id = some entry ∨ id = registry.nextId ∧ entry = ⟨key, path, document⟩ := by
  obtain ⟨index⟩ := id
  simp only [install, nextId, entry?, DocumentId.mk.injEq]
  rcases Nat.lt_trichotomy index registry.documents.length with h | h | h
  · rw [List.getElem?_append_left h]
    simp [Nat.ne_of_lt h]
  · subst h
    simp [eq_comm]
  · rw [List.getElem?_eq_none (by simp; omega), List.getElem?_eq_none (Nat.le_of_lt h)]
    simp [Nat.ne_of_gt h]

end Registry

end HalPackages
