import HalPackages.Proofs.Names.WrittenNames
import HalPackages.Proofs.Resolution.Documents
import HalPackages.Proofs.Sources.ParsedScopes

/-!
# Types are found where they are declared

A type is looked up in the document of the file that its name names and then in
the types of its package, without any file being read.  The files under a tree of
directories may change from call to call; the documents do not, so a type that is
found once is found ever after.  It can only be found in another place if the file
that the name names is resolved in between.
-/

namespace HalPackages

namespace QualifiedName

/-- The names that a local name is made of, outermost first. -/
def segments (name : QualifiedName) : List String :=
  (name.localName.toList.splitOn '.').map String.ofList

end QualifiedName

/-- The storages that trees of files give. -/
def FileTree.storages : Set (Storage SourceFile) :=
  Set.range fun tree : FileTree => tree.sources.toStorage

namespace Registry

variable {registry later : Registry SourceFile} {roots : PackageRoots}
variable {name key : QualifiedName} {id : DocumentId} {declared : TypeDecl}

/-- The file of a key is resolved, its document declares the package and the version of a name, and
it has a declaration at the path of the name. -/
structure Provides (registry : Registry SourceFile) (name key : QualifiedName) (id : DocumentId)
    (declared : TypeDecl) : Prop where
  resolved : registry.slot? key = some (.resolved id)
  declares : ∃ file, registry.document id = .ok file ∧
    file.package.package = name.package ∧ file.package.version = name.version ∧
      file.root.DeclaresAt name.segments declared

/-- The document of a resolved file is what some text writes. -/
theorem Reachable.exists_text (h : registry.Reachable FileTree.storages roots)
    (hslot : registry.slot? key = some (.resolved id)) :
    ∃ file text, registry.document id = .ok file ∧ SourceFile.parse text = .ok file ∧
      file.package.package = key.package ∧ file.package.version = key.version := by
  obtain ⟨_, path, file, storage, _, _, hdocument, _, hcompleted, hparse, hdeclares⟩ :=
    h.exists_document hslot
  obtain ⟨_, _, _, _, _, hworlds, _⟩ := hcompleted
  obtain ⟨tree, rfl⟩ := hworlds
  obtain ⟨_, _, text, _, _, htext⟩ := FileTree.exists_content_of_parse hparse
  exact ⟨file, text, hdocument, htext, hdeclares.1, hdeclares.2.1⟩

/-- What is looked up in one file is what the file provides. -/
theorem Reachable.typeIn?_eq_some_iff (h : registry.Reachable FileTree.storages roots)
    (name key : QualifiedName) (hpackage : key.package = name.package)
    (hversion : key.version = name.version) {found : FoundType TypeDecl} :
    registry.typeIn? name key = some found ↔
      found.name = name ∧ registry.Provides name key found.document found.declared := by
  have hlookup (id : DocumentId) (declared : TypeDecl)
      (hslot : registry.slot? key = some (.resolved id)) :
      (registry.document? id).bind (Document.lookupType? · name.localName) = some declared ↔
        registry.Provides name key id declared := by
    obtain ⟨file, text, hdocument, htext, hpackage', hversion'⟩ := h.exists_text hslot
    obtain ⟨entry, hentry, rfl⟩ := document_eq_ok_iff.1 hdocument
    rw [document?, hentry, Option.map_some, Option.bind_some]
    refine (SourceFile.lookupType?_eq_some_iff htext).trans ⟨?_, ?_⟩
    · intro hdeclares
      exact ⟨hslot, entry.document, hdocument, hpackage'.trans hpackage,
        hversion'.trans hversion, hdeclares⟩
    · rintro ⟨_, file, hfile, _, _, hdeclares⟩
      obtain rfl : entry.document = file := Except.ok.inj (hdocument.symm.trans hfile)
      exact hdeclares
  rw [typeIn?]
  constructor
  · intro hfound
    split at hfound
    · rename_i id hslot
      obtain ⟨declared, hdeclared, rfl⟩ := Option.map_eq_some_iff.1 hfound
      exact ⟨rfl, (hlookup id declared hslot).1 hdeclared⟩
    · contradiction
  · rintro ⟨rfl, hprovides⟩
    rw [hprovides.resolved, Option.map_eq_some_iff]
    exact ⟨found.declared, (hlookup _ _ hprovides.resolved).2 hprovides, rfl⟩

theorem Reachable.typeIn?_eq_none_iff (h : registry.Reachable FileTree.storages roots)
    (name key : QualifiedName) (hpackage : key.package = name.package)
    (hversion : key.version = name.version) :
    registry.typeIn? name key = (none : Option (FoundType TypeDecl)) ↔
      ∀ id declared, ¬ registry.Provides name key id declared := by
  rw [Option.eq_none_iff_forall_ne_some]
  constructor
  · intro hnone id declared hprovides
    exact hnone ⟨name, id, declared⟩
      ((h.typeIn?_eq_some_iff name key hpackage hversion).2 ⟨rfl, hprovides⟩)
  · intro hnone found hfound
    exact hnone _ _ ((h.typeIn?_eq_some_iff name key hpackage hversion).1 hfound).2

/-- A type is found in the file that its name names or, if that has no such type, among the types of
its package. -/
theorem Reachable.lookupType_eq_some_iff (h : registry.Reachable FileTree.storages roots)
    (hname : name.IsFullyQualified) {found : FoundType TypeDecl} :
    registry.lookupType name = .ok (some found) ↔ found.name = name ∧
      (registry.Provides name name.fileIdentity found.document found.declared ∨
        (∀ id declared, ¬ registry.Provides name name.fileIdentity id declared) ∧
          registry.Provides name name.typesOfPackage found.document found.declared) := by
  rw [lookupType, if_pos hname, Except.ok.injEq, Option.orElse_eq_orElse, Option.orElse_eq_or,
    Option.or_eq_some_iff]
  constructor
  · rintro (hfound | ⟨hnone, hfound⟩)
    · obtain ⟨heq, hprovides⟩ := (h.typeIn?_eq_some_iff name name.fileIdentity rfl rfl).1 hfound
      exact ⟨heq, Or.inl hprovides⟩
    · obtain ⟨heq, hprovides⟩ := (h.typeIn?_eq_some_iff name name.typesOfPackage rfl rfl).1 hfound
      exact ⟨heq,
        Or.inr ⟨(h.typeIn?_eq_none_iff name name.fileIdentity rfl rfl).1 hnone, hprovides⟩⟩
  · rintro ⟨heq, hprovides | ⟨hnone, hprovides⟩⟩
    · exact Or.inl ((h.typeIn?_eq_some_iff name name.fileIdentity rfl rfl).2 ⟨heq, hprovides⟩)
    · exact Or.inr ⟨(h.typeIn?_eq_none_iff name name.fileIdentity rfl rfl).2 hnone,
        (h.typeIn?_eq_some_iff name name.typesOfPackage rfl rfl).2 ⟨heq, hprovides⟩⟩

/-- What a file provides it provides ever after. -/
theorem Provides.of_reaches (hprovides : registry.Provides name key id declared)
    (h : registry.Reachable FileTree.storages roots)
    (hreaches : Reaches FileTree.storages roots registry later) :
    later.Provides name key id declared where
  resolved := hreaches.slot?_eq h.consistent hprovides.resolved
  declares := by
    obtain ⟨file, hdocument, hdeclares⟩ := hprovides.declares
    obtain ⟨entry, hentry, rfl⟩ := document_eq_ok_iff.1 hdocument
    exact ⟨entry.document,
      document_eq_ok_iff.2 ⟨entry, hreaches.entry?_eq h.consistent hentry, rfl⟩, hdeclares⟩

/-- A file that provides a type only later was not requested before. -/
theorem Provides.slot?_eq_none (hprovides : later.Provides name key id declared)
    (h : registry.Reachable FileTree.storages roots)
    (hreaches : Reaches FileTree.storages roots registry later)
    (hbefore : ∀ id declared, ¬ registry.Provides name key id declared) :
    registry.slot? key = none := by
  cases hslot : registry.slot? key with
  | none => rfl
  | some slot =>
      have hkept := hreaches.slot?_eq h.consistent hslot
      obtain rfl : slot = .resolved id :=
        Option.some.inj (hkept.symm.trans hprovides.resolved)
      obtain ⟨file, _, hdocument, _⟩ := h.exists_text hslot
      obtain ⟨entry, hentry, rfl⟩ := document_eq_ok_iff.1 hdocument
      obtain ⟨file', hdocument', hdeclares⟩ := hprovides.declares
      have hlater : later.document id = .ok entry.document :=
        document_eq_ok_iff.2 ⟨entry, hreaches.entry?_eq h.consistent hentry, rfl⟩
      obtain rfl : entry.document = file' := Except.ok.inj (hlater.symm.trans hdocument')
      exact absurd ⟨hslot, entry.document, hdocument, hdeclares⟩ (hbefore id declared)

/-- A name that is fully qualified is looked up in the documents that there are; nothing is resolved
for it.  The type that is found is declared at the path of the name, by the resolved file that
the name names or, only if that declares none, by the types of its package.  If one of the two
declares a type, a type is found.  It is found after any further calls, whatever has become of
the files, and it stays the same unless it was found among the types and the file that the name
names, which was not requested before, has come to declare it. -/
theorem lookups_find_declared_types (h : registry.Reachable FileTree.storages roots)
    (hname : name.IsFullyQualified) :
    (∀ found, registry.lookupType name = .ok (some found) →
      found.name = name ∧ name.segments.getLast? = some found.declared.name ∧
        (registry.Provides name name.fileIdentity found.document found.declared ∨
          (∀ id declared, ¬ registry.Provides name name.fileIdentity id declared) ∧
            registry.Provides name name.typesOfPackage found.document found.declared)) ∧
      (∀ id declared, registry.Provides name name.fileIdentity id declared →
        registry.lookupType name = .ok (some ⟨name, id, declared⟩)) ∧
      (∀ id declared, registry.Provides name name.typesOfPackage id declared →
        (∀ id declared, ¬ registry.Provides name name.fileIdentity id declared) →
          registry.lookupType name = .ok (some ⟨name, id, declared⟩)) ∧
      ∀ later, Reaches FileTree.storages roots registry later →
        ∀ found, registry.lookupType name = .ok (some found) →
          ∃ found', later.lookupType name = .ok (some found') ∧
            (found' = found ∨
              registry.Provides name name.typesOfPackage found.document found.declared ∧
                registry.slot? name.fileIdentity = none ∧
                  later.Provides name name.fileIdentity found'.document found'.declared) := by
  refine ⟨?_, ?_, ?_, ?_⟩
  · intro found hfound
    obtain ⟨heq, hprovides⟩ := (h.lookupType_eq_some_iff hname).1 hfound
    refine ⟨heq, ?_, hprovides⟩
    obtain ⟨_, _, _, _, _, hdeclares⟩ | ⟨_, _, _, _, _, _, hdeclares⟩ := hprovides
    · exact hdeclares.getLast?_eq
    · exact hdeclares.getLast?_eq
  · intro id declared hprovides
    exact (h.lookupType_eq_some_iff hname).2 ⟨rfl, Or.inl hprovides⟩
  · intro id declared hprovides hnone
    exact (h.lookupType_eq_some_iff hname).2 ⟨rfl, Or.inr ⟨hnone, hprovides⟩⟩
  · intro later hreaches found hfound
    have hlater : later.Reachable FileTree.storages roots := h.trans hreaches
    obtain ⟨heq, hfile | ⟨hnone, htypes⟩⟩ := (h.lookupType_eq_some_iff hname).1 hfound
    · refine ⟨found, ?_, Or.inl rfl⟩
      exact (hlater.lookupType_eq_some_iff hname).2 ⟨heq, Or.inl (hfile.of_reaches h hreaches)⟩
    · by_cases hnew : ∃ id declared, later.Provides name name.fileIdentity id declared
      · obtain ⟨id, declared, hprovides⟩ := hnew
        refine ⟨⟨name, id, declared⟩, ?_, Or.inr ⟨htypes, ?_, hprovides⟩⟩
        · exact (hlater.lookupType_eq_some_iff hname).2 ⟨rfl, Or.inl hprovides⟩
        · exact hprovides.slot?_eq_none h hreaches hnone
      · have hnone' : ∀ id declared, ¬ later.Provides name name.fileIdentity id declared :=
          fun id declared hprovides => hnew ⟨id, declared, hprovides⟩
        refine ⟨found, ?_, Or.inl rfl⟩
        exact (hlater.lookupType_eq_some_iff hname).2
          ⟨heq, Or.inr ⟨hnone', htypes.of_reaches h hreaches⟩⟩

end Registry

/-! ## A type that is found in two places -/

namespace SharedState

open MutualImports (roots)

/-- The types of a package declare a structure under the name of the interface, and both of them
declare a state. -/
def tree : FileTree :=
  .ofFiles [] [
    (⟨"hw/a/1.0/types.hal"⟩,
      "package hw.a@1.0;\nstruct IA \x7b struct State \x7b \x7d; \x7d;\n".toUTF8),
    (⟨"hw/a/1.0/IA.hal"⟩,
      "package hw.a@1.0;\ninterface IA \x7b enum State \x7b ON \x7d; \x7d;\n".toUTF8)]

def state : QualifiedName := ⟨"hw.a", "@1.0", "IA.State"⟩

/-- What a call for the types leaves. -/
def typesOnly : Registry SourceFile :=
  ((∅ : Registry SourceFile).resolve tree.sources roots state.typesOfPackage).2

/-- What a call for the state leaves after that. -/
def both : Registry SourceFile :=
  (typesOnly.resolve tree.sources roots state).2

/-- The kind of the type that is found under a name. -/
def foundKind (registry : Registry SourceFile) (name : QualifiedName) :
    Except ConfigError (Option TypeKind) :=
  (registry.lookupType name).map (Option.map fun found : FoundType TypeDecl => found.declared.kind)

theorem exists_found_of_foundKind {registry : Registry SourceFile} {name : QualifiedName}
    {kind : TypeKind} (h : foundKind registry name = .ok (some kind)) :
    ∃ found, registry.lookupType name = .ok (some found) ∧ found.declared.kind = kind := by
  rw [foundKind] at h
  cases hfound : (registry.lookupType name : Except ConfigError (Option (FoundType TypeDecl))) with
  | error cause =>
      rw [hfound] at h
      contradiction
  | ok found? =>
      rw [hfound] at h
      obtain ⟨found, rfl, hkind⟩ := Option.map_eq_some_iff.1 (Except.ok.inj h)
      exact ⟨found, rfl, hkind⟩

theorem state_found_in_both :
    typesOnly.Reachable FileTree.storages roots ∧ state.IsFullyQualified ∧
      Registry.Reaches FileTree.storages roots typesOnly both ∧
      ∃ found found', typesOnly.lookupType state = .ok (some found) ∧
        found.declared.kind = .struct ∧ found.declared.name = "State" ∧
          typesOnly.Provides state state.typesOfPackage found.document found.declared ∧
            both.lookupType state = .ok (some found') ∧ found'.declared.kind = .enum ∧
              both.Provides state state.fileIdentity found'.document found'.declared := by
  have hworlds : tree.sources.toStorage ∈ FileTree.storages := ⟨tree, rfl⟩
  have hreachable : typesOnly.Reachable FileTree.storages roots :=
    .resolve .refl hworlds (Registry.resolves_resolve _ _ _ _)
  have hname : state.IsFullyQualified := by decide
  have hreaches : Registry.Reaches FileTree.storages roots typesOnly both :=
    .single ⟨_, hworlds, state, _, Registry.resolves_resolve _ _ _ _⟩
  obtain ⟨found, hfound, hkind⟩ := exists_found_of_foundKind
    (by decide +kernel : foundKind typesOnly state = .ok (some .struct))
  obtain ⟨later, hlater, hkind'⟩ := exists_found_of_foundKind
    (by decide +kernel : foundKind both state = .ok (some .enum))
  obtain ⟨hsound, _, _, hkept⟩ := Registry.lookups_find_declared_types hreachable hname
  obtain ⟨_, hlast, _⟩ := hsound found hfound
  obtain ⟨found', hfound', hsame⟩ := hkept both hreaches found hfound
  obtain rfl : later = found' := Option.some.inj (Except.ok.inj (hlater.symm.trans hfound'))
  -- A structure is not an enumeration, so another type was found.
  obtain rfl | ⟨htypes, _, hfile⟩ := hsame
  · rw [hkind] at hkind'
    contradiction
  · have hstate : found.declared.name = "State" := by
      rw [show state.segments = ["IA", "State"] by decide] at hlast
      exact (Option.some.inj hlast).symm
    exact ⟨hreachable, hname, hreaches, found, later, hfound, hkind, hstate, htypes, hfound',
      hkind', hfile⟩

end SharedState

end HalPackages
