import HalPackages.Proofs.Names.WrittenNames
import HalPackages.Proofs.Resolution.Documents
import HalPackages.Proofs.Resolution.Independence
import Mathlib.Data.List.TakeWhile

/-!
# The files that are requested

A file is requested because a call asked for it or because a requested file depends
on it.  Names are cut down to the file that declares them before they are looked
up, and so are the names that are requested, with one exception: the members of a
package that is imported as a whole are requested under the stems of the files in
its directory.  A stem with a dot in it is not the name of a file, and what is
recorded under it is out of reach of every look-up.  Where no directory lists such
a stem, each requested file is found under its own name, and the look-ups agree
with the lists.
-/

namespace HalPackages

open Relation

variable {Doc Declared : Type} [Document Doc Declared]

namespace QualifiedName

/-- A name is that of a file if its local name has no dot. -/
theorem fileIdentity_eq_self_iff {name : QualifiedName} :
    name.fileIdentity = name ↔ '.' ∉ name.localName.toList := by
  obtain ⟨package, version, localName⟩ := name
  simp only [fileIdentity, withName, topLevelName, mk.injEq, true_and]
  rw [← String.toList_inj, String.toList_ofList, List.takeWhile_eq_self_iff]
  simp only [bne_iff_ne]
  exact ⟨fun h hdot => h '.' hdot rfl, fun h c hc heq => h (heq ▸ hc)⟩

end QualifiedName

namespace Storage

/-- The names of the files that package directories list are those of files. -/
def ListsFiles (storage : Storage Doc) (roots : PackageRoots) : Prop :=
  ∀ package files, storage.packageFiles roots package = .ok files →
    ∀ file ∈ files, file.fileIdentity = file

variable {storage : Storage Doc} {roots : PackageRoots} {key other : QualifiedName}

/-- The names of package files are stems that their directory lists. -/
theorem exists_stem_of_mem_packageFiles {package : QualifiedName} {files : List QualifiedName}
    (h : storage.packageFiles roots package = .ok files) {file : QualifiedName}
    (hfile : file ∈ files) :
    ∃ directory stems stem, storage.list directory = .ok stems ∧ stem ∈ stems ∧
      file = package.withName stem := by
  obtain ⟨directory, _, h⟩ := except_bind_eq_ok.1 h
  split at h
  · rename_i stems hstems
    rw [← Except.ok.inj h, List.mem_map] at hfile
    obtain ⟨stem, hstem, rfl⟩ := hfile
    exact ⟨⟨directory⟩, stems, stem, hstems, hstem, rfl⟩
  · rw [← Except.ok.inj h] at hfile
    contradiction

/-- Directories whose files have no dot in their stems list names of files. -/
theorem listsFiles_of_forall_stems
    (h : ∀ directory stems, storage.list directory = .ok stems →
      ∀ stem ∈ stems, '.' ∉ stem.toList) : storage.ListsFiles roots := by
  intro package files hfiles file hfile
  obtain ⟨directory, stems, stem, hstems, hstem, rfl⟩ :=
    exists_stem_of_mem_packageFiles hfiles hfile
  exact QualifiedName.fileIdentity_eq_self_iff.2 (h directory stems hstems stem hstem)

/-- What a file depends on is a file. -/
theorem ListsFiles.fileIdentity_eq_of_dependsOn (h : storage.ListsFiles roots)
    (hedge : storage.DependsOn roots key other) : other.fileIdentity = other := by
  cases hedge with
  | types => exact QualifiedName.fileIdentity_typesOfPackage key
  | imported _ _ htries =>
      cases htries with
      | file => exact QualifiedName.fileIdentity_fileIdentity _
      | types => exact QualifiedName.fileIdentity_typesOfPackage _
      | member _ hfiles hmember => exact h _ _ hfiles other hmember

end Storage

namespace Registry

variable {registry later : Registry Doc} {storage : Storage Doc} {roots : PackageRoots}
variable {name key : QualifiedName} {result : Except ConfigError (Option DocumentId)}
variable {worlds : Set (Storage Doc)} {asked : Set QualifiedName} {loading : List QualifiedName}

/-- A call requests only what the name that it asks for needs. -/
theorem Resolves.needs_of_mem_keys (hcall : registry.Resolves storage roots name result later)
    (h : registry.Consistent roots []) (hkey : key ∈ later.cache.keys)
    (hnew : key ∉ registry.cache.keys) : name.IsFullyQualified ∧ storage.Needs roots name key := by
  by_contra hother
  have hunchanged : later.record? key = registry.record? key := by
    by_cases hname : name.IsFullyQualified
    · obtain ⟨_, _, _, _, hchange⟩ := hcall.alike (.refl h.inRange)
      obtain ⟨_, hrecords, _⟩ := hchange.changes
      exact hrecords.records key fun hneeds => hother ⟨hname, hneeds⟩
    · rw [((resolves_iff_of_not_isFullyQualified hname).1 hcall).2]
  rw [record?_of_slot_eq_none (OrderedMap.get?_eq_none_iff.2 hnew)] at hunchanged
  have hslot := (hcall.consistent h).inRange.slot?_eq_none hunchanged
  exact OrderedMap.get?_eq_none_iff.1 hslot hkey

/-- The registries that calls for some names leave. -/
def ReachableBy (asked : Set QualifiedName) (worlds : Set (Storage Doc)) (roots : PackageRoots) :
    Registry Doc → Prop :=
  ReflTransGen (fun before after =>
    ∃ storage ∈ worlds, ∃ name ∈ asked, ∃ result,
      before.Resolves storage roots name result after) ∅

theorem ReachableBy.reachable (h : registry.ReachableBy asked worlds roots) :
    registry.Reachable worlds roots := by
  refine ReflTransGen.mono ?_ _ _ h
  rintro before after ⟨storage, hworlds, name, _, result, hcall⟩
  exact ⟨storage, hworlds, name, result, hcall⟩

theorem ReachableBy.resolve (h : registry.ReachableBy asked worlds roots)
    (hworlds : storage ∈ worlds) (hname : name ∈ asked)
    (hcall : registry.Resolves storage roots name result later) :
    later.ReachableBy asked worlds roots :=
  ReflTransGen.tail h ⟨storage, hworlds, name, hname, result, hcall⟩

theorem Reachable.reachableBy_univ (h : registry.Reachable worlds roots) :
    registry.ReachableBy Set.univ worlds roots := by
  refine ReflTransGen.mono ?_ _ _ h
  rintro before after ⟨storage, hworlds, name, result, hcall⟩
  exact ⟨storage, hworlds, name, trivial, result, hcall⟩

/-- All requested files have a property if the files that calls ask for have it and files depend
only on files that have it. -/
theorem ReachableBy.forall_keys {property : QualifiedName → Prop}
    (h : registry.ReachableBy asked worlds roots)
    (hasked : ∀ name ∈ asked, name.IsFullyQualified → property name.fileIdentity)
    (hclosed : ∀ storage ∈ worlds, ∀ key other, property key →
      storage.DependsOn roots key other → property other) :
    ∀ key ∈ registry.cache.keys, property key := by
  induction h with
  | refl => exact fun key hkey => absurd hkey List.not_mem_nil
  | @tail before after hbefore hcall ih =>
      obtain ⟨storage, hworlds, name, hname, result, hresolves⟩ := hcall
      intro key hkey
      by_cases hold : key ∈ before.cache.keys
      · exact ih key hold
      · obtain ⟨hqualified, hneeds⟩ :=
          hresolves.needs_of_mem_keys (ReachableBy.reachable hbefore).consistent hkey hold
        clear hkey hold
        induction hneeds with
        | refl => exact hasked name hname hqualified
        | tail _ hedge hother => exact hclosed storage hworlds _ _ hother hedge

/-! ## Look-ups and lists -/

theorem Consistent.mem_failures_iff (h : registry.Consistent roots loading)
    {failure : ResolveFailure} :
    (key, failure) ∈ registry.failures ↔ registry.slot? key = some (.failed failure) := by
  rw [failures, List.mem_filterMap, slot?, ← OrderedMap.mem_entries_iff h.nodup_keys]
  constructor
  · rintro ⟨⟨key', slot⟩, hmem, hvalue⟩
    cases slot with
    | resolving | resolved => contradiction
    | failed failure' =>
        rw [Option.some.injEq, Prod.mk.injEq] at hvalue
        obtain ⟨rfl, rfl⟩ := hvalue
        exact hmem
  · intro hmem
    exact ⟨(key, .failed failure), hmem, rfl⟩

/-- Where directories list names of files, every requested file is found under its own name: the
state and the failure of a failed file are those that are listed, and the state and the document
of a resolved file are those of the document with its name. -/
theorem lookups_agree_with_lists (hworlds : ∀ storage ∈ worlds, storage.ListsFiles roots)
    (h : registry.Reachable worlds roots) :
    (∀ key ∈ registry.cache.keys, key.fileIdentity = key) ∧
      (∀ name failure, (name, failure) ∈ registry.failures →
        registry.state name = .failed ∧ registry.failure? name = some failure) ∧
      ∀ index < registry.documents.length, ∃ name document,
        registry.documentName ⟨index⟩ = .ok name ∧ registry.document ⟨index⟩ = .ok document ∧
          registry.state name = .resolved ⟨index⟩ ∧ registry.get? name = some document := by
  have hconsistent := h.consistent
  have hkeys : ∀ key ∈ registry.cache.keys, key.fileIdentity = key :=
    h.reachableBy_univ.forall_keys (fun name _ _ => name.fileIdentity_fileIdentity)
      fun storage hstorage _ _ _ hedge =>
        (hworlds storage hstorage).fileIdentity_eq_of_dependsOn hedge
  have hslot {key : QualifiedName} {slot : Slot} (hkey : registry.slot? key = some slot) :
      registry.slot? key.fileIdentity = some slot := by
    rw [hkeys key (OrderedMap.mem_keys_iff.2 ⟨slot, hkey⟩)]
    exact hkey
  refine ⟨hkeys, ?_, ?_⟩
  · intro name failure hmem
    have hfailed := hslot (hconsistent.mem_failures_iff.1 hmem)
    simp only [state, failure?, hfailed, and_self]
  · intro index hindex
    obtain ⟨entry, hentry⟩ := exists_entry_of_index_lt hindex
    have hresolved := hslot ((hconsistent.resolved_iff _ _).2 ⟨entry, hentry, rfl⟩)
    have hstate : registry.state entry.name = .resolved ⟨index⟩ := by
      simp only [state, hresolved]
    refine ⟨entry.name, entry.document, ?_, ?_, hstate, ?_⟩
    · rw [documentName, Registry.entry, hentry]
      rfl
    · rw [document, Registry.entry, hentry]
      rfl
    · simp only [get?, hstate, document?, hentry, Option.map_some]

end Registry

namespace MutualImports

theorem lookups_agree_nfc :
    (∀ world ∈ ({storage} : Set (Storage Summary)), world.ListsFiles roots) ∧
      registry.Reachable {storage} roots ∧
      registry.state nfc.typesOfPackage = .failed ∧
      ∃ document, registry.documentName ⟨0⟩ = .ok nfc ∧ registry.get? nfc = some document := by
  have hlists : ∀ world ∈ ({storage} : Set (Storage Summary)), world.ListsFiles roots := by
    rintro world rfl
    apply Storage.listsFiles_of_forall_stems
    intro directory stems hstems stem hstem
    cases hstems
    have hall : ∀ stem ∈ ["INfc", "types"], '.' ∉ stem.toList := by decide
    exact hall stem hstem
  obtain ⟨_, hfailures, hdocuments⟩ :=
    Registry.lookups_agree_with_lists hlists reachable_registry
  obtain ⟨hstate, _⟩ := hfailures nfc.typesOfPackage
    (.circularImport ⟨"hw/nfc/1.0/types.hal"⟩ nfc) List.mem_cons_self
  obtain ⟨name, document, hname, _, _, hdocument⟩ := hdocuments 0 (by decide)
  obtain rfl : nfc = name := Except.ok.inj hname
  exact ⟨hlists, reachable_registry, hstate, document, hname, hdocument⟩

end MutualImports

/-! ## A file with a dot in its stem -/

namespace DottedStem

/-- The types of one package import another package as a whole.  The only file in the directory of
that package has a dot too many in its name. -/
def tree : FileTree :=
  .ofFiles [] [
    (⟨"hw/b/1.0/types.hal"⟩, "package hw.b@1.0;\nimport hw.a@1.0;\n".toUTF8),
    (⟨"hw/a/1.0/IA.x.hal"⟩, "".toUTF8)]

def roots : PackageRoots := ⟨[⟨"hw", "hw"⟩]⟩

/-- What a request for the types leaves. -/
def registry : Registry SourceFile :=
  ((∅ : Registry SourceFile).resolve tree.sources roots ⟨"hw.b", "@1.0", "types"⟩).2

theorem reachableBy_registry :
    registry.ReachableBy {name | name.IsWritten} {tree.sources.toStorage} roots :=
  .resolve .refl rfl ⟨"hw.b@1.0::types", rfl⟩ (Registry.resolves_resolve _ _ _ _)

/-- The name under which the file has been requested. -/
def member : QualifiedName := ⟨"hw.a", "@1.0", "IA.x"⟩

/-- The failure of a file can be listed and yet not be found. -/
theorem failure_of_member_not_found :
    registry.ReachableBy {name | name.IsWritten} {tree.sources.toStorage} roots ∧
      (member, .missing ⟨"hw/a/1.0/IA.hal"⟩) ∈ registry.failures ∧
      registry.state member = .unseen ∧ registry.failure? member = none :=
  ⟨reachableBy_registry, by decide +kernel⟩

end DottedStem

end HalPackages
