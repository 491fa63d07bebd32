import HalPackages.Proofs.Resolution.Growth
import HalPackages.Proofs.Resolution.Visits
import Mathlib.Algebra.Group.Nat.Defs
import Mathlib.Data.List.Perm.Basic
import Mathlib.Data.List.Nodup

/-!
# Documents and resolved files

The identifier of a document is its position among the documents, which only the
order of the steps keeps in line with what is recorded of its file: other
documents are completed while a file is being loaded.  Between calls the two
agree: the resolved files and the documents correspond one to one, each document
is the file of its name, and it is what the storage gave in the call that
completed it.
-/

namespace HalPackages

open Relation

variable {Doc Declared : Type} [Document Doc Declared]

namespace Registry

variable {registry later : Registry Doc} {storage : Storage Doc} {roots : PackageRoots}
variable {worlds : Set (Storage Doc)} {id : DocumentId} {entry : DocumentEntry Doc}
variable {loading : List QualifiedName}

/-! ## Positions -/

theorem index_lt_of_entry?_eq_some (h : registry.entry? id = some entry) :
    id.index < registry.documents.length :=
  (List.getElem?_eq_some_iff.1 h).1

theorem document_eq_ok_iff {document : Doc} : registry.document id = .ok document ↔
    ∃ entry, registry.entry? id = some entry ∧ entry.document = document := by
  rw [Registry.document, Registry.entry]
  cases registry.entry? id <;> simp [Except.map]

theorem mem_documents_of_entry?_eq_some (h : registry.entry? id = some entry) :
    entry ∈ registry.documents :=
  List.mem_of_getElem? h

/-- All uses of an identifier give what an entry says. -/
structure Gives (registry : Registry Doc) (id : DocumentId) (entry : DocumentEntry Doc) :
    Prop where
  tried : registry.document? id = some entry.document
  document : registry.document id = .ok entry.document
  name : registry.documentName id = .ok entry.name
  path : registry.documentPath id = .ok entry.path

theorem gives_of_entry? (h : registry.entry? id = some entry) : registry.Gives id entry := by
  have hentry : registry.entry id = .ok entry := by rw [Registry.entry, h]
  constructor
  · rw [document?, h]
    rfl
  · rw [Registry.document, hentry]
    rfl
  · rw [documentName, hentry]
    rfl
  · rw [documentPath, hentry]
    rfl

theorem exists_entry_of_index_lt {index : Nat} (h : index < registry.documents.length) :
    ∃ entry, registry.entry? ⟨index⟩ = some entry :=
  ⟨_, List.getElem?_eq_getElem h⟩

namespace Consistent

/-- As long as there are no more than `2 ^ 32` documents, the identifiers that are recorded have
room in 32 bits. -/
theorem index_lt_of_slot? (h : registry.Consistent roots loading) {key : QualifiedName}
    (hslot : registry.slot? key = some (.resolved id))
    (hsize : registry.documents.length ≤ 2 ^ 32) : id.index < 2 ^ 32 := by
  obtain ⟨entry, hentry, _⟩ := (h.resolved_iff key id).1 hslot
  exact Nat.lt_of_lt_of_le (index_lt_of_entry?_eq_some hentry) hsize

/-- Each document belongs to one file. -/
theorem existsUnique_key (h : registry.Consistent roots loading) {index : Nat}
    (hindex : index < registry.documents.length) :
    ∃! key, registry.slot? key = some (.resolved ⟨index⟩) := by
  obtain ⟨entry, hentry⟩ := exists_entry_of_index_lt hindex
  refine ⟨entry.name, (h.resolved_iff _ _).2 ⟨entry, hentry, rfl⟩, ?_⟩
  intro key hslot
  obtain ⟨entry', hentry', hname⟩ := (h.resolved_iff _ _).1 hslot
  rw [hentry, Option.some.injEq] at hentry'
  rw [hentry', hname]

/-- No two documents have the same name. -/
theorem nodup_names (h : registry.Consistent roots loading) :
    (registry.documents.map DocumentEntry.name).Nodup := by
  rw [List.nodup_iff_getElem?_ne_getElem?]
  intro i j hij hj hname
  rw [List.length_map] at hj
  obtain ⟨left, hleft⟩ := exists_entry_of_index_lt (hij.trans hj)
  obtain ⟨right, hright⟩ := exists_entry_of_index_lt hj
  have hnames : left.name = right.name := by
    rw [List.getElem?_map, List.getElem?_map] at hname
    rw [show registry.documents[i]? = some left from hleft,
      show registry.documents[j]? = some right from hright] at hname
    exact Option.some.inj hname
  have hslot := (h.resolved_iff right.name ⟨i⟩).2 ⟨left, hleft, hnames⟩
  rw [(h.resolved_iff right.name ⟨j⟩).2 ⟨right, hright, rfl⟩] at hslot
  simp only [Option.some.injEq, Slot.resolved.injEq, DocumentId.mk.injEq] at hslot
  exact absurd hslot (Nat.ne_of_gt hij)

theorem mem_resolved_iff (h : registry.Consistent roots loading) {key : QualifiedName}
    {document : Doc} :
    (key, document) ∈ registry.resolved ↔
      (key, document) ∈ registry.documents.map fun entry => (entry.name, entry.document) := by
  rw [resolved, List.mem_filterMap, List.mem_map]
  constructor
  · rintro ⟨⟨key', slot⟩, hmem, hvalue⟩
    have hslot := (OrderedMap.mem_entries_iff h.nodup_keys).1 hmem
    cases slot with
    | resolving | failed => contradiction
    | resolved id =>
        obtain ⟨entry, hentry, hname⟩ := (h.resolved_iff key' id).1 hslot
        refine ⟨entry, mem_documents_of_entry?_eq_some hentry, ?_⟩
        rw [hname]
        simpa [document?, hentry] using hvalue
  · rintro ⟨entry, hmem, heq⟩
    obtain ⟨index, hindex, hget⟩ := List.getElem_of_mem hmem
    have hentry : registry.entry? ⟨index⟩ = some entry := by
      rw [Registry.entry?, List.getElem?_eq_getElem hindex, hget]
    have hslot := (h.resolved_iff entry.name ⟨index⟩).2 ⟨entry, hentry, rfl⟩
    refine ⟨(entry.name, .resolved ⟨index⟩), (OrderedMap.mem_entries_iff h.nodup_keys).2 hslot, ?_⟩
    simpa [document?, hentry] using heq

/-- The resolved files with their documents are the documents in another order. -/
theorem resolved_perm (h : registry.Consistent roots loading) :
    registry.resolved.Perm
      (registry.documents.map fun entry => (entry.name, entry.document)) := by
  have hdocuments :
      (registry.documents.map fun entry => (entry.name, entry.document)).Nodup := by
    apply List.Nodup.of_map Prod.fst
    rw [List.map_map]
    exact h.nodup_names
  have hresolved : registry.resolved.Nodup := by
    have hentries : registry.cache.entries.Pairwise fun entry entry' => entry.1 ≠ entry'.1 :=
      List.pairwise_map.1 h.nodup_keys
    rw [List.Nodup, resolved, List.pairwise_filterMap]
    apply hentries.imp
    rintro ⟨key, slot⟩ ⟨key', slot'⟩ hne item hitem item' hitem' heq
    apply hne
    cases slot with
    | resolving | failed => contradiction
    | resolved id =>
        cases slot' with
        | resolving | failed => contradiction
        | resolved id' =>
            obtain ⟨document, _, hdocument⟩ := Option.map_eq_some_iff.1 hitem
            obtain ⟨document', _, hdocument'⟩ := Option.map_eq_some_iff.1 hitem'
            rw [← heq, ← hdocument] at hdocument'
            exact (congrArg Prod.fst hdocument').symm
  rw [List.perm_ext_iff_of_nodup hresolved hdocuments]
  rintro ⟨key, document⟩
  exact h.mem_resolved_iff

end Consistent

/-! ## Where documents come from -/

/-- A document was completed in a call on a storage. -/
def CompletedOn (worlds : Set (Storage Doc)) (roots : PackageRoots) (registry : Registry Doc)
    (id : DocumentId) (storage : Storage Doc) : Prop :=
  ∃ (before after : Registry Doc) (name : QualifiedName)
    (result : Except ConfigError (Option DocumentId)),
      before.Reachable worlds roots ∧ storage ∈ worlds ∧
        before.Resolves storage roots name result after ∧ Reaches worlds roots after registry ∧
          before.documents.length ≤ id.index ∧ id.index < after.documents.length

/-- The storage of the call that completed a document has it at its path. -/
theorem Reachable.exists_completedOn (h : registry.Reachable worlds roots)
    (hentry : registry.entry? id = some entry) :
    ∃ storage, CompletedOn worlds roots registry id storage ∧
      storage.parse entry.path = .ok entry.document := by
  induction h with
  | refl => contradiction
  | @tail before after hbefore hcall ih =>
      have hconsistent := Reachable.consistent hbefore
      obtain ⟨storage, hworlds, name, result, hresolves⟩ := hcall
      obtain ⟨added, hadded, hparse⟩ := (hresolves.growsOn hconsistent).documents
      rcases Nat.lt_or_ge id.index before.documents.length with hindex | hindex
      · have hold : before.entry? id = some entry := by
          rw [Registry.entry?, hadded, List.getElem?_append_left hindex] at hentry
          exact hentry
        obtain ⟨storage', hcompleted, hparse'⟩ := ih hold
        obtain ⟨first, second, name', result', hfirst, hworlds', hsecond, hreaches, hindices⟩ :=
          hcompleted
        refine ⟨storage', ⟨first, second, name', result', hfirst, hworlds', hsecond, ?_,
          hindices⟩, hparse'⟩
        exact hreaches.tail ⟨storage, hworlds, name, result, hresolves⟩
      · refine ⟨storage, ⟨before, after, name, result, hbefore, hworlds, hresolves, .refl, hindex,
          index_lt_of_entry?_eq_some hentry⟩, ?_⟩
        apply hparse
        rw [Registry.entry?, hadded, List.getElem?_append_right hindex] at hentry
        exact List.mem_of_getElem? hentry

/-- The document of a resolved file is kept under the name and the path of the file, it declares to
be the file, and it is what the storage had at the path in the call that completed it. -/
theorem Reachable.exists_document (h : registry.Reachable worlds roots) {key : QualifiedName}
    (hslot : registry.slot? key = some (.resolved id)) :
    id.index < registry.documents.length ∧
      ∃ path document storage, registry.documentName id = .ok key ∧
        registry.documentPath id = .ok path ∧ registry.document id = .ok document ∧
          roots.filePath key = .ok path ∧ CompletedOn worlds roots registry id storage ∧
            storage.parse path = .ok document ∧ Document.Declares document key := by
  obtain ⟨entry, hentry, rfl⟩ := (h.consistent.resolved_iff key id).1 hslot
  obtain ⟨storage, hcompleted, hparse⟩ := h.exists_completedOn hentry
  obtain ⟨hpath, hdeclares⟩ :=
    h.consistent.declares entry (mem_documents_of_entry?_eq_some hentry)
  have hgives : registry.Gives id entry := gives_of_entry? hentry
  exact ⟨index_lt_of_entry?_eq_some hentry, entry.path, entry.document, storage, hgives.name,
    hgives.path, hgives.document, hpath, hcompleted, hparse, hdeclares⟩

/-- Between calls, resolved files and documents correspond one to one.  Each document is kept under
the name and the path of its file, it declares to be that file, and it is what the storage had
at the path in the call that completed it.  So a visitor is shown each document once, or those
up to the first one at which it fails. -/
theorem documents_of_reachable (h : registry.Reachable worlds roots) :
    (∀ key id, registry.slot? key = some (.resolved id) →
      id.index < registry.documents.length ∧
        ∃ path document storage, registry.documentName id = .ok key ∧
          registry.documentPath id = .ok path ∧ registry.document id = .ok document ∧
            roots.filePath key = .ok path ∧ CompletedOn worlds roots registry id storage ∧
              storage.parse path = .ok document ∧ Document.Declares document key) ∧
      (∀ index < registry.documents.length,
        ∃! key, registry.slot? key = some (.resolved ⟨index⟩)) ∧
      registry.resolved.Perm
        (registry.documents.map fun entry => (entry.name, entry.document)) ∧
      ∀ (ε σ : Type) (visit : Visitor Doc ε σ) (state : σ), ∃ seen,
        runVisit (registry.forDocuments visit.noting) ([], state) =
          ((runVisit (registry.forDocuments visit) state).1, seen,
            (runVisit (registry.forDocuments visit) state).2) ∧
        visit.Sees registry.resolved state seen
          (runVisit (registry.forDocuments visit) state) ∧
        ((∀ name document state, (runVisit (visit name document) state).1 = .ok ()) →
          (runVisit (registry.forDocuments visit) state).1 = .ok () ∧
            seen = registry.resolved) := by
  refine ⟨fun key id hslot => h.exists_document hslot,
    fun index hindex => h.consistent.existsUnique_key hindex, h.consistent.resolved_perm, ?_⟩
  intro ε σ visit state
  obtain ⟨seen, hnoting, hsees⟩ := visit.exists_runVisit_noting registry.resolved [] state
  exact ⟨seen, hnoting, hsees, hsees.eq_of_never_fails⟩

end Registry

namespace MutualImports

theorem document_nfc :
    registry.Reachable {storage} roots ∧
      (∃! key, registry.slot? key = some (.resolved ⟨0⟩)) ∧
      (∃ document, registry.documentName ⟨0⟩ = .ok nfc ∧ registry.document ⟨0⟩ = .ok document ∧
        Document.Declares document nfc) ∧
      registry.resolved.Perm
        (registry.documents.map fun entry => (entry.name, entry.document)) := by
  obtain ⟨hdocuments, hkeys, hperm, _⟩ := Registry.documents_of_reachable reachable_registry
  obtain ⟨_, path, document, storage, hname, _, hdocument, _, _, _, hdeclares⟩ :=
    hdocuments nfc ⟨0⟩ rfl
  exact ⟨reachable_registry, hkeys 0 (by decide), ⟨document, hname, hdocument, hdeclares⟩, hperm⟩

end MutualImports

end HalPackages
