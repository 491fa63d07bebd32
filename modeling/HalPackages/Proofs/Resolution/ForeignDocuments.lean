import HalPackages.Proofs.Resolution.Dependencies
import HalPackages.Proofs.Resolution.Documents
import HalPackages.Proofs.Resolution.Settled

/-!
# Identifiers from another registry

A registry that has given out an identifier gives the document that it stands for from
then on.  The identifier does not tell which registry has given it out: another one
refuses it as long as it has not given the same position to a document of its own, and
gives that document afterwards.
-/

namespace HalPackages

variable {Doc Declared : Type} [Document Doc Declared]

namespace Registry

variable {registry later : Registry Doc} {storage : Storage Doc} {roots : PackageRoots}
variable {worlds : Set (Storage Doc)} {name : QualifiedName} {id : DocumentId}
variable {entry : DocumentEntry Doc} {loading : List QualifiedName}

/-! ## Identifiers that are refused -/

/-- All uses of an identifier say that it is a foreign one. -/
structure Rejects (registry : Registry Doc) (id : DocumentId) : Prop where
  tried : registry.document? id = none
  document : registry.document id = .error ⟨id⟩
  name : registry.documentName id = .error ⟨id⟩
  path : registry.documentPath id = .error ⟨id⟩

theorem rejects_iff : registry.Rejects id ↔ registry.entry? id = none := by
  constructor
  · intro h
    exact Option.map_eq_none_iff.1 h.tried
  · intro h
    have hentry : registry.entry id = .error ⟨id⟩ := by rw [Registry.entry, h]
    constructor
    · rw [document?, h]
      rfl
    · rw [Registry.document, hentry]
      rfl
    · rw [documentName, hentry]
      rfl
    · rw [documentPath, hentry]
      rfl

/-- An identifier is refused if no file has the document at that position. -/
theorem Consistent.rejects_iff_forall_slot (h : registry.Consistent roots loading) :
    registry.Rejects id ↔ ∀ key, registry.slot? key ≠ some (.resolved id) := by
  rw [rejects_iff]
  constructor
  · intro hnone key hslot
    obtain ⟨entry, hentry, _⟩ := (h.resolved_iff key id).1 hslot
    rw [hnone] at hentry
    contradiction
  · intro hslots
    rw [Option.eq_none_iff_forall_ne_some]
    intro entry hentry
    exact hslots entry.name ((h.resolved_iff entry.name id).2 ⟨entry, hentry, rfl⟩)

/-! ## Later moments -/

/-- A moment of a call that is made after any number of calls on a registry.  At the first one the
registry is as the calls before it have left it. -/
def Precedes (worlds : Set (Storage Doc)) (roots : PackageRoots) (registry : Registry Doc)
    (moment : Moment Doc) : Prop :=
  ∃ between storage name, Reaches worlds roots registry between ∧ storage ∈ worlds ∧
    Leads storage roots (.ofCall between name) moment

theorem Precedes.entry?_eq {moment : Moment Doc} (h : registry.Precedes worlds roots moment)
    (hregistry : registry.Consistent roots []) (hentry : registry.entry? id = some entry) :
    moment.registry.entry? id = some entry := by
  obtain ⟨between, storage, name, hreaches, _, hleads⟩ := h
  have hgrows := hleads.growsOn (Moment.sound_ofCall (hreaches.consistent hregistry) name)
  rw [Moment.registry_ofCall] at hgrows
  exact hgrows.entry?_eq (hreaches.entry?_eq hregistry hentry)

/-- A file that a call has found resolved is recorded with the identifier that the call returned. -/
theorem Resolves.slot?_resolved
    (hcall : registry.Resolves storage roots name (.ok (some id)) later) :
    later.slot? name.fileIdentity = some (.resolved id) := by
  by_cases hname : name.IsFullyQualified
  · obtain ⟨slot, hslot, hanswer⟩ := hcall.exists_slot hname
    have hresolved : slot.answer = .ok (.ok id) := by
      rcases hslot' : slot.answer with cause | reason | id' <;>
        simp [hslot', Except.map, Except.toOption] at hanswer
      rw [hanswer]
    rw [hslot, Slot.eq_resolved_of_answer hresolved]
  · obtain ⟨heq, _⟩ := (resolves_iff_of_not_isFullyQualified hname).1 hcall
    contradiction

/-- An identifier that a call returned stands for the document of the file of the name, the one that
the storage gave in the call that completed it, and gives it at each later moment.  Another
registry, of whatever documents, refuses it unless it has given the same identifier to a file of
its own. -/
theorem foreign_documents {Doc' Declared' : Type} [Document Doc' Declared']
    {other : Registry Doc'} {worlds' : Set (Storage Doc')} {roots' : PackageRoots}
    (hregistry : registry.Reachable worlds roots) (hstorage : storage ∈ worlds)
    (hcall : registry.Resolves storage roots name (.ok (some id)) later)
    (hother : other.Reachable worlds' roots') :
    (∃ path document source, roots.filePath name.fileIdentity = .ok path ∧
      CompletedOn worlds roots later id source ∧ source.parse path = .ok document ∧
        Document.Declares document name.fileIdentity ∧
          ∀ moment, later.Precedes worlds roots moment →
            moment.registry.Gives id ⟨name.fileIdentity, path, document⟩) ∧
      (other.Rejects id ↔ ∀ key, other.slot? key ≠ some (.resolved id)) := by
  have hlater : later.Reachable worlds roots := hregistry.resolve hstorage hcall
  obtain ⟨entry, hentry, hname⟩ :=
    (hlater.consistent.resolved_iff _ _).1 hcall.slot?_resolved
  obtain ⟨source, hcompleted, hparse⟩ := hlater.exists_completedOn hentry
  obtain ⟨hpath, hdeclares⟩ :=
    hlater.consistent.declares entry (mem_documents_of_entry?_eq_some hentry)
  refine ⟨⟨entry.path, entry.document, source, ?_, hcompleted, hparse, ?_, ?_⟩,
    hother.consistent.rejects_iff_forall_slot⟩
  · rw [← hname]
    exact hpath
  · rw [← hname]
    exact hdeclares
  · intro moment hmoment
    rw [← hname]
    exact gives_of_entry? (hmoment.entry?_eq hlater.consistent hentry)

end Registry

namespace TwoPackages

open MutualImports (nfc roots)

/-- What a request for the types of the other package leaves. -/
def typesOnly : Registry Summary where
  cache := ⟨[(ir.typesOfPackage, .resolved ⟨0⟩)]⟩
  documents := [⟨ir.typesOfPackage, ⟨"hw/ir/1.0/types.hal"⟩, irTypes⟩]
  parsed := [⟨"hw/ir/1.0/types.hal"⟩]

theorem resolves_irTypes :
    (∅ : Registry Summary).Resolves storage roots ir.typesOfPackage (.ok (some ⟨0⟩)) typesOnly :=
  ⟨2, rfl⟩

theorem reachable_typesOnly : typesOnly.Reachable {storage} roots :=
  .resolve .refl rfl resolves_irTypes

/-- The interface is the third document, and there is but one in the other registry. -/
theorem ir_refused_by_typesOnly :
    MutualImports.registry.Reachable {storage} roots ∧
      MutualImports.registry.Resolves storage roots ir (.ok (some ⟨2⟩)) registry ∧
      typesOnly.Reachable {storage} roots ∧
      (∃ path document, registry.Gives ⟨2⟩ ⟨ir, path, document⟩) ∧ typesOnly.Rejects ⟨2⟩ := by
  have hreachable : MutualImports.registry.Reachable {storage} roots :=
    .resolve .refl rfl resolves_nfc
  obtain ⟨⟨path, document, _, _, _, _, _, hgives⟩, hrejects⟩ :=
    Registry.foreign_documents hreachable rfl resolves_ir reachable_typesOnly
  refine ⟨hreachable, resolves_ir, reachable_typesOnly, ⟨path, document, ?_⟩, hrejects.2 ?_⟩
  · exact hgives (.ofCall registry ir) ⟨registry, storage, ir, .refl, rfl, .refl⟩
  · intro key hslot
    obtain ⟨entry, hentry, _⟩ := (reachable_typesOnly.consistent.resolved_iff key ⟨2⟩).1 hslot
    contradiction

/-- The interface of one registry and the types of the other are both the first document. -/
theorem not_forall_rejects :
    ¬ ∀ (worlds worlds' : Set (Storage Summary)) (roots roots' : PackageRoots)
      (storage : Storage Summary) (registry later other : Registry Summary)
      (name : QualifiedName) (id : DocumentId), registry.Reachable worlds roots →
        storage ∈ worlds → registry.Resolves storage roots name (.ok (some id)) later →
          other.Reachable worlds' roots' → other ≠ later → other.Rejects id := by
  intro hclaim
  have hne : typesOnly ≠ MutualImports.registry := fun heq =>
    absurd (congrArg (fun registry => registry.documents.length + registry.parsed.length) heq)
      (by decide)
  have hrejects := hclaim {storage} {storage} roots roots storage ∅ MutualImports.registry
    typesOnly nfc ⟨0⟩ .refl rfl resolves_nfc reachable_typesOnly hne
  have hgiven : typesOnly.document? ⟨0⟩ = some irTypes := rfl
  rw [hrejects.tried] at hgiven
  contradiction

end TwoPackages

end HalPackages
