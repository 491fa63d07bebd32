import HalPackages.Proofs.Resolution.Grounds

/-!
# Documents come after their imports

Imports may be circular, and a circular import is sometimes rescued by the types
of its package.  Still every import of a document is satisfied by documents that
were completed strictly before it, so the order of the documents is a topological
order of the imports that count.
-/

namespace HalPackages

open Relation

variable {Doc Declared : Type} [Document Doc Declared]

namespace Registry

/-- A file has a document that was completed before a given one. -/
def ResolvedBefore (registry : Registry Doc) (id : DocumentId) (file : QualifiedName) : Prop :=
  ∃ earlier, registry.slot? file = some (.resolved earlier) ∧ earlier.index < id.index

/-- A file that is resolved has a document, all imports of which are satisfied by documents that
were completed before. -/
def ComesAfterImports (storage : Storage Doc) (roots : PackageRoots) (registry : Registry Doc)
    (key : QualifiedName) (slot : Slot) : Prop :=
  ∀ id, slot = .resolved id → ∃ path document,
    registry.entry? id = some ⟨key, path, document⟩ ∧
      ∀ imported ∈ Document.importsFor document key,
        storage.Satisfied roots (registry.ResolvedBefore id) imported

variable {storage : Storage Doc} {roots : PackageRoots} {registry earlier later : Registry Doc}
variable {key : QualifiedName} {slot : Slot} {id : DocumentId}

theorem ComesAfterImports.mono (hgrows : earlier.GrowsOn storage later)
    (h : earlier.ComesAfterImports storage roots key slot) :
    later.ComesAfterImports storage roots key slot := by
  intro id hid
  obtain ⟨path, document, hentry, himports⟩ := h id hid
  refine ⟨path, document, hgrows.entry?_eq hentry, ?_⟩
  intro imported himported
  apply (himports imported himported).mono
  rintro file ⟨before, hslot, hindex⟩
  exact ⟨before, hgrows.slots file _ hslot (by simp), hindex⟩

/-- A document that is completed comes after all documents that there are. -/
theorem comesAfterImports_settle {result : Except ConfigError (Loaded Doc)}
    (h : ∀ other slot, registry.slot? other = some slot → slot ≠ .resolving →
      registry.ComesAfterImports storage roots other slot)
    (hkey : registry.slot? key = some .resolving)
    (hresult : (storage.load roots key).Ends (registry.Supports storage roots key) result)
    (hslot : (registry.settle key result).2.slot? key = some slot) :
    (registry.settle key result).2.ComesAfterImports storage roots key slot := by
  rintro id rfl
  have hgrows := growsOn_settle_of_ends hkey hresult
  obtain ⟨rfl, path, document, rfl⟩ := eq_of_slot?_settle_resolved hslot
  obtain ⟨hfile, himports⟩ := Storage.isFile_of_ends_load hresult
  refine ⟨path, document, entry?_install_eq_some_iff.2 (Or.inr ⟨rfl, rfl⟩), ?_⟩
  intro imported himported
  have hpackage := Document.isPackage_iff_of_mem_importsFor hfile.1 himported
  have hends := Storage.ends_importOne_of_ends_importAll himports imported himported
  apply (Storage.satisfied_of_ends_importOne hpackage hends).mono
  rintro file ⟨before, hsupports⟩
  have hbefore := hsupports.slot?_eq
  obtain ⟨_, _, hentry, _⟩ := h file _ hbefore (by simp) before rfl
  have hindex : before.index < registry.documents.length :=
    (List.getElem?_eq_some_iff.1 hentry).1
  exact ⟨before, hgrows.slots file _ hbefore (by simp), hindex⟩

/-- At every moment of every call, an import of a document is satisfied by documents that were
completed before it: a named one by its file or the types of its package, a package by all of
its files. -/
theorem imports_resolved_before {moment : Moment Doc} (h : moment.Occurs storage roots)
    (hslot : moment.registry.slot? key = some (.resolved id)) :
    ∃ path document, moment.registry.entry? id = some ⟨key, path, document⟩ ∧
      ∀ imported ∈ Document.importsFor document key,
        storage.Satisfied roots (moment.registry.ResolvedBefore id) imported := by
  have hgrounded : moment.registry.Grounded storage roots := h.grounded.grounded
  have hall : ∀ other slot, moment.registry.slot? other = some slot → slot ≠ .resolving →
      moment.registry.ComesAfterImports storage roots other slot :=
    hgrounded.settled_induction ComesAfterImports.mono comesAfterImports_settle
  exact hall key _ hslot (by simp) id rfl

end Registry

namespace MutualImports

/-- What a request for the types leaves.  They wait for the interface, which does not wait for
them. -/
def typesFirst : Registry Summary where
  cache := ⟨[(nfc.typesOfPackage, .resolved ⟨1⟩), (nfc, .resolved ⟨0⟩)]⟩
  documents := [
    ⟨nfc, ⟨"hw/nfc/1.0/INfc.hal"⟩,
      ⟨⟨"hw.nfc", "@1.0", ""⟩, some "INfc", [], ["INfc", "INfc.Status"]⟩⟩,
    ⟨nfc.typesOfPackage, ⟨"hw/nfc/1.0/types.hal"⟩,
      ⟨⟨"hw.nfc", "@1.0", ""⟩, none, [⟨"", "", "INfc"⟩], []⟩⟩]
  parsed := [⟨"hw/nfc/1.0/types.hal"⟩, ⟨"hw/nfc/1.0/INfc.hal"⟩]

theorem resolves_types :
    (∅ : Registry Summary).Resolves storage roots nfc.typesOfPackage (.ok (some ⟨1⟩)) typesFirst :=
  ⟨2, rfl⟩

theorem imports_of_types_resolved_before :
    (Moment.ofCall typesFirst nfc).Occurs storage roots ∧
      typesFirst.slot? nfc.typesOfPackage = some (.resolved ⟨1⟩) ∧
      ∃ path document,
        typesFirst.entry? ⟨1⟩ = some ⟨nfc.typesOfPackage, path, document⟩ ∧
          ∀ imported ∈ Document.importsFor document nfc.typesOfPackage,
            storage.Satisfied roots (typesFirst.ResolvedBefore ⟨1⟩) imported := by
  have hreachable : typesFirst.Reachable {storage} roots := .resolve .refl rfl resolves_types
  have hoccurs := hreachable.occurs_ofCall nfc
  have hslot : typesFirst.slot? nfc.typesOfPackage = some (.resolved ⟨1⟩) := rfl
  exact ⟨hoccurs, hslot, Registry.imports_resolved_before hoccurs hslot⟩

end MutualImports

end HalPackages
