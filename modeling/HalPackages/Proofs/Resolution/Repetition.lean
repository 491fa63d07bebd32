import HalPackages.Proofs.Resolution.Growth
import HalPackages.Proofs.Resolution.Settled

/-!
# Repeated requests

A file is asked for under many names, since all names that are declared in it
lead to it.  The first call for one of them decides what all later calls return,
whatever happens in between.  Only a name that is not fully qualified is refused
each time, and by its own name.
-/

namespace HalPackages

variable {Doc Declared : Type} [Document Doc Declared]

namespace Registry

variable {registry later other : Registry Doc} {storage : Storage Doc} {roots : PackageRoots}
variable {name name' : QualifiedName} {result : Except ConfigError (Option DocumentId)}
variable {worlds worlds' : Set (Storage Doc)}

/-- A fully qualified name of a file that a call asked for is answered as that call was, after any
number of other calls and on any storage, and nothing changes. -/
theorem Reaches.resolves_iff (hreaches : Reaches worlds roots later other)
    (h : later.Consistent roots []) (hcall : registry.Resolves storage roots name result later)
    (hname : name.IsFullyQualified) (hname' : name'.IsFullyQualified)
    (hfile : name'.fileIdentity = name.fileIdentity) (storage' : Storage Doc)
    (result' : Except ConfigError (Option DocumentId)) (last : Registry Doc) :
    other.Resolves storage' roots name' result' last ↔ result' = result ∧ last = other := by
  obtain ⟨slot, hslot, rfl⟩ := hcall.exists_slot hname
  have hother : other.slot? name'.fileIdentity = some slot := by
    rw [hfile]
    exact hreaches.slot?_eq h hslot
  exact resolves_iff_of_slot hname' hother

/-- A call only adds keys and documents at the end, and every file keeps what is recorded of it.  So
repeated calls for the same file return the same and change nothing; names that are not fully
qualified are refused and change nothing either. -/
theorem kept_by_resolves (hregistry : registry.Reachable worlds roots)
    (hcall : registry.Resolves storage roots name result later) :
    registry.cache.keys <+: later.cache.keys ∧
      (∀ key slot, registry.slot? key = some slot → later.slot? key = some slot) ∧
      registry.documents <+: later.documents ∧
      ∀ other, Reaches worlds' roots later other →
        ∀ storage' name' result' last,
          (name.IsFullyQualified → name'.IsFullyQualified →
            name'.fileIdentity = name.fileIdentity →
              (other.Resolves storage' roots name' result' last ↔
                result' = result ∧ last = other)) ∧
          (¬ name'.IsFullyQualified →
            (other.Resolves storage' roots name' result' last ↔
              result' = .error (.notFullyQualified name') ∧ last = other)) := by
  have hconsistent := hregistry.consistent
  have hgrows := hcall.growsOn hconsistent
  refine ⟨hgrows.keys, fun key slot hslot => hcall.slot?_eq hconsistent hslot,
    hgrows.documents_isPrefix, ?_⟩
  intro other hreaches storage' name' result' last
  constructor
  · intro hname hname' hfile
    exact hreaches.resolves_iff (hcall.consistent hconsistent) hcall hname hname' hfile
      storage' result' last
  · intro hname'
    exact resolves_iff_of_not_isFullyQualified hname'

/-- The status that is declared in the interface leads to the same file, also when the file is no
longer there and its types were asked for in between. -/
theorem kept_by_resolves_nfc :
    (∅ : Registry Summary).Reachable {MutualImports.storage} MutualImports.roots ∧
      (∅ : Registry Summary).Resolves MutualImports.storage MutualImports.roots MutualImports.nfc
        (.ok (some ⟨0⟩)) MutualImports.registry ∧
      ∀ storage' result' last,
        MutualImports.registry.Resolves storage' MutualImports.roots
          ⟨"hw.nfc", "@1.0", "INfc.Status"⟩ result' last ↔
        result' = .ok (some ⟨0⟩) ∧ last = MutualImports.registry := by
  have hreachable :
      (∅ : Registry Summary).Reachable {MutualImports.storage} MutualImports.roots := .refl
  have hreaches : Reaches {MutualImports.storage} MutualImports.roots MutualImports.registry
      MutualImports.registry := .tail .refl
    ⟨MutualImports.storage, rfl, MutualImports.nfc.typesOfPackage, .ok none, 0, rfl⟩
  refine ⟨hreachable, MutualImports.resolves_nfc, ?_⟩
  intro storage' result' last
  obtain ⟨_, _, _, hrepeated⟩ := kept_by_resolves hreachable MutualImports.resolves_nfc
  exact (hrepeated MutualImports.registry hreaches storage' _ result' last).1 (by decide)
    (by decide) (by decide)

/-- Calls for two names of one file that lack their package are refused with different errors. -/
theorem not_forall_same_file_same_result :
    ¬ ∀ (registry later last : Registry Summary) (name name' : QualifiedName)
      (result result' : Except ConfigError (Option DocumentId)),
      registry.Reachable {MutualImports.storage} MutualImports.roots →
      registry.Resolves MutualImports.storage MutualImports.roots name result later →
      name'.fileIdentity = name.fileIdentity →
      later.Resolves MutualImports.storage MutualImports.roots name' result' last →
      result' = result := by
  intro h
  have hsame := h ∅ ∅ ∅ ⟨"", "@1.0", "INfc.State"⟩ ⟨"", "@1.0", "INfc.Status"⟩ _ _ .refl
    ⟨0, rfl⟩ (by decide) ⟨0, rfl⟩
  simp at hsame

end Registry

end HalPackages
