import HalPackages.Proofs.Resolution.Consistency
import Mathlib.Data.Finset.Card

/-!
# Every call ends

Imports may be circular, and a file may import a whole package.  A call ends all
the same if the documents declare finitely many files: a file that leads to
further requests is one that a document declares to be, and it is being loaded at
most once at a time; between two such files there is at most one that waits for
the types of its package.
-/

namespace HalPackages

variable {Doc Declared : Type} [Document Doc Declared]

namespace Document

/-- The package, the version and the interface, if there is one, that a document declares. -/
def declaration (document : Doc) : String × String × Option String :=
  ((package document).package, (package document).version, interfaceName? document)

/-- The file of a declaration. -/
def fileOf : String × String × Option String → QualifiedName
  | (package, version, interface) => ⟨package, version, interface.getD QualifiedName.typesName⟩

theorem fileOf_declaration (document : Doc) : fileOf (declaration document) = identity document :=
  rfl

end Document

namespace Registry

variable {registry : Registry Doc} {storage : Storage Doc} {roots : PackageRoots}
variable {loading : List QualifiedName} {worlds : Set (Storage Doc)}

/-- The files that are being resolved, in the order of their first request. -/
def resolving (registry : Registry Doc) : List QualifiedName :=
  registry.cache.keys.filter fun key => registry.slot? key = some .resolving

theorem mem_resolving_iff {key : QualifiedName} :
    key ∈ registry.resolving ↔ registry.slot? key = some .resolving := by
  rw [resolving, List.mem_filter, decide_eq_true_eq, and_iff_right_iff_imp]
  intro hslot
  exact OrderedMap.mem_keys_iff.2 ⟨_, hslot⟩

/-- What is being resolved is what is being loaded. -/
theorem Consistent.resolving_perm (h : registry.Consistent roots loading) :
    registry.resolving.Perm loading := by
  have hnodup : registry.resolving.Nodup := h.nodup_keys.filter _
  rw [List.perm_ext_iff_of_nodup hnodup h.nodup_loading]
  intro key
  rw [mem_resolving_iff, h.resolving_iff]

/-- If documents make finitely many declarations, a call returns and no endless chain of steps
starts with it.  Each of its moments leads to its answer, and at each of them at most two files for
every declaration and two more are being resolved. -/
theorem resolves_of_finite_declarations (storage : Storage Doc) (roots : PackageRoots)
    (declared : Finset (String × String × Option String))
    (hdeclared : ∀ path document, storage.parse path = .ok document →
      Document.declaration document ∈ declared)
    (registry : Registry Doc) (hregistry : registry.Reachable worlds roots)
    (name : QualifiedName) :
    ∃ outcome later,
      registry.Resolves storage roots name (outcome.map Except.toOption) later ∧
        Acc (fun later earlier => Step storage roots earlier later) (.ofCall registry name) ∧
        ∀ moment, Leads storage roots (.ofCall registry name) moment →
          Leads storage roots moment ⟨.answer outcome, [], later⟩ ∧
            moment.registry.resolving.length ≤ 2 * declared.card + 2 := by
  have hnames : ∀ path document, storage.parse path = .ok document →
      Document.identity document ∈ declared.toList.map Document.fileOf := by
    intro path document hparse
    rw [← Document.fileOf_declaration]
    exact List.mem_map_of_mem (Finset.mem_toList.2 (hdeclared path document hparse))
  have hdepth : 2 * (declared.toList.map Document.fileOf).length + 2 ≤ 2 * declared.card + 2 := by
    rw [List.length_map, Finset.length_toList]
  obtain ⟨⟨result, later⟩, hanswer⟩ := Option.isSome_iff_exists.1
    (isSome_resolveWithin hnames hdepth registry roots name)
  obtain ⟨outcome, rfl, hrun⟩ := runWithin_resolveWithin hanswer
  have hlast : ∀ next, ¬ Step storage roots ⟨.answer outcome, [], later⟩ next :=
    not_step_answer outcome later
  refine ⟨outcome, later, ⟨_, hanswer⟩, hrun.acc hlast, ?_⟩
  intro moment hleads
  have hsound := hleads.sound (Moment.sound_ofCall hregistry.consistent name)
  have hrest := hrun.of_leads hlast hleads
  refine ⟨hrest.leads, ?_⟩
  calc
    moment.registry.resolving.length = moment.loading.length :=
      hsound.consistent.resolving_perm.length_eq
    _ ≤ 2 * declared.card + 2 := hrest.length_loading_le

end Registry

namespace MutualImports

/-- What the types and the interface declare. -/
def declared : Finset (String × String × Option String) :=
  {("hw.nfc", "@1.0", none), ("hw.nfc", "@1.0", some "INfc")}

theorem declaration_mem_declared (path : Path) (document : Summary)
    (hparse : storage.parse path = .ok document) :
    Document.declaration document ∈ declared := by
  rw [storage] at hparse
  dsimp only at hparse
  split at hparse
  · cases hparse
    decide
  · split at hparse
    · cases hparse
      decide
    · contradiction

theorem resolves_nfc_within_six :
    (∀ path document, storage.parse path = .ok document →
      Document.declaration document ∈ declared) ∧
      (∅ : Registry Summary).Reachable {storage} roots ∧
      ∃ outcome later,
        (∅ : Registry Summary).Resolves storage roots nfc (outcome.map Except.toOption) later ∧
          Acc (fun later earlier => Step storage roots earlier later) (.ofCall ∅ nfc) ∧
          ∀ moment, Leads storage roots (.ofCall ∅ nfc) moment →
            Leads storage roots moment ⟨.answer outcome, [], later⟩ ∧
              moment.registry.resolving.length ≤ 6 := by
  have hreachable : (∅ : Registry Summary).Reachable {storage} roots := .refl
  refine ⟨declaration_mem_declared, hreachable, ?_⟩
  exact Registry.resolves_of_finite_declarations storage roots declared declaration_mem_declared ∅
    hreachable nfc

end MutualImports

end HalPackages
