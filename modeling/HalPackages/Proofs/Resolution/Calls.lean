import HalPackages.Proofs.Resolution.Moments
import HalPackages.Summary
import Mathlib.Data.Set.Basic

/-!
# Calls and what they reach

Between two calls of `resolve` the files may change, so each call has a storage
of its own.  A storage need not be bounded here: a call on it may then never
return, and what is said of calls is said of those that do.  On sources every
call returns, and `resolve` gives its answer.
-/

namespace HalPackages

open Relation

variable {Doc Declared : Type} [Document Doc Declared]

namespace Registry

/-- A call returns a result and leaves a registry. -/
def Resolves (registry : Registry Doc) (storage : Storage Doc) (roots : PackageRoots)
    (name : QualifiedName) (result : Except ConfigError (Option DocumentId))
    (later : Registry Doc) : Prop :=
  ∃ depth, registry.resolveWithin depth storage roots name = some (result, later)

/-- One registry is left by calls that are made on another, one after the other.  Each call has one
of the storages `worlds`. -/
def Reaches (worlds : Set (Storage Doc)) (roots : PackageRoots) :
    Registry Doc → Registry Doc → Prop :=
  ReflTransGen fun before after =>
    ∃ storage ∈ worlds, ∃ name result, before.Resolves storage roots name result after

/-- The registries that calls leave. -/
def Reachable (worlds : Set (Storage Doc)) (roots : PackageRoots) (registry : Registry Doc) :
    Prop :=
  Reaches worlds roots ∅ registry

variable {registry later : Registry Doc} {storage : Storage Doc} {roots : PackageRoots}
variable {name : QualifiedName} {result : Except ConfigError (Option DocumentId)}
variable {worlds : Set (Storage Doc)}

theorem resolves_resolve (registry : Registry Doc) (sources : Sources Doc)
    (roots : PackageRoots) (name : QualifiedName) :
    registry.Resolves sources.toStorage roots name (registry.resolve sources roots name).1
      (registry.resolve sources roots name).2 := by
  refine ⟨sources.depth, ?_⟩
  exact (Option.some_get (registry.isSome_resolveWithin_depth sources roots name)).symm

theorem resolves_iff_of_not_isFullyQualified (h : ¬ name.IsFullyQualified) :
    registry.Resolves storage roots name result later ↔
      result = .error (.notFullyQualified name) ∧ later = registry := by
  constructor
  · rintro ⟨depth, hanswer⟩
    rw [resolveWithin, if_neg h, Option.some.injEq, Prod.mk.injEq] at hanswer
    exact ⟨hanswer.1.symm, hanswer.2.symm⟩
  · rintro ⟨rfl, rfl⟩
    refine ⟨0, ?_⟩
    rw [resolveWithin, if_neg h]

theorem resolves_iff_of_isFullyQualified (h : name.IsFullyQualified) :
    registry.Resolves storage roots name result later ↔
      ∃ depth outcome, result = outcome.map Except.toOption ∧
        storage.requestWithin roots depth name.fileIdentity registry = some (outcome, later) := by
  constructor
  · rintro ⟨depth, hanswer⟩
    rw [resolveWithin, if_pos h, Option.map_eq_some_iff] at hanswer
    obtain ⟨⟨outcome, registry'⟩, hrequest, heq⟩ := hanswer
    rw [Prod.mk.injEq] at heq
    obtain ⟨rfl, rfl⟩ := heq
    exact ⟨depth, outcome, rfl, hrequest⟩
  · rintro ⟨depth, outcome, rfl, hrequest⟩
    refine ⟨depth, ?_⟩
    rw [resolveWithin, if_pos h, hrequest]
    rfl

/-- A call for a file that was requested before is answered from the record. -/
theorem resolves_iff_of_slot {slot : Slot} (hname : name.IsFullyQualified)
    (hslot : registry.slot? name.fileIdentity = some slot) :
    registry.Resolves storage roots name result later ↔
      result = slot.answer.map Except.toOption ∧ later = registry := by
  rw [resolves_iff_of_isFullyQualified hname]
  constructor
  · rintro ⟨depth, outcome, rfl, hanswer⟩
    rw [Storage.requestWithin_of_slot hslot, Option.some.injEq, Prod.mk.injEq] at hanswer
    obtain ⟨rfl, rfl⟩ := hanswer
    exact ⟨rfl, rfl⟩
  · rintro ⟨rfl, rfl⟩
    exact ⟨0, slot.answer, rfl, Storage.requestWithin_of_slot hslot 0⟩

/-- A call with requests nested at most `depth` deep is a run that loads at most `depth` files at
once. -/
theorem runWithin_resolveWithin {depth : Nat}
    (h : registry.resolveWithin depth storage roots name = some (result, later)) :
    ∃ outcome, result = outcome.map Except.toOption ∧
      RunWithin storage roots depth (.ofCall registry name) ⟨.answer outcome, [], later⟩ := by
  rw [resolveWithin] at h
  split at h
  · rename_i hqualified
    rw [Option.map_eq_some_iff] at h
    obtain ⟨⟨outcome, registry'⟩, hrequest, heq⟩ := h
    rw [Prod.mk.injEq] at heq
    obtain ⟨rfl, rfl⟩ := heq
    refine ⟨outcome, rfl, ?_⟩
    rw [Moment.ofCall_of_isFullyQualified registry hqualified]
    apply runWithin_request hrequest
    rw [List.length_nil, Nat.zero_add]
  · rename_i hqualified
    rw [Option.some.injEq, Prod.mk.injEq] at h
    obtain ⟨rfl, rfl⟩ := h
    refine ⟨.error (.notFullyQualified name), rfl, ?_⟩
    rw [Moment.ofCall_of_not_isFullyQualified registry hqualified]
    exact .refl (Nat.zero_le depth)

theorem Resolves.leads (h : registry.Resolves storage roots name result later) :
    ∃ outcome, result = outcome.map Except.toOption ∧
      Leads storage roots (.ofCall registry name) ⟨.answer outcome, [], later⟩ := by
  obtain ⟨depth, hanswer⟩ := h
  obtain ⟨outcome, hresult, hrun⟩ := runWithin_resolveWithin hanswer
  exact ⟨outcome, hresult, hrun.leads⟩

/-- A call has one result. -/
theorem Resolves.unique {result' : Except ConfigError (Option DocumentId)}
    {later' : Registry Doc} (h : registry.Resolves storage roots name result later)
    (h' : registry.Resolves storage roots name result' later') :
    result = result' ∧ later = later' := by
  obtain ⟨depth, hanswer⟩ := h
  obtain ⟨outcome, rfl, hrun⟩ := runWithin_resolveWithin hanswer
  obtain ⟨outcome', rfl, hleads⟩ := h'.leads
  have hrest := hrun.of_leads (not_step_answer outcome later) hleads
  cases hrest with
  | refl => exact ⟨rfl, rfl⟩
  | step _ hstep => exact absurd hstep (not_step_answer _ _ _)

/-- On sources, the calls are those of `resolve`. -/
theorem resolves_iff_resolve {sources : Sources Doc} :
    registry.Resolves sources.toStorage roots name result later ↔
      registry.resolve sources roots name = (result, later) := by
  constructor
  · intro h
    obtain ⟨hresult, hlater⟩ := (resolves_resolve registry sources roots name).unique h
    exact Prod.ext hresult hlater
  · intro h
    have hresolves := resolves_resolve registry sources roots name
    rw [h] at hresolves
    exact hresolves

theorem Reachable.resolve (h : Reachable worlds roots registry) (hworlds : storage ∈ worlds)
    (hcall : registry.Resolves storage roots name result later) :
    Reachable worlds roots later :=
  ReflTransGen.tail h ⟨storage, hworlds, name, result, hcall⟩

end Registry

/-! ## Two files that import each other -/

namespace MutualImports

/-- The interface of a package. -/
def nfc : QualifiedName := ⟨"hw.nfc", "@1.0", "INfc"⟩

/-- The types of the package import the interface, and the interface, as every other, the types. -/
def storage : Storage Summary where
  parse path :=
    if path = ⟨"hw/nfc/1.0/types.hal"⟩ then
      .ok ⟨⟨"hw.nfc", "@1.0", ""⟩, none, [⟨"", "", "INfc"⟩], []⟩
    else if path = ⟨"hw/nfc/1.0/INfc.hal"⟩ then
      .ok ⟨⟨"hw.nfc", "@1.0", ""⟩, some "INfc", [], ["INfc", "INfc.Status"]⟩
    else .error (.missing path)
  list _ := .ok ["INfc", "types"]

def roots : PackageRoots := ⟨[⟨"hw", "hw"⟩]⟩

/-- What a request for the interface leaves. -/
def registry : Registry Summary where
  cache := ⟨[(nfc, .resolved ⟨0⟩),
    (nfc.typesOfPackage, .failed (.circularImport ⟨"hw/nfc/1.0/types.hal"⟩ nfc))]⟩
  documents := [⟨nfc, ⟨"hw/nfc/1.0/INfc.hal"⟩,
    ⟨⟨"hw.nfc", "@1.0", ""⟩, some "INfc", [], ["INfc", "INfc.Status"]⟩⟩]
  parsed := [⟨"hw/nfc/1.0/types.hal"⟩, ⟨"hw/nfc/1.0/INfc.hal"⟩]

theorem resolves_nfc :
    (∅ : Registry Summary).Resolves storage roots nfc (.ok (some ⟨0⟩)) registry :=
  ⟨2, rfl⟩

theorem reachable_registry : registry.Reachable {storage} roots :=
  Registry.Reachable.resolve ReflTransGen.refl rfl resolves_nfc

end MutualImports

end HalPackages
