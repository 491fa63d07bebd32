import HalPackages.Proofs.Resolution.Consistency

/-!
# Calls leave nothing pending

A call may end in the middle of nested imports, with a failure or with a problem
of the configuration.  Still each file that it began to load has an answer
afterwards, and the answer of the file that the call asked for is the one that
the call returned.
-/

namespace HalPackages

variable {Doc Declared : Type} [Document Doc Declared]

/-- What is recorded of a file that is not being resolved. -/
theorem Slot.settled_cases {slot : Slot} (h : slot ≠ .resolving) :
    (∃ id, slot = .resolved id) ∨ (∃ cause, slot = .failed (.config cause)) ∨
      ∃ failure, failure.IsOfFile ∧ slot = .failed failure := by
  cases slot with
  | resolving => contradiction
  | resolved id => exact Or.inl ⟨id, rfl⟩
  | failed failure =>
      by_cases hconfig : ∃ cause, failure = .config cause
      · obtain ⟨cause, rfl⟩ := hconfig
        exact Or.inr (Or.inl ⟨cause, rfl⟩)
      · refine Or.inr (Or.inr ⟨failure, ?_, rfl⟩)
        intro cause heq
        exact hconfig ⟨cause, heq⟩

theorem Slot.answer_failed {failure : ResolveFailure} (h : failure.IsOfFile) :
    (Slot.failed failure).answer = .ok (.error .failed) := by
  cases failure with
  | config cause => exact absurd rfl (h cause)
  | _ => rfl

theorem Slot.eq_resolved_of_answer {slot : Slot} {id : DocumentId}
    (h : slot.answer = .ok (.ok id)) : slot = .resolved id := by
  cases slot with
  | resolving => simp [answer] at h
  | resolved id' => simpa [answer] using h
  | failed failure => cases failure <;> simp [answer] at h

theorem Slot.eq_resolving_of_answer {slot : Slot} (h : slot.answer = .ok (.error .pending)) :
    slot = .resolving := by
  cases slot with
  | resolving => rfl
  | resolved id => simp [answer] at h
  | failed failure => cases failure <;> simp [answer] at h

theorem Slot.eq_failed_of_answer {slot : Slot} {cause : ConfigError}
    (h : slot.answer = .error cause) : slot = .failed (.config cause) := by
  cases slot with
  | resolving => simp [answer] at h
  | resolved id => simp [answer] at h
  | failed failure =>
      cases failure with
      | config cause' => rw [Except.error.inj h]
      | _ => simp [answer] at h

namespace Registry

variable {registry later : Registry Doc} {storage : Storage Doc} {roots : PackageRoots}
variable {name : QualifiedName} {result : Except ConfigError (Option DocumentId)}
variable {worlds : Set (Storage Doc)}

/-- What is recorded of a file that was loaded gives the same answer as loading it. -/
theorem exists_slot_settle (registry : Registry Doc) (key : QualifiedName)
    {result : Except ConfigError (Loaded Doc)}
    (hresult : ∀ failure, result = .ok (.error failure) → failure.IsOfFile) :
    ∃ slot, (registry.settle key result).2.slot? key = some slot ∧
      slot.answer = (registry.settle key result).1 := by
  rcases result with cause | failure | ⟨path, document⟩
  · exact ⟨.failed (.config cause), by rw [settle, slot?_fail, if_pos rfl], rfl⟩
  · exact ⟨.failed failure, by rw [settle, slot?_fail, if_pos rfl],
      Slot.answer_failed (hresult failure rfl)⟩
  · exact ⟨.resolved registry.nextId, by rw [settle, slot?_install, if_pos rfl], rfl⟩

/-- A file that was loaded is no longer being resolved. -/
theorem exists_settled_slot (registry : Registry Doc) (key : QualifiedName)
    {result : Except ConfigError (Loaded Doc)}
    (hresult : ∀ failure, result = .ok (.error failure) → failure.IsOfFile) :
    ∃ slot, (registry.settle key result).2.slot? key = some slot ∧ slot ≠ .resolving ∧
      slot.answer = (registry.settle key result).1 := by
  obtain ⟨slot, hslot, hanswer⟩ := registry.exists_slot_settle key hresult
  refine ⟨slot, hslot, ?_, hanswer⟩
  rintro rfl
  rcases result with cause | failure | ⟨path, document⟩ <;> simp [Slot.answer, settle] at hanswer

/-- The answer to a request is recorded. -/
theorem exists_slot_of_requestWithin {depth : Nat} {key : QualifiedName}
    {outcome : Except ConfigError Outcome}
    (h : storage.requestWithin roots depth key registry = some (outcome, later)) :
    ∃ slot, later.slot? key = some slot ∧ slot.answer = outcome := by
  cases hslot : registry.slot? key with
  | some slot =>
      rw [Storage.requestWithin_of_slot hslot, Option.some.injEq, Prod.mk.injEq] at h
      obtain ⟨rfl, rfl⟩ := h
      exact ⟨slot, hslot, rfl⟩
  | none =>
      obtain ⟨below, loaded, middle, _, hrun, hsettle⟩ :=
        Storage.exists_run_of_requestWithin hslot h
      have hresult : ∀ failure, loaded = .ok (.error failure) → failure.IsOfFile := by
        intro failure hloaded
        rw [hloaded] at hrun
        exact (storage.yields_load roots key).of_run hrun
      have hrecorded := middle.exists_slot_settle key hresult
      rw [hsettle] at hrecorded
      exact hrecorded

theorem Resolves.exists_slot (hcall : registry.Resolves storage roots name result later)
    (hname : name.IsFullyQualified) :
    ∃ slot, later.slot? name.fileIdentity = some slot ∧
      result = slot.answer.map Except.toOption := by
  obtain ⟨depth, outcome, rfl, hrequest⟩ := (resolves_iff_of_isFullyQualified hname).1 hcall
  obtain ⟨slot, hslot, rfl⟩ := exists_slot_of_requestWithin hrequest
  exact ⟨slot, hslot, rfl⟩

/-- After a call no file is being resolved.  A name that is not fully qualified is refused and
changes nothing; otherwise what is recorded of the file of the name is what the call returned. -/
theorem settled_of_resolves (hregistry : registry.Reachable worlds roots)
    (hcall : registry.Resolves storage roots name result later) :
    (∀ key, later.slot? key ≠ some .resolving) ∧
      (¬ name.IsFullyQualified →
        result = .error (.notFullyQualified name) ∧ later = registry) ∧
      (name.IsFullyQualified →
        (∀ id, later.slot? name.fileIdentity = some (.resolved id) ↔ result = .ok (some id)) ∧
        ((∃ failure, failure.IsOfFile ∧
          later.slot? name.fileIdentity = some (.failed failure)) ↔ result = .ok none) ∧
        ∀ cause, later.slot? name.fileIdentity = some (.failed (.config cause)) ↔
          result = .error cause) := by
  have hsettled := (hcall.consistent hregistry.consistent).slot_ne_resolving
  refine ⟨hsettled, fun hname => (resolves_iff_of_not_isFullyQualified hname).1 hcall, ?_⟩
  intro hname
  obtain ⟨slot, hslot, rfl⟩ := hcall.exists_slot hname
  have hne : slot ≠ .resolving := by
    rintro rfl
    exact hsettled _ hslot
  simp only [hslot, Option.some.injEq]
  rcases Slot.settled_cases hne with ⟨id, rfl⟩ | ⟨cause, rfl⟩ | ⟨failure, hfailure, rfl⟩
  · simp [Slot.answer, Except.map, Except.toOption]
  · simp [Slot.answer, Except.map, ResolveFailure.IsOfFile]
  · rw [Slot.answer_failed hfailure]
    simp [Except.map, Except.toOption, hfailure, hfailure _]

end Registry

namespace MutualImports

theorem settled_nfc :
    (∅ : Registry Summary).Reachable {storage} roots ∧
      (∅ : Registry Summary).Resolves storage roots nfc (.ok (some ⟨0⟩)) registry ∧
      nfc.IsFullyQualified ∧ (∀ key, registry.slot? key ≠ some .resolving) ∧
      registry.slot? nfc.fileIdentity = some (.resolved ⟨0⟩) := by
  have hreachable : (∅ : Registry Summary).Reachable {storage} roots := .refl
  have hname : nfc.IsFullyQualified := by decide
  obtain ⟨hsettled, _, hrecorded⟩ := Registry.settled_of_resolves hreachable resolves_nfc
  exact ⟨hreachable, resolves_nfc, hname, hsettled, ((hrecorded hname).1 ⟨0⟩).2 rfl⟩

end MutualImports

end HalPackages
