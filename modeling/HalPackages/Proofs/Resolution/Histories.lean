import HalPackages.Proofs.Resolution.Grounds

/-!
# What was asked before

A file that is pending when it is asked for may come to anything later.  What is
recorded in the end does not tell that it was pending once, and only then can a file
have a document although what it asked for has failed in a way that ends every
loading.  So here the moments at which files were found pending are kept: each
answer that led to a document is either recorded, or there was a moment at which the
file asked and the other one was still being resolved.
-/

namespace HalPackages

open Relation

variable {Doc Declared : Type} [Document Doc Declared]

namespace Plan

/-- A plan ends in the same way if more answers are possible. -/
theorem Ends.mono {α : Type} {answers wider : Answers} {plan : Plan α}
    {result : Except ConfigError α} (h : plan.Ends answers result)
    (hwider : ∀ key answer, answers key answer → wider key answer) :
    plan.Ends wider result := by
  induction plan with
  | done | abort => exact h
  | parsing path next ih => exact ih h
  | ask key next ih =>
      rcases h with ⟨outcome, hanswer, hrest⟩ | ⟨cause, hanswer, heq⟩
      · exact Or.inl ⟨outcome, hwider _ _ hanswer, ih outcome hrest⟩
      · exact Or.inr ⟨cause, hwider _ _ hanswer, heq⟩

end Plan

/-! ## Stacks with the answers that were given -/

section Stack

variable (storage : Storage Doc) (roots : PackageRoots) (answers : QualifiedName → Answers)

/-- Each file on a stack has come to wait for a file by the answers that it was given: the innermost
one for a given file, and every other one for the file further in. -/
def StackedBy : QualifiedName → List (Waiting Doc) → Prop
  | _, [] => True
  | awaited, file :: waiting =>
    (storage.load roots file.key).ComesTo (answers file.key) (.ask awaited file.next) ∧
      StackedBy file.key waiting

/-- The files that are being loaded have come to where they are by the answers that they were given,
and the task is what the innermost of them waits for or what is left of its plan. -/
def Moment.LinkedBy (moment : Moment Doc) : Prop :=
  match moment.task, moment.waiting with
  | .request key, waiting => StackedBy storage roots answers key waiting
  | .load key plan, waiting =>
    (storage.load roots key).ComesTo (answers key) plan ∧
      StackedBy storage roots answers key waiting
  | .answer _, [] => True
  | .answer answer, file :: waiting => ∃ awaited,
    answers file.key awaited answer ∧ StackedBy storage roots answers awaited (file :: waiting)

/-- What has a document has come to it by the answers that it was given. -/
def Registry.CompletedBy (registry : Registry Doc) : Prop :=
  ∀ key id, registry.slot? key = some (.resolved id) →
    ∃ loaded, (storage.load roots key).Ends (answers key) (.ok (.ok loaded))

variable {storage roots answers} {wider : QualifiedName → Answers} {awaited key : QualifiedName}
variable {waiting : List (Waiting Doc)} {registry : Registry Doc}

theorem StackedBy.mono (h : StackedBy storage roots answers awaited waiting)
    (hwider : ∀ key other answer, answers key other answer → wider key other answer) :
    StackedBy storage roots wider awaited waiting := by
  induction waiting generalizing awaited with
  | nil => trivial
  | cons file waiting ih => exact ⟨h.1.mono (hwider file.key), ih h.2⟩

theorem Registry.CompletedBy.mono (h : registry.CompletedBy storage roots answers)
    (hwider : ∀ key other answer, answers key other answer → wider key other answer) :
    registry.CompletedBy storage roots wider := by
  intro key id hslot
  obtain ⟨loaded, hends⟩ := h key id hslot
  exact ⟨loaded, hends.mono (hwider key)⟩

theorem Registry.CompletedBy.settle {result : Except ConfigError (Loaded Doc)}
    (h : registry.CompletedBy storage roots answers)
    (hresult : (storage.load roots key).Ends (answers key) result) :
    (registry.settle key result).2.CompletedBy storage roots answers := by
  intro other id hslot
  by_cases hkey : key = other
  · subst hkey
    obtain ⟨_, path, document, rfl⟩ := Registry.eq_of_slot?_settle_resolved hslot
    exact ⟨(path, document), hresult⟩
  · rw [Registry.slot?_settle_of_ne hkey] at hslot
    exact h other id hslot

/-- A file that is completed by a step has come to its document by the answers that it was given. -/
theorem Step.completedBy {first second : Moment Doc} (hstep : Step storage roots first second)
    (hlinked : first.LinkedBy storage roots answers)
    (h : first.registry.CompletedBy storage roots answers) :
    second.registry.CompletedBy storage roots answers := by
  cases hstep with
  | recorded | parse | ask | resume => exact h
  | @start key =>
      intro other id hslot
      rw [Registry.slot?_start] at hslot
      split at hslot
      · simp at hslot
      · exact h other id hslot
  | finish => exact h.settle (hlinked.1.ends rfl)
  | abort => exact h.settle (hlinked.1.ends rfl)
  | propagate =>
      obtain ⟨awaited, hanswer, hplan, _⟩ := hlinked
      exact h.settle (hplan.ends (Or.inr ⟨_, hanswer, rfl⟩))

end Stack

namespace Moment

/-- The innermost file that is being loaded asks for a file that is still being resolved. -/
structure AsksPending (moment : Moment Doc) (key other : QualifiedName) : Prop where
  request : moment.task = .request other
  innermost : (moment.waiting.map Waiting.key).head? = some key
  resolving : moment.registry.slot? other = some .resolving

section Tells

variable (storage : Storage Doc) (roots : PackageRoots)

/-- The answers to requests of a file that are known at a moment: they are recorded, or the other
file was still being resolved at an earlier moment at which it was asked for. -/
inductive Tells (moment : Moment Doc) (key other : QualifiedName) :
    Except ConfigError Outcome → Prop where
  | recorded {slot : Slot} (hslot : moment.registry.slot? other = some slot)
      (hne : slot ≠ .resolving) : Tells moment key other slot.answer
  | pending {asking : Moment Doc} (hoccurs : asking.Occurs storage roots)
      (hprecedes : Precedes storage roots asking moment) (hasks : asking.AsksPending key other) :
      Tells moment key other (.ok (.error .pending))

/-- The files that are being loaded and those that have documents have come to this by answers that
are known. -/
structure Recounted (moment : Moment Doc) : Prop where
  linked : moment.LinkedBy storage roots (moment.Tells storage roots)
  completed : moment.registry.CompletedBy storage roots (moment.Tells storage roots)

end Tells

variable {storage : Storage Doc} {roots : PackageRoots} {first second moment : Moment Doc}
variable {key other : QualifiedName} {answer : Except ConfigError Outcome}
variable {waiting : List (Waiting Doc)} {registry : Registry Doc}

theorem Tells.mono (h : first.Tells storage roots key other answer)
    (hprecedes : Precedes storage roots first second)
    (hgrows : first.registry.GrowsOn storage second.registry) :
    second.Tells storage roots key other answer := by
  cases h with
  | recorded hslot hne => exact .recorded (hgrows.slots _ _ hslot hne) hne
  | pending hoccurs hearlier hasks => exact .pending hoccurs (hearlier.trans hprecedes) hasks

/-- An answer that is recorded is known. -/
theorem linkedBy_of_slot {slot : Slot}
    (hstack : StackedBy storage roots
      ((⟨.answer slot.answer, waiting, registry⟩ : Moment Doc).Tells storage roots) key waiting)
    (hslot : registry.slot? key = some slot) (hne : slot ≠ .resolving) :
    (⟨.answer slot.answer, waiting, registry⟩ : Moment Doc).LinkedBy storage roots
      ((⟨.answer slot.answer, waiting, registry⟩ : Moment Doc).Tells storage roots) := by
  cases waiting with
  | nil => trivial
  | cons file waiting => exact ⟨key, .recorded hslot hne, hstack⟩

/-- The answer that a file has come to is known once it is recorded. -/
theorem linkedBy_settled {result : Except ConfigError (Loaded Doc)}
    (hresult : ∀ loaded, result = .ok loaded → storage.CanLoad roots key loaded)
    (hstack : StackedBy storage roots
      ((settled key result waiting registry).Tells storage roots) key waiting) :
    (settled key result waiting registry).LinkedBy storage roots
      ((settled key result waiting registry).Tells storage roots) := by
  obtain ⟨slot, hslot, hne, hanswer⟩ := registry.exists_settled_slot key
    fun failure hfailure => hresult (.error failure) hfailure
  rw [settled, ← hanswer] at hstack ⊢
  exact linkedBy_of_slot hstack hslot hne

end Moment

variable {storage : Storage Doc} {roots : PackageRoots} {first second : Moment Doc}

/-- Each step is told of the answers that it leads to. -/
theorem Step.linkedBy (hstep : Step storage roots first second)
    (hoccurs : first.Occurs storage roots)
    (h : first.LinkedBy storage roots (first.Tells storage roots)) :
    second.LinkedBy storage roots (second.Tells storage roots) := by
  have hsound := hoccurs.grounded.sound
  have hprecedes : Moment.Precedes storage roots first second := .single (.step hstep)
  have htells : ∀ key other answer, first.Tells storage roots key other answer →
      second.Tells storage roots key other answer :=
    fun _ _ _ htold => htold.mono hprecedes (hstep.growsOn hsound)
  cases hstep with
  | @recorded key slot waiting registry hslot =>
      have hstack := StackedBy.mono h htells
      by_cases hne : slot = .resolving
      · cases waiting with
        | nil => trivial
        | cons file waiting =>
            -- This is the moment that is kept.
            subst hne
            exact ⟨key, .pending hoccurs hprecedes ⟨rfl, rfl, hslot⟩, hstack⟩
      · exact Moment.linkedBy_of_slot hstack hslot hne
  | start => exact ⟨.refl, StackedBy.mono h htells⟩
  | parse => exact ⟨(h.1.mono (htells _)).parsing, StackedBy.mono h.2 htells⟩
  | ask => exact ⟨h.1.mono (htells _), StackedBy.mono h.2 htells⟩
  | resume =>
      obtain ⟨awaited, htold, hplan, hstack⟩ := h
      exact ⟨(hplan.ask htold).mono (htells _), hstack.mono htells⟩
  | finish => exact Moment.linkedBy_settled hsound.canLoad_of_done (StackedBy.mono h.2 htells)
  | abort => exact Moment.linkedBy_settled (by simp) (StackedBy.mono h.2 htells)
  | propagate =>
      obtain ⟨awaited, _, _, hstack⟩ := h
      exact Moment.linkedBy_settled (by simp) (hstack.mono htells)

theorem Step.recounted (hstep : Step storage roots first second)
    (hoccurs : first.Occurs storage roots) (h : first.Recounted storage roots) :
    second.Recounted storage roots where
  linked := hstep.linkedBy hoccurs h.linked
  completed := (hstep.completedBy h.linked h.completed).mono fun _ _ _ htold =>
    htold.mono (.single (.step hstep)) (hstep.growsOn hoccurs.grounded.sound)

namespace Registry

variable {registry : Registry Doc} {name : QualifiedName}

theorem Reachable.recounted_of_leads (h : registry.Reachable {storage} roots)
    (hfirst : (Moment.ofCall registry name).Recounted storage roots)
    (hleads : Leads storage roots (.ofCall registry name) second) :
    second.Recounted storage roots := by
  induction hleads with
  | refl => exact hfirst
  | tail hleads hstep ih => exact hstep.recounted ⟨registry, name, h, hleads⟩ ih

/-- What the calls before have come to is still known when a call begins. -/
theorem Reachable.recounted_ofCall (h : registry.Reachable {storage} roots)
    (name : QualifiedName) : (Moment.ofCall registry name).Recounted storage roots := by
  induction h generalizing name with
  | refl =>
      refine ⟨?_, ?_⟩
      · rw [Moment.ofCall]
        split <;> trivial
      · intro key id hslot
        rw [Moment.registry_ofCall, slot?_empty] at hslot
        contradiction
  | @tail before after hbefore hcall ih =>
      obtain ⟨storage, rfl, name', result, hcall⟩ := hcall
      obtain ⟨outcome, _, hleads⟩ := hcall.leads
      have hanswered := Reachable.recounted_of_leads hbefore (ih name') hleads
      refine ⟨?_, ?_⟩
      · rw [Moment.ofCall]
        split <;> trivial
      · rw [Moment.registry_ofCall]
        refine hanswered.completed.mono fun _ _ _ htold => htold.mono (.single (.call name)) ?_
        rw [Moment.registry_ofCall]
        exact .refl storage _

end Registry

theorem Moment.Occurs.recounted {moment : Moment Doc} (h : moment.Occurs storage roots) :
    moment.Recounted storage roots := by
  obtain ⟨registry, name, hreachable, hleads⟩ := h
  exact hreachable.recounted_of_leads (hreachable.recounted_ofCall name) hleads

/-- A file that finds another one pending depends on it and is led back to. -/
theorem Moment.AsksPending.isCycle {asking : Moment Doc} {key other : QualifiedName}
    (hasks : asking.AsksPending key other) (h : asking.Occurs storage roots) :
    storage.DependsOn roots key other ∧ ReflTransGen (storage.DependsOn roots) other key := by
  obtain ⟨hsound, hlinked, _⟩ := h.grounded
  obtain ⟨task, waiting, registry⟩ := asking
  obtain ⟨rfl, hinnermost, hresolving⟩ := hasks
  cases waiting with
  | nil => contradiction
  | cons file waiting =>
      obtain rfl : file.key = key := Option.some.inj hinnermost
      have hstack : Stacked storage roots registry other (file :: waiting) := hlinked
      refine ⟨hstack.dependsOn, ?_⟩
      have hother : other ∈ file.key :: waiting.map Waiting.key :=
        (hsound.consistent.resolving_iff other).1 hresolving
      rcases List.mem_cons.1 hother with rfl | hother
      · exact .refl
      · exact (hstack.2.leads_to hother).to_reflTransGen

end HalPackages
