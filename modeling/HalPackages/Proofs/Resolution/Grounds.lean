import HalPackages.Proofs.Resolution.Answers
import HalPackages.Proofs.Resolution.Growth
import HalPackages.Proofs.Resolution.Settled
import Mathlib.Data.List.Chain

/-!
# What the entries of a registry rest on

What a file has come to rests on the answers to its requests.  An answer is
either recorded already, or it is `pending`, and then the requested file depends
in turn on the one that requests it: the files that are being loaded form a stack
in which each depends on the next.  This is kept by every step.  It takes a
registry apart into the changes that made it, and the results below are proved
from these changes alone, without a look at the order of the steps.

The files do not change here: all calls have one storage.
-/

namespace HalPackages

open Relation

variable {Doc Declared : Type} [Document Doc Declared]

namespace Registry

section Grounds

variable (storage : Storage Doc) (roots : PackageRoots)

/-- The answers to requests of a file that a registry supports. -/
inductive Supports (registry : Registry Doc) (key other : QualifiedName) :
    Except ConfigError Outcome → Prop where
  | recorded {slot : Slot} (hedge : storage.DependsOn roots key other)
      (hslot : registry.slot? other = some slot) (hne : slot ≠ .resolving) :
      Supports registry key other slot.answer
  /-- The requested file leads back to the one that requests it. -/
  | pending (hedge : storage.DependsOn roots key other)
      (hback : ReflTransGen (storage.DependsOn roots) other key) :
      Supports registry key other (.ok (.error .pending))

/-- A registry that was made by changes each of which is supported by the registry before it. -/
inductive Grounded : Registry Doc → Prop where
  | empty : Grounded ∅
  | start {registry : Registry Doc} {key : QualifiedName} (h : Grounded registry)
      (hslot : registry.slot? key = none) : Grounded (registry.start key)
  | notePath {registry : Registry Doc} (h : Grounded registry) (path : Path) :
      Grounded (registry.notePath path)
  | settle {registry : Registry Doc} {key : QualifiedName}
      {result : Except ConfigError (Loaded Doc)} (h : Grounded registry)
      (hslot : registry.slot? key = some .resolving)
      (hresult : (storage.load roots key).Ends (Supports storage roots registry key) result) :
      Grounded (registry.settle key result).2

end Grounds

variable {storage : Storage Doc} {roots : PackageRoots} {registry earlier later : Registry Doc}
variable {key other : QualifiedName} {answer : Except ConfigError Outcome}

theorem Supports.dependsOn (h : registry.Supports storage roots key other answer) :
    storage.DependsOn roots key other := by
  cases h <;> assumption

theorem Supports.mono (h : earlier.Supports storage roots key other answer)
    (hgrows : earlier.GrowsOn storage later) :
    later.Supports storage roots key other answer := by
  cases h with
  | recorded hedge hslot hne => exact .recorded hedge (hgrows.slots _ _ hslot hne) hne
  | pending hedge hback => exact .pending hedge hback

/-- A document that is given is recorded. -/
theorem Supports.slot?_eq {id : DocumentId}
    (h : registry.Supports storage roots key other (.ok (.ok id))) :
    registry.slot? other = some (.resolved id) := by
  generalize hanswer : (Except.ok (.ok id) : Except ConfigError Outcome) = answer at h
  cases h with
  | recorded _ hslot _ =>
      rw [Slot.eq_resolved_of_answer hanswer.symm] at hslot
      exact hslot
  | pending => simp at hanswer

/-- A file is pending only if it leads back to the one that requests it. -/
theorem Supports.leads_back
    (h : registry.Supports storage roots key other (.ok (.error .pending))) :
    ReflTransGen (storage.DependsOn roots) other key := by
  generalize hanswer : (Except.ok (.error .pending) : Except ConfigError Outcome) = answer at h
  cases h with
  | recorded _ _ hne => exact absurd (Slot.eq_resolving_of_answer hanswer.symm) hne
  | pending _ hback => exact hback

/-- A supported result makes a registry grow. -/
theorem growsOn_settle_of_ends {result : Except ConfigError (Loaded Doc)}
    (hslot : registry.slot? key = some .resolving)
    (hresult : (storage.load roots key).Ends (registry.Supports storage roots key) result) :
    registry.GrowsOn storage (registry.settle key result).2 := by
  apply growsOn_settle roots hslot
  rintro loaded rfl
  exact (storage.yields_load roots key).of_ends hresult

/-- A property of what is recorded of files holds if it is kept when the registry grows and a
supported result has it. -/
theorem Grounded.settled_induction {property : Registry Doc → QualifiedName → Slot → Prop}
    (hkept : ∀ {earlier later : Registry Doc} {key : QualifiedName} {slot : Slot},
      earlier.GrowsOn storage later → property earlier key slot → property later key slot)
    (hsettled : ∀ {registry : Registry Doc} {key : QualifiedName}
      {result : Except ConfigError (Loaded Doc)} {slot : Slot},
      (∀ other slot, registry.slot? other = some slot → slot ≠ .resolving →
        property registry other slot) →
      registry.slot? key = some .resolving →
      (storage.load roots key).Ends (registry.Supports storage roots key) result →
      (registry.settle key result).2.slot? key = some slot →
        property (registry.settle key result).2 key slot)
    (h : registry.Grounded storage roots) :
    ∀ other slot, registry.slot? other = some slot → slot ≠ .resolving →
      property registry other slot := by
  induction h with
  | empty => simp [slot?_empty]
  | @start registry key _ hslot ih =>
      intro other slot hother hne
      rw [slot?_start] at hother
      split at hother
      · exact absurd (Option.some.inj hother).symm hne
      · exact hkept (growsOn_start storage hslot) (ih other slot hother hne)
  | @notePath registry _ path ih =>
      intro other slot hother hne
      exact hkept (growsOn_notePath storage registry path) (ih other slot hother hne)
  | @settle registry key result _ hslot hresult ih =>
      intro other slot hother hne
      -- The file that is settled is new, and all others keep what they have.
      by_cases hkey : key = other
      · subst hkey
        exact hsettled ih hslot hresult hother
      · rw [slot?_settle_of_ne hkey] at hother
        exact hkept (growsOn_settle_of_ends hslot hresult) (ih other slot hother hne)

end Registry

/-! ## The stack of files that are being loaded -/

section Stack

variable (storage : Storage Doc) (roots : PackageRoots) (registry : Registry Doc)

/-- Each file on a stack waits for the answer to a request: the innermost one for a given file, and
every other one for the file further in. -/
def Stacked : QualifiedName → List (Waiting Doc) → Prop
  | _, [] => True
  | awaited, file :: waiting =>
    (storage.load roots file.key).ComesTo (registry.Supports storage roots file.key)
        (.ask awaited file.next) ∧
      Stacked file.key waiting

variable {storage roots registry} {awaited : QualifiedName} {waiting : List (Waiting Doc)}

theorem Stacked.mono {later : Registry Doc} (h : Stacked storage roots registry awaited waiting)
    (hgrows : registry.GrowsOn storage later) : Stacked storage roots later awaited waiting := by
  induction waiting generalizing awaited with
  | nil => trivial
  | cons file waiting ih =>
      exact ⟨h.1.mono fun _ _ hsupports => hsupports.mono hgrows, ih h.2⟩

/-- A file that waits for another depends on it. -/
theorem Stacked.dependsOn {file : Waiting Doc}
    (h : Stacked storage roots registry awaited (file :: waiting)) :
    storage.DependsOn roots file.key awaited :=
  (h.1.confined (Storage.confined_load storage roots file.key)).1

/-- All files on a stack lead to the file that the innermost one waits for. -/
theorem Stacked.leads_to (h : Stacked storage roots registry awaited waiting)
    {key : QualifiedName} (hkey : key ∈ waiting.map Waiting.key) :
    TransGen (storage.DependsOn roots) key awaited := by
  induction waiting generalizing awaited with
  | nil => contradiction
  | cons file waiting ih =>
      rw [List.map_cons, List.mem_cons] at hkey
      rcases hkey with rfl | hkey
      · exact TransGen.single h.dependsOn
      · exact (ih h.2 hkey).tail h.dependsOn

theorem Stacked.isChain (h : Stacked storage roots registry awaited waiting) :
    (awaited :: waiting.map Waiting.key).IsChain
      fun inner outer => storage.DependsOn roots outer inner := by
  induction waiting generalizing awaited with
  | nil => exact .singleton awaited
  | cons file waiting ih => exact .cons_cons h.dependsOn (ih h.2)

theorem Stacked.isChain_waiting (h : Stacked storage roots registry awaited waiting) :
    (waiting.map Waiting.key).IsChain
      fun inner outer => storage.DependsOn roots outer inner := by
  cases waiting with
  | nil => exact .nil
  | cons file waiting => exact h.2.isChain

end Stack

namespace Moment

variable (storage : Storage Doc) (roots : PackageRoots)

/-- The files that are being loaded and the task fit together: the task is what the innermost of
them waits for, or what is left of its plan. -/
def Linked (moment : Moment Doc) : Prop :=
  match moment.task, moment.waiting with
  | .request key, waiting => Stacked storage roots moment.registry key waiting
  | .load key plan, waiting =>
    (storage.load roots key).ComesTo (moment.registry.Supports storage roots key) plan ∧
      Stacked storage roots moment.registry key waiting
  | .answer _, [] => True
  | .answer answer, file :: waiting => ∃ awaited,
    moment.registry.Supports storage roots file.key awaited answer ∧
      Stacked storage roots moment.registry awaited (file :: waiting)

variable {storage roots} {key : QualifiedName} {waiting : List (Waiting Doc)}
variable {registry : Registry Doc}

theorem linked_ofCall (registry : Registry Doc) (name : QualifiedName) :
    (ofCall registry name).Linked storage roots := by
  rw [ofCall]
  split <;> trivial

/-- The answer to a request for a file that was requested before is supported. -/
theorem linked_recorded {slot : Slot} (hstack : Stacked storage roots registry key waiting)
    (hresolving : slot = .resolving → key ∈ waiting.map Waiting.key)
    (hslot : registry.slot? key = some slot) :
    (⟨.answer slot.answer, waiting, registry⟩ : Moment Doc).Linked storage roots := by
  cases waiting with
  | nil => trivial
  | cons file waiting =>
      refine ⟨key, ?_, hstack⟩
      by_cases hne : slot = .resolving
      · subst hne
        apply Registry.Supports.pending hstack.dependsOn
        have hkey := hresolving rfl
        rw [List.map_cons, List.mem_cons] at hkey
        rcases hkey with rfl | hkey
        · exact ReflTransGen.refl
        · exact (hstack.2.leads_to hkey).to_reflTransGen
      · exact .recorded hstack.dependsOn hslot hne

/-- The answer that a file has come to is supported once it is recorded. -/
theorem linked_settled {result : Except ConfigError (Loaded Doc)}
    (hstack : Stacked storage roots registry key waiting)
    (hresult : ∀ loaded, result = .ok loaded → storage.CanLoad roots key loaded)
    (hgrows : registry.GrowsOn storage (registry.settle key result).2) :
    (settled key result waiting registry).Linked storage roots := by
  obtain ⟨slot, hslot, hne, hanswer⟩ := registry.exists_settled_slot key
    fun failure hfailure => hresult (.error failure) hfailure
  rw [settled, ← hanswer]
  exact linked_recorded (hstack.mono hgrows) (fun heq => absurd heq hne) hslot

end Moment

variable {storage : Storage Doc} {roots : PackageRoots} {first second : Moment Doc}

/-- Each step keeps files and task together. -/
theorem Step.linked (hstep : Step storage roots first second) (hsound : first.Sound storage roots)
    (h : first.Linked storage roots) : second.Linked storage roots := by
  have hgrows := hstep.growsOn hsound
  cases hstep with
  | @recorded key slot waiting registry hslot =>
      apply Moment.linked_recorded h _ hslot
      rintro rfl
      exact (hsound.consistent.resolving_iff key).1 hslot
  | start hslot => exact ⟨.refl, h.mono hgrows⟩
  | parse =>
      obtain ⟨hplan, hstack⟩ := h
      exact ⟨(hplan.mono fun _ _ hsupports => hsupports.mono hgrows).parsing, hstack.mono hgrows⟩
  | ask => exact h
  | resume =>
      obtain ⟨awaited, hsupports, hplan, hstack⟩ := h
      exact ⟨hplan.ask hsupports, hstack⟩
  | finish => exact Moment.linked_settled h.2 hsound.canLoad_of_done hgrows
  | abort => exact Moment.linked_settled h.2 (by simp) hgrows
  | propagate =>
      obtain ⟨awaited, hsupports, hplan, hstack⟩ := h
      exact Moment.linked_settled hstack (by simp) hgrows

/-- Each step changes the registry in a way that it supports. -/
theorem Step.grounded (hstep : Step storage roots first second)
    (hsound : first.Sound storage roots) (hlinked : first.Linked storage roots)
    (h : first.registry.Grounded storage roots) : second.registry.Grounded storage roots := by
  cases hstep with
  | recorded | ask | resume => exact h
  | start hslot => exact h.start hslot
  | parse => exact h.notePath _
  | finish => exact h.settle (hsound.slot?_loading List.mem_cons_self) (hlinked.1.ends rfl)
  | abort => exact h.settle (hsound.slot?_loading List.mem_cons_self) (hlinked.1.ends rfl)
  | propagate =>
      obtain ⟨awaited, hsupports, hplan, _⟩ := hlinked
      apply h.settle (hsound.slot?_loading List.mem_cons_self)
      exact hplan.ends (Or.inr ⟨_, hsupports, rfl⟩)

/-- What holds at every moment of a call. -/
structure Moment.Grounded (storage : Storage Doc) (roots : PackageRoots) (moment : Moment Doc) :
    Prop where
  sound : moment.Sound storage roots
  linked : moment.Linked storage roots
  grounded : moment.registry.Grounded storage roots

theorem Leads.grounded (hleads : Leads storage roots first second)
    (h : first.Grounded storage roots) : second.Grounded storage roots := by
  induction hleads with
  | refl => exact h
  | tail _ hstep ih =>
      exact ⟨hstep.sound ih.sound, hstep.linked ih.sound ih.linked,
        hstep.grounded ih.sound ih.linked ih.grounded⟩

namespace Registry

variable {registry later : Registry Doc} {name : QualifiedName}
variable {result : Except ConfigError (Option DocumentId)}

theorem Reachable.grounded_ofCall (h : registry.Reachable {storage} roots)
    (hgrounded : registry.Grounded storage roots) (name : QualifiedName) :
    (Moment.ofCall registry name).Grounded storage roots where
  sound := Moment.sound_ofCall h.consistent name
  linked := Moment.linked_ofCall registry name
  grounded := by
    rw [Moment.registry_ofCall]
    exact hgrounded

/-- Calls on one storage leave a registry in which everything is supported. -/
theorem Reachable.grounded (h : registry.Reachable {storage} roots) :
    registry.Grounded storage roots := by
  induction h with
  | refl => exact .empty
  | tail hreaches hcall ih =>
      obtain ⟨_, rfl, name, result, hcall⟩ := hcall
      obtain ⟨outcome, _, hleads⟩ := hcall.leads
      exact (hleads.grounded (Reachable.grounded_ofCall hreaches ih name)).grounded

end Registry

/-- A moment of a call on a storage, after any calls on the same storage. -/
def Moment.Occurs (storage : Storage Doc) (roots : PackageRoots) (moment : Moment Doc) : Prop :=
  ∃ registry name, registry.Reachable {storage} roots ∧
    Leads storage roots (.ofCall registry name) moment

theorem Moment.Occurs.grounded {moment : Moment Doc} (h : moment.Occurs storage roots) :
    moment.Grounded storage roots := by
  obtain ⟨registry, name, hreachable, hleads⟩ := h
  exact hleads.grounded (hreachable.grounded_ofCall hreachable.grounded name)

/-- The registries between calls are those of first moments. -/
theorem Registry.Reachable.occurs_ofCall {registry : Registry Doc}
    (h : registry.Reachable {storage} roots) (name : QualifiedName) :
    (Moment.ofCall registry name).Occurs storage roots :=
  ⟨registry, name, h, ReflTransGen.refl⟩

end HalPackages
