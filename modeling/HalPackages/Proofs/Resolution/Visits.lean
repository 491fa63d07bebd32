import HalPackages.Registry
import Mathlib.Logic.Basic

/-!
# Visiting documents

A visitor may change a state of its own at each document, and it may fail.  It
keeps its state when it fails, so a visitor can note what it is shown.  It is
shown all documents, or those up to the first one at which it fails.
-/

namespace HalPackages

variable {Doc ε σ : Type}

/-- What is done with each document. -/
abbrev Visitor (Doc ε σ : Type) := QualifiedName → Doc → ExceptT ε (StateM σ) Unit

/-- What an action comes to, and the state it leaves. -/
def runVisit (action : ExceptT ε (StateM σ) Unit) (state : σ) : Except ε Unit × σ :=
  (action.run.run state).run

namespace Visitor

/-- Visit documents in order. -/
def all (visit : Visitor Doc ε σ) (items : List (QualifiedName × Doc)) :
    ExceptT ε (StateM σ) Unit :=
  items.forM fun (name, document) => visit name document

/-- The same visitor, but it also keeps a list of what it is shown. -/
def noting (visit : Visitor Doc ε σ) : Visitor Doc ε (List (QualifiedName × Doc) × σ) :=
  fun name document => ExceptT.mk fun (noted, state) =>
    let (result, state) := runVisit (visit name document) state
    (result, noted ++ [(name, document)], state)

/-- What a visitor sees of some documents: all of them, or those up to the first one at which it
fails. -/
def Sees (visit : Visitor Doc ε σ) (items : List (QualifiedName × Doc)) (state : σ)
    (seen : List (QualifiedName × Doc)) (outcome : Except ε Unit × σ) : Prop :=
  outcome.1 = .ok () ∧ seen = items ∨
    ∃ before name document after middle cause,
      items = before ++ (name, document) :: after ∧ seen = before ++ [(name, document)] ∧
        runVisit (visit.all before) state = (.ok (), middle) ∧
          runVisit (visit name document) middle = (.error cause, outcome.2) ∧
            outcome.1 = .error cause

theorem runVisit_all_cons (visit : Visitor Doc ε σ) (name : QualifiedName) (document : Doc)
    (items : List (QualifiedName × Doc)) (state : σ) :
    runVisit (visit.all ((name, document) :: items)) state =
      match runVisit (visit name document) state with
      | (.ok (), state) => runVisit (visit.all items) state
      | (.error cause, state) => (.error cause, state) := by
  simp only [runVisit, all, List.forM_eq_forM, List.forM_cons, ExceptT.run_bind,
    StateT.run_bind, Id.run_bind]
  rcases ((visit name document).run.run state).run with ⟨cause | ⟨⟩, state⟩ <;> rfl

theorem runVisit_noting (visit : Visitor Doc ε σ) (name : QualifiedName) (document : Doc)
    (noted : List (QualifiedName × Doc)) (state : σ) :
    runVisit (visit.noting name document) (noted, state) =
      ((runVisit (visit name document) state).1, noted ++ [(name, document)],
        (runVisit (visit name document) state).2) :=
  rfl

/-- A visitor that notes what it is shown comes to the same, and its notes are what it sees. -/
theorem exists_runVisit_noting (visit : Visitor Doc ε σ) (items noted : List (QualifiedName × Doc))
    (state : σ) :
    ∃ seen, runVisit (visit.noting.all items) (noted, state) =
        ((runVisit (visit.all items) state).1, noted ++ seen,
          (runVisit (visit.all items) state).2) ∧
      visit.Sees items state seen (runVisit (visit.all items) state) := by
  induction items generalizing noted state with
  | nil =>
      refine ⟨[], ?_, Or.inl ⟨rfl, rfl⟩⟩
      rw [List.append_nil]
      rfl
  | cons item items ih =>
      obtain ⟨name, document⟩ := item
      rw [runVisit_all_cons, runVisit_all_cons, runVisit_noting]
      rcases hvisit : runVisit (visit name document) state with ⟨cause | ⟨⟩, middle⟩
      · refine ⟨[(name, document)], rfl, Or.inr ?_⟩
        exact ⟨[], name, document, items, state, cause, rfl, rfl, rfl, hvisit, rfl⟩
      · obtain ⟨seen, hnoting, hsees⟩ := ih (noted ++ [(name, document)]) middle
        refine ⟨(name, document) :: seen, ?_, ?_⟩
        · simp only [hnoting, List.append_assoc, List.singleton_append]
        · rcases hsees with ⟨hok, hseen⟩ | ⟨before, name', document', after, middle', cause,
            hitems, hseen, hbefore, hfails, herror⟩
          · exact Or.inl ⟨hok, by rw [hseen]⟩
          · refine Or.inr ⟨(name, document) :: before, name', document', after, middle', cause,
              by rw [hitems]; rfl, by rw [hseen]; rfl, ?_, hfails, herror⟩
            rw [runVisit_all_cons, hvisit]
            exact hbefore

/-- A visitor that never fails sees everything. -/
theorem Sees.eq_of_never_fails {visit : Visitor Doc ε σ} {items seen : List (QualifiedName × Doc)}
    {state : σ} {outcome : Except ε Unit × σ} (h : visit.Sees items state seen outcome)
    (hvisit : ∀ name document state, (runVisit (visit name document) state).1 = .ok ()) :
    outcome.1 = .ok () ∧ seen = items := by
  rcases h with h | ⟨_, name, document, _, middle, _, _, _, _, hfails, _⟩
  · exact h
  · have hok := hvisit name document middle
    rw [hfails] at hok
    contradiction

end Visitor

end HalPackages
