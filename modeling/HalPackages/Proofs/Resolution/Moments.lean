import HalPackages.Resolve
import Mathlib.Logic.Relation

/-!
# The moments of a call

Requests are nested: a file that is being loaded waits while the files that it
requests are loaded.  This module takes a call apart into steps.  Between two
steps there is a task, a stack of files that wait for its answer, and the
registry.  Every answer of `requestWithin` is reached by such steps, and the
depth of the nesting bounds the number of files that are being loaded at once.
-/

namespace HalPackages

open Relation

variable {Doc Declared : Type} [Document Doc Declared]

/-- What loading a file comes to, unless the configuration is at fault. -/
abbrev Loaded (Doc : Type) := Except ResolveFailure (Path × Doc)

/-- A file that waits for the answer to one of its requests. -/
structure Waiting (Doc : Type) where
  key : QualifiedName
  next : Outcome → Plan (Loaded Doc)

/-- What is done next. -/
inductive Task (Doc : Type) where
  | request (key : QualifiedName)
  | load (key : QualifiedName) (plan : Plan (Loaded Doc))
  | answer (result : Except ConfigError Outcome)

/-- The next task, the files that wait for it with the innermost first, and the registry. -/
structure Moment (Doc : Type) where
  task : Task Doc
  waiting : List (Waiting Doc)
  registry : Registry Doc

namespace Moment

/-- The files that are being loaded, the innermost first. -/
def loading (moment : Moment Doc) : List QualifiedName :=
  match moment.task with
  | .load key _ => key :: moment.waiting.map Waiting.key
  | _ => moment.waiting.map Waiting.key

/-- The moment at which the loading of a file has come to a result. -/
def settled (key : QualifiedName) (result : Except ConfigError (Loaded Doc))
    (waiting : List (Waiting Doc)) (registry : Registry Doc) : Moment Doc :=
  ⟨.answer (registry.settle key result).1, waiting, (registry.settle key result).2⟩

/-- The first moment of a call. -/
def ofCall (registry : Registry Doc) (name : QualifiedName) : Moment Doc :=
  if name.IsFullyQualified then ⟨.request name.fileIdentity, [], registry⟩
  else ⟨.answer (.error (.notFullyQualified name)), [], registry⟩

theorem registry_ofCall (registry : Registry Doc) (name : QualifiedName) :
    (ofCall registry name).registry = registry := by
  rw [ofCall]
  split <;> rfl

theorem ofCall_of_isFullyQualified (registry : Registry Doc) {name : QualifiedName}
    (h : name.IsFullyQualified) :
    ofCall registry name = ⟨.request name.fileIdentity, [], registry⟩ :=
  if_pos h

theorem ofCall_of_not_isFullyQualified (registry : Registry Doc) {name : QualifiedName}
    (h : ¬ name.IsFullyQualified) :
    ofCall registry name = ⟨.answer (.error (.notFullyQualified name)), [], registry⟩ :=
  if_neg h

end Moment

section Steps

variable (storage : Storage Doc) (roots : PackageRoots)

/-- One step of a call. -/
inductive Step : Moment Doc → Moment Doc → Prop where
  /-- The file was requested before. -/
  | recorded {key : QualifiedName} {slot : Slot} {waiting : List (Waiting Doc)}
      {registry : Registry Doc} (hslot : registry.slot? key = some slot) :
      Step ⟨.request key, waiting, registry⟩ ⟨.answer slot.answer, waiting, registry⟩
  | start {key : QualifiedName} {waiting : List (Waiting Doc)} {registry : Registry Doc}
      (hslot : registry.slot? key = none) :
      Step ⟨.request key, waiting, registry⟩
        ⟨.load key (storage.load roots key), waiting, registry.start key⟩
  | parse {key : QualifiedName} {path : Path} {next : Plan (Loaded Doc)}
      {waiting : List (Waiting Doc)} {registry : Registry Doc} :
      Step ⟨.load key (.parsing path next), waiting, registry⟩
        ⟨.load key next, waiting, registry.notePath path⟩
  | ask {key other : QualifiedName} {next : Outcome → Plan (Loaded Doc)}
      {waiting : List (Waiting Doc)} {registry : Registry Doc} :
      Step ⟨.load key (.ask other next), waiting, registry⟩
        ⟨.request other, ⟨key, next⟩ :: waiting, registry⟩
  | resume {key : QualifiedName} {next : Outcome → Plan (Loaded Doc)} {outcome : Outcome}
      {waiting : List (Waiting Doc)} {registry : Registry Doc} :
      Step ⟨.answer (.ok outcome), ⟨key, next⟩ :: waiting, registry⟩
        ⟨.load key (next outcome), waiting, registry⟩
  | finish {key : QualifiedName} {loaded : Loaded Doc} {waiting : List (Waiting Doc)}
      {registry : Registry Doc} :
      Step ⟨.load key (.done loaded), waiting, registry⟩
        (.settled key (.ok loaded) waiting registry)
  | abort {key : QualifiedName} {cause : ConfigError} {waiting : List (Waiting Doc)}
      {registry : Registry Doc} :
      Step ⟨.load key (.abort cause), waiting, registry⟩
        (.settled key (.error cause) waiting registry)
  /-- A problem of the configuration ends the loading of the file that waits, too. -/
  | propagate {key : QualifiedName} {next : Outcome → Plan (Loaded Doc)} {cause : ConfigError}
      {waiting : List (Waiting Doc)} {registry : Registry Doc} :
      Step ⟨.answer (.error cause), ⟨key, next⟩ :: waiting, registry⟩
        (.settled key (.error cause) waiting registry)

/-- Any number of steps. -/
def Leads : Moment Doc → Moment Doc → Prop :=
  ReflTransGen (Step storage roots)

/-- A run between two moments, at no moment of which more than `height` files are being loaded. -/
inductive RunWithin (height : Nat) : Moment Doc → Moment Doc → Prop where
  | refl {moment : Moment Doc} (hheight : moment.loading.length ≤ height) :
      RunWithin height moment moment
  | step {first second last : Moment Doc} (hheight : first.loading.length ≤ height)
      (hstep : Step storage roots first second) (hrest : RunWithin height second last) :
      RunWithin height first last

end Steps

variable {storage : Storage Doc} {roots : PackageRoots}

theorem Step.deterministic {moment left right : Moment Doc}
    (hleft : Step storage roots moment left) (hright : Step storage roots moment right) :
    left = right := by
  cases hleft with
  | recorded hslot =>
      cases hright with
      | recorded hslot' =>
          rw [hslot, Option.some.injEq] at hslot'
          rw [hslot']
      | start hslot' =>
          rw [hslot] at hslot'
          contradiction
  | start hslot =>
      cases hright with
      | recorded hslot' =>
          rw [hslot] at hslot'
          contradiction
      | start => rfl
  | parse | ask | resume | finish | abort | propagate =>
      cases hright
      rfl

/-- Nothing follows an answer for which no file waits. -/
theorem not_step_answer (result : Except ConfigError Outcome) (registry : Registry Doc)
    (next : Moment Doc) : ¬ Step storage roots ⟨.answer result, [], registry⟩ next := by
  intro hstep
  cases hstep

namespace RunWithin

variable {height : Nat} {first second last moment : Moment Doc}

theorem length_loading_le (hrun : RunWithin storage roots height first last) :
    first.loading.length ≤ height := by
  cases hrun <;> assumption

theorem trans (hrun : RunWithin storage roots height first second)
    (hrest : RunWithin storage roots height second last) :
    RunWithin storage roots height first last := by
  induction hrun with
  | refl => exact hrest
  | step hheight hstep _ ih => exact step hheight hstep (ih hrest)

theorem leads (hrun : RunWithin storage roots height first last) :
    Leads storage roots first last := by
  induction hrun with
  | refl => exact ReflTransGen.refl
  | step _ hstep _ ih => exact ReflTransGen.head hstep ih

/-- A run that cannot go on passes through everything that its first moment leads to. -/
theorem of_leads (hrun : RunWithin storage roots height first last)
    (hlast : ∀ next, ¬ Step storage roots last next)
    (hleads : Leads storage roots first moment) :
    RunWithin storage roots height moment last := by
  induction hrun with
  | refl hheight =>
      rcases ReflTransGen.cases_head hleads with heq | ⟨next, hstep, _⟩
      · rw [← heq]
        exact refl hheight
      · exact absurd hstep (hlast next)
  | step hheight hstep hrest ih =>
      rcases ReflTransGen.cases_head hleads with heq | ⟨next, hstep', hleads'⟩
      · rw [← heq]
        exact step hheight hstep hrest
      · rw [← hstep.deterministic hstep'] at hleads'
        exact ih hlast hleads'

/-- No endless chain of steps starts where a run that cannot go on does. -/
theorem acc (hrun : RunWithin storage roots height first last)
    (hlast : ∀ next, ¬ Step storage roots last next) :
    Acc (fun later earlier => Step storage roots earlier later) first := by
  induction hrun with
  | refl => exact Acc.intro _ fun next hstep => absurd hstep (hlast next)
  | step _ hstep _ ih =>
      apply Acc.intro
      intro next hstep'
      rw [← hstep.deterministic hstep']
      exact ih hlast

end RunWithin

/-! ## Requests as runs -/

theorem runWithin_load {depth height : Nat} {request : Requester Doc}
    (hrequest : ∀ {key : QualifiedName} {registry later : Registry Doc}
      {result : Except ConfigError Outcome} {waiting : List (Waiting Doc)},
      request key registry = some (result, later) → waiting.length + depth ≤ height →
        RunWithin storage roots height ⟨.request key, waiting, registry⟩
          ⟨.answer result, waiting, later⟩)
    {plan : Plan (Loaded Doc)} {key : QualifiedName} {registry later : Registry Doc}
    {result : Except ConfigError (Loaded Doc)} {waiting : List (Waiting Doc)}
    (hrun : plan.run request registry = some (result, later))
    (hheight : waiting.length + 1 + depth ≤ height) :
    RunWithin storage roots height ⟨.load key plan, waiting, registry⟩
      (.settled key result waiting later) := by
  -- The file is one of those that are being loaded, and also one of those that wait.
  have hload : (key :: waiting.map Waiting.key).length ≤ height := by
    rw [List.length_cons, List.length_map]
    omega
  have hsettled (result : Except ConfigError (Loaded Doc)) (registry : Registry Doc) :
      RunWithin storage roots height (.settled key result waiting registry)
        (.settled key result waiting registry) := by
    apply RunWithin.refl
    exact Nat.le_of_succ_le hload
  induction plan generalizing registry with
  | done loaded =>
      simp only [Plan.run, Option.some.injEq, Prod.mk.injEq] at hrun
      obtain ⟨rfl, rfl⟩ := hrun
      exact .step hload .finish (hsettled _ _)
  | abort cause =>
      simp only [Plan.run, Option.some.injEq, Prod.mk.injEq] at hrun
      obtain ⟨rfl, rfl⟩ := hrun
      exact .step hload .abort (hsettled _ _)
  | parsing path next ih =>
      rw [Plan.run] at hrun
      exact .step hload .parse (ih hrun)
  | ask other next ih =>
      rw [Plan.run] at hrun
      have hwaiting : (⟨key, next⟩ :: waiting : List (Waiting Doc)).length + depth ≤ height := by
        rw [List.length_cons]
        exact hheight
      split at hrun
      · contradiction
      · rename_i cause middle hanswer
        simp only [Option.some.injEq, Prod.mk.injEq] at hrun
        obtain ⟨rfl, rfl⟩ := hrun
        refine .step hload .ask ?_
        refine (hrequest hanswer hwaiting).trans ?_
        exact .step hload .propagate (hsettled _ _)
      · rename_i outcome middle hanswer
        refine .step hload .ask ?_
        refine (hrequest hanswer hwaiting).trans ?_
        exact .step hload .resume (ih outcome hrun)

/-- An answer that needs requests nested at most `depth` deep is reached by a run that adds at most
`depth` files to those that wait already. -/
theorem runWithin_request {depth height : Nat} {key : QualifiedName}
    {registry later : Registry Doc} {result : Except ConfigError Outcome}
    {waiting : List (Waiting Doc)}
    (hanswer : storage.requestWithin roots depth key registry = some (result, later))
    (hheight : waiting.length + depth ≤ height) :
    RunWithin storage roots height ⟨.request key, waiting, registry⟩
      ⟨.answer result, waiting, later⟩ := by
  induction depth using Nat.strongRecOn generalizing key registry later result waiting with
  | _ depth ih =>
      have hwaiting : (waiting.map Waiting.key).length ≤ height := by
        rw [List.length_map]
        omega
      cases hslot : registry.slot? key with
      | some slot =>
          rw [Storage.requestWithin_of_slot hslot, Option.some.injEq, Prod.mk.injEq] at hanswer
          obtain ⟨rfl, rfl⟩ := hanswer
          exact .step hwaiting (.recorded hslot) (.refl hwaiting)
      | none =>
          obtain ⟨below, loaded, middle, rfl, hrun, hsettle⟩ :=
            Storage.exists_run_of_requestWithin hslot hanswer
          have hanswered : (⟨.answer result, waiting, later⟩ : Moment Doc) =
              .settled key loaded waiting middle := by
            rw [Moment.settled, hsettle]
          have hload : waiting.length + 1 + below ≤ height := by omega
          rw [hanswered]
          apply RunWithin.step hwaiting (.start hslot)
          apply runWithin_load _ hrun hload
          intro key registry later result waiting hanswer hheight
          exact ih below (Nat.lt_succ_self below) hanswer hheight

end HalPackages
