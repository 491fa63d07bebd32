import HalPackages.Registry

/-!
# Plans

To load a file, other files have to be requested first, and what is done next
depends on the answers.  A plan says all of this without carrying anything out:
it is a tree of requests that branches on their answers.
-/

namespace HalPackages

/-- Why a request gives no document. -/
inductive Unresolved where
  /-- The requested file is still being resolved. -/
  | pending
  | failed
deriving DecidableEq

/-- What a request of a file gives. -/
abbrev Outcome := Except Unresolved DocumentId

/-- How requests are answered: the answer and the registry after it, if there is an answer. -/
abbrev Requester (Doc : Type) :=
  QualifiedName → Registry Doc → Option (Except ConfigError Outcome × Registry Doc)

/-- The steps that lead to a value. -/
inductive Plan (α : Type) where
  | done (value : α)
  /-- Give up, because the configuration is at fault. -/
  | abort (cause : ConfigError)
  /-- Hand a path to the parser. -/
  | parsing (path : Path) (next : Plan α)
  /-- Request a file. -/
  | ask (key : QualifiedName) (next : Outcome → Plan α)

namespace Plan

variable {α β : Type}

/-- Go on with another plan. -/
def bind : Plan α → (α → Plan β) → Plan β
  | done value, f => f value
  | abort cause, _ => abort cause
  | parsing path next, f => parsing path (next.bind f)
  | ask key next, f => ask key fun outcome => (next outcome).bind f

instance : Monad Plan where
  pure := done
  bind := bind

theorem bind_done (plan : Plan α) : plan.bind done = plan := by
  induction plan with
  | done | abort => rfl
  | parsing path next ih => simp [bind, ih]
  | ask key next ih => simp [bind, ih]

theorem bind_assoc {γ : Type} (plan : Plan α) (f : α → Plan β) (g : β → Plan γ) :
    (plan.bind f).bind g = plan.bind fun value => (f value).bind g := by
  induction plan with
  | done | abort => rfl
  | parsing path next ih => simp [bind, ih]
  | ask key next ih => simp [bind, ih]

instance : LawfulMonad Plan :=
  LawfulMonad.mk' Plan bind_done (fun _ _ => rfl) bind_assoc

/-- The outcome of requesting a file. -/
def request (key : QualifiedName) : Plan Outcome :=
  ask key done

/-- A value, or the end of the plan. -/
def ofConfig : Except ConfigError α → Plan α
  | .ok value => done value
  | .error cause => abort cause

/-- A plan that requests nothing. -/
def Silent : Plan α → Prop
  | done _ | abort _ => True
  | parsing _ next => next.Silent
  | ask _ _ => False

variable {Doc : Type}

/-- Carry out a plan on a registry.  A request may itself change the registry, and the answer is
missing if one of the requests gives none. -/
def run (request : Requester Doc) :
    Plan α → Registry Doc → Option (Except ConfigError α × Registry Doc)
  | done value, registry => some (.ok value, registry)
  | abort cause, registry => some (.error cause, registry)
  | parsing path next, registry => next.run request (registry.notePath path)
  | ask key next, registry =>
    match request key registry with
    | none => none
    | some (.error cause, registry) => some (.error cause, registry)
    | some (.ok outcome, registry) => (next outcome).run request registry

end Plan

end HalPackages
