import HalPackages.Resolve

/-!
# What loading a file can come to

A plan branches on answers that are not known beforehand.  Whatever they are, the
plan for a file ends with the document that its storage has at the path of the
file and that declares to be the file, or with a failure that is not the
configuration's, or it is given up because the configuration is at fault.
-/

namespace HalPackages

variable {Doc Declared : Type} [Document Doc Declared]

namespace Plan

variable {α β : Type}

/-- Every value that a plan can come to has a property. -/
def Yields (property : α → Prop) : Plan α → Prop
  | done value => property value
  | abort _ => True
  | parsing _ next => next.Yields property
  | ask _ next => ∀ outcome, (next outcome).Yields property

theorem yields_bind {property : β → Prop} {plan : Plan α} {next : α → Plan β}
    (h : ∀ value, (next value).Yields property) : (plan >>= next).Yields property := by
  change (plan.bind next).Yields property
  induction plan with
  | done value => exact h value
  | abort cause => trivial
  | parsing path rest ih => exact ih
  | ask key rest ih => exact ih

/-- A run comes to a value that the plan can come to. -/
theorem Yields.of_run {property : α → Prop} {request : Requester Doc} {plan : Plan α}
    {registry later : Registry Doc} {value : α} (h : plan.Yields property)
    (hrun : plan.run request registry = some (.ok value, later)) : property value := by
  induction plan generalizing registry with
  | done value' =>
      rw [run, Option.some.injEq, Prod.mk.injEq, Except.ok.injEq] at hrun
      rw [← hrun.1]
      exact h
  | abort cause => simp [run] at hrun
  | parsing path next ih =>
      rw [run] at hrun
      exact ih h hrun
  | ask key next ih =>
      rw [run] at hrun
      split at hrun
      · contradiction
      · simp at hrun
      · exact ih _ (h _) hrun

end Plan

/-- The failure is not a problem of the configuration. -/
def ResolveFailure.IsOfFile (failure : ResolveFailure) : Prop :=
  ∀ cause, failure ≠ .config cause

theorem isOfFile_ofParseError (cause : ParseError) :
    (ResolveFailure.ofParseError cause).IsOfFile := by
  intro cause'
  cases cause <;> simp [ResolveFailure.ofParseError]

theorem isOfFile_of_mismatch? {key : QualifiedName} {path : Path} {document : Doc}
    {failure : ResolveFailure} (h : mismatch? key path document = some failure) :
    failure.IsOfFile := by
  intro cause heq
  subst heq
  simp only [mismatch?] at h
  split at h
  · simp at h
  · split at h <;> split at h <;> simp at h

namespace Storage

variable (storage : Storage Doc) (roots : PackageRoots)

theorem isOfFile_importFailure (path : Path) (name : QualifiedName) (reason : Unresolved) :
    (importFailure path name reason).IsOfFile := by
  intro cause
  cases reason <;> simp [importFailure]

/-- The document at a path is the file of a name. -/
def IsFile (key : QualifiedName) (path : Path) (document : Doc) : Prop :=
  roots.filePath key = .ok path ∧ storage.parse path = .ok document ∧
    Document.Declares document key

/-- What loading the file of a name can come to. -/
def CanLoad (key : QualifiedName) : Except ResolveFailure (Path × Doc) → Prop
  | .error failure => failure.IsOfFile
  | .ok (path, document) => storage.IsFile roots key path document

theorem yields_loadFile (key : QualifiedName) :
    (storage.loadFile roots key).Yields (storage.CanLoad roots key) := by
  rw [loadFile]
  split
  · trivial
  · rename_i path hpath
    rw [Plan.Yields]
    split
    · rename_i cause hparse
      exact isOfFile_ofParseError cause
    · rename_i document hparse
      split
      · rename_i failure hmismatch
        exact isOfFile_of_mismatch? hmismatch
      · rename_i hmismatch
        apply Plan.yields_bind
        intro unsatisfied
        cases unsatisfied with
        | none => exact ⟨hpath, hparse, mismatch?_eq_none_iff.1 hmismatch⟩
        | some unsatisfied => exact isOfFile_importFailure path unsatisfied.1 unsatisfied.2

theorem yields_load (key : QualifiedName) :
    (storage.load roots key).Yields (storage.CanLoad roots key) := by
  rw [load]
  split
  · exact storage.yields_loadFile roots key
  · intro outcome
    exact storage.yields_loadFile roots key

end Storage

end HalPackages
