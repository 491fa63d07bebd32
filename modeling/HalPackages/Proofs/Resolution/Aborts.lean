import HalPackages.Proofs.Resolution.Answers
import HalPackages.Proofs.Resolution.ParserLog

/-!
# Why a file is given up

A plan is given up for an error that it comes to itself, or because a request is
answered with one.  Of the first kind there are few in the plan of a file: the file
has no path, or a package that it imports as a whole has no directory.
-/

namespace HalPackages

variable {Doc Declared : Type} [Document Doc Declared]

/-! ## Plans that are given up -/

namespace Plan

variable {α β : Type} {property : ConfigError → Prop} {answers : Answers}
variable {allowed : QualifiedName → Prop}

/-- Every error for which a plan itself is given up has a property. -/
def AbortsWith (property : ConfigError → Prop) : Plan α → Prop
  | done _ => True
  | abort cause => property cause
  | parsing _ next => next.AbortsWith property
  | ask _ next => ∀ outcome, (next outcome).AbortsWith property

/-- Every path that a plan hands to the parser has a property. -/
def ParsesOnly (property : Path → Prop) : Plan α → Prop
  | done _ | abort _ => True
  | parsing path next => property path ∧ next.ParsesOnly property
  | ask _ next => ∀ outcome, (next outcome).ParsesOnly property

theorem AbortsWith.mono {plan : Plan α} {wider : ConfigError → Prop} (h : plan.AbortsWith property)
    (hwider : ∀ cause, property cause → wider cause) : plan.AbortsWith wider := by
  induction plan with
  | done => trivial
  | abort cause => exact hwider cause h
  | parsing path next ih => exact ih h
  | ask key next ih => exact fun outcome => ih outcome (h outcome)

theorem abortsWith_bind {plan : Plan α} {next : α → Plan β} (h : plan.AbortsWith property)
    (hnext : ∀ value, (next value).AbortsWith property) : (plan >>= next).AbortsWith property := by
  change (plan.bind next).AbortsWith property
  induction plan with
  | done value => exact hnext value
  | abort cause => exact h
  | parsing path rest ih => exact ih h
  | ask key rest ih => exact fun outcome => ih outcome (h outcome)

/-- A plan ends with an error for which it is given up, or with one that a request was answered
with. -/
theorem AbortsWith.of_ends {plan : Plan α} {cause : ConfigError} (h : plan.AbortsWith property)
    (hconfined : plan.Confined allowed) (hends : plan.Ends answers (.error cause)) :
    property cause ∨ ∃ other, allowed other ∧ answers other (.error cause) := by
  induction plan with
  | done value => contradiction
  | abort cause' =>
      rw [Except.error.inj hends]
      exact Or.inl h
  | parsing path next ih => exact ih h hconfined hends
  | ask key next ih =>
      obtain ⟨hkey, _, hnext⟩ := hconfined
      rcases hends with ⟨outcome, _, hrest⟩ | ⟨cause', hanswer, heq⟩
      · exact ih outcome (h outcome) (hnext outcome) hrest
      · rw [← Except.error.inj heq] at hanswer
        exact Or.inr ⟨key, hkey, hanswer⟩

theorem ParsesNothing.parsesOnly {plan : Plan α} (h : plan.ParsesNothing)
    (property : Path → Prop) : plan.ParsesOnly property := by
  induction plan with
  | done | abort => trivial
  | parsing => exact h.elim
  | ask key next ih => exact fun outcome => ih outcome (h outcome)

theorem ComesTo.parsesOnly {plan rest : Plan α} {property : Path → Prop}
    (h : plan.ComesTo answers rest) (hplan : plan.ParsesOnly property) :
    rest.ParsesOnly property := by
  induction h with
  | refl => exact hplan
  | parsing _ ih => exact ih.2
  | ask _ _ ih => exact ih _

end Plan

/-! ## The plan of a file -/

namespace Storage

variable {storage : Storage Doc} {roots : PackageRoots} {property : ConfigError → Prop}
variable {cause : ConfigError}

section Misconfigured

variable (storage : Storage Doc) (roots : PackageRoots)

/-- The configuration is at fault for a file itself: it has no path, or its document imports a
package as a whole that has none. -/
inductive Misconfigured (key : QualifiedName) (cause : ConfigError) : Prop where
  | file (hpath : roots.filePath key = .error cause)
  | package {path : Path} {document : Doc} {imported : QualifiedName}
      (hfile : storage.IsFile roots key path document)
      (himported : imported ∈ Document.importsFor document key) (hname : imported.localName = "")
      (hpackage : roots.packagePath imported false = .error cause)

end Misconfigured

theorem abortsWith_requestAll (keys : List QualifiedName) :
    (requestAll keys).AbortsWith property := by
  induction keys with
  | nil => trivial
  | cons key keys ih =>
      intro outcome
      cases outcome with
      | error reason => trivial
      | ok id => exact ih

/-- A package has no list of files only if it has no directory. -/
theorem packagePath_eq_error_of_packageFiles {package : QualifiedName}
    (h : storage.packageFiles roots package = .error cause) :
    roots.packagePath package false = .error cause := by
  rw [packageFiles] at h
  cases hpackage : roots.packagePath package false with
  | error cause' =>
      rw [hpackage] at h
      rw [Except.error.inj h]
  | ok directory =>
      rw [hpackage] at h
      dsimp only [bind, Except.bind] at h
      split at h <;> contradiction

theorem abortsWith_importPackage {package : QualifiedName}
    (h : ∀ cause, roots.packagePath package false = .error cause → property cause) :
    (storage.importPackage roots package).AbortsWith property := by
  rw [importPackage]
  cases hfiles : storage.packageFiles roots package with
  | error cause => exact h cause (packagePath_eq_error_of_packageFiles hfiles)
  | ok files =>
      have hall : (requestAll files).AbortsWith property := abortsWith_requestAll files
      cases files with
      | nil => trivial
      | cons key keys => exact hall

theorem abortsWith_importName (name : QualifiedName) :
    (importName name).AbortsWith property := by
  intro outcome
  cases outcome with
  | ok id => trivial
  | error first =>
      intro outcome
      cases outcome <;> trivial

theorem abortsWith_importAll {names : List QualifiedName}
    (h : ∀ name ∈ names, (storage.importOne roots name).AbortsWith property) :
    (storage.importAll roots names).AbortsWith property := by
  induction names with
  | nil => trivial
  | cons name names ih =>
      rw [List.forall_mem_cons] at h
      apply Plan.abortsWith_bind h.1
      intro unsatisfied
      cases unsatisfied with
      | none => exact ih h.2
      | some reason => trivial

theorem abortsWith_loadFile (key : QualifiedName) :
    (storage.loadFile roots key).AbortsWith (storage.Misconfigured roots key) := by
  rw [loadFile]
  split
  · rename_i cause hpath
    exact .file hpath
  · rename_i path hpath
    rw [Plan.AbortsWith]
    split
    · trivial
    · rename_i document hparse
      split
      · trivial
      · rename_i hmismatch
        have hfile : storage.IsFile roots key path document :=
          ⟨hpath, hparse, mismatch?_eq_none_iff.1 hmismatch⟩
        apply Plan.abortsWith_bind
        · apply abortsWith_importAll
          intro imported himported
          rw [importOne]
          split
          · rename_i hname
            apply abortsWith_importPackage
            intro cause hpackage
            exact .package hfile himported hname.2.2 hpackage
          · exact abortsWith_importName imported
        · intro unsatisfied
          cases unsatisfied <;> trivial

/-- A file is given up only because the configuration is at fault for it. -/
theorem abortsWith_load (key : QualifiedName) :
    (storage.load roots key).AbortsWith (storage.Misconfigured roots key) := by
  rw [load]
  split
  · exact abortsWith_loadFile key
  · intro outcome
    exact abortsWith_loadFile key

/-- A file is parsed only at its path. -/
theorem parsesOnly_load (key : QualifiedName) :
    (storage.load roots key).ParsesOnly fun path => roots.filePath key = .ok path := by
  have hfile :
      (storage.loadFile roots key).ParsesOnly fun path => roots.filePath key = .ok path := by
    rcases storage.loadFile_cases roots key with
      ⟨cause, _, hplan⟩ | ⟨path, rest, hpath, hplan, hrest⟩
    · rw [hplan]
      trivial
    · rw [hplan]
      exact ⟨hpath, hrest.parsesOnly _⟩
  rw [load]
  split
  · exact hfile
  · intro outcome
    exact hfile

end Storage

end HalPackages
