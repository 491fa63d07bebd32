import HalPackages.Proofs.Resolution.Dependencies

/-!
# What answers lead to

A plan branches on answers that come from elsewhere.  Here it is related to the
results that it can come to if every request gets one of its possible answers.
What a file has come to is then known from the answers to its requests: if it has
a document, all of its imports are satisfied, and if it blames an import, that is
the first one that is not.
-/

namespace HalPackages

variable {Doc Declared : Type} [Document Doc Declared]

/-- Which answers a request for a file can get. -/
abbrev Answers := QualifiedName → Except ConfigError Outcome → Prop

/-- A request for a file can give a document. -/
def Answers.Gives (answers : Answers) (key : QualifiedName) : Prop :=
  ∃ id, answers key (.ok (.ok id))

namespace Plan

variable {α β : Type}

/-- The results that a plan comes to if its requests get possible answers. -/
def Ends (answers : Answers) : Plan α → Except ConfigError α → Prop
  | done value, result => result = .ok value
  | abort cause, result => result = .error cause
  | parsing _ next, result => next.Ends answers result
  | ask key next, result =>
    (∃ outcome, answers key (.ok outcome) ∧ (next outcome).Ends answers result) ∨
      ∃ cause, answers key (.error cause) ∧ result = .error cause

variable {answers : Answers}

theorem ends_bind_iff {plan : Plan α} {next : α → Plan β} {result : Except ConfigError β} :
    (plan >>= next).Ends answers result ↔
      (∃ value, plan.Ends answers (.ok value) ∧ (next value).Ends answers result) ∨
        ∃ cause, plan.Ends answers (.error cause) ∧ result = .error cause := by
  change (plan.bind next).Ends answers result ↔ _
  induction plan with
  | done value => simp [bind, Ends]
  | abort cause => simp [bind, Ends]
  | parsing path rest ih => exact ih
  | ask key rest ih =>
      simp only [bind, Ends, ih]
      constructor
      · rintro (⟨outcome, hanswer, ⟨value, hvalue, hnext⟩ | ⟨cause, hcause, rfl⟩⟩ |
          ⟨cause, hanswer, rfl⟩)
        · exact Or.inl ⟨value, Or.inl ⟨outcome, hanswer, hvalue⟩, hnext⟩
        · exact Or.inr ⟨cause, Or.inl ⟨outcome, hanswer, hcause⟩, rfl⟩
        · exact Or.inr ⟨cause, Or.inr ⟨cause, hanswer, rfl⟩, rfl⟩
      · rintro (⟨value, ⟨outcome, hanswer, hvalue⟩ | ⟨cause, _, hvalue⟩, hnext⟩ |
          ⟨cause, ⟨outcome, hanswer, hcause⟩ | ⟨cause', hanswer, hcause⟩, rfl⟩)
        · exact Or.inl ⟨outcome, hanswer, Or.inl ⟨value, hvalue, hnext⟩⟩
        · contradiction
        · exact Or.inl ⟨outcome, hanswer, Or.inr ⟨cause, hcause, rfl⟩⟩
        · rw [← Except.error.inj hcause] at hanswer
          exact Or.inr ⟨cause, hanswer, rfl⟩

/-- A plan followed by another has a value only if the first one has. -/
theorem exists_of_ends_bind {plan : Plan α} {next : α → Plan β} {value : β}
    (h : (plan >>= next).Ends answers (.ok value)) :
    ∃ first, plan.Ends answers (.ok first) ∧ (next first).Ends answers (.ok value) := by
  rcases ends_bind_iff.1 h with hvalue | ⟨cause, _, heq⟩
  · exact hvalue
  · contradiction

/-- A plan ends with a value that it can come to. -/
theorem Yields.of_ends {property : α → Prop} {plan : Plan α} {value : α}
    (h : plan.Yields property) (hends : plan.Ends answers (.ok value)) : property value := by
  induction plan with
  | done value' =>
      rw [Except.ok.inj hends]
      exact h
  | abort cause => contradiction
  | parsing path next ih => exact ih h hends
  | ask key next ih =>
      rcases hends with ⟨outcome, _, hrest⟩ | ⟨cause, _, heq⟩
      · exact ih outcome (h outcome) hrest
      · contradiction

/-- What is left of a plan after some of its requests got possible answers. -/
inductive ComesTo (answers : Answers) (plan : Plan α) : Plan α → Prop where
  | refl : ComesTo answers plan plan
  | parsing {path : Path} {next : Plan α} (h : ComesTo answers plan (.parsing path next)) :
      ComesTo answers plan next
  | ask {key : QualifiedName} {next : Outcome → Plan α} {outcome : Outcome}
      (h : ComesTo answers plan (.ask key next)) (hanswer : answers key (.ok outcome)) :
      ComesTo answers plan (next outcome)

namespace ComesTo

variable {plan rest : Plan α}

theorem mono {wider : Answers} (hwider : ∀ key answer, answers key answer → wider key answer)
    (h : plan.ComesTo answers rest) : plan.ComesTo wider rest := by
  induction h with
  | refl => exact refl
  | parsing _ ih => exact ih.parsing
  | ask _ hanswer ih => exact ih.ask (hwider _ _ hanswer)

theorem ends {result : Except ConfigError α} (h : plan.ComesTo answers rest)
    (hrest : rest.Ends answers result) : plan.Ends answers result := by
  induction h with
  | refl => exact hrest
  | parsing _ ih => exact ih hrest
  | ask _ hanswer ih => exact ih (Or.inl ⟨_, hanswer, hrest⟩)

theorem confined {allowed : QualifiedName → Prop} (h : plan.ComesTo answers rest)
    (hplan : plan.Confined allowed) : rest.Confined allowed := by
  induction h with
  | refl => exact hplan
  | parsing _ ih => exact ih
  | ask _ _ ih => exact ih.2.2 _

end ComesTo

end Plan

namespace Storage

variable {storage : Storage Doc} {roots : PackageRoots} {answers : Answers}

/-! ## Imports -/

theorem gives_of_ends_requestAll {keys : List QualifiedName}
    (h : (requestAll keys).Ends answers (.ok none)) : ∀ key ∈ keys, answers.Gives key := by
  induction keys with
  | nil => simp
  | cons key keys ih =>
      rw [List.forall_mem_cons]
      rcases h with ⟨id | id, hanswer, hrest⟩ | ⟨cause, _, heq⟩
      · simp [Plan.Ends] at hrest
      · exact ⟨⟨id, hanswer⟩, ih hrest⟩
      · contradiction

theorem exists_answer_of_ends_requestAll {keys : List QualifiedName} {reason : Unresolved}
    (h : (requestAll keys).Ends answers (.ok (some reason))) :
    ∃ key ∈ keys, answers key (.ok (.error reason)) := by
  induction keys with
  | nil => simp [requestAll, Plan.Ends] at h
  | cons key keys ih =>
      rcases h with ⟨reason' | id, hanswer, hrest⟩ | ⟨cause, _, heq⟩
      · simp only [Plan.Ends, Except.ok.injEq, Option.some.injEq] at hrest
        subst hrest
        exact ⟨key, List.mem_cons_self, hanswer⟩
      · obtain ⟨key', hkey', hanswer'⟩ := ih hrest
        exact ⟨key', List.mem_cons_of_mem _ hkey', hanswer'⟩
      · contradiction

/-- Importing a package has come to a value: it has no files, or all of its files were requested. -/
theorem exists_files_of_ends_importPackage {package : QualifiedName} {value : Option Unresolved}
    (h : (storage.importPackage roots package).Ends answers (.ok value)) :
    ∃ files, storage.packageFiles roots package = .ok files ∧
      (files = [] ∧ value = some .failed ∨
        files ≠ [] ∧ (requestAll files).Ends answers (.ok value)) := by
  rw [importPackage] at h
  obtain ⟨files, hfiles, hrest⟩ := Plan.exists_of_ends_bind h
  refine ⟨files, ?_, ?_⟩
  · cases hpackage : storage.packageFiles roots package with
    | error cause => simp [hpackage, Plan.ofConfig, Plan.Ends] at hfiles
    | ok files' =>
        rw [hpackage, Plan.ofConfig, Plan.Ends] at hfiles
        exact hfiles.symm
  · cases files with
    | nil => exact Or.inl ⟨rfl, Except.ok.inj hrest⟩
    | cons key keys => exact Or.inr ⟨List.cons_ne_nil key keys, hrest⟩

theorem gives_of_ends_importName {name : QualifiedName}
    (h : (importName name).Ends answers (.ok none)) :
    answers.Gives name.fileIdentity ∨ answers.Gives name.typesOfPackage := by
  rcases h with ⟨first | id, hfile, hrest⟩ | ⟨cause, _, heq⟩
  · rcases hrest with ⟨second | id, htypes, hrest⟩ | ⟨cause, _, heq⟩
    · have hvalue := Except.ok.inj hrest
      contradiction
    · exact Or.inr ⟨id, htypes⟩
    · contradiction
  · exact Or.inl ⟨id, hfile⟩
  · contradiction

theorem exists_pending_of_ends_importName {name : QualifiedName}
    (h : (importName name).Ends answers (.ok (some .pending))) :
    answers name.fileIdentity (.ok (.error .pending)) ∨
      answers name.typesOfPackage (.ok (.error .pending)) := by
  rcases h with ⟨first | id, hfile, hrest⟩ | ⟨cause, _, heq⟩
  · rcases hrest with ⟨second | id, htypes, hrest⟩ | ⟨cause, _, heq⟩
    · have hvalue := Option.some.inj (Except.ok.inj hrest)
      split at hvalue
      · rename_i hpending
        rcases hpending with rfl | rfl
        · exact Or.inl hfile
        · exact Or.inr htypes
      · contradiction
    · have hvalue := Except.ok.inj hrest
      contradiction
    · contradiction
  · have hvalue := Except.ok.inj hrest
    contradiction
  · contradiction

theorem failed_of_ends_importName {name : QualifiedName}
    (h : (importName name).Ends answers (.ok (some .failed))) :
    answers name.fileIdentity (.ok (.error .failed)) ∧
      answers name.typesOfPackage (.ok (.error .failed)) := by
  rcases h with ⟨first | id, hfile, hrest⟩ | ⟨cause, _, heq⟩
  · rcases hrest with ⟨second | id, htypes, hrest⟩ | ⟨cause, _, heq⟩
    · have hvalue := Option.some.inj (Except.ok.inj hrest)
      split at hvalue
      · contradiction
      · rename_i hpending
        rw [not_or] at hpending
        cases first with
        | pending => exact absurd rfl hpending.1
        | failed =>
            cases second with
            | pending => exact absurd rfl hpending.2
            | failed => exact ⟨hfile, htypes⟩
    · have hvalue := Except.ok.inj hrest
      contradiction
    · contradiction
  · have hvalue := Except.ok.inj hrest
    contradiction
  · contradiction

/-- An import that is found to be satisfied is satisfied by files that were given. -/
theorem satisfied_of_ends_importOne {imported : QualifiedName}
    (hpackage : imported.IsPackage ↔ imported.localName = "")
    (h : (storage.importOne roots imported).Ends answers (.ok none)) :
    storage.Satisfied roots answers.Gives imported := by
  rw [importOne] at h
  split at h
  · rename_i hname
    refine ⟨fun hne => absurd (hpackage.1 hname) hne, fun _ => ?_⟩
    obtain ⟨files, hfiles, ⟨_, heq⟩ | ⟨hne, hall⟩⟩ := exists_files_of_ends_importPackage h
    · contradiction
    · exact ⟨files, hfiles, hne, gives_of_ends_requestAll hall⟩
  · rename_i hname
    rw [hpackage] at hname
    exact ⟨fun _ => gives_of_ends_importName h, fun heq => absurd heq hname⟩

/-- An import is found to be pending because a file that was tried for it is. -/
theorem exists_pending_of_ends_importOne {imported : QualifiedName}
    (hpackage : imported.IsPackage ↔ imported.localName = "")
    (h : (storage.importOne roots imported).Ends answers (.ok (some .pending))) :
    ∃ other, storage.Tries roots imported other ∧ answers other (.ok (.error .pending)) := by
  rw [importOne] at h
  split at h
  · rename_i hname
    rw [hpackage] at hname
    obtain ⟨files, hfiles, ⟨_, heq⟩ | ⟨_, hall⟩⟩ := exists_files_of_ends_importPackage h
    · contradiction
    · obtain ⟨key, hkey, hanswer⟩ := exists_answer_of_ends_requestAll hall
      exact ⟨key, .member hname hfiles hkey, hanswer⟩
  · rename_i hname
    rw [hpackage] at hname
    rcases exists_pending_of_ends_importName h with hanswer | hanswer
    · exact ⟨_, .file hname, hanswer⟩
    · exact ⟨_, .types hname, hanswer⟩

theorem ends_importOne_of_ends_importAll {names : List QualifiedName}
    (h : (storage.importAll roots names).Ends answers (.ok none)) :
    ∀ name ∈ names, (storage.importOne roots name).Ends answers (.ok none) := by
  induction names with
  | nil => simp
  | cons name names ih =>
      rw [List.forall_mem_cons]
      obtain ⟨unsatisfied, hname, hrest⟩ := Plan.exists_of_ends_bind h
      cases unsatisfied with
      | none => exact ⟨hname, ih hrest⟩
      | some reason =>
          have hvalue := Except.ok.inj hrest
          contradiction

/-- The import that is blamed is the first one that is not satisfied. -/
theorem exists_first_of_ends_importAll {names : List QualifiedName} {imported : QualifiedName}
    {reason : Unresolved}
    (h : (storage.importAll roots names).Ends answers (.ok (some (imported, reason)))) :
    ∃ before after, names = before ++ imported :: after ∧
      (∀ name ∈ before, (storage.importOne roots name).Ends answers (.ok none)) ∧
        (storage.importOne roots imported).Ends answers (.ok (some reason)) := by
  induction names with
  | nil =>
      have hvalue := Except.ok.inj h
      contradiction
  | cons name names ih =>
      obtain ⟨unsatisfied, hname, hrest⟩ := Plan.exists_of_ends_bind h
      cases unsatisfied with
      | none =>
          obtain ⟨before, after, rfl, hbefore, himported⟩ := ih hrest
          refine ⟨name :: before, after, rfl, ?_, himported⟩
          rw [List.forall_mem_cons]
          exact ⟨hname, hbefore⟩
      | some reason' =>
          have hvalue := Option.some.inj (Except.ok.inj hrest)
          rw [Prod.mk.injEq] at hvalue
          obtain ⟨rfl, rfl⟩ := hvalue
          exact ⟨[], names, rfl, by simp, hname⟩

/-! ## Files -/

section Files

variable (storage : Storage Doc) (roots : PackageRoots) (answers : Answers) (key : QualifiedName)

/-- What the file of a name comes to if its requests get possible answers.  The first fault decides:
that of its path, of its document, of what the document declares, or of an import. -/
inductive LoadsTo : Except ConfigError (Loaded Doc) → Prop where
  | noPath {cause : ConfigError} (hpath : roots.filePath key = .error cause) :
      LoadsTo (.error cause)
  | unreadable {path : Path} {cause : ParseError} (hpath : roots.filePath key = .ok path)
      (hparse : storage.parse path = .error cause) :
      LoadsTo (.ok (.error (.ofParseError cause)))
  | mismatched {path : Path} {document : Doc} {failure : ResolveFailure}
      (hpath : roots.filePath key = .ok path) (hparse : storage.parse path = .ok document)
      (hmismatch : mismatch? key path document = some failure) : LoadsTo (.ok (.error failure))
  | misconfigured {path : Path} {document : Doc} {cause : ConfigError}
      (hfile : storage.IsFile roots key path document)
      (himports : (storage.importAll roots (Document.importsFor document key)).Ends answers
        (.error cause)) : LoadsTo (.error cause)
  | unsatisfied {path : Path} {document : Doc} {imported : QualifiedName} {reason : Unresolved}
      (hfile : storage.IsFile roots key path document)
      (himports : (storage.importAll roots (Document.importsFor document key)).Ends answers
        (.ok (some (imported, reason)))) :
      LoadsTo (.ok (.error (importFailure path imported reason)))
  | complete {path : Path} {document : Doc} (hfile : storage.IsFile roots key path document)
      (himports : (storage.importAll roots (Document.importsFor document key)).Ends answers
        (.ok none)) : LoadsTo (.ok (.ok (path, document)))

end Files

theorem loadsTo_of_ends_loadFile {key : QualifiedName} {result : Except ConfigError (Loaded Doc)}
    (h : (storage.loadFile roots key).Ends answers result) :
    storage.LoadsTo roots answers key result := by
  rw [loadFile] at h
  split at h
  · rename_i cause hpath
    rw [show result = .error cause from h]
    exact .noPath hpath
  · rename_i path hpath
    rw [Plan.Ends] at h
    split at h
    · rename_i cause hparse
      rw [show result = .ok (.error (.ofParseError cause)) from h]
      exact .unreadable hpath hparse
    · rename_i document hparse
      split at h
      · rename_i failure hmismatch
        rw [show result = .ok (.error failure) from h]
        exact .mismatched hpath hparse hmismatch
      · rename_i hmismatch
        have hfile : storage.IsFile roots key path document :=
          ⟨hpath, hparse, mismatch?_eq_none_iff.1 hmismatch⟩
        rcases Plan.ends_bind_iff.1 h with ⟨unsatisfied, himports, hrest⟩ | ⟨_, himports, rfl⟩
        · cases unsatisfied with
          | none =>
              rw [show result = .ok (.ok (path, document)) from hrest]
              exact .complete hfile himports
          | some unsatisfied =>
              obtain ⟨imported, reason⟩ := unsatisfied
              rw [show result = .ok (.error (importFailure path imported reason)) from hrest]
              exact .unsatisfied hfile himports
        · exact .misconfigured hfile himports

/-- Unless the types of its package are misconfigured, loading a file comes to what the file itself
comes to. -/
theorem loadsTo_of_ends_load {key : QualifiedName} {loaded : Loaded Doc}
    (h : (storage.load roots key).Ends answers (.ok loaded)) :
    storage.LoadsTo roots answers key (.ok loaded) := by
  rw [load] at h
  split at h
  · exact loadsTo_of_ends_loadFile h
  · rcases h with ⟨_, _, hrest⟩ | ⟨cause, _, heq⟩
    · exact loadsTo_of_ends_loadFile hrest
    · contradiction

theorem imported?_ofParseError (cause : ParseError) :
    (ResolveFailure.ofParseError cause).imported? = none := by
  cases cause <;> rfl

theorem imported?_of_mismatch? {key : QualifiedName} {path : Path} {document : Doc}
    {failure : ResolveFailure} (h : mismatch? key path document = some failure) :
    failure.imported? = none := by
  simp only [mismatch?] at h
  split at h
  · cases h
    rfl
  · split at h
    · split at h
      · cases h
        rfl
      · split at h <;> cases h
        rfl
    · split at h <;> cases h
      rfl

theorem imported?_importFailure (path : Path) (imported : QualifiedName) (reason : Unresolved) :
    (importFailure path imported reason).imported? = some imported := by
  cases reason <;> rfl

/-- A file has a document if its path has one that declares to be the file, and all imports are
satisfied. -/
theorem isFile_of_ends_load {key : QualifiedName} {path : Path} {document : Doc}
    (h : (storage.load roots key).Ends answers (.ok (.ok (path, document)))) :
    storage.IsFile roots key path document ∧
      (storage.importAll roots (Document.importsFor document key)).Ends answers (.ok none) := by
  cases loadsTo_of_ends_load h with
  | complete hfile himports => exact ⟨hfile, himports⟩

/-- A file blames an import if its path has a document that declares to be the file, and the import
is the first one that is not satisfied. -/
theorem exists_isFile_of_ends_load {key imported : QualifiedName} {failure : ResolveFailure}
    (himported : failure.imported? = some imported)
    (h : (storage.load roots key).Ends answers (.ok (.error failure))) :
    ∃ path document reason, failure = importFailure path imported reason ∧
      storage.IsFile roots key path document ∧
        (storage.importAll roots (Document.importsFor document key)).Ends answers
          (.ok (some (imported, reason))) := by
  cases loadsTo_of_ends_load h with
  | unreadable =>
      rw [imported?_ofParseError] at himported
      contradiction
  | mismatched _ _ hmismatch =>
      rw [imported?_of_mismatch? hmismatch] at himported
      contradiction
  | unsatisfied hfile himports =>
      rw [imported?_importFailure, Option.some.injEq] at himported
      subst himported
      exact ⟨_, _, _, rfl, hfile, himports⟩

end Storage

end HalPackages
