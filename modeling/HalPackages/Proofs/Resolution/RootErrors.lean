import HalPackages.Proofs.Resolution.Aborts
import HalPackages.Proofs.Resolution.RequestedFiles
import HalPackages.Proofs.Resolution.Settled

/-!
# Errors that the roots are to blame for

A name without a package cannot be looked up among the roots.  A call refuses such
a name at once, and within a call there are none, since what an import leaves out is
filled in from a file that has a package.  So the errors that come out of a loading,
and those that are given again from the record, are about packages for which the
roots have no directory.
-/

namespace HalPackages

variable {Doc Declared : Type} [Document Doc Declared]

/-! ## Errors about a package -/

/-- An error that a table of roots can be at fault for: neither a name without a package nor a root
that is no root. -/
def ConfigError.BlamesRoots (cause : ConfigError) : Prop :=
  (∀ name, cause ≠ .notFullyQualified name) ∧ ∀ text, cause ≠ .malformedRoot text

/-- The name has a package and a version. -/
def QualifiedName.HasPackage (name : QualifiedName) : Prop :=
  name.package ≠ "" ∧ name.version ≠ ""

theorem PackageRoots.blamesRoots_of_packagePath {roots : PackageRoots} {name : QualifiedName}
    {relative : Bool} {cause : ConfigError} (hname : name.HasPackage)
    (h : roots.packagePath name relative = .error cause) : cause.BlamesRoots := by
  rw [packagePath, find, if_neg (not_or.2 hname)] at h
  cases hroot : roots.entries.find? (·.covers name.package) with
  | none =>
      rw [hroot] at h
      rw [← Except.error.inj h]
      exact ⟨by simp, by simp⟩
  | some root =>
      rw [hroot] at h
      dsimp only [bind, Except.bind] at h
      split at h
      · rw [← Except.error.inj h]
        exact ⟨by simp, by simp⟩
      · split at h
        · rw [← Except.error.inj h]
          exact ⟨by simp, by simp⟩
        · contradiction

theorem PackageRoots.packagePath_eq_error_of_filePath {roots : PackageRoots} {name : QualifiedName}
    {cause : ConfigError} (h : roots.filePath name = .error cause) :
    roots.packagePath name false = .error cause := by
  rw [filePath] at h
  cases hpackage : roots.packagePath name false with
  | error cause' =>
      rw [hpackage] at h
      rw [Except.error.inj h]
  | ok directory =>
      rw [hpackage] at h
      contradiction

/-- The directory of a package is missing in the same way whether or not it is to start at the
root. -/
theorem PackageRoots.packagePath_eq_error_iff {roots : PackageRoots} {name : QualifiedName}
    {relative : Bool} {cause : ConfigError} :
    roots.packagePath name relative = .error cause ↔
      roots.packagePath name false = .error cause := by
  rw [packagePath, packagePath]
  cases roots.find name with
  | error cause' => exact Iff.rfl
  | ok root =>
      dsimp only [bind, Except.bind]
      cases versionDirectory? name.version with
      | none => exact Iff.rfl
      | some version =>
          cases root.suffix? name.package with
          | none => exact Iff.rfl
          | some suffix => exact ⟨fun h => by contradiction, fun h => by contradiction⟩

namespace Storage

variable {storage : Storage Doc} {roots : PackageRoots} {key other : QualifiedName}
variable {cause : ConfigError}

/-- The imports of a file have packages, so what is at fault is a package without a directory. -/
theorem Misconfigured.blamesRoots (h : storage.Misconfigured roots key cause)
    (hkey : key.HasPackage) : cause.BlamesRoots := by
  cases h with
  | file hpath =>
      exact PackageRoots.blamesRoots_of_packagePath hkey
        (PackageRoots.packagePath_eq_error_of_filePath hpath)
  | package hfile himported _ hpackage =>
      exact PackageRoots.blamesRoots_of_packagePath
        (Document.ne_empty_of_mem_importsFor hfile.1 himported) hpackage

/-- What a file depends on has a package, since the names that are left out are filled in. -/
theorem DependsOn.hasPackage (h : storage.DependsOn roots key other) (hkey : key.HasPackage) :
    other.HasPackage := by
  cases h with
  | types => exact hkey
  | imported hfile himported htries =>
      have himported := Document.ne_empty_of_mem_importsFor hfile.1 himported
      cases htries with
      | file | types => exact himported
      | member _ hfiles hmember =>
          obtain ⟨_, _, stem, _, _, rfl⟩ := exists_stem_of_mem_packageFiles hfiles hmember
          exact himported

end Storage

/-! ## Errors of calls -/

/-- A file has failed because of an error of the configuration. -/
def Registry.IsMisconfigured (registry : Registry Doc) (cause : ConfigError)
    (key : QualifiedName) : Prop :=
  registry.slot? key = some (.failed (.config cause))

/-- The errors of the configuration that are recorded blame the roots. -/
def Registry.BlamesRoots (registry : Registry Doc) : Prop :=
  ∀ key cause, registry.IsMisconfigured cause key → cause.BlamesRoots

/-- Where the recorded errors blame the roots, requests for files with a package are answered with
no others, and they record no others. -/
def Requester.BlamesRoots (request : Requester Doc) : Prop :=
  ∀ {key : QualifiedName} {registry later : Registry Doc} {result : Except ConfigError Outcome},
    key.HasPackage → registry.BlamesRoots → request key registry = some (result, later) →
      (∀ cause, result = .error cause → cause.BlamesRoots) ∧ later.BlamesRoots

section Requests

variable {storage : Storage Doc} {roots : PackageRoots} {registry later : Registry Doc}
variable {key : QualifiedName}

theorem Registry.BlamesRoots.start (h : registry.BlamesRoots) (key : QualifiedName) :
    (registry.start key).BlamesRoots := by
  intro other cause hslot
  rw [Registry.IsMisconfigured, Registry.slot?_start] at hslot
  split at hslot
  · simp at hslot
  · exact h other cause hslot

theorem Registry.BlamesRoots.settle {result : Except ConfigError (Loaded Doc)}
    (h : registry.BlamesRoots) (hresult : ∀ cause, result = .error cause → cause.BlamesRoots)
    (hfailure : ∀ failure, result = .ok (.error failure) → failure.IsOfFile) :
    (registry.settle key result).2.BlamesRoots := by
  intro other cause hslot
  rw [Registry.IsMisconfigured] at hslot
  by_cases hkey : key = other
  · subst hkey
    rcases Registry.eq_of_slot?_settle_failed hslot with hloaded | ⟨cause', hconfig, herror⟩
    · exact absurd rfl (hfailure _ hloaded cause)
    · obtain rfl : cause = cause' := ResolveFailure.config.inj hconfig
      exact hresult cause herror
  · rw [Registry.slot?_settle_of_ne hkey] at hslot
    exact h other cause hslot

theorem Plan.blamesRoots_of_run {α : Type} {request : Requester Doc} {plan : Plan α}
    {result : Except ConfigError α} (hrequest : request.BlamesRoots)
    (hplan : plan.Confined QualifiedName.HasPackage)
    (haborts : plan.AbortsWith ConfigError.BlamesRoots) (h : registry.BlamesRoots)
    (hrun : plan.run request registry = some (result, later)) :
    (∀ cause, result = .error cause → cause.BlamesRoots) ∧ later.BlamesRoots := by
  induction plan generalizing registry with
  | done value =>
      rw [run, Option.some.injEq, Prod.mk.injEq] at hrun
      obtain ⟨rfl, rfl⟩ := hrun
      exact ⟨by simp, h⟩
  | abort cause =>
      rw [run, Option.some.injEq, Prod.mk.injEq] at hrun
      obtain ⟨rfl, rfl⟩ := hrun
      refine ⟨?_, h⟩
      intro cause' heq
      rw [← Except.error.inj heq]
      exact haborts
  | parsing path next ih =>
      rw [run] at hrun
      have hnoted : (registry.notePath path).BlamesRoots := h
      exact ih hplan haborts hnoted hrun
  | ask key next ih =>
      obtain ⟨hkey, _, hnext⟩ := hplan
      rw [run] at hrun
      split at hrun
      · contradiction
      · rename_i cause middle hanswer
        obtain ⟨hcause, hmiddle⟩ := hrequest hkey h hanswer
        rw [Option.some.injEq, Prod.mk.injEq] at hrun
        obtain ⟨rfl, rfl⟩ := hrun
        refine ⟨?_, hmiddle⟩
        intro cause' heq
        rw [← Except.error.inj heq]
        exact hcause cause rfl
      · rename_i outcome middle hanswer
        obtain ⟨_, hmiddle⟩ := hrequest hkey h hanswer
        exact ih outcome (hnext outcome) (haborts outcome) hmiddle hrun

theorem Storage.blamesRoots_requestWithin (storage : Storage Doc) (roots : PackageRoots)
    (depth : Nat) : (storage.requestWithin roots depth).BlamesRoots := by
  induction depth using Nat.strongRecOn with
  | _ depth ih =>
      intro key registry later result hkey h hanswer
      cases hslot : registry.slot? key with
      | some slot =>
          rw [requestWithin_of_slot hslot, Option.some.injEq, Prod.mk.injEq] at hanswer
          obtain ⟨rfl, rfl⟩ := hanswer
          refine ⟨?_, h⟩
          intro cause herror
          rw [Slot.eq_failed_of_answer herror] at hslot
          exact h key cause hslot
      | none =>
          obtain ⟨below, loaded, middle, rfl, hrun, hsettle⟩ :=
            exists_run_of_requestWithin hslot hanswer
          have hplan : (storage.load roots key).Confined QualifiedName.HasPackage :=
            (confined_load storage roots key).mono fun _ hedge => hedge.hasPackage hkey
          have haborts : (storage.load roots key).AbortsWith ConfigError.BlamesRoots :=
            (abortsWith_load key).mono fun _ hfault => hfault.blamesRoots hkey
          obtain ⟨hloaded, hmiddle⟩ :=
            Plan.blamesRoots_of_run (ih below (Nat.lt_succ_self below)) hplan haborts
              (h.start key) hrun
          have hsettled : (middle.settle key loaded).2.BlamesRoots := by
            apply hmiddle.settle hloaded
            rintro failure rfl
            exact (storage.yields_load roots key).of_run hrun
          rw [hsettle] at hsettled
          refine ⟨?_, hsettled⟩
          rintro cause rfl
          apply hloaded
          rcases loaded with cause' | failure | ⟨path, document⟩
          · rw [Registry.settle, Prod.mk.injEq] at hsettle
            rw [Except.error.inj hsettle.1]
          · simp [Registry.settle] at hsettle
          · simp [Registry.settle] at hsettle

end Requests

namespace Registry

variable {storage : Storage Doc} {roots : PackageRoots} {registry later : Registry Doc}
variable {name : QualifiedName} {result : Except ConfigError (Option DocumentId)}
variable {worlds : Set (Storage Doc)}

theorem Resolves.blamesRoots (hcall : registry.Resolves storage roots name result later)
    (h : registry.BlamesRoots) :
    (name.IsFullyQualified → ∀ cause, result = .error cause → cause.BlamesRoots) ∧
      later.BlamesRoots := by
  by_cases hname : name.IsFullyQualified
  · obtain ⟨depth, outcome, rfl, hrequest⟩ := (resolves_iff_of_isFullyQualified hname).1 hcall
    have hpackage : name.fileIdentity.HasPackage := ⟨hname.1, hname.2.1⟩
    obtain ⟨houtcome, hlater⟩ := storage.blamesRoots_requestWithin roots depth hpackage h hrequest
    refine ⟨?_, hlater⟩
    intro _ cause heq
    apply houtcome
    cases outcome with
    | error cause' => rw [Except.error.inj heq]
    | ok outcome => contradiction
  · obtain ⟨_, rfl⟩ := (resolves_iff_of_not_isFullyQualified hname).1 hcall
    exact ⟨fun hqualified => absurd hqualified hname, h⟩

theorem Reachable.blamesRoots (h : registry.Reachable worlds roots) : registry.BlamesRoots := by
  induction h with
  | refl =>
      intro key cause hslot
      rw [IsMisconfigured, slot?_empty] at hslot
      contradiction
  | tail _ hcall ih =>
      obtain ⟨storage, _, name, result, hcall⟩ := hcall
      exact (hcall.blamesRoots ih).2

end Registry

end HalPackages
