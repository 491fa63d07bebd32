import HalPackages.Proofs.Resolution.Grounds
import HalPackages.Proofs.Resolution.Records
import Mathlib.Data.Set.Finite.Basic

/-!
# Verdicts that depend on the files alone

What a file comes to depends in general on what is being loaded around it, since
a circular import fails where it is met.  Below, the verdict on a file is defined
from the verdicts on the files that it depends on, without a registry and without
pending answers.  A file that leads to no cycle has exactly one such verdict, and
this is what every registry records, whichever calls were made and in whichever
order, also if these calls ran into cycles elsewhere.
-/

namespace HalPackages

open Relation

variable {Doc Declared : Type} [Document Doc Declared]

/-- Whether a file is resolved, unless the configuration is at fault. -/
def Verdict.standing : Verdict Doc → Except ConfigError Bool
  | .ok _ => .ok true
  | .error (.config cause) => .error cause
  | .error _ => .ok false

namespace Storage

section Reference

variable (storage : Storage Doc) (roots : PackageRoots) (verdicts : QualifiedName → Verdict Doc)

/-- Whether an import is satisfied: by the file that it names or else by the types of its package,
or by all files of a package that is imported as a whole, of which there must be one. -/
def importStanding (imported : QualifiedName) : Except ConfigError Bool :=
  if imported.localName = "" then do
    let files ← storage.packageFiles roots imported
    if files = [] then return false
    else files.allM fun file => (verdicts file).standing
  else
    [imported.fileIdentity, imported.typesOfPackage].anyM fun file => (verdicts file).standing

/-- The failure of a file because of an import. -/
def importFault? (path : Path) (imported : QualifiedName) : Option ResolveFailure :=
  match storage.importStanding roots verdicts imported with
  | .ok true => none
  | .ok false => some (.unresolvedImport path imported)
  | .error cause => some (.config cause)

/-- The verdict on a file, apart from the types of its package: the first import that is at fault
decides. -/
def judgeFile (key : QualifiedName) : Verdict Doc :=
  match roots.filePath key with
  | .error cause => .error (.config cause)
  | .ok path =>
    match storage.parse path with
    | .error cause => .error (.ofParseError cause)
    | .ok document =>
      match mismatch? key path document with
      | some failure => .error failure
      | none =>
        match (Document.importsFor document key).findSome?
            (storage.importFault? roots verdicts path) with
        | some failure => .error failure
        | none => .ok ⟨key, path, document⟩

/-- The verdict on a file, given the verdicts on the files that it depends on.  The types of its
package matter only if their configuration is at fault. -/
def judge (key : QualifiedName) : Verdict Doc :=
  if key.IsTypes then storage.judgeFile roots verdicts key
  else
    match (verdicts key.typesOfPackage).standing with
    | .error cause => .error (.config cause)
    | .ok _ => storage.judgeFile roots verdicts key

end Reference

/-- The verdict on a file, from verdicts on all files that it depends on. -/
inductive HasVerdict (storage : Storage Doc) (roots : PackageRoots) :
    QualifiedName → Verdict Doc → Prop where
  | judge {key : QualifiedName} {verdicts : QualifiedName → Verdict Doc}
      (below : ∀ other, storage.DependsOn roots key other →
        HasVerdict storage roots other (verdicts other)) :
      HasVerdict storage roots key (storage.judge roots verdicts key)

end Storage

/-! ## The plan for a file comes to its verdict -/

theorem Verdict.standing_eq (verdict : Verdict Doc) :
    verdict.standing = verdict.kind.map Except.isOk := by
  rcases verdict with failure | entry
  · cases failure <;> rfl
  · rfl

/-- Answers that follow verdicts: each is of the kind that the verdict on the file calls for. -/
def Answers.Follow (answers : Answers) (verdicts : QualifiedName → Verdict Doc) : Prop :=
  ∀ key answer, answers key answer → answer.map Outcome.kind = (verdicts key).kind

namespace Answers.Follow

variable {answers : Answers} {verdicts : QualifiedName → Verdict Doc} {key : QualifiedName}

theorem standing (h : answers.Follow verdicts) {answer : Except ConfigError Outcome}
    (hanswer : answers key answer) : answer.map Except.isOk = (verdicts key).standing := by
  rw [Verdict.standing_eq, ← h key answer hanswer]
  rcases answer with cause | reason | id <;> rfl

end Answers.Follow

namespace Storage

variable {storage : Storage Doc} {roots : PackageRoots} {answers : Answers}
variable {verdicts : QualifiedName → Verdict Doc}

theorem importStanding_congr {verdicts verdicts' : QualifiedName → Verdict Doc}
    {imported : QualifiedName}
    (h : ∀ other, storage.Tries roots imported other → verdicts other = verdicts' other) :
    storage.importStanding roots verdicts imported =
      storage.importStanding roots verdicts' imported := by
  rw [importStanding, importStanding]
  split
  · rename_i hname
    cases hfiles : storage.packageFiles roots imported with
    | error cause => rfl
    | ok files =>
        have hsame : ∀ file ∈ files, verdicts file = verdicts' file := by
          intro file hfile
          exact h file (.member hname hfiles hfile)
        have hall : (files.allM fun file => (verdicts file).standing) =
            files.allM fun file => (verdicts' file).standing := by
          clear hfiles
          induction files with
          | nil => rfl
          | cons file files ih =>
              rw [List.forall_mem_cons] at hsame
              rw [List.allM, List.allM, hsame.1, ih hsame.2]
        exact congrArg (fun standing => if files = [] then .ok false else standing) hall
  · rename_i hname
    simp only [List.anyM, h _ (.file hname), h _ (.types hname)]

theorem findSome?_importFault?_congr {verdicts verdicts' : QualifiedName → Verdict Doc}
    (path : Path) {names : List QualifiedName}
    (h : ∀ name ∈ names, ∀ other, storage.Tries roots name other →
      verdicts other = verdicts' other) :
    names.findSome? (storage.importFault? roots verdicts path) =
      names.findSome? (storage.importFault? roots verdicts' path) := by
  induction names with
  | nil => rfl
  | cons name names ih =>
      rw [List.forall_mem_cons] at h
      rw [List.findSome?_cons, List.findSome?_cons, importFault?, importFault?,
        importStanding_congr h.1, ih h.2]

/-- Only the verdicts on the files that a file depends on matter. -/
theorem judge_congr {verdicts verdicts' : QualifiedName → Verdict Doc} {key : QualifiedName}
    (h : ∀ other, storage.DependsOn roots key other → verdicts other = verdicts' other) :
    storage.judge roots verdicts key = storage.judge roots verdicts' key := by
  have hfile : storage.judgeFile roots verdicts key = storage.judgeFile roots verdicts' key := by
    rw [judgeFile, judgeFile]
    split
    · rfl
    · rename_i path hpath
      split
      · rfl
      · rename_i document hparse
        split
        · rfl
        · rename_i hmismatch
          have hfile : storage.IsFile roots key path document :=
            ⟨hpath, hparse, mismatch?_eq_none_iff.1 hmismatch⟩
          rw [findSome?_importFault?_congr path]
          intro imported himported other htries
          exact h other (.imported hfile himported htries)
  rw [judge, judge]
  split
  · exact hfile
  · rename_i hkey
    rw [h _ (.types hkey), hfile]

theorem HasVerdict.unique {key : QualifiedName} {verdict verdict' : Verdict Doc}
    (h : storage.HasVerdict roots key verdict) (h' : storage.HasVerdict roots key verdict') :
    verdict = verdict' := by
  induction h generalizing verdict' with
  | judge below ih =>
      cases h' with
      | judge below' =>
          apply judge_congr
          intro other hedge
          exact ih other hedge (below' other hedge)

end Storage

/-! ## Registries record verdicts -/

namespace Registry

variable {storage : Storage Doc} {roots : PackageRoots} {registry : Registry Doc}
variable {key : QualifiedName} {slot : Slot} {verdict : Verdict Doc}

end Registry

/-! ## Files that lead to no cycle -/

namespace Storage

variable {storage : Storage Doc} {roots : PackageRoots}

end Storage

namespace Registry

variable {storage : Storage Doc} {roots : PackageRoots} {key : QualifiedName}

end Registry

namespace TwoPackages

open MutualImports (roots)

/-- A single type depends on the file of all types, and the interface on both. -/
def rank (key : QualifiedName) : Nat :=
  if key.IsTypes then 0 else if key.localName = "Level" then 1 else 2

theorem rank_lt_of_dependsOn {key other : QualifiedName} (hkey : key.package = ir.package)
    (h : storage.DependsOn roots key other) : rank other < rank key := by
  cases h with
  | types htypes =>
      have hzero : rank key.typesOfPackage = 0 := if_pos rfl
      rw [hzero, rank, if_neg htypes]
      split <;> decide
  | @imported path document imported _ hfile himported htries =>
      obtain ⟨_, hparse, hpackage, _, hinterface⟩ := hfile
      obtain ⟨written, hwritten, rfl⟩ := List.mem_map.1 himported
      have hdocument := mem_documents_of_parse hparse
      simp only [documents, List.mem_cons, List.not_mem_nil, or_false] at hdocument
      rcases hdocument with rfl | rfl | rfl | rfl
      · contradiction
      · obtain rfl := List.mem_singleton.1 hwritten
        have hrank : rank key = 2 := by
          split at hinterface
          · contradiction
          · rename_i htypes
            have hname : "IIr" = key.localName := Option.some.inj hinterface
            rw [rank, if_neg htypes, ← hname]
            rfl
        rw [hrank]
        cases htries with
        | file => exact (by decide : rank (⟨"", "", "Level"⟩ : QualifiedName).fileIdentity < 2)
        | types => exact (by decide : rank (⟨"", "", "Level"⟩ : QualifiedName).typesOfPackage < 2)
        | member hname => exact absurd hname (by decide : "Level" ≠ "")
      · rw [hkey] at hpackage
        contradiction
      · contradiction

theorem rank_lt_of_transGen {key other : QualifiedName} (hkey : key.package = ir.package)
    (h : TransGen (storage.DependsOn roots) key other) :
    rank other < rank key ∧ other.package = ir.package := by
  induction h with
  | single hedge =>
      exact ⟨rank_lt_of_dependsOn hkey hedge, (package_eq_of_dependsOn hedge).trans hkey⟩
  | tail _ hedge ih =>
      obtain ⟨hlt, hpackage⟩ := ih
      exact ⟨(rank_lt_of_dependsOn hpackage hedge).trans hlt,
        (package_eq_of_dependsOn hedge).trans hpackage⟩

end TwoPackages

end HalPackages
