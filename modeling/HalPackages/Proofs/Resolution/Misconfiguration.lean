import HalPackages.Proofs.Resolution.BlamedImports
import HalPackages.Proofs.Resolution.Histories
import HalPackages.Proofs.Resolution.RootErrors

/-!
# Problems of the configuration

A package without a directory is no fault of a file, and yet it ends the loading of
the file that needs the package, of all files that wait for it, and of those that
ask for one of them later.  The error crosses many files on its way and is given
again from the record.  Here it is traced back to a file for which the
configuration is at fault itself.  Only a file that is asked for while it is still
being resolved can come to such an error behind the back of one that has a document.
-/

namespace HalPackages

open Relation

variable {Doc Declared : Type} [Document Doc Declared]

namespace Storage

variable {storage : Storage Doc} {roots : PackageRoots} {key other : QualifiedName}
variable {answers : Answers}

/-- While a file with a document was loaded, the types of its package and all that it imports as it
is written were requested, and no error came back. -/
theorem exists_answer_of_ends_load {loaded : Path × Doc}
    (h : (storage.load roots key).Ends answers (.ok (.ok loaded)))
    (hother : ¬ key.IsTypes ∧ other = key.typesOfPackage ∨ storage.WrittenImport roots key other) :
    ∃ outcome, answers other (.ok outcome) := by
  obtain ⟨path, document⟩ := loaded
  rcases hother with ⟨htypes, rfl⟩ | himport
  · rw [load, if_neg htypes] at h
    rcases h with ⟨outcome, hanswer, _⟩ | ⟨cause, _, heq⟩
    · exact ⟨outcome, hanswer⟩
    · contradiction
  · obtain ⟨hfile, himports⟩ := isFile_of_ends_load h
    have hsame {path' : Path} {document' : Doc}
        (hfile' : storage.IsFile roots key path' document') : document' = document := by
      obtain rfl : path' = path := Except.ok.inj (hfile'.1.symm.trans hfile.1)
      exact Except.ok.inj (hfile'.2.1.symm.trans hfile.2.1)
    have hends := ends_importOne_of_ends_importAll himports
    cases himport with
    | @file _ _ imported hfile' himported hname =>
        obtain rfl := hsame hfile'
        have hpackage := Document.isPackage_iff_of_mem_importsFor hfile.1 himported
        have hone := hends imported himported
        rw [importOne, if_neg (fun hwhole => hname (hpackage.1 hwhole))] at hone
        rcases hone with ⟨outcome, hanswer, _⟩ | ⟨cause, _, heq⟩
        · exact ⟨outcome, hanswer⟩
        · contradiction
    | @member _ _ imported _ files hfile' himported hname hfiles hmember =>
        obtain rfl := hsame hfile'
        have hpackage := Document.isPackage_iff_of_mem_importsFor hfile.1 himported
        have hsatisfied := satisfied_of_ends_importOne hpackage (hends imported himported)
        obtain ⟨files', hfiles', _, hall⟩ := hsatisfied.whole hname
        obtain rfl : files = files' := Except.ok.inj (hfiles.symm.trans hfiles')
        obtain ⟨id, hanswer⟩ := hall other hmember
        exact ⟨.ok id, hanswer⟩

end Storage

/-! ## Where an error comes from -/

namespace Registry

variable {storage : Storage Doc} {roots : PackageRoots} {registry earlier later : Registry Doc}
variable {key other : QualifiedName} {cause : ConfigError}

/-- Files that have all failed with one error, each of which depends on the next one, lead to a file
for which the configuration is at fault itself. -/
def TracesBack (storage : Storage Doc) (roots : PackageRoots) (registry : Registry Doc)
    (key : QualifiedName) (cause : ConfigError) : Prop :=
  ∃ last, ReflTransGen (fun file next =>
      storage.DependsOn roots file next ∧ registry.IsMisconfigured cause next) key last ∧
    storage.Misconfigured roots last cause

/-- If a file has failed with an error of the configuration, the error traces back. -/
def ErrorTracesBack (storage : Storage Doc) (roots : PackageRoots) (registry : Registry Doc)
    (key : QualifiedName) (slot : Slot) : Prop :=
  ∀ cause, slot = .failed (.config cause) → registry.TracesBack storage roots key cause

theorem GrowsOn.isMisconfigured (hgrows : earlier.GrowsOn storage later)
    (h : earlier.IsMisconfigured cause key) : later.IsMisconfigured cause key :=
  hgrows.slots key _ h (by simp)

theorem TracesBack.mono (hgrows : earlier.GrowsOn storage later)
    (h : earlier.TracesBack storage roots key cause) :
    later.TracesBack storage roots key cause := by
  obtain ⟨last, hchain, hlast⟩ := h
  refine ⟨last, ReflTransGen.mono ?_ _ _ hchain, hlast⟩
  rintro file next ⟨hedge, hnext⟩
  exact ⟨hedge, hgrows.isMisconfigured hnext⟩

/-- An error that is given for a file is recorded of it. -/
theorem Supports.isMisconfigured
    (h : registry.Supports storage roots key other (.error cause)) :
    registry.IsMisconfigured cause other := by
  generalize hanswer : (Except.error cause : Except ConfigError Outcome) = answer at h
  cases h with
  | pending => contradiction
  | recorded _ hslot _ =>
      rw [Slot.eq_failed_of_answer hanswer.symm] at hslot
      exact hslot

theorem ErrorTracesBack.mono {slot : Slot} (hgrows : earlier.GrowsOn storage later)
    (h : earlier.ErrorTracesBack storage roots key slot) :
    later.ErrorTracesBack storage roots key slot :=
  fun cause hslot => (h cause hslot).mono hgrows

/-- A file that comes to an error is at fault itself, or it got the error from a file that it
depends on. -/
theorem errorTracesBack_settle {result : Except ConfigError (Loaded Doc)} {slot : Slot}
    (h : ∀ other slot, registry.slot? other = some slot → slot ≠ .resolving →
      registry.ErrorTracesBack storage roots other slot)
    (hkey : registry.slot? key = some .resolving)
    (hresult : (storage.load roots key).Ends (registry.Supports storage roots key) result)
    (hslot : (registry.settle key result).2.slot? key = some slot) :
    (registry.settle key result).2.ErrorTracesBack storage roots key slot := by
  rintro cause rfl
  have hgrows := growsOn_settle_of_ends hkey hresult
  rcases eq_of_slot?_settle_failed hslot with rfl | ⟨cause', hconfig, rfl⟩
  · exact absurd rfl ((storage.yields_load roots key).of_ends hresult cause)
  · obtain rfl : cause = cause' := ResolveFailure.config.inj hconfig
    rcases (Storage.abortsWith_load key).of_ends (Storage.confined_load storage roots key) hresult
      with hfault | ⟨other, hedge, hsupports⟩
    · exact ⟨key, .refl, hfault⟩
    · have hother := hsupports.isMisconfigured
      obtain ⟨last, hchain, hlast⟩ := (h other _ hother (by simp) cause rfl).mono hgrows
      exact ⟨last, hchain.head ⟨hedge, hgrows.isMisconfigured hother⟩, hlast⟩

theorem Grounded.tracesBack (h : registry.Grounded storage roots)
    (hkey : registry.IsMisconfigured cause key) : registry.TracesBack storage roots key cause := by
  have hall : ∀ other slot, registry.slot? other = some slot → slot ≠ .resolving →
      registry.ErrorTracesBack storage roots other slot :=
    h.settled_induction ErrorTracesBack.mono errorTracesBack_settle
  exact hall key _ hkey (by simp) cause rfl

end Registry

/-! ## Justified errors -/

namespace Moment

variable {storage : Storage Doc} {roots : PackageRoots} {moment : Moment Doc}
variable {key other : QualifiedName} {cause : ConfigError}

/-- What a file with a document has asked for has failed with an error only if it was still being
resolved when the file asked for it. -/
theorem Occurs.exists_asking (h : moment.Occurs storage roots)
    (hkey : moment.registry.IsResolved key) (hother : moment.registry.IsMisconfigured cause other)
    (hasked : other = key.typesOfPackage ∨ storage.WrittenImport roots key other) :
    ∃ asking : Moment Doc, asking.Occurs storage roots ∧ Precedes storage roots asking moment ∧
      asking.AsksPending key other := by
  obtain ⟨id, hslot⟩ := hkey
  have hne : key ≠ other := by
    rintro rfl
    rw [Registry.IsMisconfigured, hslot] at hother
    simp at hother
  have hrequested :
      ¬ key.IsTypes ∧ other = key.typesOfPackage ∨ storage.WrittenImport roots key other := by
    refine hasked.imp_left fun htypes => ⟨?_, htypes⟩
    intro hkey
    apply hne
    rw [htypes, QualifiedName.typesOfPackage, ← show key.localName = _ from hkey]
    rfl
  obtain ⟨loaded, hends⟩ := h.recounted.completed key id hslot
  obtain ⟨outcome, htells⟩ := Storage.exists_answer_of_ends_load hends hrequested
  generalize hanswer : (Except.ok outcome : Except ConfigError Outcome) = answer at htells
  cases htells with
  | pending hoccurs hprecedes hasks => exact ⟨_, hoccurs, hprecedes, hasks⟩
  | @recorded slot hrecorded _ =>
      obtain rfl : slot = .failed (.config cause) :=
        Option.some.inj (hrecorded.symm.trans hother)
      contradiction

/-- A file whose package has no directory is not handed to the parser. -/
theorem Occurs.not_parsing (h : moment.Occurs storage roots) {relative : Bool}
    (hpackage : roots.packagePath key relative = .error cause) (path : Path)
    (next : Plan (Loaded Doc)) : moment.task ≠ .load key (.parsing path next) := by
  intro htask
  obtain ⟨task, waiting, registry⟩ := moment
  obtain rfl : task = .load key (.parsing path next) := htask
  have hplan := h.grounded.linked.1.parsesOnly (Storage.parsesOnly_load key)
  have hpath : roots.filePath key = .ok path := hplan.1
  rw [PackageRoots.packagePath_eq_error_iff] at hpackage
  rw [PackageRoots.filePath, hpackage] at hpath
  contradiction

/-- At every moment of every call, a file that has failed with an error of the configuration leads
through files that have failed with the same error to one for which the configuration is at
fault itself.  A file with a document has asked for such a file only in a cycle, while that was
still being resolved; and a file whose package has no directory is not handed to the parser.
Whatever becomes of the files, a call for a name that is fully qualified returns no error but
those for which the roots are to blame. -/
theorem config_errors_justified (h : moment.Occurs storage roots) :
    (∀ key cause, moment.registry.slot? key = some (.failed (.config cause)) →
      ∃ last, ReflTransGen (fun file next => storage.DependsOn roots file next ∧
          moment.registry.slot? next = some (.failed (.config cause))) key last ∧
        storage.Misconfigured roots last cause) ∧
      (∀ key other cause, moment.registry.IsResolved key →
        moment.registry.slot? other = some (.failed (.config cause)) →
          other = key.typesOfPackage ∨ storage.WrittenImport roots key other →
            storage.DependsOn roots key other ∧
              ReflTransGen (storage.DependsOn roots) other key ∧
                ∃ asking : Moment Doc, asking.Occurs storage roots ∧
                  Precedes storage roots asking moment ∧ asking.AsksPending key other) ∧
      (∀ key relative cause, roots.packagePath key relative = .error cause →
        ∀ path next, moment.task ≠ .load key (.parsing path next)) ∧
      ∀ worlds (registry : Registry Doc), registry.Reachable worlds roots →
        ∀ world ∈ worlds, ∀ name result later, name.IsFullyQualified →
          registry.Resolves world roots name result later →
            ∀ cause, result = .error cause → cause.BlamesRoots := by
  refine ⟨?_, ?_, ?_, ?_⟩
  · intro key cause hslot
    exact h.grounded.grounded.tracesBack hslot
  · intro key other cause hkey hother hasked
    obtain ⟨asking, hoccurs, hprecedes, hasks⟩ := h.exists_asking hkey hother hasked
    obtain ⟨hedge, hback⟩ := hasks.isCycle hoccurs
    exact ⟨hedge, hback, asking, hoccurs, hprecedes, hasks⟩
  · intro key relative cause hpackage path next
    exact h.not_parsing hpackage path next
  · intro worlds registry hreachable world _ name result later hname hcall
    exact (hcall.blamesRoots hreachable.blamesRoots).1 hname

end Moment

/-! ## An import without a root -/

namespace ForeignImport

open MutualImports (roots)

/-- An interface without imports. -/
def ib : QualifiedName := ⟨"hw.b", "@1.0", "IB"⟩

/-- A name for whose package there is no root. -/
def foreign : QualifiedName := ⟨"other", "@1.0", "IOther"⟩

/-- The types import the interface and then the name without a root. -/
def storage : Storage Summary where
  parse path :=
    if path = ⟨"hw/b/1.0/types.hal"⟩ then .ok ⟨⟨"hw.b", "@1.0", ""⟩, none, [ib, foreign], []⟩
    else if path = ⟨"hw/b/1.0/IB.hal"⟩ then .ok ⟨⟨"hw.b", "@1.0", ""⟩, some "IB", [], ["IB"]⟩
    else .error (.missing path)
  list _ := .ok ["IB", "types"]

/-- What a call for the types leaves. -/
def registry : Registry Summary where
  cache := ⟨[(ib.typesOfPackage, .failed (.config (.noPackageRoot "other"))),
    (ib, .resolved ⟨0⟩),
    (foreign, .failed (.config (.noPackageRoot "other"))),
    (foreign.typesOfPackage, .failed (.config (.noPackageRoot "other")))]⟩
  documents := [⟨ib, ⟨"hw/b/1.0/IB.hal"⟩, ⟨⟨"hw.b", "@1.0", ""⟩, some "IB", [], ["IB"]⟩⟩]
  parsed := [⟨"hw/b/1.0/types.hal"⟩, ⟨"hw/b/1.0/IB.hal"⟩]

theorem resolves_types :
    (∅ : Registry Summary).Resolves storage roots ib.typesOfPackage
      (.error (.noPackageRoot "other")) registry :=
  ⟨3, rfl⟩

theorem config_errors_of_foreign_import :
    (Moment.ofCall registry ib).Occurs storage roots ∧
      registry.slot? ib.typesOfPackage = some (.failed (.config (.noPackageRoot "other"))) ∧
      (∃ last, ReflTransGen (fun file next => storage.DependsOn roots file next ∧
          registry.slot? next = some (.failed (.config (.noPackageRoot "other"))))
            ib.typesOfPackage last ∧
        storage.Misconfigured roots last (.noPackageRoot "other")) ∧
      registry.IsResolved ib ∧ storage.DependsOn roots ib ib.typesOfPackage ∧
      ReflTransGen (storage.DependsOn roots) ib.typesOfPackage ib ∧
      (∃ asking : Moment Summary, asking.Occurs storage roots ∧
        Moment.Precedes storage roots asking (.ofCall registry ib) ∧
          asking.AsksPending ib ib.typesOfPackage) ∧
      roots.packagePath foreign false = .error (.noPackageRoot "other") ∧
      (∀ path next, (Moment.ofCall registry ib).task ≠ .load foreign (.parsing path next)) ∧
      (∅ : Registry Summary).Reachable {storage} roots ∧ ib.typesOfPackage.IsFullyQualified ∧
      (ConfigError.noPackageRoot "other").BlamesRoots := by
  have hreachable : registry.Reachable {storage} roots := .resolve .refl rfl resolves_types
  have hoccurs := hreachable.occurs_ofCall ib
  have hslot : registry.slot? ib.typesOfPackage =
      some (.failed (.config (.noPackageRoot "other"))) := rfl
  have hib : registry.IsResolved ib := ⟨⟨0⟩, rfl⟩
  have hpackage : roots.packagePath foreign false = .error (.noPackageRoot "other") := rfl
  have hname : ib.typesOfPackage.IsFullyQualified := by decide
  obtain ⟨htraces, hcycle, hparsing, hblames⟩ := Moment.config_errors_justified hoccurs
  obtain ⟨hedge, hback, hasking⟩ := hcycle ib ib.typesOfPackage _ hib hslot (Or.inl rfl)
  exact ⟨hoccurs, hslot, htraces _ _ hslot, hib, hedge, hback, hasking, hpackage,
    hparsing foreign false _ hpackage, .refl, hname,
    hblames {storage} ∅ .refl storage rfl _ _ _ hname resolves_types _ rfl⟩

end ForeignImport

end HalPackages
