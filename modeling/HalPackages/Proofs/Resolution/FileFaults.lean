import HalPackages.Proofs.Resolution.BlamedImports

/-!
# What is decided by a file alone

Between the request for the types of its package and the requests for its imports, a
file is parsed and checked.  Nothing that is recorded by then, or pending, has a part
in this: a file that is at fault by itself is recorded with that very fault, and a
file that is not has a document or blames an import.
-/

namespace HalPackages

variable {Doc Declared : Type} [Document Doc Declared]

namespace Storage

section Faults

variable (storage : Storage Doc) (roots : PackageRoots) (key : QualifiedName)

/-- What is wrong with a file by itself.  It cannot be parsed, or its document declares something
else than the name says; package and version are compared before the interface. -/
inductive HasFault : ResolveFailure → Prop where
  | missing {path absent : Path} (hpath : roots.filePath key = .ok path)
      (hparse : storage.parse path = .error (.missing absent)) : HasFault (.missing absent)
  | unparsed {path : Path} {cause : ParseError} (hpath : roots.filePath key = .ok path)
      (hparse : storage.parse path = .error cause) (hcause : ∀ absent, cause ≠ .missing absent) :
      HasFault (.parse cause)
  | otherPackage {path : Path} {document : Doc} (hpath : roots.filePath key = .ok path)
      (hparse : storage.parse path = .ok document)
      (hpackage : (Document.package document).package ≠ key.package ∨
        (Document.package document).version ≠ key.version) :
      HasFault (.packageMismatch path key.packageAndVersion
        (Document.package document).packageAndVersion)
  | interfaceAmongTypes {path : Path} {document : Doc} {interface : String}
      (hpath : roots.filePath key = .ok path) (hparse : storage.parse path = .ok document)
      (hpackage : (Document.package document).package = key.package)
      (hversion : (Document.package document).version = key.version) (htypes : key.IsTypes)
      (hinterface : Document.interfaceName? document = some interface) :
      HasFault (.unexpectedInterface path interface)
  | otherInterface {path : Path} {document : Doc} {interface : String}
      (hpath : roots.filePath key = .ok path) (hparse : storage.parse path = .ok document)
      (hpackage : (Document.package document).package = key.package)
      (hversion : (Document.package document).version = key.version) (htypes : ¬ key.IsTypes)
      (hinterface : Document.interfaceName? document = some interface)
      (hname : interface ≠ key.localName) :
      HasFault (.interfaceMismatch path key.localName interface)
  | noInterface {path : Path} {document : Doc} (hpath : roots.filePath key = .ok path)
      (hparse : storage.parse path = .ok document)
      (hpackage : (Document.package document).package = key.package)
      (hversion : (Document.package document).version = key.version) (htypes : ¬ key.IsTypes)
      (hinterface : Document.interfaceName? document = none) :
      HasFault (.expectedInterface path key.localName)

end Faults

variable {storage : Storage Doc} {roots : PackageRoots} {key : QualifiedName}
variable {failure failure' : ResolveFailure} {path : Path} {document : Doc}

theorem hasFault_of_parse_eq_error {cause : ParseError} (hpath : roots.filePath key = .ok path)
    (hparse : storage.parse path = .error cause) :
    storage.HasFault roots key (.ofParseError cause) := by
  cases cause with
  | missing absent => exact .missing hpath hparse
  | unreadable | malformed => exact .unparsed hpath hparse fun _ => ParseError.noConfusion

theorem hasFault_of_mismatch? (hpath : roots.filePath key = .ok path)
    (hparse : storage.parse path = .ok document)
    (hmismatch : mismatch? key path document = some failure) :
    storage.HasFault roots key failure := by
  rw [mismatch?] at hmismatch
  split at hmismatch
  case isTrue hpackage =>
    cases hmismatch
    exact .otherPackage hpath hparse hpackage
  case isFalse hsame =>
    obtain ⟨hpackage, hversion⟩ := not_or.1 hsame
    rw [not_not] at hpackage hversion
    split at hmismatch
    case h_1 interface hinterface =>
      split at hmismatch
      case isTrue htypes =>
        cases hmismatch
        exact .interfaceAmongTypes hpath hparse hpackage hversion htypes hinterface
      case isFalse htypes =>
        split at hmismatch
        case isTrue hname =>
          cases hmismatch
          exact .otherInterface hpath hparse hpackage hversion htypes hinterface hname
        case isFalse => contradiction
    case h_2 hinterface =>
      split at hmismatch
      case isTrue => contradiction
      case isFalse htypes =>
        cases hmismatch
        exact .noInterface hpath hparse hpackage hversion htypes hinterface

/-- A fault is that of parsing or that of what the document declares. -/
theorem HasFault.cases_parse (h : storage.HasFault roots key failure) :
    ∃ path, roots.filePath key = .ok path ∧
      ((∃ cause, storage.parse path = .error cause ∧ failure = .ofParseError cause) ∨
        ∃ document, storage.parse path = .ok document ∧
          mismatch? key path document = some failure) := by
  cases h with
  | missing hpath hparse => exact ⟨_, hpath, Or.inl ⟨_, hparse, rfl⟩⟩
  | @unparsed _ cause hpath hparse hcause =>
      refine ⟨_, hpath, Or.inl ⟨_, hparse, ?_⟩⟩
      cases cause with
      | missing absent => exact absurd rfl (hcause absent)
      | unreadable | malformed => rfl
  | otherPackage hpath hparse hpackage =>
      exact ⟨_, hpath, Or.inr ⟨_, hparse, if_pos hpackage⟩⟩
  | interfaceAmongTypes hpath hparse hpackage hversion htypes hinterface =>
      exact ⟨_, hpath, Or.inr ⟨_, hparse, by simp [mismatch?, *]⟩⟩
  | otherInterface hpath hparse hpackage hversion htypes hinterface hname =>
      exact ⟨_, hpath, Or.inr ⟨_, hparse, by simp [mismatch?, *]⟩⟩
  | noInterface hpath hparse hpackage hversion htypes hinterface =>
      exact ⟨_, hpath, Or.inr ⟨_, hparse, by simp [mismatch?, *]⟩⟩

/-- A file has one fault. -/
theorem HasFault.unique (h : storage.HasFault roots key failure)
    (h' : storage.HasFault roots key failure') : failure = failure' := by
  obtain ⟨path, hpath, hfault⟩ := h.cases_parse
  obtain ⟨path', hpath', hfault'⟩ := h'.cases_parse
  obtain rfl : path = path' := Except.ok.inj (hpath.symm.trans hpath')
  rcases hfault with ⟨cause, hparse, rfl⟩ | ⟨document, hparse, hmismatch⟩
  · rcases hfault' with ⟨cause', hparse', rfl⟩ | ⟨document', hparse', _⟩
    · rw [Except.error.inj (hparse.symm.trans hparse')]
    · cases hparse.symm.trans hparse'
  · rcases hfault' with ⟨cause', hparse', _⟩ | ⟨document', hparse', hmismatch'⟩
    · cases hparse.symm.trans hparse'
    · obtain rfl : document = document' := Except.ok.inj (hparse.symm.trans hparse')
      exact Option.some.inj (hmismatch.symm.trans hmismatch')

/-- A file that has a fault is not the one that its name asks for. -/
theorem HasFault.not_isFile (h : storage.HasFault roots key failure) :
    ¬ storage.IsFile roots key path document := by
  rintro ⟨hpath, hparse, hdeclares⟩
  obtain ⟨path', hpath', hfault⟩ := h.cases_parse
  obtain rfl : path = path' := Except.ok.inj (hpath.symm.trans hpath')
  rcases hfault with ⟨cause, hparse', _⟩ | ⟨document', hparse', hmismatch⟩
  · cases hparse.symm.trans hparse'
  · obtain rfl : document = document' := Except.ok.inj (hparse.symm.trans hparse')
    cases (mismatch?_eq_none_iff.2 hdeclares).symm.trans hmismatch

/-- A fault of the file itself blames no import. -/
theorem HasFault.imported?_eq_none (h : storage.HasFault roots key failure) :
    failure.imported? = none := by
  cases h <;> rfl

/-! ## What is recorded -/

/-- What the record of a file says about the file itself. -/
inductive Explains (storage : Storage Doc) (roots : PackageRoots) (key : QualifiedName) :
    Slot → Prop where
  | resolved {path : Path} {document : Doc} {id : DocumentId}
      (hfile : storage.IsFile roots key path document) : Explains storage roots key (.resolved id)
  | blames {path : Path} {document : Doc} {imported : QualifiedName} {reason : Unresolved}
      (hfile : storage.IsFile roots key path document) :
      Explains storage roots key (.failed (importFailure path imported reason))
  | fault {failure : ResolveFailure} (hfault : storage.HasFault roots key failure) :
      Explains storage roots key (.failed failure)
  | config {cause : ConfigError} : Explains storage roots key (.failed (.config cause))

variable {slot : Slot}

theorem explains_of_ends_load {answers : Answers}
    (h : (storage.load roots key).Ends answers (.ok (.error failure))) :
    storage.Explains roots key (.failed failure) := by
  cases loadsTo_of_ends_load h with
  | unreadable hpath hparse => exact .fault (hasFault_of_parse_eq_error hpath hparse)
  | mismatched hpath hparse hmismatch => exact .fault (hasFault_of_mismatch? hpath hparse hmismatch)
  | unsatisfied hfile => exact .blames hfile

/-- Unless the configuration is at fault, the fault of a file is what is recorded if no import is
blamed. -/
theorem Explains.hasFault_iff (h : storage.Explains roots key slot)
    (hconfig : ∀ cause, slot ≠ .failed (.config cause)) :
    storage.HasFault roots key failure ↔ slot = .failed failure ∧ failure.imported? = none := by
  cases h with
  | resolved hfile =>
      exact ⟨fun hfault => absurd hfile hfault.not_isFile, fun hfailed => by cases hfailed.1⟩
  | blames hfile =>
      refine ⟨fun hfault => absurd hfile hfault.not_isFile, ?_⟩
      rintro ⟨hfailed, hnone⟩
      rw [← Slot.failed.inj hfailed, imported?_importFailure] at hnone
      contradiction
  | fault hfault =>
      constructor
      · intro hother
        rw [hother.unique hfault]
        exact ⟨rfl, hfault.imported?_eq_none⟩
      · rintro ⟨hfailed, _⟩
        rw [← Slot.failed.inj hfailed]
        exact hfault
  | config => exact absurd rfl (hconfig _)

/-- Unless the configuration is at fault, a file is what its name asks for if it is recorded with a
document or blames an import. -/
theorem Explains.exists_isFile_iff (h : storage.Explains roots key slot)
    (hconfig : ∀ cause, slot ≠ .failed (.config cause)) :
    (∃ path document, storage.IsFile roots key path document) ↔
      (∃ id, slot = .resolved id) ∨
        ∃ path imported reason, slot = .failed (importFailure path imported reason) := by
  cases h with
  | resolved hfile => exact ⟨fun _ => Or.inl ⟨_, rfl⟩, fun _ => ⟨_, _, hfile⟩⟩
  | blames hfile => exact ⟨fun _ => Or.inr ⟨_, _, _, rfl⟩, fun _ => ⟨_, _, hfile⟩⟩
  | fault hfault =>
      constructor
      · rintro ⟨path, document, hfile⟩
        exact absurd hfile hfault.not_isFile
      · rintro (⟨id, hresolved⟩ | ⟨path, imported, reason, hfailed⟩)
        · contradiction
        · have hnone := hfault.imported?_eq_none
          rw [Slot.failed.inj hfailed, imported?_importFailure] at hnone
          contradiction
  | config => exact absurd rfl (hconfig _)

end Storage

namespace Registry

variable {storage : Storage Doc} {roots : PackageRoots} {registry : Registry Doc}
variable {key : QualifiedName}

theorem explains_settle {answers : Answers} {result : Except ConfigError (Loaded Doc)} {slot : Slot}
    (hresult : (storage.load roots key).Ends answers result)
    (hslot : (registry.settle key result).2.slot? key = some slot) :
    storage.Explains roots key slot := by
  rcases result with cause | failure | ⟨path, document⟩
  · rw [settle, slot?_fail, if_pos rfl] at hslot
    cases hslot
    exact .config
  · rw [settle, slot?_fail, if_pos rfl] at hslot
    cases hslot
    exact Storage.explains_of_ends_load hresult
  · rw [settle, slot?_install, if_pos rfl] at hslot
    cases hslot
    exact .resolved (Storage.isFile_of_ends_load hresult).1

/-- What calls on one storage have recorded says what is true of the files. -/
theorem Grounded.explains (h : registry.Grounded storage roots) :
    ∀ key slot, registry.slot? key = some slot → slot ≠ .resolving →
      storage.Explains roots key slot :=
  @settled_induction Doc Declared _ storage roots registry (fun _ => storage.Explains roots)
    (fun _ hexplains => hexplains) (fun _ _ => explains_settle) h

end Registry

namespace Moment

variable {storage : Storage Doc} {roots : PackageRoots} {moment : Moment Doc}
variable {key : QualifiedName} {slot : Slot}

/-- At every moment of every call, what is recorded of a file follows the file itself, unless the
configuration is at fault.  A file that is at fault by itself is recorded with that fault, and one
that is not has a document or blames an import.  So the fault is the same one at every other
moment, whatever was requested before. -/
theorem fault_decided_by_file (h : moment.Occurs storage roots)
    (hslot : moment.registry.slot? key = some slot) (hsettled : slot ≠ .resolving)
    (hconfig : ∀ cause, slot ≠ .failed (.config cause)) :
    (∀ failure, storage.HasFault roots key failure ↔
      slot = .failed failure ∧ failure.imported? = none) ∧
    ((∃ path document, storage.IsFile roots key path document) ↔
      (∃ id, slot = .resolved id) ∨
        ∃ path imported, slot = .failed (.unresolvedImport path imported) ∨
          slot = .failed (.circularImport path imported)) ∧
    ∀ (other : Moment Doc) (slot' : Slot), other.Occurs storage roots →
      other.registry.slot? key = some slot' → slot' ≠ .resolving →
      (∀ cause, slot' ≠ .failed (.config cause)) →
        ∀ failure, failure.imported? = none →
          (slot' = .failed failure ↔ slot = .failed failure) := by
  have hexplains := h.grounded.grounded.explains key slot hslot hsettled
  refine ⟨fun failure => hexplains.hasFault_iff hconfig, ?_, ?_⟩
  · rw [hexplains.exists_isFile_iff hconfig]
    refine or_congr_right (exists_congr fun path => exists_congr fun imported => ?_)
    constructor
    · rintro ⟨_ | _, hfailed⟩
      · exact Or.inr hfailed
      · exact Or.inl hfailed
    · rintro (hfailed | hfailed)
      · exact ⟨.failed, hfailed⟩
      · exact ⟨.pending, hfailed⟩
  · intro other slot' hother hslot' hsettled' hconfig' failure hnone
    have hexplains' := hother.grounded.grounded.explains key slot' hslot' hsettled'
    have hfault : storage.HasFault roots key failure ↔
        slot = .failed failure ∧ failure.imported? = none := hexplains.hasFault_iff hconfig
    rw [hexplains'.hasFault_iff hconfig', and_iff_left hnone, and_iff_left hnone] at hfault
    exact hfault

end Moment

namespace MissingImport

open MutualImports (roots)

/-- The interface is what its name asks for, although it has failed; the name that it imports in
vain has no file. -/
theorem faults_of_uwb_and_gone :
    (Moment.ofCall registry uwb).Occurs storage roots ∧
      (∃ path document, storage.IsFile roots uwb path document) ∧
      (∀ failure, ¬ storage.HasFault roots uwb failure) ∧
      storage.HasFault roots (uwb.withName "Gone") (.missing ⟨"hw/uwb/1.0/Gone.hal"⟩) := by
  have hreachable : registry.Reachable {storage} roots := .resolve .refl rfl resolves_uwb
  have hoccurs := hreachable.occurs_ofCall uwb
  have huwb : registry.slot? uwb =
      some (.failed (.unresolvedImport ⟨"hw/uwb/1.0/IUwb.hal"⟩ (uwb.withName "Gone"))) := rfl
  have hgone : registry.slot? (uwb.withName "Gone") =
      some (.failed (.missing ⟨"hw/uwb/1.0/Gone.hal"⟩)) := rfl
  obtain ⟨hfaults, hfile, _⟩ :=
    Moment.fault_decided_by_file hoccurs huwb Slot.noConfusion fun _ => by simp
  obtain ⟨hfaults', _, _⟩ :=
    Moment.fault_decided_by_file hoccurs hgone Slot.noConfusion fun _ => by simp
  refine ⟨hoccurs, hfile.2 (Or.inr ⟨_, _, Or.inl rfl⟩), ?_, (hfaults' _).2 ⟨rfl, rfl⟩⟩
  intro failure hfault
  obtain ⟨hfailed, hnone⟩ := (hfaults failure).1 hfault
  rw [← Slot.failed.inj hfailed] at hnone
  contradiction

end MissingImport

end HalPackages
