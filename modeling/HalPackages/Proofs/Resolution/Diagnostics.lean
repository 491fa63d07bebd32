import HalPackages.Proofs.Resolution.BlamedImports
import HalPackages.Registry.Report

/-!
# What a diagnostic says

A front end sorts diagnostics by their codes, opens the file and the place that
they give, and stops at errors.  What it finds there is fixed for each kind of
failure, whatever the registry holds.  The message adds the file that was asked
for, and the notes add what is recorded of the import that is blamed.

All of this is said here without the function that builds the diagnostics, which
is then shown to give the one diagnostic that fits.
-/

namespace HalPackages

variable {Doc : Type}

/-! ## What is fixed for each kind of failure -/

namespace ResolveFailure

variable {failure : ResolveFailure} {severity : Severity} {code : String} {path : Option Path}
variable {position : Option Position} {imported : QualifiedName}

/-- How bad a failure is, the code of its kind, the file that it is about and the place there. -/
inductive ShownAs :
    ResolveFailure → Severity → String → Option Path → Option Position → Prop where
  | missing (path : Path) : ShownAs (.missing path) .warning "E0001" (some path) none
  | vanished (path : Path) : ShownAs (.parse (.missing path)) .error "E0002" (some path) none
  | unreadable (path : Path) (reason : String) :
      ShownAs (.parse (.unreadable path reason)) .error "E0002" (some path) none
  | malformed (path : Path) (position : Position) (message : String) :
      ShownAs (.parse (.malformed path position message)) .error "E0002" (some path)
        (some position)
  | packageMismatch (path : Path) (expected found : QualifiedName) :
      ShownAs (.packageMismatch path expected found) .error "E0003" (some path) none
  | unexpectedInterface (path : Path) (interface : String) :
      ShownAs (.unexpectedInterface path interface) .error "E0004" (some path) none
  | interfaceMismatch (path : Path) (expected found : String) :
      ShownAs (.interfaceMismatch path expected found) .error "E0004" (some path) none
  | expectedInterface (path : Path) (expected : String) :
      ShownAs (.expectedInterface path expected) .error "E0004" (some path) none
  | unresolvedImport (path : Path) (imported : QualifiedName) :
      ShownAs (.unresolvedImport path imported) .error "E0005" (some path) none
  | circularImport (path : Path) (imported : QualifiedName) :
      ShownAs (.circularImport path imported) .error "E0006" (some path) none
  | config (cause : ConfigError) : ShownAs (.config cause) .error "E0007" none none

/-- A failure blames an import that gave nothing or led back. -/
inductive Blames : ResolveFailure → QualifiedName → Prop where
  | unresolved (path : Path) (imported : QualifiedName) :
      Blames (.unresolvedImport path imported) imported
  | circular (path : Path) (imported : QualifiedName) :
      Blames (.circularImport path imported) imported

/-- What is shown of a failure is what it carries. -/
theorem shownAs_iff :
    failure.ShownAs severity code path position ↔
      severity = failure.severity ∧ code = failure.code ∧ path = failure.path? ∧
        position = failure.position? := by
  constructor
  · intro h
    cases h <;> exact ⟨rfl, rfl, rfl, rfl⟩
  · rintro ⟨rfl, rfl, rfl, rfl⟩
    cases failure with
    | missing path => exact .missing path
    | parse cause =>
        cases cause with
        | missing path => exact .vanished path
        | unreadable path reason => exact .unreadable path reason
        | malformed path position message => exact .malformed path position message
    | packageMismatch path expected found => exact .packageMismatch path expected found
    | unexpectedInterface path interface => exact .unexpectedInterface path interface
    | interfaceMismatch path expected found => exact .interfaceMismatch path expected found
    | expectedInterface path expected => exact .expectedInterface path expected
    | unresolvedImport path imported => exact .unresolvedImport path imported
    | circularImport path imported => exact .circularImport path imported
    | config cause => exact .config cause

theorem blames_iff : failure.Blames imported ↔ failure.imported? = some imported := by
  constructor
  · intro h
    cases h <;> rfl
  · intro h
    cases failure with
    | unresolvedImport path other =>
        obtain rfl : other = imported := Option.some.inj h
        exact .unresolved path other
    | circularImport path other =>
        obtain rfl : other = imported := Option.some.inj h
        exact .circular path other
    | _ => contradiction

end ResolveFailure

namespace Registry

variable {registry : Registry Doc} {key name : QualifiedName}
variable {failure cause : ResolveFailure} {diagnostic other : Diagnostic}

/-! ## What a diagnostic tells of a failed file -/

/-- What a diagnostic has to say of a failed file.  An import that is blamed has a note if a failure
is recorded of the file that it names, and there are no other notes. -/
structure Reports (registry : Registry Doc) (key : QualifiedName) (failure : ResolveFailure)
    (diagnostic : Diagnostic) : Prop where
  message : diagnostic.message = "cannot resolve '" ++ key.render ++ "': " ++ failure.message
  shown : ∃ code, diagnostic.code = some code ∧
    failure.ShownAs diagnostic.severity code diagnostic.path diagnostic.position
  note : ∀ imported cause, failure.Blames imported →
    registry.slot? imported.fileIdentity = some (.failed cause) →
      diagnostic.notes = [⟨none, "'" ++ imported.render ++ "': " ++ cause.message⟩]
  no_note : (∀ imported, failure.Blames imported → ¬ registry.HasFailed imported.fileIdentity) →
    diagnostic.notes = []

/-- A diagnostic is about a failed file. -/
def Describes (registry : Registry Doc) (key : QualifiedName) (diagnostic : Diagnostic) : Prop :=
  ∃ failure, registry.slot? key = some (.failed failure) ∧ registry.Reports key failure diagnostic

/-- A failure is looked up under the file that a name stands for. -/
theorem failure?_eq_some_iff :
    registry.failure? name = some cause ↔
      registry.slot? name.fileIdentity = some (.failed cause) := by
  unfold failure?
  split
  case h_1 hslot => rw [hslot, Option.some.injEq, Option.some.injEq, Slot.failed.injEq]
  case h_2 hother => exact ⟨fun h => by contradiction, fun h => absurd h (hother cause)⟩

theorem failure?_eq_none_iff :
    registry.failure? name = none ↔ ¬ registry.HasFailed name.fileIdentity := by
  rw [Option.eq_none_iff_forall_ne_some, HasFailed, not_exists]
  exact forall_congr' fun _ => not_congr failure?_eq_some_iff

/-- The diagnostic that is built for a failed file tells all of it. -/
theorem reports_diagnostic (registry : Registry Doc) (key : QualifiedName)
    (failure : ResolveFailure) :
    registry.Reports key failure (registry.diagnostic key failure) where
  message := rfl
  shown := ⟨failure.code, rfl, ResolveFailure.shownAs_iff.2 ⟨rfl, rfl, rfl, rfl⟩⟩
  note := by
    intro imported cause hblames hslot
    rw [diagnostic, ResolveFailure.blames_iff.1 hblames, Option.bind_some, importNote?,
      failure?_eq_some_iff.2 hslot]
    rfl
  no_note := by
    intro hnone
    cases himported : failure.imported? with
    | none =>
        rw [diagnostic, himported]
        rfl
    | some imported =>
        have hunfailed := hnone imported (ResolveFailure.blames_iff.2 himported)
        rw [diagnostic, himported, Option.bind_some, importNote?,
          failure?_eq_none_iff.2 hunfailed]
        rfl

/-- Nothing of a diagnostic is left open. -/
theorem Reports.unique (h : registry.Reports key failure diagnostic)
    (hother : registry.Reports key failure other) : diagnostic = other := by
  obtain ⟨code, hcode, hshown⟩ := h.shown
  obtain ⟨otherCode, hotherCode, hotherShown⟩ := hother.shown
  obtain ⟨hseverity, rfl, hpath, hposition⟩ := ResolveFailure.shownAs_iff.1 hshown
  obtain ⟨hotherSeverity, rfl, hotherPath, hotherPosition⟩ :=
    ResolveFailure.shownAs_iff.1 hotherShown
  have hnotes : diagnostic.notes = other.notes := by
    by_cases hcause : ∃ imported cause, failure.Blames imported ∧
        registry.slot? imported.fileIdentity = some (.failed cause)
    · obtain ⟨imported, cause, hblames, hslot⟩ := hcause
      rw [h.note imported cause hblames hslot, hother.note imported cause hblames hslot]
    · have hnone : ∀ imported, failure.Blames imported →
          ¬ registry.HasFailed imported.fileIdentity :=
        fun imported hblames ⟨cause, hslot⟩ => hcause ⟨imported, cause, hblames, hslot⟩
      rw [h.no_note hnone, hother.no_note hnone]
  ext1
  · rw [hseverity, hotherSeverity]
  · rw [hpath, hotherPath]
  · rw [hposition, hotherPosition]
  · rw [hcode, hotherCode]
  · rw [h.message, hother.message]
  · exact hnotes

/-- The diagnostics that describe a file are those that are built for it. -/
theorem describes_iff :
    registry.Describes key diagnostic ↔
      ∃ failure, registry.slot? key = some (.failed failure) ∧
        diagnostic = registry.diagnostic key failure := by
  constructor
  · rintro ⟨failure, hslot, hreports⟩
    exact ⟨failure, hslot, hreports.unique (registry.reports_diagnostic key failure)⟩
  · rintro ⟨failure, hslot, rfl⟩
    exact ⟨failure, hslot, registry.reports_diagnostic key failure⟩

end Registry

end HalPackages
