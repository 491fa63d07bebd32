import HalPackages.Path
import HalPackages.Source.Position

/-!
# Diagnostics

A diagnostic is a message for the user with the file it is about, a stable code
and further notes.  A log collects diagnostics in the order in which they come.
-/

namespace HalPackages

/-- How bad a diagnostic is. -/
inductive Severity where
  | error
  | warning
deriving DecidableEq

/-- The word that a severity is shown as. -/
def Severity.word : Severity → String
  | error => "error"
  | warning => "warning"

/-- A further message that belongs to a diagnostic. -/
structure DiagnosticNote where
  path : Option Path
  message : String
deriving DecidableEq

/-- A message for the user.  A problem of the configuration has no path. -/
@[ext]
structure Diagnostic where
  severity : Severity
  path : Option Path
  position : Option Position
  code : Option String
  message : String
  notes : List DiagnosticNote
deriving DecidableEq

namespace Diagnostic

/-- The file that a diagnostic is about and, if it is known, the place in the file. -/
def location (diagnostic : Diagnostic) : String :=
  match diagnostic.path, diagnostic.position with
  | none, _ => ""
  | some path, none => path.text ++ ": "
  | some path, some position => path.text ++ ":" ++ position.render ++ ": "

/-- A diagnostic as it is shown, with each note on a line of its own. -/
def render (diagnostic : Diagnostic) : String :=
  let code := match diagnostic.code with
    | some code => "[" ++ code ++ "]"
    | none => ""
  let notes := diagnostic.notes.map fun note => "\n  note: " ++ note.message
  diagnostic.severity.word ++ code ++ ": " ++ diagnostic.location ++ diagnostic.message ++
    String.join notes

end Diagnostic

/-- Diagnostics in the order in which they were added. -/
structure DiagnosticLog where
  entries : List Diagnostic
deriving DecidableEq

namespace DiagnosticLog

/-- The log without diagnostics. -/
def empty : DiagnosticLog := ⟨[]⟩

instance : EmptyCollection DiagnosticLog := ⟨empty⟩

/-- Add diagnostics after the others. -/
def append (log : DiagnosticLog) (diagnostics : List Diagnostic) : DiagnosticLog :=
  ⟨log.entries ++ diagnostics⟩

/-- Add one diagnostic after the others. -/
def push (log : DiagnosticLog) (diagnostic : Diagnostic) : DiagnosticLog :=
  log.append [diagnostic]

/-- The number of diagnostics. -/
def size (log : DiagnosticLog) : Nat :=
  log.entries.length

/-- The number of diagnostics of one severity. -/
def count (log : DiagnosticLog) (severity : Severity) : Nat :=
  log.entries.countP (·.severity = severity)

/-- Whether some diagnostic is an error. -/
def hasErrors (log : DiagnosticLog) : Bool :=
  log.entries.any (·.severity = .error)

/-- The diagnostics about a file, however its path is written. -/
def forPath (log : DiagnosticLog) (path : Path) : List Diagnostic :=
  log.entries.filter fun diagnostic =>
    match diagnostic.path with
    | some other => decide (other.Same path)
    | none => false

/-- Every diagnostic is either an error or a warning. -/
theorem count_error_add_count_warning (log : DiagnosticLog) :
    log.count .error + log.count .warning = log.size := by
  obtain ⟨entries⟩ := log
  simp only [count, size]
  induction entries with
  | nil => rfl
  | cons diagnostic entries ih =>
    cases h : diagnostic.severity <;> simp [h] <;> omega

end DiagnosticLog

end HalPackages
