import HalPackages.Diagnostic
import HalPackages.Registry
import HalPackages.Text.Quoted

/-!
# Reporting on a registry

Every failed file gives one diagnostic, in the order of the first requests.  A
missing file is only a warning, because a package need not have a file of types;
the caller knows which absences matter.
-/

namespace HalPackages

open Text

/-- The stable code for a kind of failure. -/
def ResolveFailure.code : ResolveFailure → String
  | missing .. => "E0001"
  | parse .. => "E0002"
  | packageMismatch .. => "E0003"
  | unexpectedInterface .. | interfaceMismatch .. | expectedInterface .. => "E0004"
  | unresolvedImport .. => "E0005"
  | circularImport .. => "E0006"
  | config .. => "E0007"

/-- How bad a failure is. -/
def ResolveFailure.severity : ResolveFailure → Severity
  | missing .. => .warning
  | _ => .error

namespace Registry

variable {Doc : Type}

/-- The recorded failure of the file that an import names, as a note. -/
def importNote? (registry : Registry Doc) (imported : QualifiedName) : Option DiagnosticNote :=
  (registry.failure? imported).map fun cause =>
    ⟨none, "'" ++ imported.render ++ "': " ++ cause.message⟩

/-- The diagnostic for a failed file.  A failure that blames an import says why that failed. -/
def diagnostic (registry : Registry Doc) (name : QualifiedName) (failure : ResolveFailure) :
    Diagnostic where
  severity := failure.severity
  path := failure.path?
  position := failure.position?
  code := some failure.code
  message := "cannot resolve '" ++ name.render ++ "': " ++ failure.message
  notes := (failure.imported?.bind registry.importNote?).toList

/-- The diagnostics for all failed files. -/
def diagnostics (registry : Registry Doc) : DiagnosticLog :=
  ⟨registry.failures.map fun (name, failure) => registry.diagnostic name failure⟩

/-- The roots, the number of requested files and the number of documents on one line. -/
def overview (registry : Registry Doc) (roots : PackageRoots) : String :=
  let entries := roots.entries.map fun root =>
    "PackageRoot \x7b prefix: " ++ quote root.package ++ ", path: " ++ quote root.path ++ " \x7d"
  "Coordinator \x7b roots: PackageRoots \x7b entries: [" ++
    ", ".intercalate entries ++ "] \x7d, requested: " ++
    toString registry.size ++ ", documents: " ++ toString registry.documents.length ++ " \x7d"

end Registry

end HalPackages
