import HalPackages.Proofs.Files.Listings
import HalPackages.Proofs.Files.RootLookups
import HalPackages.Proofs.Names.NameTokens
import HalPackages.Proofs.Names.VersionNumbers
import HalPackages.Proofs.Names.WrittenForm
import HalPackages.Proofs.Resolution.Cycles
import HalPackages.Proofs.Resolution.Documents
import HalPackages.Proofs.Resolution.FileFaults
import HalPackages.Proofs.Resolution.ForeignDocuments
import HalPackages.Proofs.Resolution.Histories
import HalPackages.Proofs.Resolution.ImplicitTypes
import HalPackages.Proofs.Resolution.ImportNotes
import HalPackages.Proofs.Resolution.ImportOrder
import HalPackages.Proofs.Resolution.Independence
import HalPackages.Proofs.Resolution.Misconfiguration
import HalPackages.Proofs.Resolution.ParsedOnce
import HalPackages.Proofs.Resolution.Repetition
import HalPackages.Proofs.Resolution.Termination
import HalPackages.Proofs.Resolution.TypeLookups
import HalPackages.Proofs.Resolution.Verdicts
import HalPackages.Proofs.Sources.DerivedFiles
import HalPackages.Proofs.Sources.Gaps
import HalPackages.Proofs.Sources.GroupEnds
import HalPackages.Proofs.Sources.NestedBrackets
import HalPackages.Proofs.Sources.Offsets
import HalPackages.Proofs.Sources.ParsedFiles
import HalPackages.Proofs.Sources.Positions
import HalPackages.Proofs.Sources.ScopeLookups
import HalPackages.Registry.Report
import HalPackages.Resolve
import HalPackages.Summary
