import HalPackages.Proofs.Resolution.BlamedImports
import HalPackages.Proofs.Resolution.Documents
import HalPackages.Proofs.Resolution.Independence
import HalPackages.Proofs.Resolution.Verdicts

/-!
# What implicit imports do to the types of a package

Every other file of a package requests the types first, while it is itself being
resolved.  What the types need is then looked up in a registry that already has a
pending file, so a cycle through that file is seen from another side than in a
call for the types: the types may fail where they would not, or be resolved where
they would fail.  The imports that are written need not form a cycle for this.
Where the types do not lead back to the file, it makes no difference who asks for
them first.
-/

namespace HalPackages

open Relation

variable {Doc Declared : Type} [Document Doc Declared]

namespace Registry

variable {registry later : Registry Doc} {storage : Storage Doc} {roots : PackageRoots}
variable {name key : QualifiedName} {result : Except ConfigError (Option DocumentId)}
variable {allowed : QualifiedName → Prop}

theorem InRange.isResolved_iff (h : registry.InRange) :
    registry.IsResolved key ↔ ∃ entry, registry.record? key = some (.settled (.ok entry)) := by
  constructor
  · rintro ⟨id, hslot⟩
    obtain ⟨entry, hentry⟩ := exists_entry_of_index_lt (h key id hslot)
    exact ⟨entry, record?_of_resolved hslot hentry⟩
  · rintro ⟨entry, hrecord⟩
    rw [record?] at hrecord
    split at hrecord
    · contradiction
    · simp at hrecord
    · simp at hrecord
    · rename_i id hslot
      exact ⟨id, hslot⟩

/-- Between calls a requested file has a verdict. -/
theorem Consistent.exists_verdict (h : registry.Consistent roots []) {slot : Slot}
    (hslot : registry.slot? key = some slot) :
    ∃ verdict, registry.record? key = some (.settled verdict) := by
  cases slot with
  | resolving => exact absurd hslot (h.slot_ne_resolving key)
  | failed failure => exact ⟨_, record?_of_failed hslot⟩
  | resolved id =>
      obtain ⟨entry, hentry⟩ := exists_entry_of_index_lt (h.inRange key id hslot)
      exact ⟨_, record?_of_resolved hslot hentry⟩

/-- For files that do not include the one that is started, nothing has happened yet. -/
theorem InRange.alike_start (h : registry.InRange) (hkey : ¬ allowed key) :
    Alike allowed (registry.start key) registry where
  agree other hother := by
    rw [record?_start, if_neg]
    rintro rfl
    exact hkey hother
  inRange_left := h.start key
  inRange_right := h

/-- A call for a file that is not the types requests the types when the file is started, and what is
recorded after that is kept. -/
theorem Resolves.exists_request_types (hcall : registry.Resolves storage roots name result later)
    (h : registry.Consistent roots []) (hname : name.IsFullyQualified)
    (htypes : ¬ name.fileIdentity.IsTypes) (hslot : registry.slot? name.fileIdentity = none) :
    ∃ depth answer middle, storage.requestWithin roots depth name.typesOfPackage
        (registry.start name.fileIdentity) = some (answer, middle) ∧
      middle.GrowsOn storage later := by
  obtain ⟨depth, outcome, _, hrequest⟩ := (resolves_iff_of_isFullyQualified hname).1 hcall
  obtain ⟨below, loaded, last, _, hrun, _⟩ := Storage.exists_run_of_requestWithin hslot hrequest
  obtain ⟨answer, middle, hanswer⟩ : ∃ answer middle,
      storage.requestWithin roots below name.typesOfPackage
        (registry.start name.fileIdentity) = some (answer, middle) := by
    cases hanswer : storage.requestWithin roots below name.typesOfPackage
        (registry.start name.fileIdentity) with
    | some result => exact ⟨result.1, result.2, rfl⟩
    | none =>
        rw [Storage.load, if_neg htypes, Plan.run, show name.fileIdentity.typesOfPackage =
          name.typesOfPackage from rfl, hanswer] at hrun
        contradiction
  -- The moment of this answer lies on the run of the call.
  have hbegin : Leads storage roots ⟨.request name.fileIdentity, [], registry⟩
      ⟨.request name.typesOfPackage,
        [⟨name.fileIdentity, fun _ => storage.loadFile roots name.fileIdentity⟩],
        registry.start name.fileIdentity⟩ := by
    refine .tail (.single (.start hslot)) ?_
    rw [Storage.load, if_neg htypes]
    exact .ask
  have hfirst : Leads storage roots _ _ :=
    hbegin.trans (runWithin_request hanswer (Nat.le_refl _)).leads
  have hwhole : RunWithin storage roots depth ⟨.request name.fileIdentity, [], registry⟩
      ⟨.answer outcome, [], later⟩ :=
    runWithin_request hrequest (Nat.le_of_eq (Nat.zero_add depth))
  have hrest := (hwhole.of_leads (not_step_answer _ _) hfirst).leads
  have hsound : (Moment.ofCall registry name).Sound storage roots := Moment.sound_ofCall h name
  rw [Moment.ofCall_of_isFullyQualified registry hname] at hsound
  exact ⟨below, answer, middle, hanswer, hrest.growsOn (Leads.sound hfirst hsound)⟩

/-- On an empty registry, a call for a file to which the types of its package do not lead back
leaves the same record of these types as a call for the types. -/
theorem types_recorded_alike (hname : name.IsFullyQualified) (htypes : ¬ name.fileIdentity.IsTypes)
    (hback : ¬ ReflTransGen (storage.DependsOn roots) name.typesOfPackage name.fileIdentity)
    (hcall : (∅ : Registry Doc).Resolves storage roots name result later) :
    ∃ result' later', (∅ : Registry Doc).Resolves storage roots name.typesOfPackage result' later' ∧
      later.record? name.typesOfPackage = later'.record? name.typesOfPackage ∧
        (later.IsResolved name.typesOfPackage ↔ later'.IsResolved name.typesOfPackage) := by
  have hempty : (∅ : Registry Doc).Consistent roots [] := consistent_empty
  have hqualified : name.typesOfPackage.IsFullyQualified :=
    ⟨hname.1, hname.2.1, show QualifiedName.typesName ≠ "" by decide⟩
  have hfile := name.fileIdentity_typesOfPackage
  obtain ⟨depth, answer, middle, hanswer, hgrows⟩ :=
    hcall.exists_request_types hempty hname htypes (slot?_empty _)
  have hlocal : (storage.requestWithin roots depth).IsLocal
      (storage.Needs roots name.typesOfPackage) :=
    Storage.isLocal_requestWithin (fun _ _ => ReflTransGen.tail) depth
  have halike : Alike (storage.Needs roots name.typesOfPackage)
      ((∅ : Registry Doc).start name.fileIdentity) ∅ := by
    apply hempty.inRange.alike_start
    rw [Storage.Needs, hfile]
    exact hback
  have hneeds : storage.Needs roots name.typesOfPackage name.typesOfPackage := by
    rw [Storage.Needs, hfile]
  obtain ⟨answer', later', hanswer', _, hchange⟩ := hlocal hneeds halike hanswer
  have hcall' : (∅ : Registry Doc).Resolves storage roots name.typesOfPackage
      (answer'.map Except.toOption) later' := by
    refine (resolves_iff_of_isFullyQualified hqualified).2 ⟨depth, answer', rfl, ?_⟩
    rw [hfile]
    exact hanswer'
  have hlater := hcall.consistent hempty
  have hlater' := hcall'.consistent hempty
  obtain ⟨slot, hslot, _⟩ := exists_slot_of_requestWithin hanswer'
  obtain ⟨verdict, hverdict⟩ := hlater'.exists_verdict hslot
  have hrecord : later.record? name.typesOfPackage = some (.settled verdict) := by
    apply hgrows.record?_eq
    rw [hchange.alike.agree _ hneeds]
    exact hverdict
  refine ⟨_, later', hcall', hrecord.trans hverdict.symm, ?_⟩
  rw [hlater.inRange.isResolved_iff, hlater'.inRange.isResolved_iff, hrecord, hverdict]

end Registry

namespace TwoPackages

open MutualImports (roots)

theorem types_recorded_alike_ir :
    ir.IsFullyQualified ∧ ¬ ir.fileIdentity.IsTypes ∧
      ¬ ReflTransGen (storage.DependsOn roots) ir.typesOfPackage ir.fileIdentity ∧
      ∃ result later result' later',
        (∅ : Registry Summary).Resolves storage roots ir result later ∧
          (∅ : Registry Summary).Resolves storage roots ir.typesOfPackage result' later' ∧
            later.IsResolved ir.typesOfPackage ∧ later'.IsResolved ir.typesOfPackage := by
  have hname : ir.IsFullyQualified := by decide
  have htypes : ¬ ir.fileIdentity.IsTypes := by decide
  have hback :
      ¬ ReflTransGen (storage.DependsOn roots) ir.typesOfPackage ir.fileIdentity := by
    intro hleads
    rcases reflTransGen_iff_eq_or_transGen.1 hleads with heq | htrans
    · exact absurd heq (by decide)
    · have hpackage : ir.typesOfPackage.package = ir.package := rfl
      exact absurd (rank_lt_of_transGen hpackage htrans).1 (by decide)
  have hcall : (∅ : Registry Summary).Resolves storage roots ir (.ok (some ⟨1⟩)) _ := ⟨3, rfl⟩
  obtain ⟨result', later', hcall', _, hiff⟩ :=
    Registry.types_recorded_alike hname htypes hback hcall
  exact ⟨hname, htypes, hback, _, _, result', later', hcall, hcall', ⟨⟨0⟩, rfl⟩,
    hiff.1 ⟨⟨0⟩, rfl⟩⟩

end TwoPackages

/-! ## Types that lead back -/

namespace TypesLeadBack

open MutualImports (roots)

/-- The types of the first package need those of the second, which import an interface of the first.
The types of the third package import two interfaces one of which imports the other, and lead
back to a third interface through the types of the fourth package. -/
def files : List (Path × Summary) := [
  (⟨"hw/a/1.0/types.hal"⟩,
    ⟨⟨"hw.a", "@1.0", ""⟩, none, [⟨"hw.b", "@1.0", "Level"⟩], []⟩),
  (⟨"hw/a/1.0/IA.hal"⟩, ⟨⟨"hw.a", "@1.0", ""⟩, some "IA", [], ["IA"]⟩),
  (⟨"hw/b/1.0/types.hal"⟩,
    ⟨⟨"hw.b", "@1.0", ""⟩, none, [⟨"hw.a", "@1.0", "IA"⟩], ["Level"]⟩),
  (⟨"hw/c/1.0/types.hal"⟩,
    ⟨⟨"hw.c", "@1.0", ""⟩, none, [⟨"hw.d", "@1.0", "ID"⟩, ⟨"", "", "IBase"⟩], []⟩),
  (⟨"hw/c/1.0/IBase.hal"⟩,
    ⟨⟨"hw.c", "@1.0", ""⟩, some "IBase", [⟨"hw.d", "@1.0", "ID"⟩], ["IBase"]⟩),
  (⟨"hw/c/1.0/IC.hal"⟩,
    ⟨⟨"hw.c", "@1.0", ""⟩, some "IC", [⟨"", "", "IBase"⟩], ["IC"]⟩),
  (⟨"hw/d/1.0/types.hal"⟩,
    ⟨⟨"hw.d", "@1.0", ""⟩, none, [⟨"hw.c", "@1.0", "IC"⟩], []⟩),
  (⟨"hw/d/1.0/ID.hal"⟩, ⟨⟨"hw.d", "@1.0", ""⟩, some "ID", [], ["ID"]⟩)]

def table : SummaryTable :=
  ⟨files.map fun (path, summary) => (path, .summary summary)⟩

theorem exists_file_of_parse {path : Path} {summary : Summary}
    (h : table.parse path = .ok summary) : ∃ other, (other, summary) ∈ files := by
  obtain ⟨other, hentry⟩ := SummaryTable.exists_entry_of_parse h
  obtain ⟨⟨other', summary'⟩, hfile, heq⟩ := List.mem_map.1 hentry
  cases heq
  exact ⟨other, hfile⟩

def sources : Sources Summary := table.sources (.ofFiles [] [])

def ia : QualifiedName := ⟨"hw.a", "@1.0", "IA"⟩

def ic : QualifiedName := ⟨"hw.c", "@1.0", "IC"⟩

/-- What a call for a name leaves. -/
def after (name : QualifiedName) : Registry Summary :=
  ((∅ : Registry Summary).resolve sources roots name).2

/-- Files come after the files that they import as they are written. -/
def rank (key : QualifiedName) : Nat :=
  if key.IsTypes then 3 else if key.localName = "IC" then 2
  else if key.localName = "IBase" then 1 else 0

theorem rank_imports : ∀ file ∈ files,
    ∀ imported ∈ Document.importsFor file.2 (Document.identity file.2),
      imported.localName ≠ "" ∧ rank imported.fileIdentity < rank (Document.identity file.2) := by
  decide

theorem rank_lt_of_writtenImport {key other : QualifiedName}
    (h : sources.toStorage.WrittenImport roots key other) : rank other < rank key := by
  cases h with
  | file hfile himported =>
      obtain ⟨_, hparse, hdeclares⟩ := hfile
      obtain ⟨path, hmem⟩ := exists_file_of_parse hparse
      rw [← hdeclares.identity_eq] at himported ⊢
      exact (rank_imports _ hmem _ himported).2
  | member hfile himported hname =>
      obtain ⟨_, hparse, hdeclares⟩ := hfile
      obtain ⟨path, hmem⟩ := exists_file_of_parse hparse
      rw [← hdeclares.identity_eq] at himported
      exact absurd hname (rank_imports _ hmem _ himported).1

theorem rank_lt_of_transGen {key other : QualifiedName}
    (h : TransGen (sources.toStorage.WrittenImport roots) key other) : rank other < rank key := by
  induction h with
  | single hedge => exact rank_lt_of_writtenImport hedge
  | tail _ hedge ih => exact (rank_lt_of_writtenImport hedge).trans ih

/-- The imports that are written have no cycle.  Still one of the types files fails only after a
call for another file, and another one fails only if it is asked for itself. -/
theorem types_recorded_differently :
    (∀ key, ¬ TransGen (sources.toStorage.WrittenImport roots) key key) ∧
      (ia.IsFullyQualified ∧ ¬ ia.IsTypes ∧
        ¬ (after ia).IsResolved ia.typesOfPackage ∧
          (after ia.typesOfPackage).IsResolved ia.typesOfPackage) ∧
      ic.IsFullyQualified ∧ ¬ ic.IsTypes ∧
        (after ic).IsResolved ic.typesOfPackage ∧
          ¬ (after ic.typesOfPackage).IsResolved ic.typesOfPackage := by
  refine ⟨?_, ⟨by decide, by decide, ?_, ⟨2⟩, by decide +kernel⟩, by decide, by decide,
    ⟨⟨2⟩, by decide +kernel⟩, ?_⟩
  · intro key hcycle
    exact Nat.lt_irrefl _ (rank_lt_of_transGen hcycle)
  · exact Registry.HasFailed.not_isResolved
      ⟨.unresolvedImport ⟨"hw/a/1.0/types.hal"⟩ ⟨"hw.b", "@1.0", "Level"⟩, by decide +kernel⟩
  · exact Registry.HasFailed.not_isResolved
      ⟨.circularImport ⟨"hw/c/1.0/types.hal"⟩ ⟨"hw.c", "@1.0", "IBase"⟩, by decide +kernel⟩

end TypesLeadBack

end HalPackages
