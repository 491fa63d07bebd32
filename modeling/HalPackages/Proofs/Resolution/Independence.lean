import HalPackages.Proofs.Resolution.Records

/-!
# Independent calls commute

A request reads and writes only the records of files that the requested file
leads to.  On two registries that agree on these files it does the same, except
for the numbers of documents; nothing is known of the other files, and they are
left as they are.  So two calls that lead to no file in common can be exchanged.
-/

namespace HalPackages

open Relation

variable {Doc Declared : Type} [Document Doc Declared]

namespace Registry

variable {allowed : QualifiedName → Prop} {before after last : Registry Doc}
variable {paths paths' : List Path} {key : QualifiedName}

/-! ## Changes of some files -/

/-- Only records of allowed files change, and some paths are parsed. -/
structure ChangesOnly (allowed : QualifiedName → Prop) (paths : List Path)
    (before after : Registry Doc) : Prop where
  records : ∀ key, ¬ allowed key → after.record? key = before.record? key
  parsed : after.parsed = before.parsed ++ paths

theorem ChangesOnly.refl (registry : Registry Doc) : ChangesOnly allowed [] registry registry where
  records _ _ := rfl
  parsed := (List.append_nil _).symm

theorem ChangesOnly.trans (h : ChangesOnly allowed paths before after)
    (h' : ChangesOnly allowed paths' after last) :
    ChangesOnly allowed (paths ++ paths') before last where
  records key hkey := (h'.records key hkey).trans (h.records key hkey)
  parsed := by rw [h'.parsed, h.parsed, List.append_assoc]

/-- A change of the record of one allowed file. -/
theorem changesOnly_of_ne (hkey : allowed key)
    (hrecords : ∀ other, key ≠ other → after.record? other = before.record? other)
    (hparsed : after.parsed = before.parsed) : ChangesOnly allowed [] before after where
  records other hother := by
    apply hrecords
    rintro rfl
    exact hother hkey
  parsed := by rw [hparsed, List.append_nil]

theorem changesOnly_start (registry : Registry Doc) (hkey : allowed key) :
    ChangesOnly allowed [] registry (registry.start key) := by
  refine changesOnly_of_ne hkey ?_ rfl
  intro other hne
  rw [record?_start, if_neg hne]

theorem changesOnly_settle (h : before.InRange) (hkey : allowed key)
    (result : Except ConfigError (Loaded Doc)) :
    ChangesOnly allowed [] before (before.settle key result).2 := by
  apply changesOnly_of_ne hkey (fun _ hne => h.record?_settle_of_ne hne result)
  rcases result with cause | failure | ⟨path, document⟩ <;> rfl

/-! ## Registries that agree on some files -/

variable {left right left' right' left'' right'' : Registry Doc}

/-- Two registries, in both of which every resolved file has its document, have the same records of
the allowed files. -/
structure Alike (allowed : QualifiedName → Prop) (left right : Registry Doc) : Prop where
  agree : ∀ key, allowed key → left.record? key = right.record? key
  inRange_left : left.InRange
  inRange_right : right.InRange

/-- Registries that are alike change in the same way and stay alike. -/
structure ChangeAlike (allowed : QualifiedName → Prop) (left right left' right' : Registry Doc) :
    Prop where
  alike : Alike allowed left' right'
  changes : ∃ paths, ChangesOnly allowed paths left left' ∧ ChangesOnly allowed paths right right'

theorem ChangeAlike.trans (h : ChangeAlike allowed left right left' right')
    (h' : ChangeAlike allowed left' right' left'' right'') :
    ChangeAlike allowed left right left'' right'' where
  alike := h'.alike
  changes := by
    obtain ⟨paths, hleft, hright⟩ := h.changes
    obtain ⟨paths', hleft', hright'⟩ := h'.changes
    exact ⟨paths ++ paths', hleft.trans hleft', hright.trans hright'⟩

namespace Alike

theorem refl (h : left.InRange) : Alike allowed left left :=
  ⟨fun _ _ => rfl, h, h⟩

theorem symm (h : Alike allowed left right) : Alike allowed right left :=
  ⟨fun key hkey => (h.agree key hkey).symm, h.inRange_right, h.inRange_left⟩

theorem changeAlike (h : Alike allowed left right) : ChangeAlike allowed left right left right :=
  ⟨h, [], .refl left, .refl right⟩

theorem start (h : Alike allowed left right) (hkey : allowed key) :
    ChangeAlike allowed left right (left.start key) (right.start key) where
  alike := by
    refine ⟨?_, h.inRange_left.start key, h.inRange_right.start key⟩
    intro other hother
    rw [record?_start, record?_start, h.agree other hother]
  changes := ⟨[], changesOnly_start left hkey, changesOnly_start right hkey⟩

theorem notePath (h : Alike allowed left right) (path : Path) :
    ChangeAlike allowed left right (left.notePath path) (right.notePath path) where
  alike := ⟨h.agree, h.inRange_left, h.inRange_right⟩
  changes := ⟨[path], ⟨fun _ _ => rfl, rfl⟩, ⟨fun _ _ => rfl, rfl⟩⟩

theorem settle (h : Alike allowed left right) (hkey : allowed key)
    (result : Except ConfigError (Loaded Doc)) :
    ChangeAlike allowed left right (left.settle key result).2 (right.settle key result).2 where
  alike := by
    refine ⟨?_, h.inRange_left.settle key result, h.inRange_right.settle key result⟩
    intro other hother
    by_cases hne : key = other
    · subst hne
      rw [record?_settle_self, record?_settle_self]
    · rw [h.inRange_left.record?_settle_of_ne hne, h.inRange_right.record?_settle_of_ne hne,
        h.agree other hother]
  changes := ⟨[], changesOnly_settle h.inRange_left hkey result,
    changesOnly_settle h.inRange_right hkey result⟩

/-- Requests for a file with the same record get the same kind of answer. -/
theorem exists_slot (h : Alike allowed left right) (hkey : allowed key) {slot : Slot}
    (hslot : left.slot? key = some slot) :
    ∃ slot', right.slot? key = some slot' ∧
      slot'.answer.map Outcome.kind = slot.answer.map Outcome.kind := by
  obtain ⟨record, hrecord⟩ := h.inRange_left.exists_record hslot
  have hrecord' : right.record? key = some record := (h.agree key hkey).symm.trans hrecord
  cases hslot' : right.slot? key with
  | none =>
      rw [record?_of_slot_eq_none hslot'] at hrecord'
      contradiction
  | some slot' =>
      refine ⟨slot', rfl, ?_⟩
      rw [kind_answer_of_record? hrecord hslot, kind_answer_of_record? hrecord' hslot']

theorem slot?_eq_none (h : Alike allowed left right) (hkey : allowed key)
    (hslot : left.slot? key = none) : right.slot? key = none := by
  apply h.inRange_right.slot?_eq_none
  rw [← h.agree key hkey]
  exact record?_of_slot_eq_none hslot

end Alike

/-- The outcome of settling a file has the same kind on all registries. -/
theorem kind_settle (left right : Registry Doc) (key : QualifiedName)
    (result : Except ConfigError (Loaded Doc)) :
    (right.settle key result).1.map Outcome.kind = (left.settle key result).1.map Outcome.kind := by
  rcases result with cause | failure | ⟨path, document⟩ <;> rfl

end Registry

/-! ## Requests on registries that are alike -/

open Registry (Alike ChangeAlike ChangesOnly)

/-- On registries that are alike, requests for allowed files are answered alike. -/
def Requester.IsLocal (allowed : QualifiedName → Prop) (request : Requester Doc) : Prop :=
  ∀ {key : QualifiedName} {left right left' : Registry Doc} {answer : Except ConfigError Outcome},
    allowed key → Alike allowed left right → request key left = some (answer, left') →
      ∃ answer' right', request key right = some (answer', right') ∧
        answer'.map Outcome.kind = answer.map Outcome.kind ∧
          ChangeAlike allowed left right left' right'

/-- A plan for allowed files comes to the same on registries that are alike. -/
theorem Plan.Confined.run_eq {α : Type} {allowed : QualifiedName → Prop} {request : Requester Doc}
    {plan : Plan α} (hplan : plan.Confined allowed) (hrequest : request.IsLocal allowed)
    {left right left' : Registry Doc} {result : Except ConfigError α}
    (halike : Alike allowed left right) (hrun : plan.run request left = some (result, left')) :
    ∃ right', plan.run request right = some (result, right') ∧
      ChangeAlike allowed left right left' right' := by
  induction plan generalizing left right with
  | done | abort =>
      rw [run, Option.some.injEq, Prod.mk.injEq] at hrun
      obtain ⟨rfl, rfl⟩ := hrun
      exact ⟨right, rfl, halike.changeAlike⟩
  | parsing path next ih =>
      rw [run] at hrun
      have hnote := halike.notePath path
      obtain ⟨right', hright', hchange⟩ := ih hplan hnote.alike hrun
      exact ⟨right', hright', hnote.trans hchange⟩
  | ask key next ih =>
      obtain ⟨hkey, hkind, hnext⟩ := hplan
      rw [run] at hrun
      split at hrun
      · contradiction
      · rename_i cause middle hanswer
        rw [Option.some.injEq, Prod.mk.injEq] at hrun
        obtain ⟨rfl, rfl⟩ := hrun
        obtain ⟨answer', right', hanswer', hsame, hchange⟩ := hrequest hkey halike hanswer
        cases answer' with
        | ok outcome => contradiction
        | error cause' =>
            obtain rfl := Except.error.inj hsame
            exact ⟨right', by simp only [run, hanswer'], hchange⟩
      · rename_i outcome middle hanswer
        obtain ⟨answer', middle', hanswer', hsame, hchange⟩ := hrequest hkey halike hanswer
        cases answer' with
        | error cause => contradiction
        | ok outcome' =>
            -- The documents may have different numbers, and the plan goes on in the same way.
            rw [← hkind outcome' outcome (Except.ok.inj hsame)] at hrun
            obtain ⟨right', hright', hrest⟩ := ih outcome' (hnext outcome') hchange.alike hrun
            exact ⟨right', by simp only [run, hanswer', hright'], hchange.trans hrest⟩

namespace Storage

variable {storage : Storage Doc} {roots : PackageRoots} {allowed : QualifiedName → Prop}

/-- A request does the same on two registries that agree on all files to which the requested file
leads. -/
theorem isLocal_requestWithin
    (hclosed : ∀ key other, allowed key → storage.DependsOn roots key other → allowed other)
    (depth : Nat) : (storage.requestWithin roots depth).IsLocal allowed := by
  induction depth using Nat.strongRecOn with
  | _ depth ih =>
      intro key left right left' answer hkey halike hanswer
      cases hslot : left.slot? key with
      | some slot =>
          rw [requestWithin_of_slot hslot, Option.some.injEq, Prod.mk.injEq] at hanswer
          obtain ⟨rfl, rfl⟩ := hanswer
          obtain ⟨slot', hslot', hsame⟩ := halike.exists_slot hkey hslot
          exact ⟨slot'.answer, right, requestWithin_of_slot hslot' depth, hsame,
            halike.changeAlike⟩
      | none =>
          have hslot' := halike.slot?_eq_none hkey hslot
          obtain ⟨below, result, middle, rfl, hrun, hsettle⟩ :=
            exists_run_of_requestWithin hslot hanswer
          have hstart := halike.start hkey
          have hplan : (storage.load roots key).Confined allowed :=
            (confined_load storage roots key).mono fun other => hclosed key other hkey
          obtain ⟨middle', hrun', hchange⟩ :=
            hplan.run_eq (ih below (Nat.lt_succ_self below)) hstart.alike hrun
          have hsettled := hchange.alike.settle hkey result
          refine ⟨(middle'.settle key result).1, (middle'.settle key result).2, ?_, ?_, ?_⟩
          · rw [requestWithin_succ_of_slot_eq_none hslot', hrun', Option.map_some]
          · rw [Registry.kind_settle middle middle', hsettle]
          · rw [hsettle] at hsettled
            exact (hstart.trans hchange).trans hsettled

/-- The files that a request for a name can lead to. -/
def Needs (storage : Storage Doc) (roots : PackageRoots) (name key : QualifiedName) : Prop :=
  ReflTransGen (storage.DependsOn roots) name.fileIdentity key

end Storage

/-! ## Calls on registries that are alike -/

/-- Whether a call gives a document is told by the kind of the outcome. -/
theorem Outcome.isSome_toOption (outcome : Except ConfigError Outcome) :
    (outcome.map Except.toOption).map Option.isSome =
      (outcome.map Outcome.kind).map Except.isOk := by
  rcases outcome with cause | reason | id <;> rfl

namespace Registry

variable {storage : Storage Doc} {roots : PackageRoots} {left right left' registry : Registry Doc}
variable {name : QualifiedName} {result : Except ConfigError (Option DocumentId)}

/-- A call does the same on two registries that agree on all files to which it can lead. -/
theorem Resolves.alike (hcall : left.Resolves storage roots name result left')
    (halike : Alike (storage.Needs roots name) left right) :
    ∃ result' right', right.Resolves storage roots name result' right' ∧
      result'.map Option.isSome = result.map Option.isSome ∧
        ChangeAlike (storage.Needs roots name) left right left' right' := by
  by_cases hname : name.IsFullyQualified
  · obtain ⟨depth, outcome, rfl, hrequest⟩ := (resolves_iff_of_isFullyQualified hname).1 hcall
    have hlocal : (storage.requestWithin roots depth).IsLocal (storage.Needs roots name) :=
      Storage.isLocal_requestWithin (fun _ _ => ReflTransGen.tail) depth
    obtain ⟨outcome', right', hrequest', hkind, hchange⟩ :=
      hlocal ReflTransGen.refl halike hrequest
    refine ⟨outcome'.map Except.toOption, right', ?_, ?_, hchange⟩
    · exact (resolves_iff_of_isFullyQualified hname).2 ⟨depth, outcome', rfl, hrequest'⟩
    · rw [Outcome.isSome_toOption, Outcome.isSome_toOption, hkind]
  · obtain ⟨rfl, rfl⟩ := (resolves_iff_of_not_isFullyQualified hname).1 hcall
    refine ⟨_, right, (resolves_iff_of_not_isFullyQualified hname).2 ⟨rfl, rfl⟩, rfl, ?_⟩
    exact halike.changeAlike

/-- A change of other files leaves registries alike. -/
theorem ChangesOnly.alike {changed : QualifiedName → Prop}
    (h : ChangesOnly changed paths before after) (hbefore : before.InRange)
    (hafter : after.InRange) (hdisjoint : ∀ key, allowed key → ¬ changed key) :
    Alike allowed before after where
  agree key hkey := (h.records key (hdisjoint key hkey)).symm
  inRange_left := hbefore
  inRange_right := hafter

/-- Two calls that lead to no file in common can be exchanged.  Each comes to the same kind of
answer in either order, every file has the same record in the end, and each call parses the same
paths. -/
theorem Resolves.exchange {worlds : Set (Storage Doc)} {first second : QualifiedName}
    {resultFirst resultSecond : Except ConfigError (Option DocumentId)}
    {afterFirst afterBoth : Registry Doc} (hregistry : registry.Reachable worlds roots)
    (hdisjoint : ∀ key, storage.Needs roots first key → ¬ storage.Needs roots second key)
    (hfirst : registry.Resolves storage roots first resultFirst afterFirst)
    (hsecond : afterFirst.Resolves storage roots second resultSecond afterBoth) :
    ∃ resultSecond' afterSecond resultFirst' afterBoth',
      registry.Resolves storage roots second resultSecond' afterSecond ∧
        afterSecond.Resolves storage roots first resultFirst' afterBoth' ∧
          resultFirst'.map Option.isSome = resultFirst.map Option.isSome ∧
            resultSecond'.map Option.isSome = resultSecond.map Option.isSome ∧
              (∀ key, afterBoth'.record? key = afterBoth.record? key) ∧
                ∃ pathsFirst pathsSecond,
                  afterBoth.parsed = registry.parsed ++ (pathsFirst ++ pathsSecond) ∧
                    afterBoth'.parsed = registry.parsed ++ (pathsSecond ++ pathsFirst) := by
  have hrange : registry.InRange := hregistry.consistent.inRange
  obtain ⟨_, _, _, _, hself⟩ := hfirst.alike (.refl hrange)
  obtain ⟨_, hframe, _⟩ := hself.changes
  -- The second call finds the same records with and without the first.
  have hwithout : Alike (storage.Needs roots second) registry afterFirst :=
    hframe.alike hrange hself.alike.inRange_left fun key hkey hkey' => hdisjoint key hkey' hkey
  obtain ⟨resultSecond', afterSecond, hsecond', hkindSecond, hchangeSecond⟩ :=
    hsecond.alike hwithout.symm
  obtain ⟨pathsSecond, hleft, hright⟩ := hchangeSecond.changes
  have hwith : Alike (storage.Needs roots first) registry afterSecond :=
    hright.alike hrange hchangeSecond.alike.inRange_right hdisjoint
  obtain ⟨resultFirst', afterBoth', hfirst', hkindFirst, hchangeFirst⟩ := hfirst.alike hwith
  obtain ⟨pathsFirst, hleft', hright'⟩ := hchangeFirst.changes
  refine ⟨resultSecond', afterSecond, resultFirst', afterBoth', hsecond', hfirst', hkindFirst,
    hkindSecond, ?_, pathsFirst, pathsSecond, ?_, ?_⟩
  · intro key
    by_cases hkey : storage.Needs roots first key
    · rw [hleft.records key (hdisjoint key hkey)]
      exact (hchangeFirst.alike.agree key hkey).symm
    · rw [hright'.records key hkey]
      by_cases hkey' : storage.Needs roots second key
      · exact (hchangeSecond.alike.agree key hkey').symm
      · rw [hright.records key hkey', hleft.records key hkey', hleft'.records key hkey]
  · rw [hleft.parsed, hleft'.parsed, List.append_assoc]
  · rw [hright'.parsed, hright.parsed, List.append_assoc]

end Registry

namespace TwoPackages

open MutualImports (nfc roots)

theorem package_eq_of_needs {name key : QualifiedName} (h : storage.Needs roots name key) :
    key.package = name.package := by
  induction h with
  | refl => rfl
  | tail _ hedge ih => exact (package_eq_of_dependsOn hedge).trans ih

theorem exchange_nfc_ir :
    (∅ : Registry Summary).Reachable {storage} roots ∧
      (∀ key, storage.Needs roots nfc key → ¬ storage.Needs roots ir key) ∧
      (∅ : Registry Summary).Resolves storage roots nfc (.ok (some ⟨0⟩))
        MutualImports.registry ∧
      MutualImports.registry.Resolves storage roots ir (.ok (some ⟨2⟩)) registry ∧
      ∃ resultIr afterIr resultNfc afterBoth,
        (∅ : Registry Summary).Resolves storage roots ir resultIr afterIr ∧
          afterIr.Resolves storage roots nfc resultNfc afterBoth ∧
            resultNfc.map Option.isSome = .ok true ∧ resultIr.map Option.isSome = .ok true ∧
              (∀ key, afterBoth.record? key = registry.record? key) ∧
                ∃ pathsNfc pathsIr, registry.parsed = pathsNfc ++ pathsIr ∧
                  afterBoth.parsed = pathsIr ++ pathsNfc := by
  have hreachable : (∅ : Registry Summary).Reachable {storage} roots := .refl
  have hdisjoint : ∀ key, storage.Needs roots nfc key → ¬ storage.Needs roots ir key := by
    intro key hnfc hir
    have hpackage : nfc.package = ir.package :=
      (package_eq_of_needs hnfc).symm.trans (package_eq_of_needs hir)
    exact absurd hpackage (by decide)
  exact ⟨hreachable, hdisjoint, resolves_nfc, resolves_ir,
    Registry.Resolves.exchange hreachable hdisjoint resolves_nfc resolves_ir⟩

end TwoPackages

end HalPackages
