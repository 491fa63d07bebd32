import HalPackages.Proofs.Resolution.Dependencies
import HalPackages.Proofs.Resolution.Growth

/-!
# The log of the parser

A path is handed to the parser when a file is loaded, and a file is loaded once.
So the parsed paths are those of distinct files, each of which was first requested
in the call that parses it, and the types of a package come before all of its
other files.  The last is also true in the middle of an import cycle, where the
types are still being loaded: they request other files only after they were parsed
themselves.

The files may change from call to call.
-/

namespace HalPackages

variable {Doc Declared : Type} [Document Doc Declared]

/-! ## Plans that parse nothing -/

namespace Plan

variable {α β : Type}

/-- A plan that hands nothing to the parser by itself. -/
def ParsesNothing : Plan α → Prop
  | done _ | abort _ => True
  | parsing _ _ => False
  | ask _ next => ∀ outcome, (next outcome).ParsesNothing

theorem parsesNothing_bind {plan : Plan α} {next : α → Plan β} (h : plan.ParsesNothing)
    (hnext : ∀ value, (next value).ParsesNothing) : (plan >>= next).ParsesNothing := by
  change (plan.bind next).ParsesNothing
  induction plan with
  | done value => exact hnext value
  | abort cause => trivial
  | parsing path rest => exact h.elim
  | ask key rest ih => exact fun outcome => ih outcome (h outcome)

end Plan

namespace Storage

variable (storage : Storage Doc) (roots : PackageRoots)

theorem parsesNothing_requestAll (keys : List QualifiedName) :
    (requestAll keys).ParsesNothing := by
  induction keys with
  | nil => trivial
  | cons key keys ih =>
      intro outcome
      cases outcome with
      | error reason => trivial
      | ok id => exact ih

theorem parsesNothing_importPackage (package : QualifiedName) :
    (storage.importPackage roots package).ParsesNothing := by
  rw [importPackage]
  apply Plan.parsesNothing_bind
  · cases storage.packageFiles roots package <;> trivial
  · intro files
    cases files with
    | nil => trivial
    | cons key keys => exact parsesNothing_requestAll (key :: keys)

theorem parsesNothing_importName (name : QualifiedName) : (importName name).ParsesNothing := by
  intro outcome
  cases outcome with
  | ok id => trivial
  | error first =>
      intro outcome
      cases outcome <;> trivial

theorem parsesNothing_importAll (names : List QualifiedName) :
    (storage.importAll roots names).ParsesNothing := by
  induction names with
  | nil => trivial
  | cons name names ih =>
      apply Plan.parsesNothing_bind
      · rw [importOne]
        split
        · exact storage.parsesNothing_importPackage roots name
        · exact parsesNothing_importName name
      · intro unsatisfied
        cases unsatisfied with
        | none => exact ih
        | some reason => trivial

/-- Loading a file hands its own path to the parser, and no other. -/
theorem loadFile_cases (key : QualifiedName) :
    (∃ cause, roots.filePath key = .error cause ∧ storage.loadFile roots key = .abort cause) ∨
      ∃ path rest, roots.filePath key = .ok path ∧
        storage.loadFile roots key = .parsing path rest ∧ rest.ParsesNothing := by
  rw [loadFile]
  split
  · rename_i cause hpath
    exact Or.inl ⟨cause, hpath, rfl⟩
  · rename_i path hpath
    refine Or.inr ⟨path, _, hpath, rfl, ?_⟩
    split
    · trivial
    · split
      · trivial
      · apply Plan.parsesNothing_bind (storage.parsesNothing_importAll roots _)
        intro unsatisfied
        cases unsatisfied <;> trivial

end Storage

namespace Registry

/-! ## Registries with the files that were parsed -/

/-- Some files are those that were parsed, in this order.  Between requests, types that were
requested are among them unless they are misconfigured; in between, `fresh` lists those that
are not parsed yet. -/
structure Logged (roots : PackageRoots) (fresh : List QualifiedName) (registry : Registry Doc)
    (files : List QualifiedName) : Prop where
  paths : registry.parsed.map Except.ok = files.map roots.filePath
  nodup : files.Nodup
  requested : ∀ file ∈ files, file ∈ registry.cache.keys
  types_first : ∀ before file after, files = before ++ file :: after → ¬ file.IsTypes →
    file.typesOfPackage ∈ before
  types_parsed : ∀ key slot outcome, key.IsTypes → registry.slot? key = some slot →
    slot.answer = .ok outcome → key ∈ fresh ∨ key ∈ files

variable {roots : PackageRoots} {fresh files added added' : List QualifiedName}
variable {registry before middle after : Registry Doc} {key : QualifiedName} {path : Path}
variable {result : Except ConfigError (Loaded Doc)}

theorem logged_empty : (∅ : Registry Doc).Logged roots [] [] where
  paths := rfl
  nodup := List.nodup_nil
  requested := by simp
  types_first := by simp
  types_parsed := by simp [slot?_empty]

namespace Logged

theorem start (h : registry.Logged roots [] files) (key : QualifiedName) :
    (registry.start key).Logged roots [key] files where
  paths := h.paths
  nodup := h.nodup
  requested file hfile := registry.keptIn_start key (h.requested file hfile)
  types_first := h.types_first
  types_parsed other slot outcome htypes hslot hanswer := by
    rw [slot?_start] at hslot
    split at hslot
    · rename_i heq
      exact Or.inl (List.mem_singleton.2 heq.symm)
    · have hparsed := h.types_parsed other slot outcome htypes hslot hanswer
      exact Or.inr (hparsed.resolve_left List.not_mem_nil)

/-- A file that is no file of types need not be parsed before another request. -/
theorem of_not_isTypes (h : registry.Logged roots [key] files) (hkey : ¬ key.IsTypes) :
    registry.Logged roots [] files where
  paths := h.paths
  nodup := h.nodup
  requested := h.requested
  types_first := h.types_first
  types_parsed other slot outcome htypes hslot hanswer := by
    refine (h.types_parsed other slot outcome htypes hslot hanswer).imp_left fun hother => ?_
    rw [List.mem_singleton.1 hother] at htypes
    exact absurd htypes hkey

/-- A file that was requested is parsed for the first time, after the types of its package. -/
theorem notePath (h : registry.Logged roots [key] files) (hpath : roots.filePath key = .ok path)
    (hkey : key ∈ registry.cache.keys) (hnew : key ∉ files)
    (hfirst : ¬ key.IsTypes → key.typesOfPackage ∈ files) :
    (registry.notePath path).Logged roots [] (files ++ [key]) where
  paths := by
    rw [Registry.notePath, List.map_append, List.map_append, h.paths, List.map_singleton,
      List.map_singleton, hpath]
  nodup := by
    rw [List.nodup_append]
    refine ⟨h.nodup, List.pairwise_singleton _ _, ?_⟩
    intro file hfile other hother heq
    rw [heq, List.mem_singleton.1 hother] at hfile
    exact hnew hfile
  requested file hfile := by
    rcases List.mem_append.1 hfile with hfile | hfile
    · exact h.requested file hfile
    · rw [List.mem_singleton.1 hfile]
      exact hkey
  types_first front file rest heq hfile := by
    rcases List.eq_nil_or_concat rest with rfl | ⟨rest, last, rfl⟩
    · obtain ⟨rfl, rfl⟩ := List.append_singleton_inj.1 heq
      exact hfirst hfile
    · rw [List.concat_eq_append, ← List.cons_append, ← List.append_assoc] at heq
      exact h.types_first front file rest (List.append_singleton_inj.1 heq).1 hfile
  types_parsed other slot outcome htypes hslot hanswer := by
    refine Or.inr (List.mem_append.2 ?_)
    exact (h.types_parsed other slot outcome htypes hslot hanswer).symm

/-- A file gets its answer after it was parsed, or because the configuration is at fault. -/
theorem settle (h : registry.Logged roots [key] files)
    (hresult : ∀ loaded, result = .ok loaded → key ∈ files) :
    (registry.settle key result).2.Logged roots [] files where
  paths := by
    rw [← h.paths]
    rcases result with cause | failure | ⟨path, document⟩ <;> rfl
  nodup := h.nodup
  requested file hfile := registry.keptIn_settle key result (h.requested file hfile)
  types_first := h.types_first
  types_parsed other slot outcome htypes hslot hanswer := by
    refine Or.inr ?_
    by_cases hkey : key = other
    · subst hkey
      rcases result with cause | loaded
      · rw [Registry.settle, slot?_fail, if_pos rfl, Option.some.injEq] at hslot
        rw [← hslot] at hanswer
        contradiction
      · exact hresult loaded rfl
    · rw [slot?_settle_of_ne hkey] at hslot
      rcases h.types_parsed other slot outcome htypes hslot hanswer with hother | hother
      · exact absurd (List.mem_singleton.1 hother).symm hkey
      · exact hother

theorem weaken (h : registry.Logged roots [] files) : registry.Logged roots fresh files where
  paths := h.paths
  nodup := h.nodup
  requested := h.requested
  types_first := h.types_first
  types_parsed other slot outcome htypes hslot hanswer :=
    Or.inr ((h.types_parsed other slot outcome htypes hslot hanswer).resolve_left
      List.not_mem_nil)

end Logged

/-- Between two registries some files were parsed, none of which had been requested before. -/
structure LogsMore (roots : PackageRoots) (files added : List QualifiedName)
    (before after : Registry Doc) : Prop where
  logged : after.Logged roots [] (files ++ added)
  kept : before.KeptIn after
  unrequested : ∀ file ∈ added, file ∉ before.cache.keys

namespace LogsMore

theorem refl (h : registry.Logged roots [] files) : LogsMore roots files [] registry registry where
  logged := by
    rw [List.append_nil]
    exact h
  kept := KeptIn.refl registry
  unrequested := by simp

theorem of_keptIn (h : LogsMore roots files added middle after) (hkept : before.KeptIn middle) :
    LogsMore roots files added before after where
  logged := h.logged
  kept := hkept.trans h.kept
  unrequested file hfile hbefore := h.unrequested file hfile (hkept hbefore)

theorem append (h : LogsMore roots files added before middle)
    (h' : LogsMore roots (files ++ added) added' before after) :
    LogsMore roots files (added ++ added') before after where
  logged := by
    rw [← List.append_assoc]
    exact h'.logged
  kept := h'.kept
  unrequested file hfile :=
    (List.mem_append.1 hfile).elim (h.unrequested file) (h'.unrequested file)

theorem trans (h : LogsMore roots files added before middle)
    (h' : LogsMore roots (files ++ added) added' middle after) :
    LogsMore roots files (added ++ added') before after :=
  h.append (h'.of_keptIn h.kept)

/-- The log only grows at its end. -/
theorem parsed_isPrefix (h : LogsMore roots files added before after)
    (hbefore : before.Logged roots [] files) : before.parsed <+: after.parsed := by
  have hinjective : Function.Injective (Except.ok : Path → Except ConfigError Path) :=
    fun _ _ => Except.ok.inj
  rw [← List.prefix_map_iff_of_injective hinjective, hbefore.paths, h.logged.paths,
    List.map_append]
  exact List.prefix_append _ _

end LogsMore

end Registry

open Registry (Logged LogsMore)

/-! ## Requests -/

/-- Requests parse only files that were not requested before; and types whose configuration is not
at fault have been parsed when they are answered. -/
def Requester.LogsParsed (roots : PackageRoots) (request : Requester Doc) : Prop :=
  ∀ {key : QualifiedName} {registry later : Registry Doc} {answer : Except ConfigError Outcome}
    {files : List QualifiedName},
    request key registry = some (answer, later) → registry.Logged roots [] files →
      ∃ added, LogsMore roots files added registry later ∧
        ∀ outcome, answer = .ok outcome → key.IsTypes → key ∈ files ++ added

/-- A plan that parses nothing itself logs what its requests log. -/
theorem Plan.ParsesNothing.logsMore {α : Type} {roots : PackageRoots} {request : Requester Doc}
    {plan : Plan α} {registry later : Registry Doc} {result : Except ConfigError α}
    {files : List QualifiedName} (hplan : plan.ParsesNothing) (hrequest : request.LogsParsed roots)
    (hrun : plan.run request registry = some (result, later))
    (h : registry.Logged roots [] files) : ∃ added, LogsMore roots files added registry later := by
  induction plan generalizing registry files with
  | done | abort =>
      rw [run, Option.some.injEq, Prod.mk.injEq] at hrun
      obtain ⟨_, rfl⟩ := hrun
      exact ⟨[], .refl h⟩
  | parsing path next => exact hplan.elim
  | ask key next ih =>
      rw [run] at hrun
      split at hrun
      · contradiction
      · rename_i cause middle hanswer
        rw [Option.some.injEq, Prod.mk.injEq] at hrun
        obtain ⟨_, rfl⟩ := hrun
        obtain ⟨added, hmore, _⟩ := hrequest hanswer h
        exact ⟨added, hmore⟩
      · rename_i outcome middle hanswer
        obtain ⟨added, hmore, _⟩ := hrequest hanswer h
        obtain ⟨added', hmore'⟩ := ih outcome (hplan outcome) hrun hmore.logged
        exact ⟨added ++ added', hmore.trans hmore'⟩

namespace Storage

variable {storage : Storage Doc} {roots : PackageRoots} {request : Requester Doc}
variable {key : QualifiedName} {before registry middle : Registry Doc}
variable {files : List QualifiedName} {result : Except ConfigError (Loaded Doc)}

/-- Loading a file after the types of its package parses it first, and then files that were not
requested before. -/
theorem logsMore_of_run_loadFile (hrequest : request.LogsParsed roots)
    (hrun : (storage.loadFile roots key).run request registry = some (result, middle))
    (h : registry.Logged roots [key] files) (hkey : key ∈ registry.cache.keys)
    (hbefore : before.KeptIn registry) (hunrequested : key ∉ before.cache.keys)
    (hnew : key ∉ files) (hfirst : ¬ key.IsTypes → key.typesOfPackage ∈ files) :
    ∃ added, LogsMore roots files added before (middle.settle key result).2 ∧
      ∀ outcome, (middle.settle key result).1 = .ok outcome → key ∈ files ++ added := by
  rcases storage.loadFile_cases roots key with
    ⟨cause, _, hplan⟩ | ⟨path, rest, hpath, hplan, hrest⟩
  · rw [hplan, Plan.run, Option.some.injEq, Prod.mk.injEq] at hrun
    obtain ⟨rfl, rfl⟩ := hrun
    have hlogged : (registry.settle key (.error cause)).2.Logged roots [] (files ++ []) := by
      rw [List.append_nil]
      exact h.settle (by simp)
    refine ⟨[], ⟨hlogged, hbefore.trans (registry.keptIn_settle key _), by simp⟩, ?_⟩
    intro outcome hanswer
    contradiction
  · rw [hplan, Plan.run] at hrun
    obtain ⟨added, hmore⟩ :=
      hrest.logsMore hrequest hrun (h.notePath hpath hkey hnew hfirst)
    have hfiles : files ++ [key] ++ added = files ++ key :: added := by
      rw [List.append_assoc, List.singleton_append]
    have hparsed : key ∈ files ++ key :: added :=
      List.mem_append_right _ List.mem_cons_self
    have hlogged := hmore.logged
    rw [hfiles] at hlogged
    refine ⟨key :: added, ⟨hlogged.weaken.settle fun _ _ => hparsed,
      (hbefore.trans hmore.kept).trans (middle.keptIn_settle key result), ?_⟩,
      fun _ _ => hparsed⟩
    intro file hfile
    rcases List.mem_cons.1 hfile with rfl | hfile
    · exact hunrequested
    · exact fun hfile' => hmore.unrequested file hfile (hbefore hfile')

/-- A file that was not requested before is parsed after the types of its package, which it requests
itself. -/
theorem logsMore_of_run_load (hrequest : request.LogsParsed roots)
    (hrun : (storage.load roots key).run request (registry.start key) = some (result, middle))
    (h : registry.Logged roots [] files) (hunrequested : key ∉ registry.cache.keys) :
    ∃ added, LogsMore roots files added registry (middle.settle key result).2 ∧
      ∀ outcome, (middle.settle key result).1 = .ok outcome → key ∈ files ++ added := by
  have hstart := registry.keptIn_start key
  have hkey : key ∈ (registry.start key).cache.keys := OrderedMap.mem_keys_insert.2 (Or.inl rfl)
  have hnew : key ∉ files := fun hfile => hunrequested (h.requested key hfile)
  by_cases htypes : key.IsTypes
  · rw [load, if_pos htypes] at hrun
    exact logsMore_of_run_loadFile hrequest hrun (h.start key) hkey hstart hunrequested hnew
      fun hother => absurd htypes hother
  · rw [load, if_neg htypes, Plan.run] at hrun
    have hstarted := (h.start key).of_not_isTypes htypes
    split at hrun
    · contradiction
    · rename_i cause later hanswer
      rw [Option.some.injEq, Prod.mk.injEq] at hrun
      obtain ⟨rfl, rfl⟩ := hrun
      obtain ⟨added, hmore, _⟩ := hrequest hanswer hstarted
      refine ⟨added, ⟨hmore.logged.weaken.settle (by simp),
        (hstart.trans hmore.kept).trans (later.keptIn_settle key _),
        (hmore.of_keptIn hstart).unrequested⟩, ?_⟩
      intro outcome hanswer'
      contradiction
    · rename_i outcome later hanswer
      obtain ⟨added, hmore, hparsed⟩ := hrequest hanswer hstarted
      have hnew' : key ∉ files ++ added := by
        rw [List.mem_append, not_or]
        exact ⟨hnew, fun hadded => hmore.unrequested key hadded hkey⟩
      obtain ⟨added', hmore', hanswer'⟩ :=
        logsMore_of_run_loadFile hrequest hrun hmore.logged.weaken (hmore.kept hkey)
          (hstart.trans hmore.kept) hunrequested hnew' fun _ => hparsed outcome rfl rfl
      refine ⟨added ++ added', (hmore.of_keptIn hstart).append hmore', ?_⟩
      rw [← List.append_assoc]
      exact hanswer'

/-- A request parses only files that were not requested before, each once, and types first. -/
theorem logsParsed_requestWithin (storage : Storage Doc) (roots : PackageRoots) (depth : Nat) :
    (storage.requestWithin roots depth).LogsParsed roots := by
  induction depth using Nat.strongRecOn with
  | _ depth ih =>
      intro key registry later answer files hanswer h
      cases hslot : registry.slot? key with
      | some slot =>
          rw [requestWithin_of_slot hslot, Option.some.injEq, Prod.mk.injEq] at hanswer
          obtain ⟨rfl, rfl⟩ := hanswer
          refine ⟨[], .refl h, ?_⟩
          intro outcome houtcome htypes
          rw [List.append_nil]
          exact (h.types_parsed key slot outcome htypes hslot houtcome).resolve_left
            List.not_mem_nil
      | none =>
          obtain ⟨below, result, middle, rfl, hrun, hsettle⟩ :=
            exists_run_of_requestWithin hslot hanswer
          obtain ⟨added, hmore, hparsed⟩ := logsMore_of_run_load
            (ih below (Nat.lt_succ_self below)) hrun h (OrderedMap.get?_eq_none_iff.1 hslot)
          rw [hsettle] at hmore hparsed
          exact ⟨added, hmore, fun outcome houtcome _ => hparsed outcome houtcome⟩

end Storage

/-! ## Calls -/

namespace Registry

variable {registry later : Registry Doc} {storage : Storage Doc} {roots : PackageRoots}
variable {name : QualifiedName} {result : Except ConfigError (Option DocumentId)}
variable {files : List QualifiedName}

theorem Resolves.logsMore (hcall : registry.Resolves storage roots name result later)
    (h : registry.Logged roots [] files) : ∃ added, LogsMore roots files added registry later := by
  by_cases hname : name.IsFullyQualified
  · obtain ⟨depth, outcome, _, hrequest⟩ := (resolves_iff_of_isFullyQualified hname).1 hcall
    obtain ⟨added, hmore, _⟩ := storage.logsParsed_requestWithin roots depth hrequest h
    exact ⟨added, hmore⟩
  · obtain ⟨_, rfl⟩ := (resolves_iff_of_not_isFullyQualified hname).1 hcall
    exact ⟨[], .refl h⟩

theorem Reachable.exists_logged {worlds : Set (Storage Doc)}
    (h : registry.Reachable worlds roots) : ∃ files, registry.Logged roots [] files := by
  induction h with
  | refl => exact ⟨[], logged_empty⟩
  | tail _ hcall ih =>
      obtain ⟨files, hlogged⟩ := ih
      obtain ⟨storage, _, name, result, hresolves⟩ := hcall
      obtain ⟨added, hmore⟩ := hresolves.logsMore hlogged
      exact ⟨files ++ added, hmore.logged⟩

theorem Logged.length_parsed {fresh : List QualifiedName}
    (h : registry.Logged roots fresh files) : registry.parsed.length = files.length := by
  have hlength := congrArg List.length h.paths
  rw [List.length_map, List.length_map] at hlength
  exact hlength

/-- The types of a package stand at an earlier position than its other files. -/
theorem Logged.exists_earlier {fresh : List QualifiedName} {position : Nat} {file : QualifiedName}
    (h : registry.Logged roots fresh files) (hfile : files[position]? = some file)
    (hother : ¬ file.IsTypes) :
    ∃ earlier < position, files[earlier]? = some file.typesOfPackage := by
  obtain ⟨hposition, hget⟩ := List.getElem?_eq_some_iff.1 hfile
  have hsplit : files = files.take position ++ file :: files.drop (position + 1) := by
    rw [← hget, List.getElem_cons_drop, List.take_append_drop]
  have htypes := h.types_first _ _ _ hsplit hother
  obtain ⟨earlier, hearlier, htake⟩ := List.mem_take_iff_getElem.1 htypes
  refine ⟨earlier, (Nat.lt_min.1 hearlier).1, ?_⟩
  rw [List.getElem?_eq_getElem ((Nat.lt_min.1 hearlier).2), htake]

/-- Registries that calls leave one after the other, beginning with the empty one.  Each call has a
storage of its own. -/
structure IsHistory (roots : PackageRoots) (calls : Nat) (history : Nat → Registry Doc) : Prop where
  start : history 0 = ∅
  call : ∀ call < calls, ∃ storage name result,
    (history call).Resolves storage roots name result (history (call + 1))

/-- In one call the path at a position of the log was parsed, and a file was first requested. -/
structure FirstParsedIn (history : Nat → Registry Doc) (call position : Nat)
    (file : QualifiedName) : Prop where
  not_before : (history call).parsed.length ≤ position
  parsed : position < (history (call + 1)).parsed.length
  unrequested : file ∉ (history call).cache.keys
  requested : file ∈ (history (call + 1)).cache.keys

variable {history : Nat → Registry Doc} {calls : Nat}

theorem IsHistory.exists_logged (h : IsHistory roots calls history) :
    ∃ files, (history calls).Logged roots [] files ∧
      (∀ call < calls, (history call).parsed <+: (history (call + 1)).parsed) ∧
        ∀ position file, files[position]? = some file →
          ∃ call < calls, FirstParsedIn history call position file := by
  induction calls with
  | zero =>
      refine ⟨[], ?_, by simp, by simp⟩
      rw [h.start]
      exact logged_empty
  | succ calls ih =>
      obtain ⟨files, hlogged, hgrows, hfirst⟩ :=
        ih ⟨h.start, fun call hcall => h.call call (by omega)⟩
      obtain ⟨storage, name, result, hresolves⟩ := h.call calls (Nat.lt_succ_self calls)
      obtain ⟨added, hmore⟩ := hresolves.logsMore hlogged
      refine ⟨files ++ added, hmore.logged, ?_, ?_⟩
      · intro call hcall
        rcases Nat.lt_succ_iff_lt_or_eq.1 hcall with hcall | rfl
        · exact hgrows call hcall
        · exact hmore.parsed_isPrefix hlogged
      · intro position file hfile
        rcases Nat.lt_or_ge position files.length with hold | hnew
        · rw [List.getElem?_append_left hold] at hfile
          obtain ⟨call, hcall, hparsed⟩ := hfirst position file hfile
          exact ⟨call, by omega, hparsed⟩
        · have hadded : file ∈ added := by
            rw [List.getElem?_append_right hnew] at hfile
            exact List.mem_of_getElem? hfile
          refine ⟨calls, Nat.lt_succ_self calls, ?_, ?_, hmore.unrequested file hadded, ?_⟩
          · rw [hlogged.length_parsed]
            exact hnew
          · rw [hmore.logged.length_parsed]
            exact (List.getElem?_eq_some_iff.1 hfile).1
          · exact hmore.logged.requested file (List.mem_append_right _ hadded)

/-- Each call adds to the log at its end, and after any calls, between which the files may change,
the logged paths are those of distinct requested files.  Each file was first requested in the call
that parsed it; and if it is not the types of its package, these were parsed before it. -/
theorem parsed_of_history (h : IsHistory roots calls history) :
    (∀ call < calls, (history call).parsed <+: (history (call + 1)).parsed) ∧
      ∃ files : List QualifiedName,
        (history calls).parsed.map Except.ok = files.map roots.filePath ∧ files.Nodup ∧
          (∀ file ∈ files, file ∈ (history calls).cache.keys) ∧
          ∀ position file, files[position]? = some file →
            (∃ call < calls, FirstParsedIn history call position file) ∧
              (¬ file.IsTypes →
                ∃ earlier < position, files[earlier]? = some file.typesOfPackage) := by
  obtain ⟨files, hlogged, hgrows, hfirst⟩ := h.exists_logged
  refine ⟨hgrows, files, hlogged.paths, hlogged.nodup, hlogged.requested, ?_⟩
  intro position file hfile
  exact ⟨hfirst position file hfile, hlogged.exists_earlier hfile⟩

end Registry

namespace TwoPackages

open MutualImports (roots)

/-- A call for one interface and, when the other package was added, a call for the other. -/
def history : Nat → Registry Summary
  | 0 => ∅
  | 1 => MutualImports.registry
  | _ => registry

theorem isHistory_history : Registry.IsHistory roots 2 history where
  start := rfl
  call call hcall := by
    rcases call with _ | _ | call
    · exact ⟨MutualImports.storage, _, _, MutualImports.resolves_nfc⟩
    · exact ⟨storage, _, _, resolves_ir⟩
    · omega

theorem parsed_nfc_then_ir :
    Registry.IsHistory roots 2 history ∧
      (∀ call < 2, (history call).parsed <+: (history (call + 1)).parsed) ∧
      ∃ files : List QualifiedName,
        registry.parsed.map Except.ok = files.map roots.filePath ∧ files.Nodup ∧
          (∀ file ∈ files, file ∈ registry.cache.keys) ∧
          ∀ position file, files[position]? = some file →
            (∃ call < 2, Registry.FirstParsedIn history call position file) ∧
              (¬ file.IsTypes →
                ∃ earlier < position, files[earlier]? = some file.typesOfPackage) :=
  ⟨isHistory_history, Registry.parsed_of_history isHistory_history⟩

end TwoPackages

end HalPackages
