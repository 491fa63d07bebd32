import HalPackages.Proofs.Sources.ParsedScopes
import HalPackages.Proofs.Sources.ReaderSteps

/-!
# Written declarations

Every declaration of a file is written by one name token, outer declarations before
the ones inside them.  While a file is read, the name tokens so far write the
declarations in the scopes set aside and in the one that is read, and those whose
bodies are open.  Closing a body adds no name: the declaration goes where its name
stands already.  So each step adds at most one name, which it takes from the tokens,
and in the end the names that write the file are a sublist of its tokens.
-/

namespace HalPackages

/-- A name token writes a declaration at a depth.  Interfaces stand at the top only, they alone
extend others, and enums and typedefs have no members. -/
structure WrittenBy (name : Token) (depth : Nat) (decl : TypeDecl) : Prop where
  identifier : name.IsIdentifier
  text : decl.name = name.text
  span : decl.span = name.span
  atTop : decl.kind = .interface → depth = 0
  parent : decl.parent ≠ none → decl.kind = .interface
  members : decl.kind.hasScope = false → decl.members = ∅

/-- Name tokens write the declarations of a scope at a depth, and the ones inside them. -/
inductive Written : Nat → List Token → List TypeDecl → Prop where
  | nil {depth : Nat} : Written depth [] []
  | cons {depth : Nat} {name : Token} {decl : TypeDecl} {inner names : List Token}
      {decls : List TypeDecl} (hdecl : WrittenBy name depth decl)
      (hinner : Written (depth + 1) inner decl.members.decls) (hdecls : Written depth names decls) :
      Written depth (name :: (inner ++ names)) (decl :: decls)

/-- Name tokens write what the reader has read: the scopes that it has set aside, the declarations
whose bodies are open, and the scope of the innermost one. -/
inductive WrittenSoFar : List OpenDecl → Scope → List Token → Prop where
  | file {scope : Scope} {names : List Token} (hdecls : Written 0 names scope.decls)
      (hinterface : scope.decls.countP (·.kind = .interface) ≤ 1) : WrittenSoFar [] scope names
  | body {decl : OpenDecl} {opened : List OpenDecl} {scope : Scope} {names inner : List Token}
      (hdecl : ∀ members, WrittenBy decl.name opened.length (decl.withMembers members))
      (houter : WrittenSoFar opened decl.outer names)
      (hdecls : Written (opened.length + 1) inner scope.decls) :
      WrittenSoFar (decl :: opened) scope (names ++ decl.name :: inner)

variable {opened : List OpenDecl} {scope scope' : Scope} {tokens names : List Token}
variable {depth : Nat} {decl : TypeDecl} {decls : List TypeDecl}

/-! ## Adding a declaration -/

theorem Written.append {others : List Token} {decls' : List TypeDecl}
    (h : Written depth names decls) (hothers : Written depth others decls') :
    Written depth (names ++ others) (decls ++ decls') := by
  induction h with
  | nil => exact hothers
  | cons hdecl hinner _ _ ih =>
      rw [List.cons_append, List.append_assoc, List.cons_append]
      exact .cons hdecl hinner (ih hothers)

/-- A declaration without members is written by its name. -/
theorem Written.of_name {name : Token} (hdecl : WrittenBy name depth decl)
    (hmembers : decl.members = ∅) : Written depth [name] [decl] := by
  have hinner : Written (depth + 1) [] decl.members.decls := by
    rw [hmembers]
    exact .nil
  exact .cons hdecl hinner .nil

/-- A declaration and the ones inside it are added with the names that write them. -/
theorem WrittenSoFar.declare {added : List Token} (h : WrittenSoFar opened scope names)
    (hadded : Written opened.length added [decl]) (hdeclare : declare scope decl = .ok scope') :
    WrittenSoFar opened scope' (names ++ added) := by
  obtain ⟨hfirst, hinsert⟩ := declare_eq_ok_iff.1 hdeclare
  obtain ⟨_, rfl⟩ := Scope.insert_eq_ok_iff.1 hinsert
  cases h with
  | file hdecls hinterface =>
      refine .file (hdecls.append hadded) ?_
      rw [List.countP_append, List.countP_singleton]
      split
      case isTrue hkind =>
        have hnone : scope.decls.countP (·.kind = .interface) = 0 :=
          List.countP_eq_zero.2 fun other hother => by
            simpa using hfirst (of_decide_eq_true hkind) other hother
        omega
      case isFalse => omega
  | body hdecl houter hdecls =>
      rw [List.append_assoc, List.cons_append]
      exact .body hdecl houter (hdecls.append hadded)

/-! ## Steps and runs -/

/-- A step adds at most one name, and takes it from the tokens before those that it leaves. -/
theorem WrittenSoFar.step {opened' : List OpenDecl} {rest : List Token}
    (h : WrittenSoFar opened scope names)
    (hstep : ReaderStep opened scope tokens (.going opened' scope' rest)) :
    ∃ added, (added ++ rest).Sublist tokens ∧ WrittenSoFar opened' scope' (names ++ added) := by
  cases hstep with
  | @opens name kind parent rest hname hkind hlevel hparent hrest =>
      refine ⟨[name], hrest, .body (fun members => ?_) h .nil⟩
      refine ⟨hname, rfl, rfl, ?_, hparent, ?_⟩
      · intro hinterface
        rw [hlevel hinterface]
        rfl
      · intro hnone
        cases hkind.symm.trans hnone
  | @adds name kind scope' rest hname hkind hdeclare hrest =>
      have hwritten : WrittenBy name opened.length ⟨name.text, kind, name.span, none, ∅⟩ := by
        refine ⟨hname, rfl, rfl, ?_, fun hparent => absurd rfl hparent, fun _ => rfl⟩
        rintro rfl
        contradiction
      exact ⟨[name], hrest, h.declare (.of_name hwritten rfl) hdeclare⟩
  | @closes decl outer scope' rest hopened hdeclare hrest =>
      subst hopened
      cases h with
      | body hdecl houter hdecls =>
          refine ⟨[], hrest, ?_⟩
          have hadded := Written.cons (hdecl scope) hdecls .nil
          rw [List.append_nil] at hadded ⊢
          exact houter.declare hadded hdeclare
  | skips hrest => exact ⟨[], hrest, by rwa [List.append_nil]⟩

/-- The names that write a whole file are a sublist of its tokens.  The induction is on the steps,
and each of them adds its name after the others. -/
theorem WrittenSoFar.readDecls {root : Scope} (h : WrittenSoFar opened scope names)
    (hread : readDecls opened scope tokens = .ok root) :
    ∃ added, added.Sublist tokens ∧ WrittenSoFar [] root (names ++ added) := by
  fun_induction HalPackages.readDecls opened scope tokens generalizing names with
  | case1 => contradiction
  | case2 opened scope tokens root' hstep =>
      cases hread
      cases readerStep_of_advance hstep with
      | finished hopened =>
          subst hopened
          refine ⟨[], List.nil_sublist _, ?_⟩
          rwa [List.append_nil]
  | case3 opened scope tokens opened' scope'' rest hstep ih =>
      obtain ⟨added, hadded, hgoing⟩ := h.step (readerStep_of_advance hstep)
      obtain ⟨others, hothers, hroot⟩ := ih hgoing hread
      refine ⟨added ++ others, ((List.Sublist.refl _).append hothers).trans hadded, ?_⟩
      rw [← List.append_assoc]
      exact hroot

/-- What the tokens of a file declare is written by some of them, in order, and it has at most one
interface. -/
theorem exists_names_of_readDecls {root : Scope} (h : readDecls [] ∅ tokens = .ok root) :
    ∃ names, names.Sublist tokens ∧ Written 0 names root.decls ∧
      root.decls.countP (·.kind = .interface) ≤ 1 := by
  have hstart : WrittenSoFar [] ∅ [] := .file .nil (Nat.zero_le _)
  obtain ⟨names, hnames, hroot⟩ := hstart.readDecls h
  cases hroot with
  | file hdecls hinterface => exact ⟨names, hnames, hdecls, hinterface⟩

end HalPackages
