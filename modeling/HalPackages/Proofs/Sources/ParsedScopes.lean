import HalPackages.Proofs.Sources.ReaderSteps
import HalPackages.Proofs.Sources.Scopes

/-!
# Parsed scopes are built by insertion

The reader keeps the scopes around the open declarations aside and goes on with the
innermost one.  Every step leaves all of them built by insertion: a body starts with
an empty scope, a declaration is inserted once it is complete, and what is complete
has a scope that was built in the same way.  So look-ups in a parsed file find what
the file declares.
-/

namespace HalPackages

variable {opened : List OpenDecl} {scope scope' : Scope} {progress : Progress}
variable {tokens : List Token}

/-- The scopes that the reader has set aside and the one it is reading were built by insertion. -/
structure ReaderBuilt (opened : List OpenDecl) (scope : Scope) : Prop where
  scope : scope.Built
  outers : ∀ decl ∈ opened, decl.outer.Built

/-- A step has left only scopes that were built by insertion. -/
def Progress.Built : Progress → Prop
  | finished root => root.Built
  | going opened scope _ => ReaderBuilt opened scope

theorem built_of_declare {decl : TypeDecl} (hscope : scope.Built) (hmembers : decl.members.Built)
    (h : declare scope decl = .ok scope') : scope'.Built :=
  .insert hscope hmembers (declare_eq_ok_iff.1 h).2

/-- A step leaves scopes built by insertion: the scope around a body is set aside, and a declaration
that is complete is inserted. -/
theorem ReaderBuilt.step (hbuilt : ReaderBuilt opened scope)
    (hstep : ReaderStep opened scope tokens progress) : progress.Built := by
  cases hstep with
  | finished => exact hbuilt.scope
  | opens => exact ⟨.empty, List.forall_mem_cons.2 ⟨hbuilt.scope, hbuilt.outers⟩⟩
  | adds _ _ hdeclare => exact ⟨built_of_declare hbuilt.scope .empty hdeclare, hbuilt.outers⟩
  | closes hopened hdeclare =>
      subst hopened
      obtain ⟨houter, houters⟩ := List.forall_mem_cons.1 hbuilt.outers
      exact ⟨built_of_declare houter hbuilt.scope hdeclare, houters⟩
  | skips => exact hbuilt

/-- A file leaves a scope built by insertion, since each of its steps does. -/
theorem ReaderBuilt.readDecls (hbuilt : ReaderBuilt opened scope)
    (h : readDecls opened scope tokens = .ok scope') : scope'.Built := by
  fun_induction HalPackages.readDecls opened scope tokens with
  | case1 => contradiction
  | case2 opened scope tokens root hstep =>
      have hroot : Progress.Built (.finished root) := hbuilt.step (readerStep_of_advance hstep)
      rw [← Except.ok.inj h]
      exact hroot
  | case3 opened scope tokens opened' scope'' rest hstep ih =>
      have hgoing : Progress.Built (.going opened' scope'' rest) :=
        hbuilt.step (readerStep_of_advance hstep)
      exact ih hgoing h

namespace SourceFile

/-- The scope of a file that a text writes was built by insertion. -/
theorem built_root_of_parse {text : String} {file : SourceFile} (h : parse text = .ok file) :
    file.root.Built := by
  obtain ⟨tokens, _, hfile⟩ := exists_tokens_of_parse h
  obtain ⟨⟨package, afterPackage⟩, _, hfile⟩ := except_bind_eq_ok.1 hfile
  obtain ⟨⟨imports, afterImports⟩, _, hfile⟩ := except_bind_eq_ok.1 hfile
  obtain ⟨root, hroot, hfile⟩ := except_bind_eq_ok.1 hfile
  cases hfile
  have hstart : ReaderBuilt [] ∅ := ⟨.empty, fun _ hdecl => absurd hdecl List.not_mem_nil⟩
  exact hstart.readDecls hroot

/-- In a file that a text writes, looking up a path finds the declaration at the path. -/
theorem lookupType?_eq_some_iff {text : String} {file : SourceFile} (h : parse text = .ok file)
    {path : String} {decl : TypeDecl} :
    file.lookupType? path = some decl ↔
      file.root.DeclaresAt ((path.toList.splitOn '.').map String.ofList) decl :=
  (built_root_of_parse h).descend?_eq_some_iff

end SourceFile

end HalPackages
