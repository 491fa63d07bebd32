import HalPackages.Proofs.Names.WrittenNames
import HalPackages.Proofs.Sources.Tokens
import HalPackages.Proofs.Sources.WrittenDecls

/-!
# Parsed files

What holds of every file that a text writes, however the text is made: what its
package and its imports are, which declarations can stand where, and where in the
text the names of the declarations stand.
-/

namespace HalPackages

open Text

variable {depth : Nat} {names : List Token} {decl : TypeDecl} {decls : List TypeDecl}
variable {scope : Scope}

/-! ## Declarations, outer ones first -/

theorem TypeDecl.preorder_eq (depth : Nat) (decl : TypeDecl) :
    decl.preorder depth =
      (depth, decl) :: TypeDecl.preorder.ofDecls (depth + 1) decl.members.decls := by
  obtain ⟨name, kind, span, parent, decls, positions⟩ := decl
  rw [TypeDecl.preorder]

theorem TypeDecl.ofDecls_cons (depth : Nat) (decl : TypeDecl) (decls : List TypeDecl) :
    TypeDecl.preorder.ofDecls depth (decl :: decls) =
      (depth, decl) :: (TypeDecl.preorder.ofDecls (depth + 1) decl.members.decls ++
        TypeDecl.preorder.ofDecls depth decls) := by
  rw [TypeDecl.preorder.ofDecls, TypeDecl.preorder_eq, List.cons_append]

namespace Written

/-- Every declaration is written by one of the names. -/
theorem exists_name (h : Written depth names decls) {entry : Nat × TypeDecl}
    (hentry : entry ∈ TypeDecl.preorder.ofDecls depth decls) :
    ∃ name ∈ names, WrittenBy name entry.1 entry.2 := by
  induction h with
  | nil => contradiction
  | @cons depth name decl inner names decls hdecl _ _ ihInner ihDecls =>
      rw [TypeDecl.ofDecls_cons, List.mem_cons, List.mem_append] at hentry
      rcases hentry with rfl | hentry | hentry
      · exact ⟨name, List.mem_cons_self, hdecl⟩
      · obtain ⟨other, hother, hwritten⟩ := ihInner hentry
        exact ⟨other, List.mem_cons_of_mem _ (List.mem_append_left _ hother), hwritten⟩
      · obtain ⟨other, hother, hwritten⟩ := ihDecls hentry
        exact ⟨other, List.mem_cons_of_mem _ (List.mem_append_right _ hother), hwritten⟩

/-- The names stand in the order of the declarations. -/
theorem map_span (h : Written depth names decls) :
    (TypeDecl.preorder.ofDecls depth decls).map (fun entry => entry.2.span) =
      names.map Token.span := by
  induction h with
  | nil => rfl
  | cons hdecl _ _ ihInner ihDecls =>
      rw [TypeDecl.ofDecls_cons, List.map_cons, List.map_append, ihInner, ihDecls, hdecl.span,
        List.map_cons, List.map_append]

/-- Below the top nothing is an interface. -/
theorem kind_ne_interface (h : Written (depth + 1) names decls) :
    ∀ decl ∈ decls, decl.kind ≠ .interface := by
  generalize hdepth : depth + 1 = inside at h
  induction h with
  | nil => exact fun _ hdecl => absurd hdecl List.not_mem_nil
  | cons hdecl _ _ _ ihDecls =>
      subst hdepth
      refine List.forall_mem_cons.2 ⟨fun hkind => ?_, ihDecls rfl⟩
      exact absurd (hdecl.atTop hkind) (Nat.succ_ne_zero _)

/-- All interfaces are among the outermost declarations. -/
theorem countP_interface (h : Written depth names decls) :
    (TypeDecl.preorder.ofDecls depth decls).countP (fun entry => entry.2.kind = .interface) =
      decls.countP (fun decl => decl.kind = .interface) := by
  induction h with
  | nil => rfl
  | @cons depth name decl inner names decls _ hinner _ ihInner ihDecls =>
      have hnone : decl.members.decls.countP (fun decl => decl.kind = .interface) = 0 :=
        List.countP_eq_zero.2 fun other hother => by
          simpa using hinner.kind_ne_interface other hother
      rw [TypeDecl.ofDecls_cons, List.countP_cons, List.countP_append, ihInner, ihDecls, hnone,
        Nat.zero_add, List.countP_cons]

/-- If the scopes of the declarations were built by insertion, so were those of the ones inside. -/
theorem members_built (h : Written depth names decls) (hbuilt : ∀ decl ∈ decls, decl.members.Built)
    {entry : Nat × TypeDecl} (hentry : entry ∈ TypeDecl.preorder.ofDecls depth decls) :
    entry.2.members.Built := by
  induction h with
  | nil => contradiction
  | @cons depth name decl inner names decls _ _ _ ihInner ihDecls =>
      obtain ⟨hmembers, hbuilt⟩ := List.forall_mem_cons.1 hbuilt
      rw [TypeDecl.ofDecls_cons, List.mem_cons, List.mem_append] at hentry
      rcases hentry with rfl | hentry | hentry
      · exact hmembers
      · exact ihInner (fun inner hinner => hmembers.members hinner) hentry
      · exact ihDecls hbuilt hentry

end Written

/-- The declarations of a scope that was built by insertion have different names. -/
theorem Scope.Built.nodup_names (h : scope.Built) : (scope.decls.map TypeDecl.name).Nodup := by
  induction h with
  | empty => exact .nil
  | @insert scope scope' decl hscope _ hinsert ih _ =>
      obtain ⟨hnew, rfl⟩ := Scope.insert_eq_ok_iff.1 hinsert
      rw [List.map_append, List.map_singleton]
      refine List.nodup_append.2 ⟨ih, List.pairwise_singleton _ _, ?_⟩
      rintro _ hold _ hlast rfl
      obtain ⟨other, hother, hname⟩ := List.mem_map.1 hold
      obtain ⟨index, hindex⟩ := List.mem_iff_getElem?.1 hother
      have htaken := (hscope.indexed decl.name index).2
        ⟨other, hindex, hname.trans (List.mem_singleton.1 hlast)⟩
      rw [hnew] at htaken
      contradiction

/-! ## Files -/

/-- What holds of each declaration of a file: where it can stand, what it can have, and that its
span covers its name. -/
structure SoundDecl (text : String) (depth : Nat) (decl : TypeDecl) : Prop where
  atTop : decl.kind = .interface → depth = 0
  parent : decl.parent ≠ none → decl.kind = .interface
  members : decl.kind = .enum ∨ decl.kind = .typedef → decl.members = ∅
  distinct : (decl.members.decls.map TypeDecl.name).Nodup
  word : IsWord decl.name.toList
  plain : ∀ c ∈ decl.name.toList, c ≠ '.' ∧ c ≠ '@' ∧ c ≠ ':'
  covers : decl.span.Covers text.toList decl.name.toList

/-- A name token of a text writes sound declarations. -/
theorem WrittenBy.soundDecl {text : String} {tokens : List Token} {name : Token}
    (h : WrittenBy name depth decl) (htokens : tokenize text = .ok tokens) (hname : name ∈ tokens)
    (hmembers : decl.members.Built) : SoundDecl text depth decl where
  atTop := h.atTop
  parent := h.parent
  members := by
    rintro (hkind | hkind)
    all_goals
      apply h.members
      rw [hkind]
      rfl
  distinct := hmembers.nodup_names
  word := by
    rw [h.text]
    exact isWord_of_isIdentifier htokens hname h.identifier
  plain := by
    rw [h.text]
    exact h.identifier.plain
  covers := by
    rw [h.text, h.span]
    exact covers_of_tokenize htokens hname

namespace SourceFile

/-- What holds of the file that a text writes.  Its declarations are counted and compared with
outer ones before the ones inside them. -/
structure Sound (text : String) (file : SourceFile) : Prop where
  package : file.package.package ≠ "" ∧ IsDotted file.package.package.toList
  version : ∃ major minor, file.package.version.toList = '@' :: (major ++ '.' :: minor) ∧
    isDigits major = true ∧ isDigits minor = true
  localName : file.package.localName = ""
  imports : ∃ tokens, tokenize text = .ok tokens ∧ ∀ name ∈ file.imports,
    ∃ token ∈ tokens, token.kind = .name ∧ QualifiedName.parse token.text = .ok name
  interfaces : file.root.preorder.countP (fun entry => entry.2.kind = .interface) ≤ 1
  decls : ∀ entry ∈ file.root.preorder, SoundDecl text entry.1 entry.2
  distinct : (file.root.decls.map TypeDecl.name).Nodup
  ascending : (file.root.preorder.map fun entry => entry.2.span).Pairwise Span.Before

/-- Every file that a text writes is sound. -/
theorem sound_of_parseAt {path : Path} {text : String} {file : SourceFile}
    (h : parseAt path text = .ok file) : Sound text file := by
  have hparse := parseAt_eq_ok_iff.1 h
  have hbuilt := built_root_of_parse hparse
  obtain ⟨tokens, htokens, hfile⟩ := exists_tokens_of_parse hparse
  obtain ⟨⟨package, afterPackage⟩, hpackageLine, hfile⟩ := except_bind_eq_ok.1 hfile
  obtain ⟨⟨imports, afterImports⟩, himportLines, hfile⟩ := except_bind_eq_ok.1 hfile
  obtain ⟨root, hroot, hfile⟩ := except_bind_eq_ok.1 hfile
  cases hfile
  obtain ⟨keyword, written, semicolon, rfl, _, _, hname, ⟨hpackage, hversion, hlocal⟩, _⟩ :=
    packageLine_eq_ok_iff.1 hpackageLine
  obtain ⟨lines, rfl, hlines, _⟩ := importLines_eq_ok_iff.1 himportLines
  obtain ⟨names, hsublist, hdecls, hinterface⟩ := exists_names_of_readDecls hroot
  have hwellFormed : package.IsWellFormed := QualifiedName.IsWritten.isWellFormed ⟨_, hname⟩
  have hnames : names.Sublist (keyword :: written :: semicolon :: (lines ++ afterImports)) :=
    (((hsublist.trans (List.sublist_append_right _ _)).cons _).cons _).cons _
  constructor
  case package =>
    exact ⟨hpackage, hwellFormed.package_isDotted.resolve_left hpackage⟩
  case version =>
    exact exists_digits_of_isVersion (hwellFormed.isVersion_version.resolve_left hversion)
  case localName => exact hlocal
  case imports =>
    refine ⟨_, htokens, fun name hname => ?_⟩
    obtain ⟨token, htoken, hwritten⟩ := hlines.exists_token name hname
    exact ⟨token, by simp [htoken], hwritten⟩
  case interfaces =>
    rw [Scope.preorder, hdecls.countP_interface]
    exact hinterface
  case decls =>
    intro entry hentry
    obtain ⟨name, hname, hwritten⟩ := hdecls.exists_name hentry
    exact hwritten.soundDecl htokens (hnames.subset hname)
      (hdecls.members_built (fun decl hdecl => hbuilt.members hdecl) hentry)
  case distinct => exact hbuilt.nodup_names
  case ascending =>
    rw [Scope.preorder, hdecls.map_span, List.pairwise_map]
    exact (pairwise_before_of_tokenize htokens).sublist hnames

/-- An interface that extends another one, an enum inside its struct, and a typedef after it. -/
def nestedEnumText : String :=
  "package a@1.0; import b@1.0; interface I extends b@1.0::J { struct S { enum E { X }; } s; }; " ++
    "typedef S T;"

theorem sound_nestedEnumText :
    ∃ file, parseAt ⟨"hw/a/1.0/I.hal"⟩ nestedEnumText = .ok file ∧
      file.root.preorder.map (fun entry => (entry.1, entry.2.name)) =
        [(0, "I"), (1, "S"), (2, "E"), (0, "T")] ∧
      Sound nestedEnumText file := by
  have hnames : (parseAt ⟨"hw/a/1.0/I.hal"⟩ nestedEnumText).toOption.map
      (fun file => file.root.preorder.map fun entry => (entry.1, entry.2.name)) =
        some [(0, "I"), (1, "S"), (2, "E"), (0, "T")] := by decide +kernel
  cases hparse : parseAt ⟨"hw/a/1.0/I.hal"⟩ nestedEnumText with
  | error cause =>
      rw [hparse] at hnames
      contradiction
  | ok file =>
      rw [hparse] at hnames
      exact ⟨file, rfl, Option.some.inj hnames, sound_of_parseAt hparse⟩

end SourceFile

end HalPackages
