import HalPackages.Proofs.Sources.DerivedParts
import Mathlib.Data.List.Induction

/-!
# Reading derived declarations

The induction is on the derivation of a list of declarations: the reader has some
declarations of the innermost scope already and adds the derived ones, whatever
stands around the scope and whatever follows it.

A semicolon after a body belongs to the declaration, or else it is a member that
consists of nothing more; the reader goes on in the same way.
-/

namespace HalPackages

open Grammar

variable {opened : List OpenDecl} {scope : Scope} {tokens rest : List Token} {token : Token}
variable {annotations : List (List Token)} {decl : TypeDecl} {decls before : List TypeDecl}

/-! ## Scopes of declarations -/

/-- Two declarations can stand in one scope. -/
structure TypeDecl.Compatible (first second : TypeDecl) : Prop where
  name : first.name ≠ second.name
  kind : ¬ (first.kind = .interface ∧ second.kind = .interface)

namespace Scope

theorem positionsOf_append_singleton :
    positionsOf (decls ++ [decl]) = (positionsOf decls).insert decl.name decls.length := by
  rw [positionsOf, List.zipIdx_append, List.foldl_append]
  simp [positionsOf]

/-- Exactly the names of the declarations have positions. -/
theorem contains_positionsOf {name : String} :
    (positionsOf decls).contains name = true ↔ ∃ decl ∈ decls, decl.name = name := by
  induction decls using List.reverseRecOn with
  | nil => simp [positionsOf]
  | append_singleton decls decl ih =>
      rw [positionsOf_append_singleton, Std.TreeMap.contains_insert, Bool.or_eq_true, ih]
      simp only [beq_iff_eq, Std.compare_eq_iff_eq, List.mem_append, List.mem_singleton,
        or_and_right, exists_or, exists_eq_left]
      exact Or.comm

end Scope

/-- A declaration goes after the ones that it is compatible with. -/
theorem declare_ofDecls (hcompatible : (before ++ decl :: decls).Pairwise TypeDecl.Compatible) :
    declare (Scope.ofDecls before) decl = .ok (Scope.ofDecls (before ++ [decl])) := by
  have h : ∀ other ∈ before, other.Compatible decl := fun other hother =>
    (List.pairwise_append.1 hcompatible).2.2 other hother decl List.mem_cons_self
  have hname : ¬ (Scope.positionsOf before).contains decl.name = true := by
    intro htaken
    obtain ⟨other, hother, hname⟩ := Scope.contains_positionsOf.1 htaken
    exact (h other hother).name hname
  refine declare_eq_ok_iff.2 ⟨fun hkind other hother hkind' => ?_, ?_⟩
  · exact (h other hother).kind ⟨hkind', hkind⟩
  · rw [Scope.insert, Scope.ofDecls, if_neg hname, Scope.ofDecls,
      Scope.positionsOf_append_singleton]

/-! ## Single steps -/

theorem readDecls_of_going {opened' : List OpenDecl} {scope' : Scope}
    (h : advance opened scope tokens = .ok (.going opened' scope' rest)) :
    readDecls opened scope tokens = readDecls opened' scope' rest := by
  rw [readDecls]
  split
  · rename_i heq
    cases h.symm.trans heq
  · rename_i heq
    cases h.symm.trans heq
  · rename_i heq
    cases h.symm.trans heq
    rfl

theorem advance_of_annotations (h : ∀ annotation ∈ annotations, Annotation annotation)
    (hends : EndsAnnotations annotations (token :: rest)) :
    advance opened scope (annotations.flatten ++ token :: rest) =
      advanceAt opened scope token rest := by
  rw [advance, skipAnnotations_of_ends h hends]
  rfl

theorem endsAnnotations_of_startsDeclaration (h : token.kind.StartsDeclaration) :
    EndsAnnotations annotations (token :: rest) := by
  have hkind : token.kind ≠ .atWord ∧ token.kind ≠ .opening .paren := by
    constructor <;> intro hkind <;> rw [hkind] at h <;> exact h
  exact ⟨forall_mem_head?_cons.2 hkind.1, fun _ _ => forall_mem_head?_cons.2 hkind.2⟩

/-- After a header the body is read. -/
theorem readDecls_of_header {kind : TypeKind} {name : Token} {parent : Option QualifiedName}
    {header : List Token} (hannotations : ∀ annotation ∈ annotations, Annotation annotation)
    (hheader : Header kind name parent header) (hkind : kind = .interface → opened = []) :
    readDecls opened scope (annotations.flatten ++ (header ++ rest)) =
      readDecls (⟨name, kind, parent, scope⟩ :: opened) ∅ rest := by
  obtain ⟨keyword, tail, rfl, hkeyword, hadvance⟩ :=
    advanceAt_of_header scope rest hheader hkind
  apply readDecls_of_going
  rw [List.cons_append, advance_of_annotations hannotations
    (endsAnnotations_of_startsDeclaration hkeyword), hadvance]

/-- After a declaration without a body stands what follows it, but for a semicolon. -/
theorem readDecls_of_flatDecl (opened : List OpenDecl) (rest : List Token) {scope' : Scope}
    (hannotations : ∀ annotation ∈ annotations, Annotation annotation)
    (hdecl : FlatDecl decl tokens) (hdeclare : declare scope decl = .ok scope') :
    ∃ rest', Follows rest rest' ∧
      readDecls opened scope (annotations.flatten ++ (tokens ++ rest)) =
        readDecls opened scope' rest' := by
  obtain ⟨keyword, tail, rest', rfl, hkeyword, hfollows, hadvance⟩ :=
    advanceAt_of_flatDecl opened scope rest hdecl
  refine ⟨rest', hfollows, ?_⟩
  apply readDecls_of_going
  rw [List.cons_append, advance_of_annotations hannotations
    (endsAnnotations_of_startsDeclaration hkeyword), hadvance]
  change (declare scope decl >>= _) = _
  rw [hdeclare]
  rfl

/-- A step on a token that is no annotation. -/
theorem advance_of_token (h : token.kind ≠ .atWord) :
    advance opened scope (token :: rest) = advanceAt opened scope token rest := by
  rw [advance, skipAnnotations, if_neg h]
  rfl

/-- A brace ends a body, and the declaration is added to the scope around it. -/
theorem readDecls_of_closer {opening : OpenDecl} {scope' : Scope}
    (hcloser : token.kind = .closing .brace)
    (hdeclare : declare opening.outer (opening.withMembers scope) = .ok scope') :
    readDecls (opening :: opened) scope (token :: rest) =
      readDecls opened scope' (skipOptional .semicolon rest) := by
  apply readDecls_of_going
  have hword : token.kind ≠ .atWord := by
    rw [hcloser]
    exact TokenKind.noConfusion
  rw [advance_of_token hword, advanceAt.eq_def]
  simp only [hcloser]
  change (declare _ _ >>= _) = _
  rw [hdeclare]
  rfl

/-- In a body, a token that starts no declaration and does not end the body starts a member. -/
theorem advanceAt_of_starts (hopened : opened ≠ []) (hstarts : ¬ token.kind.StartsDeclaration)
    (hcloser : token.kind ≠ .closing .brace) :
    advanceAt opened scope token rest = .going opened scope <$> skipMember (token :: rest) := by
  obtain ⟨decl, outer, rfl⟩ := List.exists_cons_of_ne_nil hopened
  rw [advanceAt.eq_def]
  split
  case h_1 hkind _ | h_2 hkind _ | h_3 hkind | h_4 hkind | h_5 hkind | h_6 hkind =>
    rw [hkind] at hstarts
    exact absurd trivial hstarts
  case h_7 | h_8 => contradiction
  case h_9 => rfl

/-- No member starts with the brace that ends the body around it. -/
theorem Grammar.Member.exists_eq_cons (h : Member tokens) :
    ∃ first tail, tokens = first :: tail ∧ first.kind ≠ .closing .brace := by
  obtain ⟨body, semicolon, rfl, hbody, hsemicolon⟩ := h.ends
  cases hbody with
  | nil =>
      refine ⟨_, _, rfl, ?_⟩
      rw [hsemicolon]
      exact TokenKind.noConfusion
  | plain htoken =>
      refine ⟨_, _, rfl, ?_⟩
      intro hkind
      rw [hkind] at htoken
      exact htoken trivial
  | group hgroup =>
      obtain ⟨opener, tail, rfl, hopener⟩ := hgroup.exists_eq_cons
      refine ⟨_, _, rfl, ?_⟩
      rw [hopener]
      exact TokenKind.noConfusion

/-- A member is passed over. -/
theorem readDecls_of_member {member : List Token} (hopened : opened ≠ [])
    (hannotations : ∀ annotation ∈ annotations, Annotation annotation) (hmember : Member member)
    (hparen : ∀ word, annotations.getLast? = some [word] →
      ∀ token ∈ member.head?, token.kind ≠ .opening .paren) :
    readDecls opened scope (annotations.flatten ++ (member ++ rest)) =
      readDecls opened scope rest := by
  obtain ⟨first, tail, rfl, hcloser⟩ := hmember.exists_eq_cons
  obtain ⟨hstarts, hword⟩ := hmember.starts first rfl
  have hends : EndsAnnotations annotations (first :: (tail ++ rest)) := by
    refine ⟨forall_mem_head?_cons.2 hword, fun word hlast => forall_mem_head?_cons.2 ?_⟩
    exact hparen word hlast first rfl
  apply readDecls_of_going
  rw [List.cons_append, advance_of_annotations hannotations hends,
    advanceAt_of_starts hopened hstarts hcloser, ← List.cons_append, skipMember_of_member hmember]
  rfl

/-! ## Semicolons -/

/-- In a body, a semicolon that belongs to no declaration is a member. -/
theorem readDecls_skipOptional (h : opened ≠ [] ∨ ∀ token ∈ rest.head?, token.kind ≠ .semicolon) :
    readDecls opened scope (skipOptional .semicolon rest) = readDecls opened scope rest := by
  cases rest with
  | nil => rfl
  | cons token rest =>
      rw [skipOptional]
      split
      case isFalse => rfl
      case isTrue hsemicolon =>
        have hopened : opened ≠ [] := h.resolve_right fun hother => hother token rfl hsemicolon
        have hmember : Member [token] := by
          refine ⟨⟨[], token, rfl, .nil, hsemicolon⟩, forall_mem_head?_cons.2 ?_⟩
          rw [hsemicolon]
          exact ⟨id, TokenKind.noConfusion⟩
        have hread : readDecls opened scope (List.flatten [] ++ ([token] ++ rest)) =
            readDecls opened scope rest :=
          readDecls_of_member hopened (fun _ hannotation => absurd hannotation List.not_mem_nil)
            hmember (fun _ hlast => by contradiction)
        exact hread.symm

theorem readDecls_of_follows {rest' : List Token} (hfollows : Follows rest rest')
    (h : opened ≠ [] ∨ ∀ token ∈ rest.head?, token.kind ≠ .semicolon) :
    readDecls opened scope rest' = readDecls opened scope rest := by
  rcases hfollows with rfl | rfl
  · rfl
  · exact readDecls_skipOptional h

/-- Annotations start with their word. -/
theorem head?_flatten_append (h : ∀ annotation ∈ annotations, Annotation annotation)
    (htoken : token ∈ (annotations.flatten ++ rest).head?) :
    token.kind = .atWord ∨ token ∈ rest.head? := by
  cases annotations with
  | nil => exact Or.inr htoken
  | cons annotation annotations =>
      obtain ⟨word, tail, rfl, hword⟩ := (h annotation List.mem_cons_self).exists_eq_cons
      left
      rw [← Option.some.inj htoken]
      exact hword

/-- At the top level of a file, what starts a declaration or an annotation comes first. -/
theorem Grammar.Items.starts (h : Items .file tokens decls) :
    ∀ token ∈ tokens.head?, token.kind = .atWord ∨ token.kind.StartsDeclaration := by
  intro token htoken
  cases h with
  | nil => contradiction
  | nested hannotations hheader =>
      obtain ⟨keyword, tail, rfl, hkeyword, _⟩ := advanceAt_of_header ∅ [] hheader fun _ => rfl
      refine (head?_flatten_append hannotations htoken).imp_right fun hfirst => ?_
      rw [← Option.some.inj hfirst]
      exact hkeyword
  | flat hannotations hdecl =>
      obtain ⟨keyword, tail, _, rfl, hkeyword, _⟩ := advanceAt_of_flatDecl [] ∅ [] hdecl
      refine (head?_flatten_append hannotations htoken).imp_right fun hfirst => ?_
      rw [← Option.some.inj hfirst]
      exact hkeyword

theorem Grammar.Items.head_ne {kind : TokenKind} (h : Items .file tokens decls)
    (hword : kind ≠ .atWord) (hkind : ¬ kind.StartsDeclaration) :
    ∀ token ∈ tokens.head?, token.kind ≠ kind := by
  rintro token htoken rfl
  exact (h.starts token htoken).elim hword hkind

/-! ## Derivations -/

/-- Bodies declare no interfaces. -/
theorem Grammar.Items.kind_ne_interface (h : Items .body tokens decls) :
    ∀ decl ∈ decls, decl.kind ≠ .interface := by
  generalize hlevel : Level.body = level at h
  induction h with
  | nil => exact fun _ hdecl => absurd hdecl List.not_mem_nil
  | nested _ _ hkind _ _ _ _ _ _ ih =>
      subst hlevel
      refine List.forall_mem_cons.2 ⟨?_, ih rfl⟩
      intro hinterface
      cases hkind hinterface
  | flat _ hdecl _ ih =>
      refine List.forall_mem_cons.2 ⟨?_, ih hlevel⟩
      cases hdecl <;> exact TypeKind.noConfusion
  | member _ _ _ _ ih => exact ih hlevel

theorem pairwise_compatible_of_body (h : Items .body tokens decls)
    (hnames : (decls.map TypeDecl.name).Nodup) : decls.Pairwise TypeDecl.Compatible := by
  refine (List.pairwise_map.1 hnames).imp_of_mem ?_
  intro first second hfirst _ hname
  exact ⟨hname, fun hkinds => h.kind_ne_interface first hfirst hkinds.1⟩

theorem pairwise_compatible_of_file (hnames : (decls.map TypeDecl.name).Nodup)
    (hinterface : decls.countP (·.kind = .interface) ≤ 1) :
    decls.Pairwise TypeDecl.Compatible := by
  induction decls with
  | nil => exact .nil
  | cons first decls ih =>
      obtain ⟨hfirst, hnames⟩ := List.nodup_cons.1 hnames
      rw [List.countP_cons] at hinterface
      refine .cons ?_ (ih hnames (Nat.le_of_add_right_le hinterface))
      intro second hsecond
      refine ⟨fun hname => hfirst (hname ▸ List.mem_map_of_mem hsecond), ?_⟩
      rintro ⟨hkind, hkind'⟩
      have hpositive : 0 < decls.countP (·.kind = .interface) :=
        List.countP_pos_iff.2 ⟨second, hsecond, decide_eq_true hkind'⟩
      simp only [hkind, decide_true, if_true] at hinterface
      omega

/-- Where the reader is when it reads declarations of a level: in a body, or at the top of a file
with nothing after them. -/
def Grammar.Level.Fits (level : Level) (opened : List OpenDecl) (rest : List Token) : Prop :=
  match level with
  | file => opened = [] ∧ rest = []
  | body => opened ≠ []

theorem Grammar.Level.Fits.not_semicolon {level : Level} (hlevel : level.Fits opened rest)
    (h : Items level tokens decls) :
    opened ≠ [] ∨ ∀ token ∈ (tokens ++ rest).head?, token.kind ≠ .semicolon := by
  cases level with
  | body => exact Or.inl hlevel
  | file =>
      obtain ⟨_, rfl⟩ := hlevel
      rw [List.append_nil]
      exact Or.inr (h.head_ne TokenKind.noConfusion id)

/-- What is derived is read, and the derived declarations are added. -/
theorem readDecls_of_items {level : Level} (h : Items level tokens decls)
    (hlevel : level.Fits opened rest)
    (hcompatible : (before ++ decls).Pairwise TypeDecl.Compatible) :
    readDecls opened (Scope.ofDecls before) (tokens ++ rest) =
      readDecls opened (Scope.ofDecls (before ++ decls)) rest := by
  induction h generalizing opened before rest with
  | nil => rw [List.nil_append, List.append_nil]
  | @nested level kind name closer parent annotations header inner ending others members decls
      hannotations hheader hkind hinner hnames hcloser hending hothers ihInner ihOthers =>
      have hopened : kind = .interface → opened = [] := by
        intro hinterface
        rw [hkind hinterface] at hlevel
        exact hlevel.1
      set opening : OpenDecl := ⟨name, kind, parent, Scope.ofDecls before⟩
      set decl := opening.withMembers (Scope.ofDecls members)
      have hdeclare : declare opening.outer decl = .ok (Scope.ofDecls (before ++ [decl])) :=
        declare_ofDecls hcompatible
      have hfollows :
          Follows (others ++ rest) (skipOptional .semicolon (ending ++ (others ++ rest))) :=
        follows_of_ending hending
      have hcompatible' : ((before ++ [decl]) ++ decls).Pairwise TypeDecl.Compatible := by
        rw [← List.append_cons]
        exact hcompatible
      calc
        readDecls opened (Scope.ofDecls before)
            (annotations.flatten ++ (header ++ (inner ++ closer :: (ending ++ others))) ++ rest)
          = readDecls opened (Scope.ofDecls before) (annotations.flatten ++
              (header ++ (inner ++ closer :: (ending ++ (others ++ rest))))) := by
            simp only [List.append_assoc, List.cons_append]
        _ = readDecls (opening :: opened) (Scope.ofDecls [])
              (inner ++ closer :: (ending ++ (others ++ rest))) :=
            readDecls_of_header hannotations hheader hopened
        _ = readDecls (opening :: opened) (Scope.ofDecls members)
              (closer :: (ending ++ (others ++ rest))) :=
            ihInner (List.cons_ne_nil _ _) (pairwise_compatible_of_body hinner hnames)
        _ = readDecls opened (Scope.ofDecls (before ++ [decl]))
              (skipOptional .semicolon (ending ++ (others ++ rest))) :=
            readDecls_of_closer hcloser hdeclare
        _ = readDecls opened (Scope.ofDecls (before ++ [decl])) (others ++ rest) :=
            readDecls_of_follows hfollows (hlevel.not_semicolon hothers)
        _ = readDecls opened (Scope.ofDecls (before ++ [decl] ++ decls)) rest :=
            ihOthers hlevel hcompatible'
        _ = readDecls opened (Scope.ofDecls (before ++ decl :: decls)) rest := by
            rw [← List.append_cons]
  | @flat level annotations decl tokens others decls hannotations hdecl hothers ih =>
      have hdeclare :
          declare (Scope.ofDecls before) decl = .ok (Scope.ofDecls (before ++ [decl])) :=
        declare_ofDecls hcompatible
      have hcompatible' : ((before ++ [decl]) ++ decls).Pairwise TypeDecl.Compatible := by
        rw [← List.append_cons]
        exact hcompatible
      obtain ⟨rest', hfollows, hread⟩ :=
        readDecls_of_flatDecl opened (others ++ rest) hannotations hdecl hdeclare
      calc
        readDecls opened (Scope.ofDecls before) (annotations.flatten ++ (tokens ++ others) ++ rest)
          = readDecls opened (Scope.ofDecls before)
              (annotations.flatten ++ (tokens ++ (others ++ rest))) := by
            simp only [List.append_assoc]
        _ = readDecls opened (Scope.ofDecls (before ++ [decl])) rest' := hread
        _ = readDecls opened (Scope.ofDecls (before ++ [decl])) (others ++ rest) :=
            readDecls_of_follows hfollows (hlevel.not_semicolon hothers)
        _ = readDecls opened (Scope.ofDecls (before ++ [decl] ++ decls)) rest :=
            ih hlevel hcompatible'
        _ = readDecls opened (Scope.ofDecls (before ++ decl :: decls)) rest := by
            rw [← List.append_cons]
  | @member annotations member others decls hannotations hmember hparen hothers ih =>
      rw [List.append_assoc, List.append_assoc,
        readDecls_of_member hlevel hannotations hmember hparen]
      exact ih hlevel hcompatible

end HalPackages
