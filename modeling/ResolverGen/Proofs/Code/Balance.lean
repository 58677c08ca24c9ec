/-
The levels of a layout.

The layout of every tree is balanced: statements by recursion (`Stmt.balanced_layout`,
`balanced_layoutAll`), then methods, members and types (`TypeDecl.balanced_layout`).

What has been written of balanced steps at some point is `Opens n`: balanced steps with `n` levels
taken among them that are still there. The depth of the page is that number (`Opens.depth_run`), so no
level is given back that has not been taken (`Balanced.depth_pos`), and each line stands behind four
blanks for every level. `units_settle` says so of the calls by which the units of an entity are
written.
-/
import ResolverGen.Proofs.Code.Calls

namespace ResolverGen

namespace Code

open Layout (Balanced)

/-! ### Layouts are balanced -/

theorem balanced_giveBuilt (type : TypeName) (calls : List (String × List Expr)) :
    Balanced (Stmt.giveBuilt type calls).layout := by
  rw [Stmt.layout]
  refine .line _ (Balanced.nested (Balanced.lines _ fun s hs => ?_) 1)
  rcases List.mem_append.1 hs with hs | hs
  · obtain ⟨⟨method, arguments⟩, -, rfl⟩ := List.mem_map.1 hs
    exact ⟨_, rfl⟩
  · exact ⟨_, List.mem_singleton.1 hs⟩

theorem balanced_runWith (target : Expr) (method : String) :
    (parts : List String) → Balanced (Stmt.runWith target method parts).layout
  | [] => .nil
  | [_] => .line _ .nil
  | _ :: part :: parts =>
    .line _ (Balanced.nested (balanced_partLines (part :: parts)) continuationLevels)

theorem balanced_superCall : (arguments : List Expr) → Balanced (Stmt.superCall arguments).layout
  | [] => .line _ .nil
  | [_] => .line _ .nil
  | _ :: e :: es => .line _ (Balanced.nested (balanced_argumentLines (e :: es)) 1)

mutual

theorem Stmt.balanced_layout : (s : Stmt) → Balanced s.layout
  | .blank => .line "" .nil
  | .run _ => .line _ .nil
  | .declare _ _ _ => .line _ .nil
  | .assign _ _ => .line _ .nil
  | .give _ => .line _ .nil
  | .guarded _ body => (balanced_layoutAll body).block
  | .giveBuilt type calls => balanced_giveBuilt type calls
  | .runWith target method parts => balanced_runWith target method parts
  | .superCall arguments => balanced_superCall arguments

theorem balanced_layoutAll : (body : List Stmt) → Balanced (layoutAll body)
  | [] => .nil
  | s :: rest => s.balanced_layout.append (balanced_layoutAll rest)

end

theorem balanced_optionalComment (comment : Option String) :
    Balanced ((comment.map Layout.comment).getD []) := by
  cases comment with
  | none => exact .nil
  | some text => exact balanced_comment text

theorem Method.balanced_layout (m : Method) : Balanced m.layout := by
  refine ((balanced_optionalComment m.comment).append ?_).append (balanced_layoutAll m.body).block
  refine Balanced.lines _ fun s hs => ?_
  obtain ⟨a, -, rfl⟩ := List.mem_map.1 hs
  exact ⟨_, rfl⟩

theorem Member.balanced_layout (m : Member) : Balanced m.layout := by
  cases m with
  | constant type name value => exact .line _ .nil
  | method m => exact m.balanced_layout

theorem balanced_layoutMembers : (members : List Member) → Balanced (layoutMembers members)
  | [] => .nil
  | [m] => m.balanced_layout
  | m :: n :: rest =>
    (m.balanced_layout.append (.line "" .nil)).append (balanced_layoutMembers (n :: rest))

theorem TypeDecl.balanced_layout (d : TypeDecl) : Balanced d.layout :=
  (balanced_optionalComment d.comment).append (balanced_layoutMembers d.members).block

namespace Layout

/-! ### Levels that are there at some point -/

/-- Whether steps take a number of levels that they do not give back, and are balanced between
them. -/
inductive Opens : Nat → List Step → Prop
  | none {steps : List Step} : Balanced steps → Opens 0 steps
  | one {n : Nat} {before body : List Step} : Opens n before → Balanced body →
      Opens (n + 1) (before ++ .indent :: body)

variable {n : Nat} {steps before after : List Step}

theorem Opens.prepend {balanced : List Step} (hbalanced : Balanced balanced)
    (h : Opens n steps) : Opens n (balanced ++ steps) := by
  induction h with
  | none hsteps => exact .none (hbalanced.append hsteps)
  | one _ hbody ih =>
    rw [← List.append_assoc]
    exact .one ih hbody

theorem Opens.under_indent (h : Opens n steps) : Opens (n + 1) (.indent :: steps) := by
  induction h with
  | none hsteps => exact .one (.none .nil) hsteps
  | one _ hbody ih => exact .one ih hbody

/-- At every point of balanced steps some levels are there. -/
theorem Balanced.exists_opens (h : Balanced steps) (hsteps : steps = before ++ after) :
    ∃ n, Opens n before := by
  induction h generalizing before after with
  | nil =>
    obtain ⟨rfl, -⟩ := List.append_eq_nil_iff.1 hsteps.symm
    exact ⟨0, .none .nil⟩
  | line text _ ih =>
    rcases List.cons_eq_append_iff.1 hsteps with ⟨rfl, -⟩ | ⟨before, rfl, hrest⟩
    · exact ⟨0, .none .nil⟩
    · obtain ⟨n, hn⟩ := ih hrest
      exact ⟨n, hn.prepend (.line text .nil)⟩
  | @nest body rest hbody _ ihBody ihRest =>
    rw [List.cons_append] at hsteps
    rcases List.cons_eq_append_iff.1 hsteps with ⟨rfl, -⟩ | ⟨before, rfl, hpoint⟩
    · exact ⟨0, .none .nil⟩
    -- the point lies inside the level, at its end, or behind it
    rcases List.append_eq_append_iff.1 hpoint with ⟨inside, rfl, hrest⟩ | ⟨inside, hbefore, -⟩
    · cases inside with
      | nil =>
        rw [List.append_nil]
        exact ⟨1, .one (.none .nil) hbody⟩
      | cons step inside =>
        obtain ⟨rfl, hbehind⟩ := List.cons.inj hrest
        obtain ⟨n, hn⟩ := ihRest hbehind
        refine ⟨n, ?_⟩
        have hlevel : Balanced (.indent :: body ++ [.unindent]) := .nest hbody .nil
        simpa using hn.prepend hlevel
    · obtain ⟨n, hn⟩ := ihBody hbefore
      exact ⟨n + 1, hn.under_indent⟩

/-! ### What they do to a page -/

/-- The depth grows by the levels that are there. -/
theorem Opens.depth_run (h : Opens n steps) (p : Page) : (p.run steps).depth = p.depth + n := by
  induction h with
  | none hsteps => exact hsteps.depth_run p
  | @one n before body _ hbody ih =>
    rw [Page.run_append]
    calc ((p.run before).run (.indent :: body)).depth
      _ = ((p.run before).step .indent).depth := hbody.depth_run _
      _ = (p.run before).depth + 1 := rfl
      _ = p.depth + (n + 1) := by rw [ih, Nat.add_assoc]

theorem Balanced.count_eq (h : Balanced steps) : steps.count .indent = steps.count .unindent := by
  induction h with
  | nil => rfl
  | line text _ ih => simpa using ih
  | nest _ _ ihBody ihRest =>
    rw [List.cons_append, List.count_cons_self, List.count_append, ihBody,
      List.count_cons_of_ne (by decide), ihRest, List.count_cons_of_ne (by decide),
      List.count_append, List.count_cons_self]
    omega

theorem Opens.count_eq (h : Opens n steps) :
    steps.count .indent = steps.count .unindent + n := by
  induction h with
  | none hsteps => exact hsteps.count_eq
  | one _ hbody ih =>
    rw [List.count_append, List.count_cons_self, ih, hbody.count_eq, List.count_append,
      List.count_cons_of_ne (by decide)]
    omega

/-- No level is given back that has not been taken. -/
theorem Balanced.depth_pos (h : Balanced steps) (hsteps : steps = before ++ .unindent :: after)
    (p : Page) : 0 < (p.run before).depth := by
  have hbehind : steps = before ++ [.unindent] ++ after := by simpa using hsteps
  obtain ⟨n, hn⟩ := h.exists_opens hsteps
  obtain ⟨m, hm⟩ := h.exists_opens hbehind
  have hcount : before.count .indent = before.count .unindent + 1 + m := by
    simpa using hm.count_eq
  have hpos : 0 < n := by
    have := hn.count_eq
    omega
  rw [hn.depth_run p]
  omega

theorem margin_eq (n : Nat) : margin n = String.ofList (List.replicate (4 * n) ' ') := by
  induction n with
  | zero => rfl
  | succ n ih =>
    have hblanks : "    " = String.ofList (List.replicate 4 ' ') := by decide
    rw [margin, ih, hblanks, ← String.ofList_append, List.replicate_append_replicate,
      Nat.mul_succ, Nat.add_comm]

end Layout

/-! ### Units -/

open Layout (Opens Page margin)

/-- Whether a unit is what some calls write, and the levels of these calls come out even. -/
structure SourceUnit.Settles (u : SourceUnit) (calls : List Call) : Prop where
  /-- The file is what the calls have written in the end, behind package and imports. -/
  file : u.source = u.scope.render (Page.blank.run (Call.stepsAll calls)).text
  /-- Where a level is given back, there is one. -/
  unindent : ∀ before after, Call.stepsAll calls = before ++ .unindent :: after →
    0 < (Page.blank.run before).depth
  /-- In the end no level is there. -/
  settled : (Page.blank.run (Call.stepsAll calls)).depth = 0
  /-- A line is indented by four blanks for each level that is there: the levels that have been taken
  before it, less those that have been given back. An empty line has nothing to be indented. -/
  line : ∀ before text after, Call.stepsAll calls = before ++ .line text :: after →
    ∃ n, Opens n before ∧ before.count .indent = before.count .unindent + n ∧
      margin (Page.blank.run before).depth = String.ofList (List.replicate (4 * n) ' ') ∧
      (Page.blank.run (before ++ [.line text])).text = (Page.blank.run before).text ++
        (if text = "" then "" else String.ofList (List.replicate (4 * n) ' ') ++ text) ++ "\n"

theorem SourceUnit.settles {u : SourceUnit} {calls : List Call}
    (h : u.decl.layout = Call.stepsAll calls) : u.Settles calls := by
  -- nothing is known of the calls but that they lay out a tree
  have hbalanced : Balanced (Call.stepsAll calls) := h ▸ u.decl.balanced_layout
  refine
    { file := by rw [← h]; rfl
      unindent := fun _ _ hsplit => hbalanced.depth_pos hsplit Page.blank
      settled := hbalanced.depth_run Page.blank
      line := fun before text after hsplit => ?_ }
  obtain ⟨n, hn⟩ := hbalanced.exists_opens hsplit
  have hdepth : (Page.blank.run before).depth = n :=
    (hn.depth_run Page.blank).trans (Nat.zero_add n)
  have hmargin : margin (Page.blank.run before).depth =
      String.ofList (List.replicate (4 * n) ' ') := by
    rw [hdepth, Layout.margin_eq]
  refine ⟨n, hn, hn.count_eq, hmargin, ?_⟩
  rw [Page.run_append, ← hmargin]
  exact Page.text_line _ text

end Code

/-- Each of the five units is what its emitter's calls write, and their levels come out even, whatever
the columns, the creator, the configuration and the library are. -/
theorem Entity.units_settle (r : Runtime) (e : Entity) (table : String) :
    (Resolver.Put.unit r e).Settles (Resolver.Put.calls r e) ∧
      (Resolver.Get.unit r e).Settles (Resolver.Get.calls r e) ∧
      (Resolver.Delete.unit r e).Settles (Resolver.Delete.calls r e) ∧
      (Resolver.Mapping.unit r e).Settles (Resolver.Mapping.calls r e) ∧
      (TableClass.unit table e).Settles (TableClass.calls table e) :=
  ⟨Code.SourceUnit.settles (Resolver.Put.layout_unit e r),
    Code.SourceUnit.settles (Resolver.Get.layout_unit r e),
    Code.SourceUnit.settles (Resolver.Delete.layout_unit r e),
    Code.SourceUnit.settles (Resolver.Mapping.layout_unit r e),
    Code.SourceUnit.settles (TableClass.layout_unit table e)⟩

end ResolverGen
