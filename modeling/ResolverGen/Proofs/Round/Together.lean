/-
Rounds that write to one store.

What is in a store makes no difference to a round whose units go by other names: it writes and
reports what it does over an empty store, and its sources come to lie over those that were there
(`round_atop`). Units of different backends never go by the same name, so

* `roundsOf_apart` — rounds of different backends do over one store what each of them does alone,
* `units_apart` — the name of a unit is its own, so that no round is ever hindered by a name that is
  taken where the classes have names of their own.
-/
import ResolverGen.Proofs.Round.UnitNames

namespace ResolverGen

open Code

namespace Sources

/-- Sources that lie over others. -/
def atop (t s : Sources) : Sources := ⟨t.files ++ s.files⟩

/-- Whether no source goes by one of some names. -/
def Lacks (s : Sources) (names : List String) : Prop := ∀ name ∈ names, s.find? name = none

variable {s t : Sources} {u : SourceUnit} {units : List SourceUnit} {names : List String}

theorem empty_atop (s : Sources) : empty.atop s = s := rfl

theorem empty_lacks (names : List String) : empty.Lacks names := fun _ _ => rfl

theorem find?_atop (t s : Sources) (name : String) :
    (t.atop s).find? name = (t.find? name).or (s.find? name) :=
  List.lookup_append

theorem Lacks.atop (ht : t.Lacks names) (hs : s.Lacks names) : (t.atop s).Lacks names := by
  intro name hname
  rw [find?_atop, ht name hname, hs name hname]
  rfl

theorem write_atop (h : s.find? u.qualifiedName = none) :
    (t.atop s).write u = (t.write u).map (·.atop s) := by
  unfold write
  rw [find?_atop, h, Option.or_none]
  cases t.find? u.qualifiedName <;> rfl

end Sources

/-- Sources of other names make no difference to what is written over them. -/
theorem writeAll_atop {units : List SourceUnit} {s : Sources}
    (h : s.Lacks (units.map (·.qualifiedName))) (t : Sources) :
    writeAll Sources.write units (t.atop s) =
      { writeAll Sources.write units t with
        store := (writeAll Sources.write units t).store.atop s } := by
  induction units generalizing t with
  | nil => rfl
  | cons u units ih =>
    have hu : s.find? u.qualifiedName = none := h _ (by simp)
    have ih := ih fun name hname => h name (List.mem_cons_of_mem _ hname)
    unfold writeAll
    rw [Sources.write_atop hu]
    cases t.write u with
    | error reason => rfl
    | ok t' =>
      dsimp only [Except.map]
      rw [ih]

/-- Rounds with the same outcome, whatever the stores that they write to. -/
structure Round.SameOutcome {σ : Type} (r r' : Round σ) : Prop where
  generated : r.generated = r'.generated
  diagnostics : r.diagnostics = r'.diagnostics
  processor : r.processor = r'.processor

namespace Processor

variable {p : Processor} {m : Model} {s : Sources}

/-- The names of the units that a round writes until one cannot be written. -/
def unitNames (p : Processor) (m : Model) : List String := (p.emission m).map (·.qualifiedName)

/-- A round over sources of other names does what it does alone. -/
theorem round_atop (h : s.Lacks (p.unitNames m)) :
    (p.round m Sources.write s).SameOutcome (p.round m Sources.write .empty) ∧
      (p.round m Sources.write s).store = (p.round m Sources.write .empty).store.atop s := by
  unfold unitNames emission accepted at h
  unfold round
  cases hunits : p.units m with
  | mk result c =>
  rw [hunits] at h
  cases result with
  | error f => exact ⟨⟨rfl, rfl, rfl⟩, rfl⟩
  | ok units =>
    obtain ⟨-, -, rfl⟩ := units_ok hunits
    have hwrite := writeAll_atop h .empty
    rw [Sources.empty_atop] at hwrite
    dsimp only
    rw [hwrite]
    exact ⟨⟨rfl, rfl, rfl⟩, rfl⟩

/-- A round over no sources leaves sources of its own units only. -/
theorem round_lacks {names : List String} (h : ∀ name ∈ names, name ∉ p.unitNames m) :
    (p.round m Sources.write .empty).store.Lacks names := by
  intro name hname
  obtain ⟨added, rest, hall, -, hfiles, -⟩ := writeAll_sources (p.emission m) .empty
  rw [Sources.find?, (p.round_eq Sources.write .empty).2, hfiles, Sources.empty, List.append_nil,
    lookup_filesOf_eq_none_iff]
  intro hadded
  obtain ⟨u, hu, rfl⟩ := List.mem_map.1 hadded
  exact h _ hname (List.mem_map_of_mem (hall ▸ List.mem_append_left rest hu))

end Processor

/-- The sources that rounds leave each of which writes to a store of its own, the later ones over
the earlier ones. -/
def layered (m : Model) (ps : List Processor) (s : Sources) : Sources :=
  ps.foldl (fun s p => (p.round m Sources.write .empty).store.atop s) s

/-- Rounds of different backends do over one store what each of them does alone, where no name is
taken before. -/
theorem roundsOf_apart {m : Model} {ps : List Processor} (hbackends : (ps.map (·.backend)).Nodup)
    {s : Sources} (hs : ∀ p ∈ ps, s.Lacks (p.unitNames m)) :
    List.Forall₂ (fun p r => r.SameOutcome (p.round m Sources.write .empty)) ps
        (roundsOf m Sources.write ps s).1 ∧
      (roundsOf m Sources.write ps s).2 = layered m ps s := by
  induction ps generalizing s with
  | nil => exact ⟨.nil, rfl⟩
  | cons p ps ih =>
    rw [List.map_cons, List.nodup_cons] at hbackends
    obtain ⟨hsame, hstore⟩ := Processor.round_atop (hs p List.mem_cons_self)
    -- the first round takes no name that a later one needs
    have hnext : ∀ q ∈ ps, (p.round m Sources.write s).store.Lacks (q.unitNames m) := by
      intro q hq
      have hne : q.backend ≠ p.backend := by
        intro heq
        exact hbackends.1 (heq ▸ List.mem_map_of_mem hq)
      rw [hstore]
      exact (Processor.round_lacks (Processor.disjoint_emission hne)).atop
        (hs q (List.mem_cons_of_mem p hq))
    obtain ⟨hrest, hlast⟩ := ih hbackends.2 hnext
    refine ⟨.cons hsame hrest, ?_⟩
    rw [layered, List.foldl_cons, ← hstore]
    exact hlast

/-! ### Rounds that no taken name hinders -/

namespace Processor

/-- The faults that a round over a model finds before it writes anything. -/
def faults (p : Processor) (m : Model) : List Fault :=
  (p.units m).2.warnings ++
    match (p.units m).1 with
    | .error f => [f]
    | .ok _ => []

theorem faults_kind {p : Processor} {m : Model} : ∀ f ∈ p.faults m, f.cause.kind ≠ .output := by
  intro f hf
  rcases List.mem_append.1 hf with hwarning | herror
  · rw [units_warns f hwarning]
    decide
  · split at herror
    · next g hunits =>
      rw [List.mem_singleton] at herror
      rw [herror]
      exact (units_fails g hunits).kind_ne.2
    · exact absurd herror List.not_mem_nil

end Processor

/-- What a round gives that can write all of its units: it reports faults of the model alone. -/
structure Round.Unhindered {σ : Type} (r : Round σ) (p : Processor) (m : Model) : Prop where
  generated : r.generated = p.unitNames m
  diagnostics : r.diagnostics = (p.faults m).map Fault.report
  ofModel : ∀ f ∈ p.faults m, f.cause.kind ≠ .output

theorem Round.SameOutcome.unhindered {σ : Type} {r r' : Round σ} {p : Processor} {m : Model}
    (h : r.SameOutcome r') (hr' : r'.Unhindered p m) : r.Unhindered p m :=
  ⟨h.generated.trans hr'.generated, h.diagnostics.trans hr'.diagnostics, hr'.ofModel⟩

/-- Units with names of their own can all be written to an empty store. -/
theorem writeAll_of_nodup {units : List SourceUnit} (h : (units.map (·.qualifiedName)).Nodup) :
    (writeAll Sources.write units .empty).names = units.map (·.qualifiedName) ∧
      (writeAll Sources.write units .empty).failure = none := by
  obtain ⟨added, rest, rfl, hnames, -, -, -, hend⟩ := writeAll_sources units .empty
  rcases hend with ⟨rfl, hfailure⟩ | ⟨u, more, reason, rfl, -, htaken⟩
  · rw [List.append_nil] at hnames hfailure ⊢
    exact ⟨hnames, hfailure⟩
  · -- the name could only be that of an earlier unit
    rcases htaken with htaken | htaken
    · cases htaken
    · rw [List.map_append, List.map_cons] at h
      exact absurd List.mem_cons_self (List.disjoint_of_nodup_append h htaken)

/-- A round whose units have names of their own can write them all to an empty store. -/
theorem Processor.round_unhindered {p : Processor} {m : Model} (h : (p.unitNames m).Nodup) :
    (p.round m Sources.write .empty).Unhindered p m := by
  refine ⟨?_, ?_, faults_kind⟩
  · rw [(p.round_eq Sources.write .empty).1]
    exact (writeAll_of_nodup h).1
  · unfold unitNames emission accepted at h
    unfold round faults
    cases hunits : p.units m with
    | mk result c =>
    rw [hunits] at h
    cases result with
    | error f => rfl
    | ok units =>
      obtain ⟨-, -, rfl⟩ := units_ok hunits
      simp only [(writeAll_of_nodup h).2]
      rfl

namespace Processor

variable {p : Processor} {m : Model} {units : List SourceUnit} {c : Collection}

/-- A round over no sources that has units for all classes, under names of their own, writes them
all. -/
theorem round_of_units (hunits : p.units m = (.ok units, c))
    (hnodup : (m.emissionNames p.backend).Nodup) :
    (p.round m Sources.write .empty).succeeded = true ∧
      (p.round m Sources.write .empty).generated = m.emissionNames p.backend ∧
      (p.round m Sources.write .empty).store.files = filesOf units ∧
      (p.round m Sources.write .empty).count .warning =
        ((m.annotatedWith p.backend.vocabulary.column.qualified).filter
          (m.passesOver p.backend.vocabulary)).length := by
  obtain ⟨error, added, haccounts⟩ := accounts_of_units hunits .empty
  have hemission := emission_of_units hunits
  have hnone : error = none := by
    cases herror : error with
    | none => rfl
    | some f =>
      by_cases hkind : f.cause.kind = .output
      · -- the store refuses no unit, since the names differ
        obtain ⟨name, more, hnames, htaken⟩ := haccounts.refused f herror hkind
        rw [hnames] at hnodup
        rcases htaken with htaken | htaken
        · cases htaken
        · exact absurd List.mem_cons_self (List.disjoint_of_nodup_append hnodup htaken)
      · have hfault := (haccounts.ofModel f).2 ⟨herror, hkind⟩
        rw [hunits] at hfault
        cases hfault
  obtain ⟨hgenerated, hwarnings⟩ := haccounts.complete hnone
  -- all units are added, since all names are given
  have hadded : added = units := by
    have hlength := congrArg List.length (haccounts.generated.symm.trans hgenerated)
    rw [← emission_qualifiedName hunits, List.length_map, List.length_map] at hlength
    rw [← hemission]
    exact haccounts.inOrder.eq_of_length hlength
  refine ⟨?_, hgenerated, ?_, haccounts.warningCount.trans hwarnings⟩
  · rw [Round.succeeded, haccounts.errorCount, hnone]
    rfl
  · rw [haccounts.files, hadded]
    exact List.append_nil _

/-- A round over no sources that succeeds has units for all classes, under names of their own. -/
theorem units_of_succeeded (h : (p.round m Sources.write .empty).succeeded = true) :
    ∃ units c, p.units m = (.ok units, c) ∧ (m.emissionNames p.backend).Nodup := by
  have hcount : (p.round m Sources.write .empty).count .error = 0 := of_decide_eq_true h
  cases hunits : p.units m with
  | mk result c =>
  cases result with
  | error f =>
    rw [(accounts_of_fault hunits .empty).errorCount] at hcount
    cases hcount
  | ok units =>
    obtain ⟨error, added, haccounts⟩ := accounts_of_units hunits .empty
    rw [haccounts.errorCount, List.length_eq_zero_iff, Option.toList_eq_nil_iff] at hcount
    refine ⟨units, c, rfl, ?_⟩
    rw [← (haccounts.complete hcount).1]
    exact haccounts.distinct

end Processor

/-- **Units never collide.** Two units go by the same name only if they are of the same kind, of the
same backend, and of classes of the same name. So over one store, rounds of different backends write
all that they have to write, and report faults of the model alone, where classes have names of their
own. -/
theorem units_apart :
    (∀ (e e' : Entity) (u u' : SourceUnit), u ∈ e.units e.config.backend →
      u' ∈ e'.units e'.config.backend → u.qualifiedName = u'.qualifiedName →
        e.config.backend = e'.config.backend ∧ e.className.qualified = e'.className.qualified ∧
          ∃ k, e.unit? e.config.backend k = some u ∧ e'.unit? e'.config.backend k = some u') ∧
    ∀ (m : Model) (ps : List Processor), (ps.map (·.backend)).Nodup →
      (∀ p ∈ ps, m.HasDistinctClasses p.backend) →
        List.Forall₂ (fun p r => r.Unhindered p m) ps (roundsOf m Sources.write ps .empty).1 := by
  refine ⟨fun e e' u u' hu hu' hname => ?_, fun m ps hbackends hdistinct => ?_⟩
  · obtain ⟨k, hk⟩ := Entity.exists_unit? hu
    obtain ⟨k', hk'⟩ := Entity.exists_unit? hu'
    obtain ⟨rfl, hbackend, hclass⟩ := Entity.of_qualifiedName_eq rfl rfl hk hk' hname
    exact ⟨hbackend, hclass, k, hk, hk'⟩
  · obtain ⟨hsame, -⟩ := roundsOf_apart (m := m) hbackends fun p _ => Sources.empty_lacks _
    refine ((List.forall₂_and_left _ _).2 ⟨hdistinct, hsame⟩).imp fun p r h => ?_
    exact h.2.unhindered (Processor.round_unhindered (Processor.nodup_emission h.1))

/-- The annotations of a kind, one for each backend with its arguments. -/
def bothMarks (mark : Vocabulary → ClassName) (arguments : Backend → String) : List Annotation :=
  Backend.all.map fun b => ⟨(mark b.vocabulary).qualified, some (arguments b)⟩

/-- Two classes, one of which goes by the name of the other's table class, each of them stored in a
table and behind a URI. -/
def twiceStoredModel : Model :=
  ⟨[], Element.ofKind .package "com.test" ::
    [(1, "User"), (3, "UserTable")].flatMap fun (position, name) =>
      [{ Element.ofKind .classType name with
          enclosing := some 0
          annotations := bothMarks (·.type) fun
            | .sqlite => "table = \"t\", generateTableClass = true"
            | .contentResolver => "uri = \"content://t\"" },
        { Element.ofKind .field "id" with
          enclosing := some position
          type := some "long"
          annotations := bothMarks (·.column) fun _ => "name = \"_id\", key = true" }]⟩

/-- The table class of `User` and the class `UserTable` do not hinder each other's units. -/
theorem units_apart_twiceStoredModel :
    List.Forall₂ (fun p r => (p.accepted twiceStoredModel).map (·.name) = ["User", "UserTable"] ∧
        r.Unhindered p twiceStoredModel)
      (Backend.all.map (Processor.initial · .unset))
      (roundsOf twiceStoredModel Sources.write (Backend.all.map (Processor.initial · .unset))
        .empty).1 := by
  have haccepted : ∀ p ∈ Backend.all.map (Processor.initial · .unset),
      (p.accepted twiceStoredModel).map (·.name) = ["User", "UserTable"] := by
    decide +kernel
  have hdistinct : ∀ b ∈ Backend.all, twiceStoredModel.HasDistinctClasses b := by
    decide +kernel
  exact (List.forall₂_and_left _ _).2 ⟨haccepted,
    units_apart.2 _ _ (by decide) fun p _ => hdistinct p.backend p.backend.mem_all⟩

end ResolverGen
