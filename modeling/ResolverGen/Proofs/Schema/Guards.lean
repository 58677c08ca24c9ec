/-
The guards of an update.

A table class adds each column of a later version where the version that it updates from, an `int`, is
below the column's own. That is the number which the annotation of the column's member declares.
What is accepted are the numbers from 1 on that can be written with 32 bits, and half of them are
above every `int`.

* `exists_column_withVersion_iff` — which versions a member that is accepted could declare,
* `guards_of_mem_accepted` — the guards of an accepted entity's table class, read back from its text,
  and when they compare with numbers that an `int` can be.
-/
import ResolverGen.Proofs.Round.Accepted
import ResolverGen.Proofs.Schema.Execution

namespace ResolverGen

open Code

/-! ### Versions -/

namespace Model

variable {m : Model} {b : Backend} {v : Vocabulary} {a : Accessors} {id : ElementId}

/-- The version that the annotation of a member declares. -/
def declaredVersion? (m : Model) (b : Backend) (id : ElementId) : Option Int :=
  match b.columnSpec m id with
  | .ok p => some p.version
  | .error _ => none

/-- A member that is accepted could declare any version from 1 on that has no more than 32 bits. -/
theorem exists_column_withVersion_iff {p : ColumnSpec} {c : Column}
    (h : m.column v a id p = .ok c) (n : Int) :
    (∃ d, m.column v a id { p with version := n } = .ok d) ↔ 1 ≤ n ∧ n < 4294967296 := by
  obtain ⟨type, htype, hprimitive, hname, -⟩ := column_ok h
  constructor
  · rintro ⟨d, hd⟩
    obtain ⟨-, -, -, -, hversion, -⟩ := column_ok hd
    exact hversion
  · rintro ⟨hlow, hhigh⟩
    have hversion : ¬(n < 1 ∨ versionBound ≤ n) := by
      rw [versionBound]
      omega
    have hignored : ¬(p.ignoreNull && (m.element id).type.any isPrimitive) = true := by
      simpa using hprimitive
    unfold column
    dsimp only
    rw [htype]
    dsimp only
    rw [if_neg hignored, if_neg hname, if_neg hversion]
    exact ⟨_, rfl⟩

/-- Whether a column has the version that the annotation of a member declares. -/
structure DeclaresVersion (m : Model) (b : Backend) (id : ElementId) (c : Column) : Prop where
  element : c.element = id
  declared : m.declaredVersion? b id = some (c.version : Int)
  inRange : 1 ≤ c.version ∧ c.version < 4294967296
  /-- In its place the annotation could declare any other version of that range, and none besides. -/
  admitted : ∃ a p, b.columnSpec m id = .ok p ∧ ∀ n : Int,
    (∃ d, m.column b.vocabulary a id { p with version := n } = .ok d) ↔ 1 ≤ n ∧ n < 4294967296

theorem Gives.declaresVersion {c : Column} (h : m.Gives b id c) : m.DeclaresVersion b id c := by
  obtain ⟨a, a', p, -, hspec, hcolumn⟩ := h
  have hadmitted := exists_column_withVersion_iff hcolumn
  obtain ⟨type, -, -, -, ⟨hlow, hhigh⟩, rfl⟩ := column_ok hcolumn
  rw [versionBound] at hhigh
  refine
    { element := rfl
      declared := ?_
      inRange := ?_
      admitted := ⟨a', p, hspec, hadmitted⟩ }
  · rw [declaredVersion?, hspec]
    dsimp only
    rw [Int.toNat_of_nonneg (by omega)]
  · show 1 ≤ p.version.toNat ∧ p.version.toNat < 4294967296
    omega

/-- What bounds the versions of columns bounds those that their members declare. -/
theorem forall_declaredVersion_iff {ids : List ElementId} {cs : List Column}
    (h : List.Forall₂ (fun id c => m.declaredVersion? b id = some (c.version : Int)) ids cs)
    (limit : Nat) : (∀ id ∈ ids, ∀ n, m.declaredVersion? b id = some n → n ≤ limit) ↔
      ∀ c ∈ cs, c.version ≤ limit := by
  induction h with
  | nil => simp
  | cons hversion _ ih => simp [hversion, ih]

end Model

/-! ### Guards -/

namespace Code

/-- The number that a guard compares with. -/
def Command.bound? : Command → Option Nat
  | .guarded _ bound _ => some bound
  | .call .. => none

/-- The numbers that the guards among some statements compare with. -/
def boundsOf (cs : List Command) : List Nat := cs.filterMap Command.bound?

end Code

namespace TableClass

variable {table : String}

/-- The guarded statement that adds a column. -/
def stepOf (table : String) (c : Column) : Command :=
  .guarded "oldVersion" c.version
    [.call "db" "execSQL" (codeUnits ("ALTER TABLE " ++ table ++ " ADD COLUMN " ++
      (ColumnDef.ofColumn c false).render ++ ";").toList)]

theorem boundsOf_map_stepOf (table : String) (columns : List Column) :
    boundsOf (columns.map (stepOf table)) = columns.map (·.version) := by
  rw [boundsOf, List.filterMap_map, ← List.filterMap_eq_map]
  rfl

/-- A column of version 1 has no guard, and is below any limit. -/
theorem forall_boundsOf_iff {columns : List Column} {commands : List Command}
    (h : commands.Perm ((columns.filter (1 < ·.version)).map (stepOf table))) {limit : Nat}
    (hlimit : 1 ≤ limit) :
    (∀ n ∈ boundsOf commands, n ≤ limit) ↔ ∀ c ∈ columns, c.version ≤ limit := by
  have hbounds : (boundsOf commands).Perm ((columns.filter (1 < ·.version)).map (·.version)) := by
    rw [← boundsOf_map_stepOf table]
    exact h.filterMap _
  constructor
  · intro hle c hc
    by_cases hlater : 1 < c.version
    · have hmem : c ∈ columns.filter (1 < ·.version) :=
        List.mem_filter.2 ⟨hc, decide_eq_true hlater⟩
      exact hle _ (hbounds.mem_iff.2 (List.mem_map_of_mem hmem))
    · omega
  · intro hle n hn
    obtain ⟨c, hc, rfl⟩ := List.mem_map.1 (hbounds.mem_iff.1 hn)
    exact hle c (List.mem_filter.1 hc).1

/-- The guards of an update, as they are written. -/
theorem exists_steps (table : String) (e : Entity) (depth : Nat) : ∃ method text commands,
    (unit table e).procedure? "updateTable" = some method ∧
      Writes depth (layoutAll method.body) text ∧ commandsOf? text = some commands ∧
      commands.Perm ((e.columns.filter (1 < ·.version)).map (stepOf table)) := by
  obtain ⟨method, hmethod, text, hwrites, hcommands⟩ := (executes table e depth).upgrades
  refine ⟨method, text, _, hmethod, hwrites, hcommands, ?_⟩
  rw [Migration.ofColumns, List.map_map]
  exact (Order.sortBy_perm _ _).map (stepOf table)

/-- The guards of the table class of an entity, by the text of its update at some depth. -/
structure HasGuards (m : Model) (b : Backend) (table : String) (e : Entity) (depth : Nat) :
    Prop where
  /-- The columns have the versions that the annotated members of the class declare, in order. -/
  declared : List.Forall₂ (m.DeclaresVersion b)
    (m.membersAmong (m.annotatedWith b.vocabulary.column.qualified) e.element) e.columns
  /-- There is one guard for each column of a later version, with that version, and they all
  compare with numbers that an `int` can be just if no member declares a version that is none. -/
  guards : ∃ method text commands,
    (unit table e).procedure? "updateTable" = some method ∧
      Writes depth (layoutAll method.body) text ∧ commandsOf? text = some commands ∧
      commands.Perm ((e.columns.filter (1 < ·.version)).map (stepOf table)) ∧
      ((∀ n ∈ boundsOf commands, n ≤ 2147483647) ↔
        ∀ id ∈ m.membersAmong (m.annotatedWith b.vocabulary.column.qualified) e.element,
          ∀ v, m.declaredVersion? b id = some v → v ≤ 2147483647)

end TableClass

namespace Processor

variable {p : Processor} {m : Model} {e : Entity} {table : String}

/-- **The guards of an accepted entity's table class compare with the versions that its members
declare, and with numbers that an `int` can be just if all these versions are such.** -/
theorem guards_of_mem_accepted (h : e ∈ p.accepted m)
    (htable : e.config.definedTable? = some table) (depth : Nat) :
    TableClass.unit table e ∈ p.emission m ∧
      TableClass.HasGuards m p.backend table e depth := by
  have hdeclared := (holds_of_mem_accepted h).columns.imp fun id c =>
    Model.Gives.declaresVersion
  refine ⟨tableUnit_mem_emission h htable, hdeclared, ?_⟩
  obtain ⟨method, text, commands, hmethod, hwrites, hcommands, hperm⟩ :=
    TableClass.exists_steps table e depth
  refine ⟨method, text, commands, hmethod, hwrites, hcommands, hperm, ?_⟩
  -- the numbers in the guards are those of the columns, and these are those of the members
  have hmembers := Model.forall_declaredVersion_iff
    (hdeclared.imp fun id c hversion => hversion.declared) 2147483647
  exact (TableClass.forall_boundsOf_iff hperm (by decide)).trans hmembers.symm

/-- A class with columns of version 1, of a later one and of the largest that an `int` can be. -/
def laterModel : Model :=
  tableModel
    [("id", "long", "name = \"_id\", key = true"),
     ("nick", "java.lang.String", "name = \"nick\", version = 2147483647"),
     ("score", "double", "name = \"score\", version = 3")]

theorem guards_laterModel : ∃ e ∈ (initial .sqlite .unset).accepted laterModel,
    e.config.definedTable? = some "users" ∧ e.columns.map (·.version) = [1, 2147483647, 3] ∧
      TableClass.unit "users" e ∈ (initial .sqlite .unset).emission laterModel ∧
      TableClass.HasGuards laterModel .sqlite "users" e 1 := by
  have haccepted : ((initial .sqlite .unset).accepted laterModel).map
      (fun e => (e.config.definedTable?, e.columns.map (·.version))) =
        [(some "users", [1, 2147483647, 3])] := by
    decide +kernel
  obtain ⟨e, he, hparts⟩ := exists_of_accepted haccepted
  simp only [Prod.mk.injEq] at hparts
  obtain ⟨htable, hversions⟩ := hparts
  exact ⟨e, he, htable, hversions, guards_of_mem_accepted he htable 1⟩

/-- A class with a column of the first version that no `int` can be. -/
def beyondModel : Model :=
  tableModel
    [("id", "long", "name = \"_id\", key = true"),
     ("nick", "java.lang.String", "name = \"nick\", version = 2147483648")]

/-- Such a class is accepted, and a guard of its table class compares with that version. -/
theorem bounds_beyondModel : ∃ e ∈ (initial .sqlite .unset).accepted beyondModel,
    e.config.definedTable? = some "users" ∧ ∃ method text commands,
      (TableClass.unit "users" e).procedure? "updateTable" = some method ∧
        Writes 1 (layoutAll method.body) text ∧ commandsOf? text = some commands ∧
        boundsOf commands = [2147483648] ∧ ¬∀ n ∈ boundsOf commands, n ≤ 2147483647 := by
  have haccepted : ((initial .sqlite .unset).accepted beyondModel).map
      (fun e => (e.config.definedTable?, (e.columns.filter (1 < ·.version)).map (·.version))) =
        [(some "users", [2147483648])] := by
    decide +kernel
  obtain ⟨e, he, hparts⟩ := exists_of_accepted haccepted
  simp only [Prod.mk.injEq] at hparts
  obtain ⟨htable, hversions⟩ := hparts
  obtain ⟨method, text, commands, hmethod, hwrites, hcommands, hperm⟩ :=
    TableClass.exists_steps "users" e 1
  have hbounds : boundsOf commands = [2147483648] := by
    apply List.perm_singleton.1
    rw [← hversions, ← TableClass.boundsOf_map_stepOf "users"]
    exact hperm.filterMap _
  refine ⟨e, he, htable, method, text, commands, hmethod, hwrites, hcommands, hbounds, ?_⟩
  rw [hbounds]
  decide

end Processor

end ResolverGen
