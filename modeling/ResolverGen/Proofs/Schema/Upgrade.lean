/-
Creating a table and upgrading one.

The methods of a table class run SQL texts on a database. `SourceUnit.sql?` gives the texts that a
method runs, in order; a method that does anything else has none. For the table class of any entity

* `sql?_createTable` — the table is created by its definition, whose text `render_tableDef` spells out,
* `sql?_updateTable` — an older table takes the steps of the versions above its own,
* `upgrades_of_version` — the columns that an upgrade adds are those that the older table lacks, by
  version and within a version in their order, each defined as where the table is created.
-/
import ResolverGen.Proofs.Order
import ResolverGen.Proofs.Resolver.Methods
import ResolverGen.Schema.TableClass

namespace ResolverGen

open Code

/-! ### Running SQL -/

/-- What the parameters of a table class's methods stand for. -/
inductive SchemaOperand where
  | database
  | version (n : Int)
deriving DecidableEq

mutual

/-- The SQL texts that a statement runs on the database. Statements of other kinds have no meaning
here. -/
def sqlOf (env : String → Option SchemaOperand) : Stmt → Option (List String)
  | .runWith (.var target) method parts =>
    if env target = some .database ∧ method = "execSQL" ∧ parts ≠ [] then
      some [String.join parts]
    else none
  | .guarded (.less (.var name) (.number n)) body =>
    match env name with
    | some (.version v) => if v < n then sqlOfAll env body else some []
    | _ => none
  | _ => none

/-- The SQL texts that some statements run on the database. -/
def sqlOfAll (env : String → Option SchemaOperand) : List Stmt → Option (List String)
  | [] => some []
  | s :: ss => (sqlOf env s).bind fun texts => (sqlOfAll env ss).map (texts ++ ·)

end

namespace Code

/-- A member as a method with a result, which constructors are not. -/
def Member.procedure? : Member → Option Method
  | .constant .. => none
  | .method m => if m.result.isSome then some m else none

/-- The method of a name that has a result. -/
def SourceUnit.procedure? (u : SourceUnit) (name : String) : Option Method :=
  (u.decl.members.filterMap Member.procedure?).find? (·.name = name)

/-- The SQL texts that a method runs, in order. -/
def SourceUnit.sql? (u : SourceUnit) (name : String) (operands : List SchemaOperand) :
    Option (List String) :=
  (u.procedure? name).bind fun m =>
    if m.paramNames.length = operands.length then
      sqlOfAll (fun name => (m.paramNames.zip operands).lookup name) m.body
    else none

theorem SourceUnit.sql?_of_procedure {u : SourceUnit} {name : String} {m : Method}
    {names : List String} {operands : List SchemaOperand} (h : u.procedure? name = some m)
    (hnames : m.paramNames = names) (hlength : names.length = operands.length) :
    u.sql? name operands =
      sqlOfAll (fun name => (names.zip operands).lookup name) m.body := by
  rw [sql?, h, ← hnames]
  exact if_pos (by rw [hnames, hlength])

end Code

namespace TableClass

variable {env : String → Option SchemaOperand} {v : Int}

theorem join_lines (sql : String) :
    String.join ((Text.keptLines sql.toList).map String.ofList) = sql := by
  apply String.toList_injective
  rw [String.toList_join, List.flatMap_map]
  simp [List.flatMap_id', Text.flatten_keptLines]

theorem lines_ne_nil {sql : String} (h : sql ≠ "") :
    (Text.keptLines sql.toList).map String.ofList ≠ [] := by
  intro hnil
  have hjoin := join_lines sql
  rw [hnil] at hjoin
  exact h hjoin.symm

theorem render_migration_ne_empty (m : Migration) : m.render ≠ "" := by
  show _ ++ ";" ≠ ""
  exact fun h => absurd (String.append_eq_empty_iff.1 h).2 (by decide)

theorem render_table_ne_empty (d : TableDef) : d.render ≠ "" := by
  show _ ++ ");" ≠ ""
  exact fun h => absurd (String.append_eq_empty_iff.1 h).2 (by decide)

/-- A text that is cut into lines is run as a whole. -/
theorem sqlOf_execute (hdb : env databaseName = some .database) {sql : String} (h : sql ≠ "") :
    sqlOf env (execute sql) = some [sql] := by
  rw [execute, sqlOf, if_pos ⟨hdb, rfl, lines_ne_nil h⟩, join_lines]

/-- A step is run where the table is older. -/
theorem sqlOf_migrate (hdb : env databaseName = some .database)
    (hversion : env versionName = some (.version v)) (m : Migration) :
    sqlOf env (migrate m) = some (if v < m.version then [m.render] else []) := by
  have hbody : sqlOfAll env [execute m.render] = some [m.render] := by
    rw [sqlOfAll, sqlOf_execute hdb (render_migration_ne_empty m)]
    rfl
  rw [migrate, sqlOf, hversion, hbody]
  dsimp only
  split <;> rfl

/-- Of the steps of a table, those are run whose versions are above the old one. -/
theorem sqlOfAll_migrate (hdb : env databaseName = some .database)
    (hversion : env versionName = some (.version v)) (ms : List Migration) :
    sqlOfAll env (ms.map migrate) =
      some ((ms.filter fun m => v < m.version).map Migration.render) := by
  induction ms with
  | nil => rfl
  | cons m ms ih =>
    rw [List.map_cons, sqlOfAll, sqlOf_migrate hdb hversion, ih]
    by_cases h : v < m.version <;> simp [h]

variable (table : String) (e : Entity)

theorem members_unit : ∃ string database : TypeName,
    (unit table e).decl.members =
      .constant string "NAME" table ::
          (e.columns.map fun c => .constant string (constantName c) c.name) ++
        [.method
          { comment := none, annotations := [], modifiers := "private", result := none
            name := className e.name, params := [], body := [] },
         procedure "createTable" [⟨[], .named database, databaseName⟩]
          [execute (TableDef.ofColumns table e.columns).render],
         procedure "updateTable"
          [⟨[], .named database, databaseName⟩, ⟨[], .primitive "int", versionName⟩]
          ((Migration.ofColumns table e.columns).map migrate)] := by
  dsimp only [unit]
  exact ⟨_, _, rfl⟩

/-- Neither the constants nor the constructor are methods with a result, whatever their names. -/
theorem procedures_unit : ∃ database : TypeName,
    (unit table e).decl.members.filterMap Member.procedure? =
      [procedure "createTable" [⟨[], .named database, databaseName⟩]
          [execute (TableDef.ofColumns table e.columns).render],
       procedure "updateTable"
          [⟨[], .named database, databaseName⟩, ⟨[], .primitive "int", versionName⟩]
          ((Migration.ofColumns table e.columns).map migrate)].filterMap Member.procedure? := by
  obtain ⟨string, database, hmembers⟩ := members_unit table e
  have hconstants :
      (e.columns.map fun c => Member.constant string (constantName c) c.name).filterMap
        Member.procedure? = [] := by
    simp [List.filterMap_map, Function.comp_def, Member.procedure?]
  refine ⟨database, ?_⟩
  rw [hmembers, List.cons_append, List.filterMap_cons_none rfl, List.filterMap_append, hconstants]
  rfl

theorem procedure?_createTable : ∃ m, (unit table e).procedure? "createTable" = some m ∧
    m.paramNames = [databaseName] ∧
      m.body = [execute (TableDef.ofColumns table e.columns).render] := by
  obtain ⟨database, hprocedures⟩ := procedures_unit table e
  rw [SourceUnit.procedure?, hprocedures]
  exact ⟨_, rfl, rfl, rfl⟩

theorem procedure?_updateTable : ∃ m, (unit table e).procedure? "updateTable" = some m ∧
    m.paramNames = [databaseName, versionName] ∧
      m.body = (Migration.ofColumns table e.columns).map migrate := by
  obtain ⟨database, hprocedures⟩ := procedures_unit table e
  rw [SourceUnit.procedure?, hprocedures]
  exact ⟨_, rfl, rfl, rfl⟩

/-- A table is created by its definition. -/
theorem sql?_createTable : (unit table e).sql? "createTable" [.database] =
    some [(TableDef.ofColumns table e.columns).render] := by
  obtain ⟨m, hm, hparams, hbody⟩ := procedure?_createTable table e
  rw [SourceUnit.sql?_of_procedure hm hparams rfl, hbody, sqlOfAll,
    sqlOf_execute rfl (render_table_ne_empty _)]
  rfl

/-- A table of an older version takes the steps of all versions above its own. -/
theorem sql?_updateTable (v : Int) :
    (unit table e).sql? "updateTable" [.database, .version v] =
      some (((Migration.ofColumns table e.columns).filter fun m => v < m.version).map
        Migration.render) := by
  obtain ⟨m, hm, hparams, hbody⟩ := procedure?_updateTable table e
  rw [SourceUnit.sql?_of_procedure hm hparams rfl, hbody, sqlOfAll_migrate rfl rfl]

/-! ### Upgrading -/

/-- How a column is defined, but for the key: its name, the type of what is stored, and whether that is
never null. -/
def definitionOf (c : Column) : String :=
  c.name ++ " " ++ c.type.storage.sql ++ if c.notNull = true then " NOT NULL" else ""

/-- What stands behind the definition of a column in a new table: a key of one column is marked there. -/
def keyMark (e : Entity) (c : Column) : String :=
  if c.key = true ∧ e.keys.length = 1 then " PRIMARY KEY" else ""

/-- What stands behind all definitions of a new table: a key of several columns is named there. -/
def keyClause (e : Entity) : List String :=
  if 1 < e.keys.length then ["PRIMARY KEY(" ++ Text.join ", " (e.keys.map (·.name)) ++ ")"] else []

/-- What a table class runs to create a table, and to upgrade one of version `v` by adding the
columns `added`. -/
structure Upgrades (table : String) (e : Entity) (v : Int) (added : List Column) : Prop where
  /-- A new table has a column for each of the entity's, in their order. -/
  creates : (unit table e).sql? "createTable" [.database] =
    some ["CREATE TABLE " ++ table ++ " (" ++
      Text.join ",\n" (e.columns.map (fun c => definitionOf c ++ keyMark e c) ++ keyClause e) ++ ");"]
  /-- There is one statement for each added column, and none besides. It defines the column as it is
  defined in a new table, but for the key. -/
  upgrades : (unit table e).sql? "updateTable" [.database, .version v] =
    some (added.map fun c => "ALTER TABLE " ++ table ++ " ADD COLUMN " ++ definitionOf c ++ ";")
  /-- The columns of later versions are added, each once. -/
  later : added.Perm (e.columns.filter fun c => v < c.version)
  ascending : added.Pairwise fun c d => c.version ≤ d.version
  /-- The columns of one version are added in their order. -/
  inOrder : ∀ n : Nat, added.filter (fun c => c.version = n) =
    (e.columns.filter fun c => v < c.version).filter fun c => c.version = n
  /-- What the older table has and what is added are the columns of a new table, each once. -/
  complete : ((e.columns.filter fun c => (c.version : Int) ≤ v) ++ added).Perm e.columns

/-- The columns that an upgrade from a version adds, by version. -/
def addedSince (columns : List Column) (v : Int) : List Column :=
  (Order.sortBy (fun a b => a.version ≤ b.version) (columns.filter (1 < ·.version))).filter
    fun c => v < c.version

variable {table e}

theorem render_ofColumn (c : Column) (primaryKey : Bool) :
    (ColumnDef.ofColumn c primaryKey).render =
      definitionOf c ++ if primaryKey = true then " PRIMARY KEY" else "" := rfl

theorem render_migrations (table : String) (columns : List Column) (v : Int) :
    ((Migration.ofColumns table columns).filter fun m => v < m.version).map Migration.render =
      (addedSince columns v).map fun c =>
        "ALTER TABLE " ++ table ++ " ADD COLUMN " ++ definitionOf c ++ ";" := by
  rw [Migration.ofColumns, List.filter_map, List.map_map]
  refine List.map_congr_left fun c _ => ?_
  show "ALTER TABLE " ++ table ++ " ADD COLUMN " ++ (ColumnDef.ofColumn c false).render ++ ";" = _
  rw [render_ofColumn, if_neg Bool.false_ne_true, String.append_empty]

/-- The statement that creates the table, column by column. -/
theorem render_tableDef (table : String) (e : Entity) :
    (TableDef.ofColumns table e.columns).render =
      "CREATE TABLE " ++ table ++ " (" ++
        Text.join ",\n" (e.columns.map (fun c => definitionOf c ++ keyMark e c) ++ keyClause e) ++
          ");" := by
  have hcolumns : (TableDef.ofColumns table e.columns).columns.map ColumnDef.render =
      e.columns.map fun c => definitionOf c ++ keyMark e c := by
    rw [TableDef.ofColumns, List.map_map]
    refine List.map_congr_left fun c _ => ?_
    rw [Function.comp_apply, render_ofColumn, List.length_map, keyMark]
    simp only [Bool.and_eq_true, decide_eq_true_eq]
    rfl
  have hclause : (TableDef.ofColumns table e.columns).keyClause = keyClause e := by
    -- the definition has no keys to name where one column alone is the key
    have hkeys : (TableDef.ofColumns table e.columns).keys =
        if 1 < e.keys.length then e.keys.map (·.name) else [] := by
      rw [TableDef.ofColumns, List.length_map]
      rfl
    rw [TableDef.keyClause, hkeys, keyClause]
    by_cases hseveral : 1 < e.keys.length
    · have hsome : e.keys ≠ [] := List.ne_nil_of_length_pos (Nat.lt_of_succ_lt hseveral)
      simp [hseveral, hsome]
    · simp [hseveral]
  rw [TableDef.render, hcolumns, hclause]
  rfl

/-- The columns of version 1 are no part of an upgrade, and no upgrade starts below version 1. -/
theorem filter_later (hv : 1 ≤ v) (columns : List Column) :
    (columns.filter (1 < ·.version)).filter (fun c => v < c.version) =
      columns.filter fun c => v < c.version := by
  rw [List.filter_filter]
  refine List.filter_congr fun c _ => ?_
  have : v < c.version → 1 < c.version := by omega
  by_cases h : v < c.version <;> simp [h, this]

theorem perm_addedSince (hv : 1 ≤ v) (columns : List Column) :
    (addedSince columns v).Perm (columns.filter fun c => v < c.version) := by
  rw [← filter_later hv]
  exact (Order.sortBy_perm _ _).filter _

theorem pairwise_addedSince (columns : List Column) (v : Int) :
    (addedSince columns v).Pairwise fun c d => c.version ≤ d.version := by
  have hsorted : (Order.sortBy (fun a b : Column => a.version ≤ b.version)
      (columns.filter (1 < ·.version))).Pairwise
        fun c d => decide (c.version ≤ d.version) = true := by
    refine Order.pairwise_sortBy (fun a b => ?_) (fun a b c hab hbc => ?_) _
    · simpa using Nat.le_total a.version b.version
    · simp only [decide_eq_true_eq] at *
      exact hab.trans hbc
  exact (hsorted.filter _).imp fun h => by simpa using h

/-- Columns of one version do not exceed each other, so sorting leaves them as they are. -/
theorem filter_addedSince (hv : 1 ≤ v) (columns : List Column) (n : Nat) :
    (addedSince columns v).filter (fun c => c.version = n) =
      (columns.filter fun c => v < c.version).filter fun c => c.version = n := by
  rw [← filter_later hv, List.filter_comm, addedSince, List.filter_comm, Order.filter_sortBy]
  intro c _ d _ hc hd
  simp only [decide_eq_true_eq] at *
  exact (hc.trans hd.symm).le

/-- **Upgrading a table of any version gives the columns of a new one.** -/
theorem upgrades_of_version (table : String) (e : Entity) {v : Int} (hv : 1 ≤ v) :
    ∃ added, Upgrades table e v added := by
  have hlater := perm_addedSince hv e.columns
  refine ⟨addedSince e.columns v, ?_⟩
  refine
    { creates := ?_
      upgrades := ?_
      later := hlater
      ascending := pairwise_addedSince e.columns v
      inOrder := filter_addedSince hv e.columns
      complete := ?_ }
  · rw [sql?_createTable, render_tableDef]
  · rw [sql?_updateTable, render_migrations]
  · have hnot : (e.columns.filter fun c => v < c.version) =
        e.columns.filter fun c => !decide ((c.version : Int) ≤ v) := by
      refine List.filter_congr fun c _ => ?_
      rw [← decide_not]
      exact decide_eq_decide.2 Int.not_le.symm
    rw [hnot] at hlater
    exact (hlater.append_left _).trans (List.filter_append_perm _ _)

/-- A class with a key and three columns of later versions, the earlier ones behind a later one. -/
def versionsEntity : Entity :=
  { name := "User", package := "com.test", element := 1, config := .sqlite "users" true
    byCreator := false, creator := none, nonNull := ⟨"androidx.annotation", "NonNull"⟩
    columns :=
      [column "_id" .long true 1, column "nick" .string false 3, column "score" .double false 2,
       column "age" .integer false 3] }
where
  /-- A column on a field of its own name. -/
  column (name : String) (type : ColumnType) (key : Bool) (version : Nat) : Column :=
    { enclosing := 1, element := 2, kind := .field, elementName := name, type, name, key
      ignoreNull := false, version, getter := none, setter := none, notNull := key }

/-- A table of version 2 already has the score. -/
theorem upgrades_versionsEntity : (1 : Int) ≤ 2 ∧
    (unit "users" versionsEntity).sql? "createTable" [.database] =
      some ["CREATE TABLE users (_id INTEGER NOT NULL PRIMARY KEY,\nnick TEXT,\nscore REAL,\n" ++
        "age INTEGER);"] ∧
    (unit "users" versionsEntity).sql? "updateTable" [.database, .version 2] =
      some ["ALTER TABLE users ADD COLUMN nick TEXT;",
        "ALTER TABLE users ADD COLUMN age INTEGER;"] ∧
    ∃ added, Upgrades "users" versionsEntity 2 added :=
  ⟨by decide, by decide +kernel, by decide +kernel,
    upgrades_of_version "users" versionsEntity (by decide)⟩

end TableClass

end ResolverGen
