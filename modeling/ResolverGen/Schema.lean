/-
Definitions of tables.

A table definition lists its columns; a single key column is marked in its own definition, several
are named in a clause at the end. A column of a later version is added by a statement of its own,
which defines it as the table definition does, but never as a key.
-/
import ResolverGen.Entity.Column
import ResolverGen.Order

namespace ResolverGen

/-- The definition of a column. -/
structure ColumnDef where
  name : String
  storage : Storage
  notNull : Bool
  primaryKey : Bool
deriving DecidableEq, Repr, Inhabited

namespace ColumnDef

/-- The definition of a column, as the key or not. -/
def ofColumn (c : Column) (primaryKey : Bool) : ColumnDef :=
  ⟨c.name, c.type.storage, c.notNull, primaryKey⟩

/-- The text of a column definition. -/
def render (d : ColumnDef) : String :=
  d.name ++ " " ++ d.storage.sql ++ (if d.notNull then " NOT NULL" else "") ++
    (if d.primaryKey then " PRIMARY KEY" else "")

end ColumnDef

/-- The definition of a table; `keys` are the columns of the key clause. -/
structure TableDef where
  table : String
  columns : List ColumnDef
  keys : List String
deriving DecidableEq, Repr, Inhabited

namespace TableDef

/-- The definition of a table with some columns. -/
def ofColumns (table : String) (columns : List Column) : TableDef :=
  let keys := (columns.filter (·.key)).map (·.name)
  { table
    columns := columns.map fun c => .ofColumn c (c.key && keys.length = 1)
    keys := if 1 < keys.length then keys else [] }

/-- The key clause, if there is one. -/
def keyClause (d : TableDef) : List String :=
  if d.keys = [] then [] else ["PRIMARY KEY(" ++ Text.join ", " d.keys ++ ")"]

/-- The statement that creates the table. -/
def render (d : TableDef) : String :=
  "CREATE TABLE " ++ d.table ++ " (" ++
    Text.join ",\n" (d.columns.map ColumnDef.render ++ d.keyClause) ++ ");"

end TableDef

/-- A step from an older version of a table: the column that `version` added. -/
structure Migration where
  version : Nat
  table : String
  column : ColumnDef
deriving DecidableEq, Repr, Inhabited

namespace Migration

/-- The statement that adds the column. -/
def render (m : Migration) : String :=
  "ALTER TABLE " ++ m.table ++ " ADD COLUMN " ++ m.column.render ++ ";"

/-- The steps of a table, by version; those of one version keep their order. -/
def ofColumns (table : String) (columns : List Column) : List Migration :=
  (Order.sortBy (fun a b => a.version ≤ b.version) (columns.filter (1 < ·.version))).map fun c =>
    ⟨c.version, table, .ofColumn c false⟩

end Migration

end ResolverGen
