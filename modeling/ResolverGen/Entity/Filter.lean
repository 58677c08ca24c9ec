/-
The filter that finds the row of an object.

Each key column gives a term and the value that it is compared with. A filter without terms is
written `null`.
-/
import ResolverGen.Entity.Column

namespace ResolverGen

/-- Names of columns with the values that they must have. -/
structure Filter where
  terms : List (String × Code.Expr)
deriving Repr, Inhabited

namespace Filter

open Code

/-- The filter by the key columns of an object. -/
def byKeys (columns : List Column) (object : Expr) : Filter :=
  ⟨(columns.filter (·.key)).map fun c => (c.name, c.valueIn object)⟩

/-- Whether the filter has no terms. -/
def isEmpty (f : Filter) : Bool := f.terms.isEmpty

/-- The clause, with a question mark for every value. -/
def clause (f : Filter) : String := Text.join " AND " (f.terms.map fun t => t.1 ++ " = ?")

/-- The values, in the order of their question marks. -/
def values (f : Filter) : List Expr := f.terms.map (·.2)

/-- The clause as an argument of a query builder. -/
def clauseExpr (f : Filter) : Expr := if f.isEmpty then .null else .text f.clause

/-- The values as arguments of a query builder. -/
def valueExprs (f : Filter) : List Expr := if f.isEmpty then [.null] else f.values

/-- The calls of a query builder that set the filter. -/
def calls (f : Filter) : List (String × List Expr) :=
  [("where", [f.clauseExpr]), ("whereArgs", f.valueExprs)]

end Filter

end ResolverGen
