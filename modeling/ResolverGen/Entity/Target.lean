/-
Where the objects of a class are stored.

A class is stored in a table, or behind URIs of which one is common and each operation may have its
own. `Target` is what one operation addresses.
-/
import ResolverGen.Fault
import ResolverGen.Code.Syntax

namespace ResolverGen

/-- What an operation addresses. -/
inductive Target where
  | table (name : String)
  | uri (address : String)
deriving DecidableEq, Repr, Inhabited

namespace Target

/-- The call of a query builder that names the target. -/
def call : Target → String × List Code.Expr
  | table name => ("table", [.text name])
  | uri address => ("uri", [.text address])

/-- The text of that call. -/
def render (t : Target) : String :=
  "." ++ t.call.1 ++ "(" ++ Code.renderArguments t.call.2 ++ ")"

/-- The name that the target goes by. -/
def name : Target → String
  | table name => name
  | uri address => address

end Target

/-- The specific text unless it is empty. -/
def preferSpecific (common specific : String) : String :=
  if specific = "" then common else specific

/-- A common URI and one for each operation, empty where there is none. -/
structure Uris where
  common : String
  insert : String
  update : String
  delete : String
deriving DecidableEq, Repr, Inhabited

namespace Uris

/-- The URI of an operation alone. -/
def specific (u : Uris) : Operation → String
  | .insert => u.insert
  | .update => u.update
  | .delete => u.delete

/-- The operations that have no URI at all. -/
def missing (u : Uris) : List Operation :=
  if u.common = "" then Operation.all.filter fun op => u.specific op = "" else []

end Uris

/-- Where the objects of a class are stored. -/
inductive Config where
  /-- In a table, whose definition is generated on demand. -/
  | sqlite (table : String) (tableClass : Bool)
  | contentResolver (uris : Uris)
deriving DecidableEq, Repr, Inhabited

namespace Config

/-- What an operation addresses. -/
def target : Config → Operation → Target
  | sqlite table _, _ => .table table
  | contentResolver uris, op => .uri (preferSpecific uris.common (uris.specific op))

/-- The table whose definition is to be generated. -/
def definedTable? : Config → Option String
  | sqlite table tableClass => if tableClass then some table else none
  | contentResolver _ => none

end Config

end ResolverGen
