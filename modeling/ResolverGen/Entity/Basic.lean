/-
Classes whose objects are stored.

An entity is an annotated class with its columns, which have distinct names when they come in
through `insert?`. If objects are made by a creator, `ordered` lists the columns by the positions of
their values among its parameters.
-/
import ResolverGen.Entity.Column
import ResolverGen.Entity.Creator
import ResolverGen.Entity.Target

namespace ResolverGen

/-- An annotated class, what is stored of it, and how its objects are made. -/
structure Entity where
  name : String
  package : String
  element : ElementId
  config : Config
  byCreator : Bool
  creator : Option Creator
  /-- The annotation that generated code puts on values that are never null. -/
  nonNull : Code.ClassName
  columns : List Column
deriving Repr, Inhabited

namespace Entity

/-- The class itself. -/
def className (e : Entity) : Code.ClassName := ⟨e.package, e.name⟩

/-- The column of a name. -/
def column? (e : Entity) (name : String) : Option Column := e.columns.find? (·.name = name)

/-- Adds a column unless its name is taken. -/
def insert? (e : Entity) (c : Column) : Option Entity :=
  match e.column? c.name with
  | some _ => none
  | none => some { e with columns := e.columns ++ [c] }

/-- The key columns. -/
def keys (e : Entity) : List Column := e.columns.filter (·.key)

/-- The creator that makes the objects, if they have to be made by one. -/
def activeCreator? (e : Entity) : Option Creator := if e.byCreator then e.creator else none

/-- Whether a position comes no later than another. No position comes last. -/
def noLater : Option Nat → Option Nat → Bool
  | some a, some b => a ≤ b
  | some _, none => true
  | none, some _ => false
  | none, none => true

/-- The columns in the order of the creator's parameters, the unmatched ones last. -/
def ordered (e : Entity) : List Column :=
  match e.activeCreator? with
  | none => e.columns
  | some creator =>
    Order.sortBy
      (fun a b => noLater (creator.position a.property) (creator.position b.property)) e.columns

end Entity

end ResolverGen
