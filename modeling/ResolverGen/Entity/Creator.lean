/-
Creators of objects.

A creator is a constructor or a static factory method; its parameters are named after the values
that they take.
-/
import ResolverGen.Element.Basic
import ResolverGen.Code.Syntax

namespace ResolverGen

/-- How a creator is called. -/
inductive CreatorKind where
  | constructor
  | factory (name : String)
deriving DecidableEq, Repr, Inhabited

/-- A creator and the names of its parameters. -/
structure Creator where
  enclosing : ElementId
  element : ElementId
  kind : CreatorKind
  parameters : List String
deriving DecidableEq, Repr, Inhabited

namespace Creator

/-- The first position of a parameter. -/
def position (c : Creator) (name : String) : Option Nat := c.parameters.findIdx? (· = name)

open Code

/-- Calls the creator of a class. -/
def invoke (c : Creator) (type : TypeName) (arguments : List Expr) : Expr :=
  match c.kind with
  | .constructor => .construct type arguments
  | .factory name => .callOn type name arguments

end Creator

end ResolverGen
