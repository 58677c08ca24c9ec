/-
Columns of a class.

A column is a field or method of the class that is stored under a name. Its value is read from an
object through the getter if it has one, else from the member itself; it is set through the setter
only where a getter stands beside it. `property` is the name of the value without accessor words.
-/
import ResolverGen.Entity.ColumnType
import ResolverGen.Naming

namespace ResolverGen

/-- What a column stands on. -/
inductive MemberKind where
  | field | method
deriving DecidableEq, Repr, Inhabited

/-- The arguments of a column annotation. -/
structure ColumnSpec where
  name : String
  key : Bool
  ignoreNull : Bool
  version : Int
deriving DecidableEq, Repr, Inhabited

/-- A stored member of a class. -/
structure Column where
  enclosing : ElementId
  element : ElementId
  kind : MemberKind
  elementName : String
  type : ColumnType
  name : String
  key : Bool
  ignoreNull : Bool
  /-- The version of the schema that added the column. -/
  version : Nat
  getter : Option String
  setter : Option String
  notNull : Bool
deriving DecidableEq, Repr, Inhabited

/-- How a member of an object is reached. -/
inductive Access where
  | field (name : String)
  | call (method : String)
deriving DecidableEq, Repr

/-- The text of an access behind the object. -/
def Access.render : Access → String
  | .field name => name
  | .call method => method ++ "()"

namespace Column

/-- The name of the value: of a method, what follows the accessor word. -/
def property (c : Column) : String :=
  match c.kind with
  | .field => c.elementName
  | .method =>
    match Naming.propertyOf? c.elementName with
    | some rest => Naming.decapitalize rest
    | none => c.elementName

/-- Whether the column has both accessors. -/
def hasAccessors (c : Column) : Bool := c.getter.isSome && c.setter.isSome

/-- Whether the value can only be set when the object is created. -/
def onlyByCreator (c : Column) : Bool :=
  match c.kind with
  | .method => true
  | .field => c.getter.isSome && c.setter.isNone

/-- How the value is reached in an object. -/
def access (c : Column) : Access :=
  match c.getter with
  | some getter => .call getter
  | none =>
    match c.kind with
    | .method => .call c.elementName
    | .field => .field c.elementName

open Code

/-- Reads the value of an object. -/
def valueIn (c : Column) (object : Expr) : Expr :=
  match c.access with
  | .field name => .field object name
  | .call method => .call object method []

/-- Sets the value of an object. -/
def setIn (c : Column) (object value : Expr) : Stmt :=
  match c.setter with
  | some setter =>
    if c.getter.isSome then .run (.call object setter [value])
    else .assign (.field object c.elementName) value
  | none => .assign (.field object c.elementName) value

/-- Reads the column from the cursor. -/
def readCursor (c : Column) : Expr := c.type.read c.name

end Column

end ResolverGen
