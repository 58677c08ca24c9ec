/-
Program elements.

An element is a package, a type or a member, with its modifiers, type, annotations and parameters.
It refers to other elements by their positions in the model.
-/
import ResolverGen.Element.Annotation

namespace ResolverGen

/-- The position of an element in its model. -/
abbrev ElementId := Nat

/-- The kinds of elements. -/
inductive ElementKind where
  | package | classType | interfaceType | enumType | field | method | constructor
deriving DecidableEq, Repr, Inhabited

namespace ElementKind

/-- All kinds. -/
def all : List ElementKind :=
  [package, classType, interfaceType, enumType, field, method, constructor]

/-- The name of a kind. -/
def name : ElementKind → String
  | package => "package"
  | classType => "class"
  | interfaceType => "interface"
  | enumType => "enum"
  | field => "field"
  | method => "method"
  | constructor => "constructor"

end ElementKind

/-- The modifiers of an element. -/
inductive Modifier where
  | publicAccess | protectedAccess | privateAccess | static | final | abstract
deriving DecidableEq, Repr, Inhabited

namespace Modifier

/-- All modifiers, in the order in which a set lists them. -/
def all : List Modifier :=
  [publicAccess, protectedAccess, privateAccess, static, final, abstract]

/-- The name of a modifier. -/
def name : Modifier → String
  | publicAccess => "public"
  | protectedAccess => "protected"
  | privateAccess => "private"
  | static => "static"
  | final => "final"
  | abstract => "abstract"

/-- The set of the given modifiers, each once and in the order of `all`. -/
def setOf (given : List Modifier) : List Modifier := all.filter fun m => given.contains m

theorem mem_setOf {m : Modifier} {given : List Modifier} : m ∈ setOf given ↔ m ∈ given := by
  cases m <;> simp [setOf, all]

end Modifier

/-- A parameter of a method or constructor. -/
structure Parameter where
  name : String
  type : String
deriving DecidableEq, Repr, Inhabited

/-- A package, type or member. -/
structure Element where
  kind : ElementKind
  name : String
  modifiers : List Modifier
  type : Option String
  enclosing : Option ElementId
  annotations : List Annotation
  parameters : List Parameter
  superclass : Option ElementId
deriving DecidableEq, Repr, Inhabited

namespace Element

/-- An element of which only kind and name are known. -/
def ofKind (kind : ElementKind) (name : String) : Element :=
  { kind, name, modifiers := [], type := none, enclosing := none, annotations := []
    parameters := [], superclass := none }

/-- Whether an element has a modifier. -/
def has (e : Element) (m : Modifier) : Bool := e.modifiers.contains m

/-- The first annotation that denotes a type. -/
def annotation? (e : Element) (qualified : String) : Option Annotation :=
  e.annotations.find? (·.denotes qualified)

/-- Whether some annotation denotes a type. -/
def isAnnotated (e : Element) (qualified : String) : Bool := (e.annotation? qualified).isSome

end Element

/-- The names of the primitive types. -/
def primitiveNames : List String :=
  ["boolean", "byte", "short", "int", "long", "char", "float", "double"]

/-- Whether a type name is that of a primitive type. -/
def isPrimitive (type : String) : Bool := primitiveNames.contains type

end ResolverGen
