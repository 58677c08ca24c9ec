/-
Models of the elements of a program.

A model is a list of elements that refer to each other by position, and a set of types known to
exist. Looking up a position that the model does not have gives an empty package, so every function
is total; `Model.Sound` says that no element refers to such a position.
-/
import ResolverGen.Element.Basic

namespace ResolverGen

/-- Elements by position, and the qualified names of types known to exist. -/
structure Model where
  knownTypes : List String
  elements : List Element
deriving Repr, Inhabited

namespace Model

/-- A model of nothing. -/
def empty : Model := ⟨[], []⟩

/-- The number of elements. -/
def size (m : Model) : Nat := m.elements.length

/-- The element at a position. -/
def element (m : Model) (id : ElementId) : Element :=
  m.elements.getD id (Element.ofKind .package "")

/-- The positions of a model, in order. -/
def ids (m : Model) : List ElementId := List.range m.elements.length

/-- Whether a type is known to exist. -/
def knows (m : Model) (qualified : String) : Bool := m.knownTypes.contains qualified

/-- The elements that carry an annotation, in order. -/
def annotatedWith (m : Model) (qualified : String) : List ElementId :=
  m.ids.filter fun id => (m.element id).isAnnotated qualified

/-- The elements directly enclosed in another, in order. -/
def enclosed (m : Model) (id : ElementId) : List ElementId :=
  m.ids.filter fun inner => (m.element inner).enclosing = some id

/-- The elements enclosed in the same one, the element itself among them. -/
def siblings (m : Model) (id : ElementId) : List ElementId :=
  match (m.element id).enclosing with
  | some parent => m.enclosed parent
  | none => []

/-- The name of the package found within a number of steps outwards from an element. -/
def packageWithin (m : Model) : Nat → ElementId → String
  | 0, _ => ""
  | steps + 1, id =>
    if (m.element id).kind = .package then (m.element id).name
    else
      match (m.element id).enclosing with
      | some outer => m.packageWithin steps outer
      | none => ""

/-- The name of the package of an element. A chain without repetitions has at most as many steps as
there are elements, so the search reaches its end. -/
def packageOf (m : Model) (id : ElementId) : String := m.packageWithin (m.size + 1) id

/-- The names of the types that enclose an element within a number of steps, outermost last. -/
def outerNamesWithin (m : Model) : Nat → ElementId → List String
  | 0, _ => []
  | steps + 1, id =>
    if (m.element id).kind = .package then []
    else
      (m.element id).name ::
        match (m.element id).enclosing with
        | some outer => m.outerNamesWithin steps outer
        | none => []

/-- The dotted path of an element below its package. -/
def outerPath (m : Model) (id : ElementId) : String :=
  Text.join "." (m.outerNamesWithin (m.size + 1) id).reverse

/-- The type that an element declares: the one it states, or its name in its package. -/
def ownType (m : Model) (id : ElementId) : String :=
  match (m.element id).type with
  | some type => type
  | none => (Code.ClassName.mk (m.packageOf id) (m.element id).name).qualified

/-- A reference to a position that the model does not have. -/
structure Dangling where
  element : ElementId
  target : ElementId
deriving DecidableEq, Repr

/-- The message for such a reference. -/
def Dangling.message (d : Dangling) : String :=
  s!"element #{d.element} references unknown element #{d.target}"

/-- The first reference of some elements, the first at position `start`, that is not below `size`;
the enclosing element is looked at before the superclass. -/
def danglingFrom (size : Nat) : ElementId → List Element → Option Dangling
  | _, [] => none
  | start, e :: rest =>
    match (e.enclosing.toList ++ e.superclass.toList).find? (size ≤ ·) with
    | some target => some ⟨start, target⟩
    | none => danglingFrom size (start + 1) rest

/-- The first reference that leads nowhere. -/
def dangling? (m : Model) : Option Dangling := danglingFrom m.size 0 m.elements

/-! Building a model. -/

/-- Adds an element and tells its position. -/
def push (m : Model) (e : Element) : ElementId × Model :=
  (m.size, { m with elements := m.elements ++ [e] })

/-- Changes the element at a position. -/
def update (m : Model) (id : ElementId) (change : Element → Element) : Model :=
  { m with elements := m.elements.modify id change }

/-- Adds a type known to exist. -/
def know (m : Model) (qualified : String) : Model :=
  if m.knows qualified then m else { m with knownTypes := qualified :: m.knownTypes }

/-- Adds a package. -/
def addPackage (m : Model) (name : String) : ElementId × Model :=
  m.push (Element.ofKind .package name)

/-- Adds a public class whose type is its path from its package on. -/
def addClass (m : Model) (outer : ElementId) (name : String) : ElementId × Model :=
  let parts := [m.packageOf outer, m.outerPath outer, name].filter (· ≠ "")
  m.push
    { Element.ofKind .classType name with
      modifiers := [.publicAccess], type := some (Text.join "." parts), enclosing := some outer }

/-- Adds a field. -/
def addField (m : Model) (owner : ElementId) (name type : String) : ElementId × Model :=
  m.push { Element.ofKind .field name with type := some type, enclosing := some owner }

/-- Adds a method. -/
def addMethod (m : Model) (owner : ElementId) (name result : String) : ElementId × Model :=
  m.push { Element.ofKind .method name with type := some result, enclosing := some owner }

/-- Adds a public constructor. -/
def addConstructor (m : Model) (owner : ElementId) (parameters : List Parameter) :
    ElementId × Model :=
  m.push
    { Element.ofKind .constructor "<init>" with
      modifiers := [.publicAccess], enclosing := some owner, parameters }

/-- Adds an annotation to an element. -/
def annotate (m : Model) (id : ElementId) (a : Annotation) : Model :=
  m.update id fun e => { e with annotations := e.annotations ++ [a] }

end Model

end ResolverGen
