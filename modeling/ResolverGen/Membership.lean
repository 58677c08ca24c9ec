/-
Which elements of a model are stored, and how.

Each annotation has its rules: a type annotation stands on a class of a package, a column annotation
on an accessible member of such a class, and a creator annotation on what makes its objects. An
element that keeps the rules gives the column or the creator that it stands for.
-/
import ResolverGen.Accessors
import ResolverGen.Payload
import ResolverGen.Entity.Basic

namespace ResolverGen

/-- The annotations that mark values as never null. -/
def nonNullMarks : List String :=
  ["android.support.annotation.NonNull", "androidx.annotation.NonNull"]

/-- The least number that is too large for the version of a column. -/
def versionBound : Int := 0x100000000

namespace Model

/-- The class that directly encloses an element. -/
def enclosingClass? (m : Model) (id : ElementId) : Option ElementId :=
  (m.element id).enclosing.filter fun parent => (m.element parent).kind = .classType

/-- The name of what directly encloses an element. -/
def enclosingName (m : Model) (id : ElementId) : String :=
  match (m.element id).enclosing with
  | some parent => (m.element parent).name
  | none => ""

/-- Checks an element with a type annotation. -/
def checkClass (m : Model) (v : Vocabulary) (id : ElementId) : Except Fault Unit :=
  let e := m.element id
  if e.kind ≠ .classType then .error (.on id (.notAClass v.type.simple e.name))
  else if e.enclosing.any fun parent => (m.element parent).kind = .package then .ok ()
  else .error (.on id (.nestedClass v.type.simple e.name))

/-- Checks that an element with a column annotation belongs to a class that is stored. -/
def checkOwner (m : Model) (v : Vocabulary) (id : ElementId) : Except Fault Unit :=
  match m.enclosingClass? id with
  | none => .error (.on id (.outsideClass v.column.simple (m.enclosingName id)))
  | some owner =>
    let c := m.element owner
    if c.isAnnotated v.type.qualified then .ok ()
    else if c.superclass.any fun parent => (m.element parent).isAnnotated v.type.qualified then
      .error (.on id (.parentAnnotated v.type.simple))
    else .error (.on id (.classNotAnnotated c.name v.type.simple))

/-- Checks what a column needs once its accessors have been looked for. -/
def checkShape (m : Model) (v : Vocabulary) (a : Accessors) (id : ElementId) :
    Except Fault Unit :=
  let e := m.element id
  if e.kind = .field && e.has .final && (a.getter? m id).isNone then
    .error (.on id (.finalField v.column.simple e.name))
  else if e.kind = .method && e.parameters ≠ [] then
    .error (.on id (.methodWithParameters v.column.simple e.name))
  else .ok ()

/-- Checks an element with a column annotation. The accessors of a private field are looked for, and
kept even if the field is refused for another reason. -/
def checkColumn (m : Model) (v : Vocabulary) (a : Accessors) (id : ElementId) :
    Except Fault Unit × Accessors :=
  match m.checkOwner v id with
  | .error f => (.error f, a)
  | .ok () =>
    let e := m.element id
    if !e.has .privateAccess then (m.checkShape v a id, a)
    else if e.kind ≠ .field then (.error (.on id (.privateMethod v.column.simple e.name)), a)
    else
      match a.learnGetter m id with
      | (false, a) => (.error (.on id (.noGetter v.column.simple e.name)), a)
      | (true, a) =>
        let (_, a) := a.learnSetter m id
        (m.checkShape v a id, a)

/-- The column that a member stands for. -/
def column (m : Model) (v : Vocabulary) (a : Accessors) (id : ElementId) (p : ColumnSpec) :
    Except Fault Column := do
  let e := m.element id
  match e.type.bind ColumnType.ofTypeName? with
  | none => throw (.on id (.unsupportedType v.column.simple (e.type.getD "void")))
  | some type =>
    if p.ignoreNull && e.type.any isPrimitive then
      throw (.on id (.ignoreNullOnPrimitive e.name))
    if p.name = "" then throw (.on id (.emptyColumnName e.name))
    if p.version < 1 ∨ versionBound ≤ p.version then throw (.on id (.badVersion e.name))
    pure
      { enclosing := e.enclosing.getD id
        element := id
        kind := if e.kind = .method then .method else .field
        elementName := e.name
        type
        name := p.name
        key := p.key
        ignoreNull := p.ignoreNull
        version := p.version.toNat
        getter := a.getter? m id
        setter := a.setter? m id
        notNull := nonNullMarks.any e.isAnnotated }

/-- Checks an element with a creator annotation. -/
def checkCreator (m : Model) (v : Vocabulary) (id : ElementId) : Except Fault Unit :=
  let e := m.element id
  match m.enclosingClass? id with
  | none => .error (.on id (.creatorOutsideClass v.creator.simple (m.enclosingName id)))
  | some owner =>
    let c := m.element owner
    if !c.isAnnotated v.type.qualified then
      .error (.on id (.classNotAnnotated c.name v.type.simple))
    else if e.has .privateAccess then
      .error (.on id (.privateCreator v.creator.simple e.name))
    else if e.kind = .method && !e.has .static then
      .error (.on id (.instanceCreator v.creator.simple e.name))
    else if e.kind = .method && e.type ≠ some (m.ownType owner) then
      .error (.on id (.foreignResult v.creator.simple c.name))
    else .ok ()

/-- The creator that an element stands for. -/
def creator (m : Model) (id : ElementId) : Creator :=
  let e := m.element id
  { enclosing := e.enclosing.getD id
    element := id
    kind := if e.kind = .method then .factory e.name else .constructor
    parameters := e.parameters.map (·.name) }

end Model

end ResolverGen
