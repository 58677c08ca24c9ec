/-
Collecting the entities of a model.

The annotated classes come first, then the columns, then the creators, each in the order of the
model. Collecting stops at the first fault, but a column of a class that only inherits from an
annotated one is passed over with a warning. What has been found out by then is kept: the accessors
and the warnings.
-/
import ResolverGen.Membership

namespace ResolverGen

/-- What has been collected so far. -/
structure Collection where
  entities : List Entity
  accessors : Accessors
  /-- The faults that did not stop collecting, in order. -/
  warnings : List Fault
deriving Repr, Inhabited

/-- The entity of an annotated class, without columns. -/
def Model.entity (m : Model) (b : Backend) (nonNull : Code.ClassName) (id : ElementId) :
    Except Fault Entity := do
  m.checkClass b.vocabulary id
  let config ← b.config m id
  let e := m.element id
  pure
    { name := e.name
      package := m.packageOf id
      element := id
      config
      byCreator := e.has .abstract
      creator := none
      nonNull
      columns := [] }

namespace Entity

/-- Adds a column. Columns that only a creator can set do not go with others. -/
def addColumn (e : Entity) (v : Vocabulary) (c : Column) : Except Fault Entity :=
  let needs := c.onlyByCreator
  if (e.column? c.name).isSome then .error (.on c.element (.duplicateColumn c.name))
  else if e.byCreator && !needs || !e.byCreator && needs && e.columns ≠ [] then
    .error (.on c.element (.mixedColumns v.column.simple e.name))
  else
    match { e with byCreator := e.byCreator || needs }.insert? c with
    | some e => .ok e
    | none => .error (.on c.element (.duplicateColumn c.name))

/-- Adds the creator, of which there is one at most. -/
def addCreator (e : Entity) (c : Creator) : Except Fault Entity :=
  if e.creator.isSome then .error (.on c.element (.secondCreator e.name))
  else .ok { e with creator := some c }

/-- Changes the entity of a class, if there is one. -/
def changeOwner (edit : Entity → Except Fault Entity) (owner : ElementId) :
    List Entity → Option (Except Fault (List Entity))
  | [] => none
  | e :: es =>
    if e.element = owner then some ((edit e).map (· :: es))
    else (changeOwner edit owner es).map fun r => r.map (e :: ·)

end Entity

namespace Collection

/-- Changes the entity that a member belongs to. -/
def change (c : Collection) (m : Model) (owner member : ElementId)
    (edit : Entity → Except Fault Entity) : Except Fault Collection :=
  match Entity.changeOwner edit owner c.entities with
  | none => .error (.on member (.ownerMissing (m.element owner).name))
  | some (.error f) => .error f
  | some (.ok entities) => .ok { c with entities }

/-- Takes a step for each element until one fails. -/
def each (step : Collection → ElementId → Except Fault Unit × Collection) :
    List ElementId → Collection → Except Fault Unit × Collection
  | [], c => (.ok (), c)
  | id :: ids, c =>
    match step c id with
    | (.error f, c) => (.error f, c)
    | (.ok (), c) => each step ids c

/-- Takes the result of a change, or keeps what there was. -/
def settle (c : Collection) : Except Fault Collection → Except Fault Unit × Collection
  | .error f => (.error f, c)
  | .ok c => (.ok (), c)

/-- Collects an annotated class. -/
def takeClass (m : Model) (b : Backend) (nonNull : Code.ClassName) (c : Collection)
    (id : ElementId) : Except Fault Unit × Collection :=
  c.settle ((m.entity b nonNull id).map fun e => { c with entities := c.entities ++ [e] })

/-- Collects a column that passed its checks. -/
def putColumn (m : Model) (b : Backend) (c : Collection) (id : ElementId) :
    Except Fault Collection := do
  let p ← b.columnSpec m id
  let column ← m.column b.vocabulary c.accessors id p
  c.change m column.enclosing id (·.addColumn b.vocabulary column)

/-- Collects a column, or passes it over. -/
def takeColumn (m : Model) (b : Backend) (c : Collection) (id : ElementId) :
    Except Fault Unit × Collection :=
  let (checked, accessors) := m.checkColumn b.vocabulary c.accessors id
  let c := { c with accessors }
  match checked with
  | .ok () => c.settle (c.putColumn m b id)
  | .error f =>
    if f.isWarning then (.ok (), { c with warnings := c.warnings ++ [f] }) else (.error f, c)

/-- Collects a creator. -/
def takeCreator (m : Model) (b : Backend) (c : Collection) (id : ElementId) :
    Except Fault Unit × Collection :=
  c.settle do
    m.checkCreator b.vocabulary id
    let creator := m.creator id
    c.change m creator.enclosing id (·.addCreator creator)

end Collection

/-- Collects the entities of a model with the accessors known so far. -/
def Model.collect (m : Model) (b : Backend) (nonNull : Code.ClassName) (known : Accessors) :
    Except Fault Unit × Collection :=
  let v := b.vocabulary
  let start : Collection := ⟨[], known, []⟩
  let classes := m.annotatedWith v.type.qualified
  let columns := m.annotatedWith v.column.qualified
  let creators := m.annotatedWith v.creator.qualified
  match Collection.each (Collection.takeClass m b nonNull) classes start with
  | (.error f, c) => (.error f, c)
  | (.ok (), c) =>
    match Collection.each (Collection.takeColumn m b) columns c with
    | (.error f, c) => (.error f, c)
    | (.ok (), c) => Collection.each (Collection.takeCreator m b) creators c

end ResolverGen
