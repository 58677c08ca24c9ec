/-
The get resolver of an entity.

It builds an object from a row. Without a creator the object is made empty and every column is
assigned; with one, every column is read into a local variable of its own, in the order of the
creator's parameters, and the creator is called with them. A column that can be null is read only
where the row holds a value.
-/
import ResolverGen.Resolver.Basic

namespace ResolverGen.Resolver.Get

open Code

/-- The class of cursors. -/
def cursorClass : ClassName := ⟨"android.database", "Cursor"⟩

/-- The name of the parameter that takes the cursor. -/
def cursorName : String := "cursor"

/-- Whether the row holds a value in a column. -/
def present (c : Column) : Expr :=
  .negate (.call ColumnType.cursor "isNull" [ColumnType.indexOf c.name])

/-- Runs a statement, where the column can be null only if the row holds a value. -/
def guardNull (c : Column) (s : Stmt) : Stmt :=
  if c.type.isNullable then .guarded (present c) [s] else s

/-- Assigns a column of the object. -/
def assign (c : Column) : Stmt := guardNull c (c.setIn object c.readCursor)

/-- Reads a column into a local variable. -/
def readLocal (type : TypeUse) (c : Column) : List Stmt :=
  if c.type.isNullable then
    [.declare type c.property .null, guardNull c (.assign (.var c.property) c.readCursor)]
  else [.declare type c.property c.readCursor]

/-- The types of the local variables in a unit. -/
def localTypes (scope : Scope) : List Column → List (TypeUse × Column) × Scope
  | [] => ([], scope)
  | c :: cs =>
    let (type, scope) := c.type.declare scope
    let (rest, scope) := localTypes scope cs
    ((type, c) :: rest, scope)

/-- Builds the object without a creator. -/
def assignBody (e : Entity) (entity : TypeName) : List Stmt :=
  [.declare (.named entity) objectName (.construct entity []), .blank] ++
    e.columns.map assign ++ [.blank, .give object]

/-- Builds the object by a creator. -/
def createBody (creator : Creator) (entity : TypeName) (locals : List (TypeUse × Column)) :
    List Stmt :=
  .blank :: locals.flatMap (fun (type, c) => readLocal type c) ++
    [.blank,
     .declare (.named entity) objectName
       (creator.invoke entity (locals.map fun (_, c) => .var c.property)),
     .blank, .give object]

/-- The unit of the get resolver. -/
def unit (r : Runtime) (e : Entity) : SourceUnit :=
  let scope := Scope.ofUnit e.package (r.getName e.name)
  let (base, scope) := scope.refer r.getResolver
  let (entity, scope) := scope.refer e.className
  let (nonNull, scope) := scope.refer e.nonNull
  let (storage, scope) := scope.refer r.storage
  let (cursor, scope) := scope.refer cursorClass
  let (_, scope) := scope.refer overrideClass
  let (body, scope) :=
    match e.activeCreator? with
    | some creator =>
      let (locals, scope) := localTypes scope e.ordered
      (createBody creator entity locals, scope)
    | none => (assignBody e entity, scope)
  extending scope "Generated resolver for Get Operation." base entity
    [.method (overriding nonNull "public" entity "mapFromCursor"
        [nonNullParam nonNull storage r.storageParameter, nonNullParam nonNull cursor cursorName]
        body)]

end ResolverGen.Resolver.Get
