/-
The put resolver of an entity.

It gives the query that inserts an object, the query that updates it, which is filtered by the key
columns, and the content values with one entry per column. A column that ignores null has no entry
if its value is null.
-/
import ResolverGen.Entity.Filter
import ResolverGen.Resolver.Basic

namespace ResolverGen.Resolver.Put

open Code

/-- The class of content values. -/
def contentValuesClass : ClassName := ⟨"android.content", "ContentValues"⟩

/-- The variable that holds the content values. -/
def valuesName : String := "contentValues"

/-- The statement that stores a column of the object. -/
def store (c : Column) : Stmt :=
  let value := c.valueIn object
  let put := Stmt.run (.call (.var valuesName) "put" [.text c.name, value])
  if c.ignoreNull then .guarded (.differ value .null) [put] else put

/-- The body of the method that gives the insert query. -/
def insertBody (e : Entity) (query : TypeName) : List Stmt :=
  [.giveBuilt query [(e.config.target .insert).call]]

/-- The body of the method that gives the update query. -/
def updateBody (e : Entity) (query : TypeName) : List Stmt :=
  [.giveBuilt query
    ((e.config.target .update).call :: (Filter.byKeys e.columns object).calls)]

/-- The body of the method that gives the content values. -/
def valuesBody (e : Entity) (values : TypeName) : List Stmt :=
  [.declare (.named values) valuesName (.construct values [.number e.columns.length]), .blank] ++
    e.columns.map store ++ [.blank, .give (.var valuesName)]

/-- The unit of the put resolver. -/
def unit (r : Runtime) (e : Entity) : SourceUnit :=
  let scope := Scope.ofUnit e.package (r.putName e.name)
  let (base, scope) := scope.refer r.putResolver
  let (entity, scope) := scope.refer e.className
  let (nonNull, scope) := scope.refer e.nonNull
  let (insertQuery, scope) := scope.refer r.insertQuery
  let (updateQuery, scope) := scope.refer r.updateQuery
  let (values, scope) := scope.refer contentValuesClass
  let (_, scope) := scope.refer overrideClass
  let params := [nonNullParam nonNull entity objectName]
  extending scope "Generated resolver for Put Operation." base entity
    [.method (overriding nonNull "protected" insertQuery "mapToInsertQuery" params
        (insertBody e insertQuery)),
     .method (overriding nonNull "protected" updateQuery "mapToUpdateQuery" params
        (updateBody e updateQuery)),
     .method (overriding nonNull "public" values "mapToContentValues" params
        (valuesBody e values))]

end ResolverGen.Resolver.Put
