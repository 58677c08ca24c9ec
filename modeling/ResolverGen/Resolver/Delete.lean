/-
The delete resolver of an entity.

It gives the query that deletes an object, filtered by the key columns.
-/
import ResolverGen.Entity.Filter
import ResolverGen.Resolver.Basic

namespace ResolverGen.Resolver.Delete

open Code

/-- The body of the method that gives the delete query. -/
def deleteBody (e : Entity) (query : TypeName) : List Stmt :=
  [.giveBuilt query
    ((e.config.target .delete).call :: (Filter.byKeys e.columns object).calls)]

/-- The unit of the delete resolver. -/
def unit (r : Runtime) (e : Entity) : SourceUnit :=
  let scope := Scope.ofUnit e.package (r.deleteName e.name)
  let (base, scope) := scope.refer r.deleteResolver
  let (entity, scope) := scope.refer e.className
  let (nonNull, scope) := scope.refer e.nonNull
  let (query, scope) := scope.refer r.deleteQuery
  let (_, scope) := scope.refer overrideClass
  extending scope "Generated resolver for Delete Operation." base entity
    [.method (overriding nonNull "protected" query "mapToDeleteQuery"
        [nonNullParam nonNull entity objectName] (deleteBody e query))]

end ResolverGen.Resolver.Delete
