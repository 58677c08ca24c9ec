/-
The mapping of an entity.

It brings the three resolvers of the entity together.
-/
import ResolverGen.Resolver.Basic

namespace ResolverGen.Resolver.Mapping

open Code

/-- A new object of a class in the unit's own package. -/
def fresh (package name : String) : Expr := .construct ⟨name, ⟨package, name⟩⟩ []

/-- The unit of the mapping. -/
def unit (r : Runtime) (e : Entity) : SourceUnit :=
  let name := r.mappingName e.name
  let scope := Scope.ofUnit e.package name
  let (base, scope) := scope.refer r.typeMapping
  let (entity, scope) := scope.refer e.className
  let resolvers := [r.putName e.name, r.getName e.name, r.deleteName e.name]
  extending scope "Generated mapping with collection of resolvers." base entity
    [.method
      { comment := none, annotations := [], modifiers := "public", result := none, name
        params := []
        body := [.superCall (resolvers.map (fresh e.package))] }]

end ResolverGen.Resolver.Mapping
