/-
All units of an entity.

Every entity has a put, a get and a delete resolver and a mapping, in this order; an entity that is
stored in a table may have a table class behind them.
-/
import ResolverGen.Resolver.Delete
import ResolverGen.Resolver.Get
import ResolverGen.Resolver.Mapping
import ResolverGen.Resolver.Put
import ResolverGen.Schema.TableClass

namespace ResolverGen

/-- The units of an entity, in the order in which they are written. -/
def Entity.units (e : Entity) (b : Backend) : List Code.SourceUnit :=
  [Resolver.Put.unit b.runtime e, Resolver.Get.unit b.runtime e,
   Resolver.Delete.unit b.runtime e, Resolver.Mapping.unit b.runtime e] ++
    (e.config.definedTable?.map fun table => TableClass.unit table e).toList

end ResolverGen
