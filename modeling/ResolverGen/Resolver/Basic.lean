/-
What the generated units share.

A resolver is a class that extends the runtime's resolver for an entity; its methods override those
of its base and mark results and parameters as never null.
-/
import ResolverGen.Backend
import ResolverGen.Entity.Basic

namespace ResolverGen.Resolver

open Code

/-- The annotation of overriding methods. -/
def overrideClass : ClassName := ⟨"java.lang", "Override"⟩

/-- How that annotation is written. -/
def overrideName : TypeName := ⟨"Override", overrideClass⟩

/-- The name of the object that is stored or built. -/
def objectName : String := "object"

/-- The object that is stored or built. -/
def object : Expr := .var objectName

/-- A parameter that is never null. -/
def nonNullParam (nonNull : TypeName) (type : TypeName) (name : String) : Param :=
  { annotations := [nonNull], type := .named type, name }

/-- A method that overrides one of the base class and never gives null. -/
def overriding (nonNull : TypeName) (modifiers : String) (result : TypeName) (name : String)
    (params : List Param) (body : List Stmt) : Method :=
  { comment := some "\x7b@inheritDoc\x7d"
    annotations := [overrideName, nonNull]
    modifiers
    result := some (.named result)
    name, params, body }

/-- A unit with a class that extends a base class applied to an entity. -/
def extending (scope : Scope) (comment : String) (base entity : TypeName)
    (members : List Member) : SourceUnit :=
  { scope
    decl :=
      { comment := some comment
        modifiers := "public"
        name := scope.typeName
        base := some (base, entity)
        members } }

end ResolverGen.Resolver
