/-
The methods of the generated resolvers.

`method?` finds a method of a unit by its name. For each method of a resolver a lemma gives the
names of its parameters and its body, so that nothing else has to open the units; the names of
classes in the bodies denote the classes that were asked for (`refer_denotes`).
-/
import ResolverGen.Resolver.Delete
import ResolverGen.Resolver.Get
import ResolverGen.Resolver.Put

namespace ResolverGen

namespace Code

/-- The method of a name among some members. -/
def methodAmong? (name : String) : List Member → Option Method
  | [] => none
  | .constant .. :: rest => methodAmong? name rest
  | .method m :: rest => if m.name = name then some m else methodAmong? name rest

/-- The method of a name that a unit declares. -/
def SourceUnit.method? (u : SourceUnit) (name : String) : Option Method :=
  methodAmong? name u.decl.members

/-- The names of the parameters of a method. -/
def Method.paramNames (m : Method) : List String := m.params.map (·.name)

@[simp] theorem Scope.refer_denotes (s : Scope) (c : ClassName) :
    (s.refer c).1.denotes = c := by
  unfold Scope.refer
  split
  · split <;> rfl
  · rfl

end Code

namespace Resolver

open Code

variable (r : Runtime) (e : Entity)

theorem Put.members_unit : ∃ entity nonNull insertQuery updateQuery values : TypeName,
    (Put.unit r e).decl.members =
        [.method (overriding nonNull "protected" insertQuery "mapToInsertQuery"
            [nonNullParam nonNull entity objectName] (Put.insertBody e insertQuery)),
         .method (overriding nonNull "protected" updateQuery "mapToUpdateQuery"
            [nonNullParam nonNull entity objectName] (Put.updateBody e updateQuery)),
         .method (overriding nonNull "public" values "mapToContentValues"
            [nonNullParam nonNull entity objectName] (Put.valuesBody e values))] ∧
      values.denotes = Put.contentValuesClass := by
  dsimp only [Put.unit, extending]
  exact ⟨_, _, _, _, _, rfl, Scope.refer_denotes _ _⟩

theorem Put.method?_insert : ∃ method query,
    (Put.unit r e).method? "mapToInsertQuery" = some method ∧
      method.paramNames = [objectName] ∧ method.body = Put.insertBody e query := by
  obtain ⟨entity, nonNull, insertQuery, updateQuery, values, hmembers, -⟩ := Put.members_unit r e
  rw [SourceUnit.method?, hmembers]
  exact ⟨_, insertQuery, rfl, rfl, rfl⟩

theorem Put.method?_update : ∃ method query,
    (Put.unit r e).method? "mapToUpdateQuery" = some method ∧
      method.paramNames = [objectName] ∧ method.body = Put.updateBody e query := by
  obtain ⟨entity, nonNull, insertQuery, updateQuery, values, hmembers, -⟩ := Put.members_unit r e
  rw [SourceUnit.method?, hmembers]
  exact ⟨_, updateQuery, rfl, rfl, rfl⟩

theorem Put.method?_values : ∃ method values,
    (Put.unit r e).method? "mapToContentValues" = some method ∧
      method.paramNames = [objectName] ∧ method.body = Put.valuesBody e values ∧
      values.denotes = Put.contentValuesClass := by
  obtain ⟨entity, nonNull, insertQuery, updateQuery, values, hmembers, hvalues⟩ :=
    Put.members_unit r e
  rw [SourceUnit.method?, hmembers]
  exact ⟨_, values, rfl, rfl, rfl, hvalues⟩

theorem Delete.members_unit : ∃ entity nonNull query : TypeName,
    (Delete.unit r e).decl.members =
      [.method (overriding nonNull "protected" query "mapToDeleteQuery"
        [nonNullParam nonNull entity objectName] (Delete.deleteBody e query))] := by
  dsimp only [Delete.unit, extending]
  exact ⟨_, _, _, rfl⟩

theorem Delete.method?_delete : ∃ method query,
    (Delete.unit r e).method? "mapToDeleteQuery" = some method ∧
      method.paramNames = [objectName] ∧ method.body = Delete.deleteBody e query := by
  obtain ⟨entity, nonNull, query, hmembers⟩ := Delete.members_unit r e
  rw [SourceUnit.method?, hmembers]
  exact ⟨_, query, rfl, rfl, rfl⟩

theorem Get.localTypes_columns (cs : List Column) (s : Scope) :
    (Get.localTypes s cs).1.map (·.2) = cs := by
  induction cs generalizing s with
  | nil => rfl
  | cons c cs ih =>
    show c :: (Get.localTypes (c.type.declare s).2 cs).1.map (·.2) = c :: cs
    rw [ih]

variable {e}

theorem Get.members_assign (h : e.activeCreator? = none) :
    ∃ entity nonNull storage cursor : TypeName,
      (Get.unit r e).decl.members =
        [.method (overriding nonNull "public" entity "mapFromCursor"
          [nonNullParam nonNull storage r.storageParameter,
           nonNullParam nonNull cursor Get.cursorName] (Get.assignBody e entity))] ∧
        entity.denotes = e.className := by
  unfold Get.unit
  rw [h]
  dsimp only [extending]
  exact ⟨_, _, _, _, rfl, Scope.refer_denotes _ _⟩

theorem Get.method?_assign (h : e.activeCreator? = none) : ∃ method entity,
    (Get.unit r e).method? "mapFromCursor" = some method ∧
      method.paramNames = [r.storageParameter, Get.cursorName] ∧
      method.body = Get.assignBody e entity ∧ entity.denotes = e.className := by
  obtain ⟨entity, nonNull, storage, cursor, hmembers, hentity⟩ := Get.members_assign r h
  rw [SourceUnit.method?, hmembers]
  exact ⟨_, entity, rfl, rfl, rfl, hentity⟩

theorem Get.members_create {creator : Creator} (h : e.activeCreator? = some creator) :
    ∃ (entity nonNull storage cursor : TypeName) (locals : List (TypeUse × Column)),
      (Get.unit r e).decl.members =
        [.method (overriding nonNull "public" entity "mapFromCursor"
          [nonNullParam nonNull storage r.storageParameter,
           nonNullParam nonNull cursor Get.cursorName]
          (Get.createBody creator entity locals))] ∧
        entity.denotes = e.className ∧ locals.map (·.2) = e.ordered := by
  unfold Get.unit
  rw [h]
  dsimp only [extending]
  exact ⟨_, _, _, _, _, rfl, Scope.refer_denotes _ _, Get.localTypes_columns _ _⟩

theorem Get.method?_create {creator : Creator} (h : e.activeCreator? = some creator) :
    ∃ method entity locals,
      (Get.unit r e).method? "mapFromCursor" = some method ∧
        method.paramNames = [r.storageParameter, Get.cursorName] ∧
        method.body = Get.createBody creator entity locals ∧ entity.denotes = e.className ∧
        locals.map (·.2) = e.ordered := by
  obtain ⟨entity, nonNull, storage, cursor, locals, hmembers, hentity, hlocals⟩ :=
    Get.members_create r h
  rw [SourceUnit.method?, hmembers]
  exact ⟨_, entity, locals, rfl, rfl, rfl, hentity, hlocals⟩

end Resolver

end ResolverGen
