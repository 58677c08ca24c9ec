/-
Where the objects of get resolvers come from.

A get resolver gives back a variable, and `origin?` is the value that the variable is declared with.
Where objects are made by a creator, that is what the creator makes (`Get.origin?_create`).

An abstract class counts from the start as one whose objects a creator makes, so none of its objects
is made empty. But a constructor with the creator annotation passes for an abstract class as for any
other. So the objects of an abstract class come from a static factory of the class just if the creator
annotation stands on a method, and from `new` otherwise (`origin_of_abstract`).
-/
import ResolverGen.Proofs.Resolver.Members

namespace ResolverGen

namespace Code

/-- The value that a statement declares a variable with. -/
def Stmt.declared? (name : String) : Stmt → Option Expr
  | .declare _ other value => if other = name then some value else none
  | _ => none

/-- The value that some statements declare a variable with last. -/
def declaredLast? (name : String) (body : List Stmt) : Option Expr :=
  body.reverse.findSome? (Stmt.declared? name)

/-- The value of the variable that a method gives back at its end. -/
def Method.origin? (m : Method) : Option Expr :=
  match m.body.getLast? with
  | some (.give (.var name)) => declaredLast? name m.body
  | _ => none

/-- What comes later is what counts. -/
theorem declaredLast?_append (name : String) (body rest : List Stmt) :
    declaredLast? name (body ++ rest) = (declaredLast? name rest).or (declaredLast? name body) := by
  rw [declaredLast?, List.reverse_append, List.findSome?_append]
  rfl

end Code

namespace Resolver

open Code

variable (r : Runtime) {e : Entity}

/-- With a creator the object is what the creator is called for. A column of the object's own name
does not get in between: its variable is declared before. -/
theorem Get.origin?_create {creator : Creator} (h : e.activeCreator? = some creator) :
    ∃ method entity arguments,
      (Get.unit r e).method? "mapFromCursor" = some method ∧ entity.denotes = e.className ∧
        arguments.length = e.columns.length ∧
        method.origin? = some (creator.invoke entity arguments) := by
  obtain ⟨method, entity, locals, hmethod, -, hbody, hentity, hlocals⟩ :=
    Get.method?_create r h
  refine ⟨method, entity, locals.map fun l => .var l.2.property, hmethod, hentity, ?_, ?_⟩
  · rw [List.length_map, ← (Entity.ordered_perm e).length_eq, ← hlocals, List.length_map]
  · have hlast : method.body.getLast? = some (.give object) := by
      rw [hbody, Get.createBody, List.getLast?_append]
      rfl
    rw [Method.origin?, hlast]
    show declaredLast? objectName method.body = _
    rw [hbody, Get.createBody, declaredLast?_append]
    rfl

end Resolver

open Code Resolver

/-- Where the objects of an entity come from whose creator has to make them. -/
structure Entity.ComesFrom (e : Entity) (m : Model) (b : Backend) (c : Creator) : Prop where
  creator : e.creator = some c
  member : m.IsMember b.vocabulary e.element c.element
  /-- A method makes them if it is a static factory of the class, and anything else is called by
  `new`. Either is given the value of every column, so that no object is made empty. -/
  origin : ∃ method entity arguments,
    (Get.unit b.runtime e).method? "mapFromCursor" = some method ∧ entity.denotes = e.className ∧
      arguments.length = e.columns.length ∧
      ((m.element c.element).kind = .method → m.MakesObjects e.element c.element ∧
        method.origin? = some (.callOn entity (m.element c.element).name arguments)) ∧
      ((m.element c.element).kind ≠ .method →
        method.origin? = some (.construct entity arguments))

namespace Processor

variable {p : Processor} {m : Model} {e : Entity}

/-- An abstract class needs a creator from the start, whatever its columns are. -/
theorem byCreator_of_abstract (h : e ∈ p.accepted m)
    (habstract : (m.element e.element).has .abstract = true) : e.byCreator = true := by
  obtain ⟨collected, hcollect, -, hmem⟩ := exists_collection_of_mem_accepted h
  rw [((Model.collect_gathers hcollect).gathers e hmem).byCreator, habstract, Bool.true_or]

/-- **An object of an abstract class comes from a static factory of the class just if the creator
annotation stands on a method.** -/
theorem origin_of_abstract (h : e ∈ p.accepted m)
    (habstract : (m.element e.element).has .abstract = true) :
    Get.unit p.backend.runtime e ∈ p.emission m ∧ e.columns ≠ [] ∧
      ∃ c, e.ComesFrom m p.backend c := by
  have hcheck := check_of_mem_accepted h
  obtain ⟨c, hactive, -⟩ := Entity.activeCreator?_of_check hcheck (byCreator_of_abstract h habstract)
  have hcreator : e.creator = some c := by
    rw [Entity.activeCreator?, if_pos (byCreator_of_abstract h habstract)] at hactive
    exact hactive
  obtain ⟨hmade, hmember, -⟩ := creator_of_mem_accepted h hcreator
  obtain ⟨method, entity, arguments, hmethod, hentity, hlength, horigin⟩ :=
    Get.origin?_create p.backend.runtime hactive
  refine ⟨mem_emission h (by simp [Entity.units]), (Entity.check_eq_ok_iff.1 hcheck).1, c, hcreator,
    hmember, method, entity, arguments, hmethod, hentity, hlength, fun hkind => ?_, fun hkind => ?_⟩
  · have hfactory : c.kind = .factory (m.element c.element).name := by
      rw [hmade]
      exact if_pos hkind
    refine ⟨((members_of_mem_accepted h).creator c hcreator).2.2 (.inr hkind), ?_⟩
    rw [horigin, Creator.invoke, hfactory]
  · have hconstructor : c.kind = .constructor := by
      rw [hmade]
      exact if_neg hkind
    rw [horigin, Creator.invoke, hconstructor]

/-! ### An abstract class -/

/-- An abstract class with one accessor, and what makes its objects. -/
def abstractModel (creator : Element) : Model :=
  ⟨[], [Element.ofKind .package "com.test",
    { Element.ofKind .classType "User" with
      modifiers := [.abstract]
      enclosing := some 0
      annotations := [⟨"StorIOSQLiteType", some "table = \"users\""⟩] },
    { Element.ofKind .method "id" with
      modifiers := [.abstract]
      enclosing := some 1
      type := some "long"
      annotations := [⟨"StorIOSQLiteColumn", some "name = \"_id\", key = true"⟩] },
    { creator with
      enclosing := some 1
      annotations := [⟨"StorIOSQLiteCreator", none⟩]
      parameters := [⟨"id", "long"⟩] }]⟩

/-- A static factory of that class. -/
def userFactory : Element :=
  { Element.ofKind .method "create" with
    modifiers := [.static]
    type := some "com.test.User" }

theorem origin_abstractModel : ∃ e ∈ (initial .sqlite .unset).accepted (abstractModel userFactory),
    ((abstractModel userFactory).element e.element).has .abstract = true ∧
      Get.unit Backend.sqlite.runtime e ∈ (initial .sqlite .unset).emission
        (abstractModel userFactory) ∧
      e.columns ≠ [] ∧ ∃ c, e.ComesFrom (abstractModel userFactory) .sqlite c := by
  have haccepted : ((initial .sqlite .unset).accepted (abstractModel userFactory)).map
      (·.element) = [1] := by
    decide +kernel
  obtain ⟨e, he, helement⟩ := List.map_eq_singleton_iff.1 haccepted
  have hmem : e ∈ (initial .sqlite .unset).accepted (abstractModel userFactory) := by
    rw [he]
    exact List.mem_singleton_self e
  have habstract : ((abstractModel userFactory).element e.element).has .abstract = true := by
    rw [helement]
    decide
  exact ⟨e, hmem, habstract, origin_of_abstract hmem habstract⟩

/-- A constructor of the class is called by `new`, although the class is abstract. -/
theorem construct_abstractModel :
    ∃ e ∈ (initial .sqlite .unset).accepted (abstractModel (Element.ofKind .constructor "<init>")),
      ((abstractModel (Element.ofKind .constructor "<init>")).element e.element).has .abstract =
          true ∧
        ∃ method entity arguments,
          (Get.unit Backend.sqlite.runtime e).method? "mapFromCursor" = some method ∧
            entity.denotes = e.className ∧
            method.origin? = some (.construct entity arguments) := by
  have haccepted : ((initial .sqlite .unset).accepted
      (abstractModel (Element.ofKind .constructor "<init>"))).map
        (fun e => (e.element, e.activeCreator?)) = [(1, some ⟨1, 3, .constructor, ["id"]⟩)] := by
    decide +kernel
  obtain ⟨e, he, hparts⟩ := List.map_eq_singleton_iff.1 haccepted
  rw [Prod.mk.injEq] at hparts
  obtain ⟨method, entity, arguments, hmethod, hentity, -, horigin⟩ :=
    Get.origin?_create Backend.sqlite.runtime hparts.2
  refine ⟨e, by rw [he]; exact List.mem_singleton_self e, ?_, method, entity, arguments, hmethod,
    hentity, horigin⟩
  rw [hparts.1]
  decide

end Processor

end ResolverGen
