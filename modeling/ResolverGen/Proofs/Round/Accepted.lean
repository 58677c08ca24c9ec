/-
The entities that a round accepts.

A round writes the units of its `accepted` entities, one after the other, and nothing else
(`round_eq`): if a fault stands against the model there are none. An accepted entity has been
collected (`holds_of_mem_accepted`) and has passed its check (`check_of_mem_accepted`).
-/
import ResolverGen.Proofs.Collection.Contents
import ResolverGen.Round

namespace ResolverGen

theorem Entity.check_of_checkAll {v : Vocabulary} {es : List Entity}
    (h : Entity.checkAll v es = .ok ()) : ∀ e ∈ es, e.check v = .ok () := by
  induction es with
  | nil => exact fun e he => absurd he List.not_mem_nil
  | cons x es ih =>
    unfold Entity.checkAll at h
    cases hx : x.check v with
    | error f =>
      rw [hx] at h
      cases h
    | ok =>
      rw [hx] at h
      intro e he
      rcases List.mem_cons.1 he with rfl | he
      · exact hx
      · exact ih h e he

theorem Entity.checkAll_of_check {v : Vocabulary} {es : List Entity}
    (h : ∀ e ∈ es, e.check v = .ok ()) : Entity.checkAll v es = .ok () := by
  induction es with
  | nil => rfl
  | cons x es ih =>
    unfold Entity.checkAll
    rw [h x List.mem_cons_self]
    exact ih fun e he => h e (List.mem_cons_of_mem x he)

namespace Processor

variable {p : Processor} {m : Model} {e : Entity}

/-- The annotation for values that are never null in a round over a model. -/
def nonNullMark (p : Processor) (m : Model) : Code.ClassName := p.settings.nonNullMark m

/-- The entities whose units a round writes. -/
def accepted (p : Processor) (m : Model) : List Entity :=
  match p.units m with
  | (.ok _, c) => c.entities
  | (.error _, _) => []

/-- The units that a round writes until one cannot be written. -/
def emission (p : Processor) (m : Model) : List Code.SourceUnit :=
  (p.accepted m).flatMap (·.units p.backend)

theorem units_eq (p : Processor) (m : Model) :
    p.units m =
      let result := m.collect p.backend (p.nonNullMark m) p.accessors
      (result.1 >>= fun _ => Entity.checkAll p.backend.vocabulary result.2.entities >>= fun _ =>
        pure (result.2.entities.flatMap (·.units p.backend)), result.2) :=
  rfl

theorem units_ok {units : List Code.SourceUnit} {c : Collection}
    (h : p.units m = (.ok units, c)) :
    m.collect p.backend (p.nonNullMark m) p.accessors = (.ok (), c) ∧
      Entity.checkAll p.backend.vocabulary c.entities = .ok () ∧
      units = c.entities.flatMap (·.units p.backend) := by
  unfold Processor.units at h
  cases hcollect : m.collect p.backend (p.settings.nonNullMark m) p.accessors with
  | mk result d =>
    rw [hcollect] at h
    simp only [Prod.mk.injEq] at h
    obtain ⟨hunits, rfl⟩ := h
    obtain ⟨⟨⟩, hresult, hunits⟩ := exists_of_bind_eq_ok hunits
    obtain ⟨⟨⟩, hcheck, hunits⟩ := exists_of_bind_eq_ok hunits
    cases hunits
    exact ⟨by rw [← hresult]; exact hcollect, hcheck, rfl⟩

theorem units_of_collect {c : Collection}
    (hcollect : m.collect p.backend (p.nonNullMark m) p.accessors = (.ok (), c))
    (hcheck : Entity.checkAll p.backend.vocabulary c.entities = .ok ()) :
    p.units m = (.ok (c.entities.flatMap (·.units p.backend)), c) := by
  rw [units_eq, hcollect]
  dsimp only
  rw [hcheck]
  rfl

/-- A fault that stands against a model is halting. -/
theorem units_fails : Fails Fault.Halting (p.units m).1 := by
  refine Fails.mono (P := Fault.Refusal) ?_ fun _ => Fault.Refusal.halting
  refine Model.collect_fails.bind fun _ _ => ?_
  exact (Entity.checkAll_fails _ _).bind fun _ _ => Fails.ok _

theorem units_warns : (p.units m).2.WarnsOfPassedOver := Model.collect_warns

theorem exists_collection_of_mem_accepted (h : e ∈ p.accepted m) :
    ∃ c, m.collect p.backend (p.nonNullMark m) p.accessors = (.ok (), c) ∧
      Entity.checkAll p.backend.vocabulary c.entities = .ok () ∧ e ∈ c.entities := by
  unfold accepted at h
  split at h
  · next units c hunits =>
    obtain ⟨hcollect, hcheck, -⟩ := units_ok hunits
    exact ⟨c, hcollect, hcheck, h⟩
  · exact absurd h List.not_mem_nil

theorem element_mem_annotatedWith (h : e ∈ p.accepted m) :
    e.element ∈ m.annotatedWith p.backend.vocabulary.type.qualified := by
  obtain ⟨c, hcollect, -, he⟩ := exists_collection_of_mem_accepted h
  rw [← (Model.collect_ok hcollect).classes]
  exact List.mem_map_of_mem he

/-- An accepted entity holds its class and all of its members. -/
theorem holds_of_mem_accepted (h : e ∈ p.accepted m) :
    e.Holds m p.backend (p.nonNullMark m)
      (m.annotatedWith p.backend.vocabulary.column.qualified) := by
  obtain ⟨c, hcollect, -, he⟩ := exists_collection_of_mem_accepted h
  exact (Model.collect_ok hcollect).holds e he

theorem check_of_mem_accepted (h : e ∈ p.accepted m) :
    e.check p.backend.vocabulary = .ok () := by
  obtain ⟨c, -, hcheck, he⟩ := exists_collection_of_mem_accepted h
  exact Entity.check_of_checkAll hcheck e he

theorem mem_emission {u : Code.SourceUnit} (h : e ∈ p.accepted m) (hu : u ∈ e.units p.backend) :
    u ∈ p.emission m :=
  List.mem_flatMap.2 ⟨e, h, hu⟩

/-- The table class of an accepted entity that asks for one is written. -/
theorem tableUnit_mem_emission {table : String} (h : e ∈ p.accepted m)
    (htable : e.config.definedTable? = some table) :
    TableClass.unit table e ∈ p.emission m :=
  mem_emission h (by simp [Entity.units, htable])

/-- What is known of the only accepted entity. -/
theorem exists_of_accepted {α : Type} {f : Entity → α} {a : α}
    (h : (p.accepted m).map f = [a]) : ∃ e ∈ p.accepted m, f e = a := by
  obtain ⟨e, hlist, he⟩ := List.map_eq_singleton_iff.1 h
  exact ⟨e, by rw [hlist]; exact List.mem_singleton_self e, he⟩

theorem emission_of_units {units : List Code.SourceUnit} {c : Collection}
    (h : p.units m = (.ok units, c)) : p.emission m = units := by
  rw [emission, accepted, h]
  exact (units_ok h).2.2.symm

/-- A round hands the units of its accepted entities to the store. -/
theorem round_eq {σ : Type} (write : σ → Code.SourceUnit → Except String σ) (s : σ) :
    (p.round m write s).generated = (writeAll write (p.emission m) s).names ∧
      (p.round m write s).store = (writeAll write (p.emission m) s).store := by
  unfold round emission accepted
  cases hunits : p.units m with
  | mk result c =>
    cases result with
    | error f => exact ⟨rfl, rfl⟩
    | ok units =>
      obtain ⟨-, -, rfl⟩ := units_ok hunits
      exact ⟨rfl, rfl⟩

/-! ### An accepted model -/

/-- A class with some accessors, given by their names, types and annotations' arguments, that is
made by its constructor. -/
def accessorModel (accessors : List (String × String × String)) (parameters : List Parameter) :
    Model :=
  ⟨[], [Element.ofKind .package "com.test",
    { Element.ofKind .classType "User" with
      enclosing := some 0
      annotations := [⟨"StorIOSQLiteType", some "table = \"users\""⟩] }] ++
    accessors.map (fun (name, type, arguments) =>
      { Element.ofKind .method name with
        enclosing := some 1
        type := some type
        annotations := [⟨"StorIOSQLiteColumn", some arguments⟩] }) ++
    [{ Element.ofKind .constructor "<init>" with
        enclosing := some 1
        annotations := [⟨"StorIOSQLiteCreator", none⟩]
        parameters }]⟩

/-- A class with some fields, given by their names, types and annotations' arguments, that asks for a
table class. -/
def tableModel (fields : List (String × String × String)) : Model :=
  ⟨[], [Element.ofKind .package "com.test",
    { Element.ofKind .classType "User" with
      enclosing := some 0
      annotations :=
        [⟨"StorIOSQLiteType", some "table = \"users\", generateTableClass = true"⟩] }] ++
    fields.map fun (name, type, arguments) =>
      { Element.ofKind .field name with
        enclosing := some 1
        type := some type
        annotations := [⟨"StorIOSQLiteColumn", some arguments⟩] }⟩

/-- A class whose constructor has its parameters in another order. -/
def userModel : Model :=
  accessorModel
    [("getName", "java.lang.String", "name = \"name\""),
     ("getId", "long", "name = \"_id\", key = true")]
    [⟨"id", "long"⟩, ⟨"name", "java.lang.String"⟩]

/-- The column that `getName` gives. -/
def userName : Column :=
  { enclosing := 1, element := 2, kind := .method, elementName := "getName", type := .string
    name := "name", key := false, ignoreNull := false, version := 1, getter := none
    setter := none, notNull := false }

/-- The column that `getId` gives. -/
def userId : Column :=
  { enclosing := 1, element := 3, kind := .method, elementName := "getId", type := .long
    name := "_id", key := true, ignoreNull := false, version := 1, getter := none
    setter := none, notNull := false }

/-- The constructor of the class. -/
def userCreator : Creator := ⟨1, 4, .constructor, ["id", "name"]⟩

theorem accepted_userModel : ((initial .sqlite .unset).accepted userModel).map
    (fun e => (e.columns, e.byCreator, e.creator)) =
      [([userName, userId], true, some userCreator)] := by
  decide +kernel

theorem exists_accepted_userModel : ∃ e ∈ (initial .sqlite .unset).accepted userModel,
    e.columns = [userName, userId] ∧ e.byCreator = true ∧ e.creator = some userCreator := by
  obtain ⟨e, he, hparts⟩ := exists_of_accepted accepted_userModel
  simp only [Prod.mk.injEq] at hparts
  exact ⟨e, he, hparts⟩

end Processor

end ResolverGen
