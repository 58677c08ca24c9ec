/-
Models that look alike to a backend.

A backend reads its own three annotations and the marks of values that are never null, and tells
elements apart by their positions without comparing these. `LooksLike` says that the elements of one
model stand in another one at the positions that `σ` gives, and that the backend reads the same on
them; only a member that is passed over may have lost its column annotation. Each function that
members, classes and creators are read by then gives the same on both models, but for the positions
in what it gives (`entity`, `readColumn`, `creator`, `checkCreator`).
-/
import Mathlib.Logic.Equiv.Defs
import ResolverGen.Proofs.Collection.Reading

namespace ResolverGen

open Code

variable {b : Backend} {σ : Equiv.Perm ElementId}

/-- The qualified names of the annotations that a backend looks for. -/
def Backend.marks (b : Backend) : List String :=
  [b.vocabulary.type.qualified, b.vocabulary.column.qualified, b.vocabulary.creator.qualified] ++
    nonNullMarks

namespace Backend

theorem type_mem_marks : b.vocabulary.type.qualified ∈ b.marks := by simp [marks]

theorem column_mem_marks : b.vocabulary.column.qualified ∈ b.marks := by simp [marks]

theorem creator_mem_marks : b.vocabulary.creator.qualified ∈ b.marks := by simp [marks]

theorem nonNull_mem_marks {mark : String} (h : mark ∈ nonNullMarks) : mark ∈ b.marks :=
  List.mem_append_right _ h

theorem type_ne_column : b.vocabulary.type.qualified ≠ b.vocabulary.column.qualified := by
  cases b <;> decide +kernel

theorem creator_ne_column : b.vocabulary.creator.qualified ≠ b.vocabulary.column.qualified := by
  cases b <;> decide +kernel

theorem nonNull_ne_column {mark : String} (h : mark ∈ nonNullMarks) :
    mark ≠ b.vocabulary.column.qualified := by
  have hall : ∀ mark ∈ nonNullMarks, mark ≠ b.vocabulary.column.qualified := by
    cases b <;> decide +kernel
  exact hall mark h

end Backend

/-! ### Other positions -/

/-- An element whose references have been moved. -/
def Element.moved (σ : Equiv.Perm ElementId) (e : Element) : Element :=
  { e with enclosing := e.enclosing.map σ, superclass := e.superclass.map σ }

/-- An element without its annotations. -/
def Element.bare (e : Element) : Element := { e with annotations := [] }

/-- A fault whose element has been moved. -/
def Fault.moved (σ : Equiv.Perm ElementId) (f : Fault) : Fault :=
  { f with element := f.element.map σ }

/-- A column whose class and member have been moved. -/
def Column.moved (σ : Equiv.Perm ElementId) (c : Column) : Column :=
  { c with enclosing := σ c.enclosing, element := σ c.element }

/-- A creator whose class and element have been moved. -/
def Creator.moved (σ : Equiv.Perm ElementId) (c : Creator) : Creator :=
  { c with enclosing := σ c.enclosing, element := σ c.element }

/-- An entity whose class and members have been moved. -/
def Entity.moved (σ : Equiv.Perm ElementId) (e : Entity) : Entity :=
  { e with
    element := σ e.element
    creator := e.creator.map (·.moved σ)
    columns := e.columns.map (·.moved σ) }

theorem Element.moved_refl (e : Element) : e.moved (Equiv.refl _) = e := by
  have hrefl (o : Option ElementId) : o.map (Equiv.refl ElementId) = o := Option.map_id'
  rw [moved, hrefl, hrefl]

theorem Fault.moved_refl (f : Fault) : f.moved (Equiv.refl _) = f := by
  obtain ⟨_ | _, _⟩ := f <;> rfl

theorem Column.moved_refl (c : Column) : c.moved (Equiv.refl _) = c := rfl

theorem Creator.moved_refl (c : Creator) : c.moved (Equiv.refl _) = c := rfl

theorem Entity.moved_refl (e : Entity) : e.moved (Equiv.refl _) = e := by
  have hcolumns : e.columns.map (·.moved (Equiv.refl _)) = e.columns := List.map_id' _
  have hcreator : e.creator.map (·.moved (Equiv.refl _)) = e.creator := Option.map_id'
  rw [moved, hcolumns, hcreator]
  rfl

/-- A result with its fault moved, if it has failed. -/
def moveFault {α : Type} (σ : Equiv.Perm ElementId) (x : Except Fault α) : Except Fault α :=
  x.mapError (·.moved σ)

section

variable {α β : Type}

@[simp] theorem moveFault_ok (a : α) : moveFault σ (.ok a) = .ok a := rfl

@[simp] theorem moveFault_error (f : Fault) :
    moveFault σ (.error f : Except Fault α) = .error (f.moved σ) :=
  rfl

@[simp] theorem moveFault_eq_ok_iff {x : Except Fault α} {a : α} :
    moveFault σ x = .ok a ↔ x = .ok a := by
  cases x <;> simp

theorem moveFault_bind (x : Except Fault β) (f : β → Except Fault α) :
    moveFault σ (x >>= f) = moveFault σ x >>= fun a => moveFault σ (f a) := by
  cases x <;> rfl

theorem moveFault_refl (x : Except Fault α) : moveFault (Equiv.refl _) x = x := by
  cases x with
  | error f => exact congrArg _ f.moved_refl
  | ok a => rfl

end

/-! ### Likeness -/

/-- Whether a backend sees in a model what it sees in another, at the positions that `σ` gives. -/
structure Model.LooksLike (b : Backend) (σ : Equiv.Perm ElementId) (m m' : Model) : Prop where
  knownTypes : m'.knownTypes = m.knownTypes
  size : m'.size = m.size
  /-- All but the annotations is the same. -/
  shape : ∀ id, (m'.element (σ id)).bare = ((m.element id).moved σ).bare
  /-- Only a member that is passed over may differ in its column annotation. -/
  marks : ∀ id, ∀ mark ∈ b.marks,
    mark ≠ b.vocabulary.column.qualified ∨ m.passesOver b.vocabulary id = false →
      (m'.element (σ id)).annotation? mark = (m.element id).annotation? mark
  /-- The members of a class come in the same order. -/
  enclosed : ∀ id, (m.element id).kind = .classType → m'.enclosed (σ id) = (m.enclosed id).map σ

namespace Model.LooksLike

variable {m m' : Model} {v : Vocabulary} {a : Accessors} {id owner : ElementId} {mark : String}

variable (h : m.LooksLike b σ m')
include h

/-- What can be told without the annotations is the same. -/
theorem reads {α : Type} (read : Element → α) (hread : ∀ e, read e.bare = read e)
    (id : ElementId) : read (m'.element (σ id)) = read ((m.element id).moved σ) := by
  rw [← hread, h.shape, hread]

theorem kind (id : ElementId) : (m'.element (σ id)).kind = (m.element id).kind :=
  h.reads Element.kind (fun _ => rfl) id

theorem name (id : ElementId) : (m'.element (σ id)).name = (m.element id).name :=
  h.reads Element.name (fun _ => rfl) id

theorem type (id : ElementId) : (m'.element (σ id)).type = (m.element id).type :=
  h.reads Element.type (fun _ => rfl) id

theorem parameters (id : ElementId) :
    (m'.element (σ id)).parameters = (m.element id).parameters :=
  h.reads Element.parameters (fun _ => rfl) id

theorem enclosing (id : ElementId) :
    (m'.element (σ id)).enclosing = (m.element id).enclosing.map σ :=
  h.reads Element.enclosing (fun _ => rfl) id

theorem superclass (id : ElementId) :
    (m'.element (σ id)).superclass = (m.element id).superclass.map σ :=
  h.reads Element.superclass (fun _ => rfl) id

theorem has (id : ElementId) (modifier : Modifier) :
    (m'.element (σ id)).has modifier = (m.element id).has modifier :=
  h.reads (·.has modifier) (fun _ => rfl) id

theorem isAnnotated (hmark : mark ∈ b.marks) (hne : mark ≠ b.vocabulary.column.qualified)
    (id : ElementId) : (m'.element (σ id)).isAnnotated mark = (m.element id).isAnnotated mark := by
  rw [Element.isAnnotated, h.marks id mark hmark (.inl hne)]
  rfl

theorem isTypeAnnotated (id : ElementId) :
    (m'.element (σ id)).isAnnotated b.vocabulary.type.qualified =
      (m.element id).isAnnotated b.vocabulary.type.qualified :=
  h.isAnnotated Backend.type_mem_marks Backend.type_ne_column id

theorem isNonNull (id : ElementId) :
    nonNullMarks.any (m'.element (σ id)).isAnnotated =
      nonNullMarks.any (m.element id).isAnnotated := by
  have hmark : ∀ mark ∈ nonNullMarks,
      (m'.element (σ id)).isAnnotated mark = (m.element id).isAnnotated mark :=
    fun mark hmark =>
      h.isAnnotated (Backend.nonNull_mem_marks hmark) (Backend.nonNull_ne_column hmark) id
  simp only [nonNullMarks, List.forall_mem_cons] at hmark
  simp only [nonNullMarks, List.any_cons, List.any_nil, hmark]

theorem packageWithin (steps : Nat) (id : ElementId) :
    m'.packageWithin steps (σ id) = m.packageWithin steps id := by
  induction steps generalizing id with
  | zero => rfl
  | succ steps ih =>
    rw [Model.packageWithin, Model.packageWithin, h.kind, h.name, h.enclosing]
    cases (m.element id).enclosing with
    | none => rfl
    | some outer => simp only [Option.map_some, ih]

theorem packageOf (id : ElementId) : m'.packageOf (σ id) = m.packageOf id := by
  rw [Model.packageOf, Model.packageOf, h.size, h.packageWithin]

theorem ownType (id : ElementId) : m'.ownType (σ id) = m.ownType id := by
  rw [Model.ownType, Model.ownType, h.type, h.packageOf, h.name]

theorem enclosingClass? (id : ElementId) :
    m'.enclosingClass? (σ id) = (m.enclosingClass? id).map σ := by
  rw [Model.enclosingClass?, Model.enclosingClass?, h.enclosing, Option.filter_map]
  simp only [Function.comp_def, h.kind]

theorem enclosingName (id : ElementId) : m'.enclosingName (σ id) = m.enclosingName id := by
  rw [Model.enclosingName, Model.enclosingName, h.enclosing]
  cases (m.element id).enclosing with
  | none => rfl
  | some parent => exact h.name parent

theorem passesOver (id : ElementId) :
    m'.passesOver b.vocabulary (σ id) = m.passesOver b.vocabulary id := by
  rw [Model.passesOver, Model.passesOver, h.enclosingClass?, Option.any_map]
  simp only [h.isTypeAnnotated, h.superclass, Option.any_map]

/-! ### Accessors -/

theorem accessorKey (id : ElementId) : m'.accessorKey (σ id) = m.accessorKey id := by
  rw [Model.accessorKey, Model.accessorKey, h.enclosing, h.name, h.type]
  cases (m.element id).enclosing with
  | none => rfl
  | some parent => simp only [Option.map_some, h.packageOf, h.name]

theorem getter? (a : Accessors) (id : ElementId) : a.getter? m' (σ id) = a.getter? m id := by
  rw [Accessors.getter?, Accessors.getter?, h.accessorKey]

theorem setter? (a : Accessors) (id : ElementId) : a.setter? m' (σ id) = a.setter? m id := by
  rw [Accessors.setter?, Accessors.setter?, h.accessorKey]

theorem siblings (howner : m.enclosingClass? id = some owner) :
    m'.siblings (σ id) = (m.siblings id).map σ := by
  obtain ⟨henclosing, hkind⟩ := enclosingClass?_eq_some howner
  rw [Model.siblings, Model.siblings, h.enclosing, henclosing]
  exact h.enclosed owner hkind

theorem lastSibling? (howner : m.enclosingClass? id = some owner)
    {isAccessor isAccessor' : Element → Bool}
    (heq : ∀ x, isAccessor' (m'.element (σ x)) = isAccessor (m.element x)) :
    m'.lastSibling? (σ id) isAccessor' = m.lastSibling? id isAccessor := by
  have hnames : (fun x => (m'.element (σ x)).name) = fun x => (m.element x).name := funext h.name
  rw [Model.lastSibling?, Model.lastSibling?, h.siblings howner]
  simp only [List.map_map, List.filter_map, List.getLast?_map, Option.map_map, Function.comp_def,
    heq, hnames]

theorem isCallable (id : ElementId) :
    (m'.element (σ id)).isCallable = (m.element id).isCallable :=
  h.reads Element.isCallable (fun _ => rfl) id

theorem getterOf? (howner : m.enclosingClass? id = some owner) :
    m'.getterOf? (σ id) = m.getterOf? id := by
  refine h.lastSibling? howner fun x => ?_
  simp only [Element.isGetterOf, Element.namesGetterOf, h.isCallable, h.name, h.parameters, h.type]

theorem setterOf? (howner : m.enclosingClass? id = some owner) :
    m'.setterOf? (σ id) = m.setterOf? id := by
  rw [Model.setterOf?, Model.setterOf?, h.has]
  refine congrArg _ (h.lastSibling? howner fun x => ?_)
  simp only [Element.isSetterOf, h.isCallable, h.name, h.parameters, h.type]

theorem learnGetter (a : Accessors) (howner : m.enclosingClass? id = some owner) :
    a.learnGetter m' (σ id) = a.learnGetter m id := by
  rw [Accessors.learnGetter, h.accessorKey, h.getterOf? howner]
  rfl

theorem learnSetter (a : Accessors) (howner : m.enclosingClass? id = some owner) :
    a.learnSetter m' (σ id) = a.learnSetter m id := by
  rw [Accessors.learnSetter, h.accessorKey, h.setterOf? howner]
  rfl

/-! ### Checks -/

theorem checkClass (v : Vocabulary) (id : ElementId) :
    m'.checkClass v (σ id) = moveFault σ (m.checkClass v id) := by
  unfold Model.checkClass
  simp only [h.kind, h.name, h.enclosing, Option.any_map]
  split
  · rfl
  · split <;> rfl

theorem checkOwner (id : ElementId) :
    m'.checkOwner b.vocabulary (σ id) = moveFault σ (m.checkOwner b.vocabulary id) := by
  unfold Model.checkOwner
  rw [h.enclosingClass?, h.enclosingName]
  cases m.enclosingClass? id with
  | none => rfl
  | some owner =>
    simp only [Option.map_some, h.isTypeAnnotated, h.superclass, h.name, Option.any_map]
    split
    · rfl
    · split <;> rfl

theorem checkShape (v : Vocabulary) (a : Accessors) (id : ElementId) :
    m'.checkShape v a (σ id) = moveFault σ (m.checkShape v a id) := by
  unfold Model.checkShape
  simp only [h.kind, h.has, h.getter?, h.parameters, h.name]
  split
  · rfl
  · split <;> rfl

theorem checkColumn (a : Accessors) (id : ElementId) :
    m'.checkColumn b.vocabulary a (σ id) =
      (moveFault σ (m.checkColumn b.vocabulary a id).1,
        (m.checkColumn b.vocabulary a id).2) := by
  unfold Model.checkColumn
  rw [h.checkOwner]
  cases hown : m.checkOwner b.vocabulary id with
  | error f => rfl
  | ok =>
    obtain ⟨owner, howner, -⟩ := checkOwner_ok hown
    simp only [moveFault_ok, h.has, h.kind, h.name, h.checkShape, h.learnGetter _ howner,
      h.learnSetter _ howner]
    split
    · rfl
    · split
      · rfl
      · split <;> rfl

theorem column (v : Vocabulary) (a : Accessors) (id : ElementId) (p : ColumnSpec) :
    m'.column v a (σ id) p = moveFault σ ((m.column v a id p).map (·.moved σ)) := by
  unfold Model.column
  simp only [h.type, h.name, h.enclosing, h.kind, h.getter?, h.setter?, h.isNonNull]
  cases (m.element id).type.bind ColumnType.ofTypeName? with
  | none => rfl
  | some type =>
    dsimp only
    split
    · rfl
    · split
      · rfl
      · split
        · rfl
        · cases (m.element id).enclosing <;> rfl

theorem checkCreator (id : ElementId) :
    m'.checkCreator b.vocabulary (σ id) = moveFault σ (m.checkCreator b.vocabulary id) := by
  unfold Model.checkCreator
  rw [h.enclosingClass?, h.enclosingName]
  cases m.enclosingClass? id with
  | none => rfl
  | some owner =>
    simp only [Option.map_some, h.isTypeAnnotated, h.name, h.has, h.kind, h.type, h.ownType]
    split
    · rfl
    · split
      · rfl
      · split
        · rfl
        · split <;> rfl

theorem creator (id : ElementId) : m'.creator (σ id) = (m.creator id).moved σ := by
  unfold Model.creator
  simp only [h.enclosing, h.kind, h.name, h.parameters]
  cases (m.element id).enclosing <;> rfl

/-! ### Payloads -/

theorem payload {α : Type} {mark : ClassName} (hmark : mark.qualified ∈ b.marks)
    (hread : mark.qualified ≠ b.vocabulary.column.qualified ∨
      m.passesOver b.vocabulary id = false) (fields : List (Payload.Field α)) (start : α) :
    Payload.ofElement fields start m' (σ id) mark =
      moveFault σ (Payload.ofElement fields start m id mark) := by
  unfold Payload.ofElement
  simp only [h.marks id _ hmark hread, h.name]
  cases (m.element id).annotation? mark.qualified with
  | none => rfl
  | some annotation =>
    dsimp only
    cases Payload.ofArguments fields start annotation.arguments <;> rfl

theorem columnSpec (hpass : m.passesOver b.vocabulary id = false) :
    b.columnSpec m' (σ id) = moveFault σ (b.columnSpec m id) :=
  h.payload Backend.column_mem_marks (.inr hpass) _ _

theorem config (id : ElementId) : b.config m' (σ id) = moveFault σ (b.config m id) := by
  cases b with
  | sqlite =>
    simp only [Backend.config, moveFault_bind,
      h.payload Backend.type_mem_marks (.inl Backend.type_ne_column), h.name]
    refine congrArg _ (funext fun p => ?_)
    split <;> rfl
  | contentResolver =>
    simp only [Backend.config, moveFault_bind,
      h.payload Backend.type_mem_marks (.inl Backend.type_ne_column), h.name]
    refine congrArg _ (funext fun uris => ?_)
    split <;> rfl

/-! ### What is collected -/

theorem entity (nonNull : ClassName) (id : ElementId) :
    m'.entity b nonNull (σ id) = moveFault σ ((m.entity b nonNull id).map (·.moved σ)) := by
  unfold Model.entity
  simp only [h.checkClass, h.config, h.name, h.packageOf, h.has]
  cases m.checkClass b.vocabulary id with
  | error f => rfl
  | ok => cases b.config m id <;> rfl

theorem readColumn (a : Accessors) (hpass : m.passesOver b.vocabulary id = false) :
    m'.readColumn b a (σ id) = moveFault σ ((m.readColumn b a id).map (·.moved σ)) := by
  rw [readColumn_eq, readColumn_eq, h.checkColumn, h.columnSpec hpass]
  simp only [h.column]
  cases (m.checkColumn b.vocabulary a id).1 with
  | error f => rfl
  | ok => cases b.columnSpec m id <;> rfl

end Model.LooksLike

/-! ### The same positions -/

namespace Model.LooksLike

variable {m m' : Model} {mark : String} {nonNull : ClassName}
  (h : m.LooksLike b (Equiv.refl _) m')
include h

theorem annotatedWith_of
    (hmark : ∀ id, (m'.element id).annotation? mark = (m.element id).annotation? mark) :
    m'.annotatedWith mark = m.annotatedWith mark := by
  have hids : m'.ids = m.ids := congrArg List.range h.size
  rw [Model.annotatedWith, Model.annotatedWith, hids]
  exact List.filter_congr fun id _ => congrArg Option.isSome (hmark id)

theorem annotatedWith (hmark : mark ∈ b.marks) (hne : mark ≠ b.vocabulary.column.qualified) :
    m'.annotatedWith mark = m.annotatedWith mark :=
  h.annotatedWith_of fun id => h.marks id mark hmark (.inl hne)

theorem change (c : Collection) (owner member : ElementId) (edit : Entity → Except Fault Entity) :
    c.change m' owner member edit = c.change m owner member edit := by
  unfold Collection.change
  rw [show (m'.element owner).name = (m.element owner).name from h.name owner]

theorem takeClass : Collection.takeClass m' b nonNull = Collection.takeClass m b nonNull := by
  funext c id
  have hentity : m'.entity b nonNull id = m.entity b nonNull id := by
    refine (h.entity nonNull id).trans ((moveFault_refl _).trans ?_)
    cases m.entity b nonNull id with
    | error f => rfl
    | ok e => exact congrArg _ e.moved_refl
  rw [Collection.takeClass, hentity]
  rfl

theorem takeColumn : Collection.takeColumn m' b = Collection.takeColumn m b := by
  funext c id
  have hcheck : m'.checkColumn b.vocabulary c.accessors id =
      m.checkColumn b.vocabulary c.accessors id :=
    (h.checkColumn _ id).trans (Prod.ext (moveFault_refl _) rfl)
  cases hpass : m.passesOver b.vocabulary id with
  | true =>
    -- whatever annotation is left on the member is not read
    have hpass' : m'.passesOver b.vocabulary id = true := (h.passesOver id).trans hpass
    rw [Collection.takeColumn_skips hpass, Collection.takeColumn_skips hpass']
  | false =>
    have hpass' : m'.passesOver b.vocabulary id = false := (h.passesOver id).trans hpass
    have hread : m'.readColumn b c.accessors id = m.readColumn b c.accessors id := by
      refine (h.readColumn _ hpass).trans ((moveFault_refl _).trans ?_)
      cases m.readColumn b c.accessors id <;> rfl
    rw [Collection.takeColumn_eq c hpass, Collection.takeColumn_eq c hpass', hread, hcheck]
    simp only [h.change]

theorem takeCreator : Collection.takeCreator m' b = Collection.takeCreator m b := by
  funext c id
  have hcheck : m'.checkCreator b.vocabulary id = m.checkCreator b.vocabulary id :=
    (h.checkCreator id).trans (moveFault_refl _)
  have hcreator : m'.creator id = m.creator id := h.creator id
  simp only [Collection.takeCreator, hcheck, hcreator, h.change]

end Model.LooksLike

end ResolverGen
