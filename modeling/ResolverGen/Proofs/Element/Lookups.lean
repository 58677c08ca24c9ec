/-
Lookups that fail.

A lookup at a position without an element gives an empty package, so that every function of a model
gives something. The functions in `Strict` are those functions with lookups that fail there, and with
a search for packages that fails if it does not come to an end. In a sound model in which no element
encloses itself none of them fails: each gives what the function itself gives, at every position of
the model (`packageOf_eq`, `accessorKey_eq`, `getterOf?_eq`, `setterOf?_eq`).
-/
import ResolverGen.Accessors
import ResolverGen.Proofs.Element.References

namespace ResolverGen

namespace Strict

section

variable (m : Model) (id : ElementId)

/-- The element at a position, if there is one. -/
def element : Option Element := m.elements[id]?

/-- The positions of the elements with a property. Going through all elements looks up none. -/
def positions (p : Element → Bool) : List ElementId :=
  (m.elements.zipIdx.filter fun (e, _) => p e).map (·.2)

/-- The package found within a number of steps, if the search ends by then. -/
def packageWithin : Nat → ElementId → Option String
  | 0, _ => none
  | steps + 1, id => do
    let e ← element m id
    if e.kind = .package then some e.name
    else
      match e.enclosing with
      | some outer => packageWithin steps outer
      | none => some ""

def packageOf : Option String := packageWithin m (m.size + 1) id

def ownType : Option String := do
  let e ← element m id
  match e.type with
  | some type => some type
  | none => do
    let package ← packageOf m id
    some (Code.ClassName.mk package e.name).qualified

/-- What is said of the element that a reference leads to, and nothing of no reference. -/
def any (reference : Option ElementId) (p : Element → Bool) : Option Bool :=
  match reference with
  | some target => (element m target).map p
  | none => some false

def siblings : Option (List ElementId) := do
  let e ← element m id
  match e.enclosing with
  | some parent => some (positions m (·.enclosing = some parent))
  | none => some []

def accessorKey : Option AccessorKey := do
  let e ← element m id
  let className ←
    match e.enclosing with
    | some parent => do
      let package ← packageOf m parent
      let owner ← element m parent
      some (package ++ "." ++ owner.name)
    | none => some ""
  some { className, field := e.name, type := e.type }

def lastSibling? (isAccessor : Element → Bool) : Option (Option String) := do
  let ids ← siblings m id
  let members ← ids.mapM (element m)
  some ((members.filter isAccessor).getLast?.map (·.name))

def getterOf? : Option (Option String) := do
  let e ← element m id
  lastSibling? m id (·.isGetterOf e)

def setterOf? : Option (Option String) := do
  let e ← element m id
  if e.has .final then some none else lastSibling? m id (·.isSetterOf e)

def getter? (a : Accessors) : Option (Option String) := do
  let key ← accessorKey m id
  some (a.getters.lookup key)

def setter? (a : Accessors) : Option (Option String) := do
  let key ← accessorKey m id
  some (a.setters.lookup key)

def learnGetter (a : Accessors) : Option (Bool × Accessors) := do
  let key ← accessorKey m id
  let name ← getterOf? m id
  let (found, getters) := a.getters.resolve key name
  some (found, { a with getters })

def learnSetter (a : Accessors) : Option (Bool × Accessors) := do
  let key ← accessorKey m id
  let name ← setterOf? m id
  let (found, setters) := a.setters.resolve key name
  some (found, { a with setters })

end

/-! ### Nothing fails -/

variable {m : Model} {id outer : ElementId}

theorem element_eq (hid : id < m.size) : element m id = some (m.element id) := by
  rw [element, List.getElem?_eq_getElem hid, Model.element_of_lt hid]

theorem positions_eq (m : Model) (p : Element → Bool) :
    positions m p = m.ids.filter fun id => p (m.element id) := by
  have hall : m.elements.zipIdx = m.ids.map fun id => (m.element id, id) := by
    refine List.ext_getElem (by simp [Model.ids]) fun id hid _ => ?_
    have hlt : id < m.elements.length := by simpa using hid
    simp [Model.ids, @Model.element_of_lt m id hlt]
  rw [positions, hall, List.filter_map, List.map_map]
  exact List.map_id _

/-- A search for a package that has not come back to where it has been ends. -/
theorem packageWithin_eq (hsound : m.Sound) (hacyclic : m.Acyclic) {steps : Nat}
    (visited : List ElementId) (hsteps : visited.length + steps = m.size + 1)
    (hnodup : visited.Nodup) (hvisited : ∀ v ∈ visited, v < m.size)
    (hchain : ∀ v ∈ visited, Relation.TransGen m.Encloses id v) (hid : id < m.size) :
    packageWithin m steps id = some (m.packageWithin steps id) := by
  induction steps generalizing id visited with
  | zero =>
    have hle := Model.length_le_size hnodup hvisited
    omega
  | succ steps ih =>
    rw [packageWithin, Model.packageWithin, element_eq hid]
    show (if _ then _ else _) = _
    split
    · rfl
    · cases henclosing : (m.element id).enclosing with
      | none => rfl
      | some outer =>
        have hnew : id ∉ visited := fun hmem => hacyclic id (hchain id hmem)
        refine ih (id :: visited) ?_ (List.nodup_cons.2 ⟨hnew, hnodup⟩) ?_ ?_
          ((hsound id).enclosing outer henclosing)
        · rw [List.length_cons]
          omega
        · exact List.forall_mem_cons.2 ⟨hid, hvisited⟩
        · refine List.forall_mem_cons.2 ⟨.single henclosing, fun v hv => ?_⟩
          exact .head henclosing (hchain v hv)

theorem any_eq {reference : Option ElementId}
    (href : ∀ target, reference = some target → target < m.size) (p : Element → Bool) :
    any m reference p = some (reference.any fun target => p (m.element target)) := by
  cases reference with
  | none => rfl
  | some target =>
    rw [any, element_eq (href target rfl)]
    rfl

theorem siblings_eq (hid : id < m.size) : siblings m id = some (m.siblings id) := by
  rw [siblings, Model.siblings, element_eq hid]
  show (match (m.element id).enclosing with | some parent => _ | none => _) = _
  cases (m.element id).enclosing with
  | none => rfl
  | some parent => exact congrArg some (positions_eq m _)

theorem lt_size_of_mem_siblings {x : ElementId} (h : x ∈ m.siblings id) : x < m.size := by
  unfold Model.siblings at h
  split at h
  · exact List.mem_range.1 (List.mem_filter.1 h).1
  · cases h

theorem elements_eq {ids : List ElementId} (h : ∀ x ∈ ids, x < m.size) :
    ids.mapM (element m) = some (ids.map m.element) := by
  induction ids with
  | nil => rfl
  | cons id ids ih =>
    rw [List.forall_mem_cons] at h
    rw [List.mapM_cons, element_eq h.1, ih h.2]
    rfl

theorem lastSibling?_eq (hid : id < m.size) (isAccessor : Element → Bool) :
    lastSibling? m id isAccessor = some (m.lastSibling? id isAccessor) := by
  rw [lastSibling?, siblings_eq hid]
  show (do let members ← (m.siblings id).mapM (element m); _) = _
  rw [elements_eq fun _ => lt_size_of_mem_siblings]
  rfl

theorem getterOf?_eq (hid : id < m.size) : getterOf? m id = some (m.getterOf? id) := by
  rw [getterOf?, element_eq hid]
  exact lastSibling?_eq hid _

theorem setterOf?_eq (hid : id < m.size) : setterOf? m id = some (m.setterOf? id) := by
  rw [setterOf?, Model.setterOf?, element_eq hid]
  show (if (m.element id).has .final = true then _ else _) = _
  split
  · rfl
  · exact lastSibling?_eq hid _

section

variable (hsound : m.Sound) (hacyclic : m.Acyclic)
include hsound hacyclic

theorem packageOf_eq (hid : id < m.size) : packageOf m id = some (m.packageOf id) :=
  packageWithin_eq hsound hacyclic [] (Nat.zero_add _) List.nodup_nil (by simp) (by simp) hid

/-- The search for the package of a class that encloses itself does not end. -/
example :
    packageOf ⟨[], [{ Element.ofKind .classType "Loop" with enclosing := some 0 }]⟩ 0 = none := by
  decide

theorem ownType_eq (hid : id < m.size) : ownType m id = some (m.ownType id) := by
  rw [ownType, Model.ownType, element_eq hid]
  show (match (m.element id).type with | some type => _ | none => _) = _
  cases (m.element id).type with
  | some type => rfl
  | none =>
    rw [packageOf_eq hsound hacyclic hid]
    rfl

theorem accessorKey_eq (hid : id < m.size) : accessorKey m id = some (m.accessorKey id) := by
  rw [accessorKey, Model.accessorKey, element_eq hid]
  cases henclosing : (m.element id).enclosing with
  | none => simp [henclosing]
  | some parent =>
    have hparent := (hsound id).enclosing parent henclosing
    simp [henclosing, packageOf_eq hsound hacyclic hparent, element_eq hparent]

theorem getter?_eq (hid : id < m.size) (a : Accessors) : getter? m id a = some (a.getter? m id) := by
  rw [getter?, accessorKey_eq hsound hacyclic hid]
  rfl

theorem setter?_eq (hid : id < m.size) (a : Accessors) : setter? m id a = some (a.setter? m id) := by
  rw [setter?, accessorKey_eq hsound hacyclic hid]
  rfl

theorem learnGetter_eq (hid : id < m.size) (a : Accessors) :
    learnGetter m id a = some (a.learnGetter m id) := by
  rw [learnGetter, accessorKey_eq hsound hacyclic hid, getterOf?_eq hid]
  rfl

theorem learnSetter_eq (hid : id < m.size) (a : Accessors) :
    learnSetter m id a = some (a.learnSetter m id) := by
  rw [learnSetter, accessorKey_eq hsound hacyclic hid, setterOf?_eq hid]
  rfl

end

end Strict

end ResolverGen
