/-
Accessors of private fields.

A getter of a field is a method of the same class that gives a value of the field's type and is
named after the field; a setter takes such a value. Of several the last counts. What has been found
is kept by the name of the class and the name and type of the field, so that it holds in later rounds
as well; an entry is never changed (`lookup_resolve`).
-/
import ResolverGen.Element.Model
import ResolverGen.Naming

namespace ResolverGen

/-- What an accessor is kept by. -/
structure AccessorKey where
  className : String
  field : String
  type : Option String
deriving DecidableEq, Repr, Inhabited

/-- The key of a field. -/
def Model.accessorKey (m : Model) (id : ElementId) : AccessorKey :=
  let e := m.element id
  { className :=
      match e.enclosing with
      | some parent => m.packageOf parent ++ "." ++ (m.element parent).name
      | none => ""
    field := e.name
    type := e.type }

/-- Whether a method can be called from generated code on an object. -/
def Element.isCallable (e : Element) : Bool :=
  e.kind = .method && !e.has .privateAccess && !e.has .static

/-- Whether an element is named as a getter of a field. -/
def Element.namesGetterOf (e field : Element) : Bool :=
  let capital := Naming.capitalize field.name
  e.name = "get" ++ capital || e.name = "is" ++ capital ||
    e.name = field.name && Naming.isPredicateName field.name

/-- Whether an element is a getter of a field. -/
def Element.isGetterOf (e field : Element) : Bool :=
  e.isCallable && e.namesGetterOf field && e.parameters = [] && e.type = field.type

/-- Whether an element is a setter of a field. -/
def Element.isSetterOf (e field : Element) : Bool :=
  e.isCallable && e.name = "set" ++ Naming.capitalize field.name &&
    match e.parameters with
    | [p] => some p.type = field.type
    | _ => false

/-- The name of the last element of a class that is an accessor of a field. -/
def Model.lastSibling? (m : Model) (id : ElementId) (isAccessor : Element → Bool) :
    Option String :=
  (((m.siblings id).map m.element).filter isAccessor).getLast?.map (·.name)

/-- The getter of a field. -/
def Model.getterOf? (m : Model) (id : ElementId) : Option String :=
  m.lastSibling? id (·.isGetterOf (m.element id))

/-- The setter of a field. Final fields have none. -/
def Model.setterOf? (m : Model) (id : ElementId) : Option String :=
  if (m.element id).has .final then none else m.lastSibling? id (·.isSetterOf (m.element id))

/-- A table of names by field. -/
abbrev AccessorTable := List (AccessorKey × String)

/-- Enters a name unless the field has one, and tells whether it has one now. -/
def AccessorTable.resolve (t : AccessorTable) (key : AccessorKey) (found : Option String) :
    Bool × AccessorTable :=
  match t.lookup key with
  | some _ => (true, t)
  | none =>
    match found with
    | some name => (true, (key, name) :: t)
    | none => (false, t)

/-- An entry that is there stays. -/
theorem AccessorTable.lookup_resolve {t : AccessorTable} {key other : AccessorKey}
    {found : Option String} {name : String} (h : t.lookup other = some name) :
    (t.resolve key found).2.lookup other = some name := by
  unfold resolve
  split
  · exact h
  · next hnone =>
    split
    · have hne : other ≠ key := by
        rintro rfl
        rw [hnone] at h
        cases h
      have hbeq : (other == key) = false := by simpa using hne
      simpa [List.lookup_cons, hbeq] using h
    · exact h

/-- The accessors found so far. -/
structure Accessors where
  getters : AccessorTable
  setters : AccessorTable
deriving DecidableEq, Repr, Inhabited

namespace Accessors

/-- No accessors. -/
def empty : Accessors := ⟨[], []⟩

/-- The getter of a field, if it has been found. -/
def getter? (a : Accessors) (m : Model) (id : ElementId) : Option String :=
  a.getters.lookup (m.accessorKey id)

/-- The setter of a field, if it has been found. -/
def setter? (a : Accessors) (m : Model) (id : ElementId) : Option String :=
  a.setters.lookup (m.accessorKey id)

/-- Looks for the getter of a field. -/
def learnGetter (a : Accessors) (m : Model) (id : ElementId) : Bool × Accessors :=
  let (found, getters) := a.getters.resolve (m.accessorKey id) (m.getterOf? id)
  (found, { a with getters })

/-- Looks for the setter of a field. -/
def learnSetter (a : Accessors) (m : Model) (id : ElementId) : Bool × Accessors :=
  let (found, setters) := a.setters.resolve (m.accessorKey id) (m.setterOf? id)
  (found, { a with setters })

end Accessors

end ResolverGen
