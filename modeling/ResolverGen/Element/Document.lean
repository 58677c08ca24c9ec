/-
Models as documents.

A model is a record of known types and elements, an element a record of its parts, and annotations
are given by their texts. A document is accepted only if all its references lead to elements.
-/
import ResolverGen.Element.Model
import ResolverGen.Json.Record

namespace ResolverGen

open Json

/-- Reads an annotation from its text. -/
def Annotation.reader : Reader Annotation := do
  let text ← Reader.text
  match Annotation.read text with
  | .ok a => pure a
  | .error fault => Reader.fail (.misfit (.refused (fault.about text)))

/-- The fields of a parameter. -/
def Parameter.record : Record Parameter where
  name := "Parameter"
  start := ⟨"", ""⟩
  fields :=
    [{ name := "name", required := true
       read := fun p => do pure { p with name := ← Reader.text } },
     { name := "type", required := true
       read := fun p => do pure { p with type := ← Reader.text } }]

/-- The fields of an element. -/
def Element.record : Record Element where
  name := "Element"
  start := Element.ofKind .package ""
  fields :=
    [{ name := "kind", required := true
       read := fun e => do
        pure { e with kind := ← Reader.variant ElementKind.name ElementKind.all } },
     { name := "name", required := true
       read := fun e => do pure { e with name := ← Reader.text } },
     { name := "modifiers", required := false
       read := fun e => do
        let given ← Reader.list (Reader.variant Modifier.name Modifier.all)
        pure { e with modifiers := Modifier.setOf given } },
     { name := "type", required := false
       read := fun e => do pure { e with type := ← Reader.optional Reader.text } },
     { name := "enclosing", required := false
       read := fun e => do pure { e with enclosing := ← Reader.optional Reader.index } },
     { name := "annotations", required := false
       read := fun e => do pure { e with annotations := ← Reader.list Annotation.reader } },
     { name := "parameters", required := false
       read := fun e => do pure { e with parameters := ← Reader.list Parameter.record.read } },
     { name := "superclass", required := false
       read := fun e => do pure { e with superclass := ← Reader.optional Reader.index } }]

/-- Reads an element that takes a whole text. -/
def Element.ofDocument (text : String) : Except ReadError Element := Element.record.read.run text

namespace Model

/-- The fields of a model. -/
def record : Record Model where
  name := "ElementModel"
  start := empty
  fields :=
    [{ name := "known_types", required := false
       read := fun m => do pure { m with knownTypes := ← Reader.list Reader.text } },
     { name := "elements", required := false
       read := fun m => do pure { m with elements := ← Reader.list Element.record.read } }]

/-- Why a document is no model. -/
inductive LoadError where
  | unreadable (e : ReadError)
  | dangling (d : Dangling)
deriving DecidableEq, Repr

/-- The message for a value that does not fit into a model. -/
def misfitMessage (m : Misfit) : String := "invalid element model: " ++ m.message

/-- Reads a model that takes a whole text. -/
def ofDocument (text : String) : Except LoadError Model :=
  match record.read.run text with
  | .error e => .error (.unreadable e)
  | .ok m =>
    match m.dangling? with
    | some d => .error (.dangling d)
    | none => .ok m

/-- An accepted model has no reference that leads nowhere. -/
theorem dangling?_eq_none_of_ofDocument {text : String} {m : Model} (h : ofDocument text = .ok m) :
    m.dangling? = none := by
  unfold ofDocument at h
  split at h
  · cases h
  · split at h
    · cases h
    · next hd =>
      cases h
      exact hd

end Model

end ResolverGen
