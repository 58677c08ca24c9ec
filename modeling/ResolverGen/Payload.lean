/-
The payloads of the backends' annotations.

A type annotation says where objects are stored, which must not be left open; a column annotation
names the column and says how it is used. Only columns of tables have versions.
-/
import ResolverGen.Backend
import ResolverGen.Element.Model
import ResolverGen.Entity.Column
import ResolverGen.Entity.Target
import ResolverGen.Payload.Basic

namespace ResolverGen

namespace Payload

/-- The arguments of a type annotation for a table. -/
structure TableArguments where
  table : String
  tableClass : Bool
deriving DecidableEq, Repr, Inhabited

/-- The fields of a type annotation for a table. -/
def tableFields : List (Field TableArguments) :=
  [⟨"table", true, fun c p => do pure { p with table := ← text c }⟩,
   ⟨"generateTableClass", false, fun c p => do pure { p with tableClass := ← flag c }⟩]

/-- The fields of a type annotation for URIs. -/
def uriFields : List (Field Uris) :=
  [⟨"uri", false, fun c u => do pure { u with common := ← text c }⟩,
   ⟨"insertUri", false, fun c u => do pure { u with insert := ← text c }⟩,
   ⟨"updateUri", false, fun c u => do pure { u with update := ← text c }⟩,
   ⟨"deleteUri", false, fun c u => do pure { u with delete := ← text c }⟩]

/-- The fields of every column annotation. -/
def columnFields : List (Field ColumnSpec) :=
  [⟨"name", true, fun c p => do pure { p with name := ← text c }⟩,
   ⟨"key", false, fun c p => do pure { p with key := ← flag c }⟩,
   ⟨"ignoreNull", false, fun c p => do pure { p with ignoreNull := ← flag c }⟩]

/-- The version of a column. -/
def versionField : Field ColumnSpec :=
  ⟨"version", false, fun c p => do pure { p with version := ← number c }⟩

/-- Reads the payload of an annotation on an element. -/
def ofElement {α : Type} (fields : List (Field α)) (start : α) (m : Model) (id : ElementId)
    (mark : Code.ClassName) : Except Fault α :=
  let e := m.element id
  let refuse (reason : String) := Fault.on id (.unreadable mark.simple e.name reason)
  match e.annotation? mark.qualified with
  | none => .error (refuse "annotation is missing")
  | some a => (ofArguments fields start a.arguments).mapError refuse

end Payload

namespace Backend

open Payload

/-- The fields of a backend's column annotation. -/
def columnFields (b : Backend) : List (Payload.Field ColumnSpec) :=
  match b with
  | sqlite => Payload.columnFields ++ [versionField]
  | contentResolver => Payload.columnFields

/-- Reads the column annotation of a member. -/
def columnSpec (b : Backend) (m : Model) (id : ElementId) : Except Fault ColumnSpec :=
  Payload.ofElement b.columnFields ⟨"", false, false, 1⟩ m id b.vocabulary.column

/-- Reads the type annotation of a class. Every operation has to have a target. -/
def config (b : Backend) (m : Model) (id : ElementId) : Except Fault Config := do
  let mark := b.vocabulary.type
  let name := (m.element id).name
  match b with
  | sqlite =>
    let p ← Payload.ofElement tableFields ⟨"", false⟩ m id mark
    if p.table = "" then throw (.on id (.emptyTable name mark.simple))
    pure (.sqlite p.table p.tableClass)
  | contentResolver =>
    let uris ← Payload.ofElement uriFields ⟨"", "", "", ""⟩ m id mark
    match uris.missing with
    | [] => pure (.contentResolver uris)
    | first :: rest =>
      let one := if rest.length + 1 < Operation.all.length then some first else none
      throw (.on id (.emptyUri name mark.simple one))

end Backend

end ResolverGen
