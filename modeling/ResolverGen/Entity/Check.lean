/-
What an entity has to have.

An entity has columns and keys among them, and if its objects are made by a creator, there is one with
as many parameters as there are columns, and with a parameter for the property of each
(`check_eq_ok_iff`). Two columns may have one property, and then a parameter is left without a column.
-/
import ResolverGen.Backend
import ResolverGen.Entity.Basic

namespace ResolverGen.Entity

/-- Whether a creator takes as many values as there are columns, and one for every column. -/
def matchesCreator (e : Entity) (c : Creator) : Bool :=
  c.parameters.length = e.columns.length &&
    e.columns.all fun column => (c.position column.property).isSome

/-- Checks an entity; the first rule that it breaks is reported at the class. -/
def check (e : Entity) (v : Vocabulary) : Except Fault Unit :=
  if e.columns = [] then
    .error (.on e.element (.noColumns v.type.simple v.column.simple e.name))
  else if e.keys = [] then
    .error (.on e.element (.noKey v.type.simple v.column.simple e.name))
  else if e.byCreator then
    match e.creator with
    | none => .error (.on e.element (.creatorMissing v.type.simple v.creator.simple e.name))
    | some c =>
      if e.matchesCreator c then .ok ()
      else .error (.on e.element (.creatorMismatch v.type.simple v.creator.simple e.name))
  else .ok ()

/-- Checks entities in order. -/
def checkAll (v : Vocabulary) : List Entity → Except Fault Unit
  | [] => .ok ()
  | e :: es =>
    match e.check v with
    | .error f => .error f
    | .ok () => checkAll v es

theorem check_eq_ok_iff {e : Entity} {v : Vocabulary} :
    e.check v = .ok () ↔
      e.columns ≠ [] ∧ e.keys ≠ [] ∧
        (e.byCreator = true → ∃ c, e.creator = some c ∧ e.matchesCreator c = true) := by
  unfold check
  by_cases hc : e.columns = []
  · simp [hc]
  · by_cases hk : e.keys = []
    · simp [hc, hk]
    · by_cases hn : e.byCreator = true
      · cases hcr : e.creator with
        | none => simp [hc, hk, hn]
        | some c =>
          by_cases hm : e.matchesCreator c = true <;> simp [hc, hk, hn, hm]
      · simp [hc, hk, hn]

end ResolverGen.Entity
