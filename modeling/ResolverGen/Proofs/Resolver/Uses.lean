/-
Which members of the object generated code uses.

`uses` gives every place of an expression, a statement or a unit where a member of the object is read,
set or called, in order. The put and delete resolvers read the columns that they store or compare
(`mem_uses_put`, `mem_uses_delete`); the get resolver sets every column where it makes an empty object
(`uses_get_assign`), and leaves the object alone where a creator makes it (`uses_get_create`).
-/
import ResolverGen.Proofs.Resolver.Methods

namespace ResolverGen

namespace Code

/-- A use of a member: reading or setting a field, or calling a method with some arguments. -/
inductive Use where
  | read (field : String)
  | set (field : String)
  | call (method : String) (arguments : Nat)
deriving DecidableEq, Repr

/-- Whether an expression is a variable of the given name. -/
def Expr.isVar (name : String) : Expr → Bool
  | .var x => x = name
  | _ => false

mutual

/-- The uses of members of a variable's object in an expression. -/
def Expr.uses (name : String) : Expr → List Use
  | .var _ => []
  | .null => []
  | .text _ => []
  | .number _ => []
  | .field target member =>
    (if target.isVar name then [.read member] else []) ++ target.uses name
  | .call target method arguments =>
    (if target.isVar name then [.call method arguments.length] else []) ++
      (target.uses name ++ usesOfAll name arguments)
  | .callOn _ _ arguments => usesOfAll name arguments
  | .construct _ arguments => usesOfAll name arguments
  | .equal left right => left.uses name ++ right.uses name
  | .differ left right => left.uses name ++ right.uses name
  | .less left right => left.uses name ++ right.uses name
  | .negate operand => operand.uses name

/-- The uses in some expressions. -/
def usesOfAll (name : String) : List Expr → List Use
  | [] => []
  | e :: es => e.uses name ++ usesOfAll name es

end

/-- The uses in the target of an assignment, of which a field is set and not read. -/
def Expr.usesAsTarget (name : String) : Expr → List Use
  | .field target member =>
    (if target.isVar name then [.set member] else []) ++ target.uses name
  | e => e.uses name

mutual

/-- The uses in a statement. -/
def Stmt.uses (name : String) : Stmt → List Use
  | .blank => []
  | .run e => e.uses name
  | .declare _ _ value => value.uses name
  | .assign target value => target.usesAsTarget name ++ value.uses name
  | .give value => value.uses name
  | .guarded condition body => condition.uses name ++ usesInAll name body
  | .giveBuilt _ calls => calls.flatMap fun (_, arguments) => usesOfAll name arguments
  | .runWith target _ _ => target.uses name
  | .superCall arguments => usesOfAll name arguments

/-- The uses in some statements. -/
def usesInAll (name : String) : List Stmt → List Use
  | [] => []
  | s :: ss => s.uses name ++ usesInAll name ss

end

/-- The uses in a member of a type. -/
def Member.uses (name : String) : Member → List Use
  | .constant .. => []
  | .method m => usesInAll name m.body

/-- The uses in a unit. -/
def SourceUnit.uses (u : SourceUnit) (name : String) : List Use :=
  u.decl.members.flatMap (·.uses name)

theorem usesOfAll_eq_flatMap (name : String) (es : List Expr) :
    usesOfAll name es = es.flatMap (·.uses name) := by
  induction es with
  | nil => rfl
  | cons e es ih => rw [usesOfAll, ih, List.flatMap_cons]

theorem usesInAll_eq_flatMap (name : String) (ss : List Stmt) :
    usesInAll name ss = ss.flatMap (·.uses name) := by
  induction ss with
  | nil => rfl
  | cons s ss ih => rw [usesInAll, ih, List.flatMap_cons]

theorem usesInAll_append (name : String) (ss ts : List Stmt) :
    usesInAll name (ss ++ ts) = usesInAll name ss ++ usesInAll name ts := by
  simp only [usesInAll_eq_flatMap, List.flatMap_append]

theorem usesInAll_flatMap_eq_nil {α : Type} {name : String} {xs : List α} {f : α → List Stmt}
    (h : ∀ x ∈ xs, usesInAll name (f x) = []) : usesInAll name (xs.flatMap f) = [] := by
  simp only [usesInAll_eq_flatMap, List.flatMap_eq_nil_iff, List.mem_flatMap] at h ⊢
  rintro s ⟨x, hx, hs⟩
  exact h x hx s hs

end Code

open Code

/-- The use that reaches the value of a column. -/
def Access.use : Access → Use
  | .field name => .read name
  | .call method => .call method 0

/-- The use that sets a column. -/
def Column.setUse (c : Column) : Use :=
  match c.setter with
  | some setter => if c.getter.isSome then .call setter 1 else .set c.elementName
  | none => .set c.elementName

namespace Resolver

variable {c : Column} {e : Entity} {r : Runtime} {use : Use}

/-! ### Columns -/

@[simp] theorem uses_valueIn (c : Column) :
    (c.valueIn object).uses objectName = [c.access.use] := by
  unfold Column.valueIn
  cases c.access <;> simp [Expr.uses, Expr.isVar, object, usesOfAll, Access.use]

theorem uses_setIn (c : Column) (value : Expr) :
    (c.setIn object value).uses objectName = c.setUse :: value.uses objectName := by
  have hassign : (Stmt.assign (.field object c.elementName) value).uses objectName =
      Use.set c.elementName :: value.uses objectName := by
    simp [Stmt.uses, Expr.usesAsTarget, Expr.uses, Expr.isVar, object]
  unfold Column.setIn Column.setUse
  cases c.setter with
  | none => exact hassign
  | some setter =>
    cases c.getter.isSome with
    | false => exact hassign
    | true => simp [Stmt.uses, Expr.uses, Expr.isVar, object, usesOfAll]

/-- The cursor is read without the object. -/
@[simp] theorem uses_readCursor (c : Column) : c.readCursor.uses objectName = [] := by
  unfold Column.readCursor ColumnType.read
  cases c.type <;> rfl

theorem uses_guardNull (c : Column) (s : Stmt) :
    (Get.guardNull c s).uses objectName = s.uses objectName := by
  unfold Get.guardNull
  have hpresent : (Get.present c).uses objectName = [] := rfl
  split
  · simp [Stmt.uses, hpresent, usesInAll]
  · rfl

theorem mem_uses_store : use ∈ (Put.store c).uses objectName ↔ use = c.access.use := by
  have hvalues : (Expr.var Put.valuesName).isVar objectName = false := by decide
  have hput : (Stmt.run (.call (.var Put.valuesName) "put" [.text c.name, c.valueIn object])).uses
      objectName = [c.access.use] := by
    simp [Stmt.uses, Expr.uses, usesOfAll, hvalues]
  unfold Put.store
  dsimp only
  split
  · rw [Stmt.uses, usesInAll, hput, usesInAll]
    simp [Expr.uses]
  · rw [hput, List.mem_singleton]

theorem uses_assign (c : Column) : (Get.assign c).uses objectName = [c.setUse] := by
  rw [Get.assign, uses_guardNull, uses_setIn, uses_readCursor]

/-! ### Filters and targets -/

theorem uses_targetCall (t : Target) : usesOfAll objectName t.call.2 = [] := by
  cases t <;> rfl

/-- A filter reads the key columns. -/
theorem mem_uses_byKeys {cs : List Column} :
    use ∈ (Filter.byKeys cs object).calls.flatMap
        (fun (_, arguments) => usesOfAll objectName arguments) ↔
      ∃ c ∈ cs, c.key = true ∧ use = c.access.use := by
  have hclause : usesOfAll objectName [(Filter.byKeys cs object).clauseExpr] = [] := by
    unfold Filter.clauseExpr
    split <;> rfl
  have hvalues : usesOfAll objectName (Filter.byKeys cs object).valueExprs =
      (cs.filter (·.key)).map (·.access.use) := by
    have hall : usesOfAll objectName (Filter.byKeys cs object).values =
        (cs.filter (·.key)).map (·.access.use) := by
      rw [usesOfAll_eq_flatMap, Filter.values, Filter.byKeys, List.map_map, List.flatMap_map,
        List.map_eq_flatMap]
      simp only [Function.comp_apply, uses_valueIn]
    unfold Filter.valueExprs
    split
    · next hempty =>
      -- there are no key columns, and the null that stands for the values uses nothing
      rw [← hall, Filter.values, List.isEmpty_iff.1 hempty]
      rfl
    · exact hall
  simp only [Filter.calls, List.flatMap_cons, List.flatMap_nil, hclause, hvalues, List.nil_append,
    List.append_nil, List.mem_map, List.mem_filter, and_assoc, eq_comm]

theorem uses_invoke (creator : Creator) (entity : TypeName) (arguments : List Expr) :
    (creator.invoke entity arguments).uses objectName = usesOfAll objectName arguments := by
  unfold Creator.invoke
  cases creator.kind <;> rfl

/-! ### Units -/

/-- The put resolver reads all columns and nothing else. -/
theorem mem_uses_put (r : Runtime) (e : Entity) :
    use ∈ (Put.unit r e).uses objectName ↔ ∃ c ∈ e.columns, use = c.access.use := by
  obtain ⟨entity, nonNull, insertQuery, updateQuery, values, hmembers, -⟩ := Put.members_unit r e
  have hinsert : usesInAll objectName (Put.insertBody e insertQuery) = [] := by
    simp [Put.insertBody, usesInAll, Stmt.uses, uses_targetCall]
  have hupdate : use ∈ usesInAll objectName (Put.updateBody e updateQuery) ↔
      ∃ c ∈ e.columns, c.key = true ∧ use = c.access.use := by
    simp [Put.updateBody, usesInAll, Stmt.uses, uses_targetCall, ← mem_uses_byKeys]
  have hvalues : use ∈ usesInAll objectName (Put.valuesBody e values) ↔
      ∃ c ∈ e.columns, use = c.access.use := by
    have hstore : use ∈ usesInAll objectName (e.columns.map Put.store) ↔
        ∃ c ∈ e.columns, use = c.access.use := by
      simp only [usesInAll_eq_flatMap, List.flatMap_map, List.mem_flatMap, mem_uses_store]
    rw [Put.valuesBody, usesInAll_append, usesInAll_append, List.mem_append, List.mem_append, hstore]
    simp [usesInAll, Stmt.uses, Expr.uses, usesOfAll]
  have hunit : use ∈ (Put.unit r e).uses objectName ↔
      use ∈ usesInAll objectName (Put.insertBody e insertQuery) ∨
        use ∈ usesInAll objectName (Put.updateBody e updateQuery) ∨
        use ∈ usesInAll objectName (Put.valuesBody e values) := by
    simp [SourceUnit.uses, hmembers, Member.uses, overriding]
  -- the key columns of the update are among those that are stored
  rw [hunit, hinsert, hupdate, hvalues]
  constructor
  · rintro (h | ⟨c, hc, -, huse⟩ | h)
    · cases h
    · exact ⟨c, hc, huse⟩
    · exact h
  · exact fun h => .inr (.inr h)

/-- The delete resolver reads the key columns and nothing else. -/
theorem mem_uses_delete (r : Runtime) (e : Entity) :
    use ∈ (Delete.unit r e).uses objectName ↔
      ∃ c ∈ e.columns, c.key = true ∧ use = c.access.use := by
  obtain ⟨entity, nonNull, query, hmembers⟩ := Delete.members_unit r e
  simp [SourceUnit.uses, hmembers, Member.uses, overriding, Delete.deleteBody, usesInAll, Stmt.uses,
    uses_targetCall, ← mem_uses_byKeys]

/-- The get resolver sets all columns of an object that it makes empty, and uses nothing else of
it. -/
theorem uses_get_assign (r : Runtime) (h : e.activeCreator? = none) :
    (Get.unit r e).uses objectName = e.columns.map (·.setUse) := by
  obtain ⟨entity, nonNull, storage, cursor, hmembers, -⟩ := Get.members_assign r h
  have hassign : usesInAll objectName (e.columns.map Get.assign) = e.columns.map (·.setUse) := by
    rw [usesInAll_eq_flatMap, List.flatMap_map, List.map_eq_flatMap]
    simp only [uses_assign]
  have hbody : usesInAll objectName (Get.assignBody e entity) = e.columns.map (·.setUse) := by
    rw [Get.assignBody, usesInAll_append, usesInAll_append, hassign]
    simp [usesInAll, Stmt.uses, Expr.uses, usesOfAll, object]
  simp [SourceUnit.uses, hmembers, Member.uses, overriding, hbody]

/-- An object that a creator makes is only handed back. -/
theorem uses_get_create (r : Runtime) {creator : Creator} (h : e.activeCreator? = some creator) :
    (Get.unit r e).uses objectName = [] := by
  obtain ⟨entity, nonNull, storage, cursor, locals, hmembers, -, -⟩ := Get.members_create r h
  have hlocal : ∀ (type : TypeUse) (c : Column),
      usesInAll objectName (Get.readLocal type c) = [] := by
    intro type c
    unfold Get.readLocal
    split
    · simp [usesInAll, Stmt.uses, Expr.uses, uses_guardNull, Expr.usesAsTarget]
    · simp [usesInAll, Stmt.uses]
  have hbody : usesInAll objectName (Get.createBody creator entity locals) = [] := by
    rw [Get.createBody, usesInAll_append, usesInAll,
      usesInAll_flatMap_eq_nil fun p _ => hlocal p.1 p.2]
    simp [usesInAll, Stmt.uses, Expr.uses, uses_invoke, usesOfAll_eq_flatMap, List.flatMap_map,
      object]
  simp [SourceUnit.uses, hmembers, Member.uses, overriding, hbody]

end Resolver

end ResolverGen
