/-
The variables of the method that builds an object from a row.

The method has two parameters, the storage and the cursor, and the local variables of its body come
into their scope: the object and, if a creator makes it, one variable for each column, named after
the column's property. Nothing keeps a property from being a name that is taken already, by another
column, by the object or by a parameter.

* `Get.declaresAll_assignBody`, `Get.declaresAll_createBody` — what the body declares,
* `variables_of_mem_accepted` — no variable is declared twice, and none hides a parameter, just if
  the columns that are read into variables have properties that keep them apart.
-/
import ResolverGen.Proofs.Resolver.Creation

namespace ResolverGen

/-! ### Declarations -/

namespace Code

mutual

/-- The local variables that a statement declares, those of its blocks with them. -/
def Stmt.declares : Stmt → List String
  | .declare _ name _ => [name]
  | .guarded _ body => declaresAll body
  | _ => []

/-- The local variables that statements declare, one behind the other. -/
def declaresAll : List Stmt → List String
  | [] => []
  | s :: rest => s.declares ++ declaresAll rest

end

/-- The local variables of a method. -/
def Method.locals (m : Method) : List String := declaresAll m.body

@[simp] theorem declaresAll_append (xs ys : List Stmt) :
    declaresAll (xs ++ ys) = declaresAll xs ++ declaresAll ys := by
  induction xs with
  | nil => rfl
  | cons s xs ih => simp [declaresAll, ih]

theorem declaresAll_map_eq_nil {α : Type} {f : α → Stmt} (h : ∀ a, (f a).declares = [])
    (as : List α) : declaresAll (as.map f) = [] := by
  induction as with
  | nil => rfl
  | cons a as ih => simp [declaresAll, h, ih]

end Code

open Code

@[simp] theorem Column.declares_setIn (c : Column) (object value : Expr) :
    (c.setIn object value).declares = [] := by
  unfold Column.setIn
  split
  · split <;> simp [Stmt.declares]
  · simp [Stmt.declares]

namespace Resolver.Get

/-- A guard changes when a statement runs, and not what it declares. -/
@[simp] theorem declares_guardNull (c : Column) (s : Stmt) :
    (guardNull c s).declares = s.declares := by
  unfold guardNull
  split <;> simp [Stmt.declares, declaresAll]

@[simp] theorem declares_assign (c : Column) : (assign c).declares = [] := by
  simp [assign]

@[simp] theorem declaresAll_readLocal (type : TypeUse) (c : Column) :
    declaresAll (readLocal type c) = [c.property] := by
  unfold readLocal
  split <;> simp [Stmt.declares, declaresAll]

theorem declaresAll_readLocals (locals : List (TypeUse × Column)) :
    declaresAll (locals.flatMap fun (type, c) => readLocal type c) =
      locals.map (·.2.property) := by
  induction locals with
  | nil => rfl
  | cons l locals ih => simp [ih]

theorem declaresAll_assignBody (e : Entity) (entity : TypeName) :
    declaresAll (assignBody e entity) = [objectName] := by
  simp [assignBody, Stmt.declares, declaresAll, declaresAll_map_eq_nil declares_assign]

theorem declaresAll_createBody (creator : Creator) (entity : TypeName)
    (locals : List (TypeUse × Column)) :
    declaresAll (createBody creator entity locals) = locals.map (·.2.property) ++ [objectName] := by
  simp [createBody, Stmt.declares, declaresAll, declaresAll_readLocals]

end Resolver.Get

/-! ### Names in one scope -/

namespace Entity

open Resolver (objectName)
open Resolver.Get (cursorName)

/-- The columns that a get resolver reads into local variables, in the order of the variables. -/
def readIntoLocals (e : Entity) : List Column := if e.byCreator then e.ordered else []

variable {e : Entity} {v : Vocabulary}

theorem nodup_readIntoLocals (e : Entity) : (e.readIntoLocals.map (·.property)).Nodup ↔
    (e.byCreator = true → (e.columns.map (·.property)).Nodup) := by
  unfold readIntoLocals
  split
  · next hneeds =>
    simp [hneeds, (e.ordered_perm.map _).nodup_iff]
  · next hneeds =>
    simp [hneeds]

theorem mem_readIntoLocals {c : Column} :
    c ∈ e.readIntoLocals ↔ e.byCreator = true ∧ c ∈ e.columns := by
  unfold readIntoLocals
  split
  · next hneeds =>
    simp [hneeds, e.ordered_perm.mem_iff]
  · next hneeds =>
    simp [hneeds]

/-- The method that builds an object from a row declares the object behind the columns that it
reads into variables. -/
theorem method?_mapFromCursor (r : Runtime) (h : e.check v = .ok ()) : ∃ method,
    (Resolver.Get.unit r e).method? "mapFromCursor" = some method ∧
      method.paramNames = [r.storageParameter, cursorName] ∧
      method.locals = e.readIntoLocals.map (·.property) ++ [objectName] := by
  -- the check has made sure that there is a creator wherever one is needed
  by_cases hneeds : e.byCreator = true
  · obtain ⟨creator, hactive, -⟩ := activeCreator?_of_check h hneeds
    obtain ⟨method, entity, locals, hmethod, hparams, hbody, -, hlocals⟩ :=
      Resolver.Get.method?_create r hactive
    refine ⟨method, hmethod, hparams, ?_⟩
    rw [Method.locals, hbody, Resolver.Get.declaresAll_createBody, readIntoLocals, if_pos hneeds,
      ← hlocals, List.map_map]
    rfl
  · have hactive : e.activeCreator? = none := by rw [activeCreator?, if_neg hneeds]
    obtain ⟨method, entity, hmethod, hparams, hbody, -⟩ := Resolver.Get.method?_assign r hactive
    refine ⟨method, hmethod, hparams, ?_⟩
    rw [Method.locals, hbody, Resolver.Get.declaresAll_assignBody, readIntoLocals, if_neg hneeds]
    rfl

theorem nodup_locals (e : Entity) :
    (e.readIntoLocals.map (·.property) ++ [objectName]).Nodup ↔ (e.byCreator = true →
      (e.columns.map (·.property)).Nodup ∧ ∀ c ∈ e.columns, c.property ≠ objectName) := by
  rw [List.nodup_append, nodup_readIntoLocals]
  constructor
  · rintro ⟨hnodup, -, hobject⟩ hneeds
    refine ⟨hnodup hneeds, fun c hc => ?_⟩
    have hread : c ∈ e.readIntoLocals := mem_readIntoLocals.2 ⟨hneeds, hc⟩
    exact hobject _ (List.mem_map_of_mem hread) _ (List.mem_singleton_self _)
  · intro h
    refine ⟨fun hneeds => (h hneeds).1, List.nodup_singleton _, fun name hname object hobject => ?_⟩
    obtain ⟨c, hc, rfl⟩ := List.mem_map.1 hname
    obtain ⟨hneeds, hcolumn⟩ := mem_readIntoLocals.1 hc
    rw [List.mem_singleton.1 hobject]
    exact (h hneeds).2 c hcolumn

theorem disjoint_locals (e : Entity) {params : List String} (h : objectName ∉ params) :
    (e.readIntoLocals.map (·.property) ++ [objectName]).Disjoint params ↔ (e.byCreator = true →
      ∀ c ∈ e.columns, c.property ∉ params) := by
  rw [List.disjoint_append_left, List.singleton_disjoint, and_iff_left h]
  constructor
  · intro hdisjoint hneeds c hc
    have hread : c ∈ e.readIntoLocals := mem_readIntoLocals.2 ⟨hneeds, hc⟩
    exact hdisjoint (List.mem_map_of_mem hread)
  · intro hapart name hname
    obtain ⟨c, hc, rfl⟩ := List.mem_map.1 hname
    obtain ⟨hneeds, hcolumn⟩ := mem_readIntoLocals.1 hc
    exact hapart hneeds c hcolumn

/-- The variables of the method that builds an object from a row. -/
structure HasVariables (e : Entity) (r : Runtime) (method : Method) : Prop where
  found : (Resolver.Get.unit r e).method? "mapFromCursor" = some method
  params : method.paramNames = [r.storageParameter, "cursor"]
  /-- One variable for each column that is handed to a creator, and the object. -/
  locals : method.locals =
    (if e.byCreator then e.ordered.map (·.property) else []) ++ ["object"]
  /-- No variable is declared twice just if, where there is a creator, no two columns share a
  property and none has that of the object. -/
  distinct : method.locals.Nodup ↔ (e.byCreator = true →
    (e.columns.map (·.property)).Nodup ∧ ∀ c ∈ e.columns, c.property ≠ "object")
  /-- No variable has the name of a parameter just if, where there is a creator, no column has. -/
  apart : method.locals.Disjoint method.paramNames ↔ (e.byCreator = true →
    ∀ c ∈ e.columns, c.property ≠ r.storageParameter ∧ c.property ≠ "cursor")

end Entity

theorem Backend.object_not_mem_params (b : Backend) :
    Resolver.objectName ∉ [b.runtime.storageParameter, Resolver.Get.cursorName] := by
  cases b <;> decide

namespace Processor

variable {p : Processor} {m : Model} {e : Entity}

/-- **The method of an accepted entity that builds an object from a row declares no variable twice
and none that hides a parameter, just if the properties of the columns that its creator takes are
apart from each other, from the object and from the parameters.** -/
theorem variables_of_mem_accepted (h : e ∈ p.accepted m) :
    Resolver.Get.unit p.backend.runtime e ∈ p.emission m ∧
      ∃ method, e.HasVariables p.backend.runtime method := by
  obtain ⟨method, hmethod, hparams, hlocals⟩ :=
    Entity.method?_mapFromCursor p.backend.runtime (check_of_mem_accepted h)
  refine ⟨mem_emission h (by simp [Entity.units]), method, ?_⟩
  refine
    { found := hmethod
      params := hparams
      locals := ?_
      distinct := ?_
      apart := ?_ }
  · rw [hlocals, Entity.readIntoLocals]
    split <;> rfl
  · rw [hlocals]
    exact e.nodup_locals
  · rw [hparams, hlocals, Entity.disjoint_locals e p.backend.object_not_mem_params]
    simp [Resolver.Get.cursorName]

theorem variables_userModel : ∃ e ∈ (initial .sqlite .unset).accepted userModel,
    Resolver.Get.unit Backend.sqlite.runtime e ∈ (initial .sqlite .unset).emission userModel ∧
      ∃ method, e.HasVariables Backend.sqlite.runtime method ∧ method.locals.Nodup ∧
        method.locals.Disjoint method.paramNames := by
  obtain ⟨e, he, hcolumns, -⟩ := exists_accepted_userModel
  obtain ⟨hunit, method, hvariables⟩ := variables_of_mem_accepted he
  refine ⟨e, he, hunit, method, hvariables, hvariables.distinct.2 fun _ => ?_,
    hvariables.apart.2 fun _ => ?_⟩
  · rw [hcolumns]
    decide
  · rw [hcolumns]
    decide

/-- A class whose accessors are of the properties `cursor` and `object`, made by its constructor. -/
def reservedModel : Model :=
  accessorModel
    [("getCursor", "long", "name = \"_id\", key = true"),
     ("getObject", "java.lang.String", "name = \"content\"")]
    [⟨"cursor", "long"⟩, ⟨"object", "java.lang.String"⟩]

/-- The variables of a class that is the only one accepted and that its creator makes. -/
theorem exists_locals_of_accepted {names : List String}
    (h : (p.accepted m).map (fun e => (e.byCreator, e.ordered.map (·.property))) =
      [(true, names)]) :
    ∃ e ∈ p.accepted m, ∃ method,
      (Resolver.Get.unit p.backend.runtime e).method? "mapFromCursor" = some method ∧
        method.paramNames = [p.backend.runtime.storageParameter, "cursor"] ∧
        method.locals = names ++ ["object"] := by
  obtain ⟨e, he, hparts⟩ := exists_of_accepted h
  simp only [Prod.mk.injEq] at hparts
  obtain ⟨hneeds, hordered⟩ := hparts
  obtain ⟨method, hmethod, hparams, hlocals⟩ :=
    Entity.method?_mapFromCursor p.backend.runtime (check_of_mem_accepted he)
  rw [Entity.readIntoLocals, if_pos hneeds, hordered] at hlocals
  exact ⟨e, he, method, hmethod, hparams, hlocals⟩

/-- Two accessors of one property are accepted, and so are properties that are names of the method
itself: a variable is declared twice, and another one hides the cursor. -/
theorem locals_clashing :
    (∃ e ∈ (initial .sqlite .unset).accepted namesakeModel, ∃ method,
      (Resolver.Get.unit Backend.sqlite.runtime e).method? "mapFromCursor" = some method ∧
        method.locals = ["name", "name", "object"] ∧ ¬method.locals.Nodup) ∧
    ∃ e ∈ (initial .sqlite .unset).accepted reservedModel, ∃ method,
      (Resolver.Get.unit Backend.sqlite.runtime e).method? "mapFromCursor" = some method ∧
        method.locals = ["cursor", "object", "object"] ∧ ¬method.locals.Nodup ∧
        ¬method.locals.Disjoint method.paramNames := by
  constructor
  · have haccepted : ((initial .sqlite .unset).accepted namesakeModel).map
        (fun e => (e.byCreator, e.ordered.map (·.property))) = [(true, ["name", "name"])] := by
      decide +kernel
    obtain ⟨e, he, method, hmethod, -, hlocals⟩ := exists_locals_of_accepted haccepted
    refine ⟨e, he, method, hmethod, hlocals, ?_⟩
    rw [hlocals]
    decide
  · have haccepted : ((initial .sqlite .unset).accepted reservedModel).map
        (fun e => (e.byCreator, e.ordered.map (·.property))) = [(true, ["cursor", "object"])] := by
      decide +kernel
    obtain ⟨e, he, method, hmethod, hparams, hlocals⟩ := exists_locals_of_accepted haccepted
    refine ⟨e, he, method, hmethod, hlocals, ?_, fun hdisjoint => ?_⟩
    · rw [hlocals]
      decide
    · have hlocal : "cursor" ∈ method.locals := by
        rw [hlocals]
        decide
      have hparam : "cursor" ∈ method.paramNames := by
        rw [hparams]
        decide
      exact hdisjoint hlocal hparam

end Processor

end ResolverGen
