/-
Units do not depend on positions.

The positions of a class and its members tell where they stand in the model and are left out of all
that is written: an entity whose elements have moved passes the same check (`check_moved`) and has
the same units (`units_moved`).
-/
import ResolverGen.Entity.Check
import ResolverGen.Entity.Units
import ResolverGen.Proofs.Collection.Likeness
import ResolverGen.Proofs.Order

namespace ResolverGen

open Code

variable {σ : Equiv.Perm ElementId}

/-- What is read off columns one by one is not changed by moving them. -/
theorem Column.map_moved {α : Type} (cs : List Column) (f : Column → α)
    (h : ∀ c, f (c.moved σ) = f c) : (cs.map (·.moved σ)).map f = cs.map f := by
  rw [List.map_map]
  exact List.map_congr_left fun c _ => h c

theorem Column.filter_moved (cs : List Column) (p : Column → Bool)
    (h : ∀ c, p (c.moved σ) = p c) :
    (cs.map (·.moved σ)).filter p = (cs.filter p).map (·.moved σ) := by
  rw [List.filter_map]
  exact congrArg _ (List.filter_congr fun c _ => h c)

theorem Filter.byKeys_moved (cs : List Column) (object : Expr) :
    Filter.byKeys (cs.map (·.moved σ)) object = Filter.byKeys cs object := by
  unfold Filter.byKeys
  rw [Column.filter_moved cs _ fun _ => rfl, Column.map_moved _ _ fun _ => rfl]

theorem TableDef.ofColumns_moved (table : String) (cs : List Column) :
    TableDef.ofColumns table (cs.map (·.moved σ)) = TableDef.ofColumns table cs := by
  unfold TableDef.ofColumns
  rw [Column.filter_moved cs _ fun _ => rfl, Column.map_moved _ _ fun _ => rfl]
  dsimp only
  rw [Column.map_moved cs _ fun _ => rfl]

theorem Migration.ofColumns_moved (table : String) (cs : List Column) :
    Migration.ofColumns table (cs.map (·.moved σ)) = Migration.ofColumns table cs := by
  unfold Migration.ofColumns
  rw [Column.filter_moved cs _ fun _ => rfl, Order.sortBy_map fun _ _ => rfl,
    Column.map_moved _ _ fun _ => rfl]
  rfl

theorem Resolver.Get.localTypes_moved (scope : Scope) (cs : List Column) :
    Resolver.Get.localTypes scope (cs.map (·.moved σ)) =
      ((Resolver.Get.localTypes scope cs).1.map fun (type, c) => (type, c.moved σ),
        (Resolver.Get.localTypes scope cs).2) := by
  induction cs generalizing scope with
  | nil => rfl
  | cons c cs ih =>
    simp only [List.map_cons, localTypes, ih]
    rfl

namespace Entity

variable (e : Entity) (σ)

theorem columns_moved : (e.moved σ).columns = e.columns.map (·.moved σ) := rfl

theorem keys_moved : (e.moved σ).keys = e.keys.map (·.moved σ) :=
  Column.filter_moved e.columns _ fun _ => rfl

theorem activeCreator?_moved : (e.moved σ).activeCreator? = e.activeCreator?.map (·.moved σ) := by
  unfold activeCreator?
  show (if e.byCreator = true then e.creator.map (·.moved σ) else none) = _
  split <;> rfl

theorem ordered_moved : (e.moved σ).ordered = e.ordered.map (·.moved σ) := by
  unfold ordered
  rw [activeCreator?_moved]
  cases e.activeCreator? with
  | none => rfl
  | some creator => exact Order.sortBy_map (fun _ _ => rfl) e.columns

/-- An entity whose elements have moved passes its check if it did before. -/
theorem check_moved (v : Vocabulary) : (e.moved σ).check v = moveFault σ (e.check v) := by
  have hmatches (c : Creator) :
      (e.moved σ).matchesCreator (c.moved σ) = e.matchesCreator c := by
    unfold matchesCreator
    show (_ && (e.columns.map (·.moved σ)).all _) = _
    rw [List.all_map]
    show (decide (c.parameters.length = (e.columns.map (·.moved σ)).length) && _) = _
    rw [List.length_map]
    rfl
  have hcreator : (e.moved σ).creator = e.creator.map (·.moved σ) := rfl
  unfold check
  rw [columns_moved, keys_moved, hcreator]
  simp only [List.map_eq_nil_iff]
  split
  · rfl
  · split
    · rfl
    · show (if e.byCreator = true then _ else _) = _
      split
      · cases e.creator with
        | none => rfl
        | some c =>
          simp only [Option.map_some, hmatches]
          split <;> rfl
      · rfl

/-! ### Units -/

theorem putUnit_moved (r : Runtime) : Resolver.Put.unit r (e.moved σ) = Resolver.Put.unit r e := by
  have hupdate (query : TypeName) :
      Resolver.Put.updateBody (e.moved σ) query = Resolver.Put.updateBody e query := by
    unfold Resolver.Put.updateBody
    rw [columns_moved, Filter.byKeys_moved]
    rfl
  have hvalues (values : TypeName) :
      Resolver.Put.valuesBody (e.moved σ) values = Resolver.Put.valuesBody e values := by
    unfold Resolver.Put.valuesBody
    rw [columns_moved, List.length_map,
      Column.map_moved _ _ fun _ => rfl]
  simp only [Resolver.Put.unit, hupdate, hvalues]
  rfl

theorem getUnit_moved (r : Runtime) : Resolver.Get.unit r (e.moved σ) = Resolver.Get.unit r e := by
  have hassign (entity : TypeName) :
      Resolver.Get.assignBody (e.moved σ) entity = Resolver.Get.assignBody e entity := by
    unfold Resolver.Get.assignBody
    rw [columns_moved,
      Column.map_moved _ _ fun _ => rfl]
  have hcreate (creator : Creator) (entity : TypeName) (locals : List (TypeUse × Column)) :
      Resolver.Get.createBody (creator.moved σ) entity
          (locals.map fun (type, c) => (type, c.moved σ)) =
        Resolver.Get.createBody creator entity locals := by
    unfold Resolver.Get.createBody
    rw [List.flatMap_map, List.map_map]
    rfl
  unfold Resolver.Get.unit
  rw [activeCreator?_moved, ordered_moved]
  cases e.activeCreator? with
  | none =>
    simp only [Option.map_none, hassign]
    rfl
  | some creator =>
    simp only [Option.map_some, Resolver.Get.localTypes_moved, hcreate]
    rfl

theorem deleteUnit_moved (r : Runtime) :
    Resolver.Delete.unit r (e.moved σ) = Resolver.Delete.unit r e := by
  have hdelete (query : TypeName) :
      Resolver.Delete.deleteBody (e.moved σ) query = Resolver.Delete.deleteBody e query := by
    unfold Resolver.Delete.deleteBody
    rw [columns_moved, Filter.byKeys_moved]
    rfl
  simp only [Resolver.Delete.unit, hdelete]
  rfl

theorem tableUnit_moved (table : String) :
    TableClass.unit table (e.moved σ) = TableClass.unit table e := by
  have hconstants (string : TypeName) :
      (e.moved σ).columns.map (fun c => Member.constant string (TableClass.constantName c) c.name) =
        e.columns.map fun c => Member.constant string (TableClass.constantName c) c.name :=
    Column.map_moved e.columns _ fun _ => rfl
  have htable : TableDef.ofColumns table (e.moved σ).columns = TableDef.ofColumns table e.columns :=
    TableDef.ofColumns_moved table e.columns
  have hsteps :
      Migration.ofColumns table (e.moved σ).columns = Migration.ofColumns table e.columns :=
    Migration.ofColumns_moved table e.columns
  simp only [TableClass.unit, hconstants, htable, hsteps]
  rfl

/-- **An entity has the same units wherever its elements are.** -/
theorem units_moved (b : Backend) : (e.moved σ).units b = e.units b := by
  unfold units
  rw [putUnit_moved, getUnit_moved, deleteUnit_moved]
  simp only [tableUnit_moved]
  rfl

end Entity

end ResolverGen
