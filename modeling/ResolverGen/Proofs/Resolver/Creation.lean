/-
The call of the creator in a get resolver.

The columns are handed over in the order of the creator's parameters, by first positions. An entity
passes its check if there are as many parameters as columns and each column has one of its name.
Counting does not make that a matching: two members can give columns of one property, `getName` and
`isName` for one, and take the same parameter both, while another one is left without a column.

* `ordered_property_eq_iff` — when the columns line up with the parameters,
* `ordered_property_of_nodup` — they do if no two of them share a property,
* `createdBy_of_mem_accepted` — what the creator of an accepted entity is called with.
-/
import Mathlib.Data.List.Perm.Subperm
import ResolverGen.Proofs.Order
import ResolverGen.Proofs.Resolver.Methods
import ResolverGen.Proofs.Round.Accepted

namespace ResolverGen

open Code

/-! ### Positions -/

namespace Entity

theorem noLater_total (a b : Option Nat) : noLater a b = true ∨ noLater b a = true := by
  cases a with
  | none => cases b <;> simp [noLater]
  | some a =>
    cases b with
    | none => exact .inl rfl
    | some b => simpa [noLater] using Nat.le_total a b

theorem noLater_trans {a b c : Option Nat} (hab : noLater a b = true)
    (hbc : noLater b c = true) : noLater a c = true := by
  cases a with
  | none =>
    cases b with
    | none => exact hbc
    | some b => cases hab
  | some a =>
    cases c with
    | none => rfl
    | some c =>
      cases b with
      | none => cases hbc
      | some b =>
        simp only [noLater, decide_eq_true_eq] at hab hbc ⊢
        omega

end Entity

namespace Creator

variable {c : Creator} {name : String} {i : Nat}

theorem position_eq_some (h : c.position name = some i) : c.parameters[i]? = some name := by
  obtain ⟨hi, hname, -⟩ := List.findIdx?_eq_some_iff_getElem.1 h
  rw [List.getElem?_eq_getElem hi]
  simpa using hname

theorem position_isSome : (c.position name).isSome = true ↔ name ∈ c.parameters := by
  rw [position, List.findIdx?_isSome]
  simp

/-- Where no name is used twice, a parameter stands at its first position. -/
theorem position_getElem (h : c.parameters.Nodup) (hi : i < c.parameters.length) :
    c.position c.parameters[i] = some i := by
  rw [position, List.findIdx?_eq_some_iff_getElem]
  refine ⟨hi, by simp, fun j hji heq => ?_⟩
  have hj : j < c.parameters.length := by omega
  have hname : c.parameters[j] = c.parameters[i] := by simpa using heq
  have hij : j = i := h.getElem_inj_iff.1 hname
  omega

/-- Parameters of one name stand next to each other: first positions never go back. -/
def InOrder (c : Creator) : Prop :=
  c.parameters.Pairwise fun a b => Entity.noLater (c.position a) (c.position b) = true

theorem inOrder_of_nodup (h : c.parameters.Nodup) : c.InOrder := by
  rw [InOrder, List.pairwise_iff_getElem]
  intro i j hi hj hij
  rw [position_getElem h hi, position_getElem h hj]
  exact decide_eq_true hij.le

/-- Two parameters of the same first position have the same name. -/
theorem eq_of_noLater {a b : String} (ha : a ∈ c.parameters)
    (hab : Entity.noLater (c.position a) (c.position b) = true)
    (hba : Entity.noLater (c.position b) (c.position a) = true) : a = b := by
  obtain ⟨i, hi⟩ := Option.isSome_iff_exists.1 (position_isSome.2 ha)
  rw [hi] at hab hba
  cases hj : c.position b with
  | none =>
    rw [hj] at hba
    cases hba
  | some j =>
    rw [hj] at hab hba
    simp only [Entity.noLater, decide_eq_true_eq] at hab hba
    have hij : i = j := by omega
    have hname := position_eq_some hi
    rw [hij, position_eq_some hj] at hname
    exact (Option.some.inj hname).symm

end Creator

/-! ### Columns and parameters -/

namespace Entity

variable {e : Entity} {creator : Creator}

theorem ordered_perm (e : Entity) : e.ordered.Perm e.columns := by
  unfold ordered
  split
  · exact List.Perm.refl _
  · exact Order.sortBy_perm _ _

/-- The columns line up with the parameters just if they have the same names altogether and the
parameters of one name are not apart. -/
theorem ordered_property_eq_iff (h : e.activeCreator? = some creator) :
    e.ordered.map (·.property) = creator.parameters ↔
      (e.columns.map (·.property)).Perm creator.parameters ∧ creator.InOrder := by
  have hordered : e.ordered = Order.sortBy
      (fun a b => noLater (creator.position a.property) (creator.position b.property))
      e.columns := by
    rw [ordered, h]
  rw [hordered]
  exact Order.sortBy_map_eq_iff (fun a b => noLater_total _ _)
    (fun a b c hab hbc => noLater_trans hab hbc) (fun a b => Iff.rfl)
    (fun a ha b _ hab hba => Creator.eq_of_noLater ha hab hba)

/-- Columns of different properties take different parameters, so that none is left over. -/
theorem property_perm_of_matchesCreator (h : e.matchesCreator creator = true)
    (hnodup : (e.columns.map (·.property)).Nodup) :
    (e.columns.map (·.property)).Perm creator.parameters := by
  simp only [matchesCreator, Bool.and_eq_true, decide_eq_true_eq, List.all_eq_true] at h
  obtain ⟨hlength, hall⟩ := h
  have hsub : e.columns.map (·.property) ⊆ creator.parameters := by
    intro name hname
    obtain ⟨c, hc, rfl⟩ := List.mem_map.1 hname
    exact Creator.position_isSome.1 (hall c hc)
  -- the parameters hold all the properties and have no room for more
  exact (hnodup.subperm hsub).perm_of_length_le (by rw [List.length_map, hlength])

theorem ordered_property_of_nodup (h : e.activeCreator? = some creator)
    (hmatch : e.matchesCreator creator = true) (hnodup : (e.columns.map (·.property)).Nodup) :
    e.ordered.map (·.property) = creator.parameters := by
  have hperm := property_perm_of_matchesCreator hmatch hnodup
  exact (ordered_property_eq_iff h).2 ⟨hperm, Creator.inOrder_of_nodup (hperm.nodup hnodup)⟩

theorem activeCreator?_of_check {v : Vocabulary} (h : e.check v = .ok ())
    (hneeds : e.byCreator = true) :
    ∃ creator, e.activeCreator? = some creator ∧ e.matchesCreator creator = true := by
  obtain ⟨creator, hcreator, hmatch⟩ := (check_eq_ok_iff.1 h).2.2 hneeds
  exact ⟨creator, by rw [activeCreator?, if_pos hneeds, hcreator], hmatch⟩

end Entity

/-! ### The call -/

/-- The value of a column in the row that the cursor stands at. Truth values are kept as numbers. -/
def Column.rowValue (c : Column) : Expr :=
  let value := .call (.var "cursor") c.type.cursorMethod
    [.call (.var "cursor") "getColumnIndex" [.text c.name]]
  if c.type = .boolean ∨ c.type = .booleanObject then .equal value (.number 1) else value

/-- The statements that read a column into a local variable that is named after its property. One that
can be null is so where the row holds no value. -/
def Column.readInto (c : Column) (type : TypeUse) : List Stmt :=
  if c.type.isNullable = true then
    [.declare type c.property .null,
     .guarded
      (.negate (.call (.var "cursor") "isNull"
        [.call (.var "cursor") "getColumnIndex" [.text c.name]]))
      [.assign (.var c.property) c.rowValue]]
  else [.declare type c.property c.rowValue]

/-- The call of a creator: a constructor by `new`, and a factory on the class. -/
def Creator.calledWith (creator : Creator) (entity : TypeName) (arguments : List Expr) : Expr :=
  match creator.kind with
  | .constructor => .construct entity arguments
  | .factory name => .callOn entity name arguments

theorem Column.readLocal_eq (c : Column) (type : TypeUse) :
    Resolver.Get.readLocal type c = c.readInto type := by
  have hvalue : c.readCursor = c.rowValue := by
    unfold Column.readCursor Column.rowValue ColumnType.read
    cases c.type <;> rfl
  rw [Resolver.Get.readLocal, Column.readInto, Resolver.Get.guardNull, hvalue]
  split <;> rfl

/-- With a creator the body of the method reads the columns into local variables and calls the creator
with these. -/
theorem Creator.createBody_eq (creator : Creator) (entity : TypeName)
    (locals : List (TypeUse × Column)) :
    Resolver.Get.createBody creator entity locals =
      .blank :: (locals.flatMap fun l => l.2.readInto l.1) ++
        [.blank,
         .declare (.named entity) "object"
          (creator.calledWith entity (locals.map fun l => .var l.2.property)),
         .blank, .give (.var "object")] := by
  have hreads : (locals.flatMap fun l => Resolver.Get.readLocal l.1 l.2) =
      locals.flatMap fun l => l.2.readInto l.1 :=
    List.flatMap_congr fun l _ => l.2.readLocal_eq l.1
  rw [← hreads]
  rfl

namespace Entity

/-- What the get resolver of an entity calls the creator with. -/
structure CreatedBy (e : Entity) (r : Runtime) (creator : Creator) : Prop where
  active : e.activeCreator? = some creator
  aligned : e.ordered.map (·.property) = creator.parameters ↔
    (e.columns.map (·.property)).Perm creator.parameters ∧ creator.InOrder
  /-- Each parameter has a column of its own just if no two columns share a property. -/
  distinct : (e.ordered.map (·.property) = creator.parameters ∧ creator.parameters.Nodup) ↔
    (e.columns.map (·.property)).Nodup
  /-- Each column is read into a local variable that is named after it and handed over once. If no
  two columns share a property, the variables are handed over by the names of the parameters. -/
  calls : ∃ (method : Method) (entity : TypeName) (locals : List (TypeUse × Column)),
    (Resolver.Get.unit r e).method? "mapFromCursor" = some method ∧
      method.body = .blank :: (locals.flatMap fun l => l.2.readInto l.1) ++
        [.blank,
         .declare (.named entity) "object"
          (creator.calledWith entity (locals.map fun l => .var l.2.property)),
         .blank, .give (.var "object")] ∧
      entity.denotes = e.className ∧
      (locals.map (·.2)).Perm e.columns ∧
      ((e.columns.map (·.property)).Nodup →
        locals.map (fun l => Expr.var l.2.property) = creator.parameters.map .var ∧
          (locals.map (·.2.property)).Nodup)

end Entity

/-- **The creator of an accepted entity is called with each column once, and the parameters get the
columns of their own names just if no two columns share a property.** -/
theorem Processor.createdBy_of_mem_accepted {p : Processor} {m : Model} {e : Entity}
    (h : e ∈ p.accepted m) (hneeds : e.byCreator = true) :
    Resolver.Get.unit p.backend.runtime e ∈ p.emission m ∧
      ∃ creator, e.CreatedBy p.backend.runtime creator := by
  obtain ⟨creator, hactive, hmatch⟩ :=
    Entity.activeCreator?_of_check (check_of_mem_accepted h) hneeds
  have haligned := Entity.ordered_property_eq_iff hactive
  refine ⟨mem_emission h (by simp [Entity.units]), creator, ?_⟩
  refine
    { active := hactive
      aligned := haligned
      distinct := ⟨?_, fun hnodup => ?_⟩
      calls := ?_ }
  · -- the properties are the parameters in another order
    rintro ⟨heq, hnodup⟩
    exact (haligned.1 heq).1.nodup_iff.2 hnodup
  · have heq := Entity.ordered_property_of_nodup hactive hmatch hnodup
    exact ⟨heq, (haligned.1 heq).1.nodup_iff.1 hnodup⟩
  · obtain ⟨method, entity, locals, hmethod, -, hbody, hentity, hlocals⟩ :=
      Resolver.Get.method?_create p.backend.runtime hactive
    rw [creator.createBody_eq] at hbody
    refine ⟨method, entity, locals, hmethod, hbody, hentity, ?_, fun hnodup => ?_⟩
    · rw [hlocals]
      exact e.ordered_perm
    · have heq := Entity.ordered_property_of_nodup hactive hmatch hnodup
      have hproperty : locals.map (·.2.property) = creator.parameters := by
        rw [← heq, ← hlocals, List.map_map]
        rfl
      refine ⟨?_, ?_⟩
      · rw [← hproperty, List.map_map]
        rfl
      · rw [hproperty]
        exact (haligned.1 heq).1.nodup_iff.1 hnodup

theorem Processor.createdBy_userModel :
    ∃ e ∈ (initial .sqlite .unset).accepted userModel, e.byCreator = true ∧
      Resolver.Get.unit Backend.sqlite.runtime e ∈ (initial .sqlite .unset).emission userModel ∧
      ∃ creator, e.CreatedBy Backend.sqlite.runtime creator := by
  obtain ⟨e, he, -, hneeds, -⟩ := exists_accepted_userModel
  exact ⟨e, he, hneeds, createdBy_of_mem_accepted he hneeds⟩

/-- A class whose two accessors are of one property, made by a constructor of two parameters. -/
def Processor.namesakeModel : Model :=
  accessorModel
    [("getName", "java.lang.String", "name = \"a\", key = true"),
     ("isName", "boolean", "name = \"b\"")]
    [⟨"name", "java.lang.String"⟩, ⟨"other", "boolean"⟩]

/-- Such a class is accepted although one of the parameters has no column. -/
example : ((Processor.initial .sqlite .unset).accepted Processor.namesakeModel).map
    (fun e => (e.ordered.map (·.property), e.activeCreator?.map (·.parameters))) =
      [(["name", "name"], some ["name", "other"])] := by
  decide +kernel

end ResolverGen
