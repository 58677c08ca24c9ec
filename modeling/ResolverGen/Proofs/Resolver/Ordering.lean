/-
The order in which columns are handed to the creator.

A column goes to the first position of its property among the parameters, and a column whose property
is no parameter goes behind all of them, so columns are compared by `List.idxOf`, which is the number
of parameters for a text that is none (`noLater_position_iff`). Columns of one position keep their
order, and there is only one order of that kind (`Order.eq_of_filter_eq`). `ordered_stable` says all
of it for every entity, whether it has been checked or not.
-/
import ResolverGen.Proofs.Resolver.Creation

namespace ResolverGen

/-! ### Positions of columns -/

theorem Creator.idxOf_eq_position (c : Creator) (name : String) :
    c.parameters.idxOf name = (c.position name).getD c.parameters.length :=
  List.findIdx_eq_getD_findIdx?

theorem Creator.position_lt {c : Creator} {name : String} {i : Nat}
    (h : c.position name = some i) : i < c.parameters.length :=
  (List.findIdx?_eq_some_iff_findIdx_eq.1 h).1

/-- No position comes behind all positions. -/
theorem Entity.noLater_position_iff (c : Creator) (a b : String) :
    noLater (c.position a) (c.position b) = true ↔
      c.parameters.idxOf a ≤ c.parameters.idxOf b := by
  rw [c.idxOf_eq_position, c.idxOf_eq_position]
  cases ha : c.position a with
  | none =>
    cases hb : c.position b with
    | none => simp [noLater]
    | some j => simpa [noLater] using Creator.position_lt hb
  | some i =>
    cases hb : c.position b with
    | none => simpa [noLater] using (Creator.position_lt ha).le
    | some j => simp [noLater]

/-- Columns in the order of some parameters. -/
structure OrdersBy (parameters : List String) (columns ordered : List Column) : Prop where
  /-- The columns that have a parameter come first, and the others follow as they came in. -/
  matched : ∃ first, ordered = first ++ columns.filter (·.property ∉ parameters) ∧
    ∀ c ∈ first, c.property ∈ parameters
  /-- No column stands behind one of a later position. -/
  sorted : ordered.Pairwise fun a b =>
    parameters.idxOf a.property ≤ parameters.idxOf b.property
  /-- The columns of one position, or of none, are the same and in the same order. -/
  stable : ∀ i, ordered.filter (fun c => parameters.idxOf c.property = i) =
    columns.filter fun c => parameters.idxOf c.property = i
  pairs : ∀ a b, parameters.idxOf a.property = parameters.idxOf b.property →
    ([a, b].Sublist ordered ↔ [a, b].Sublist columns)

namespace Entity

variable {e : Entity} {creator : Creator}

theorem ordered_eq_sortBy (h : e.activeCreator? = some creator) : e.ordered = Order.sortBy
    (fun a b => noLater (creator.position a.property) (creator.position b.property))
    e.columns := by
  rw [ordered, h]

theorem sorted_ordered (h : e.activeCreator? = some creator) : e.ordered.Pairwise fun a b =>
    creator.parameters.idxOf a.property ≤ creator.parameters.idxOf b.property := by
  have hpairwise := Order.pairwise_sortBy
    (fun a b : Column => noLater_total (creator.position a.property) (creator.position b.property))
    (fun a b c hab hbc => noLater_trans hab hbc) e.columns
  rw [ordered_eq_sortBy h]
  exact hpairwise.imp fun {a b} hle => (noLater_position_iff creator a.property b.property).1 hle

theorem filter_ordered (h : e.activeCreator? = some creator) (i : Nat) :
    e.ordered.filter (fun c => creator.parameters.idxOf c.property = i) =
      e.columns.filter fun c => creator.parameters.idxOf c.property = i := by
  rw [ordered_eq_sortBy h]
  refine Order.filter_sortBy fun a _ b _ ha hb => ?_
  rw [noLater_position_iff, of_decide_eq_true ha, of_decide_eq_true hb]

/-- The columns without a parameter are at the end, as they came in. -/
theorem ordered_eq_append (h : e.activeCreator? = some creator) :
    e.ordered = e.ordered.filter (·.property ∈ creator.parameters) ++
      e.columns.filter (·.property ∉ creator.parameters) := by
  -- their position is the one behind all others
  have hlast (cs : List Column) : cs.filter (·.property ∉ creator.parameters) =
      cs.filter fun c => creator.parameters.idxOf c.property = creator.parameters.length := by
    refine List.filter_congr fun c _ => ?_
    rw [decide_eq_decide, List.idxOf_eq_length_iff]
  have hfront : e.ordered.Pairwise fun a b => decide (b.property ∈ creator.parameters) = true →
      decide (a.property ∈ creator.parameters) = true := by
    refine (sorted_ordered h).imp fun {a b} hle hb => ?_
    have hlt := List.idxOf_lt_length_iff.2 (of_decide_eq_true hb)
    exact decide_eq_true (List.idxOf_lt_length_iff.1 (hle.trans_lt hlt))
  have hsplit := Order.eq_filter_append hfront
  simp only [← decide_not] at hsplit
  rw [hlast, filter_ordered h, ← hlast] at hsplit
  exact hsplit

theorem ordersBy_ordered (h : e.activeCreator? = some creator) :
    OrdersBy creator.parameters e.columns e.ordered := by
  have hstable := filter_ordered h
  refine
    { matched := ⟨e.ordered.filter (·.property ∈ creator.parameters), ?_, fun c hc => ?_⟩
      sorted := sorted_ordered h
      stable := hstable
      pairs := fun a b hab => ?_ }
  · exact ordered_eq_append h
  · exact of_decide_eq_true (List.mem_filter.1 hc).2
  · exact Order.pair_sublist_iff (hstable (creator.parameters.idxOf b.property))
      (decide_eq_true hab) (decide_eq_true rfl)

/-- There is only one such order. -/
theorem eq_of_ordersBy {parameters : List String} {columns first second : List Column}
    (h : OrdersBy parameters columns first) (h' : OrdersBy parameters columns second) :
    first = second :=
  Order.eq_of_filter_eq h.sorted h'.sorted fun i => (h.stable i).trans (h'.stable i).symm

/-- **Columns are put into another order only for a creator that is needed, and then into the stable
order by the first positions of their properties among its parameters.** -/
theorem ordered_stable (e : Entity) :
    e.ordered.Perm e.columns ∧
      (e.byCreator = false ∨ e.creator = none → e.ordered = e.columns) ∧
      ∀ creator, e.byCreator = true → e.creator = some creator →
        ∀ columns, OrdersBy creator.parameters e.columns columns ↔ columns = e.ordered := by
  refine ⟨e.ordered_perm, fun h => ?_, fun creator hneeds hcreator columns => ?_⟩
  · have hnone : e.activeCreator? = none := by
      rcases h with hneeds | hcreator
      · rw [activeCreator?, hneeds]
        rfl
      · rw [activeCreator?, hcreator, ite_self]
    rw [ordered, hnone]
  · have hactive : e.activeCreator? = some creator := by
      rw [activeCreator?, if_pos hneeds, hcreator]
    constructor
    · exact fun h => eq_of_ordersBy h (ordersBy_ordered hactive)
    · rintro rfl
      exact ordersBy_ordered hactive

/-- A class with two accessors of one property, a column without a parameter and a parameter that
comes twice. -/
def namesakesEntity : Entity :=
  { name := "User", package := "com.test", element := 1, config := .sqlite "users" false
    byCreator := true, creator := some ⟨1, 6, .constructor, ["id", "name", "id", "name"]⟩
    nonNull := ⟨"androidx.annotation", "NonNull"⟩
    columns := [column "isName" 2, column "age" 3, column "getName" 4, column "getId" 5] }
where
  /-- A column on a method. -/
  column (name : String) (element : ElementId) : Column :=
    { enclosing := 1, element, kind := .method, elementName := name, type := .long, name
      key := false, ignoreNull := false, version := 1, getter := none, setter := none
      notNull := false }

theorem ordered_stable_namesakesEntity :
    namesakesEntity.byCreator = true ∧
      namesakesEntity.creator = some ⟨1, 6, .constructor, ["id", "name", "id", "name"]⟩ ∧
      namesakesEntity.ordered.map (·.elementName) = ["getId", "isName", "getName", "age"] ∧
      OrdersBy ["id", "name", "id", "name"] namesakesEntity.columns namesakesEntity.ordered :=
  ⟨rfl, rfl, by decide +kernel, ((ordered_stable namesakesEntity).2.2 _ rfl rfl _).2 rfl⟩

end Entity

end ResolverGen
