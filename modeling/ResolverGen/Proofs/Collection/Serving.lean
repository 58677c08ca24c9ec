/-
What serves as an accessor of a field.

`Element.ServesAsGetter` and `Element.ServesAsSetter` state what makes a member an accessor of a
field, and `Model.LastServing` is the last of the members of a class that serves for something. A
search that `Finds` is exact for it: `finds_getterOf?` and `finds_setterOf?` say so of the two that
look for accessors.
-/
import ResolverGen.Accessors

namespace ResolverGen

/-! ### What serves as an accessor -/

/-- What is looked for. -/
inductive AccessorKind where
  | getter
  | setter
deriving DecidableEq

/-- Whether a member of a class is a getter of a field of that class. -/
structure Element.ServesAsGetter (e field : Element) : Prop where
  method : e.kind = .method
  accessible : .privateAccess ∉ e.modifiers
  onObject : .static ∉ e.modifiers
  parameterless : e.parameters = []
  result : e.type = field.type
  /-- `getX`, `isX`, or the name of the field where that is `is` followed by a capital. -/
  named : e.name = "get" ++ Naming.capitalize field.name ∨
    e.name = "is" ++ Naming.capitalize field.name ∨
    e.name = field.name ∧
      ∃ c rest, field.name.toList = ['i', 's'] ++ c :: rest ∧ Unicode.isUpper c = true

/-- Whether a member of a class is a setter of a field of that class. -/
structure Element.ServesAsSetter (e field : Element) : Prop where
  assignable : .final ∉ field.modifiers
  method : e.kind = .method
  accessible : .privateAccess ∉ e.modifiers
  onObject : .static ∉ e.modifiers
  parameter : ∃ p, e.parameters = [p] ∧ some p.type = field.type
  named : e.name = "set" ++ Naming.capitalize field.name

/-- Whether a member of a class is the accessor of a field that is looked for. -/
def Element.Serves (e field : Element) : AccessorKind → Prop
  | .getter => e.ServesAsGetter field
  | .setter => e.ServesAsSetter field

theorem Naming.isPredicateName_iff (name : String) : isPredicateName name = true ↔
    ∃ c rest, name.toList = ['i', 's'] ++ c :: rest ∧ Unicode.isUpper c = true := by
  have hword : "is".toList = ['i', 's'] := by decide
  rw [isPredicateName, Option.isSome_filter, Option.any_eq_true, hword]
  constructor
  · rintro ⟨after, hafter, hupper⟩
    cases after with
    | nil => cases hupper
    | cons c rest => exact ⟨c, rest, eq_append_of_after? hafter, hupper⟩
  · rintro ⟨c, rest, hname, hupper⟩
    exact ⟨c :: rest, by rw [hname, after?_append], hupper⟩

namespace Element

variable {e field : Element}

theorem has_eq_true_iff {modifier : Modifier} : e.has modifier = true ↔ modifier ∈ e.modifiers := by
  simp [has]

theorem has_eq_false_iff {modifier : Modifier} :
    e.has modifier = false ↔ modifier ∉ e.modifiers := by
  rw [← has_eq_true_iff, Bool.not_eq_true]

theorem isCallable_iff : e.isCallable = true ↔
    e.kind = .method ∧ .privateAccess ∉ e.modifiers ∧ .static ∉ e.modifiers := by
  simp only [isCallable, Bool.and_eq_true, decide_eq_true_eq, Bool.not_eq_true', has_eq_false_iff,
    and_assoc]

theorem namesGetterOf_iff : e.namesGetterOf field = true ↔
    e.name = "get" ++ Naming.capitalize field.name ∨
      e.name = "is" ++ Naming.capitalize field.name ∨
      e.name = field.name ∧
        ∃ c rest, field.name.toList = ['i', 's'] ++ c :: rest ∧ Unicode.isUpper c = true := by
  simp only [namesGetterOf, Bool.or_eq_true, Bool.and_eq_true, decide_eq_true_eq,
    Naming.isPredicateName_iff, or_assoc]

theorem isGetterOf_iff : e.isGetterOf field = true ↔ e.ServesAsGetter field := by
  simp only [isGetterOf, Bool.and_eq_true, decide_eq_true_eq, isCallable_iff, namesGetterOf_iff]
  constructor
  · rintro ⟨⟨⟨⟨hmethod, hprivate, hstatic⟩, hname⟩, hparameters⟩, htype⟩
    exact ⟨hmethod, hprivate, hstatic, hparameters, htype, hname⟩
  · intro h
    exact ⟨⟨⟨⟨h.method, h.accessible, h.onObject⟩, h.named⟩, h.parameterless⟩, h.result⟩

/-- A final field is left out here. -/
theorem isSetterOf_iff : e.isSetterOf field = true ↔
    e.isCallable = true ∧ e.name = "set" ++ Naming.capitalize field.name ∧
      ∃ p, e.parameters = [p] ∧ some p.type = field.type := by
  simp only [isSetterOf, Bool.and_eq_true, decide_eq_true_eq, and_assoc]
  refine and_congr_right fun _ => and_congr_right fun _ => ?_
  match e.parameters with
  | [] => simp
  | [p] => simp
  | _ :: _ :: _ => simp

theorem servesAsSetter_iff (hfinal : field.has .final = false) :
    e.ServesAsSetter field ↔ e.isSetterOf field = true := by
  rw [isSetterOf_iff, isCallable_iff]
  constructor
  · intro h
    exact ⟨⟨h.method, h.accessible, h.onObject⟩, h.named, h.parameter⟩
  · rintro ⟨⟨hmethod, hprivate, hstatic⟩, hname, hparameter⟩
    exact ⟨has_eq_false_iff.1 hfinal, hmethod, hprivate, hstatic, hparameter, hname⟩

end Element

/-! ### The last member that serves -/

/-- Whether `last` is the last member beside an element that serves for something. -/
structure Model.LastServing (m : Model) (id : ElementId) (serves : Element → Prop)
    (last : ElementId) : Prop where
  member : last ∈ m.siblings id
  isOne : serves (m.element last)
  /-- Members are declared in the order of their positions. -/
  latest : ∀ other ∈ m.siblings id, serves (m.element other) → other ≤ last

namespace Model

variable {m : Model} {id : ElementId} {name : String}

theorem pairwise_siblings (m : Model) (id : ElementId) : (m.siblings id).Pairwise (· < ·) := by
  unfold siblings
  cases (m.element id).enclosing with
  | none => exact .nil
  | some owner => exact List.pairwise_lt_range.filter _

/-- Of several accessors the last counts. -/
theorem lastSibling?_eq_some_iff {isAccessor : Element → Bool} :
    m.lastSibling? id isAccessor = some name ↔
      ∃ before x after, m.siblings id = before ++ x :: after ∧
        isAccessor (m.element x) = true ∧ (m.element x).name = name ∧
        ∀ y ∈ after, isAccessor (m.element y) = false := by
  -- the last of a filtered list is what is found first from its end
  have hfind : m.lastSibling? id isAccessor =
      ((m.siblings id).reverse.find? fun x => isAccessor (m.element x)).map
        fun x => (m.element x).name := by
    rw [lastSibling?, List.filter_map, List.getLast?_map, List.getLast?_eq_head?_reverse,
      ← List.filter_reverse, List.head?_filter, Option.map_map]
    rfl
  rw [hfind, Option.map_eq_some_iff]
  constructor
  · rintro ⟨x, hx, hname⟩
    obtain ⟨haccessor, after, before, hsiblings, hafter⟩ := List.find?_eq_some_iff_append.1 hx
    refine ⟨before.reverse, x, after.reverse, ?_, haccessor, hname, fun y hy => ?_⟩
    · rw [← List.reverse_reverse (m.siblings id), hsiblings]
      simp
    · simpa using hafter y (List.mem_reverse.1 hy)
  · rintro ⟨before, x, after, hsiblings, haccessor, hname, hafter⟩
    refine ⟨x, List.find?_eq_some_iff_append.2 ⟨haccessor, after.reverse, before.reverse, ?_, ?_⟩,
      hname⟩
    · rw [hsiblings]
      simp
    · intro y hy
      simpa using hafter y (List.mem_reverse.1 hy)

theorem lastSibling?_eq_some_iff_lastServing {isAccessor : Element → Bool} :
    m.lastSibling? id isAccessor = some name ↔
      ∃ last, m.LastServing id (isAccessor · = true) last ∧ (m.element last).name = name := by
  have hsorted := m.pairwise_siblings id
  rw [lastSibling?_eq_some_iff]
  constructor
  · rintro ⟨before, last, after, hsiblings, hserves, hname, hafter⟩
    rw [hsiblings, List.pairwise_append] at hsorted
    obtain ⟨-, -, hbefore⟩ := hsorted
    refine ⟨last, ⟨by simp [hsiblings], hserves, fun other hother hserves' => ?_⟩, hname⟩
    rw [hsiblings, List.mem_append, List.mem_cons] at hother
    rcases hother with hother | rfl | hother
    · exact Nat.le_of_lt (hbefore other hother last List.mem_cons_self)
    · exact Nat.le_refl other
    · rw [hafter other hother] at hserves'
      cases hserves'
  · rintro ⟨last, h, hname⟩
    obtain ⟨before, after, hsiblings⟩ := List.append_of_mem h.member
    rw [hsiblings, List.pairwise_append, List.pairwise_cons] at hsorted
    refine ⟨before, last, after, hsiblings, h.isOne, hname, fun other hother => ?_⟩
    refine Bool.eq_false_iff.2 fun hserves => ?_
    have hle : other ≤ last := h.latest other (by simp [hsiblings, hother]) hserves
    exact absurd (hsorted.2.1.1 other hother) (Nat.not_lt.2 hle)

theorem lastSibling?_eq_none_iff {isAccessor : Element → Bool} :
    m.lastSibling? id isAccessor = none ↔
      ∀ x ∈ m.siblings id, ¬isAccessor (m.element x) = true := by
  simp [lastSibling?]

/-- Whether a search finds the last member that serves, and nothing if none does. -/
structure Finds (m : Model) (id : ElementId) (serves : Element → Prop)
    (found : Option String) : Prop where
  some_iff : ∀ name, found = some name ↔
    ∃ last, m.LastServing id serves last ∧ (m.element last).name = name
  none_iff : found = none ↔ ∀ x ∈ m.siblings id, ¬serves (m.element x)

theorem finds_lastSibling? (m : Model) (id : ElementId) (isAccessor : Element → Bool) :
    m.Finds id (isAccessor · = true) (m.lastSibling? id isAccessor) :=
  ⟨fun _ => lastSibling?_eq_some_iff_lastServing, lastSibling?_eq_none_iff⟩

theorem finds_getterOf? (m : Model) (id : ElementId) :
    m.Finds id (·.Serves (m.element id) .getter) (m.getterOf? id) := by
  have h := m.finds_lastSibling? id (·.isGetterOf (m.element id))
  simp only [Element.isGetterOf_iff] at h
  exact h

theorem finds_setterOf? (m : Model) (id : ElementId) :
    m.Finds id (·.Serves (m.element id) .setter) (m.setterOf? id) := by
  unfold setterOf?
  cases hfinal : (m.element id).has .final with
  | true =>
    -- a final field has no setter, whatever the members are
    have hnone : ∀ e : Element, ¬e.ServesAsSetter (m.element id) :=
      fun e h => h.assignable (Element.has_eq_true_iff.1 hfinal)
    refine ⟨fun name => iff_of_false (Option.some_ne_none name).symm ?_,
      iff_of_true rfl fun x _ => hnone _⟩
    rintro ⟨last, hlast, -⟩
    exact hnone _ hlast.isOne
  | false =>
    have h := m.finds_lastSibling? id (·.isSetterOf (m.element id))
    simp only [← Element.servesAsSetter_iff hfinal] at h
    exact h

end Model

end ResolverGen
