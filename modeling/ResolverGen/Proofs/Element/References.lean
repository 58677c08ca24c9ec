/-
References between elements.

A model is `Sound` if its references lead to elements. A document is accepted only if the model that
it holds is sound, and what it is refused for otherwise is the first reference that leads nowhere
(`sound_of_ofDocument`, `ofDocument_of_not_sound`).

The search for the package of an element goes from one enclosing element to the next. If no element
encloses itself, it meets none of them twice, and elements that differ are no more than a sound
model has (`length_le_size`).
-/
import Mathlib.Data.Finset.Card
import Mathlib.Data.List.Nodup
import Mathlib.Logic.Relation
import ResolverGen.Element.Document

namespace ResolverGen

/-- Whether the references of an element lead to positions below a bound. -/
structure Element.RefersBelow (size : Nat) (e : Element) : Prop where
  enclosing : ∀ outer, e.enclosing = some outer → outer < size
  superclass : ∀ parent, e.superclass = some parent → parent < size

/-- Whether all references of a model lead to elements. -/
def Model.Sound (m : Model) : Prop := ∀ id, (m.element id).RefersBelow m.size

/-- Whether a reference is the first one of a model that leads nowhere: the elements before have none,
and if it is the superclass of its element, the enclosing one is none either. -/
structure Model.FirstDangling (m : Model) (d : Dangling) : Prop where
  element : d.element < m.size
  target : m.size ≤ d.target
  before : ∀ id < d.element, (m.element id).RefersBelow m.size
  reference : (m.element d.element).enclosing = some d.target ∨
    (∀ outer, (m.element d.element).enclosing = some outer → outer < m.size) ∧
      (m.element d.element).superclass = some d.target

/-! ### Documents -/

namespace Element

variable {e : Element} {size target : Nat}

theorem refersBelow_iff_find? :
    (e.enclosing.toList ++ e.superclass.toList).find? (size ≤ ·) = none ↔ e.RefersBelow size := by
  rw [List.find?_eq_none]
  simp only [List.mem_append, Option.mem_toList, decide_eq_true_eq, Nat.not_le]
  exact ⟨fun h => ⟨fun _ ho => h _ (.inl ho), fun _ hp => h _ (.inr hp)⟩,
    fun h _ hx => hx.elim (h.enclosing _) (h.superclass _)⟩

/-- The enclosing element is looked at before the superclass. -/
theorem target_of_find? (h : (e.enclosing.toList ++ e.superclass.toList).find? (size ≤ ·) =
      some target) :
    size ≤ target ∧ (e.enclosing = some target ∨
      (∀ outer, e.enclosing = some outer → outer < size) ∧ e.superclass = some target) := by
  have htarget : size ≤ target := by simpa using List.find?_some h
  refine ⟨htarget, ?_⟩
  cases henclosing : e.enclosing with
  | none =>
    rw [henclosing] at h
    have hmem := List.mem_of_find?_eq_some h
    exact .inr ⟨fun _ ho => (by cases ho), Option.mem_toList.1 hmem⟩
  | some outer =>
    rw [henclosing] at h
    by_cases houter : size ≤ outer
    · rw [Option.toList_some, List.singleton_append, List.find?_cons_of_pos (by simpa)] at h
      exact .inl h
    · rw [Option.toList_some, List.singleton_append,
        List.find?_cons_of_neg (by simpa using houter)] at h
      refine .inr ⟨fun _ ho => ?_, Option.mem_toList.1 (List.mem_of_find?_eq_some h)⟩
      cases ho
      exact Nat.lt_of_not_le houter

end Element

namespace Model

variable {m : Model} {size : Nat} {es : List Element} {d : Dangling}

theorem danglingFrom_eq_none_iff {start : ElementId} :
    danglingFrom size start es = none ↔ ∀ e ∈ es, e.RefersBelow size := by
  induction es generalizing start with
  | nil => simp [danglingFrom]
  | cons e es ih =>
    rw [danglingFrom, List.forall_mem_cons, ← Element.refersBelow_iff_find?]
    cases (e.enclosing.toList ++ e.superclass.toList).find? (size ≤ ·) with
    | none => exact ih.trans (and_iff_right rfl).symm
    | some target => simp

/-- The first reference that leads nowhere is that of the first element that has one. -/
theorem of_danglingFrom_eq_some {start : ElementId} (h : danglingFrom size start es = some d) :
    ∃ before e after, es = before ++ e :: after ∧ d.element = start + before.length ∧
      (∀ x ∈ before, x.RefersBelow size) ∧
      (e.enclosing.toList ++ e.superclass.toList).find? (size ≤ ·) = some d.target := by
  induction es generalizing start with
  | nil => cases h
  | cons e es ih =>
    rw [danglingFrom] at h
    split at h
    · next target htarget =>
      cases h
      exact ⟨[], e, es, rfl, rfl, by simp, htarget⟩
    · next hnone =>
      obtain ⟨before, x, after, rfl, helement, hbefore, htarget⟩ := ih h
      refine ⟨e :: before, x, after, rfl, ?_, ?_, htarget⟩
      · rw [helement, List.length_cons, Nat.add_assoc, Nat.add_comm 1]
      · exact List.forall_mem_cons.2 ⟨Element.refersBelow_iff_find?.1 hnone, hbefore⟩

theorem element_of_lt {id : ElementId} (h : id < m.elements.length) :
    m.element id = m.elements[id] := by
  rw [element, List.getD_eq_getElem?_getD, List.getElem?_eq_getElem h]
  rfl

theorem element_of_size_le {id : ElementId} (h : m.size ≤ id) :
    m.element id = Element.ofKind .package "" := by
  rw [element, List.getD_eq_getElem?_getD, List.getElem?_eq_none h]
  rfl

theorem element_mem {id : ElementId} (h : id < m.size) : m.element id ∈ m.elements := by
  rw [element_of_lt h]
  exact List.getElem_mem h

theorem lt_size_of_enclosing {id owner : ElementId} (h : (m.element id).enclosing = some owner) :
    id < m.size := by
  by_contra hid
  rw [element_of_size_le (Nat.le_of_not_lt hid)] at h
  cases h

theorem mem_enclosed_iff {id owner : ElementId} :
    id ∈ m.enclosed owner ↔ (m.element id).enclosing = some owner := by
  rw [enclosed, List.mem_filter, decide_eq_true_iff]
  exact and_iff_right_of_imp fun h => List.mem_range.2 (lt_size_of_enclosing h)

/-- A model is sound if there is no reference that leads nowhere. -/
theorem sound_iff_dangling? : m.Sound ↔ m.dangling? = none := by
  rw [dangling?, danglingFrom_eq_none_iff]
  constructor
  · intro h e he
    obtain ⟨id, hid, rfl⟩ := List.getElem_of_mem he
    rw [← element_of_lt hid]
    exact h id
  · intro h id
    by_cases hid : id < m.size
    · exact h _ (element_mem hid)
    · rw [element_of_size_le (Nat.le_of_not_lt hid)]
      exact ⟨fun _ ho => (by cases ho), fun _ hp => (by cases hp)⟩

theorem firstDangling_of_dangling? (h : m.dangling? = some d) : m.FirstDangling d := by
  obtain ⟨before, e, after, helements, helement, hbefore, htarget⟩ := of_danglingFrom_eq_some h
  rw [Nat.zero_add] at helement
  have hsize : m.size = before.length + (after.length + 1) := by
    rw [size, helements, List.length_append, List.length_cons]
  have hlt : d.element < m.size := by
    rw [helement, hsize]
    exact Nat.lt_add_of_pos_right (Nat.succ_pos _)
  have he : m.element d.element = e := by
    rw [element_of_lt hlt]
    simp [helements, helement]
  obtain ⟨hle, hreference⟩ := Element.target_of_find? htarget
  refine ⟨hlt, hle, fun id hid => hbefore _ ?_, he ▸ hreference⟩
  have hid' : id < before.length := helement ▸ hid
  rw [element_of_lt (Nat.lt_trans hid hlt)]
  simp only [helements, List.getElem_append_left hid']
  exact List.getElem_mem hid'

/-- A model that has been accepted is sound. -/
theorem sound_of_ofDocument {text : String} (h : ofDocument text = .ok m) : m.Sound :=
  sound_iff_dangling?.2 (dangling?_eq_none_of_ofDocument h)

/-- A document whose model is not sound is refused for the first reference that leads nowhere. -/
theorem ofDocument_of_not_sound {text : String} (hread : record.read.run text = .ok m)
    (hsound : ¬m.Sound) : ∃ d, m.FirstDangling d ∧ ofDocument text = .error (.dangling d) := by
  rw [sound_iff_dangling?, Option.eq_none_iff_forall_ne_some, not_forall_not] at hsound
  obtain ⟨d, hd⟩ := hsound
  refine ⟨d, firstDangling_of_dangling? hd, ?_⟩
  rw [ofDocument, hread]
  simp only [hd]

/-! ### Chains of enclosing elements -/

/-- Whether an element directly encloses another one. -/
def Encloses (m : Model) (outer id : ElementId) : Prop := (m.element id).enclosing = some outer

/-- Whether no element encloses itself, by whatever elements in between. -/
def Acyclic (m : Model) : Prop := ∀ id, ¬Relation.TransGen m.Encloses id id

/-- Where elements come after what encloses them, none encloses itself. -/
theorem acyclic_of_lt (h : ∀ id < m.size, ∀ outer ∈ (m.element id).enclosing, outer < id) :
    m.Acyclic := by
  have hencloses : ∀ {outer id}, m.Encloses outer id → outer < id :=
    fun hstep => h _ (lt_size_of_enclosing hstep) _ hstep
  have hlt : ∀ {outer id}, Relation.TransGen m.Encloses outer id → outer < id := by
    intro outer id hchain
    induction hchain with
    | single hstep => exact hencloses hstep
    | tail _ hstep ih => exact Nat.lt_trans ih (hencloses hstep)
  exact fun id hchain => Nat.lt_irrefl id (hlt hchain)

/-- Elements none of which comes twice are no more than the model has. -/
theorem length_le_size {ids : List ElementId} (hnodup : ids.Nodup) (hids : ∀ id ∈ ids, id < m.size) :
    ids.length ≤ m.size := by
  have hsub : ids.toFinset ⊆ Finset.range m.size := by
    intro id hid
    exact Finset.mem_range.2 (hids id (List.mem_toFinset.1 hid))
  rw [← List.toFinset_card_of_nodup hnodup, ← Finset.card_range m.size]
  exact Finset.card_le_card hsub

end Model

end ResolverGen
