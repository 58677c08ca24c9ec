/-
Models with their elements in another order.

`Renumbers` says that one model is another one with its elements moved to the positions that `σ`
gives, where the members of each class stay in their order among each other. The members of different
classes may come in between, so a collection that takes members in turn goes another way on each of
the models.

What a member is read as in its place (`readInPlace`) depends on the members before it only by the
accessors that are kept under its key, and these are found by members of its own class, unless fields
of another class are kept by the same name (`HasDistinctKeys`). So each class is collected as it is on
the other model, but for the positions (`exact_moved`), and one model is collected just if the other
one is (`collects`).
-/
import Mathlib.Data.List.Sort
import Mathlib.GroupTheory.Perm.Finite
import ResolverGen.Proofs.Collection.Accessors
import ResolverGen.Proofs.Collection.Exactness
import ResolverGen.Proofs.Collection.Likeness
import ResolverGen.Proofs.Element.References

namespace ResolverGen

open Code

/-! ### Members in their places -/

namespace Model

section

variable (m : Model) (b : Backend)

/-- The members before one of them. -/
def membersBefore (id : ElementId) : List ElementId :=
  (m.annotatedWith b.vocabulary.column.qualified).filter (· < id)

/-- What a member is read as by a new processor that has checked the members before it. -/
def readInPlace (id : ElementId) : Except Fault Column :=
  m.readColumn b (m.accessorsAfter b .empty (m.membersBefore b id)) id

end

variable {m : Model} {b : Backend} {id : ElementId}

theorem membersBefore_eq {before after : List ElementId}
    (h : m.annotatedWith b.vocabulary.column.qualified = before ++ id :: after) :
    m.membersBefore b id = before := by
  have hbefore : m.membersBefore b id = (m.membersUpTo b id).filter (· < id) := by
    rw [membersBefore, membersUpTo, List.filter_filter]
    refine List.filter_congr fun x _ => ?_
    by_cases hx : x < id <;> simp [hx, Nat.le_of_lt]
  have hlt : ∀ x ∈ before, x < id := by
    have hsorted : (before ++ id :: after).Pairwise (· < ·) :=
      h ▸ List.pairwise_lt_range.filter _
    exact fun x hx => (List.pairwise_append.1 hsorted).2.2 x hx id List.mem_cons_self
  rw [hbefore, membersUpTo_eq h, List.filter_append, List.filter_eq_self.2 (by simpa using hlt)]
  simp

theorem membersUpTo_eq_concat (h : id ∈ m.annotatedWith b.vocabulary.column.qualified) :
    m.membersUpTo b id = m.membersBefore b id ++ [id] := by
  obtain ⟨before, after, hall⟩ := List.append_of_mem h
  rw [membersUpTo_eq hall, membersBefore_eq hall]

/-- All members are read if each of them is that has only such before it. -/
theorem readsAll_of_inPlace
    (h : ∀ id ∈ m.annotatedWith b.vocabulary.column.qualified,
      m.ReadsAll b .empty (m.membersBefore b id) →
        m.passesOver b.vocabulary id = true ∨ ∃ c, m.readInPlace b id = .ok c) :
    m.ReadsAll b .empty (m.annotatedWith b.vocabulary.column.qualified) := by
  have hprefix : ∀ done rest, m.annotatedWith b.vocabulary.column.qualified = done ++ rest →
      m.ReadsAll b .empty done := by
    intro done
    induction done using List.reverseRecOn with
    | nil => exact fun _ _ => trivial
    | append_singleton done id ih =>
      intro rest hall
      rw [List.append_assoc, List.singleton_append] at hall
      have hdone := ih _ hall
      have hid := h id (by simp [hall])
      rw [readInPlace, membersBefore_eq hall] at hid
      exact (readsAll_append _ _).2 ⟨hdone, hid hdone, trivial⟩
  exact hprefix _ [] (List.append_nil _).symm

theorem inPlace_of_readsAll
    (h : m.ReadsAll b .empty (m.annotatedWith b.vocabulary.column.qualified))
    (hid : id ∈ m.annotatedWith b.vocabulary.column.qualified) :
    m.ReadsAll b .empty (m.membersBefore b id) ∧
      (m.passesOver b.vocabulary id = true ∨ ∃ c, m.readInPlace b id = .ok c) := by
  obtain ⟨before, after, hall⟩ := List.append_of_mem hid
  rw [hall, readsAll_append] at h
  rw [readInPlace, membersBefore_eq hall]
  exact ⟨h.1, h.2.1⟩

theorem columnsFrom_eq_filterMap (m : Model) (b : Backend) :
    m.columnsFrom b .empty (m.annotatedWith b.vocabulary.column.qualified) =
      (m.annotatedWith b.vocabulary.column.qualified).filterMap
        fun id => (m.readInPlace b id).toOption := by
  have hprefix : ∀ done rest, m.annotatedWith b.vocabulary.column.qualified = done ++ rest →
      m.columnsFrom b .empty done = done.filterMap fun id => (m.readInPlace b id).toOption := by
    intro done
    induction done using List.reverseRecOn with
    | nil => exact fun _ _ => rfl
    | append_singleton done id ih =>
      intro rest hall
      rw [List.append_assoc, List.singleton_append] at hall
      rw [columnsFrom_append, ih _ hall, List.filterMap_append]
      simp only [columnsFrom, readInPlace, membersBefore_eq hall, List.filterMap_cons,
        List.filterMap_nil, List.append_nil]
      cases (m.readColumn b (m.accessorsAfter b .empty done) id).toOption <;> rfl
  exact hprefix _ [] (List.append_nil _).symm

/-- The columns of a class are what its members are read as. -/
theorem columnsOf_eq_filterMap (m : Model) (b : Backend) (owner : ElementId) :
    m.columnsOf b .empty (m.annotatedWith b.vocabulary.column.qualified) owner =
      (m.membersAmong (m.annotatedWith b.vocabulary.column.qualified) owner).filterMap
        fun id => (m.readInPlace b id).toOption := by
  rw [columnsOf, columnsFrom_eq_filterMap, membersAmong, List.filter_filterMap,
    List.filterMap_filter]
  refine List.filterMap_congr fun id _ => ?_
  cases hread : m.readInPlace b id with
  | error f => simp [Except.toOption]
  | ok c =>
    have henclosing := enclosing_of_readColumn hread
    by_cases howner : c.enclosing = owner <;> simp [Except.toOption, henclosing, howner]

/-! ### Keys of different classes -/

/-- Whether the accessors of different annotated classes are kept by different names. -/
def HasDistinctKeys (m : Model) (b : Backend) : Prop :=
  ∀ id ∈ m.annotatedWith b.vocabulary.type.qualified,
    ∀ id' ∈ m.annotatedWith b.vocabulary.type.qualified, m.qualifiedName id = m.qualifiedName id' → id = id'

instance (m : Model) (b : Backend) : Decidable (m.HasDistinctKeys b) :=
  inferInstanceAs (Decidable (∀ id ∈ m.annotatedWith b.vocabulary.type.qualified,
    ∀ id' ∈ m.annotatedWith b.vocabulary.type.qualified, m.qualifiedName id = m.qualifiedName id' → id = id'))

/-- What is known under the key of a member has been found by members of its own class. -/
theorem firstAccessor?_of_distinctKeys {owner : ElementId} (h : m.HasDistinctKeys b)
    (howner : m.enclosingClass? id = some owner)
    (hannotated : (m.element owner).isAnnotated b.vocabulary.type.qualified = true)
    (accessorOf? : ElementId → Option String) (ids : List ElementId) :
    m.firstAccessor? b.vocabulary accessorOf? ids (m.accessorKey id) =
      m.firstAccessor? b.vocabulary accessorOf? (m.membersAmong ids owner) (m.accessorKey id) := by
  rw [firstAccessor?, firstAccessor?, ← List.head?_filterMap, ← List.head?_filterMap, membersAmong,
    List.filterMap_filter]
  refine congrArg _ (List.filterMap_congr fun x _ => ?_)
  by_cases henclosing : (m.element x).enclosing = some owner
  · simp [henclosing]
  · -- a private field of another class goes by another key
    have hne : ¬(m.isHidden b.vocabulary x = true ∧ m.accessorKey x = m.accessorKey id) := by
      rintro ⟨hhidden, hkey⟩
      obtain ⟨⟨other, hother, hannotated'⟩, -⟩ := isHidden_iff.1 hhidden
      have hname := congrArg AccessorKey.className hkey
      rw [className_accessorKey (enclosingClass?_eq_some hother).1,
        className_accessorKey (enclosingClass?_eq_some howner).1] at hname
      have hsame := h _ (Collection.mem_annotatedWith_iff.2 hannotated') _
        (Collection.mem_annotatedWith_iff.2 hannotated) hname
      rw [(enclosingClass?_eq_some hother).1, hsame] at henclosing
      exact henclosing rfl
    simp [henclosing, accessorFor?, hne]

end Model

/-! ### Renumbering -/

/-- Columns that can stand together can do so wherever their elements are. -/
theorem Column.Compatible.moved {abstractClass : Bool} {cs : List Column}
    (h : Column.Compatible abstractClass cs) (σ : Equiv.Perm ElementId) :
    Column.Compatible abstractClass (cs.map (·.moved σ)) where
  distinct := by
    rw [List.map_map]
    exact h.distinct
  uniform := by
    simp only [List.forall_mem_map]
    exact h.uniform
  created habstract := by
    rw [List.forall_mem_map]
    exact h.created habstract

/-- Whether a model is another one whose elements have been moved to the positions that `σ` gives,
the members of each class in the same order. -/
structure Model.Renumbers (σ : Equiv.Perm ElementId) (m m' : Model) : Prop where
  knownTypes : m'.knownTypes = m.knownTypes
  size : m'.size = m.size
  lt_size : ∀ id < m.size, σ id < m.size
  element : ∀ id < m.size, m'.element (σ id) = (m.element id).moved σ
  inOrder : ∀ id' < m.size, ∀ id < id', (m.enclosingClass? id).isSome = true →
    m.enclosingClass? id = m.enclosingClass? id' → σ id < σ id'

namespace Model

variable {m m' : Model} {b : Backend} {σ : Equiv.Perm ElementId} {id owner : ElementId}
  {mark : String}

theorem enclosingClass?_of_enclosing (h : (m.element id).enclosing = some owner)
    (hkind : (m.element owner).kind = .classType) : m.enclosingClass? id = some owner := by
  rw [enclosingClass?, h, Option.filter_some, if_pos (decide_eq_true hkind)]

/-- The annotated members of a class are its members that are annotated. -/
theorem membersAmong_annotatedWith (m : Model) (mark : String) (owner : ElementId) :
    m.membersAmong (m.annotatedWith mark) owner =
      (m.enclosed owner).filter fun id => (m.element id).isAnnotated mark := by
  rw [membersAmong, annotatedWith, enclosed, List.filter_filter, List.filter_filter]
  exact List.filter_congr fun id _ => Bool.and_comm _ _

namespace Renumbers

variable (h : m.Renumbers σ m')
include h

theorem lt_size_iff : σ id < m.size ↔ id < m.size := by
  refine ⟨fun hid => ?_, h.lt_size id⟩
  have hfinite : Finite { x // x < m.size } := (Set.finite_lt_nat m.size).to_subtype
  have hback := Equiv.Perm.perm_symm_on_of_perm_on_finite h.lt_size hid
  rwa [Equiv.symm_apply_apply] at hback

/-- A position without an element has moved to one without an element. -/
theorem element_eq (id : ElementId) : m'.element (σ id) = (m.element id).moved σ := by
  by_cases hid : id < m.size
  · exact h.element id hid
  · have hle : m.size ≤ σ id := Nat.le_of_not_lt fun hlt => hid (h.lt_size_iff.1 hlt)
    rw [element_of_size_le (Nat.le_of_not_lt hid), element_of_size_le (h.size ▸ hle)]
    rfl

theorem enclosing (id : ElementId) :
    (m'.element (σ id)).enclosing = (m.element id).enclosing.map σ := by
  rw [h.element_eq]
  rfl

theorem lt_iff {id' : ElementId} (hid : m.enclosingClass? id = some owner)
    (hid' : m.enclosingClass? id' = some owner) : σ id < σ id' ↔ id < id' := by
  have hmono : ∀ {x y}, m.enclosingClass? x = some owner → m.enclosingClass? y = some owner →
      x < y → σ x < σ y := by
    intro x y hx hy hlt
    have hy' := lt_size_of_enclosing (enclosingClass?_eq_some hy).1
    exact h.inOrder y hy' x hlt (by rw [hx]; rfl) (hx.trans hy.symm)
  refine ⟨fun hlt => ?_, hmono hid hid'⟩
  rcases Nat.lt_trichotomy id id' with hless | rfl | hmore
  · exact hless
  · exact absurd hlt (Nat.lt_irrefl _)
  · exact absurd (hmono hid' hid hmore) (Nat.lt_asymm hlt)

/-- The members of a class are moved in order. -/
theorem enclosed (hkind : (m.element owner).kind = .classType) :
    m'.enclosed (σ owner) = (m.enclosed owner).map σ := by
  have hsorted : ((m.enclosed owner).map σ).Pairwise (· < ·) := by
    rw [List.pairwise_map]
    refine (List.pairwise_lt_range.filter _).imp_of_mem fun {x y} hx hy hlt => ?_
    have hx := enclosingClass?_of_enclosing (mem_enclosed_iff.1 hx) hkind
    have hy := enclosingClass?_of_enclosing (mem_enclosed_iff.1 hy) hkind
    exact (h.lt_iff hx hy).2 hlt
  refine (List.pairwise_lt_range.filter _).eq_of_mem_iff hsorted fun x => ?_
  obtain ⟨id, rfl⟩ := σ.surjective x
  rw [List.mem_map_of_injective σ.injective, mem_enclosed_iff]
  refine mem_enclosed_iff.trans ?_
  rw [h.enclosing, Option.map_eq_some_iff]
  constructor
  · rintro ⟨parent, hparent, heq⟩
    rw [hparent, σ.injective heq]
  · exact fun henclosing => ⟨owner, henclosing, rfl⟩

theorem looksLike (b : Backend) : m.LooksLike b σ m' where
  knownTypes := h.knownTypes
  size := h.size
  shape id := congrArg Element.bare (h.element_eq id)
  marks id mark _ _ := by
    rw [h.element_eq]
    rfl
  enclosed _ hkind := h.enclosed hkind

theorem isAnnotated (id : ElementId) :
    (m'.element (σ id)).isAnnotated mark = (m.element id).isAnnotated mark := by
  rw [h.element_eq]
  rfl

theorem mem_annotatedWith : σ id ∈ m'.annotatedWith mark ↔ id ∈ m.annotatedWith mark := by
  rw [annotatedWith, annotatedWith, List.mem_filter, List.mem_filter, h.isAnnotated]
  refine and_congr_left fun _ => ?_
  rw [ids, ids, List.mem_range, List.mem_range]
  show σ id < m'.size ↔ id < m.size
  rw [h.size, h.lt_size_iff]

theorem annotatedWith_perm (mark : String) :
    (m'.annotatedWith mark).Perm ((m.annotatedWith mark).map σ) := by
  rw [List.perm_ext_iff_of_nodup (Collection.nodup_annotatedWith _ _)
    ((Collection.nodup_annotatedWith _ _).map σ.injective)]
  intro x
  obtain ⟨id, rfl⟩ := σ.surjective x
  rw [h.mem_annotatedWith, List.mem_map_of_injective σ.injective]

/-- The annotated members of a class are moved in order. -/
theorem membersAmong (hkind : (m.element owner).kind = .classType) (mark : String) :
    m'.membersAmong (m'.annotatedWith mark) (σ owner) =
      (m.membersAmong (m.annotatedWith mark) owner).map σ := by
  rw [membersAmong_annotatedWith, membersAmong_annotatedWith, h.enclosed hkind, List.filter_map]
  simp only [Function.comp_def, h.isAnnotated]

/-! ### What is known of a member's accessors -/

theorem qualifiedName (owner : ElementId) :
    m'.qualifiedName (σ owner) = m.qualifiedName owner := by
  rw [Model.qualifiedName, Model.qualifiedName, (h.looksLike .sqlite).packageOf, h.element_eq]
  rfl

theorem hasDistinctKeys (hkeys : m.HasDistinctKeys b) : m'.HasDistinctKeys b := by
  intro x hx y hy hname
  obtain ⟨id, rfl⟩ := σ.surjective x
  obtain ⟨id', rfl⟩ := σ.surjective y
  rw [h.qualifiedName, h.qualifiedName] at hname
  rw [hkeys id (h.mem_annotatedWith.1 hx) id' (h.mem_annotatedWith.1 hy) hname]

theorem isHidden (id : ElementId) :
    m'.isHidden b.vocabulary (σ id) = m.isHidden b.vocabulary id := by
  rw [Model.isHidden, Model.isHidden, (h.looksLike b).enclosingClass?, Option.any_map,
    h.element_eq]
  simp only [h.isAnnotated]
  rfl

theorem accessorFor? {accessorOf? accessorOf?' : ElementId → Option String}
    (hsame : ∀ id owner, m.enclosingClass? id = some owner →
      accessorOf?' (σ id) = accessorOf? id) (key : AccessorKey) (id : ElementId) :
    m'.accessorFor? b.vocabulary accessorOf?' key (σ id) =
      m.accessorFor? b.vocabulary accessorOf? key id := by
  rw [Model.accessorFor?, Model.accessorFor?, h.isHidden, (h.looksLike b).accessorKey]
  by_cases hhidden : m.isHidden b.vocabulary id = true
  · obtain ⟨⟨owner, howner, -⟩, -⟩ := isHidden_iff.1 hhidden
    rw [hsame id owner howner]
  · simp [hhidden]

/-- The members up to one of them and of its class are moved with it. -/
theorem membersAmong_membersUpTo (howner : m.enclosingClass? id = some owner) :
    m'.membersAmong (m'.membersUpTo b (σ id)) (σ owner) =
      (m.membersAmong (m.membersUpTo b id) owner).map σ := by
  obtain ⟨-, hkind⟩ := enclosingClass?_eq_some howner
  have hswap : ∀ (m : Model) id owner, m.membersAmong (m.membersUpTo b id) owner =
      (m.membersAmong (m.annotatedWith b.vocabulary.column.qualified) owner).filter (· ≤ id) := by
    intro m id owner
    rw [Model.membersAmong, membersUpTo, Model.membersAmong, List.filter_filter,
      List.filter_filter]
    exact List.filter_congr fun x _ => Bool.and_comm _ _
  rw [hswap, hswap, h.membersAmong hkind, List.filter_map]
  refine congrArg _ (List.filter_congr fun x hx => ?_)
  have hx := enclosingClass?_of_enclosing (of_decide_eq_true (List.mem_filter.1 hx).2) hkind
  have hle : σ x ≤ σ id ↔ x ≤ id := by
    rw [← Nat.not_lt, ← Nat.not_lt, h.lt_iff howner hx]
  exact decide_eq_decide.2 hle

theorem firstAccessor? (hkeys : m.HasDistinctKeys b)
    {accessorOf? accessorOf?' : ElementId → Option String}
    (hsame : ∀ id owner, m.enclosingClass? id = some owner →
      accessorOf?' (σ id) = accessorOf? id)
    (howner : m.enclosingClass? id = some owner)
    (hannotated : (m.element owner).isAnnotated b.vocabulary.type.qualified = true) :
    m'.firstAccessor? b.vocabulary accessorOf?' (m'.membersUpTo b (σ id))
        (m'.accessorKey (σ id)) =
      m.firstAccessor? b.vocabulary accessorOf? (m.membersUpTo b id) (m.accessorKey id) := by
  have howner' : m'.enclosingClass? (σ id) = some (σ owner) := by
    rw [(h.looksLike b).enclosingClass?, howner]
    rfl
  rw [firstAccessor?_of_distinctKeys hkeys howner hannotated,
    firstAccessor?_of_distinctKeys (h.hasDistinctKeys hkeys) howner'
      ((h.isAnnotated owner).trans hannotated),
    h.membersAmong_membersUpTo howner, (h.looksLike b).accessorKey, Model.firstAccessor?,
    List.findSome?_map]
  exact congrArg (List.findSome? · _) (funext fun x => h.accessorFor? hsame _ x)

theorem knownGetter? (hkeys : m.HasDistinctKeys b) (howner : m.enclosingClass? id = some owner)
    (hannotated : (m.element owner).isAnnotated b.vocabulary.type.qualified = true) :
    m'.knownGetter? b (σ id) = m.knownGetter? b id :=
  h.firstAccessor? hkeys (fun _ _ => (h.looksLike b).getterOf?) howner hannotated

theorem knownSetter? (hkeys : m.HasDistinctKeys b) (howner : m.enclosingClass? id = some owner)
    (hannotated : (m.element owner).isAnnotated b.vocabulary.type.qualified = true) :
    m'.knownSetter? b (σ id) = m.knownSetter? b id :=
  h.firstAccessor? hkeys (fun _ _ => (h.looksLike b).setterOf?) howner hannotated

/-! ### What a member is read as -/

/-- A member of an annotated class is read in its place as what it is read as on the other model. -/
theorem readInPlace (hkeys : m.HasDistinctKeys b)
    (hmember : id ∈ m.annotatedWith b.vocabulary.column.qualified)
    (howner : m.enclosingClass? id = some owner)
    (hannotated : (m.element owner).isAnnotated b.vocabulary.type.qualified = true)
    (hreads : m.ReadsAll b .empty (m.membersBefore b id))
    (hreads' : m'.ReadsAll b .empty (m'.membersBefore b (σ id))) :
    m'.readInPlace b (σ id) = moveFault σ ((m.readInPlace b id).map (·.moved σ)) := by
  have hlike := h.looksLike b
  have hpass := passesOver_eq_false (enclosingClass?_eq_some howner).1 hannotated
  have hgetter := h.knownGetter? hkeys howner hannotated
  have hsetter := h.knownSetter? hkeys howner hannotated
  rw [Model.knownGetter?, Model.knownGetter?, membersUpTo_eq_concat hmember,
    membersUpTo_eq_concat (h.mem_annotatedWith.2 hmember)] at hgetter
  rw [Model.knownSetter?, Model.knownSetter?, membersUpTo_eq_concat hmember,
    membersUpTo_eq_concat (h.mem_annotatedWith.2 hmember)] at hsetter
  rw [Model.readInPlace, Model.readInPlace, ← hlike.readColumn _ hpass]
  -- the members before it leave the same under its key
  refine readColumn_congr ?_ fun hcheck hcheck' => ?_
  · rw [getter?_checkColumn, hgetter, hlike.checkColumn, hlike.getter?, getter?_checkColumn]
    rfl
  · rw [hlike.checkColumn] at hcheck'
    rw [setter?_checkColumn hreads' hcheck, hsetter, hlike.checkColumn, hlike.setter?,
      setter?_checkColumn hreads (moveFault_eq_ok_iff.1 hcheck')]
    rfl

theorem readsAll (hkeys : m.HasDistinctKeys b)
    (hreads : m.ReadsAll b .empty (m.annotatedWith b.vocabulary.column.qualified)) :
    m'.ReadsAll b .empty (m'.annotatedWith b.vocabulary.column.qualified) := by
  refine readsAll_of_inPlace fun x hx hbefore => ?_
  obtain ⟨id, rfl⟩ := σ.surjective x
  have hmember := h.mem_annotatedWith.1 hx
  obtain ⟨hbefore', hpass | ⟨c, hread⟩⟩ := inPlace_of_readsAll hreads hmember
  · exact .inl (((h.looksLike b).passesOver id).trans hpass)
  · obtain ⟨-, howner, hannotated⟩ := owner_of_readColumn hread
    refine .inr ⟨c.moved σ, ?_⟩
    rw [h.readInPlace hkeys hmember howner hannotated hbefore' hbefore, hread]
    rfl

/-- The columns of a class are those of the other model. -/
theorem columnsOf (hkeys : m.HasDistinctKeys b)
    (hreads : m.ReadsAll b .empty (m.annotatedWith b.vocabulary.column.qualified))
    (hkind : (m.element owner).kind = .classType)
    (hannotated : (m.element owner).isAnnotated b.vocabulary.type.qualified = true) :
    m'.columnsOf b .empty (m'.annotatedWith b.vocabulary.column.qualified) (σ owner) =
      (m.columnsOf b .empty (m.annotatedWith b.vocabulary.column.qualified) owner).map
        (·.moved σ) := by
  rw [columnsOf_eq_filterMap, columnsOf_eq_filterMap, h.membersAmong hkind, List.filterMap_map,
    List.map_filterMap]
  refine List.filterMap_congr fun id hid => ?_
  obtain ⟨hmember, henclosing⟩ := List.mem_filter.1 hid
  have howner := enclosingClass?_of_enclosing (of_decide_eq_true henclosing) hkind
  have hread := h.readInPlace hkeys hmember howner hannotated
    (inPlace_of_readsAll hreads hmember).1
    (inPlace_of_readsAll (h.readsAll hkeys hreads) (h.mem_annotatedWith.2 hmember)).1
  rw [Function.comp_apply, hread]
  cases m.readInPlace b id <;> rfl

/-! ### What is collected -/

theorem readable (hkeys : m.HasDistinctKeys b) (hread : m.Readable b .empty) :
    m'.Readable b .empty where
  classes x hx := by
    obtain ⟨id, rfl⟩ := σ.surjective x
    obtain ⟨hclass, config, hconfig⟩ := hread.classes id (h.mem_annotatedWith.1 hx)
    rw [(h.looksLike b).checkClass, (h.looksLike b).config, hclass, hconfig]
    exact ⟨rfl, config, rfl⟩
  members := h.readsAll hkeys hread.members
  creators x hx := by
    obtain ⟨id, rfl⟩ := σ.surjective x
    rw [(h.looksLike b).checkCreator, hread.creators id (h.mem_annotatedWith.1 hx)]
    rfl

theorem consistent (hkeys : m.HasDistinctKeys b) (hread : m.Readable b .empty)
    (howner : owner ∈ m.annotatedWith b.vocabulary.type.qualified)
    (hconsistent : m.Consistent b .empty owner) : m'.Consistent b .empty (σ owner) where
  columns := by
    have hkind := kind_of_checkClass (hread.classes owner howner).1
    rw [(h.looksLike b).has, h.columnsOf hkeys hread.members hkind
      (Collection.mem_annotatedWith_iff.1 howner)]
    exact hconsistent.columns.moved σ
  creators := by
    have hkind := kind_of_checkClass (hread.classes owner howner).1
    rw [h.membersAmong hkind, List.length_map]
    exact hconsistent.creators

/-- A model is collected if the other one is. -/
theorem collects (hkeys : m.HasDistinctKeys b) {nonNull : ClassName}
    (hcollect : (m.collect b nonNull .empty).1 = .ok ()) :
    (m'.collect b nonNull .empty).1 = .ok () := by
  obtain ⟨hread, hconsistent⟩ := readable_of_collect (Prod.ext hcollect rfl)
  refine collect_of_readable (h.readable hkeys hread) fun x hx => ?_
  obtain ⟨owner, rfl⟩ := σ.surjective x
  have howner := h.mem_annotatedWith.1 hx
  exact h.consistent hkeys hread howner (hconsistent owner howner)

/-- What is collected of a class is what is collected of it on the other model. -/
theorem exact_moved (hkeys : m.HasDistinctKeys b) {nonNull : ClassName}
    (hread : m.Readable b .empty) {e e' : Entity} (he : e.Exact m b nonNull .empty)
    (he' : e'.Exact m' b nonNull .empty) (helement : e'.element = σ e.element)
    (howner : e.element ∈ m.annotatedWith b.vocabulary.type.qualified) : e' = e.moved σ := by
  have hkind := kind_of_checkClass (hread.classes _ howner).1
  have hcolumns : e'.columns = e.columns.map (·.moved σ) := by
    rw [he'.columns, he.columns, helement, h.columnsOf hkeys hread.members hkind
      (Collection.mem_annotatedWith_iff.1 howner)]
  have hcreator : e'.creator = e.creator.map (·.moved σ) := by
    have hlist : e'.creator.toList = (e.creator.map (·.moved σ)).toList := by
      rw [he'.creator, helement, h.membersAmong hkind, Option.toList_map, he.creator, List.map_map,
        List.map_map]
      exact List.map_congr_left fun id _ => (h.looksLike b).creator id
    rw [← @Option.head?_toList _ e'.creator, hlist, Option.head?_toList]
  have hby : e'.byCreator = e.byCreator := by
    rw [Bool.eq_iff_iff, he'.byCreator, he.byCreator, helement, (h.looksLike b).has, hcolumns]
    simp only [List.mem_map, exists_exists_and_eq_and]
    rfl
  obtain ⟨bare, hbare, hofClass⟩ := he.ofClass
  obtain ⟨bare', hbare', hofClass'⟩ := he'.ofClass
  rw [helement, (h.looksLike b).entity, hbare] at hbare'
  cases hbare'
  calc e' = { bare.moved σ with
              columns := e'.columns, byCreator := e'.byCreator, creator := e'.creator } := hofClass'
    _ = ({ bare with
            columns := e.columns, byCreator := e.byCreator, creator := e.creator } :
          Entity).moved σ := by
      rw [hcolumns, hby, hcreator]
      rfl
    _ = e.moved σ := congrArg (Entity.moved σ) hofClass.symm

/-- What is collected of one model is what is collected of the other one, with its elements moved. -/
theorem mem_entities_iff (hkeys : m.HasDistinctKeys b) {nonNull : ClassName} {c c' : Collection}
    (hcollect : m.collect b nonNull .empty = (.ok (), c))
    (hcollect' : m'.collect b nonNull .empty = (.ok (), c')) (e' : Entity) :
    e' ∈ c'.entities ↔ ∃ e ∈ c.entities, e.moved σ = e' := by
  have hread := (readable_of_collect hcollect).1
  have hc := (collect_gathers hcollect).exact
  have hc' := (collect_gathers hcollect').exact
  have hmoved : ∀ e ∈ c.entities, ∀ e' ∈ c'.entities, e'.element = σ e.element →
      e.moved σ = e' := by
    intro e he e' he' helement
    have howner : e.element ∈ m.annotatedWith b.vocabulary.type.qualified :=
      hc.classes ▸ List.mem_map_of_mem he
    exact (h.exact_moved hkeys hread (hc.entities e he) (hc'.entities e' he') helement howner).symm
  constructor
  · intro he'
    obtain ⟨id, hid⟩ := σ.surjective e'.element
    have howner' : σ id ∈ m'.annotatedWith b.vocabulary.type.qualified := by
      rw [hid, ← hc'.classes]
      exact List.mem_map_of_mem he'
    have howner := h.mem_annotatedWith.1 howner'
    rw [← hc.classes] at howner
    obtain ⟨e, he, rfl⟩ := List.mem_map.1 howner
    exact ⟨e, he, hmoved e he e' he' hid.symm⟩
  · rintro ⟨e, he, rfl⟩
    have howner : e.element ∈ m.annotatedWith b.vocabulary.type.qualified :=
      hc.classes ▸ List.mem_map_of_mem he
    have howner' := h.mem_annotatedWith.2 howner
    rw [← hc'.classes] at howner'
    obtain ⟨e', he', helement⟩ := List.mem_map.1 howner'
    rw [hmoved e he e' he' helement]
    exact he'

theorem length_passedOver :
    ((m'.annotatedWith b.vocabulary.column.qualified).filter
        (m'.passesOver b.vocabulary)).length =
      ((m.annotatedWith b.vocabulary.column.qualified).filter
        (m.passesOver b.vocabulary)).length := by
  rw [((h.annotatedWith_perm _).filter _).length_eq, List.filter_map, List.length_map]
  exact congrArg _ (List.filter_congr fun id _ => (h.looksLike b).passesOver id)

end Renumbers

end Model

end ResolverGen
