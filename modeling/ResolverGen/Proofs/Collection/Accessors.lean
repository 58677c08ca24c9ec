/-
Which accessors are known, and which a column has.

Only a private field of an annotated class has accessors looked for (`isHidden`), and what has been
found is kept by the name of the class and the name and type of the field. `firstAccessor?` is the
first accessor that some members find for such a key, so the accessors known after some members are
those known before or else the first ones found (`lookup_getters_accessorsAfter`,
`lookup_setters_accessorsAfter`).

A member takes what is known under its key, whatever it is itself. `accessors_of_collect` says what a
collected column has for that reason, and that it has its own accessors unless a private field before
it goes by the same key.
-/
import ResolverGen.Proofs.Collection.Contents
import ResolverGen.Proofs.Collection.Serving

namespace ResolverGen

/-- A name that is entered is found under its key unless another one is there. -/
theorem AccessorTable.lookup_resolve_eq (t : AccessorTable) (key other : AccessorKey)
    (found : Option String) :
    (t.resolve key found).2.lookup other =
      (t.lookup other).or (if key = other then found else none) := by
  unfold resolve
  by_cases hkey : key = other
  · subst hkey
    rw [if_pos rfl]
    cases ht : t.lookup key with
    | some name => exact ht
    | none =>
      cases found with
      | none => exact ht
      | some name => simp
  · have hbeq : (other == key) = false := by simpa using Ne.symm hkey
    rw [if_neg hkey, Option.or_none]
    cases t.lookup key with
    | some name => rfl
    | none =>
      cases found with
      | none => rfl
      | some name => simp [List.lookup_cons, hbeq]

/-- Whether a name is there in the end is what `resolve` tells. -/
theorem AccessorTable.resolve_fst (t : AccessorTable) (key : AccessorKey)
    (found : Option String) :
    (t.resolve key found).1 = ((t.resolve key found).2.lookup key).isSome := by
  unfold resolve
  cases ht : t.lookup key with
  | some name => simp [ht]
  | none => cases found <;> simp [ht]

namespace Model

variable {m : Model} {b : Backend} {v : Vocabulary} {a a' known : Accessors}
  {id : ElementId} {key : AccessorKey} {name : String}

/-- The name of a class with its package, as accessors are kept by it. -/
def qualifiedName (m : Model) (id : ElementId) : String :=
  m.packageOf id ++ "." ++ (m.element id).name

/-- Whether an element is a private field of an annotated class. -/
def isHidden (m : Model) (v : Vocabulary) (id : ElementId) : Bool :=
  ((m.enclosingClass? id).any fun owner => (m.element owner).isAnnotated v.type.qualified) &&
    (m.element id).has .privateAccess && (m.element id).kind = .field

/-- What an element finds for a key. -/
def accessorFor? (m : Model) (v : Vocabulary) (accessorOf? : ElementId → Option String)
    (key : AccessorKey) (id : ElementId) : Option String :=
  if m.isHidden v id = true ∧ m.accessorKey id = key then accessorOf? id else none

theorem accessorFor?_eq_some_iff {accessorOf? : ElementId → Option String} :
    m.accessorFor? v accessorOf? key id = some name ↔
      m.isHidden v id = true ∧ m.accessorKey id = key ∧ accessorOf? id = some name := by
  unfold accessorFor?
  split
  · next h => simp [h.1, h.2]
  · next h =>
    simp only [reduceCtorEq, false_iff]
    exact fun hall => h ⟨hall.1, hall.2.1⟩

/-- The first accessor that some elements find for a key. -/
def firstAccessor? (m : Model) (v : Vocabulary) (accessorOf? : ElementId → Option String)
    (ids : List ElementId) (key : AccessorKey) : Option String :=
  ids.findSome? (m.accessorFor? v accessorOf? key)

theorem className_accessorKey {owner : ElementId} (h : (m.element id).enclosing = some owner) :
    (m.accessorKey id).className = m.qualifiedName owner := by
  rw [accessorKey, h]
  rfl

/-! ### Checking one member -/

theorem isHidden_iff : m.isHidden v id = true ↔
    (∃ owner, m.enclosingClass? id = some owner ∧
      (m.element owner).isAnnotated v.type.qualified = true) ∧
    (m.element id).has .privateAccess = true ∧ (m.element id).kind = .field := by
  simp only [isHidden, Bool.and_eq_true, decide_eq_true_eq, Option.any_eq_true, and_assoc]

theorem isHidden_eq_false (h : (m.element id).kind ≠ .field ∨
    (m.element id).has .privateAccess = false) : m.isHidden v id = false := by
  by_contra hhidden
  obtain ⟨-, hprivate, hkind⟩ := isHidden_iff.1 (by simpa using hhidden)
  rcases h with h | h
  · exact h hkind
  · rw [hprivate] at h
    cases h

theorem checkOwner_of_owner {owner : ElementId} (howner : m.enclosingClass? id = some owner)
    (hannotated : (m.element owner).isAnnotated v.type.qualified = true) :
    m.checkOwner v id = .ok () := by
  unfold checkOwner
  rw [howner]
  exact if_pos hannotated

theorem checkColumn_of_isHidden (h : m.isHidden v id = true) :
    m.checkColumn v a id =
      match a.learnGetter m id with
      | (false, a) =>
        (.error (.on id (.noGetter v.column.simple (m.element id).name)), a)
      | (true, a) => (m.checkShape v (a.learnSetter m id).2 id, (a.learnSetter m id).2) := by
  obtain ⟨⟨owner, howner, hannotated⟩, hprivate, hkind⟩ := isHidden_iff.1 h
  unfold checkColumn
  rw [checkOwner_of_owner howner hannotated]
  simp only [hprivate, hkind]
  rfl

/-- Every other member leaves the accessors as they are. -/
theorem checkColumn_of_not_isHidden (h : m.isHidden v id = false) :
    m.checkColumn v a id =
      (m.checkOwner v id >>= fun _ =>
        if (m.element id).has .privateAccess then
          .error (.on id (.privateMethod v.column.simple (m.element id).name))
        else m.checkShape v a id, a) := by
  unfold checkColumn
  cases hown : m.checkOwner v id with
  | error f => rfl
  | ok =>
    cases hprivate : (m.element id).has .privateAccess with
    | false =>
      simp only [hprivate]
      rfl
    | true =>
      have hkind : (m.element id).kind ≠ .field := by
        intro hkind
        rw [isHidden_iff.2 ⟨checkOwner_ok hown, hprivate, hkind⟩] at h
        cases h
      simp only [hprivate, if_pos hkind]
      rfl

theorem getters_checkColumn (h : m.isHidden v id = true) :
    (m.checkColumn v a id).2.getters =
      (a.getters.resolve (m.accessorKey id) (m.getterOf? id)).2 := by
  rw [checkColumn_of_isHidden h]
  unfold Accessors.learnGetter
  cases a.getters.resolve (m.accessorKey id) (m.getterOf? id) with
  | mk found getters => cases found <;> rfl

/-- The setter is looked for where there is a getter. -/
theorem setters_checkColumn (h : m.isHidden v id = true) :
    (m.checkColumn v a id).2.setters =
      if (a.learnGetter m id).1 = true then
        (a.setters.resolve (m.accessorKey id) (m.setterOf? id)).2
      else a.setters := by
  rw [checkColumn_of_isHidden h]
  unfold Accessors.learnGetter
  cases a.getters.resolve (m.accessorKey id) (m.getterOf? id) with
  | mk found getters => cases found <;> rfl

/-- Whether a private field passes depends on what is known of its getter in the end. -/
theorem checkColumn_fst_of_isHidden (h : m.isHidden v id = true) :
    (m.checkColumn v a id).1 =
      if ((m.checkColumn v a id).2.getter? m id).isSome then
        m.checkShape v (m.checkColumn v a id).2 id
      else .error (.on id (.noGetter v.column.simple (m.element id).name)) := by
  have hfound : (a.learnGetter m id).1 = ((a.learnGetter m id).2.getter? m id).isSome :=
    AccessorTable.resolve_fst _ _ _
  rw [checkColumn_of_isHidden h]
  cases hlearn : a.learnGetter m id with
  | mk found known =>
    rw [hlearn] at hfound
    cases found with
    | true => exact (if_pos hfound.symm).symm
    | false => exact (if_neg (by rw [← hfound]; exact Bool.false_ne_true)).symm

theorem lookup_getters_checkColumn (v : Vocabulary) (a : Accessors) (id : ElementId)
    (key : AccessorKey) :
    (m.checkColumn v a id).2.getters.lookup key =
      (a.getters.lookup key).or (m.accessorFor? v m.getterOf? key id) := by
  unfold accessorFor?
  cases hhidden : m.isHidden v id with
  | true => simp [getters_checkColumn hhidden, AccessorTable.lookup_resolve_eq]
  | false => simp [checkColumn_of_not_isHidden hhidden]

theorem lookup_setters_of_checkColumn
    (h : (m.checkColumn v a id).2.setters.lookup key = some name) :
    a.setters.lookup key = some name ∨ m.accessorFor? v m.setterOf? key id = some name := by
  cases hhidden : m.isHidden v id with
  | true =>
    rw [setters_checkColumn hhidden] at h
    split at h
    · rw [AccessorTable.lookup_resolve_eq, Option.or_eq_some_iff] at h
      exact h.imp_right fun hfound => by simpa [accessorFor?, hhidden] using hfound.2
    · exact .inl h
  | false =>
    rw [checkColumn_of_not_isHidden hhidden] at h
    exact .inl h

/-- A member that passes its checks has had its setter looked for. -/
theorem lookup_setters_checkColumn (h : (m.checkColumn v a id).1 = .ok ()) (key : AccessorKey) :
    (m.checkColumn v a id).2.setters.lookup key =
      (a.setters.lookup key).or (m.accessorFor? v m.setterOf? key id) := by
  unfold accessorFor?
  cases hhidden : m.isHidden v id with
  | true =>
    have hgetter : (a.learnGetter m id).1 = true := by
      rw [checkColumn_of_isHidden hhidden] at h
      cases hlearn : a.learnGetter m id with
      | mk found known =>
        rw [hlearn] at h
        cases found with
        | true => rfl
        | false => cases h
    simp [setters_checkColumn hhidden, hgetter, AccessorTable.lookup_resolve_eq]
  | false => simp [checkColumn_of_not_isHidden hhidden]

/-! ### What a member is read as -/

theorem checkShape_congr (h : a.getter? m id = a'.getter? m id) :
    m.checkShape v a id = m.checkShape v a' id := by
  unfold checkShape
  rw [h]

theorem column_congr (hgetter : a.getter? m id = a'.getter? m id)
    (hsetter : a.setter? m id = a'.setter? m id) (p : ColumnSpec) :
    m.column v a id p = m.column v a' id p := by
  unfold column
  rw [hgetter, hsetter]

/-- What is known of a getter in the end decides whether a member passes. -/
theorem checkColumn_congr
    (h : (m.checkColumn v a id).2.getter? m id = (m.checkColumn v a' id).2.getter? m id) :
    (m.checkColumn v a id).1 = (m.checkColumn v a' id).1 := by
  cases hhidden : m.isHidden v id with
  | true =>
    rw [checkColumn_fst_of_isHidden hhidden, checkColumn_fst_of_isHidden hhidden, h,
      checkShape_congr h]
  | false =>
    rw [checkColumn_of_not_isHidden hhidden, checkColumn_of_not_isHidden hhidden] at h ⊢
    rw [checkShape_congr h]

theorem readColumn_congr
    (hgetter : (m.checkColumn b.vocabulary a id).2.getter? m id =
      (m.checkColumn b.vocabulary a' id).2.getter? m id)
    (hsetter : (m.checkColumn b.vocabulary a id).1 = .ok () →
      (m.checkColumn b.vocabulary a' id).1 = .ok () →
      (m.checkColumn b.vocabulary a id).2.setter? m id =
        (m.checkColumn b.vocabulary a' id).2.setter? m id) :
    m.readColumn b a id = m.readColumn b a' id := by
  have hcheck := checkColumn_congr hgetter
  rw [readColumn_eq, readColumn_eq, ← hcheck]
  cases hpass : (m.checkColumn b.vocabulary a id).1 with
  | error f => rfl
  | ok =>
    have hcolumn : ∀ p, m.column b.vocabulary (m.checkColumn b.vocabulary a id).2 id p =
        m.column b.vocabulary (m.checkColumn b.vocabulary a' id).2 id p :=
      column_congr hgetter (hsetter hpass (hcheck.symm.trans hpass))
    simp only [hcolumn]

/-! ### Checking some members -/

theorem firstAccessor?_cons (accessorOf? : ElementId → Option String) (ids : List ElementId) :
    m.firstAccessor? v accessorOf? (id :: ids) key =
      (m.accessorFor? v accessorOf? key id).or (m.firstAccessor? v accessorOf? ids key) := by
  unfold firstAccessor?
  rw [List.findSome?_cons]
  cases m.accessorFor? v accessorOf? key id <;> rfl

theorem firstAccessor?_concat (accessorOf? : ElementId → Option String) (ids : List ElementId) :
    m.firstAccessor? v accessorOf? (ids ++ [id]) key =
      (m.firstAccessor? v accessorOf? ids key).or (m.accessorFor? v accessorOf? key id) := by
  unfold firstAccessor?
  rw [List.findSome?_append, List.findSome?_cons]
  cases m.accessorFor? v accessorOf? key id <;> rfl

theorem lookup_getters_accessorsAfter (known : Accessors) (ids : List ElementId)
    (key : AccessorKey) :
    (m.accessorsAfter b known ids).getters.lookup key =
      (known.getters.lookup key).or (m.firstAccessor? b.vocabulary m.getterOf? ids key) := by
  induction ids generalizing known with
  | nil => exact (Option.or_none).symm
  | cons id ids ih =>
    show (m.accessorsAfter b (m.checkColumn b.vocabulary known id).2 ids).getters.lookup key = _
    rw [ih, lookup_getters_checkColumn, firstAccessor?_cons, Option.or_assoc]

theorem lookup_setters_accessorsAfter {ids : List ElementId} (h : m.ReadsAll b known ids)
    (key : AccessorKey) :
    (m.accessorsAfter b known ids).setters.lookup key =
      (known.setters.lookup key).or (m.firstAccessor? b.vocabulary m.setterOf? ids key) := by
  induction ids generalizing known with
  | nil => exact (Option.or_none).symm
  | cons id ids ih =>
    obtain ⟨hfirst, hrest⟩ := h
    have hid : (m.checkColumn b.vocabulary known id).2.setters.lookup key =
        (known.setters.lookup key).or (m.accessorFor? b.vocabulary m.setterOf? key id) := by
      rcases hfirst with hpass | ⟨c, hread⟩
      · -- a member that is passed over does not belong to an annotated class
        have hhidden : m.isHidden b.vocabulary id = false := by
          by_contra hhidden
          obtain ⟨⟨owner, howner, hannotated⟩, -⟩ := isHidden_iff.1 (by simpa using hhidden)
          rw [passesOver_eq_false (enclosingClass?_eq_some howner).1 hannotated] at hpass
          cases hpass
        simp [checkColumn_of_not_isHidden hhidden, accessorFor?, hhidden]
      · obtain ⟨p, hcheck, -, -⟩ := readColumn_ok hread
        exact lookup_setters_checkColumn hcheck key
    show (m.accessorsAfter b (m.checkColumn b.vocabulary known id).2 ids).setters.lookup key = _
    rw [ih hrest, hid, firstAccessor?_cons, Option.or_assoc]

/-! ### The accessors of a column -/

/-- Once a member has been checked, its key gives the getter that was known at first, or else the first
one that the members up to it find. -/
theorem getter?_checkColumn (known : Accessors) (before : List ElementId) (id : ElementId) :
    (m.checkColumn b.vocabulary (m.accessorsAfter b known before) id).2.getter? m id =
      (known.getters.lookup (m.accessorKey id)).or
        (m.firstAccessor? b.vocabulary m.getterOf? (before ++ [id]) (m.accessorKey id)) := by
  rw [firstAccessor?_concat, ← Option.or_assoc, ← lookup_getters_accessorsAfter]
  exact lookup_getters_checkColumn _ _ _ _

theorem setter?_checkColumn {before : List ElementId} (h : m.ReadsAll b known before)
    (hcheck : (m.checkColumn b.vocabulary (m.accessorsAfter b known before) id).1 = .ok ()) :
    (m.checkColumn b.vocabulary (m.accessorsAfter b known before) id).2.setter? m id =
      (known.setters.lookup (m.accessorKey id)).or
        (m.firstAccessor? b.vocabulary m.setterOf? (before ++ [id]) (m.accessorKey id)) := by
  rw [firstAccessor?_concat, ← Option.or_assoc, ← lookup_setters_accessorsAfter h]
  exact lookup_setters_checkColumn hcheck _

/-- A column has the accessors that its key gives. -/
theorem accessors_of_readColumn {before : List ElementId} {c : Column}
    (h : m.ReadsAll b known before)
    (hread : m.readColumn b (m.accessorsAfter b known before) id = .ok c) :
    c.getter = (known.getters.lookup (m.accessorKey id)).or
        (m.firstAccessor? b.vocabulary m.getterOf? (before ++ [id]) (m.accessorKey id)) ∧
      c.setter = (known.setters.lookup (m.accessorKey id)).or
        (m.firstAccessor? b.vocabulary m.setterOf? (before ++ [id]) (m.accessorKey id)) := by
  obtain ⟨p, hcheck, -, hcolumn⟩ := readColumn_ok hread
  obtain ⟨type, -, -, -, -, rfl⟩ := column_ok hcolumn
  exact ⟨getter?_checkColumn known before id, setter?_checkColumn h hcheck⟩

/-- The members up to one of them. -/
def membersUpTo (m : Model) (b : Backend) (id : ElementId) : List ElementId :=
  (m.annotatedWith b.vocabulary.column.qualified).filter (· ≤ id)

theorem membersUpTo_eq {before after : List ElementId}
    (h : m.annotatedWith b.vocabulary.column.qualified = before ++ id :: after) :
    m.membersUpTo b id = before ++ [id] := by
  have hsorted : (m.annotatedWith b.vocabulary.column.qualified).Pairwise (· < ·) :=
    List.pairwise_lt_range.filter _
  rw [h, List.pairwise_append, List.pairwise_cons] at hsorted
  obtain ⟨-, ⟨hafter, -⟩, hbefore⟩ := hsorted
  rw [membersUpTo, h, List.filter_append, List.filter_cons_of_pos (by simp)]
  congr 1
  · rw [List.filter_eq_self]
    intro x hx
    exact decide_eq_true (Nat.le_of_lt (hbefore x hx id List.mem_cons_self))
  · congr 1
    rw [List.filter_eq_nil_iff]
    intro x hx
    have := hafter x hx
    simpa using this

/-- The getter that a new processor knows under the key of a member once it has been checked. -/
def knownGetter? (m : Model) (b : Backend) (id : ElementId) : Option String :=
  m.firstAccessor? b.vocabulary m.getterOf? (m.membersUpTo b id) (m.accessorKey id)

/-- The setter that a new processor knows under the key of a member once it has been checked. -/
def knownSetter? (m : Model) (b : Backend) (id : ElementId) : Option String :=
  m.firstAccessor? b.vocabulary m.setterOf? (m.membersUpTo b id) (m.accessorKey id)

/-- Whether no private field before a member goes by its key. -/
def KeyIsFree (m : Model) (b : Backend) (id : ElementId) : Prop :=
  ∀ other ∈ m.membersUpTo b id, m.isHidden b.vocabulary other = true →
    m.accessorKey other = m.accessorKey id → other = id

theorem firstAccessor?_of_keyIsFree {before after : List ElementId}
    (hall : m.annotatedWith b.vocabulary.column.qualified = before ++ id :: after)
    (hfree : m.KeyIsFree b id) (accessorOf? : ElementId → Option String) :
    m.firstAccessor? b.vocabulary accessorOf? (m.membersUpTo b id) (m.accessorKey id) =
      if m.isHidden b.vocabulary id = true then accessorOf? id else none := by
  -- a member before it with its key would be the member itself, which is listed once
  have hnodup : id ∉ before := by
    have hids := Collection.nodup_annotatedWith m b.vocabulary.column.qualified
    rw [hall, List.nodup_append] at hids
    exact fun hid => hids.2.2 id hid id List.mem_cons_self rfl
  have hupTo := membersUpTo_eq hall
  have hbefore : before.findSome? (m.accessorFor? b.vocabulary accessorOf? (m.accessorKey id)) =
      none := by
    rw [List.findSome?_eq_none_iff]
    intro other hother
    refine if_neg fun ⟨hhidden, hkey⟩ => hnodup ?_
    rw [← hfree other (by rw [hupTo]; exact List.mem_append_left _ hother) hhidden hkey]
    exact hother
  rw [hupTo, firstAccessor?_concat, firstAccessor?, hbefore, Option.none_or]
  simp [accessorFor?]

end Model

/-- Whether a column has accessors of its own: a private field the last members that serve for it, and
every other member none. -/
structure Column.HasOwnAccessors (m : Model) (c : Column) : Prop where
  hidden : (m.element c.element).kind = .field → (m.element c.element).has .privateAccess = true →
    m.Finds c.element (·.ServesAsGetter (m.element c.element)) c.getter ∧
      m.Finds c.element (·.ServesAsSetter (m.element c.element)) c.setter
  visible : (m.element c.element).kind ≠ .field ∨
      (m.element c.element).has .privateAccess = false →
    c.getter = none ∧ c.setter = none
  called : (m.element c.element).kind = .method →
    c.access = .call (m.element c.element).name

namespace Model

variable {m : Model} {b : Backend} {nonNull : Code.ClassName} {known : Accessors}

/-- A collected column is what its member is read as after the members before it. -/
theorem exists_readColumn_of_collect {e : Entity} {c : Column}
    (he : e ∈ (m.collect b nonNull known).2.entities) (hc : c ∈ e.columns) :
    ∃ before after,
      m.annotatedWith b.vocabulary.column.qualified = before ++ c.element :: after ∧
      m.ReadsAll b known before ∧
      m.readColumn b (m.accessorsAfter b known before) c.element = .ok c := by
  obtain ⟨done, ⟨rest, hdone⟩, hreads, hstores⟩ :
      ∃ done, done <+: m.annotatedWith b.vocabulary.column.qualified ∧
        m.ReadsAll b known done ∧
        (m.collect b nonNull known).2.StoresAmong (m.columnsFrom b known done) :=
    columns_of_collect
  obtain ⟨before, id, after, rfl, hread⟩ := exists_of_mem_columnsFrom (hstores e he c hc)
  have helement := (owner_of_readColumn hread).1
  subst helement
  refine ⟨before, after ++ rest, ?_, ((readsAll_append _ _).1 hreads).1, hread⟩
  rw [← hdone, List.append_assoc]
  rfl

/-- A column that stands for a method is called by its name unless it has a getter. -/
theorem access_of_readColumn {id : ElementId} {c : Column} (h : m.readColumn b known id = .ok c)
    (hmethod : (m.element id).kind = .method) (hgetter : c.getter = none) :
    c.access = .call (m.element id).name := by
  obtain ⟨p, -, -, hcolumn⟩ := readColumn_ok h
  obtain ⟨type, -, -, -, -, hc⟩ := column_ok hcolumn
  have hkind : c.kind = .method := by
    rw [hc]
    exact if_pos hmethod
  have hname : c.elementName = (m.element id).name := by rw [hc]
  rw [Column.access, hgetter]
  simp only [hkind, hname]

/-- A column that a new processor collects has the accessors that the members up to its own find
first for its key. These are its own unless a private field before it goes by the same key. -/
theorem accessors_of_collect {e : Entity} {c : Column}
    (he : e ∈ (m.collect b nonNull .empty).2.entities) (hc : c ∈ e.columns) :
    c.getter = m.knownGetter? b c.element ∧ c.setter = m.knownSetter? b c.element ∧
      (m.KeyIsFree b c.element → c.HasOwnAccessors m) := by
  obtain ⟨before, after, hall, hbefore, hread⟩ := exists_readColumn_of_collect he hc
  obtain ⟨-, howner, hannotated⟩ := owner_of_readColumn hread
  obtain ⟨hgetter, hsetter⟩ := accessors_of_readColumn hbefore hread
  have hgetter : c.getter = m.knownGetter? b c.element := by
    rw [hgetter, knownGetter?, membersUpTo_eq hall]
    rfl
  have hsetter : c.setter = m.knownSetter? b c.element := by
    rw [hsetter, knownSetter?, membersUpTo_eq hall]
    rfl
  refine ⟨hgetter, hsetter, fun hfree => ?_⟩
  -- nothing before the member is kept under its key, so what is known there is its own
  rw [knownGetter?, firstAccessor?_of_keyIsFree hall hfree] at hgetter
  rw [knownSetter?, firstAccessor?_of_keyIsFree hall hfree] at hsetter
  have hvisible : (m.element c.element).kind ≠ .field ∨
      (m.element c.element).has .privateAccess = false → c.getter = none ∧ c.setter = none := by
    intro h
    rw [hgetter, hsetter, isHidden_eq_false h]
    exact ⟨rfl, rfl⟩
  refine ⟨fun hkind hprivate => ?_, hvisible, fun hkind => ?_⟩
  · -- the class of a column is annotated, so its private fields are looked at
    have hhidden := isHidden_iff.2 ⟨⟨c.enclosing, howner, hannotated⟩, hprivate, hkind⟩
    rw [hgetter, hsetter, if_pos hhidden, if_pos hhidden]
    exact ⟨m.finds_getterOf? c.element, m.finds_setterOf? c.element⟩
  · have hnofield : (m.element c.element).kind ≠ .field := by simp [hkind]
    exact access_of_readColumn hread hkind (hvisible (.inl hnofield)).1

/-- A class with a private field and a method of its name, type and all, both of which are columns,
and a getter of the field. -/
def activeModel : Model :=
  ⟨[], [Element.ofKind .package "com.test",
    { Element.ofKind .classType "User" with
      enclosing := some 0
      annotations := [⟨"StorIOSQLiteType", some "table = \"users\""⟩] },
    { Element.ofKind .field "isActive" with
      enclosing := some 1
      type := some "boolean"
      modifiers := [.privateAccess, .final]
      annotations := [⟨"StorIOSQLiteColumn", some "name = \"a\", key = true"⟩] },
    { Element.ofKind .method "isActive" with
      enclosing := some 1
      type := some "boolean"
      annotations := [⟨"StorIOSQLiteColumn", some "name = \"b\""⟩] },
    { Element.ofKind .method "getIsActive" with
      enclosing := some 1
      type := some "boolean" },
    { Element.ofKind .constructor "<init>" with
      enclosing := some 1
      annotations := [⟨"StorIOSQLiteCreator", none⟩]
      parameters := [⟨"isActive", "boolean"⟩, ⟨"active", "boolean"⟩] }]⟩

/-- The column that the field gives. -/
def activeField : Column :=
  { enclosing := 1, element := 2, kind := .field, elementName := "isActive", type := .boolean
    name := "a", key := true, ignoreNull := false, version := 1, getter := some "getIsActive"
    setter := none, notNull := false }

/-- The column that the method gives. -/
def activeMethod : Column :=
  { enclosing := 1, element := 3, kind := .method, elementName := "isActive", type := .boolean
    name := "b", key := false, ignoreNull := false, version := 1, getter := some "getIsActive"
    setter := none, notNull := false }

theorem columns_activeModel :
    (activeModel.collect .sqlite ⟨"androidx.annotation", "NonNull"⟩ .empty).2.entities.map
      (·.columns) = [[activeField, activeMethod]] := by
  decide +kernel

/-- The field has its own accessors, and the method, which goes by its key, has them as well. -/
theorem accessors_activeModel :
    ∃ e ∈ (activeModel.collect .sqlite ⟨"androidx.annotation", "NonNull"⟩ .empty).2.entities,
      activeField ∈ e.columns ∧ activeMethod ∈ e.columns ∧
      activeMethod.access = .call "getIsActive" ∧
      activeModel.KeyIsFree .sqlite activeField.element ∧ activeField.HasOwnAccessors activeModel ∧
      activeMethod.getter = activeModel.knownGetter? .sqlite activeMethod.element := by
  obtain ⟨e, hentities, hcolumns⟩ := List.map_eq_singleton_iff.1 columns_activeModel
  have he : e ∈ (activeModel.collect .sqlite ⟨"androidx.annotation", "NonNull"⟩ .empty).2.entities
    := by
    rw [hentities]
    exact List.mem_singleton_self e
  have hfield : activeField ∈ e.columns := by rw [hcolumns]; simp
  have hmethod : activeMethod ∈ e.columns := by rw [hcolumns]; simp
  have hfree : activeModel.KeyIsFree .sqlite activeField.element := by
    unfold KeyIsFree
    decide +kernel
  exact ⟨e, he, hfield, hmethod, rfl, hfree, (accessors_of_collect he hfield).2.2 hfree,
    (accessors_of_collect he hmethod).1⟩

end Model

end ResolverGen
