/-
Reading the members of a model.

Checking a member can add to the accessors that are known, so what a member is read as depends on
the members before it. `accessorsAfter` gives the accessors that some members leave behind, `ReadsAll`
says that each of them is passed over or read in its turn, and `columnsFrom` gives the columns that
come of them. All three part along the list of members (`accessorsAfter_append`, `readsAll_append`,
`columnsFrom_append`).

The step that takes a member reads it and adds the column to the entity of its class
(`takeColumn_eq`), so `readColumn_ok` says what every collected column is made of.
-/
import ResolverGen.Proofs.Collection.Run

namespace ResolverGen

namespace Model

variable (m : Model) (b : Backend)

/-- The column that a member gives, where some accessors are known before it is checked. -/
def readColumn (known : Accessors) (id : ElementId) : Except Fault Column := do
  let (checked, known) := m.checkColumn b.vocabulary known id
  checked
  let p ← b.columnSpec m id
  m.column b.vocabulary known id p

/-- The accessors known once some members have been checked. -/
def accessorsAfter (known : Accessors) (ids : List ElementId) : Accessors :=
  ids.foldl (fun known id => (m.checkColumn b.vocabulary known id).2) known

/-- Whether each of some members is passed over or gives a column, with the accessors that are known
by then. -/
def ReadsAll : Accessors → List ElementId → Prop
  | _, [] => True
  | known, id :: ids =>
    (m.passesOver b.vocabulary id = true ∨ ∃ c, m.readColumn b known id = .ok c) ∧
      ReadsAll (m.checkColumn b.vocabulary known id).2 ids

/-- The columns that some members give, with the accessors that are known by then. -/
def columnsFrom : Accessors → List ElementId → List Column
  | _, [] => []
  | known, id :: ids =>
    (m.readColumn b known id).toOption.toList ++
      columnsFrom (m.checkColumn b.vocabulary known id).2 ids

/-- Those of them that belong to a class. -/
def columnsOf (known : Accessors) (ids : List ElementId) (owner : ElementId) : List Column :=
  (m.columnsFrom b known ids).filter fun c => c.enclosing = owner

variable {m b} {known : Accessors} {id : ElementId} {c : Column}

theorem accessorsAfter_append (xs ys : List ElementId) :
    m.accessorsAfter b known (xs ++ ys) = m.accessorsAfter b (m.accessorsAfter b known xs) ys :=
  List.foldl_append

theorem readsAll_append (xs ys : List ElementId) :
    m.ReadsAll b known (xs ++ ys) ↔
      m.ReadsAll b known xs ∧ m.ReadsAll b (m.accessorsAfter b known xs) ys := by
  induction xs generalizing known with
  | nil => simp [ReadsAll, accessorsAfter]
  | cons x xs ih =>
    rw [List.cons_append, ReadsAll, ReadsAll, ih, and_assoc]
    rfl

theorem columnsFrom_append (xs ys : List ElementId) :
    m.columnsFrom b known (xs ++ ys) =
      m.columnsFrom b known xs ++ m.columnsFrom b (m.accessorsAfter b known xs) ys := by
  induction xs generalizing known with
  | nil => rfl
  | cons x xs ih =>
    rw [List.cons_append, columnsFrom, columnsFrom, ih, List.append_assoc]
    rfl

/-- Each column comes of a member, read with the accessors that the members before it leave. -/
theorem exists_of_mem_columnsFrom {ids : List ElementId} (h : c ∈ m.columnsFrom b known ids) :
    ∃ before id after, ids = before ++ id :: after ∧
      m.readColumn b (m.accessorsAfter b known before) id = .ok c := by
  induction ids generalizing known with
  | nil => exact absurd h List.not_mem_nil
  | cons x xs ih =>
    rcases List.mem_append.1 h with h | h
    · cases hread : m.readColumn b known x with
      | error f =>
        rw [hread] at h
        exact absurd h List.not_mem_nil
      | ok d =>
        rw [hread] at h
        rw [List.mem_singleton.1 h]
        exact ⟨[], x, xs, rfl, hread⟩
    · obtain ⟨before, id, after, rfl, hread⟩ := ih h
      exact ⟨x :: before, id, after, rfl, hread⟩

/-! ### Single members -/

theorem readColumn_eq (known : Accessors) (id : ElementId) :
    m.readColumn b known id =
      (m.checkColumn b.vocabulary known id).1 >>= fun _ => b.columnSpec m id >>= fun p =>
        m.column b.vocabulary (m.checkColumn b.vocabulary known id).2 id p :=
  rfl

/-- A member that is passed over gives no column. -/
theorem readColumn_of_passesOver (known : Accessors)
    (h : m.passesOver b.vocabulary id = true) :
    ∃ f, m.readColumn b known id = .error f := by
  refine ⟨.on id (.parentAnnotated b.vocabulary.type.simple), ?_⟩
  simp only [readColumn, checkColumn, checkOwner_of_passesOver h]
  rfl

/-- What a column that has been read is made of. -/
theorem readColumn_ok (h : m.readColumn b known id = .ok c) :
    ∃ p, (m.checkColumn b.vocabulary known id).1 = .ok () ∧ b.columnSpec m id = .ok p ∧
      m.column b.vocabulary (m.checkColumn b.vocabulary known id).2 id p = .ok c := by
  obtain ⟨⟨⟩, hcheck, h⟩ := exists_of_bind_eq_ok h
  obtain ⟨p, hspec, h⟩ := exists_of_bind_eq_ok h
  exact ⟨p, hcheck, hspec, h⟩

/-- A column belongs to the annotated class that encloses its member. -/
theorem owner_of_readColumn (h : m.readColumn b known id = .ok c) :
    c.element = id ∧ m.enclosingClass? id = some c.enclosing ∧
      (m.element c.enclosing).isAnnotated b.vocabulary.type.qualified = true := by
  obtain ⟨p, hcheck, -, hcolumn⟩ := readColumn_ok h
  obtain ⟨owner, howner, hannotated⟩ :=
    checkOwner_ok (checkOwner_of_checkColumn (Prod.ext hcheck rfl))
  obtain ⟨type, -, -, -, -, rfl⟩ := column_ok hcolumn
  have henclosing : (m.element id).enclosing.getD id = owner := by
    rw [(enclosingClass?_eq_some howner).1]
    rfl
  refine ⟨rfl, ?_, ?_⟩
  · dsimp only
    rw [henclosing, howner]
  · dsimp only
    rw [henclosing]
    exact hannotated

theorem enclosing_of_readColumn (h : m.readColumn b known id = .ok c) :
    (m.element id).enclosing = some c.enclosing :=
  (enclosingClass?_eq_some (owner_of_readColumn h).2.1).1

/-- A member of an annotated class is not passed over. -/
theorem passesOver_eq_false {owner : ElementId} (henclosing : (m.element id).enclosing = some owner)
    (hannotated : (m.element owner).isAnnotated b.vocabulary.type.qualified = true) :
    m.passesOver b.vocabulary id = false := by
  unfold passesOver
  cases howner : m.enclosingClass? id with
  | none => rfl
  | some o =>
    have ho : o = owner := by
      have := (enclosingClass?_eq_some howner).1
      rw [henclosing] at this
      exact (Option.some.inj this).symm
    rw [Option.any_some, ho, hannotated]
    rfl

theorem columnsOf_append (xs ys : List ElementId) (owner : ElementId) :
    m.columnsOf b known (xs ++ ys) owner =
      m.columnsOf b known xs owner ++ m.columnsOf b (m.accessorsAfter b known xs) ys owner := by
  rw [columnsOf, columnsFrom_append, List.filter_append]
  rfl

theorem columnsOf_cons {ids : List ElementId} {owner : ElementId}
    (h : m.readColumn b known id = .ok c) :
    m.columnsOf b known (id :: ids) owner =
      (if c.enclosing = owner then [c] else []) ++
        m.columnsOf b (m.checkColumn b.vocabulary known id).2 ids owner := by
  rw [columnsOf, columnsFrom, h, List.filter_append]
  by_cases howner : c.enclosing = owner <;> simp [columnsOf, howner, Except.toOption]

theorem columnsOf_cons_of_passesOver {ids : List ElementId} {owner : ElementId}
    (h : m.passesOver b.vocabulary id = true) :
    m.columnsOf b known (id :: ids) owner =
      m.columnsOf b (m.checkColumn b.vocabulary known id).2 ids owner := by
  obtain ⟨f, hread⟩ := readColumn_of_passesOver known h
  rw [columnsOf, columnsFrom, hread]
  rfl

theorem columnsOf_concat {ids : List ElementId} {owner : ElementId}
    (h : m.readColumn b (m.accessorsAfter b known ids) id = .ok c) :
    m.columnsOf b known (ids ++ [id]) owner =
      m.columnsOf b known ids owner ++ if c.enclosing = owner then [c] else [] := by
  rw [columnsOf_append, columnsOf_cons h]
  exact congrArg _ (List.append_nil _)

theorem columnsOf_concat_of_passesOver {ids : List ElementId} {owner : ElementId}
    (h : m.passesOver b.vocabulary id = true) :
    m.columnsOf b known (ids ++ [id]) owner = m.columnsOf b known ids owner := by
  rw [columnsOf_append, columnsOf_cons_of_passesOver h]
  exact List.append_nil _

theorem accessorsAfter_concat_of_passesOver {ids : List ElementId}
    (h : m.passesOver b.vocabulary id = true) :
    m.accessorsAfter b known (ids ++ [id]) = m.accessorsAfter b known ids := by
  rw [accessorsAfter_append]
  simp only [accessorsAfter, List.foldl_cons, List.foldl_nil, checkColumn,
    checkOwner_of_passesOver h]

theorem readColumn_fails (h : m.passesOver b.vocabulary id = false) :
    Fails Fault.Refusal (m.readColumn b known id) := by
  refine (checkColumn_fails h).bind fun _ _ => ?_
  exact (b.columnSpec_fails m id).bind fun p _ => m.column_fails _ _ _ p

end Model

/-- A member that is not passed over is read, and its column is added to the entity of its class. -/
theorem Collection.takeColumn_eq {m : Model} {b : Backend} {id : ElementId} (c : Collection)
    (h : m.passesOver b.vocabulary id = false) :
    takeColumn m b c id =
      let c' := { c with accessors := (m.checkColumn b.vocabulary c.accessors id).2 }
      c'.settle (m.readColumn b c.accessors id >>= fun column =>
        c'.change m column.enclosing id (·.addColumn b.vocabulary column)) := by
  have hfails := Model.checkColumn_fails (a := c.accessors) h
  unfold takeColumn putColumn Model.readColumn
  cases hcheck : m.checkColumn b.vocabulary c.accessors id with
  | mk checked a =>
    cases checked with
    | error f =>
      rw [hcheck] at hfails
      -- a member that is not passed over cannot be refused with a mere warning
      have hwarn : f.isWarning = false := decide_eq_false (hfails f rfl).halting.kind_ne.1
      simp only [hwarn]
      rfl
    | ok =>
      dsimp only
      cases b.columnSpec m id with
      | error f => rfl
      | ok p => cases m.column b.vocabulary a id p <;> rfl

end ResolverGen
