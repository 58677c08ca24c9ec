/-
When collecting succeeds, and what it then gives.

A collection only remembers whether the columns taken so far need a creator, and refuses a column by
comparing with that. Whether a model is collected does not depend on the order all the same:
`collect_exact` says that it is just if each annotated element passes its own checks (`Readable`) and
the columns and creators of each annotated class can stand together (`Consistent`), and that what has
been collected is then what the model says (`Collection.Exact`).
-/
import ResolverGen.Proofs.Collection.Contents

namespace ResolverGen

variable {m : Model} {b : Backend} {nonNull : Code.ClassName} {known : Accessors}

/-- Whether each annotated element passes its own checks, the members with the accessors that the
members before them leave. -/
structure Model.Readable (m : Model) (b : Backend) (known : Accessors) : Prop where
  classes : ∀ id ∈ m.annotatedWith b.vocabulary.type.qualified,
    m.checkClass b.vocabulary id = .ok () ∧ ∃ config, b.config m id = .ok config
  members : m.ReadsAll b known (m.annotatedWith b.vocabulary.column.qualified)
  creators : ∀ id ∈ m.annotatedWith b.vocabulary.creator.qualified,
    m.checkCreator b.vocabulary id = .ok ()

/-- Whether the columns of a class can stand together, and it has one creator at most. -/
structure Model.Consistent (m : Model) (b : Backend) (known : Accessors) (owner : ElementId) :
    Prop where
  columns : Column.Compatible ((m.element owner).has .abstract)
    (m.columnsOf b known (m.annotatedWith b.vocabulary.column.qualified) owner)
  creators :
    (m.membersAmong (m.annotatedWith b.vocabulary.creator.qualified) owner).length ≤ 1

/-- What exactly is collected of an annotated class. -/
structure Entity.Exact (m : Model) (b : Backend) (nonNull : Code.ClassName) (known : Accessors)
    (e : Entity) : Prop where
  ofClass : ∃ bare, m.entity b nonNull e.element = .ok bare ∧
    e = { bare with columns := e.columns, byCreator := e.byCreator, creator := e.creator }
  columns : e.columns =
    m.columnsOf b known (m.annotatedWith b.vocabulary.column.qualified) e.element
  /-- The columns stand for the annotated members that are not passed over, in their order. -/
  members : e.columns.map (·.element) =
    (m.annotatedWith b.vocabulary.column.qualified).filter fun id =>
      !m.passesOver b.vocabulary id && (m.element id).enclosing = some e.element
  once : (e.columns.map (·.element)).Nodup
  creator : e.creator.toList =
    (m.membersAmong (m.annotatedWith b.vocabulary.creator.qualified) e.element).map m.creator
  byCreator : e.byCreator = true ↔
    (m.element e.element).has .abstract = true ∨ ∃ c ∈ e.columns, c.onlyByCreator = true

/-- What exactly is collected of a model: its annotated classes, in order, and all that belongs to
them. -/
structure Collection.Exact (m : Model) (b : Backend) (nonNull : Code.ClassName)
    (known : Accessors) (c : Collection) : Prop where
  classes : c.entities.map (·.element) = m.annotatedWith b.vocabulary.type.qualified
  entities : ∀ e ∈ c.entities, e.Exact m b nonNull known

/-! ### What has been collected -/

namespace Model

theorem element_of_gives {id : ElementId} {c : Column} (h : m.Gives b id c) : c.element = id := by
  obtain ⟨a, a', p, -, -, hcolumn⟩ := h
  obtain ⟨type, -, -, -, -, rfl⟩ := column_ok hcolumn
  rfl

/-- The columns of an annotated class stand for its members. -/
theorem map_element_columnsOf {taken : List ElementId} {owner : ElementId}
    (h : m.ReadsAll b known taken)
    (hclass : (m.element owner).isAnnotated b.vocabulary.type.qualified = true) :
    (m.columnsOf b known taken owner).map (·.element) = m.membersAmong taken owner := by
  have helements := (columnsOf_forall₂ h hclass).imp fun _ _ => element_of_gives
  rw [← List.forall₂_eq_eq_eq, List.forall₂_map_left_iff]
  exact helements.flip

end Model

/-- An entity that has gathered all members and creators is what the model says. -/
theorem Entity.Gathers.exact {e : Entity}
    (h : e.Gathers m b nonNull known (m.annotatedWith b.vocabulary.column.qualified)
      (m.annotatedWith b.vocabulary.creator.qualified))
    (hreads : m.ReadsAll b known (m.annotatedWith b.vocabulary.column.qualified))
    (hclass : (m.element e.element).isAnnotated b.vocabulary.type.qualified = true) :
    e.Exact m b nonNull known := by
  have hmembers : e.columns.map (·.element) =
      m.membersAmong (m.annotatedWith b.vocabulary.column.qualified) e.element := by
    rw [h.columns]
    exact Model.map_element_columnsOf hreads hclass
  refine ⟨h.ofClass, h.columns, ?_, ?_, h.creator, ?_⟩
  · -- a member of an annotated class is not passed over
    rw [hmembers, Model.membersAmong]
    refine List.filter_congr fun id _ => ?_
    by_cases henclosing : (m.element id).enclosing = some e.element
    · simp [henclosing, Model.passesOver_eq_false henclosing hclass]
    · simp [henclosing]
  · rw [hmembers]
    exact (Collection.nodup_annotatedWith m _).filter _
  · rw [h.byCreator, Bool.or_eq_true, List.any_eq_true]

theorem Collection.GathersAll.exact {c : Collection}
    (h : c.GathersAll m b nonNull known (m.annotatedWith b.vocabulary.column.qualified)
      (m.annotatedWith b.vocabulary.creator.qualified)) : c.Exact m b nonNull known :=
  ⟨h.classes, fun e he => (h.gathers e he).exact h.reads (h.isAnnotated he)⟩

/-! ### When a step succeeds -/

namespace Collection.GathersAll

variable {taken made rest : List ElementId} {c : Collection} {id : ElementId}

/-- A member is taken if it passes its own checks and the columns of its class can stand together. -/
theorem takeColumn_isOk (h : c.GathersAll m b nonNull known taken made)
    (hreads : m.ReadsAll b known (taken ++ id :: rest))
    (hcompatible : ∀ owner ∈ m.annotatedWith b.vocabulary.type.qualified,
      Column.Compatible ((m.element owner).has .abstract)
        (m.columnsOf b known (taken ++ id :: rest) owner)) :
    (c.takeColumn m b id).1 = .ok () := by
  cases hpass : m.passesOver b.vocabulary id with
  | true =>
    obtain ⟨f, -, hstep⟩ := takeColumn_of_passesOver (b := b) hpass
    rw [hstep]
  | false =>
    have hread : ∃ column, m.readColumn b c.accessors id = .ok column := by
      rw [h.accessors]
      refine ((Model.readsAll_append _ _).1 hreads).2.1.resolve_left ?_
      rw [hpass]
      exact Bool.false_ne_true
    obtain ⟨column, hread⟩ := hread
    have howner := (Model.owner_of_readColumn hread).2.2
    obtain ⟨e, he, helement, f, hchange⟩ := h.exists_change_eq
      (m.checkColumn b.vocabulary c.accessors id).2 howner id (·.addColumn b.vocabulary column)
    have hadd : ∃ e', e.addColumn b.vocabulary column = .ok e' := by
      have hg := h.gathers e he
      rw [Entity.exists_addColumn_iff hg.compatible hg.byCreator]
      -- the columns so far and this one are the first ones of the class
      have hall := hcompatible column.enclosing (mem_annotatedWith_iff.2 howner)
      rw [← List.concat_append, List.concat_eq_append, Model.columnsOf_append] at hall
      have hfirst := hall.of_append
      rw [h.accessors] at hread
      rw [Model.columnsOf_concat hread, if_pos rfl] at hfirst
      rw [hg.columns, helement]
      exact hfirst
    obtain ⟨e', hadd⟩ := hadd
    rw [takeColumn_eq c hpass, hread]
    show (settle _ (change _ m column.enclosing id _)).1 = .ok ()
    rw [hchange, hadd]
    rfl

/-- A creator is taken if it passes its own checks and is the only one of its class. -/
theorem takeCreator_isOk (h : c.GathersAll m b nonNull known taken made)
    (hcheck : m.checkCreator b.vocabulary id = .ok ())
    (honce : ∀ owner ∈ m.annotatedWith b.vocabulary.type.qualified,
      (m.membersAmong (made ++ id :: rest) owner).length ≤ 1) :
    (c.takeCreator m b id).1 = .ok () := by
  obtain ⟨henclosing, howner⟩ := Model.owner_of_checkCreator hcheck
  obtain ⟨e, he, helement, f, hchange⟩ :=
    h.exists_change_eq c.accessors howner id (·.addCreator (m.creator id))
  have hnone : e.creator = none := by
    have hlength := honce _ (mem_annotatedWith_iff.2 howner)
    have hcreator := congrArg List.length (h.gathers e he).creator
    rw [helement, List.length_map] at hcreator
    have hlater : (m.membersAmong (made ++ id :: rest) (m.creator id).enclosing).length =
        (m.membersAmong made (m.creator id).enclosing).length + 1 +
          (m.membersAmong rest (m.creator id).enclosing).length := by
      simp only [Model.membersAmong, List.filter_append, List.filter_cons, henclosing, decide_true,
        if_pos, List.length_append, List.length_cons]
      omega
    cases hc : e.creator with
    | none => rfl
    | some creator =>
      rw [hc, Option.toList_some, List.length_singleton] at hcreator
      omega
  unfold Collection.takeCreator
  rw [hcheck]
  show (settle c (c.change m (m.creator id).enclosing id _)).1 = .ok ()
  rw [hchange, Entity.addCreator_eq_ok_iff.2 ⟨hnone, rfl⟩]
  rfl

end Collection.GathersAll

namespace Model

theorem exists_entity_eq_ok (nonNull : Code.ClassName) {id : ElementId}
    (hclass : m.checkClass b.vocabulary id = .ok ())
    (hconfig : ∃ config, b.config m id = .ok config) : ∃ e, m.entity b nonNull id = .ok e := by
  obtain ⟨config, hconfig⟩ := hconfig
  rw [entity, hclass, hconfig]
  exact ⟨_, rfl⟩

/-- A class that has been taken passes its own checks. -/
theorem readable_of_entity {id : ElementId} {e : Entity} (h : m.entity b nonNull id = .ok e) :
    m.checkClass b.vocabulary id = .ok () ∧ ∃ config, b.config m id = .ok config := by
  obtain ⟨config, hclass, hconfig, -⟩ := entity_ok h
  exact ⟨hclass, config, hconfig⟩

/-- A model that is collected has no faults. -/
theorem readable_of_collect {c : Collection} (h : m.collect b nonNull known = (.ok (), c)) :
    m.Readable b known ∧
      ∀ owner ∈ m.annotatedWith b.vocabulary.type.qualified, m.Consistent b known owner := by
  have hc := collect_gathers h
  have hentity : ∀ owner ∈ m.annotatedWith b.vocabulary.type.qualified,
      ∃ e ∈ c.entities, e.element = owner := fun owner howner =>
    hc.exists_mem (Collection.mem_annotatedWith_iff.1 howner)
  refine ⟨⟨fun owner howner => ?_, hc.reads, hc.creators⟩, fun owner howner => ?_⟩
  · obtain ⟨e, he, rfl⟩ := hentity owner howner
    obtain ⟨bare, hbare, -⟩ := (hc.gathers e he).ofClass
    exact readable_of_entity hbare
  · obtain ⟨e, he, rfl⟩ := hentity owner howner
    have hg := hc.gathers e he
    refine ⟨hg.columns ▸ hg.compatible, ?_⟩
    have hcreator := congrArg List.length hg.creator
    rw [List.length_map] at hcreator
    rw [← hcreator]
    cases e.creator <;> simp

/-- A model without faults is collected. -/
theorem collect_of_readable (h : m.Readable b known)
    (hconsistent : ∀ owner ∈ m.annotatedWith b.vocabulary.type.qualified,
      m.Consistent b known owner) :
    (m.collect b nonNull known).1 = .ok () := by
  rw [collect_eq]
  refine Collection.andThen_isOk ?_ fun c₁ h₁ => Collection.andThen_isOk ?_ fun c₂ h₂ => ?_
  · refine Collection.each_isOk (P := fun _ _ => True) (fun taken id rest c hall _ => ?_)
      (fun _ _ _ _ _ _ => trivial) trivial
    have hid : id ∈ m.annotatedWith b.vocabulary.type.qualified := by simp [hall]
    obtain ⟨e, he⟩ := exists_entity_eq_ok nonNull (h.classes id hid).1 (h.classes id hid).2
    rw [Collection.takeClass, he]
    rfl
  · refine Collection.each_isOk (P := fun taken c => c.GathersAll m b nonNull known taken [])
      (fun taken id rest c hall hc => ?_) (fun _ _ _ _ hc => hc.takeColumn)
      (Collection.gathersAll_of_takeClass h₁)
    exact hc.takeColumn_isOk (hall ▸ h.members)
      fun owner howner => hall ▸ (hconsistent owner howner).columns
  · refine Collection.each_isOk
      (P := fun made c => c.GathersAll m b nonNull known
        (m.annotatedWith b.vocabulary.column.qualified) made)
      (fun made id rest c hall hc => ?_) (fun _ _ _ _ hc => hc.takeCreator)
      (gathersAll_of_takeColumn (Collection.gathersAll_of_takeClass h₁) h₂)
    have hid : id ∈ m.annotatedWith b.vocabulary.creator.qualified := by simp [hall]
    exact hc.takeCreator_isOk (h.creators id hid)
      fun owner howner => hall ▸ (hconsistent owner howner).creators

/-- A model is collected just if its annotated elements pass their own checks and can stand together
in their classes, in whatever order they come. What is collected is then exactly what the model
says. Where it is not collected, the reason is never that a class is missing, and no column whose
name is free is refused when it is inserted. -/
theorem collect_exact (m : Model) (b : Backend) (nonNull : Code.ClassName) (known : Accessors) :
    ((m.collect b nonNull known).1 = .ok () ↔
      m.Readable b known ∧
        ∀ owner ∈ m.annotatedWith b.vocabulary.type.qualified, m.Consistent b known owner) ∧
    (∀ c, m.collect b nonNull known = (.ok (), c) → c.Exact m b nonNull known) ∧
    (∀ f name, (m.collect b nonNull known).1 = .error f → f.cause ≠ .ownerMissing name) ∧
    ∀ (e : Entity) (c : Column), e.column? c.name = none →
      ∃ e', ({ e with byCreator := e.byCreator || c.onlyByCreator } : Entity).insert? c =
        some e' := by
  refine ⟨⟨fun h => ?_, fun h => collect_of_readable h.1 h.2⟩, fun c h => ?_,
    fun f name h => ?_, fun e c h => ?_⟩
  · exact readable_of_collect (Prod.ext h rfl)
  · exact (collect_gathers h).exact
  · exact (collect_fails f h).ne_ownerMissing name
  · have hname : ({ e with byCreator := e.byCreator || c.onlyByCreator } : Entity).column?
        c.name = none := h
    rw [Entity.insert?, hname]
    exact ⟨_, rfl⟩

end Model

end ResolverGen
