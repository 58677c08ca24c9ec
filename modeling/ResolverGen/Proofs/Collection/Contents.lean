/-
What a collection contains.

`Entity.Gathers` says exactly what an entity is once some members and creators have been taken: what
it has from its class, the columns that the members of the class are read as, which can stand
together, and the creator of the class. `Entity.Holds` is what follows from it for one entity by
itself, whatever accessors were known. The main statements are

* `collect_gathers`, `collect_ok` — a model that is collected without a fault gives one entity for
  each annotated class, in the order of the model, each of which holds all its members, and one
  warning for each member that is passed over,
* `columns_of_collect` — with a fault or without, every column that is stored has been read, after
  members that have been passed over or read themselves,
* `collect_fails`, `collect_warns` — a model with faults ends in a refusal, and whatever happens, all
  warnings are about members that are passed over.
-/
import Mathlib.Data.List.Forall2
import Mathlib.Data.List.Nodup
import ResolverGen.Proofs.Collection.Reading

namespace ResolverGen

/-- The annotated members of a class, in order. -/
def Model.membersAmong (m : Model) (taken : List ElementId) (owner : ElementId) :
    List ElementId :=
  taken.filter fun id => decide ((m.element id).enclosing = some owner)

/-- A column is what some member gives, whatever accessors were known before it was checked. -/
def Model.Gives (m : Model) (b : Backend) (id : ElementId) (c : Column) : Prop :=
  ∃ a a' p, m.checkColumn b.vocabulary a id = (.ok (), a') ∧ b.columnSpec m id = .ok p ∧
    m.column b.vocabulary a' id p = .ok c

theorem Model.gives_of_readColumn {m : Model} {b : Backend} {known : Accessors} {id : ElementId}
    {c : Column} (h : m.readColumn b known id = .ok c) : m.Gives b id c := by
  obtain ⟨p, hcheck, hspec, hcolumn⟩ := readColumn_ok h
  exact ⟨known, _, p, Prod.ext hcheck rfl, hspec, hcolumn⟩

/-! ### Columns that can stand together -/

/-- Whether columns can stand together in a class: they have names of their own and agree on whether
objects need a creator, which those of an abstract class do. -/
structure Column.Compatible (abstractClass : Bool) (cs : List Column) : Prop where
  distinct : (cs.map (·.name)).Nodup
  uniform : ∀ c ∈ cs, ∀ d ∈ cs, c.onlyByCreator = d.onlyByCreator
  created : abstractClass = true → ∀ c ∈ cs, c.onlyByCreator = true

namespace Column.Compatible

variable {abstractClass : Bool} {cs ds : List Column} {c : Column}

theorem nil : Compatible abstractClass [] :=
  ⟨List.nodup_nil, fun _ h => absurd h List.not_mem_nil, fun _ _ h => absurd h List.not_mem_nil⟩

theorem of_append (h : Compatible abstractClass (cs ++ ds)) : Compatible abstractClass cs where
  distinct := (List.map_append ▸ h.distinct).of_append_left
  uniform := fun c hc d hd =>
    h.uniform c (List.mem_append_left _ hc) d (List.mem_append_left _ hd)
  created := fun habstract c hc => h.created habstract c (List.mem_append_left _ hc)

/-- The columns agree with what is found by looking for one that needs a creator. -/
theorem onlyByCreator_eq (h : Compatible abstractClass cs) (hc : c ∈ cs) :
    c.onlyByCreator = (abstractClass || cs.any (·.onlyByCreator)) := by
  cases hneeds : c.onlyByCreator with
  | true => rw [List.any_eq_true.2 ⟨c, hc, hneeds⟩, Bool.or_true]
  | false =>
    have hclass : abstractClass = false := by
      by_contra habstract
      have hcreated := h.created (by simpa using habstract) c hc
      rw [hneeds] at hcreated
      cases hcreated
    have hnone : cs.any (·.onlyByCreator) = false := by
      rw [List.any_eq_false]
      intro d hd
      rw [h.uniform d hd c hc, hneeds]
      exact Bool.false_ne_true
    rw [hclass, hnone, Bool.or_false]

end Column.Compatible

namespace Entity

variable {m : Model} {b : Backend} {nonNull : Code.ClassName} {e e' : Entity}

theorem column?_eq_none_iff {name : String} :
    e.column? name = none ↔ name ∉ e.columns.map (·.name) := by
  rw [column?, List.find?_eq_none]
  constructor
  · intro h hmem
    obtain ⟨c, hc, rfl⟩ := List.mem_map.1 hmem
    simpa using h c hc
  · intro h c hc
    rw [decide_eq_true_eq]
    exact fun hname => h (hname ▸ List.mem_map_of_mem hc)

/-- A column can be added just if it can stand together with those that are there, although the
entity only remembers whether some column needs a creator. -/
theorem exists_addColumn_iff {abstractClass : Bool} {v : Vocabulary} {c : Column}
    (h : Column.Compatible abstractClass e.columns)
    (hby : e.byCreator = (abstractClass || e.columns.any (·.onlyByCreator))) :
    (∃ e', e.addColumn v c = .ok e') ↔ Column.Compatible abstractClass (e.columns ++ [c]) := by
  have hagrees : ∀ d ∈ e.columns, d.onlyByCreator = e.byCreator := by
    intro d hd
    rw [hby]
    exact h.onlyByCreator_eq hd
  constructor
  · rintro ⟨e', hadd⟩
    obtain ⟨⟨hname, hneeds, hfirst⟩, -⟩ := addColumn_eq_ok_iff.1 hadd
    have hall : ∀ d ∈ e.columns, d.onlyByCreator = c.onlyByCreator := by
      intro d hd
      rw [hagrees d hd]
      cases hc : c.onlyByCreator with
      | true =>
        rcases hfirst hc with he | hnil
        · exact he
        · rw [hnil] at hd
          cases hd
      | false =>
        by_contra he
        rw [hneeds (by simpa using he)] at hc
        cases hc
    have hall' : ∀ d ∈ e.columns ++ [c], d.onlyByCreator = c.onlyByCreator := by
      intro d hd
      rcases List.mem_append.1 hd with hd | hd
      · exact hall d hd
      · rw [List.mem_singleton.1 hd]
    refine ⟨?_, fun d hd d' hd' => (hall' d hd).trans (hall' d' hd').symm, ?_⟩
    · rw [List.map_append, List.map_singleton, List.nodup_append]
      refine ⟨h.distinct, List.nodup_singleton _, ?_⟩
      rintro name hmem _ hc rfl
      rw [List.mem_singleton] at hc
      exact column?_eq_none_iff.1 hname (hc ▸ hmem)
    · intro habstract d hd
      have he : e.byCreator = true := by rw [hby, habstract, Bool.true_or]
      rw [hall' d hd]
      exact hneeds he
  · intro hcs
    have hmem : c ∈ e.columns ++ [c] := by simp
    refine ⟨_, addColumn_eq_ok_iff.2 ⟨⟨?_, ?_, ?_⟩, rfl⟩⟩
    · rw [column?_eq_none_iff]
      intro hname
      have hdistinct := hcs.distinct
      rw [List.map_append, List.map_singleton, List.nodup_append] at hdistinct
      exact hdistinct.2.2 _ hname _ (List.mem_singleton_self _) rfl
    · intro he
      rw [hcs.onlyByCreator_eq hmem, List.any_append, ← Bool.or_assoc, ← hby, he, Bool.true_or]
    · intro hc
      by_cases hnil : e.columns = []
      · exact .inr hnil
      · obtain ⟨d, hd⟩ := List.exists_mem_of_ne_nil _ hnil
        left
        rw [← hagrees d hd, ← hc]
        exact hcs.uniform d (List.mem_append_left _ hd) c hmem

/-! ### What an entity is -/

/-- What an entity has from its class and from the members that have been taken. -/
structure Holds (m : Model) (b : Backend) (nonNull : Code.ClassName) (taken : List ElementId)
    (e : Entity) : Prop where
  /-- All but the columns and the creator is that of the class. -/
  ofClass : ∃ bare, m.entity b nonNull e.element = .ok bare ∧ e.name = bare.name ∧
    e.package = bare.package ∧ e.config = bare.config
  columns : List.Forall₂ (m.Gives b) (m.membersAmong taken e.element) e.columns
  distinct : (e.columns.map (·.name)).Nodup
  uniform : ∀ c ∈ e.columns, c.onlyByCreator = e.byCreator

/-- What an entity is once some members and the creators `made` have been taken, where the accessors
`known` were known before. -/
structure Gathers (m : Model) (b : Backend) (nonNull : Code.ClassName) (known : Accessors)
    (taken made : List ElementId) (e : Entity) : Prop where
  ofClass : ∃ bare, m.entity b nonNull e.element = .ok bare ∧
    e = { bare with columns := e.columns, byCreator := e.byCreator, creator := e.creator }
  columns : e.columns = m.columnsOf b known taken e.element
  compatible : Column.Compatible ((m.element e.element).has .abstract) e.columns
  byCreator : e.byCreator =
    ((m.element e.element).has .abstract || e.columns.any (·.onlyByCreator))
  creator : e.creator.toList = (m.membersAmong made e.element).map m.creator

end Entity

namespace Model

variable {m : Model} {b : Backend} {known : Accessors} {taken : List ElementId}
  {id owner : ElementId} {c : Column}

theorem membersAmong_concat (h : (m.element id).enclosing = some owner) :
    m.membersAmong (taken ++ [id]) owner = m.membersAmong taken owner ++ [id] := by
  simp [membersAmong, h]

theorem membersAmong_concat_of_ne (h : (m.element id).enclosing ≠ some owner) :
    m.membersAmong (taken ++ [id]) owner = m.membersAmong taken owner := by
  simp [membersAmong, h]

/-- The members that are passed over belong to no annotated class. -/
theorem enclosing_ne_of_passesOver (hpass : m.passesOver b.vocabulary id = true)
    (hclass : (m.element owner).isAnnotated b.vocabulary.type.qualified = true) :
    (m.element id).enclosing ≠ some owner := by
  intro henclosing
  rw [passesOver_eq_false henclosing hclass] at hpass
  cases hpass

/-- The columns of an annotated class stand for its members, one for one. -/
theorem columnsOf_forall₂ (h : m.ReadsAll b known taken)
    (hclass : (m.element owner).isAnnotated b.vocabulary.type.qualified = true) :
    List.Forall₂ (m.Gives b) (m.membersAmong taken owner) (m.columnsOf b known taken owner) := by
  induction taken generalizing known with
  | nil => exact .nil
  | cons id ids ih =>
    obtain ⟨hfirst, hrest⟩ := h
    rcases hfirst with hpass | ⟨c, hread⟩
    · have hmembers : m.membersAmong (id :: ids) owner = m.membersAmong ids owner := by
        simp [membersAmong, enclosing_ne_of_passesOver hpass hclass]
      rw [hmembers, columnsOf_cons_of_passesOver hpass]
      exact ih hrest
    · have henclosing := enclosing_of_readColumn hread
      rw [columnsOf_cons hread]
      by_cases howner : c.enclosing = owner
      · have hmembers : m.membersAmong (id :: ids) owner = id :: m.membersAmong ids owner := by
          simp [membersAmong, henclosing, howner]
        rw [hmembers, if_pos howner]
        exact .cons (gives_of_readColumn hread) (ih hrest)
      · have hmembers : m.membersAmong (id :: ids) owner = m.membersAmong ids owner := by
          simp [membersAmong, henclosing, howner]
        rw [hmembers, if_neg howner]
        exact ih hrest

end Model

namespace Entity.Gathers

variable {m : Model} {b : Backend} {nonNull : Code.ClassName} {known : Accessors}
  {taken made : List ElementId} {e e' : Entity} {id : ElementId}

theorem holds (h : e.Gathers m b nonNull known taken made) (hreads : m.ReadsAll b known taken)
    (hclass : (m.element e.element).isAnnotated b.vocabulary.type.qualified = true) :
    e.Holds m b nonNull taken := by
  obtain ⟨bare, hbare, he⟩ := h.ofClass
  refine ⟨⟨bare, hbare, by rw [he], by rw [he], by rw [he]⟩, ?_, h.compatible.distinct, ?_⟩
  · rw [h.columns]
    exact Model.columnsOf_forall₂ hreads hclass
  · intro c hc
    rw [h.byCreator]
    exact h.compatible.onlyByCreator_eq hc

theorem addColumn (h : e.Gathers m b nonNull known taken made) {c : Column}
    (hread : m.readColumn b (m.accessorsAfter b known taken) id = .ok c)
    (howner : c.enclosing = e.element) (hadd : e.addColumn b.vocabulary c = .ok e') :
    e'.Gathers m b nonNull known (taken ++ [id]) made := by
  have hcompatible := (exists_addColumn_iff h.compatible h.byCreator).1 ⟨e', hadd⟩
  obtain ⟨-, rfl⟩ := addColumn_eq_ok_iff.1 hadd
  obtain ⟨bare, hbare, he⟩ := h.ofClass
  refine ⟨⟨bare, hbare, by rw [he]⟩, ?_, hcompatible, ?_, h.creator⟩
  · show e.columns ++ [c] = m.columnsOf b known (taken ++ [id]) e.element
    rw [Model.columnsOf_concat hread, if_pos howner, h.columns]
  · show (e.byCreator || c.onlyByCreator) =
      ((m.element e.element).has .abstract || (e.columns ++ [c]).any (·.onlyByCreator))
    rw [h.byCreator, List.any_append, Bool.or_assoc]
    simp

theorem addCreator (h : e.Gathers m b nonNull known taken made)
    (howner : (m.element id).enclosing = some e.element)
    (hadd : e.addCreator (m.creator id) = .ok e') :
    e'.Gathers m b nonNull known taken (made ++ [id]) := by
  obtain ⟨hnone, rfl⟩ := addCreator_eq_ok_iff.1 hadd
  obtain ⟨bare, hbare, he⟩ := h.ofClass
  refine ⟨⟨bare, hbare, by rw [he]⟩, h.columns, h.compatible, h.byCreator, ?_⟩
  show [m.creator id] = (m.membersAmong (made ++ [id]) e.element).map m.creator
  rw [Model.membersAmong_concat howner, List.map_append, ← h.creator, hnone]
  rfl

/-- Members of other classes do not matter. -/
theorem of_columnsOf (h : e.Gathers m b nonNull known taken made) {more : List ElementId}
    (heq : m.columnsOf b known more e.element = m.columnsOf b known taken e.element) :
    e.Gathers m b nonNull known more made :=
  ⟨h.ofClass, by rw [heq]; exact h.columns, h.compatible, h.byCreator, h.creator⟩

theorem of_membersAmong (h : e.Gathers m b nonNull known taken made) {more : List ElementId}
    (heq : m.membersAmong more e.element = m.membersAmong made e.element) :
    e.Gathers m b nonNull known taken more :=
  ⟨h.ofClass, h.columns, h.compatible, h.byCreator, by rw [heq]; exact h.creator⟩

end Entity.Gathers

namespace Collection

variable {m : Model} {b : Backend} {nonNull : Code.ClassName} {known : Accessors}
  {taken made : List ElementId} {c c' : Collection} {id owner member : ElementId}
  {edit : Entity → Except Fault Entity}

/-- A change of one entity leaves the classes as they are and every other entity alone. -/
theorem change_entities (h : c.change m owner member edit = .ok c')
    (hkeep : ∀ e e', edit e = .ok e' → e'.element = e.element)
    (hnodup : (c.entities.map (·.element)).Nodup) :
    c'.entities.map (·.element) = c.entities.map (·.element) ∧ c'.accessors = c.accessors ∧
      c'.warnings = c.warnings ∧
      ∀ e' ∈ c'.entities, (e' ∈ c.entities ∧ e'.element ≠ owner) ∨
        ∃ e ∈ c.entities, e.element = owner ∧ edit e = .ok e' := by
  obtain ⟨before, e, after, e', hes, howner, hedit, rfl⟩ := change_ok h
  have hsame : e'.element = e.element := hkeep e e' hedit
  rw [hes] at hnodup ⊢
  refine ⟨by simp [hsame], rfl, rfl, ?_⟩
  rw [List.map_append, List.map_cons] at hnodup
  have hmiddle := List.nodup_middle.1 hnodup
  rw [List.nodup_cons, ← List.map_append] at hmiddle
  have hothers : ∀ x ∈ before ++ after, x.element ≠ owner := by
    intro x hx heq
    exact hmiddle.1 (List.mem_map.2 ⟨x, hx, heq.trans howner.symm⟩)
  intro x hx
  rcases List.mem_append.1 hx with hx | hx
  · exact .inl ⟨List.mem_append_left _ hx, hothers x (List.mem_append_left _ hx)⟩
  · rcases List.mem_cons.1 hx with rfl | hx
    · exact .inr ⟨e, by simp, howner, hedit⟩
    · exact .inl ⟨by simp [hx], hothers x (List.mem_append_right _ hx)⟩

/-- What has been collected once all classes and some members have been taken. -/
structure HoldsAll (m : Model) (b : Backend) (nonNull : Code.ClassName)
    (taken : List ElementId) (c : Collection) : Prop where
  classes : c.entities.map (·.element) = m.annotatedWith b.vocabulary.type.qualified
  holds : ∀ e ∈ c.entities, e.Holds m b nonNull taken
  warnings : c.warnings.length = (taken.filter (m.passesOver b.vocabulary)).length

/-- What a collection is once all classes, some members and the creators `made` have been taken. -/
structure GathersAll (m : Model) (b : Backend) (nonNull : Code.ClassName) (known : Accessors)
    (taken made : List ElementId) (c : Collection) : Prop where
  classes : c.entities.map (·.element) = m.annotatedWith b.vocabulary.type.qualified
  accessors : c.accessors = m.accessorsAfter b known taken
  /-- All that has been taken passes its own checks. -/
  reads : m.ReadsAll b known taken
  creators : ∀ id ∈ made, m.checkCreator b.vocabulary id = .ok ()
  gathers : ∀ e ∈ c.entities, e.Gathers m b nonNull known taken made
  warnings : c.warnings.length = (taken.filter (m.passesOver b.vocabulary)).length

/-- Positions that the model does not have carry no annotations. -/
theorem mem_annotatedWith_iff {qualified : String} :
    id ∈ m.annotatedWith qualified ↔ (m.element id).isAnnotated qualified = true := by
  rw [Model.annotatedWith, List.mem_filter]
  refine ⟨And.right, fun h => ⟨?_, h⟩⟩
  by_contra hid
  have hlength : m.elements.length ≤ id := by simpa [Model.ids] using hid
  have hdefault : m.element id = Element.ofKind .package "" := by
    rw [Model.element, List.getD_eq_getElem?_getD, List.getElem?_eq_none hlength]
    rfl
  rw [hdefault] at h
  cases h

theorem nodup_annotatedWith (m : Model) (qualified : String) :
    (m.annotatedWith qualified).Nodup :=
  List.nodup_range.filter _

namespace GathersAll

theorem nodup (h : c.GathersAll m b nonNull known taken made) :
    (c.entities.map (·.element)).Nodup := by
  rw [h.classes]
  exact nodup_annotatedWith _ _

theorem isAnnotated (h : c.GathersAll m b nonNull known taken made) {e : Entity}
    (he : e ∈ c.entities) :
    (m.element e.element).isAnnotated b.vocabulary.type.qualified = true :=
  mem_annotatedWith_iff.1 (h.classes ▸ List.mem_map_of_mem he)

theorem holdsAll (h : c.GathersAll m b nonNull known taken made) : c.HoldsAll m b nonNull taken :=
  ⟨h.classes, fun e he => (h.gathers e he).holds h.reads (h.isAnnotated he), h.warnings⟩

/-- An annotated class has been collected. -/
theorem exists_mem (h : c.GathersAll m b nonNull known taken made)
    (howner : (m.element owner).isAnnotated b.vocabulary.type.qualified = true) :
    ∃ e ∈ c.entities, e.element = owner :=
  List.mem_map.1 (h.classes ▸ mem_annotatedWith_iff.2 howner)

/-- What becomes of a change depends on the entity of the class alone, which is there. -/
theorem exists_change_eq (h : c.GathersAll m b nonNull known taken made) (a : Accessors)
    (howner : (m.element owner).isAnnotated b.vocabulary.type.qualified = true)
    (member : ElementId) (edit : Entity → Except Fault Entity) :
    ∃ e ∈ c.entities, e.element = owner ∧ ∃ f : Entity → Collection,
      ({ c with accessors := a } : Collection).change m owner member edit = (edit e).map f := by
  obtain ⟨e, he, rfl⟩ := h.exists_mem howner
  obtain ⟨before, after, -, hchange⟩ :=
    change_of_mem (c := { c with accessors := a }) he h.nodup m member edit
  exact ⟨e, he, rfl, _, hchange⟩

theorem takeColumn (h : c.GathersAll m b nonNull known taken made)
    (hstep : c.takeColumn m b id = (.ok (), c')) :
    c'.GathersAll m b nonNull known (taken ++ [id]) made := by
  cases hpass : m.passesOver b.vocabulary id with
  | true =>
    -- a warning is added, and the member counts as one of no entity
    obtain ⟨f, -, hf⟩ := takeColumn_of_passesOver (b := b) hpass
    rw [hf] at hstep
    cases hstep
    refine ⟨h.classes, ?_, ?_, h.creators, fun e he => ?_, ?_⟩
    · rw [Model.accessorsAfter_concat_of_passesOver hpass]
      exact h.accessors
    · exact (Model.readsAll_append _ _).2 ⟨h.reads, .inl hpass, trivial⟩
    · exact (h.gathers e he).of_columnsOf (Model.columnsOf_concat_of_passesOver hpass)
    · simp [h.warnings, hpass]
  | false =>
    rw [takeColumn_eq c hpass] at hstep
    obtain ⟨column, hread, hchange⟩ := exists_of_bind_eq_ok (settle_ok hstep)
    rw [h.accessors] at hread hchange
    have hkeep : ∀ e e' : Entity, e.addColumn b.vocabulary column = .ok e' →
        e'.element = e.element := by
      intro e e' hadd
      obtain ⟨-, rfl⟩ := Entity.addColumn_eq_ok_iff.1 hadd
      rfl
    obtain ⟨hclasses, haccessors, hwarnings, hentities⟩ :=
      change_entities hchange hkeep h.nodup
    refine ⟨hclasses.trans h.classes, ?_, ?_, h.creators, fun e' he' => ?_, ?_⟩
    · rw [haccessors, Model.accessorsAfter_append]
      rfl
    · exact (Model.readsAll_append _ _).2 ⟨h.reads, .inr ⟨column, hread⟩, trivial⟩
    · -- the column goes to the entity of its class and to no other
      rcases hentities e' he' with ⟨he, hne⟩ | ⟨e, he, heq, hadd⟩
      · refine (h.gathers e' he).of_columnsOf ?_
        rw [Model.columnsOf_concat hread, if_neg hne.symm, List.append_nil]
      · exact (h.gathers e he).addColumn hread heq.symm hadd
    · rw [hwarnings]
      simp [h.warnings, hpass]

theorem takeCreator (h : c.GathersAll m b nonNull known taken made)
    (hstep : c.takeCreator m b id = (.ok (), c')) :
    c'.GathersAll m b nonNull known taken (made ++ [id]) := by
  obtain ⟨hcheck, hchange⟩ := takeCreator_ok hstep
  have howner := (Model.owner_of_checkCreator hcheck).1
  have hkeep : ∀ e e' : Entity, e.addCreator (m.creator id) = .ok e' →
      e'.element = e.element := by
    intro e e' hadd
    obtain ⟨-, rfl⟩ := Entity.addCreator_eq_ok_iff.1 hadd
    rfl
  obtain ⟨hclasses, haccessors, hwarnings, hentities⟩ :=
    change_entities hchange hkeep h.nodup
  refine ⟨hclasses.trans h.classes, haccessors.trans h.accessors, h.reads, ?_, fun e' he' => ?_,
    hwarnings ▸ h.warnings⟩
  · intro x hx
    rcases List.mem_append.1 hx with hx | hx
    · exact h.creators x hx
    · rw [List.mem_singleton.1 hx]
      exact hcheck
  · rcases hentities e' he' with ⟨he, hne⟩ | ⟨e, he, heq, hadd⟩
    · refine (h.gathers e' he).of_membersAmong (Model.membersAmong_concat_of_ne ?_)
      rw [howner]
      exact fun heq => hne (Option.some.inj heq).symm
    · exact (h.gathers e he).addCreator (by rw [howner, heq]) hadd

/-- A member fails for a reason of its own, or because the entity of its class does not take it. -/
theorem takeColumn_fails (h : c.GathersAll m b nonNull known taken made) (id : ElementId) :
    Fails Fault.Refusal (c.takeColumn m b id).1 := by
  cases hpass : m.passesOver b.vocabulary id with
  | true =>
    obtain ⟨f, -, hf⟩ := takeColumn_of_passesOver (b := b) hpass
    rw [hf]
    exact Fails.ok _
  | false =>
    rw [takeColumn_eq c hpass]
    refine settle_fails ((Model.readColumn_fails hpass).bind fun column hread => ?_)
    obtain ⟨e, -, -, f, hchange⟩ :=
      h.exists_change_eq (m.checkColumn b.vocabulary c.accessors id).2
        (Model.owner_of_readColumn hread).2.2 id (·.addColumn b.vocabulary column)
    rw [hchange]
    exact (e.addColumn_fails _ _).map f

theorem takeCreator_fails (h : c.GathersAll m b nonNull known taken made) (id : ElementId) :
    Fails Fault.Refusal (c.takeCreator m b id).1 := by
  refine settle_fails ((m.checkCreator_fails b.vocabulary id).bind fun _ hcheck => ?_)
  obtain ⟨e, -, -, f, hchange⟩ := h.exists_change_eq c.accessors
    (Model.owner_of_checkCreator hcheck).2 id (·.addCreator (m.creator id))
  rw [hchange]
  exact (e.addCreator_fails _).map f

end GathersAll

/-- Taking the classes gives one entity for each, without columns. -/
theorem gathersAll_of_takeClass
    (h : each (takeClass m b nonNull) (m.annotatedWith b.vocabulary.type.qualified)
      ⟨[], known, []⟩ = (.ok (), c)) : c.GathersAll m b nonNull known [] [] := by
  have hrun := each_ok
    (P := fun taken c => c.entities.map (·.element) = taken ∧ c.accessors = known ∧
      (∀ e ∈ c.entities, e.Gathers m b nonNull known [] []) ∧ c.warnings = []) ?_ []
      ⟨rfl, rfl, by simp, rfl⟩ h
  · obtain ⟨hclasses, haccessors, hgathers, hwarnings⟩ := hrun
    exact ⟨hclasses, haccessors, trivial, by simp, hgathers, by rw [hwarnings]; rfl⟩
  · rintro taken id c c' ⟨hclasses, haccessors, hgathers, hwarnings⟩ hstep
    obtain ⟨e, he, rfl⟩ := takeClass_ok hstep
    obtain ⟨config, -, -, hshape⟩ := Model.entity_ok he
    have helement : e.element = id := by rw [hshape]
    refine ⟨by simp [hclasses, helement], haccessors, fun x hx => ?_, hwarnings⟩
    rcases List.mem_append.1 hx with hx | hx
    · exact hgathers x hx
    · rw [List.mem_singleton.1 hx]
      have hcolumns : e.columns = [] := by rw [hshape]
      refine ⟨⟨e, helement ▸ he, rfl⟩, hcolumns, by rw [hcolumns]; exact .nil, ?_, ?_⟩
      · rw [hcolumns, helement, hshape]
        simp
      · rw [hshape]
        rfl

/-- All columns that have been stored are among some. -/
def StoresAmong (cs : List Column) (c : Collection) : Prop :=
  ∀ e ∈ c.entities, ∀ column ∈ e.columns, column ∈ cs

theorem takeClass_stores (c : Collection) (id : ElementId) (h : c.StoresAmong []) :
    (c.takeClass m b nonNull id).2.StoresAmong [] := by
  refine settle_keeps h fun d hd => ?_
  obtain ⟨e, he, rfl⟩ := exists_of_map_eq_ok hd
  obtain ⟨config, -, -, rfl⟩ := Model.entity_ok he
  intro x hx column hcolumn
  rcases List.mem_append.1 hx with hx | hx
  · exact h x hx column hcolumn
  · rw [List.mem_singleton.1 hx] at hcolumn
    exact absurd hcolumn List.not_mem_nil

theorem takeCreator_stores {cs : List Column} (c : Collection) (id : ElementId)
    (h : c.StoresAmong cs) : (c.takeCreator m b id).2.StoresAmong cs := by
  refine settle_keeps h fun d hd => ?_
  obtain ⟨⟨⟩, -, hchange⟩ := exists_of_bind_eq_ok hd
  obtain ⟨before, e, after, e', hes, -, hadd, rfl⟩ := change_ok hchange
  obtain ⟨-, rfl⟩ := Entity.addCreator_eq_ok_iff.1 hadd
  intro x hx column hcolumn
  -- the changed entity has the columns that it had
  rcases List.mem_append.1 hx with hx | hx
  · exact h x (by simp [hes, hx]) column hcolumn
  · rcases List.mem_cons.1 hx with rfl | hx
    · exact h e (by simp [hes]) column hcolumn
    · exact h x (by simp [hes, hx]) column hcolumn

/-- A member that is refused leaves the entities as they are. -/
theorem takeColumn_entities {f : Fault}
    (h : (c.takeColumn m b id).1 = .error f) :
    (c.takeColumn m b id).2.entities = c.entities := by
  cases hpass : m.passesOver b.vocabulary id with
  | true =>
    obtain ⟨g, -, hstep⟩ := takeColumn_of_passesOver (b := b) hpass
    rw [hstep]
  | false =>
    rw [takeColumn_eq c hpass] at h ⊢
    rw [(settle_of_error h).2]

end Collection

/-! ### Collecting a whole model -/

namespace Model

variable {m : Model} {b : Backend} {nonNull : Code.ClassName} {known : Accessors}
  {c : Collection}

theorem collect_eq (m : Model) (b : Backend) (nonNull : Code.ClassName) (known : Accessors) :
    m.collect b nonNull known =
      Collection.andThen
        (Collection.each (Collection.takeClass m b nonNull)
          (m.annotatedWith b.vocabulary.type.qualified) ⟨[], known, []⟩) fun c =>
        Collection.andThen
          (Collection.each (Collection.takeColumn m b)
            (m.annotatedWith b.vocabulary.column.qualified) c)
          (Collection.each (Collection.takeCreator m b)
            (m.annotatedWith b.vocabulary.creator.qualified)) :=
  rfl

/-- A run of collecting parts into its three stages. -/
theorem collect_stages (h : m.collect b nonNull known = (.ok (), c)) :
    ∃ c₁ c₂,
      Collection.each (Collection.takeClass m b nonNull)
        (m.annotatedWith b.vocabulary.type.qualified) ⟨[], known, []⟩ = (.ok (), c₁) ∧
      Collection.each (Collection.takeColumn m b)
        (m.annotatedWith b.vocabulary.column.qualified) c₁ = (.ok (), c₂) ∧
      Collection.each (Collection.takeCreator m b)
        (m.annotatedWith b.vocabulary.creator.qualified) c₂ = (.ok (), c) := by
  rw [collect_eq] at h
  obtain ⟨c₁, h₁, h⟩ := Collection.andThen_ok h
  obtain ⟨c₂, h₂, h⟩ := Collection.andThen_ok h
  exact ⟨c₁, c₂, h₁, h₂, h⟩

/-- Taking members and creators gives what there is of them, all in order. -/
theorem gathersAll_of_takeColumn {taken : List ElementId} {c₁ : Collection}
    (h₁ : c₁.GathersAll m b nonNull known [] [])
    (h : Collection.each (Collection.takeColumn m b) taken c₁ = (.ok (), c)) :
    c.GathersAll m b nonNull known taken [] :=
  Collection.each_ok (P := fun taken c => c.GathersAll m b nonNull known taken [])
    (fun _ _ _ _ h => h.takeColumn) [] h₁ h

/-- A model without faults gives an entity for each annotated class, in order, with the columns that
its members are read as and its creator. -/
theorem collect_gathers (h : m.collect b nonNull known = (.ok (), c)) :
    c.GathersAll m b nonNull known (m.annotatedWith b.vocabulary.column.qualified)
      (m.annotatedWith b.vocabulary.creator.qualified) := by
  obtain ⟨c₁, c₂, hclasses, hcolumns, hcreators⟩ := collect_stages h
  have h₂ := gathersAll_of_takeColumn (Collection.gathersAll_of_takeClass hclasses) hcolumns
  exact Collection.each_ok
    (P := fun made c => c.GathersAll m b nonNull known
      (m.annotatedWith b.vocabulary.column.qualified) made)
    (fun _ _ _ _ h => h.takeCreator) [] h₂ hcreators

/-- A model without faults gives an entity for each annotated class, in order, with a column for
each of its members, in order, and a warning for each member that is passed over. -/
theorem collect_ok (h : m.collect b nonNull known = (.ok (), c)) :
    c.HoldsAll m b nonNull (m.annotatedWith b.vocabulary.column.qualified) :=
  (collect_gathers h).holdsAll

/-- A model with faults ends collecting in a refusal. -/
theorem collect_fails : Fails Fault.Refusal (m.collect b nonNull known).1 := by
  rw [collect_eq]
  refine Collection.andThen_fails ?_ fun c₁ h₁ => Collection.andThen_fails ?_ fun c₂ h₂ => ?_
  · exact Collection.each_fails (P := fun _ _ => True)
      (fun _ id _ _ => Collection.settle_fails ((m.entity_fails b id nonNull).map _))
      (fun _ _ _ _ _ _ => trivial) _ trivial
  · exact Collection.each_fails (P := fun taken c => c.GathersAll m b nonNull known taken [])
      (fun _ id _ h => h.takeColumn_fails id) (fun _ _ _ _ h => h.takeColumn) _
      (Collection.gathersAll_of_takeClass h₁)
  · exact Collection.each_fails
      (P := fun made c => c.GathersAll m b nonNull known
        (m.annotatedWith b.vocabulary.column.qualified) made)
      (fun _ id _ h => h.takeCreator_fails id) (fun _ _ _ _ h => h.takeCreator) _
      (gathersAll_of_takeColumn (Collection.gathersAll_of_takeClass h₁) h₂)

/-- What the steps of all three stages keep, succeed or fail, collecting keeps. -/
theorem collect_keeps {Q : Collection → Prop} (start : Q ⟨[], known, []⟩)
    (hclass : ∀ c, ∀ id ∈ m.annotatedWith b.vocabulary.type.qualified,
      Q c → Q (Collection.takeClass m b nonNull c id).2)
    (hcolumn : ∀ c, ∀ id ∈ m.annotatedWith b.vocabulary.column.qualified,
      Q c → Q (Collection.takeColumn m b c id).2)
    (hcreator : ∀ c, ∀ id ∈ m.annotatedWith b.vocabulary.creator.qualified,
      Q c → Q (Collection.takeCreator m b c id).2) :
    Q (m.collect b nonNull known).2 := by
  have hclasses :=
    Collection.each_keeps (m.annotatedWith b.vocabulary.type.qualified) hclass _ start
  rw [collect_eq]
  refine Collection.andThen_keeps hclasses fun c₁ h₁ => ?_
  rw [h₁] at hclasses
  have hcolumns :=
    Collection.each_keeps (m.annotatedWith b.vocabulary.column.qualified) hcolumn _ hclasses
  refine Collection.andThen_keeps hcolumns fun c₂ h₂ => ?_
  rw [h₂] at hcolumns
  exact Collection.each_keeps _ hcreator _ hcolumns

/-- Whether or not collecting succeeds, its warnings are about members that are passed over. -/
theorem collect_warns : (m.collect b nonNull known).2.WarnsOfPassedOver :=
  collect_keeps (fun _ h => absurd h List.not_mem_nil)
    (fun c id _ => Collection.takeClass_warns c id)
    (fun c id _ => Collection.takeColumn_warns c id)
    (fun c id _ => Collection.takeCreator_warns c id)

/-- Whether or not collecting succeeds, every column that is stored has been read, and so have the
members before it that are not passed over. -/
theorem columns_of_collect : ∃ done, done <+: m.annotatedWith b.vocabulary.column.qualified ∧
    m.ReadsAll b known done ∧
    (m.collect b nonNull known).2.StoresAmong (m.columnsFrom b known done) := by
  have h₁ : (Collection.each (Collection.takeClass m b nonNull)
      (m.annotatedWith b.vocabulary.type.qualified) ⟨[], known, []⟩).2.StoresAmong [] :=
    Collection.each_keeps _ (fun c id _ => Collection.takeClass_stores c id) _
      fun _ h => absurd h List.not_mem_nil
  unfold collect
  dsimp only
  split
  · next f c₁ hclasses =>
    rw [hclasses] at h₁
    exact ⟨[], List.nil_prefix, trivial, h₁⟩
  · next c₁ hclasses =>
    have hgathers := Collection.gathersAll_of_takeClass hclasses
    obtain ⟨done, rest, d, hsplit, hdone, hend⟩ := Collection.each_split
      (Collection.takeColumn m b) (m.annotatedWith b.vocabulary.column.qualified) c₁
    have hd := gathersAll_of_takeColumn hgathers hdone
    have hstores : d.StoresAmong (m.columnsFrom b known done) := by
      intro e he column hcolumn
      rw [(hd.gathers e he).columns] at hcolumn
      exact List.mem_of_mem_filter hcolumn
    refine ⟨done, ⟨rest, hsplit.symm⟩, hd.reads, ?_⟩
    rcases hend with ⟨-, hcolumns⟩ | ⟨id, more, f, -, hfails, hcolumns⟩
    · rw [hcolumns]
      exact Collection.each_keeps _ (fun c id _ => Collection.takeCreator_stores c id) _ hstores
    · rw [hcolumns]
      intro e he
      rw [Collection.takeColumn_entities hfails] at he
      exact hstores e he

end Model

end ResolverGen
