/-
Rounds of a processor that has had others.

A processor keeps the accessors that its rounds found, so a later round can differ from the first
round of a new processor: what has been found for a field is not looked for again. Every accessor
that is remembered was found in an earlier round for a private field of that class name, name and
type (`after_spec`), and it is all that an earlier round leaves behind: where what is remembered
agrees with what a new processor would find (`Accessors.Agrees`), a round does what it would do as
the first one (`round_of_agrees`).
-/
import ResolverGen.Proofs.Collection.Accessors
import ResolverGen.Proofs.Round.Accepted
import ResolverGen.Store.Sources

namespace ResolverGen

/-- Whether the accessors remembered for the members of a model are those that a new processor knows
when it has checked them. -/
structure Accessors.Agrees (known : Accessors) (m : Model) (b : Backend) : Prop where
  getters : ∀ id ∈ m.annotatedWith b.vocabulary.column.qualified,
    known.getters.lookup (m.accessorKey id) = none ∨
      known.getters.lookup (m.accessorKey id) = m.knownGetter? b id
  setters : ∀ id ∈ m.annotatedWith b.vocabulary.column.qualified,
    known.setters.lookup (m.accessorKey id) = none ∨
      known.setters.lookup (m.accessorKey id) = m.knownSetter? b id

/-- Whether all accessors that are remembered have been found for private fields of some models. -/
structure Accessors.FoundIn (known : Accessors) (b : Backend) (models : List Model) : Prop where
  getters : ∀ key name, known.getters.lookup key = some name → ∃ m ∈ models,
    ∃ id ∈ m.annotatedWith b.vocabulary.column.qualified, m.isHidden b.vocabulary id = true ∧
      m.accessorKey id = key ∧ m.getterOf? id = some name
  setters : ∀ key name, known.setters.lookup key = some name → ∃ m ∈ models,
    ∃ id ∈ m.annotatedWith b.vocabulary.column.qualified, m.isHidden b.vocabulary id = true ∧
      m.accessorKey id = key ∧ m.setterOf? id = some name

/-! ### What a member is read as -/

namespace Model

variable {m : Model} {b : Backend} {known : Accessors} {id : ElementId}

/-- Where what is remembered agrees with what is found, a member is read as by a new processor. -/
theorem readColumn_of_agrees (hagrees : known.Agrees m b) {taken rest : List ElementId}
    (hall : m.annotatedWith b.vocabulary.column.qualified = taken ++ id :: rest)
    (h : m.ReadsAll b known taken) (h' : m.ReadsAll b .empty taken) :
    m.readColumn b (m.accessorsAfter b known taken) id =
      m.readColumn b (m.accessorsAfter b .empty taken) id := by
  have hid : id ∈ m.annotatedWith b.vocabulary.column.qualified := by simp [hall]
  have hgetters := hagrees.getters id hid
  have hsetters := hagrees.setters id hid
  rw [knownGetter?, membersUpTo_eq hall] at hgetters
  rw [knownSetter?, membersUpTo_eq hall] at hsetters
  -- what is known at first is what a new processor finds, or it is nothing
  refine readColumn_congr ?_ fun hcheck hcheck' => ?_
  · rw [getter?_checkColumn, getter?_checkColumn]
    rcases hgetters with hnone | hfound
    · rw [hnone]
      rfl
    · rw [hfound, Option.or_self]
      rfl
  · rw [setter?_checkColumn h hcheck, setter?_checkColumn h' hcheck']
    rcases hsetters with hnone | hfound
    · rw [hnone]
      rfl
    · rw [hfound, Option.or_self]
      rfl

end Model

/-! ### Collecting with accessors that agree -/

namespace Collection

variable {m : Model} {b : Backend} {nonNull : Code.ClassName} {c d : Collection} {id : ElementId}

/-- A change does not depend on the accessors. -/
theorem change_alike (h : c.Alike d) (owner member : ElementId)
    (edit : Entity → Except Fault Entity) :
    SameEnd (c.settle (c.change m owner member edit)) (d.settle (d.change m owner member edit)) := by
  obtain ⟨entities, a, warnings⟩ := c
  obtain ⟨_, a', _⟩ := d
  obtain ⟨rfl, rfl⟩ := h
  unfold change
  cases Entity.changeOwner edit owner entities with
  | none => exact ⟨rfl, rfl, rfl⟩
  | some result => cases result <;> exact ⟨rfl, rfl, rfl⟩

theorem takeClass_alike (h : c.Alike d) (id : ElementId) :
    SameEnd (c.takeClass m b nonNull id) (d.takeClass m b nonNull id) := by
  unfold takeClass
  cases m.entity b nonNull id with
  | error f => exact ⟨rfl, h⟩
  | ok e => exact ⟨rfl, congrArg (· ++ [e]) h.1, h.2⟩

/-- All that a step needs of the accessors is what the member is read as. -/
theorem takeColumn_alike (h : c.Alike d)
    (hread : m.readColumn b c.accessors id = m.readColumn b d.accessors id) :
    SameEnd (c.takeColumn m b id) (d.takeColumn m b id) := by
  cases hpass : m.passesOver b.vocabulary id with
  | true =>
    obtain ⟨f, -, hstep⟩ := takeColumn_of_passesOver (b := b) hpass
    rw [hstep, hstep]
    exact ⟨rfl, h.1, congrArg (· ++ [f]) h.2⟩
  | false =>
    have hlearned : ({ c with accessors := (m.checkColumn b.vocabulary c.accessors id).2 } :
        Collection).Alike
          { d with accessors := (m.checkColumn b.vocabulary d.accessors id).2 } := h
    rw [takeColumn_eq c hpass, takeColumn_eq d hpass, hread]
    cases m.readColumn b d.accessors id with
    | error f => exact ⟨rfl, h⟩
    | ok column =>
      exact change_alike hlearned column.enclosing id (·.addColumn b.vocabulary column)

theorem takeCreator_alike (h : c.Alike d) (id : ElementId) :
    SameEnd (c.takeCreator m b id) (d.takeCreator m b id) := by
  unfold takeCreator
  cases m.checkCreator b.vocabulary id with
  | error f => exact ⟨rfl, h⟩
  | ok => exact change_alike h _ _ _

end Collection

/-- Where what is remembered agrees with what is found, a model is collected as by a new processor. -/
theorem Model.collect_of_agrees {m : Model} {b : Backend} {known : Accessors}
    (hagrees : known.Agrees m b) (nonNull : Code.ClassName) :
    Collection.SameEnd (m.collect b nonNull known) (m.collect b nonNull .empty) := by
  rw [collect_eq, collect_eq]
  refine Collection.SameEnd.andThen ?_ fun c₁ d₁ h₁ h₁' halike₁ => ?_
  · exact Collection.each_alike _ (P := fun _ _ => True) (Q := fun _ _ => True)
      (fun _ _ _ _ _ _ => trivial) (fun _ _ _ _ _ _ => trivial)
      (fun _ id _ _ _ _ _ _ h => Collection.takeClass_alike h id) trivial trivial ⟨rfl, rfl⟩
  refine Collection.SameEnd.andThen ?_ fun c₂ d₂ _ _ halike₂ => ?_
  · -- what each run knows by then depends on the members that it has taken
    refine Collection.each_alike _
      (P := fun taken c => c.GathersAll m b nonNull known taken [])
      (Q := fun taken d => d.GathersAll m b nonNull .empty taken [])
      (fun _ _ _ _ h => h.takeColumn) (fun _ _ _ _ h => h.takeColumn)
      (fun taken id rest c d hall hc hd h => Collection.takeColumn_alike h ?_)
      (Collection.gathersAll_of_takeClass h₁) (Collection.gathersAll_of_takeClass h₁') halike₁
    rw [hc.accessors, hd.accessors]
    exact readColumn_of_agrees hagrees hall hc.reads hd.reads
  · exact Collection.each_alike _ (P := fun _ _ => True) (Q := fun _ _ => True)
      (fun _ _ _ _ _ _ => trivial) (fun _ _ _ _ _ _ => trivial)
      (fun _ id _ _ _ _ _ _ h => Collection.takeCreator_alike h id) trivial trivial halike₂

/-! ### What a processor remembers -/

namespace Accessors.FoundIn

variable {known : Accessors} {b : Backend} {models more : List Model} {m : Model}

theorem empty (b : Backend) : Accessors.empty.FoundIn b [] :=
  ⟨fun _ _ h => (by cases h), fun _ _ h => (by cases h)⟩

theorem mono (h : known.FoundIn b models) (hsub : models ⊆ more) : known.FoundIn b more := by
  refine ⟨fun key name hname => ?_, fun key name hname => ?_⟩
  · obtain ⟨m, hm, hfound⟩ := h.getters key name hname
    exact ⟨m, hsub hm, hfound⟩
  · obtain ⟨m, hm, hfound⟩ := h.setters key name hname
    exact ⟨m, hsub hm, hfound⟩

/-- Checking a member adds what the member itself finds. -/
theorem checkColumn (h : known.FoundIn b models) (hm : m ∈ models) {id : ElementId}
    (hid : id ∈ m.annotatedWith b.vocabulary.column.qualified) :
    (m.checkColumn b.vocabulary known id).2.FoundIn b models := by
  refine ⟨fun key name hname => ?_, fun key name hname => ?_⟩
  · rw [Model.lookup_getters_checkColumn, Option.or_eq_some_iff] at hname
    rcases hname with hname | ⟨-, hname⟩
    · exact h.getters key name hname
    · exact ⟨m, hm, id, hid, Model.accessorFor?_eq_some_iff.1 hname⟩
  · rcases Model.lookup_setters_of_checkColumn hname with hname | hname
    · exact h.setters key name hname
    · exact ⟨m, hm, id, hid, Model.accessorFor?_eq_some_iff.1 hname⟩

theorem collect (h : known.FoundIn b models) (hm : m ∈ models) (nonNull : Code.ClassName) :
    (m.collect b nonNull known).2.accessors.FoundIn b models := by
  refine Model.collect_keeps (Q := fun c => c.accessors.FoundIn b models) h
    (fun c id _ hc => ?_) (fun c id hid hc => ?_) (fun c id _ hc => ?_)
  · rw [Collection.takeClass_accessors]
    exact hc
  · rw [Collection.takeColumn_accessors]
    exact hc.checkColumn hm hid
  · rw [Collection.takeCreator_accessors]
    exact hc

end Accessors.FoundIn

namespace Processor

variable {σ : Type} {b : Backend} {settings : Settings}

/-- A processor after rounds over some models, each of which writes to a store of its own. -/
def after (write : σ → Code.SourceUnit → Except String σ) (p : Processor)
    (history : List (Model × σ)) : Processor :=
  history.foldl (fun p (m, s) => (p.round m write s).processor) p

theorem after_cons (write : σ → Code.SourceUnit → Except String σ) (p : Processor) (m : Model)
    (s : σ) (history : List (Model × σ)) :
    p.after write ((m, s) :: history) = (p.round m write s).processor.after write history :=
  rfl

theorem round_processor (p : Processor) (m : Model)
    (write : σ → Code.SourceUnit → Except String σ) (s : σ) :
    (p.round m write s).processor =
      { p with accessors := (m.collect p.backend (p.nonNullMark m) p.accessors).2.accessors } := by
  unfold round
  split
  next units c hunits =>
    have hc : (m.collect p.backend (p.nonNullMark m) p.accessors).2 = c := congrArg Prod.snd hunits
    rw [hc]
    cases units <;> rfl

/-- A processor stays what it is but for what it remembers, and that has been found in the models of
its rounds. -/
theorem after_spec (write : σ → Code.SourceUnit → Except String σ) (history : List (Model × σ)) :
    ∀ {p : Processor} {models : List Model}, p.accessors.FoundIn p.backend models →
      (p.after write history).backend = p.backend ∧
        (p.after write history).settings = p.settings ∧
        (p.after write history).accessors.FoundIn p.backend (models ++ history.map (·.1)) := by
  induction history with
  | nil =>
    intro p models h
    rw [List.map_nil, List.append_nil]
    exact ⟨rfl, rfl, h⟩
  | cons first history ih =>
    intro p models h
    obtain ⟨m, s⟩ := first
    -- the first round leaves a processor whose accessors are found in one model more
    have hround := p.round_processor m write s
    have hfound : (p.round m write s).processor.accessors.FoundIn
        (p.round m write s).processor.backend (models ++ [m]) := by
      rw [hround]
      exact (h.mono (List.subset_append_left _ _)).collect (by simp) _
    obtain ⟨hbackend, hsettings, hafter⟩ := ih hfound
    rw [hround] at hbackend hsettings hafter
    refine ⟨?_, ?_, ?_⟩
    · rw [after_cons, hround]
      exact hbackend
    · rw [after_cons, hround]
      exact hsettings
    · rw [after_cons, hround]
      rw [List.append_assoc] at hafter
      exact hafter

/-- Where what is remembered agrees with what is found, a round does what the first round of a new
processor does. -/
theorem round_of_agrees {p : Processor} {m : Model} (hagrees : p.accessors.Agrees m p.backend)
    (write : σ → Code.SourceUnit → Except String σ) (s : σ) :
    (p.round m write s).generated = ((initial p.backend p.settings).round m write s).generated ∧
      (p.round m write s).diagnostics =
        ((initial p.backend p.settings).round m write s).diagnostics ∧
      (p.round m write s).store = ((initial p.backend p.settings).round m write s).store := by
  obtain ⟨hresult, hentities, hwarnings⟩ := Model.collect_of_agrees hagrees (p.nonNullMark m)
  have hunits : (p.units m).1 = ((initial p.backend p.settings).units m).1 := by
    rw [units_eq, units_eq]
    dsimp only
    rw [hresult, hentities]
    rfl
  have hwarn : (p.units m).2.warnings = ((initial p.backend p.settings).units m).2.warnings :=
    hwarnings
  -- what is written and reported is made of the units and the warnings alone
  unfold round
  cases h : p.units m with
  | mk units c =>
  cases h' : (initial p.backend p.settings).units m with
  | mk units' c' =>
  rw [h, h'] at hunits hwarn
  obtain rfl : units = units' := hunits
  have hsame : c.warnings = c'.warnings := hwarn
  cases units with
  | error f => exact ⟨rfl, congrArg (fun ws => (ws ++ [f]).map Fault.report) hsame, rfl⟩
  | ok units =>
    exact ⟨rfl, congrArg (fun ws => (ws ++
      ((writeAll write units s).failure.map Fault.unwritable).toList).map Fault.report) hsame, rfl⟩

/-- Whatever rounds a processor has had, all that it remembers has been found in their models. Where
that agrees with what a new processor would find, its next round writes and reports what the first
round of a new processor would. -/
theorem round_after (b : Backend) (settings : Settings)
    (write : σ → Code.SourceUnit → Except String σ) (history : List (Model × σ)) (m : Model)
    (s : σ) :
    ((initial b settings).after write history).accessors.FoundIn b (history.map (·.1)) ∧
      (((initial b settings).after write history).accessors.Agrees m b →
        (((initial b settings).after write history).round m write s).generated =
            ((initial b settings).round m write s).generated ∧
          (((initial b settings).after write history).round m write s).diagnostics =
            ((initial b settings).round m write s).diagnostics ∧
          (((initial b settings).after write history).round m write s).store =
            ((initial b settings).round m write s).store) := by
  obtain ⟨hbackend, hsettings, hfound⟩ := after_spec write history
    (show (initial b settings).accessors.FoundIn (initial b settings).backend [] from .empty b)
  refine ⟨hfound, fun hagrees => ?_⟩
  have hround := round_of_agrees (p := (initial b settings).after write history) (m := m)
    (by rw [hbackend]; exact hagrees) write s
  rw [hbackend, hsettings] at hround
  exact hround

/-! ### A class that changes between rounds -/

/-- A class with a private field and some methods. -/
def nameModel (methods : List Element) : Model :=
  ⟨[], [Element.ofKind .package "com.test",
    { Element.ofKind .classType "User" with
      enclosing := some 0
      annotations := [⟨"StorIOSQLiteType", some "table = \"users\""⟩] },
    { Element.ofKind .field "name" with
      enclosing := some 1
      type := some "java.lang.String"
      modifiers := [.privateAccess]
      annotations := [⟨"StorIOSQLiteColumn", some "name = \"name\", key = true"⟩] }] ++
    methods.map fun method => { method with enclosing := some 1 }⟩

/-- A getter of the field. -/
def getName : Element :=
  { Element.ofKind .method "getName" with type := some "java.lang.String" }

/-- A setter of the field. -/
def setName : Element :=
  { Element.ofKind .method "setName" with
    type := some "void"
    parameters := [⟨"name", "java.lang.String"⟩] }

/-- A class that has lost its getter is refused by a new processor, but not by one that remembers
the getter. -/
theorem round_after_forgotten_getter :
    (((initial .sqlite .unset).after Sources.write [(nameModel [getName, setName], .empty)]).round
        (nameModel [setName]) Sources.write .empty).generated =
      ["com.test.UserStorIOSQLitePutResolver", "com.test.UserStorIOSQLiteGetResolver",
        "com.test.UserStorIOSQLiteDeleteResolver", "com.test.UserSQLiteTypeMapping"] ∧
    ((initial .sqlite .unset).round (nameModel [setName]) Sources.write .empty).generated = [] := by
  decide +kernel

/-- What a processor remembers of the field. -/
theorem accessors_after_nameModel :
    ((initial .sqlite .unset).after Sources.write
        [(nameModel [getName, setName], .empty)]).accessors =
      ⟨[(⟨"com.test.User", "name", some "java.lang.String"⟩, "getName")],
        [(⟨"com.test.User", "name", some "java.lang.String"⟩, "setName")]⟩ := by
  decide +kernel

/-- A class whose methods have been moved is taken as by a new processor. -/
theorem round_after_moved_methods :
    ((initial .sqlite .unset).after Sources.write
        [(nameModel [getName, setName], .empty)]).accessors.Agrees
      (nameModel [setName, getName]) .sqlite ∧
    (((initial .sqlite .unset).after Sources.write [(nameModel [getName, setName], .empty)]).round
        (nameModel [setName, getName]) Sources.write .empty).generated =
      ((initial .sqlite .unset).round (nameModel [setName, getName]) Sources.write
        .empty).generated := by
  have hagrees : ((initial .sqlite .unset).after Sources.write
      [(nameModel [getName, setName], .empty)]).accessors.Agrees
        (nameModel [setName, getName]) .sqlite := by
    rw [accessors_after_nameModel]
    exact ⟨by decide +kernel, by decide +kernel⟩
  exact ⟨hagrees, ((round_after .sqlite .unset Sources.write _ _ .empty).2 hagrees).1⟩

end Processor

end ResolverGen
