/-
Members that are passed over.

A member of a class that is not annotated itself while its superclass is leaves a warning and nothing
else. `Model.withoutSkipped` takes the column annotations off all such members. A round over what is
left does and reports the same but for the warnings (`round_withoutSkipped`), and the warnings are
about the members passed over before the first one that stops the round.
-/
import ResolverGen.Proofs.Collection.Exactness
import ResolverGen.Proofs.Collection.Likeness
import ResolverGen.Proofs.Round.Accepted

namespace ResolverGen

open Code

/-- An element without the annotations that denote a type. -/
def Element.without (e : Element) (mark : String) : Element :=
  { e with annotations := e.annotations.filter fun a => !a.denotes mark }

/-- A model without the column annotations of the members that a backend passes over. -/
def Model.withoutSkipped (m : Model) (b : Backend) : Model :=
  { m with
    elements := m.elements.mapIdx fun id e =>
      if m.passesOver b.vocabulary id then e.without b.vocabulary.column.qualified else e }

variable {b : Backend} {m : Model} {nonNull : ClassName} {known : Accessors}

/-! ### Taking annotations off -/

/-- An annotation has the simple name of every type that it denotes. -/
theorem Annotation.simpleName_of_denotes {a : Annotation} {mark : String}
    (h : a.denotes mark = true) : a.simpleName = Code.simpleName mark := by
  unfold denotes at h
  rw [Bool.or_eq_true, decide_eq_true_eq, Bool.and_eq_true, decide_eq_true_eq] at h
  rcases h with h | ⟨hdot, h⟩
  · rw [simpleName, h]
  · have hnodot : '.' ∉ a.name.toList := by simpa using hdot
    rw [simpleName, Code.simpleName, ClassName.ofQualified, Text.cutLast?_eq_none hnodot, h]

theorem Backend.simpleName_ne_column {mark : String} (h : mark ∈ b.marks)
    (hne : mark ≠ b.vocabulary.column.qualified) :
    Code.simpleName mark ≠ Code.simpleName b.vocabulary.column.qualified := by
  have hall : ∀ mark ∈ b.marks, mark ≠ b.vocabulary.column.qualified →
      Code.simpleName mark ≠ Code.simpleName b.vocabulary.column.qualified := by
    cases b <;> decide +kernel
  exact hall mark h hne

namespace Element

variable {e : Element} {mark other : String}

theorem annotation?_without (h : Code.simpleName mark ≠ Code.simpleName other) :
    (e.without other).annotation? mark = e.annotation? mark := by
  -- no annotation denotes types of different simple names
  have hdenotes (a : Annotation) :
      ((!a.denotes other) = true ∧ a.denotes mark = true) ↔ a.denotes mark = true := by
    refine and_iff_right_of_imp fun hmark => ?_
    rw [Bool.not_eq_true']
    by_contra hother
    rw [Bool.not_eq_false] at hother
    have hname := Annotation.simpleName_of_denotes hmark
    have hother := Annotation.simpleName_of_denotes hother
    exact h (hname.symm.trans hother)
  simp only [annotation?, without, List.find?_filter, hdenotes, Bool.decide_eq_true]

theorem isAnnotated_without : (e.without mark).isAnnotated mark = false := by
  have hnone : (e.without mark).annotation? mark = none := by
    rw [annotation?, List.find?_eq_none]
    intro a ha
    have hkept := (List.mem_filter.1 ha).2
    rw [Bool.not_eq_true'] at hkept
    rw [hkept]
    exact Bool.false_ne_true
  rw [isAnnotated, hnone]
  rfl

end Element

namespace Model

theorem element_withoutSkipped (m : Model) (b : Backend) (id : ElementId) :
    (m.withoutSkipped b).element id =
      if m.passesOver b.vocabulary id then
        (m.element id).without b.vocabulary.column.qualified
      else m.element id := by
  unfold element withoutSkipped
  simp only [List.getD_eq_getElem?_getD, List.getElem?_mapIdx]
  cases m.elements[id]? with
  | some e => rfl
  | none => exact (ite_self _).symm

/-- To a backend, a model looks the same without the annotations of what it passes over. -/
theorem looksLike_withoutSkipped (m : Model) (b : Backend) :
    m.LooksLike b (Equiv.refl _) (m.withoutSkipped b) := by
  have hsize : (m.withoutSkipped b).size = m.size := List.length_mapIdx
  have hshape (id : ElementId) :
      ((m.withoutSkipped b).element id).bare = (m.element id).bare := by
    rw [element_withoutSkipped]
    split <;> rfl
  refine ⟨rfl, hsize, fun id => ?_, fun id mark hmark hread => ?_, fun id _ => ?_⟩
  · rw [Element.moved_refl]
    exact hshape id
  · rw [Equiv.refl_apply, element_withoutSkipped]
    split
    · next hpass =>
      rw [hpass] at hread
      exact Element.annotation?_without
        (Backend.simpleName_ne_column hmark (hread.resolve_right (by simp)))
    · rfl
  · have hids : (m.withoutSkipped b).ids = m.ids := congrArg List.range hsize
    have henclosing (inner : ElementId) :
        ((m.withoutSkipped b).element inner).enclosing = (m.element inner).enclosing := by
      rw [element_withoutSkipped]
      split <;> rfl
    rw [enclosed, enclosed, hids]
    simp only [henclosing]
    exact (List.map_id' _).symm

/-- What is left to be taken as a column is what is not passed over. -/
theorem annotatedWith_withoutSkipped (m : Model) (b : Backend) :
    (m.withoutSkipped b).annotatedWith b.vocabulary.column.qualified =
      (m.annotatedWith b.vocabulary.column.qualified).filter
        fun id => !m.passesOver b.vocabulary id := by
  have hids : (m.withoutSkipped b).ids = m.ids :=
    congrArg List.range (m.looksLike_withoutSkipped b).size
  rw [annotatedWith, annotatedWith, hids, List.filter_filter]
  refine List.filter_congr fun id _ => ?_
  rw [element_withoutSkipped]
  cases m.passesOver b.vocabulary id with
  | true => exact Element.isAnnotated_without
  | false => simp

end Model

/-! ### Collecting without warnings -/

namespace Collection

variable {c : Collection} {id : ElementId}
  {step : Collection → ElementId → Except Fault Unit × Collection}

/-- A collection without its warnings. -/
def quiet (c : Collection) : Collection := { c with warnings := [] }

/-- A step or run without its warnings. -/
def hush (x : Except Fault Unit × Collection) : Except Fault Unit × Collection := (x.1, x.2.quiet)

theorem hush_andThen {x : Except Fault Unit × Collection}
    {f g : Collection → Except Fault Unit × Collection} (h : ∀ c, g c.quiet = hush (f c)) :
    andThen (hush x) g = hush (andThen x f) := by
  obtain ⟨result, c⟩ := x
  cases result with
  | error e => rfl
  | ok => exact h c

theorem each_quiet (h : ∀ c id, step c.quiet id = hush (step c id)) (ids : List ElementId)
    (c : Collection) : each step ids c.quiet = hush (each step ids c) := by
  induction ids generalizing c with
  | nil => rfl
  | cons id ids ih =>
    rw [each_cons, each_cons, h]
    exact hush_andThen ih

theorem settle_quiet (c : Collection) (x : Except Fault Collection) :
    c.quiet.settle (x.map quiet) = hush (c.settle x) := by
  cases x <;> rfl

theorem change_quiet (c : Collection) (owner member : ElementId)
    (edit : Entity → Except Fault Entity) :
    c.quiet.change m owner member edit = (c.change m owner member edit).map quiet := by
  unfold change
  have hentities : c.quiet.entities = c.entities := rfl
  rw [hentities]
  cases Entity.changeOwner edit owner c.entities with
  | none => rfl
  | some result => cases result <;> rfl

theorem takeClass_quiet (c : Collection) (id : ElementId) :
    c.quiet.takeClass m b nonNull id = hush (c.takeClass m b nonNull id) := by
  unfold takeClass
  cases m.entity b nonNull id <;> rfl

theorem takeColumn_quiet (h : m.passesOver b.vocabulary id = false) (c : Collection) :
    c.quiet.takeColumn m b id = hush (c.takeColumn m b id) := by
  have haccessors : c.quiet.accessors = c.accessors := rfl
  rw [takeColumn_eq _ h, takeColumn_eq _ h, haccessors]
  refine Eq.trans ?_ (settle_quiet _ _)
  cases m.readColumn b c.accessors id with
  | error f => rfl
  | ok column =>
    exact congrArg (settle _) (change_quiet
      { c with accessors := (m.checkColumn b.vocabulary c.accessors id).2 } column.enclosing id
      (·.addColumn b.vocabulary column))

theorem takeCreator_quiet (c : Collection) (id : ElementId) :
    c.quiet.takeCreator m b id = hush (c.takeCreator m b id) := by
  unfold takeCreator
  refine Eq.trans (congrArg (settle _) ?_) (settle_quiet _ _)
  cases m.checkCreator b.vocabulary id with
  | error f => rfl
  | ok => exact change_quiet _ _ _ _

/-- Members that are passed over make no difference but for their warnings, wherever they come. -/
theorem each_takeColumn_quiet (ids : List ElementId) (c : Collection) :
    each (takeColumn m b) (ids.filter fun id => !m.passesOver b.vocabulary id) c.quiet =
      hush (each (takeColumn m b) ids c) := by
  induction ids generalizing c with
  | nil => rfl
  | cons id ids ih =>
    cases hpass : m.passesOver b.vocabulary id with
    | true =>
      rw [List.filter_cons_of_neg (by simp [hpass]), each_cons, takeColumn_skips hpass]
      exact ih { c with warnings := c.warnings ++ [skipWarning b.vocabulary id] }
    | false =>
      rw [List.filter_cons_of_pos (by simp [hpass]), each_cons, each_cons,
        takeColumn_quiet hpass]
      exact hush_andThen ih

/-! ### The warnings -/

theorem change_warnings {c c' : Collection} {owner member : ElementId}
    {edit : Entity → Except Fault Entity} (h : c.change m owner member edit = .ok c') :
    c'.warnings = c.warnings := by
  obtain ⟨before, e, after, e', -, -, -, rfl⟩ := change_ok h
  rfl

theorem takeClass_warnings (c : Collection) (id : ElementId) :
    (c.takeClass m b nonNull id).2.warnings = c.warnings := by
  refine settle_keeps (Q := fun d => d.warnings = c.warnings) rfl fun d hd => ?_
  obtain ⟨e, -, rfl⟩ := exists_of_map_eq_ok hd
  rfl

theorem takeCreator_warnings (c : Collection) (id : ElementId) :
    (c.takeCreator m b id).2.warnings = c.warnings := by
  refine settle_keeps (Q := fun d => d.warnings = c.warnings) rfl fun d hd => ?_
  obtain ⟨⟨⟩, -, hchange⟩ := exists_of_bind_eq_ok hd
  exact change_warnings hchange

theorem takeColumn_warnings (h : m.passesOver b.vocabulary id = false) (c : Collection) :
    (c.takeColumn m b id).2.warnings = c.warnings := by
  rw [takeColumn_eq _ h]
  refine settle_keeps (Q := fun d => d.warnings = c.warnings) rfl fun d hd => ?_
  obtain ⟨column, -, hchange⟩ := exists_of_bind_eq_ok hd
  have hsame := change_warnings hchange
  exact hsame

/-- Taking classes adds no warnings. -/
theorem warnings_of_takeClass {ids : List ElementId} {c d : Collection} {result : Except Fault Unit}
    (h : each (takeClass m b nonNull) ids c = (result, d)) : d.warnings = c.warnings := by
  have hkept : (each (takeClass m b nonNull) ids c).2.warnings = c.warnings :=
    each_keeps (Q := fun d => d.warnings = c.warnings) ids
      (fun d id _ hd => (takeClass_warnings d id).trans hd) c rfl
  rwa [h] at hkept

/-- Taking members adds one warning for each that is passed over. -/
theorem each_takeColumn_warnings {taken : List ElementId} {c d : Collection}
    (h : each (takeColumn m b) taken c = (.ok (), d)) :
    d.warnings = c.warnings ++
      (taken.filter (m.passesOver b.vocabulary)).map (skipWarning b.vocabulary) := by
  refine each_ok (P := fun taken d => d.warnings = c.warnings ++
    (taken.filter (m.passesOver b.vocabulary)).map (skipWarning b.vocabulary)) ?_ []
    (List.append_nil _).symm h
  intro taken id d d' hd hstep
  have hd' : d' = (d.takeColumn m b id).2 := by rw [hstep]
  rw [List.filter_append, List.map_append, ← List.append_assoc, ← hd, hd']
  cases hpass : m.passesOver b.vocabulary id with
  | true =>
    rw [takeColumn_skips hpass, List.filter_cons_of_pos hpass]
    rfl
  | false =>
    rw [takeColumn_warnings hpass, List.filter_cons_of_neg (by simp [hpass])]
    exact (List.append_nil _).symm

end Collection

/-! ### How far the members are taken -/

/-- Whether some members can be taken one after the other: each is passed over or read in its turn,
and the columns of each class can stand together. -/
structure Model.Takes (m : Model) (b : Backend) (known : Accessors) (ids : List ElementId) : Prop
    where
  reads : m.ReadsAll b known ids
  compatible : ∀ owner ∈ m.annotatedWith b.vocabulary.type.qualified,
    Column.Compatible ((m.element owner).has .abstract) (m.columnsOf b known ids owner)

theorem Collection.GathersAll.takes {c : Collection} {taken made : List ElementId}
    (h : c.GathersAll m b nonNull known taken made) : m.Takes b known taken := by
  refine ⟨h.reads, fun owner howner => ?_⟩
  obtain ⟨e, he, rfl⟩ := h.exists_mem (mem_annotatedWith_iff.1 howner)
  rw [← (h.gathers e he).columns]
  exact (h.gathers e he).compatible

namespace Model

/-- Classes that can all be read are taken. -/
theorem each_takeClass_ok (known : Accessors)
    (h : ∀ id ∈ m.annotatedWith b.vocabulary.type.qualified, ∃ e, m.entity b nonNull id = .ok e) :
    ∃ c, Collection.each (Collection.takeClass m b nonNull)
      (m.annotatedWith b.vocabulary.type.qualified) ⟨[], known, []⟩ = (.ok (), c) := by
  refine ⟨_, Prod.ext (Collection.each_isOk (P := fun _ _ => True)
    (fun taken id rest c hall _ => ?_) (fun _ _ _ _ _ _ => trivial) trivial) rfl⟩
  obtain ⟨e, he⟩ := h id (by simp [hall])
  rw [Collection.takeClass, he]
  rfl

/-- Taking classes fails where one of them cannot be read, and without a warning. -/
theorem each_takeClass_error {f : Fault} (known : Accessors)
    (h : ∃ id ∈ m.annotatedWith b.vocabulary.type.qualified, m.entity b nonNull id = .error f) :
    ∃ g c, Collection.each (Collection.takeClass m b nonNull)
      (m.annotatedWith b.vocabulary.type.qualified) ⟨[], known, []⟩ = (.error g, c) := by
  cases hrun : Collection.each (Collection.takeClass m b nonNull)
      (m.annotatedWith b.vocabulary.type.qualified) ⟨[], known, []⟩ with
  | mk result c =>
  cases result with
  | error g => exact ⟨g, c, rfl⟩
  | ok =>
    -- what has been taken has been read
    obtain ⟨id, hid, hf⟩ := h
    have hgathers := Collection.gathersAll_of_takeClass hrun
    obtain ⟨e, he, rfl⟩ := hgathers.exists_mem (Collection.mem_annotatedWith_iff.1 hid)
    obtain ⟨bare, hbare, -⟩ := (hgathers.gathers e he).ofClass
    rw [hf] at hbare
    cases hbare

/-- Without what is passed over, a model is collected as before but for the warnings. -/
theorem collect_withoutSkipped (m : Model) (b : Backend) (nonNull : ClassName)
    (known : Accessors) :
    (m.withoutSkipped b).collect b nonNull known =
      Collection.hush (m.collect b nonNull known) := by
  have h := m.looksLike_withoutSkipped b
  rw [collect_eq, collect_eq, h.takeClass, h.takeColumn, h.takeCreator,
    h.annotatedWith Backend.type_mem_marks Backend.type_ne_column,
    h.annotatedWith Backend.creator_mem_marks Backend.creator_ne_column,
    annotatedWith_withoutSkipped]
  refine Eq.trans (congrArg (Collection.andThen · _)
    (Collection.each_quiet Collection.takeClass_quiet _ ⟨[], known, []⟩)) ?_
  refine Collection.hush_andThen fun c => ?_
  rw [Collection.each_takeColumn_quiet]
  exact Collection.hush_andThen (Collection.each_quiet Collection.takeCreator_quiet _)

/-- A class that cannot be read leaves no warnings. -/
theorem warnings_of_class {f : Fault}
    (h : ∃ id ∈ m.annotatedWith b.vocabulary.type.qualified, m.entity b nonNull id = .error f) :
    (m.collect b nonNull known).2.warnings = [] := by
  obtain ⟨g, c, hrun⟩ := each_takeClass_error known h
  rw [collect_eq, hrun]
  exact Collection.warnings_of_takeClass hrun

/-- The warnings are about the members passed over among those that can be taken. -/
theorem warnings_of_collect (known : Accessors)
    (h : ∀ id ∈ m.annotatedWith b.vocabulary.type.qualified, ∃ e, m.entity b nonNull id = .ok e) :
    ∃ taken rest, m.annotatedWith b.vocabulary.column.qualified = taken ++ rest ∧
      m.Takes b known taken ∧
      (∀ id more, rest = id :: more → ¬m.Takes b known (taken ++ [id])) ∧
      (m.collect b nonNull known).2.warnings =
        (taken.filter (m.passesOver b.vocabulary)).map
          (Collection.skipWarning b.vocabulary) := by
  obtain ⟨c₁, h₁⟩ := each_takeClass_ok known h
  have hgathers := Collection.gathersAll_of_takeClass h₁
  have hstart : c₁.warnings = [] := Collection.warnings_of_takeClass h₁
  obtain ⟨taken, rest, d, hsplit, htaken, hend⟩ := Collection.each_split
    (Collection.takeColumn m b) (m.annotatedWith b.vocabulary.column.qualified) c₁
  have hd := gathersAll_of_takeColumn hgathers htaken
  have hwarnings := Collection.each_takeColumn_warnings htaken
  rw [hstart, List.nil_append] at hwarnings
  rw [collect_eq, h₁, Collection.andThen_of_ok]
  refine ⟨taken, rest, hsplit, hd.takes, ?_⟩
  rcases hend with ⟨rfl, hcolumns⟩ | ⟨id, more, f, rfl, hfails, hcolumns⟩
  · refine ⟨fun _ _ hrest => (by cases hrest), ?_⟩
    rw [hcolumns, ← hwarnings]
    exact Collection.each_keeps (Q := fun c => c.warnings = d.warnings) _
      (fun c id _ hc => (Collection.takeCreator_warnings c id).trans hc) d rfl
  · constructor
    · rintro _ _ ⟨rfl, rfl⟩ htakes
      rw [hd.takeColumn_isOk htakes.reads htakes.compatible] at hfails
      cases hfails
    · -- a member that is passed over does not fail, and others add no warning
      have hpass : m.passesOver b.vocabulary id = false := by
        by_contra hpass
        rw [Collection.takeColumn_skips (by simpa using hpass)] at hfails
        cases hfails
      rw [hcolumns, ← hwarnings]
      exact Collection.takeColumn_warnings hpass d

end Model

/-! ### Rounds -/

variable {σ : Type}

/-- The elements that a round warns of, in order. -/
def Round.warned (r : Round σ) : List (Option ElementId) :=
  (r.diagnostics.filter (·.severity = .warning)).map (·.element)

/-- Whether a round does what another one does and reports its error, if it has one, but warns of
nothing. -/
structure Round.HushedFrom (r' r : Round σ) : Prop where
  generated : r'.generated = r.generated
  store : r'.store = r.store
  processor : r'.processor = r.processor
  diagnostics : r'.diagnostics = r.diagnostics.filter (·.severity = .error)
  errors : r'.count .error = r.count .error
  warnings : r'.count .warning = 0

/-- Which members a round warns of: of none if a class cannot be read, and else of those passed over
before the first member that cannot be taken after the ones before it. -/
structure Round.WarnsOfSkipped (r : Round σ) (p : Processor) (m : Model) : Prop where
  none : (∃ id ∈ m.annotatedWith p.backend.vocabulary.type.qualified, ∃ f,
    m.entity p.backend (p.nonNullMark m) id = .error f) → r.warned = []
  skipped : (∀ id ∈ m.annotatedWith p.backend.vocabulary.type.qualified, ∃ e,
      m.entity p.backend (p.nonNullMark m) id = .ok e) →
    ∃ taken rest, m.annotatedWith p.backend.vocabulary.column.qualified = taken ++ rest ∧
      m.Takes p.backend p.accessors taken ∧
      (∀ id more, rest = id :: more → ¬m.Takes p.backend p.accessors (taken ++ [id])) ∧
      r.warned = (taken.filter (m.passesOver p.backend.vocabulary)).map some

namespace Processor

variable {p : Processor}

/-- The faults that a round reports besides its warnings. -/
def failures (p : Processor) (m : Model) (write : σ → SourceUnit → Except String σ) (s : σ) :
    List Fault :=
  match (p.units m).1 with
  | .error f => [f]
  | .ok units => ((writeAll write units s).failure.map Fault.unwritable).toList

theorem failures_severity (write : σ → SourceUnit → Except String σ) (s : σ) :
    ∀ f ∈ p.failures m write s, f.severity = .error := by
  intro f hf
  unfold failures at hf
  split at hf
  · next g hunits =>
    rw [List.mem_singleton.1 hf]
    exact if_neg (by simpa [Fault.isWarning] using (units_fails g hunits).kind_ne.1)
  · obtain ⟨reason, -, rfl⟩ := Option.map_eq_some_iff.1 (Option.mem_toList.1 hf)
    rfl

theorem diagnostics_round (write : σ → SourceUnit → Except String σ) (s : σ) :
    (p.round m write s).diagnostics =
      ((p.units m).2.warnings ++ p.failures m write s).map Fault.report := by
  unfold round failures
  cases p.units m with
  | mk result c => cases result <;> rfl

/-- The reports of a severity are those of the faults of that severity. -/
theorem filter_report (fs : List Fault) (severity : Severity) :
    (fs.map Fault.report).filter (·.severity = severity) =
      (fs.filter (·.severity = severity)).map Fault.report :=
  List.filter_map

theorem filter_error_round (write : σ → SourceUnit → Except String σ) (s : σ) :
    (p.round m write s).diagnostics.filter (·.severity = .error) =
      (p.failures m write s).map Fault.report := by
  have hwarnings : (p.units m).2.warnings.filter (·.severity = .error) = [] := by
    rw [List.filter_eq_nil_iff]
    intro f hf
    rw [(Fault.severity_eq_warning_iff f).2 (units_warns f hf)]
    decide
  have hfailures : (p.failures m write s).filter (·.severity = .error) = p.failures m write s :=
    List.filter_eq_self.2 fun f hf => decide_eq_true (failures_severity write s f hf)
  rw [diagnostics_round, filter_report, List.filter_append, hwarnings, hfailures, List.nil_append]

theorem warned_round (write : σ → SourceUnit → Except String σ) (s : σ) :
    (p.round m write s).warned = (p.units m).2.warnings.map (·.element) := by
  have hwarnings : (p.units m).2.warnings.filter (·.severity = .warning) =
      (p.units m).2.warnings :=
    List.filter_eq_self.2 fun f hf =>
      decide_eq_true ((Fault.severity_eq_warning_iff f).2 (units_warns f hf))
  have hfailures : (p.failures m write s).filter (·.severity = .warning) = [] := by
    rw [List.filter_eq_nil_iff]
    intro f hf
    rw [failures_severity write s f hf]
    decide
  rw [Round.warned, diagnostics_round, filter_report, List.filter_append, hwarnings, hfailures,
    List.append_nil, List.map_map]
  rfl

theorem units_withoutSkipped (p : Processor) (m : Model) :
    p.units (m.withoutSkipped p.backend) = ((p.units m).1, (p.units m).2.quiet) := by
  have hcollect := m.collect_withoutSkipped p.backend (p.nonNullMark m) p.accessors
  have hmark : p.nonNullMark (m.withoutSkipped p.backend) = p.nonNullMark m := rfl
  rw [units_eq, units_eq, hmark, hcollect]
  rfl

/-- A round over a model without the annotations of what it passes over. -/
theorem round_hushed (p : Processor) (m : Model) (write : σ → SourceUnit → Except String σ)
    (s : σ) : (p.round (m.withoutSkipped p.backend) write s).HushedFrom (p.round m write s) := by
  have hunits := p.units_withoutSkipped m
  have hfailures :
      p.failures (m.withoutSkipped p.backend) write s = p.failures m write s := by
    unfold failures
    rw [hunits]
  have hdiagnostics : (p.round (m.withoutSkipped p.backend) write s).diagnostics =
      (p.round m write s).diagnostics.filter (·.severity = .error) := by
    rw [diagnostics_round, filter_error_round, hfailures, hunits]
    rfl
  have hsame : (p.round (m.withoutSkipped p.backend) write s).generated =
        (p.round m write s).generated ∧
      (p.round (m.withoutSkipped p.backend) write s).store = (p.round m write s).store ∧
      (p.round (m.withoutSkipped p.backend) write s).processor = (p.round m write s).processor := by
    unfold round
    rw [hunits]
    cases p.units m with
    | mk result c => cases result <;> exact ⟨rfl, rfl, rfl⟩
  obtain ⟨hgenerated, hstore, hprocessor⟩ := hsame
  refine ⟨hgenerated, hstore, hprocessor, hdiagnostics, ?_, ?_⟩
  · rw [Round.count, hdiagnostics, List.filter_filter]
    simp [Round.count]
  · rw [Round.count, hdiagnostics, List.filter_filter, List.length_eq_zero_iff,
      List.filter_eq_nil_iff]
    intro d _
    cases d.severity <;> decide

/-- A round warns of the members that it passes over until it stops. -/
theorem round_warnsOfSkipped (p : Processor) (m : Model)
    (write : σ → SourceUnit → Except String σ) (s : σ) :
    (p.round m write s).WarnsOfSkipped p m := by
  have hunits : (p.units m).2 = (m.collect p.backend (p.nonNullMark m) p.accessors).2 := rfl
  refine ⟨fun ⟨id, hid, f, hf⟩ => ?_, fun hclasses => ?_⟩
  · rw [warned_round, hunits, Model.warnings_of_class ⟨id, hid, hf⟩]
    rfl
  · obtain ⟨taken, rest, hall, htakes, hstop, hwarnings⟩ :=
      Model.warnings_of_collect p.accessors hclasses
    refine ⟨taken, rest, hall, htakes, hstop, ?_⟩
    rw [warned_round, hunits, hwarnings, List.map_map]
    rfl

/-- **Skipped members have no effect but their warnings.** Without the column annotations of what it
passes over, a round writes, keeps and reports the same, but it warns of nothing. With them, it warns
of the members passed over until it stops. -/
theorem round_withoutSkipped (p : Processor) (m : Model)
    (write : σ → SourceUnit → Except String σ) (s : σ) :
    (p.round (m.withoutSkipped p.backend) write s).HushedFrom (p.round m write s) ∧
      (p.round m write s).WarnsOfSkipped p m :=
  ⟨p.round_hushed m write s, p.round_warnsOfSkipped m write s⟩

end Processor

end ResolverGen
