/-
Runs of the collecting steps.

`each` takes a step for every element until one fails (`andThen`). What every step keeps, a run keeps:

* `each_ok` — an invariant over the elements taken so far, in a run that succeeds,
* `each_keeps` — an invariant of the collection alone, in every run,
* `each_split` — a run succeeds up to the step that it fails with,
* `each_fails`, `each_isOk` — a run fails with the fault of a step, and not at all where no step
  fails after those before it,
* `each_alike` — a likeness of two collections, in two runs whose steps end alike.

`takeClass_ok`, `takeColumn_of_passesOver` and `takeCreator_ok` say all that a successful step can do,
guards included, and `change_of_mem` what becomes of a change.
-/
import ResolverGen.Proofs.Fault

namespace ResolverGen

namespace Collection

variable {step : Collection → ElementId → Except Fault Unit × Collection}

/-- Goes on unless there has been a fault. -/
def andThen (x : Except Fault Unit × Collection)
    (f : Collection → Except Fault Unit × Collection) : Except Fault Unit × Collection :=
  match x with
  | (.error e, c) => (.error e, c)
  | (.ok (), c) => f c

@[simp] theorem andThen_of_ok (c : Collection)
    (f : Collection → Except Fault Unit × Collection) : andThen (.ok (), c) f = f c :=
  rfl

theorem each_cons (id : ElementId) (ids : List ElementId) (c : Collection) :
    each step (id :: ids) c = andThen (step c id) (each step ids) :=
  rfl

section

variable {x : Except Fault Unit × Collection} {f : Collection → Except Fault Unit × Collection}

theorem andThen_ok {c : Collection} (h : andThen x f = (.ok (), c)) :
    ∃ d, x = (.ok (), d) ∧ f d = (.ok (), c) := by
  obtain ⟨result, d⟩ := x
  cases result with
  | error e => cases h
  | ok => exact ⟨d, rfl, h⟩

theorem andThen_isOk (hx : x.1 = .ok ()) (hf : ∀ d, x = (.ok (), d) → (f d).1 = .ok ()) :
    (andThen x f).1 = .ok () := by
  obtain ⟨result, d⟩ := x
  cases hx
  exact hf d rfl

theorem andThen_keeps {Q : Collection → Prop} (hx : Q x.2)
    (hf : ∀ d, x = (.ok (), d) → Q (f d).2) : Q (andThen x f).2 := by
  obtain ⟨result, d⟩ := x
  cases result with
  | error e => exact hx
  | ok => exact hf d rfl

theorem andThen_fails {P : Fault → Prop} (hx : Fails P x.1)
    (hf : ∀ d, x = (.ok (), d) → Fails P (f d).1) : Fails P (andThen x f).1 := by
  obtain ⟨result, d⟩ := x
  cases result with
  | error e => exact hx
  | ok => exact hf d rfl

end

/-- What holds before a run and is kept by every step that succeeds holds after a run that
succeeds, the elements taken being added one by one to those of before. -/
theorem each_ok {P : List ElementId → Collection → Prop}
    (next : ∀ taken id c c', P taken c → step c id = (.ok (), c') → P (taken ++ [id]) c') :
    ∀ (taken : List ElementId) {ids : List ElementId} {c c' : Collection}, P taken c →
      each step ids c = (.ok (), c') → P (taken ++ ids) c' := by
  -- the elements taken and the collection both change with every step of the run
  intro taken ids
  induction ids generalizing taken with
  | nil =>
    intro c c' hc h
    cases h
    simpa using hc
  | cons id ids ih =>
    intro c c' hc h
    rw [each_cons] at h
    obtain ⟨d, hs, h⟩ := andThen_ok h
    have hd : P (taken ++ [id]) d := next taken id c d hc hs
    simpa using ih (taken ++ [id]) hd h

/-- What every step keeps, succeed or fail, every run keeps. -/
theorem each_keeps {Q : Collection → Prop} :
    ∀ (ids : List ElementId), (∀ c, ∀ id ∈ ids, Q c → Q (step c id).2) →
      ∀ c : Collection, Q c → Q (each step ids c).2 := by
  intro ids
  induction ids with
  | nil => exact fun _ c hc => hc
  | cons id ids ih =>
    intro keep c hc
    have hd : Q (step c id).2 := keep c id List.mem_cons_self hc
    rw [each_cons]
    refine andThen_keeps hd fun d hs => ?_
    rw [hs] at hd
    exact ih (fun c id hid => keep c id (List.mem_cons_of_mem _ hid)) d hd

/-- A run takes all elements, or those before the one whose step fails. -/
theorem each_split (step : Collection → ElementId → Except Fault Unit × Collection)
    (ids : List ElementId) (c : Collection) :
    ∃ done rest d, ids = done ++ rest ∧ each step done c = (.ok (), d) ∧
      ((rest = [] ∧ each step ids c = (.ok (), d)) ∨
        ∃ id more f, rest = id :: more ∧ (step d id).1 = .error f ∧
          each step ids c = (.error f, (step d id).2)) := by
  induction ids generalizing c with
  | nil => exact ⟨[], [], c, rfl, rfl, .inl ⟨rfl, rfl⟩⟩
  | cons id ids ih =>
    cases hs : step c id with
    | mk result d =>
      cases result with
      | error f =>
        refine ⟨[], id :: ids, c, rfl, rfl, .inr ⟨id, ids, f, rfl, by rw [hs], ?_⟩⟩
        simp only [each, hs]
      | ok =>
        obtain ⟨done, rest, last, hsplit, hdone, hend⟩ := ih d
        refine ⟨id :: done, rest, last, by rw [hsplit]; rfl, ?_, ?_⟩
        · simp only [each, hs, hdone]
        · simpa only [each, hs] using hend

/-- The fault of a run is the fault of a step, taken where the steps before it succeeded. -/
theorem each_fails {P : List ElementId → Collection → Prop} {Q : Fault → Prop}
    (next : ∀ taken id c, P taken c → Fails Q (step c id).1)
    (keep : ∀ taken id c c', P taken c → step c id = (.ok (), c') → P (taken ++ [id]) c')
    (ids : List ElementId) {c : Collection} (hc : P [] c) : Fails Q (each step ids c).1 := by
  obtain ⟨done, rest, d, -, hdone, hend⟩ := each_split step ids c
  rcases hend with ⟨-, heach⟩ | ⟨id, more, f, -, hfails, heach⟩
  · rw [heach]
    exact Fails.ok _
  · have hd : P done d := each_ok keep [] hc hdone
    rw [heach]
    exact Fails.error (next done id d hd f hfails)

/-- If every step succeeds after those before it, a run succeeds. -/
theorem each_isOk {all : List ElementId} {P : List ElementId → Collection → Prop}
    (next : ∀ taken id rest c, all = taken ++ id :: rest → P taken c → (step c id).1 = .ok ())
    (keep : ∀ taken id c c', P taken c → step c id = (.ok (), c') → P (taken ++ [id]) c')
    {c : Collection} (hc : P [] c) : (each step all c).1 = .ok () := by
  obtain ⟨done, rest, d, hall, hdone, hend⟩ := each_split step all c
  rcases hend with ⟨-, heach⟩ | ⟨id, more, f, rfl, hfails, -⟩
  · rw [heach]
  · have hd : P done d := each_ok keep [] hc hdone
    rw [next done id more d hall hd] at hfails
    cases hfails

/-- Two collections with the same entities and warnings, whatever accessors they know. -/
def Alike (c d : Collection) : Prop := c.entities = d.entities ∧ c.warnings = d.warnings

/-- Two runs or steps that end alike. -/
def SameEnd (x y : Except Fault Unit × Collection) : Prop := x.1 = y.1 ∧ x.2.Alike y.2

theorem SameEnd.andThen {x y : Except Fault Unit × Collection}
    {f g : Collection → Except Fault Unit × Collection} (h : SameEnd x y)
    (hnext : ∀ c d, x = (.ok (), c) → y = (.ok (), d) → c.Alike d → SameEnd (f c) (g d)) :
    SameEnd (andThen x f) (andThen y g) := by
  obtain ⟨result, c⟩ := x
  obtain ⟨result', d⟩ := y
  obtain ⟨rfl, halike⟩ : result = result' ∧ c.Alike d := h
  cases result with
  | error e => exact ⟨rfl, halike⟩
  | ok => exact hnext c d rfl rfl halike

/-- If the steps of two runs end alike, so do the runs. What holds after the elements taken so far is
an invariant of each run by itself. -/
theorem each_alike (all : List ElementId) {P Q : List ElementId → Collection → Prop}
    (keepP : ∀ taken id c c', P taken c → step c id = (.ok (), c') → P (taken ++ [id]) c')
    (keepQ : ∀ taken id c c', Q taken c → step c id = (.ok (), c') → Q (taken ++ [id]) c')
    (next : ∀ taken id rest c d, all = taken ++ id :: rest → P taken c → Q taken d → c.Alike d →
      SameEnd (step c id) (step d id))
    {c d : Collection} (hP : P [] c) (hQ : Q [] d) (h : c.Alike d) :
    SameEnd (each step all c) (each step all d) := by
  suffices ∀ rest taken c d, all = taken ++ rest → P taken c → Q taken d → c.Alike d →
      SameEnd (each step rest c) (each step rest d) from this all [] c d rfl hP hQ h
  intro rest
  induction rest with
  | nil => exact fun taken c d _ _ _ h => ⟨rfl, h⟩
  | cons id rest ih =>
    intro taken c d hall hP hQ h
    rw [each_cons, each_cons]
    refine (next taken id rest c d hall hP hQ h).andThen fun c' d' hc hd halike => ?_
    exact ih (taken ++ [id]) c' d' (by rw [hall, List.append_assoc]; rfl)
      (keepP taken id c c' hP hc) (keepQ taken id d d' hQ hd) halike

theorem settle_ok {c c' : Collection} {x : Except Fault Collection}
    (h : c.settle x = (.ok (), c')) : x = .ok c' := by
  cases x with
  | error f => cases h
  | ok d =>
    cases h
    rfl

theorem settle_of_error {c : Collection} {x : Except Fault Collection} {f : Fault}
    (h : (c.settle x).1 = .error f) : x = .error f ∧ (c.settle x).2 = c := by
  cases x with
  | error g =>
    cases h
    exact ⟨rfl, rfl⟩
  | ok d => cases h

theorem settle_keeps {Q : Collection → Prop} {c : Collection} {x : Except Fault Collection}
    (hc : Q c) (hx : ∀ d, x = .ok d → Q d) : Q (c.settle x).2 := by
  cases x with
  | error f => exact hc
  | ok d => exact hx d rfl

theorem settle_fails {P : Fault → Prop} {c : Collection} {x : Except Fault Collection}
    (hx : Fails P x) : Fails P (c.settle x).1 := by
  cases x with
  | error f => exact Fails.error (hx f rfl)
  | ok d => exact Fails.ok _

end Collection

/-! ### What the checks of members ensure -/

namespace Model

variable {m : Model} {b : Backend} {v : Vocabulary} {a a' : Accessors} {id owner : ElementId}

theorem enclosingClass?_eq_some (h : m.enclosingClass? id = some owner) :
    (m.element id).enclosing = some owner ∧ (m.element owner).kind = .classType := by
  obtain ⟨henc, hkind⟩ := Option.filter_eq_some_iff.1 h
  exact ⟨henc, by simpa using hkind⟩

/-- A member of a class that is not annotated itself while its superclass is. -/
def passesOver (m : Model) (v : Vocabulary) (id : ElementId) : Bool :=
  (m.enclosingClass? id).any fun owner =>
    !(m.element owner).isAnnotated v.type.qualified &&
      (m.element owner).superclass.any fun parent =>
        (m.element parent).isAnnotated v.type.qualified

theorem kind_of_checkClass (h : m.checkClass v id = .ok ()) :
    (m.element id).kind = .classType := by
  refine Decidable.byContradiction fun hkind => ?_
  rw [checkClass, if_pos hkind] at h
  cases h

theorem checkOwner_ok (h : m.checkOwner v id = .ok ()) :
    ∃ owner, m.enclosingClass? id = some owner ∧
      (m.element owner).isAnnotated v.type.qualified = true := by
  unfold checkOwner at h
  split at h
  · cases h
  · next owner howner =>
    dsimp only at h
    split at h
    · next hann => exact ⟨owner, howner, hann⟩
    · split at h <;> cases h

theorem checkOwner_of_passesOver (h : m.passesOver v id = true) :
    m.checkOwner v id = .error (.on id (.parentAnnotated v.type.simple)) := by
  unfold passesOver at h
  unfold checkOwner
  cases howner : m.enclosingClass? id with
  | none =>
    rw [howner] at h
    cases h
  | some owner =>
    simp only [howner, Option.any_some, Bool.and_eq_true, Bool.not_eq_true'] at h
    simp [h.1, h.2]

/-- A member without an annotated class is refused for good unless it is passed over. -/
theorem checkOwner_fails (h : m.passesOver v id = false) :
    Fails Fault.Refusal (m.checkOwner v id) := by
  unfold passesOver at h
  unfold checkOwner
  cases howner : m.enclosingClass? id with
  | none => exact Fails.error rfl
  | some owner =>
    rw [howner, Option.any_some] at h
    dsimp only
    refine Fails.ite (fun _ => Fails.ok _) fun hann => ?_
    refine Fails.ite (fun hparent => ?_) fun _ => Fails.error rfl
    simp [hann, hparent] at h

/-- A member that passes its checks has an annotated class. -/
theorem checkOwner_of_checkColumn (h : m.checkColumn v a id = (.ok (), a')) :
    m.checkOwner v id = .ok () := by
  unfold checkColumn at h
  split at h
  · cases h
  · next hown => exact hown

theorem checkColumn_fails (h : m.passesOver v id = false) :
    Fails Fault.Refusal (m.checkColumn v a id).1 := by
  unfold checkColumn
  cases hown : m.checkOwner v id with
  | error f => exact Fails.error (checkOwner_fails h f hown)
  | ok =>
    dsimp only
    split
    · exact m.checkShape_fails v id a
    · split
      · exact Fails.error rfl
      · split
        · exact Fails.error rfl
        · exact m.checkShape_fails v id _

/-- A creator belongs to the annotated class that encloses it. -/
theorem owner_of_checkCreator (h : m.checkCreator v id = .ok ()) :
    (m.element id).enclosing = some (m.creator id).enclosing ∧
      (m.element (m.creator id).enclosing).isAnnotated v.type.qualified = true := by
  unfold checkCreator at h
  dsimp only at h
  split at h
  · cases h
  · next owner howner =>
    have henclosing := (enclosingClass?_eq_some howner).1
    have hcreator : (m.creator id).enclosing = owner := by
      rw [creator, henclosing]
      rfl
    rw [hcreator]
    refine ⟨henclosing, ?_⟩
    cases hannotated : (m.element owner).isAnnotated v.type.qualified with
    | true => rfl
    | false => simp [hannotated] at h

/-- What a column is made of. -/
theorem column_ok {p : ColumnSpec} {c : Column} (h : m.column v a id p = .ok c) :
    ∃ type, (m.element id).type.bind ColumnType.ofTypeName? = some type ∧
      ¬(p.ignoreNull = true ∧ (m.element id).type.any isPrimitive = true) ∧ p.name ≠ "" ∧
      (1 ≤ p.version ∧ p.version < versionBound) ∧
      c =
        { enclosing := (m.element id).enclosing.getD id
          element := id
          kind := if (m.element id).kind = .method then .method else .field
          elementName := (m.element id).name
          type
          name := p.name
          key := p.key
          ignoreNull := p.ignoreNull
          version := p.version.toNat
          getter := a.getter? m id
          setter := a.setter? m id
          notNull := nonNullMarks.any (m.element id).isAnnotated } := by
  unfold column at h
  dsimp only at h
  split at h
  · cases h
  · next type htype =>
    split at h
    · cases h
    · next hprim =>
      split at h
      · cases h
      · next hname =>
        split at h
        · cases h
        · next hversion =>
          cases h
          refine ⟨type, htype, by simpa using hprim, hname, ?_, rfl⟩
          omega

/-- What the entity of a class is made of. -/
theorem entity_ok {nonNull : Code.ClassName} {e : Entity} (h : m.entity b nonNull id = .ok e) :
    ∃ config, m.checkClass b.vocabulary id = .ok () ∧ b.config m id = .ok config ∧
      e =
        { name := (m.element id).name
          package := m.packageOf id
          element := id
          config
          byCreator := (m.element id).has .abstract
          creator := none
          nonNull
          columns := [] } := by
  obtain ⟨⟨⟩, hclass, h⟩ := exists_of_bind_eq_ok h
  obtain ⟨config, hconfig, h⟩ := exists_of_bind_eq_ok h
  cases h
  exact ⟨config, hclass, hconfig, rfl⟩

end Model

/-! ### What the steps do -/

namespace Entity

/-- When a column can be added, and what becomes of the entity. -/
theorem addColumn_eq_ok_iff {e e' : Entity} {v : Vocabulary} {c : Column} :
    e.addColumn v c = .ok e' ↔
      (e.column? c.name = none ∧ (e.byCreator = true → c.onlyByCreator = true) ∧
        (c.onlyByCreator = true → e.byCreator = true ∨ e.columns = [])) ∧
      e' = { e with byCreator := e.byCreator || c.onlyByCreator, columns := e.columns ++ [c] } := by
  unfold addColumn
  dsimp only
  cases hname : e.column? c.name with
  | some d => simp
  | none =>
    -- the name is looked up again after the first change, which does not touch the columns
    have hinsert : ({ e with byCreator := e.byCreator || c.onlyByCreator } : Entity).insert? c =
        some { e with
          byCreator := e.byCreator || c.onlyByCreator, columns := e.columns ++ [c] } := by
      have hname' : ({ e with byCreator := e.byCreator || c.onlyByCreator } : Entity).column?
          c.name = none := hname
      unfold insert?
      rw [hname']
    rw [hinsert]
    cases he : e.byCreator <;> cases hc : c.onlyByCreator <;> by_cases hnil : e.columns = [] <;>
      simp [hnil, eq_comm]

theorem addCreator_eq_ok_iff {e e' : Entity} {c : Creator} :
    e.addCreator c = .ok e' ↔ e.creator = none ∧ e' = { e with creator := some c } := by
  unfold addCreator
  cases e.creator <;> simp [eq_comm]

theorem changeOwner_ok {edit : Entity → Except Fault Entity} {owner : ElementId} :
    ∀ {es es' : List Entity}, changeOwner edit owner es = some (.ok es') →
      ∃ before e after e', es = before ++ e :: after ∧ e.element = owner ∧ edit e = .ok e' ∧
        es' = before ++ e' :: after := by
  intro es
  induction es with
  | nil =>
    intro es' h
    cases h
  | cons e es ih =>
    intro es' h
    unfold changeOwner at h
    split at h
    · next howner =>
      obtain ⟨e', he', rfl⟩ := exists_of_map_eq_ok (Option.some.inj h)
      exact ⟨[], e, es, e', rfl, howner, he', rfl⟩
    · obtain ⟨r, hr, h⟩ := Option.map_eq_some_iff.1 h
      obtain ⟨rest, rfl, rfl⟩ := exists_of_map_eq_ok h
      obtain ⟨before, x, after, x', rfl, hx, hedit, rfl⟩ := ih hr
      exact ⟨e :: before, x, after, x', rfl, hx, hedit, rfl⟩

/-- Where classes are distinct, a change is made to the entity of its class. -/
theorem changeOwner_of_mem (edit : Entity → Except Fault Entity) {e : Entity} :
    ∀ {es : List Entity}, e ∈ es → (es.map (·.element)).Nodup →
      ∃ before after, es = before ++ e :: after ∧
        changeOwner edit e.element es = some ((edit e).map fun e' => before ++ e' :: after) := by
  intro es
  induction es with
  | nil => exact fun he => absurd he List.not_mem_nil
  | cons x es ih =>
    intro he hnodup
    rw [List.map_cons, List.nodup_cons] at hnodup
    unfold changeOwner
    rcases List.mem_cons.1 he with rfl | he
    · exact ⟨[], es, rfl, by rw [if_pos rfl]; rfl⟩
    · have hne : x.element ≠ e.element := fun heq => hnodup.1 (heq ▸ List.mem_map_of_mem he)
      obtain ⟨before, after, hes, hchange⟩ := ih he hnodup.2
      refine ⟨x :: before, after, by rw [hes]; rfl, ?_⟩
      rw [if_neg hne, hchange]
      cases edit e <;> rfl

end Entity

namespace Collection

variable {m : Model} {b : Backend} {nonNull : Code.ClassName} {c c' : Collection}
  {id owner member : ElementId} {edit : Entity → Except Fault Entity}

theorem change_ok (h : c.change m owner member edit = .ok c') :
    ∃ before e after e', c.entities = before ++ e :: after ∧ e.element = owner ∧
      edit e = .ok e' ∧ c' = { c with entities := before ++ e' :: after } := by
  unfold change at h
  split at h
  · cases h
  · cases h
  · next entities hchange =>
    cases h
    obtain ⟨before, e, after, e', hes, howner, hedit, rfl⟩ := Entity.changeOwner_ok hchange
    exact ⟨before, e, after, e', hes, howner, hedit, rfl⟩

/-- Where classes are distinct, a change does to a collection what it does to the entity. -/
theorem change_of_mem {e : Entity} (he : e ∈ c.entities)
    (hnodup : (c.entities.map (·.element)).Nodup) (m : Model) (member : ElementId)
    (edit : Entity → Except Fault Entity) :
    ∃ before after, c.entities = before ++ e :: after ∧
      c.change m e.element member edit =
        (edit e).map fun e' => { c with entities := before ++ e' :: after } := by
  obtain ⟨before, after, hes, hchange⟩ := Entity.changeOwner_of_mem edit he hnodup
  refine ⟨before, after, hes, ?_⟩
  rw [change, hchange]
  cases edit e <;> rfl

theorem takeClass_ok (h : takeClass m b nonNull c id = (.ok (), c')) :
    ∃ e, m.entity b nonNull id = .ok e ∧ c' = { c with entities := c.entities ++ [e] } := by
  obtain ⟨e, he, rfl⟩ := exists_of_map_eq_ok (settle_ok h)
  exact ⟨e, he, rfl⟩

theorem putColumn_ok (h : c.putColumn m b id = .ok c') :
    ∃ p column, b.columnSpec m id = .ok p ∧
      m.column b.vocabulary c.accessors id p = .ok column ∧
      c.change m column.enclosing id (·.addColumn b.vocabulary column) = .ok c' := by
  obtain ⟨p, hp, h⟩ := exists_of_bind_eq_ok h
  obtain ⟨column, hcolumn, h⟩ := exists_of_bind_eq_ok h
  exact ⟨p, column, hp, hcolumn, h⟩

/-- The warning about a member that is passed over. -/
def skipWarning (v : Vocabulary) (id : ElementId) : Fault := .on id (.parentAnnotated v.type.simple)

theorem takeColumn_skips (h : m.passesOver b.vocabulary id = true) (c : Collection) :
    takeColumn m b c id =
      (.ok (), { c with warnings := c.warnings ++ [skipWarning b.vocabulary id] }) := by
  simp only [takeColumn, Model.checkColumn, Model.checkOwner_of_passesOver h]
  rfl

/-- A member that is passed over leaves a warning and nothing else. -/
theorem takeColumn_of_passesOver (h : m.passesOver b.vocabulary id = true) :
    ∃ f : Fault, f.cause.kind = .skipped ∧
      ∀ c, takeColumn m b c id = (.ok (), { c with warnings := c.warnings ++ [f] }) :=
  ⟨skipWarning b.vocabulary id, rfl, takeColumn_skips h⟩

/-! ### The accessors that steps leave -/

theorem change_accessors (h : c.change m owner member edit = .ok c') :
    c'.accessors = c.accessors := by
  obtain ⟨before, e, after, e', -, -, -, rfl⟩ := change_ok h
  rfl

theorem takeClass_accessors (c : Collection) (id : ElementId) :
    (c.takeClass m b nonNull id).2.accessors = c.accessors := by
  refine settle_keeps (Q := fun d => d.accessors = c.accessors) rfl fun d hd => ?_
  obtain ⟨e, -, rfl⟩ := exists_of_map_eq_ok hd
  rfl

/-- Taking a member leaves what checking it leaves. -/
theorem takeColumn_accessors (c : Collection) (id : ElementId) :
    (c.takeColumn m b id).2.accessors = (m.checkColumn b.vocabulary c.accessors id).2 := by
  unfold takeColumn
  cases m.checkColumn b.vocabulary c.accessors id with
  | mk checked a =>
    cases checked with
    | error f =>
      dsimp only
      split <;> rfl
    | ok =>
      refine settle_keeps (Q := fun d => d.accessors = a) rfl fun d hd => ?_
      obtain ⟨p, column, -, -, hchange⟩ := putColumn_ok hd
      exact change_accessors hchange

theorem takeCreator_accessors (c : Collection) (id : ElementId) :
    (c.takeCreator m b id).2.accessors = c.accessors := by
  refine settle_keeps (Q := fun d => d.accessors = c.accessors) rfl fun d hd => ?_
  obtain ⟨⟨⟩, -, hchange⟩ := exists_of_bind_eq_ok hd
  exact change_accessors hchange

/-- All warnings are about members that are passed over. -/
def WarnsOfPassedOver (c : Collection) : Prop := ∀ f ∈ c.warnings, f.cause.kind = .skipped

theorem takeClass_warns (c : Collection) (id : ElementId) (hc : c.WarnsOfPassedOver) :
    (takeClass m b nonNull c id).2.WarnsOfPassedOver := by
  refine settle_keeps hc fun d hd => ?_
  obtain ⟨e, -, rfl⟩ := exists_of_map_eq_ok hd
  exact hc

theorem change_warns (hc : c.WarnsOfPassedOver) (h : c.change m owner member edit = .ok c') :
    c'.WarnsOfPassedOver := by
  obtain ⟨before, e, after, e', -, -, -, rfl⟩ := change_ok h
  exact hc

theorem takeColumn_warns (c : Collection) (id : ElementId) (hc : c.WarnsOfPassedOver) :
    (takeColumn m b c id).2.WarnsOfPassedOver := by
  cases hpass : m.passesOver b.vocabulary id with
  | true =>
    obtain ⟨f, hf, hstep⟩ := takeColumn_of_passesOver (b := b) hpass
    rw [hstep]
    intro g hg
    rcases List.mem_append.1 hg with hg | hg
    · exact hc g hg
    · rw [List.mem_singleton.1 hg, hf]
  | false =>
    have hfails := Model.checkColumn_fails (a := c.accessors) hpass
    unfold takeColumn
    cases hcheck : m.checkColumn b.vocabulary c.accessors id with
    | mk checked a =>
      rw [hcheck] at hfails
      have hc' : ({ c with accessors := a } : Collection).WarnsOfPassedOver := hc
      cases checked with
      | ok =>
        refine settle_keeps hc' fun d hd => ?_
        obtain ⟨p, column, -, -, hchange⟩ := putColumn_ok hd
        exact change_warns hc' hchange
      | error f =>
        have hwarn : f.isWarning = false := decide_eq_false (hfails f rfl).halting.kind_ne.1
        simpa [hwarn] using hc'

theorem takeCreator_warns (c : Collection) (id : ElementId) (hc : c.WarnsOfPassedOver) :
    (takeCreator m b c id).2.WarnsOfPassedOver := by
  refine settle_keeps hc fun d hd => ?_
  obtain ⟨⟨⟩, -, hchange⟩ := exists_of_bind_eq_ok hd
  exact change_warns hc hchange

theorem takeCreator_ok (h : takeCreator m b c id = (.ok (), c')) :
    m.checkCreator b.vocabulary id = .ok () ∧
      c.change m (m.creator id).enclosing id (·.addCreator (m.creator id)) = .ok c' := by
  obtain ⟨⟨⟩, hcheck, h⟩ := exists_of_bind_eq_ok (settle_ok h)
  exact ⟨hcheck, h⟩

end Collection

end ResolverGen
