/-
Collecting with lookups that fail.

The checks of annotated elements and the steps of a collection look elements up by the positions that
searching for annotations has given, that elements refer to and that columns and creators have kept.
The functions in `Strict` do the same with lookups that fail where there is no element. In a sound
model in which no element encloses itself none of them fails, whatever accessors are known
(`collect_eq`).
-/
import ResolverGen.Collection
import ResolverGen.Proofs.Collection.Run
import ResolverGen.Proofs.Element.Lookups

namespace ResolverGen.Strict

section

variable (m : Model) (b : Backend) (v : Vocabulary) (id : ElementId)

def enclosingClass? : Option (Option ElementId) := do
  let e ← element m id
  let isClass ← any m e.enclosing (·.kind = .classType)
  some (if isClass then e.enclosing else none)

def enclosingName : Option String := do
  let e ← element m id
  match e.enclosing with
  | some parent => (element m parent).map (·.name)
  | none => some ""

/-! ### Checks -/

def checkClass : Option (Except Fault Unit) := do
  let e ← element m id
  if e.kind ≠ .classType then some (.error (.on id (.notAClass v.type.simple e.name)))
  else
    let inPackage ← any m e.enclosing (·.kind = .package)
    if inPackage then some (.ok ())
    else some (.error (.on id (.nestedClass v.type.simple e.name)))

def checkOwner : Option (Except Fault Unit) := do
  match ← enclosingClass? m id with
  | none =>
    let outer ← enclosingName m id
    some (.error (.on id (.outsideClass v.column.simple outer)))
  | some owner =>
    let c ← element m owner
    if c.isAnnotated v.type.qualified then some (.ok ())
    else
      let inherits ← any m c.superclass (·.isAnnotated v.type.qualified)
      if inherits then some (.error (.on id (.parentAnnotated v.type.simple)))
      else some (.error (.on id (.classNotAnnotated c.name v.type.simple)))

def checkShape (a : Accessors) : Option (Except Fault Unit) := do
  let e ← element m id
  let getter ← getter? m id a
  some <|
    if e.kind = .field && e.has .final && getter.isNone then
      .error (.on id (.finalField v.column.simple e.name))
    else if e.kind = .method && e.parameters ≠ [] then
      .error (.on id (.methodWithParameters v.column.simple e.name))
    else .ok ()

def checkColumn (a : Accessors) : Option (Except Fault Unit × Accessors) := do
  match ← checkOwner m v id with
  | .error f => some (.error f, a)
  | .ok () =>
    let e ← element m id
    if !e.has .privateAccess then
      let shape ← checkShape m v id a
      some (shape, a)
    else if e.kind ≠ .field then
      some (.error (.on id (.privateMethod v.column.simple e.name)), a)
    else
      match ← learnGetter m id a with
      | (false, a) => some (.error (.on id (.noGetter v.column.simple e.name)), a)
      | (true, a) =>
        let (_, a) ← learnSetter m id a
        let shape ← checkShape m v id a
        some (shape, a)

def checkCreator : Option (Except Fault Unit) := do
  let e ← element m id
  match ← enclosingClass? m id with
  | none =>
    let outer ← enclosingName m id
    some (.error (.on id (.creatorOutsideClass v.creator.simple outer)))
  | some owner =>
    let c ← element m owner
    let type ← ownType m owner
    some <|
      if !c.isAnnotated v.type.qualified then
        .error (.on id (.classNotAnnotated c.name v.type.simple))
      else if e.has .privateAccess then
        .error (.on id (.privateCreator v.creator.simple e.name))
      else if e.kind = .method && !e.has .static then
        .error (.on id (.instanceCreator v.creator.simple e.name))
      else if e.kind = .method && e.type ≠ some type then
        .error (.on id (.foreignResult v.creator.simple c.name))
      else .ok ()

/-! ### What annotated elements stand for -/

def payload {α : Type} (fields : List (Payload.Field α)) (start : α) (mark : Code.ClassName) :
    Option (Except Fault α) := do
  let e ← element m id
  let refuse (reason : String) := Fault.on id (.unreadable mark.simple e.name reason)
  match e.annotation? mark.qualified with
  | none => some (.error (refuse "annotation is missing"))
  | some a => some ((Payload.ofArguments fields start a.arguments).mapError refuse)

def columnSpec : Option (Except Fault ColumnSpec) :=
  payload m id b.columnFields ⟨"", false, false, 1⟩ b.vocabulary.column

def config : Option (Except Fault Config) := do
  let mark := b.vocabulary.type
  let e ← element m id
  match b with
  | .sqlite =>
    match ← payload m id Payload.tableFields ⟨"", false⟩ mark with
    | .error f => some (.error f)
    | .ok p =>
      some <|
        if p.table = "" then .error (.on id (.emptyTable e.name mark.simple))
        else .ok (.sqlite p.table p.tableClass)
  | .contentResolver =>
    match ← payload m id Payload.uriFields ⟨"", "", "", ""⟩ mark with
    | .error f => some (.error f)
    | .ok uris =>
      some <|
        match uris.missing with
        | [] => .ok (.contentResolver uris)
        | first :: rest =>
          let one := if rest.length + 1 < Operation.all.length then some first else none
          .error (.on id (.emptyUri e.name mark.simple one))

def column (a : Accessors) (p : ColumnSpec) : Option (Except Fault Column) := do
  let e ← element m id
  let getter ← getter? m id a
  let setter ← setter? m id a
  match e.type.bind ColumnType.ofTypeName? with
  | none => some (.error (.on id (.unsupportedType v.column.simple (e.type.getD "void"))))
  | some type =>
    some <|
      if p.ignoreNull && e.type.any isPrimitive then .error (.on id (.ignoreNullOnPrimitive e.name))
      else if p.name = "" then .error (.on id (.emptyColumnName e.name))
      else if p.version < 1 ∨ versionBound ≤ p.version then .error (.on id (.badVersion e.name))
      else
        .ok
          { enclosing := e.enclosing.getD id
            element := id
            kind := if e.kind = .method then .method else .field
            elementName := e.name
            type
            name := p.name
            key := p.key
            ignoreNull := p.ignoreNull
            version := p.version.toNat
            getter
            setter
            notNull := nonNullMarks.any e.isAnnotated }

def creator : Option Creator := do
  let e ← element m id
  some
    { enclosing := e.enclosing.getD id
      element := id
      kind := if e.kind = .method then .factory e.name else .constructor
      parameters := e.parameters.map (·.name) }

def entity (nonNull : Code.ClassName) : Option (Except Fault Entity) := do
  match ← checkClass m b.vocabulary id with
  | .error f => some (.error f)
  | .ok () =>
    match ← config m b id with
    | .error f => some (.error f)
    | .ok config =>
      let e ← element m id
      let package ← packageOf m id
      some (.ok
        { name := e.name
          package
          element := id
          config
          byCreator := e.has .abstract
          creator := none
          nonNull
          columns := [] })

/-! ### Collecting -/

def change (c : Collection) (owner member : ElementId) (edit : Entity → Except Fault Entity) :
    Option (Except Fault Collection) :=
  match Entity.changeOwner edit owner c.entities with
  | none => do
    let o ← element m owner
    some (.error (.on member (.ownerMissing o.name)))
  | some (.error f) => some (.error f)
  | some (.ok entities) => some (.ok { c with entities })

def each (step : Collection → ElementId → Option (Except Fault Unit × Collection)) :
    List ElementId → Collection → Option (Except Fault Unit × Collection)
  | [], c => some (.ok (), c)
  | id :: ids, c => do
    match ← step c id with
    | (.error f, c) => some (.error f, c)
    | (.ok (), c) => each step ids c

def takeClass (nonNull : Code.ClassName) (c : Collection) (id : ElementId) :
    Option (Except Fault Unit × Collection) := do
  let e ← entity m b id nonNull
  some (c.settle (e.map fun e => { c with entities := c.entities ++ [e] }))

def putColumn (c : Collection) : Option (Except Fault Collection) := do
  match ← columnSpec m b id with
  | .error f => some (.error f)
  | .ok p =>
    match ← column m b.vocabulary id c.accessors p with
    | .error f => some (.error f)
    | .ok column => change m c column.enclosing id (·.addColumn b.vocabulary column)

def takeColumn (c : Collection) (id : ElementId) : Option (Except Fault Unit × Collection) := do
  let (checked, accessors) ← checkColumn m b.vocabulary id c.accessors
  let c := { c with accessors }
  match checked with
  | .ok () => (putColumn m b id c).map c.settle
  | .error f =>
    some <|
      if f.isWarning then (.ok (), { c with warnings := c.warnings ++ [f] }) else (.error f, c)

def takeCreator (c : Collection) (id : ElementId) : Option (Except Fault Unit × Collection) := do
  match ← checkCreator m b.vocabulary id with
  | .error f => some (.error f, c)
  | .ok () =>
    let creator ← creator m id
    (change m c creator.enclosing id (·.addCreator creator)).map c.settle

def collect (nonNull : Code.ClassName) (known : Accessors) :
    Option (Except Fault Unit × Collection) := do
  let v := b.vocabulary
  let classes := positions m (·.isAnnotated v.type.qualified)
  let columns := positions m (·.isAnnotated v.column.qualified)
  let creators := positions m (·.isAnnotated v.creator.qualified)
  match ← each (takeClass m b nonNull) classes ⟨[], known, []⟩ with
  | (.error f, c) => some (.error f, c)
  | (.ok (), c) =>
    match ← each (takeColumn m b) columns c with
    | (.error f, c) => some (.error f, c)
    | (.ok (), c) => each (takeCreator m b) creators c

end

/-! ### Nothing fails -/

variable {m : Model} {b : Backend} {v : Vocabulary} {id owner : ElementId}

section

variable (hsound : m.Sound)
include hsound

theorem enclosingClass?_eq (hid : id < m.size) :
    enclosingClass? m id = some (m.enclosingClass? id) := by
  rw [enclosingClass?, Model.enclosingClass?, element_eq hid]
  show (do let isClass ← any m (m.element id).enclosing _; _) = _
  rw [any_eq (hsound id).enclosing]
  cases (m.element id).enclosing with
  | none => rfl
  | some parent =>
    rw [Option.filter_some]
    rfl

theorem enclosingName_eq (hid : id < m.size) :
    enclosingName m id = some (m.enclosingName id) := by
  rw [enclosingName, Model.enclosingName, element_eq hid]
  cases henclosing : (m.element id).enclosing with
  | none => simp only [Option.bind_eq_bind, Option.bind_some, henclosing]
  | some parent =>
    have hparent := (hsound id).enclosing parent henclosing
    simp only [Option.bind_eq_bind, Option.bind_some, henclosing, element_eq hparent,
      Option.map_some]

theorem lt_size_of_enclosingClass? (h : m.enclosingClass? id = some owner) : owner < m.size :=
  (hsound id).enclosing owner (Model.enclosingClass?_eq_some h).1

/-- What a column or a creator keeps of its class is a position of the model. -/
theorem getD_enclosing_lt (hid : id < m.size) : (m.element id).enclosing.getD id < m.size := by
  cases henclosing : (m.element id).enclosing with
  | none => exact hid
  | some parent => exact (hsound id).enclosing parent henclosing

theorem checkClass_eq (hid : id < m.size) :
    checkClass m v id = some (m.checkClass v id) := by
  rw [checkClass, Model.checkClass, element_eq hid]
  show (if _ then _ else do let inPackage ← any m (m.element id).enclosing _; _) = _
  rw [any_eq (hsound id).enclosing]
  split
  · rfl
  · show (if _ then _ else _) = _
    split <;> rfl

theorem checkOwner_eq (hid : id < m.size) :
    checkOwner m v id = some (m.checkOwner v id) := by
  rw [checkOwner, Model.checkOwner, enclosingClass?_eq hsound hid, enclosingName_eq hsound hid]
  cases howner : m.enclosingClass? id with
  | none => rfl
  | some owner =>
    simp only [Option.bind_eq_bind, Option.bind_some,
      element_eq (lt_size_of_enclosingClass? hsound howner), any_eq (hsound owner).superclass]
    split
    · rfl
    · split <;> rfl

end

theorem payload_eq (hid : id < m.size) {α : Type} (fields : List (Payload.Field α)) (start : α)
    (mark : Code.ClassName) :
    payload m id fields start mark = some (Payload.ofElement fields start m id mark) := by
  rw [payload, Payload.ofElement, element_eq hid]
  simp only [Option.bind_eq_bind, Option.bind_some]
  cases (m.element id).annotation? mark.qualified <;> rfl

theorem columnSpec_eq (hid : id < m.size) : columnSpec m b id = some (b.columnSpec m id) :=
  payload_eq hid _ _ _

theorem config_eq (hid : id < m.size) : config m b id = some (b.config m id) := by
  rw [config, element_eq hid]
  cases b with
  | sqlite =>
    simp only [Option.bind_eq_bind, Option.bind_some, payload_eq hid, Backend.config]
    cases Payload.ofElement Payload.tableFields ⟨"", false⟩ m id Backend.sqlite.vocabulary.type with
    | error f => rfl
    | ok p => rfl
  | contentResolver =>
    simp only [Option.bind_eq_bind, Option.bind_some, payload_eq hid, Backend.config]
    cases Payload.ofElement Payload.uriFields ⟨"", "", "", ""⟩ m id
      Backend.contentResolver.vocabulary.type with
    | error f => rfl
    | ok uris => rfl

theorem creator_eq (hid : id < m.size) : creator m id = some (m.creator id) := by
  rw [creator, element_eq hid]
  rfl

theorem change_eq (c : Collection) (howner : owner < m.size) (member : ElementId)
    (edit : Entity → Except Fault Entity) :
    change m c owner member edit = some (c.change m owner member edit) := by
  rw [change, Collection.change]
  cases Entity.changeOwner edit owner c.entities with
  | none =>
    simp only [Option.bind_eq_bind, element_eq howner, Option.bind_some]
  | some result => cases result <;> rfl

section

variable (hsound : m.Sound) (hacyclic : m.Acyclic)
include hsound hacyclic

theorem checkShape_eq (hid : id < m.size) (a : Accessors) :
    checkShape m v id a = some (m.checkShape v a id) := by
  rw [checkShape, Model.checkShape, element_eq hid, getter?_eq hsound hacyclic hid]
  rfl

theorem checkColumn_eq (hid : id < m.size) (a : Accessors) :
    checkColumn m v id a = some (m.checkColumn v a id) := by
  rw [checkColumn, Model.checkColumn, checkOwner_eq hsound hid, element_eq hid]
  simp only [Option.bind_eq_bind, Option.bind_some, checkShape_eq hsound hacyclic hid,
    learnGetter_eq hsound hacyclic hid, learnSetter_eq hsound hacyclic hid]
  cases m.checkOwner v id with
  | error f => rfl
  | ok =>
    dsimp only
    split
    · rfl
    · split
      · rfl
      · obtain ⟨found, a⟩ := a.learnGetter m id
        cases found <;> rfl

theorem checkCreator_eq (hid : id < m.size) :
    checkCreator m v id = some (m.checkCreator v id) := by
  rw [checkCreator, Model.checkCreator, enclosingClass?_eq hsound hid, enclosingName_eq hsound hid,
    element_eq hid]
  cases howner : m.enclosingClass? id with
  | none => rfl
  | some owner =>
    have howner := lt_size_of_enclosingClass? hsound howner
    simp only [Option.bind_eq_bind, Option.bind_some, element_eq howner,
      ownType_eq hsound hacyclic howner]

theorem column_eq (hid : id < m.size) (a : Accessors) (p : ColumnSpec) :
    column m v id a p = some (m.column v a id p) := by
  rw [column, Model.column, element_eq hid, getter?_eq hsound hacyclic hid,
    setter?_eq hsound hacyclic hid]
  simp only [Option.bind_eq_bind, Option.bind_some]
  cases (m.element id).type.bind ColumnType.ofTypeName? with
  | none => rfl
  | some type =>
    dsimp only
    split
    · rfl
    · split
      · rfl
      · split <;> rfl

theorem entity_eq (hid : id < m.size) (nonNull : Code.ClassName) :
    entity m b id nonNull = some (m.entity b nonNull id) := by
  rw [entity, Model.entity, checkClass_eq hsound hid, config_eq hid, element_eq hid,
    packageOf_eq hsound hacyclic hid]
  simp only [Option.bind_eq_bind, Option.bind_some]
  cases m.checkClass b.vocabulary id with
  | error f => rfl
  | ok => cases b.config m id <;> rfl

/-! ### Collecting -/

theorem takeClass_eq (hid : id < m.size) (nonNull : Code.ClassName) (c : Collection) :
    takeClass m b nonNull c id = some (Collection.takeClass m b nonNull c id) := by
  rw [takeClass, entity_eq hsound hacyclic hid]
  rfl

theorem putColumn_eq (hid : id < m.size) (c : Collection) :
    putColumn m b id c = some (c.putColumn m b id) := by
  rw [putColumn, Collection.putColumn, columnSpec_eq hid]
  simp only [Option.bind_eq_bind, Option.bind_some, column_eq hsound hacyclic hid]
  cases b.columnSpec m id with
  | error f => rfl
  | ok p =>
    show _ = some (m.column b.vocabulary c.accessors id p >>= _)
    cases hcolumn : m.column b.vocabulary c.accessors id p with
    | error f =>
      simp only [hcolumn]
      rfl
    | ok column =>
      have howner : column.enclosing < m.size := by
        obtain ⟨type, -, -, -, -, rfl⟩ := Model.column_ok hcolumn
        exact getD_enclosing_lt hsound hid
      simp only [hcolumn]
      exact change_eq c howner id _

theorem takeColumn_eq (hid : id < m.size) (c : Collection) :
    takeColumn m b c id = some (c.takeColumn m b id) := by
  rw [takeColumn, Collection.takeColumn, checkColumn_eq hsound hacyclic hid]
  cases m.checkColumn b.vocabulary c.accessors id with
  | mk checked a =>
  cases checked with
  | error f => rfl
  | ok =>
    simp only [Option.bind_eq_bind, Option.bind_some, putColumn_eq hsound hacyclic hid,
      Option.map_some]

theorem takeCreator_eq (hid : id < m.size) (c : Collection) :
    takeCreator m b c id = some (c.takeCreator m b id) := by
  rw [takeCreator, Collection.takeCreator, checkCreator_eq hsound hacyclic hid, creator_eq hid]
  simp only [Option.bind_eq_bind, Option.bind_some]
  cases m.checkCreator b.vocabulary id with
  | error f => rfl
  | ok =>
    have howner : (m.creator id).enclosing < m.size := getD_enclosing_lt hsound hid
    dsimp only
    rw [change_eq c howner]
    rfl

omit hsound hacyclic in
/-- Steps that do not fail do not fail one after the other. -/
theorem each_eq {strict : Collection → ElementId → Option (Except Fault Unit × Collection)}
    {step : Collection → ElementId → Except Fault Unit × Collection} {ids : List ElementId}
    (h : ∀ id ∈ ids, ∀ c, strict c id = some (step c id)) (c : Collection) :
    each strict ids c = some (Collection.each step ids c) := by
  induction ids generalizing c with
  | nil => rfl
  | cons id ids ih =>
    rw [List.forall_mem_cons] at h
    rw [each, Collection.each, h.1]
    simp only [Option.bind_eq_bind, Option.bind_some]
    obtain ⟨result, c⟩ := step c id
    cases result with
    | error f => rfl
    | ok => exact ih h.2 c

/-- Collecting does not fail, whatever accessors are known. -/
theorem collect_eq (nonNull : Code.ClassName) (known : Accessors) :
    collect m b nonNull known = some (m.collect b nonNull known) := by
  have hlt : ∀ {mark id}, id ∈ m.annotatedWith mark → id < m.size := fun hid =>
    List.mem_range.1 (List.mem_filter.1 hid).1
  have hpositions (mark : String) : positions m (·.isAnnotated mark) = m.annotatedWith mark :=
    positions_eq m _
  have hclasses (c : Collection) :
      each (takeClass m b nonNull) (m.annotatedWith b.vocabulary.type.qualified) c =
        some (Collection.each (Collection.takeClass m b nonNull)
          (m.annotatedWith b.vocabulary.type.qualified) c) :=
    each_eq (fun _ hid => takeClass_eq hsound hacyclic (hlt hid) nonNull) c
  have hcolumns (c : Collection) :
      each (takeColumn m b) (m.annotatedWith b.vocabulary.column.qualified) c =
        some (Collection.each (Collection.takeColumn m b)
          (m.annotatedWith b.vocabulary.column.qualified) c) :=
    each_eq (fun _ hid => takeColumn_eq hsound hacyclic (hlt hid)) c
  have hcreators (c : Collection) :
      each (takeCreator m b) (m.annotatedWith b.vocabulary.creator.qualified) c =
        some (Collection.each (Collection.takeCreator m b)
          (m.annotatedWith b.vocabulary.creator.qualified) c) :=
    each_eq (fun _ hid => takeCreator_eq hsound hacyclic (hlt hid)) c
  rw [collect, Model.collect]
  simp only [Option.bind_eq_bind, Option.bind_some, hpositions, hclasses, hcolumns, hcreators]
  obtain ⟨result, c⟩ := Collection.each (Collection.takeClass m b nonNull)
    (m.annotatedWith b.vocabulary.type.qualified) ⟨[], known, []⟩
  cases result with
  | error f => rfl
  | ok =>
    dsimp only
    obtain ⟨result, c⟩ := Collection.each (Collection.takeColumn m b)
      (m.annotatedWith b.vocabulary.column.qualified) c
    cases result <;> rfl

end

end ResolverGen.Strict
