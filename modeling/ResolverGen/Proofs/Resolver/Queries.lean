/-
The queries of the put and delete resolvers.

Neither an update nor a deletion ever reaches more than the row of its object. The units themselves
would write a filter of `null` for an entity without keys and an empty target for one without a
table; that a round never writes such units rests on what it checks before it writes any.

* `config_ok` — each operation has a target: its own, or else the common one,
* `keyMembers_columns` — the key columns of an entity are those of the model, in order,
* `queries_of_mem_accepted` — what the queries of an accepted entity are.
-/
import ResolverGen.Proofs.Resolver.Methods
import ResolverGen.Proofs.Round.Accepted

namespace ResolverGen

open Code

/-! ### Targets -/

namespace Config

/-- What a class says for an operation alone. Tables are the same for all operations. -/
def own : Config → Operation → String
  | sqlite .., _ => ""
  | contentResolver uris, op => uris.specific op

/-- What a class says for all operations that have nothing of their own. -/
def common : Config → String
  | sqlite table _ => table
  | contentResolver uris => uris.common

/-- What an operation addresses: its own target unless that is empty, else the common one. -/
def targetName (c : Config) (op : Operation) : String :=
  if c.own op = "" then c.common else c.own op

end Config

namespace Backend

/-- The method of a query builder that takes the target. -/
def targetMethod : Backend → String
  | sqlite => "table"
  | contentResolver => "uri"

variable {m : Model} {b : Backend} {id : ElementId} {config : Config}

/-- Where a class is accepted, each operation has a target that is not empty. -/
theorem config_ok (h : b.config m id = .ok config) (op : Operation) :
    config.targetName op ≠ "" ∧
      (config.target op).call = (b.targetMethod, [.text (config.targetName op)]) := by
  cases b with
  | sqlite =>
    obtain ⟨p, -, h⟩ := exists_of_bind_eq_ok h
    dsimp only at h
    split at h
    · cases h
    · next htable =>
      cases h
      exact ⟨htable, rfl⟩
  | contentResolver =>
    obtain ⟨uris, -, h⟩ := exists_of_bind_eq_ok h
    dsimp only at h
    split at h
    · next hmissing =>
      cases h
      refine ⟨fun hempty => ?_, rfl⟩
      -- neither the operation nor the class has a URI, so the operation counts as missing
      rw [Config.targetName] at hempty
      split at hempty
      · next hown =>
        have hcommon : uris.common = "" := hempty
        rw [Uris.missing, if_pos hcommon, List.filter_eq_nil_iff] at hmissing
        have hall : op ∈ Operation.all := by cases op <;> decide
        exact hmissing op hall (decide_eq_true hown)
      · next hown => exact hown hempty
    · cases h

end Backend

/-! ### Keys -/

namespace Model

variable {m : Model} {b : Backend} {nonNull : ClassName} {id : ElementId} {c : Column}

/-- Whether the annotation of a member says that it is a key. -/
def isKey (m : Model) (b : Backend) (id : ElementId) : Bool :=
  match b.columnSpec m id with
  | .ok p => p.key
  | .error _ => false

/-- The name that the annotation of a member gives. -/
def storedName (m : Model) (b : Backend) (id : ElementId) : String :=
  match b.columnSpec m id with
  | .ok p => p.name
  | .error _ => ""

/-- The key members of a class, in the order of the model. -/
def keyMembers (m : Model) (b : Backend) (owner : ElementId) : List ElementId :=
  (m.membersAmong (m.annotatedWith b.vocabulary.column.qualified) owner).filter (m.isKey b)

theorem Gives.parts (h : m.Gives b id c) :
    c.element = id ∧ c.name = m.storedName b id ∧ c.key = m.isKey b id := by
  obtain ⟨a, a', p, -, hspec, hcolumn⟩ := h
  obtain ⟨type, -, -, -, -, rfl⟩ := column_ok hcolumn
  simp [storedName, isKey, hspec]

/-- The key columns of an entity stand for the key members of its class, one for one. -/
theorem keyMembers_columns {e : Entity}
    (h : e.Holds m b nonNull (m.annotatedWith b.vocabulary.column.qualified)) :
    List.Forall₂ (fun id c => c.element = id ∧ c.name = m.storedName b id)
      (m.keyMembers b e.element) e.keys := by
  have hkeys : List.Forall₂ (m.Gives b) (m.keyMembers b e.element) e.keys := by
    refine List.rel_filter (fun id c hgives => ?_) h.columns
    show m.isKey b id = true ↔ c.key = true
    rw [hgives.parts.2.2]
  exact hkeys.imp fun id c hgives => ⟨hgives.parts.1, hgives.parts.2.1⟩

end Model

/-- The names of the key columns with the question marks that stand for their values. -/
def Entity.keyClause (e : Entity) : String :=
  Text.join " AND " (e.keys.map fun c => c.name ++ " = ?")

/-- With keys there is a filter: it names them all and reads each of them from the object. -/
theorem Filter.calls_byKeys {e : Entity} (h : e.keys ≠ []) :
    (Filter.byKeys e.columns Resolver.object).calls =
      [("where", [.text e.keyClause]), ("whereArgs", e.keys.map (·.valueIn Resolver.object))] := by
  have hempty : (Filter.byKeys e.columns Resolver.object).isEmpty = false := by
    have hterms : (Filter.byKeys e.columns Resolver.object).terms ≠ [] := by
      intro hnil
      exact h (List.map_eq_nil_iff.1 hnil)
    simpa [Filter.isEmpty] using hterms
  have hclause : (Filter.byKeys e.columns Resolver.object).clause = e.keyClause := by
    rw [Filter.clause, Entity.keyClause, Filter.byKeys, List.map_map]
    rfl
  have hvalues : (Filter.byKeys e.columns Resolver.object).values =
      e.keys.map (·.valueIn Resolver.object) := by
    rw [Filter.values, Filter.byKeys, List.map_map]
    rfl
  rw [Filter.calls, Filter.clauseExpr, Filter.valueExprs, hempty, hclause, hvalues]
  rfl

/-! ### Queries -/

/-- The calls of the query builder in a method that takes the object, gives what is built and does
nothing else. -/
def Code.SourceUnit.queryCalls? (u : SourceUnit) (name : String) :
    Option (List (String × List Expr)) :=
  match u.method? name with
  | none => none
  | some method =>
    match method.paramNames, method.body with
    | [parameter], [.giveBuilt _ calls] =>
      if parameter = Resolver.objectName then some calls else none
    | _, _ => none

theorem Code.SourceUnit.queryCalls?_of_method {u : SourceUnit} {name : String} {method : Method}
    {query : TypeName} {calls : List (String × List Expr)} (h : u.method? name = some method)
    (hparams : method.paramNames = [Resolver.objectName])
    (hbody : method.body = [.giveBuilt query calls]) : u.queryCalls? name = some calls := by
  rw [queryCalls?, h]
  dsimp only
  rw [hparams, hbody]
  exact if_pos rfl

/-- What the queries of an entity's put and delete resolvers are in a round over a model. -/
structure Entity.Queries (e : Entity) (p : Processor) (m : Model) : Prop where
  putWritten : Resolver.Put.unit p.backend.runtime e ∈ p.emission m
  deleteWritten : Resolver.Delete.unit p.backend.runtime e ∈ p.emission m
  /-- The targets are those of the annotated class. -/
  ofClass : p.backend.config m e.element = .ok e.config
  targeted : ∀ op, e.config.targetName op ≠ ""
  /-- There is a key. -/
  filtered : e.keys ≠ []
  /-- The keys are all key members of the class, in order, under their names. -/
  keys : List.Forall₂ (fun id c => c.element = id ∧ c.name = m.storedName p.backend id)
    (m.keyMembers p.backend e.element) e.keys
  insert : (Resolver.Put.unit p.backend.runtime e).queryCalls? "mapToInsertQuery" =
    some [(p.backend.targetMethod, [.text (e.config.targetName .insert)])]
  update : (Resolver.Put.unit p.backend.runtime e).queryCalls? "mapToUpdateQuery" =
    some [(p.backend.targetMethod, [.text (e.config.targetName .update)]),
      ("where", [.text e.keyClause]), ("whereArgs", e.keys.map (·.valueIn Resolver.object))]
  delete : (Resolver.Delete.unit p.backend.runtime e).queryCalls? "mapToDeleteQuery" =
    some [(p.backend.targetMethod, [.text (e.config.targetName .delete)]),
      ("where", [.text e.keyClause]), ("whereArgs", e.keys.map (·.valueIn Resolver.object))]

/-- **No query that a round writes is without a target, and no update or deletion without a filter
by all keys.** -/
theorem Processor.queries_of_mem_accepted {p : Processor} {m : Model} {e : Entity}
    (h : e ∈ p.accepted m) : e.Queries p m := by
  have hholds := holds_of_mem_accepted h
  obtain ⟨bare, hbare, -, -, hconfig⟩ := hholds.ofClass
  obtain ⟨config, -, hread, rfl⟩ := Model.entity_ok hbare
  have hconfig : p.backend.config m e.element = .ok e.config := by rw [hconfig, hread]
  have hkeys : e.keys ≠ [] := (Entity.check_eq_ok_iff.1 (check_of_mem_accepted h)).2.1
  have htarget := fun op => (Backend.config_ok hconfig op).2
  have hcalls := Filter.calls_byKeys hkeys
  refine
    { putWritten := mem_emission h (by simp [Entity.units])
      deleteWritten := mem_emission h (by simp [Entity.units])
      ofClass := hconfig
      targeted := fun op => (Backend.config_ok hconfig op).1
      filtered := hkeys
      keys := Model.keyMembers_columns hholds
      insert := ?_
      update := ?_
      delete := ?_ }
  · obtain ⟨method, query, hmethod, hparams, hbody⟩ :=
      Resolver.Put.method?_insert p.backend.runtime e
    rw [Resolver.Put.insertBody, htarget] at hbody
    exact SourceUnit.queryCalls?_of_method hmethod hparams hbody
  · obtain ⟨method, query, hmethod, hparams, hbody⟩ :=
      Resolver.Put.method?_update p.backend.runtime e
    rw [Resolver.Put.updateBody, htarget, hcalls] at hbody
    exact SourceUnit.queryCalls?_of_method hmethod hparams hbody
  · obtain ⟨method, query, hmethod, hparams, hbody⟩ :=
      Resolver.Delete.method?_delete p.backend.runtime e
    rw [Resolver.Delete.deleteBody, htarget, hcalls] at hbody
    exact SourceUnit.queryCalls?_of_method hmethod hparams hbody

theorem Processor.queries_userModel :
    ∃ e ∈ (initial .sqlite .unset).accepted userModel,
      e.Queries (initial .sqlite .unset) userModel := by
  obtain ⟨e, he, -⟩ := exists_accepted_userModel
  exact ⟨e, he, queries_of_mem_accepted he⟩

end ResolverGen
