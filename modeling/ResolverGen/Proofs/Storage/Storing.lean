/-
Storing an object.

`storedRow?` runs the method of an entity's put resolver that gives the content values. It gives a
row that keeps the value of every column under the name of the column (`storedRow?_ok`): a column
that is left out because its value is null is null in the row all the same.
-/
import Mathlib.Data.List.Nodup
import ResolverGen.Proofs.Storage.Execution

namespace ResolverGen

open Code

/-- The one element of a list that fulfils a condition is the one that is found. -/
theorem find?_of_unique {α : Type} {l : List α} {p : α → Bool} {a : α} (ha : a ∈ l)
    (hp : p a = true) (hunique : ∀ b ∈ l, p b = true → b = a) : l.find? p = some a := by
  obtain ⟨b, hb⟩ := Option.isSome_iff_exists.1 (List.find?_isSome.2 ⟨a, ha, hp⟩)
  rw [hb, hunique b (List.mem_of_find?_eq_some hb) (List.find?_some hb)]

namespace Entity

/-- What a put resolver runs against: it makes content values, of any capacity. -/
def storing (e : Entity) : World where
  columns := e.columns
  make
    | type, none, [.value (.integer _)] =>
      if type = Resolver.Put.contentValuesClass then some (.contents fun _ => .null) else none
    | _, _, _ => none

/-- The row that is stored for an object. -/
def storedRow? (e : Entity) (r : Runtime) (o : Column → Value) : Option (String → Cell) := do
  let method ← (Resolver.Put.unit r e).method? "mapToContentValues"
  match ← method.run e.storing [.object o] with
  | .contents row => some row
  | _ => none

end Entity

section

variable {w : World} {env : Env} {c : Column} {o : Column → Value} {row : String → Cell}
  {cell : Cell}

theorem exec_put {value : Expr} {v : Value}
    (hcontents : env Resolver.Put.valuesName = some (.contents row))
    (hvalue : eval w env value = some (.value v)) (hcell : Cell.of? v = some cell) :
    exec w env (.run (.call (.var Resolver.Put.valuesName) "put" [.text c.name, value])) =
      some (.next (env.set Resolver.Put.valuesName
        (.contents (Function.update row c.name cell)))) := by
  have htell : w.tell (.contents row) "put" [.literal c.name, .value v] =
      some (.contents (Function.update row c.name cell)) := by
    show (Cell.of? v).map _ = _
    rw [hcell]
    rfl
  exact exec_run hcontents (evalAll_cons rfl (evalAll_singleton hvalue)) htell

/-- Storing a column changes nothing but its own cell. -/
theorem exec_store (hobject : env Resolver.objectName = some (.object o))
    (hcontents : env Resolver.Put.valuesName = some (.contents row))
    (hc : w.columns.find? (·.access = c.access) = some c)
    (hcell : Cell.of? (o c) = some cell) (hempty : row c.name = .null) :
    exec w env (Resolver.Put.store c) =
      some (.next (env.set Resolver.Put.valuesName
        (.contents (Function.update row c.name cell)))) := by
  have hvalue := eval_valueIn hobject hc
  have hput := exec_put (c := c) hcontents hvalue hcell
  unfold Resolver.Put.store
  dsimp only
  by_cases hignore : c.ignoreNull = true
  · have hcondition : eval w env (.differ (c.valueIn Resolver.object) .null) =
        some (.value (.boolean (o c ≠ .null))) :=
      eval_differ hvalue
    rw [if_pos hignore]
    by_cases hnull : o c = .null
    · -- there is no entry, and none is needed: the cell of null is that of an absent column
      have hrow : Function.update row c.name cell = row := by
        rw [hnull] at hcell
        cases hcell
        rw [← hempty]
        exact Function.update_eq_self ..
      rw [decide_eq_false (not_not.2 hnull)] at hcondition
      rw [hrow, Env.set_eq_self hcontents]
      exact exec_guarded_of_false hcondition _
    · rw [decide_eq_true hnull] at hcondition
      exact exec_guarded_of_true hcondition hput (Env.leave_set (by rw [hcontents]; rfl))
  · rw [if_neg hignore]
    exact hput

/-- Columns of different names are stored side by side. -/
theorem execAll_store {cs : List Column}
    (hfind : ∀ c ∈ cs, w.columns.find? (·.access = c.access) = some c)
    (hcells : ∀ c ∈ cs, ∃ cell, Cell.of? (o c) = some cell) (hnames : (cs.map (·.name)).Nodup)
    (hobject : env Resolver.objectName = some (.object o))
    (hcontents : env Resolver.Put.valuesName = some (.contents row))
    (hempty : ∀ c ∈ cs, row c.name = .null) :
    ∃ row', execAll w env (cs.map Resolver.Put.store) =
        some (.next (env.set Resolver.Put.valuesName (.contents row'))) ∧
      (∀ c ∈ cs, Cell.of? (o c) = some (row' c.name)) ∧
      ∀ name, name ∉ cs.map (·.name) → row' name = row name := by
  -- the first column leaves the cells of the others null, as their names are different
  induction cs generalizing env row with
  | nil => exact ⟨row, by rw [Env.set_eq_self hcontents]; rfl, by simp, fun _ _ => rfl⟩
  | cons c cs ih =>
    obtain ⟨hc, hcs⟩ := List.forall_mem_cons.1 hfind
    obtain ⟨⟨cell, hcell⟩, hcells⟩ := List.forall_mem_cons.1 hcells
    obtain ⟨hnull, hempty⟩ := List.forall_mem_cons.1 hempty
    rw [List.map_cons, List.nodup_cons] at hnames
    have hother : ∀ d ∈ cs, d.name ≠ c.name := by
      intro d hd heq
      exact hnames.1 (List.mem_map.2 ⟨d, hd, heq⟩)
    have hstep := exec_store hobject hcontents hc hcell hnull
    let next := env.set Resolver.Put.valuesName (.contents (Function.update row c.name cell))
    have hobject' : next Resolver.objectName = some (.object o) := by
      rw [← hobject]
      exact Env.set_of_ne (by decide)
    have hempty' : ∀ d ∈ cs, Function.update row c.name cell d.name = .null := by
      intro d hd
      rw [Function.update_of_ne (hother d hd)]
      exact hempty d hd
    obtain ⟨row', hrun, hkept, hframe⟩ :=
      ih hcs hcells hnames.2 hobject' Env.set_self hempty'
    refine ⟨row', ?_, ?_, ?_⟩
    · rw [List.map_cons, execAll_next hstep, hrun, Env.set_set]
    · refine List.forall_mem_cons.2 ⟨?_, hkept⟩
      rw [hframe c.name hnames.1, Function.update_self]
      exact hcell
    · intro name hname
      rw [List.map_cons, List.mem_cons, not_or] at hname
      rw [hframe name hname.2, Function.update_of_ne hname.1]

end

/-- The put resolver of an entity stores every column under its name. -/
theorem Entity.storedRow?_ok {e : Entity} (r : Runtime) {o : Column → Value}
    (hnames : (e.columns.map (·.name)).Nodup) (haccesses : (e.columns.map (·.access)).Nodup)
    (ho : ∀ c ∈ e.columns, c.type.admits (o c) = true) :
    ∃ row, e.storedRow? r o = some row ∧
      ∀ c ∈ e.columns, Cell.of? (o c) = some (row c.name) := by
  obtain ⟨method, values, hmethod, hparams, hbody, hvalues⟩ := Resolver.Put.method?_values r e
  have hfind : ∀ c ∈ e.columns, e.storing.columns.find? (·.access = c.access) = some c := by
    intro c hc
    refine find?_of_unique hc (decide_eq_true rfl) fun d hd heq => ?_
    exact List.inj_on_of_nodup_map haccesses hd hc (of_decide_eq_true heq)
  let env := Env.start [Resolver.objectName] [.object o]
  let declared := env.set Resolver.Put.valuesName (.contents fun _ => .null)
  have hfree : env Resolver.Put.valuesName = none := rfl
  have hobject : declared Resolver.objectName = some (.object o) := rfl
  have hcontents : declared Resolver.Put.valuesName = some (.contents fun _ => .null) := rfl
  have hmake : eval e.storing env (.construct values [.number e.columns.length]) =
      some (.contents fun _ => .null) := by
    rw [eval_construct (evalAll_singleton rfl), hvalues]
    rfl
  obtain ⟨row, hrun, hkept, -⟩ := execAll_store hfind
    (fun c hc => exists_cell_of_admits (ho c hc)) hnames hobject hcontents fun _ _ => rfl
  refine ⟨row, ?_, hkept⟩
  have hmethodRun : method.run e.storing [.object o] = some (.contents row) := by
    rw [Method.run, hparams, hbody, Resolver.Put.valuesBody, List.append_assoc, List.cons_append,
      execAll_next (exec_declare hfree hmake _), List.singleton_append, execAll_blank,
      execAll_append hrun, execAll_blank, execAll_give Env.set_self]
  rw [Entity.storedRow?, hmethod]
  show (method.run e.storing [.object o]).bind _ = _
  rw [hmethodRun]
  rfl

end ResolverGen
