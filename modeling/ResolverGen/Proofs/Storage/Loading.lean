/-
Loading an object.

`loadedObject?` runs the method of an entity's get resolver that builds an object from a row. Two
ways lead there: an object is made empty and its columns are assigned (`execAll_assign`), or all
columns are read into local variables and handed over to a creator (`execAll_readLocal`). Both need
members that generated code can tell apart (`Apart`), and then both give an object with the values
that the row keeps (`loadedObject?_of_assign`, `loadedObject?_of_create`).
-/
import Mathlib.Data.List.Pairwise
import ResolverGen.Proofs.Lookup
import ResolverGen.Proofs.Resolver.Creation
import ResolverGen.Proofs.Storage.Storing

namespace ResolverGen

open Code

/-! ### Making objects -/

/-- The value in an operand. -/
def Operand.value? : Operand → Option Value
  | .value v => some v
  | _ => none

/-- The name of the static method that a creator is. A constructor has none. -/
def CreatorKind.method? : CreatorKind → Option String
  | .constructor => none
  | .factory name => some name

/-- The object that a creator makes: each parameter sets the column of its name. -/
def Creator.object (creator : Creator) (vs : List Value) : Column → Value := fun c =>
  ((creator.parameters.zip vs).lookup c.property).getD c.type.initial

namespace Entity

/-- What comes of making an object of an entity, by the constructor without parameters or by the
creator. -/
def object? (e : Entity) (method : Option String) (operands : List Operand) : Option Operand :=
  if method = none ∧ operands.isEmpty then some (.object fun c => c.type.initial)
  else
    e.creator.bind fun creator =>
      if creator.kind.method? = method ∧ operands.length = creator.parameters.length then
        (operands.mapM Operand.value?).map fun vs => .object (creator.object vs)
      else none

/-- What a get resolver runs against: it makes objects of the entity. -/
def loading (e : Entity) : World where
  columns := e.columns
  make type method operands := if type = e.className then e.object? method operands else none

/-- The object that is loaded from a row. -/
def loadedObject? (e : Entity) (r : Runtime) (row : String → Cell) : Option (Column → Value) := do
  let method ← (Resolver.Get.unit r e).method? "mapFromCursor"
  match ← method.run e.loading [.storage, .cursor row] with
  | .object o => some o
  | _ => none

/-- Generated code can tell the members of an entity apart, and from its own names. -/
structure Apart (e : Entity) (r : Runtime) : Prop where
  properties : (e.columns.map (·.property)).Nodup
  accesses : (e.columns.map (·.access)).Nodup
  setters : (e.columns.filterMap (·.setter)).Nodup
  free : ∀ c ∈ e.columns, c.property ≠ Resolver.objectName ∧
    c.property ≠ Resolver.Get.cursorName ∧ c.property ≠ r.storageParameter

end Entity

/-! ### Assigning columns -/

section

variable {e : Entity} {r : Runtime} {env : Env} {c : Column} {o v : Column → Value}
  {row : String → Cell}

/-- A setter sets its own column. -/
theorem Entity.Apart.eq_of_setter (h : e.Apart r) {d : Column} {name : String}
    (hc : c ∈ e.columns) (hd : d ∈ e.columns) (hcsetter : c.setter = some name)
    (hdsetter : d.setter = some name) : d = c := by
  have hpairwise := List.pairwise_filterMap.1 h.setters
  by_contra hne
  have hsymm : Std.Symm fun a b : Column =>
      ∀ x, a.setter = some x → ∀ y, b.setter = some y → x ≠ y :=
    ⟨fun a b hab x hx y hy => (hab y hy x hx).symm⟩
  exact hpairwise.forall hd hc hne name hdsetter name hcsetter rfl

/-- Where no creator is needed, an object can be told the value of every column. -/
theorem exec_setIn (h : e.Apart r) (hc : c ∈ e.columns) (hplain : c.onlyByCreator = false)
    (hobject : env Resolver.objectName = some (.object o)) {value : Expr} {x : Value}
    (hvalue : eval e.loading env value = some (.value x)) :
    exec e.loading env (c.setIn Resolver.object value) =
      some (.next (env.set Resolver.objectName (.object (Function.update o c x)))) := by
  -- a method would have needed a creator
  have hkind : c.kind = .field := by
    cases hk : c.kind with
    | field => rfl
    | method => simp [Column.onlyByCreator, hk] at hplain
  have hfield : exec e.loading env (.assign (.field Resolver.object c.elementName) value) =
      some (.next (env.set Resolver.objectName (.object (Function.update o c x)))) := by
    have hfind : e.loading.columns.find?
        (fun d => d.kind = .field && d.elementName = c.elementName) = some c := by
      refine find?_of_unique hc (by simp [hkind]) fun d hd hfield => ?_
      simp only [Bool.and_eq_true, decide_eq_true_eq] at hfield
      refine List.inj_on_of_nodup_map h.properties hd hc ?_
      rw [Column.property, Column.property, hfield.1, hkind]
      exact hfield.2
    refine exec_assignField hobject hvalue ?_
    show (e.loading.columns.find? _).map _ = _
    rw [hfind]
    rfl
  unfold Column.setIn
  cases hsetter : c.setter with
  | none => exact hfield
  | some setter =>
    dsimp only
    by_cases hgetter : c.getter.isSome = true
    · have hfind : e.loading.columns.find?
          (fun d => d.getter.isSome && d.setter = some setter) = some c := by
        refine find?_of_unique hc (by simp [hgetter, hsetter]) fun d hd hset => ?_
        simp only [Bool.and_eq_true, decide_eq_true_eq] at hset
        exact h.eq_of_setter hc hd hsetter hset.2
      rw [if_pos hgetter]
      refine exec_run hobject (evalAll_singleton hvalue) ?_
      show (e.loading.columns.find? _).map _ = _
      rw [hfind]
      rfl
    · rw [if_neg hgetter]
      exact hfield

/-- An object after some columns have been assigned, those without a value being passed over. -/
def assigned (v : Column → Value) (cs : List Column) (o : Column → Value) : Column → Value :=
  fun c => if c ∈ cs ∧ v c ≠ .null then v c else o c

theorem assigned_cons (v : Column → Value) (c : Column) (cs : List Column) (o : Column → Value) :
    assigned v cs (if v c = .null then o else Function.update o c (v c)) =
      assigned v (c :: cs) o := by
  funext d
  by_cases hd : d ∈ cs ∧ v d ≠ .null
  · rw [assigned, assigned, if_pos hd, if_pos ⟨List.mem_cons_of_mem _ hd.1, hd.2⟩]
  · rw [assigned, assigned, if_neg hd]
    by_cases hdc : d = c
    · subst hdc
      by_cases hnull : v d = .null
      · rw [if_pos hnull, if_neg fun h => h.2 hnull]
      · rw [if_neg hnull, Function.update_self, if_pos ⟨List.mem_cons_self, hnull⟩]
    · have hcs : ¬(d ∈ c :: cs ∧ v d ≠ .null) := by
        rintro ⟨hmem, hnull⟩
        exact hd ⟨(List.mem_cons.1 hmem).resolve_left hdc, hnull⟩
      rw [if_neg hcs]
      split
      · rfl
      · exact Function.update_of_ne hdc ..

/-- The columns of an object are assigned one after the other. -/
theorem execAll_assign (h : e.Apart r) {cs : List Column} (hcs : ∀ c ∈ cs, c ∈ e.columns)
    (hplain : ∀ c ∈ cs, c.onlyByCreator = false)
    (hadmits : ∀ c ∈ cs, c.type.admits (v c) = true)
    (hcells : ∀ c ∈ cs, Cell.of? (v c) = some (row c.name))
    (hobject : env Resolver.objectName = some (.object o))
    (hcursor : env Resolver.Get.cursorName = some (.cursor row)) :
    execAll e.loading env (cs.map Resolver.Get.assign) =
      some (.next (env.set Resolver.objectName (.object (assigned v cs o)))) := by
  induction cs generalizing env o with
  | nil =>
    have hassigned : assigned v [] o = o := by
      funext c
      exact if_neg fun h => List.not_mem_nil h.1
    rw [hassigned, Env.set_eq_self hobject]
    rfl
  | cons c cs ih =>
    obtain ⟨hc, hcs⟩ := List.forall_mem_cons.1 hcs
    obtain ⟨hfirst, hplain⟩ := List.forall_mem_cons.1 hplain
    obtain ⟨hfits, hadmits⟩ := List.forall_mem_cons.1 hadmits
    obtain ⟨hcell, hcells⟩ := List.forall_mem_cons.1 hcells
    let o' := if v c = .null then o else Function.update o c (v c)
    have hstep : exec e.loading env (Resolver.Get.assign c) =
        some (.next (env.set Resolver.objectName (.object o'))) := by
      have hset (hv : v c ≠ .null) := exec_setIn h hc hfirst hobject
        (eval_readCursor hcursor hfits hv hcell)
      have hguard := exec_guardNull hcursor hfits hcell hset
        (Env.leave_set (by rw [hobject]; rfl))
      rw [Resolver.Get.assign, hguard]
      by_cases hv : v c = .null
      · rw [if_pos hv, show o' = o from if_pos hv, Env.set_eq_self hobject]
      · rw [if_neg hv, show o' = Function.update o c (v c) from if_neg hv]
    have hcursor' : (env.set Resolver.objectName (.object o')) Resolver.Get.cursorName =
        some (.cursor row) := by
      rw [← hcursor]
      exact Env.set_of_ne (by decide)
    rw [List.map_cons, execAll_next hstep, ih hcs hplain hadmits hcells Env.set_self hcursor',
      Env.set_set, assigned_cons]

end

/-! ### Handing columns over to a creator -/

section

variable {w : World} {env : Env} {c : Column} {v : Column → Value} {row : String → Cell}

/-- A column is read into a variable of its own, which is null if there is no value. -/
theorem execAll_readLocal (type : TypeUse) (hadmits : c.type.admits (v c) = true)
    (hcell : Cell.of? (v c) = some (row c.name)) (hfree : env c.property = none)
    (hcursor : env Resolver.Get.cursorName = some (.cursor row)) :
    execAll w env (Resolver.Get.readLocal type c) =
      some (.next (env.set c.property (.value (v c)))) := by
  unfold Resolver.Get.readLocal
  by_cases hnullable : c.type.isNullable = true
  · -- declared as null first, then assigned behind a guard
    let declared := env.set c.property (.value .null)
    have hdeclare : exec w env (.declare type c.property .null) = some (.next declared) :=
      exec_declare hfree rfl type
    have hdeclared : declared c.property = some (.value .null) := Env.set_self
    have hcursor' : declared Resolver.Get.cursorName = some (.cursor row) :=
      Env.set_of_free hfree hcursor
    have hassign (hv : v c ≠ .null) :
        exec w declared (.assign (.var c.property) c.readCursor) =
          some (.next (declared.set c.property (.value (v c)))) :=
      exec_assign hdeclared (eval_readCursor hcursor' hadmits hv hcell)
    have hguard := exec_guardNull hcursor' hadmits hcell hassign
      (Env.leave_set (by rw [hdeclared]; rfl))
    rw [if_pos hnullable, execAll_next hdeclare, execAll_next hguard]
    by_cases hv : v c = .null
    · rw [if_pos hv, hv]
      rfl
    · rw [if_neg hv, Env.set_set]
      rfl
  · have hv : v c ≠ .null := by
      intro hv
      rw [hv] at hadmits
      exact hnullable hadmits
    rw [if_neg hnullable,
      execAll_next (exec_declare hfree (eval_readCursor hcursor hadmits hv hcell) type)]
    rfl

/-- Columns of different properties are read side by side. -/
theorem execAll_readLocals {locals : List (TypeUse × Column)}
    (hadmits : ∀ l ∈ locals, l.2.type.admits (v l.2) = true)
    (hcells : ∀ l ∈ locals, Cell.of? (v l.2) = some (row l.2.name))
    (hproperties : (locals.map (·.2.property)).Nodup)
    (hfree : ∀ l ∈ locals, env l.2.property = none)
    (hcursor : env Resolver.Get.cursorName = some (.cursor row)) :
    ∃ env', execAll w env (locals.flatMap fun (type, c) => Resolver.Get.readLocal type c) =
        some (.next env') ∧
      (∀ l ∈ locals, env' l.2.property = some (.value (v l.2))) ∧
      ∀ name, name ∉ locals.map (·.2.property) → env' name = env name := by
  -- a variable that is declared leaves the names of the later ones free
  induction locals generalizing env with
  | nil => exact ⟨env, rfl, by simp, fun _ _ => rfl⟩
  | cons l locals ih =>
    obtain ⟨type, c⟩ := l
    obtain ⟨hfits, hadmits⟩ := List.forall_mem_cons.1 hadmits
    obtain ⟨hcell, hcells⟩ := List.forall_mem_cons.1 hcells
    obtain ⟨hfirst, hfree⟩ := List.forall_mem_cons.1 hfree
    rw [List.map_cons, List.nodup_cons] at hproperties
    have hother : ∀ l ∈ locals, l.2.property ≠ c.property := by
      intro l hl heq
      exact hproperties.1 (List.mem_map.2 ⟨l, hl, heq⟩)
    have hfree' : ∀ l ∈ locals, (env.set c.property (.value (v c))) l.2.property = none := by
      intro l hl
      rw [Env.set_of_ne (hother l hl)]
      exact hfree l hl
    have hcursor' : (env.set c.property (.value (v c))) Resolver.Get.cursorName =
        some (.cursor row) :=
      Env.set_of_free hfirst hcursor
    obtain ⟨env', hrun, hvalues, hframe⟩ :=
      ih hadmits hcells hproperties.2 hfree' hcursor'
    refine ⟨env', ?_, ?_, ?_⟩
    · rw [List.flatMap_cons, execAll_append (execAll_readLocal type hfits hcell hfirst hcursor)]
      exact hrun
    · refine List.forall_mem_cons.2 ⟨?_, hvalues⟩
      rw [hframe c.property hproperties.1, Env.set_self]
    · intro name hname
      rw [List.map_cons, List.mem_cons, not_or] at hname
      rw [hframe name hname.2, Env.set_of_ne hname.1]

/-- The variables of some columns hold their values. -/
theorem evalAll_locals {locals : List (TypeUse × Column)}
    (hvalues : ∀ l ∈ locals, env l.2.property = some (.value (v l.2))) :
    evalAll w env (locals.map fun (_, c) => .var c.property) =
      some (locals.map fun l => .value (v l.2)) := by
  induction locals with
  | nil => rfl
  | cons l locals ih =>
    obtain ⟨hvalue, hvalues⟩ := List.forall_mem_cons.1 hvalues
    have heval : eval w env (.var l.2.property) = some (.value (v l.2)) := hvalue
    exact evalAll_cons heval (ih hvalues)

/-- What a creator is handed over for a column is what the object holds there. -/
theorem Creator.object_of_locals {creator : Creator} {locals : List (TypeUse × Column)}
    (hparameters : locals.map (·.2.property) = creator.parameters)
    (hproperties : (locals.map (·.2.property)).Nodup) {l : TypeUse × Column} (hl : l ∈ locals) :
    creator.object (locals.map fun l => v l.2) l.2 = v l.2 := by
  have hlookup : (creator.parameters.zip (locals.map fun l => v l.2)).lookup l.2.property =
      some (v l.2) := by
    rw [← hparameters, List.zip_map']
    refine (lookup_eq_some_iff_mem ?_).2 (List.mem_map.2 ⟨l, hl, rfl⟩)
    rw [List.map_map]
    exact hproperties
  rw [Creator.object, hlookup]
  rfl

theorem mapM_value? {α : Type} (vs : α → Value) (l : List α) :
    (l.map fun a => Operand.value (vs a)).mapM Operand.value? = some (l.map vs) := by
  induction l with
  | nil => rfl
  | cons a l ih => simp [List.mapM_cons, ih, Operand.value?]

/-- Calling the creator makes an object of the values handed over. -/
theorem eval_invoke {e : Entity} {creator : Creator} {type : TypeName}
    {locals : List (TypeUse × Column)} (hcreator : e.creator = some creator)
    (htype : type.denotes = e.className) (hlocals : locals ≠ [])
    (hlength : locals.length = creator.parameters.length)
    (hvalues : ∀ l ∈ locals, env l.2.property = some (.value (v l.2))) :
    eval e.loading env (creator.invoke type (locals.map fun (_, c) => .var c.property)) =
      some (.object (creator.object (locals.map fun l => v l.2))) := by
  have harguments := evalAll_locals (w := e.loading) hvalues
  have hmake : e.loading.make type.denotes creator.kind.method?
      (locals.map fun l => .value (v l.2)) =
        some (.object (creator.object (locals.map fun l => v l.2))) := by
    have hempty : ¬(creator.kind.method? = none ∧
        (locals.map fun l => Operand.value (v l.2)).isEmpty = true) := by
      rintro ⟨-, hempty⟩
      rw [List.isEmpty_iff, List.map_eq_nil_iff] at hempty
      exact hlocals hempty
    have hcall : creator.kind.method? = creator.kind.method? ∧
        (locals.map fun l => Operand.value (v l.2)).length = creator.parameters.length :=
      ⟨rfl, by rw [List.length_map, hlength]⟩
    rw [htype]
    show (if e.className = e.className then _ else none) = _
    rw [if_pos rfl, Entity.object?, if_neg hempty, hcreator, Option.bind_some, if_pos hcall,
      mapM_value?]
    rfl
  unfold Creator.invoke
  cases hkind : creator.kind with
  | constructor =>
    rw [hkind] at hmake
    exact (eval_construct harguments type).trans hmake
  | factory name =>
    rw [hkind] at hmake
    exact (eval_callOn harguments type name).trans hmake

end

/-! ### Loading -/

namespace Entity

variable {e : Entity} {b : Backend} {v : Column → Value} {row : String → Cell}

/-- The body of a get resolver starts with the storage and the cursor. -/
theorem start_loading (b : Backend) (row : String → Cell) :
    let env := Env.start [b.runtime.storageParameter, Resolver.Get.cursorName]
      [.storage, .cursor row]
    env Resolver.Get.cursorName = some (.cursor row) ∧ env Resolver.objectName = none ∧
      ∀ name, name ≠ Resolver.Get.cursorName → name ≠ b.runtime.storageParameter →
        env name = none := by
  refine ⟨by cases b <;> rfl, by cases b <;> rfl, fun name hcursor hstorage => ?_⟩
  have hcursor : (name == Resolver.Get.cursorName) = false := beq_eq_false_iff_ne.2 hcursor
  have hstorage : (name == b.runtime.storageParameter) = false := beq_eq_false_iff_ne.2 hstorage
  simp [Env.start, List.lookup_cons, hcursor, hstorage]

theorem loadedObject?_of_run {r : Runtime} {method : Method} {o : Column → Value}
    (hmethod : (Resolver.Get.unit r e).method? "mapFromCursor" = some method)
    (hrun : method.run e.loading [.storage, .cursor row] = some (.object o)) :
    e.loadedObject? r row = some o := by
  rw [loadedObject?, hmethod]
  show (method.run e.loading [.storage, .cursor row]).bind _ = _
  rw [hrun]
  rfl

/-- Without a creator, the object is made empty and assigned what the row keeps. -/
theorem loadedObject?_of_assign (h : e.Apart b.runtime) (hactive : e.activeCreator? = none)
    (hplain : ∀ c ∈ e.columns, c.onlyByCreator = false)
    (hadmits : ∀ c ∈ e.columns, c.type.admits (v c) = true)
    (hcells : ∀ c ∈ e.columns, Cell.of? (v c) = some (row c.name)) :
    ∃ o, e.loadedObject? b.runtime row = some o ∧ ∀ c ∈ e.columns, o c = v c := by
  obtain ⟨method, entity, hmethod, hparams, hbody, hentity⟩ :=
    Resolver.Get.method?_assign b.runtime hactive
  obtain ⟨hcursor, hfree, -⟩ := start_loading b row
  let env := Env.start [b.runtime.storageParameter, Resolver.Get.cursorName]
    [.storage, .cursor row]
  let fresh : Column → Value := fun c => c.type.initial
  have hmake : eval e.loading env (.construct entity []) = some (.object fresh) := by
    refine (eval_construct rfl entity).trans ?_
    rw [hentity]
    exact if_pos rfl
  have hobject : (env.set Resolver.objectName (.object fresh)) Resolver.objectName =
      some (.object fresh) := Env.set_self
  have hassign := execAll_assign h (fun _ hc => hc) hplain hadmits hcells hobject
    (Env.set_of_free hfree hcursor)
  refine ⟨assigned v e.columns fresh, ?_, fun c hc => ?_⟩
  · refine loadedObject?_of_run hmethod ?_
    rw [Method.run, hparams, hbody, Resolver.Get.assignBody, List.append_assoc, List.cons_append,
      execAll_next (exec_declare hfree hmake _), List.singleton_append, execAll_blank,
      execAll_append hassign, execAll_blank, Resolver.object, execAll_give Env.set_self]
  · by_cases hv : v c = .null
    · -- nothing is assigned, and a new object holds null there
      have hnullable : c.type.isNullable = true := by
        have := hadmits c hc
        rwa [hv] at this
      rw [assigned, if_neg fun h => h.2 hv, hv]
      exact ColumnType.initial_of_isNullable hnullable
    · rw [assigned, if_pos ⟨hc, hv⟩]

/-- With a creator, the creator is handed over what the row keeps. -/
theorem loadedObject?_of_create (h : e.Apart b.runtime) {creator : Creator}
    (hactive : e.activeCreator? = some creator) (hmatch : e.matchesCreator creator = true)
    (hsome : e.columns ≠ []) (hadmits : ∀ c ∈ e.columns, c.type.admits (v c) = true)
    (hcells : ∀ c ∈ e.columns, Cell.of? (v c) = some (row c.name)) :
    ∃ o, e.loadedObject? b.runtime row = some o ∧ ∀ c ∈ e.columns, o c = v c := by
  obtain ⟨method, entity, locals, hmethod, hparams, hbody, hentity, hlocals⟩ :=
    Resolver.Get.method?_create b.runtime hactive
  obtain ⟨hcursor, hfree, hunbound⟩ := start_loading b row
  have hcolumns : ∀ l ∈ locals, l.2 ∈ e.columns := by
    intro l hl
    rw [← e.ordered_perm.mem_iff, ← hlocals]
    exact List.mem_map.2 ⟨l, hl, rfl⟩
  have hparameters : locals.map (·.2.property) = creator.parameters := by
    rw [← ordered_property_of_nodup hactive hmatch h.properties, ← hlocals, List.map_map]
    rfl
  have hproperties : (locals.map (·.2.property)).Nodup := by
    rw [hparameters]
    exact (property_perm_of_matchesCreator hmatch h.properties).nodup h.properties
  have hlocalsSome : locals ≠ [] := by
    rintro rfl
    have hordered : e.ordered = [] := hlocals.symm
    have hperm := e.ordered_perm.symm
    rw [hordered] at hperm
    exact hsome (List.perm_nil.1 hperm)
  obtain ⟨env, hread, hvalues, hframe⟩ := execAll_readLocals (w := e.loading)
    (fun l hl => hadmits l.2 (hcolumns l hl)) (fun l hl => hcells l.2 (hcolumns l hl)) hproperties
    (fun l hl => hunbound _ (h.free l.2 (hcolumns l hl)).2.1 (h.free l.2 (hcolumns l hl)).2.2)
    hcursor
  -- no column is read into a variable of the object's name
  have hobject : env Resolver.objectName = none := by
    rw [← hfree]
    refine hframe _ fun hmem => ?_
    obtain ⟨l, hl, heq⟩ := List.mem_map.1 hmem
    exact (h.free l.2 (hcolumns l hl)).1 heq
  have hcreator : e.creator = some creator := by
    unfold activeCreator? at hactive
    split at hactive
    · exact hactive
    · cases hactive
  have hlength : locals.length = creator.parameters.length := by
    rw [← hparameters, List.length_map]
  have hinvoke := eval_invoke hcreator hentity hlocalsSome hlength hvalues
  refine ⟨creator.object (locals.map fun l => v l.2), ?_, fun c hc => ?_⟩
  · refine loadedObject?_of_run hmethod ?_
    rw [Method.run, hparams, hbody, Resolver.Get.createBody, List.cons_append, execAll_blank,
      execAll_append hread, execAll_blank, execAll_next (exec_declare hobject hinvoke _),
      execAll_blank, Resolver.object, execAll_give Env.set_self]
  · have hmem : c ∈ locals.map (·.2) := by
      rw [hlocals, e.ordered_perm.mem_iff]
      exact hc
    obtain ⟨l, hl, rfl⟩ := List.mem_map.1 hmem
    exact Creator.object_of_locals hparameters hproperties hl

end Entity

/-- **What the put resolver of an accepted entity stores, its get resolver loads again.** -/
theorem Processor.loadedObject?_of_storedRow? {p : Processor} {m : Model} {e : Entity}
    (h : e ∈ p.accepted m) (hapart : e.Apart p.backend.runtime) {v : Column → Value}
    (hadmits : ∀ c ∈ e.columns, c.type.admits (v c) = true) :
    ∃ row o, e.storedRow? p.backend.runtime v = some row ∧
      e.loadedObject? p.backend.runtime row = some o ∧ ∀ c ∈ e.columns, o c = v c := by
  have hholds := holds_of_mem_accepted h
  have hcheck := check_of_mem_accepted h
  obtain ⟨row, hrow, hcells⟩ :=
    Entity.storedRow?_ok p.backend.runtime hholds.distinct hapart.accesses hadmits
  have hload : ∃ o, e.loadedObject? p.backend.runtime row = some o ∧
      ∀ c ∈ e.columns, o c = v c := by
    cases hneeds : e.byCreator with
    | true =>
      obtain ⟨creator, hactive, hmatch⟩ := Entity.activeCreator?_of_check hcheck hneeds
      have hsome : e.columns ≠ [] := (Entity.check_eq_ok_iff.1 hcheck).1
      exact Entity.loadedObject?_of_create hapart hactive hmatch hsome hadmits hcells
    | false =>
      have hactive : e.activeCreator? = none := by
        rw [Entity.activeCreator?, hneeds]
        rfl
      have hplain : ∀ c ∈ e.columns, c.onlyByCreator = false := by
        intro c hc
        rw [← hneeds]
        exact hholds.uniform c hc
      exact Entity.loadedObject?_of_assign hapart hactive hplain hadmits hcells
  obtain ⟨o, ho, hvalues⟩ := hload
  exact ⟨row, o, hrow, ho, hvalues⟩

/-- Values of a key and of a name. -/
def Processor.userValues (c : Column) : Value := if c.key then .integer 7 else .text [65, 110, 110]

theorem Processor.loadedObject?_userModel :
    ∃ e ∈ (initial .sqlite .unset).accepted userModel, e.Apart Backend.sqlite.runtime ∧
      (∀ c ∈ e.columns, c.type.admits (userValues c) = true) ∧
      ∃ row o, e.storedRow? Backend.sqlite.runtime userValues = some row ∧
        e.loadedObject? Backend.sqlite.runtime row = some o ∧
        ∀ c ∈ e.columns, o c = userValues c := by
  obtain ⟨e, he, hcolumns, -, -⟩ := exists_accepted_userModel
  have hapart : e.Apart Backend.sqlite.runtime := by
    refine ⟨?_, ?_, ?_, ?_⟩ <;> rw [hcolumns] <;> decide +kernel
  have hadmits : ∀ c ∈ e.columns, c.type.admits (userValues c) = true := by
    rw [hcolumns]
    decide +kernel
  exact ⟨e, he, hapart, hadmits, loadedObject?_of_storedRow? he hapart hadmits⟩

end ResolverGen
