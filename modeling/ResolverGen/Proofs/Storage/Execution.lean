/-
Running the bodies of generated methods.

Expressions are evaluated and statements run in an environment, which gives the local names their
operands. Code that has no meaning is stuck: a name that is declared twice or not at all, a member
that no column stands for, a conversion that would lose something. What a run reaches is therefore
reached without any of these.

* `execAll_next`, `execAll_append` — a body runs statement by statement and part by part,
* `eval_valueIn`, `eval_present`, `eval_readCursor` — what the resolvers read,
* `exec_guardNull` — what is guarded against null is run just where the row has a value.
-/
import Mathlib.Logic.Function.Basic
import ResolverGen.Proofs.Resolver.Methods
import ResolverGen.Proofs.Storage.Value

namespace ResolverGen

open Code

/-! ### Operands and environments -/

/-- What an expression stands for and a name can hold. -/
inductive Operand where
  | value (v : Value)
  /-- A text of the code itself. -/
  | literal (s : String)
  /-- An object, by the values of its columns. -/
  | object (o : Column → Value)
  /-- Content values; a column without an entry is null. -/
  | contents (row : String → Cell)
  /-- A cursor at a row. -/
  | cursor (row : String → Cell)
  /-- The index of a column of a cursor. -/
  | index (column : String)
  | storage

/-- The operands of the local names. -/
def Env := String → Option Operand

namespace Env

/-- Gives a name an operand. -/
def set (env : Env) (name : String) (operand : Operand) : Env :=
  Function.update env name (some operand)

/-- What is left of an inner environment behind its block: names of the block alone are gone. -/
def leave (env inner : Env) : Env := fun name => if (env name).isSome then inner name else none

/-- The environment in which the body of a method starts. -/
def start (names : List String) (operands : List Operand) : Env := fun name =>
  (names.zip operands).lookup name

variable {env : Env} {name other : String} {operand : Operand}

@[simp] theorem set_self : env.set name operand name = some operand := Function.update_self ..

@[simp] theorem set_of_ne (h : other ≠ name) : env.set name operand other = env other :=
  Function.update_of_ne h ..

/-- Giving a name the operand that it has changes nothing. -/
theorem set_eq_self (h : env name = some operand) : env.set name operand = env := by
  rw [set, ← h]
  exact Function.update_eq_self ..

@[simp] theorem set_set {operand' : Operand} :
    (env.set name operand).set name operand' = env.set name operand' :=
  Function.update_idem ..

/-- Giving a free name an operand changes no other name. -/
theorem set_of_free {operand' : Operand} (hfree : env name = none) (h : env other = some operand') :
    env.set name operand other = some operand' := by
  rw [← h]
  refine set_of_ne fun heq => ?_
  rw [heq, hfree] at h
  cases h

/-- An assignment survives the block that it stands in. -/
theorem leave_set (h : (env name).isSome = true) : env.leave (env.set name operand) =
    env.set name operand := by
  funext x
  by_cases hx : x = name
  · rw [hx, leave, if_pos h]
  · rw [leave, set_of_ne hx]
    cases env x <;> rfl

end Env

/-- What code runs against: the columns of its objects, and what the constructors (without a name)
and the static methods of classes give. -/
structure World where
  columns : List Column
  make : ClassName → Option String → List Operand → Option Operand

namespace World

variable (w : World)

/-- Reads a member of an object. -/
def member : Operand → Access → Option Operand
  | .object o, access =>
    (w.columns.find? (·.access = access)).map fun c => .value (o c)
  | _, _ => none

/-- What a call gives. -/
def ask : Operand → String → List Operand → Option Operand
  | .object o, method, [] => w.member (.object o) (.call method)
  | .cursor _, method, [.literal column] =>
    if method = "getColumnIndex" then some (.index column) else none
  | .cursor row, method, [.index column] =>
    if method = "isNull" then some (.value (.boolean (row column = .null)))
    else ((row column).read? method).map .value
  | _, _, _ => none

/-- What becomes of the target of a call. -/
def tell : Operand → String → List Operand → Option Operand
  | .contents row, method, [.literal column, .value v] =>
    if method = "put" then
      (Cell.of? v).map fun cell => .contents (Function.update row column cell)
    else none
  | .object o, method, [.value v] =>
    (w.columns.find? fun c => c.getter.isSome && c.setter = some method).map fun c =>
      .object (Function.update o c v)
  | _, _, _ => none

/-- What becomes of an object whose field is assigned. -/
def assign : Operand → String → Operand → Option Operand
  | .object o, field, .value v =>
    (w.columns.find? fun c => c.kind = .field && c.elementName = field).map fun c =>
      .object (Function.update o c v)
  | _, _, _ => none

end World

/-! ### Evaluation -/

/-- Compares numbers. -/
def Operand.equal? : Operand → Operand → Option Operand
  | .value (.integer a), .value (.integer b) => some (.value (.boolean (a = b)))
  | _, _ => none

/-- Compares a value with null. -/
def Operand.differ? : Operand → Operand → Option Operand
  | .value v, .value .null => some (.value (.boolean (v ≠ .null)))
  | _, _ => none

/-- Negates a truth value. -/
def Operand.negate? : Operand → Option Operand
  | .value (.boolean b) => some (.value (.boolean !b))
  | _ => none

mutual

/-- The operand that an expression stands for. -/
def eval (w : World) (env : Env) : Expr → Option Operand
  | .var name => env name
  | .null => some (.value .null)
  | .text s => some (.literal s)
  | .number n => some (.value (.integer n))
  | .field target name => (eval w env target).bind fun t => w.member t (.field name)
  | .call target method arguments =>
    (eval w env target).bind fun t =>
      (evalAll w env arguments).bind fun operands => w.ask t method operands
  | .callOn type method arguments =>
    (evalAll w env arguments).bind fun operands => w.make type.denotes (some method) operands
  | .construct type arguments =>
    (evalAll w env arguments).bind fun operands => w.make type.denotes none operands
  | .equal left right =>
    (eval w env left).bind fun a => (eval w env right).bind fun b => a.equal? b
  | .differ left right =>
    (eval w env left).bind fun a => (eval w env right).bind fun b => a.differ? b
  | .less _ _ => none
  | .negate operand => (eval w env operand).bind Operand.negate?

/-- The operands of some expressions. -/
def evalAll (w : World) (env : Env) : List Expr → Option (List Operand)
  | [] => some []
  | e :: es => (eval w env e).bind fun operand => (evalAll w env es).map (operand :: ·)

end

/-! ### Execution -/

/-- What a run comes to: the next statement, or the end of the method. -/
inductive Outcome where
  | next (env : Env)
  | give (operand : Operand)

mutual

/-- Runs a statement. -/
def exec (w : World) (env : Env) : Stmt → Option Outcome
  | .blank => some (.next env)
  | .run (.call (.var name) method arguments) =>
    (env name).bind fun target => (evalAll w env arguments).bind fun operands =>
      (w.tell target method operands).map fun target => .next (env.set name target)
  | .run _ => none
  | .declare _ name value =>
    if (env name).isSome then none
    else (eval w env value).map fun operand => .next (env.set name operand)
  | .assign (.var name) value =>
    if (env name).isSome then (eval w env value).map fun operand => .next (env.set name operand)
    else none
  | .assign (.field (.var name) field) value =>
    (env name).bind fun target => (eval w env value).bind fun operand =>
      (w.assign target field operand).map fun target => .next (env.set name target)
  | .assign _ _ => none
  | .give value => (eval w env value).map .give
  | .guarded condition body =>
    match eval w env condition with
    | some (.value (.boolean true)) =>
      (execAll w env body).map fun
        | .next inner => .next (env.leave inner)
        | .give operand => .give operand
    | some (.value (.boolean false)) => some (.next env)
    | _ => none
  | .giveBuilt .. | .runWith .. | .superCall .. => none

/-- Runs statements until one ends the method. -/
def execAll (w : World) (env : Env) : List Stmt → Option Outcome
  | [] => some (.next env)
  | s :: ss =>
    match exec w env s with
    | some (.next env) => execAll w env ss
    | result => result

end

/-- Runs a method with some arguments. -/
def Code.Method.run (w : World) (method : Method) (arguments : List Operand) : Option Operand :=
  match execAll w (Env.start method.paramNames arguments) method.body with
  | some (.give operand) => some operand
  | _ => none

/-! ### How expressions are evaluated -/

section

variable {w : World} {env : Env} {e target : Expr} {arguments : List Expr} {x t : Operand}
  {operands : List Operand}

theorem evalAll_cons (h : eval w env e = some x) {es : List Expr}
    (hes : evalAll w env es = some operands) : evalAll w env (e :: es) = some (x :: operands) := by
  show ((eval w env e).bind fun x => (evalAll w env es).map (x :: ·)) = _
  rw [h, hes]
  rfl

theorem evalAll_singleton (h : eval w env e = some x) : evalAll w env [e] = some [x] :=
  evalAll_cons h rfl

theorem eval_field (htarget : eval w env target = some t) (name : String) :
    eval w env (.field target name) = w.member t (.field name) := by
  show ((eval w env target).bind fun t => w.member t (.field name)) = _
  rw [htarget]
  rfl

theorem eval_call (htarget : eval w env target = some t)
    (harguments : evalAll w env arguments = some operands) (method : String) :
    eval w env (.call target method arguments) = w.ask t method operands := by
  show ((eval w env target).bind fun t => (evalAll w env arguments).bind fun operands =>
    w.ask t method operands) = _
  rw [htarget, harguments]
  rfl

theorem eval_callOn (harguments : evalAll w env arguments = some operands) (type : TypeName)
    (method : String) :
    eval w env (.callOn type method arguments) = w.make type.denotes (some method) operands := by
  show ((evalAll w env arguments).bind fun operands => w.make type.denotes (some method) operands) =
    _
  rw [harguments]
  rfl

theorem eval_construct (harguments : evalAll w env arguments = some operands) (type : TypeName) :
    eval w env (.construct type arguments) = w.make type.denotes none operands := by
  show ((evalAll w env arguments).bind fun operands => w.make type.denotes none operands) = _
  rw [harguments]
  rfl

theorem eval_equal (h : eval w env e = some x) (n : Nat) :
    eval w env (.equal e (.number n)) = x.equal? (.value (.integer n)) := by
  show ((eval w env e).bind fun x => x.equal? (.value (.integer n))) = _
  rw [h]
  rfl

theorem eval_differ (h : eval w env e = some x) :
    eval w env (.differ e .null) = x.differ? (.value .null) := by
  show ((eval w env e).bind fun x => x.differ? (.value .null)) = _
  rw [h]
  rfl

theorem eval_negate (h : eval w env e = some x) : eval w env (.negate e) = x.negate? := by
  show (eval w env e).bind Operand.negate? = _
  rw [h]
  rfl

end

/-! ### How statements are run -/

section

variable {w : World} {env env' : Env} {s : Stmt} {ss : List Stmt} {name : String}
  {value : Expr} {x t t' : Operand}

theorem execAll_cons (w : World) (env : Env) (s : Stmt) (ss : List Stmt) :
    execAll w env (s :: ss) =
      match exec w env s with
      | some (.next env) => execAll w env ss
      | result => result :=
  rfl

theorem exec_guarded (w : World) (env : Env) (condition : Expr) (body : List Stmt) :
    exec w env (.guarded condition body) =
      match eval w env condition with
      | some (.value (.boolean true)) =>
        (execAll w env body).map fun
          | .next inner => .next (env.leave inner)
          | .give operand => .give operand
      | some (.value (.boolean false)) => some (.next env)
      | _ => none :=
  rfl

theorem execAll_next (h : exec w env s = some (.next env')) (ss : List Stmt) :
    execAll w env (s :: ss) = execAll w env' ss := by
  rw [execAll_cons, h]

theorem execAll_blank (w : World) (env : Env) (ss : List Stmt) :
    execAll w env (.blank :: ss) = execAll w env ss :=
  execAll_next rfl ss

theorem execAll_give (h : env name = some x) (rest : List Stmt) :
    execAll w env (.give (.var name) :: rest) = some (.give x) := by
  have hgive : exec w env (.give (.var name)) = some (.give x) := by
    show (env name).map Outcome.give = _
    rw [h]
    rfl
  rw [execAll_cons, hgive]

/-- A body that is run to its end goes on with what stands behind it. -/
theorem execAll_append (h : execAll w env ss = some (.next env')) (rest : List Stmt) :
    execAll w env (ss ++ rest) = execAll w env' rest := by
  induction ss generalizing env with
  | nil =>
    cases h
    rfl
  | cons s ss ih =>
    rw [execAll_cons] at h
    cases hs : exec w env s with
    | none =>
      rw [hs] at h
      cases h
    | some outcome =>
      rw [hs] at h
      cases outcome with
      | give operand => cases h
      | next inner =>
        rw [List.cons_append, execAll_next hs]
        exact ih h

theorem exec_declare (hfree : env name = none) (hvalue : eval w env value = some x)
    (type : TypeUse) : exec w env (.declare type name value) = some (.next (env.set name x)) := by
  show (if (env name).isSome then none
    else (eval w env value).map fun x => Outcome.next (env.set name x)) = _
  rw [hfree, hvalue]
  rfl

theorem exec_assign (hname : env name = some t) (hvalue : eval w env value = some x) :
    exec w env (.assign (.var name) value) = some (.next (env.set name x)) := by
  show (if (env name).isSome then (eval w env value).map fun x => Outcome.next (env.set name x)
    else none) = _
  rw [hname, hvalue]
  rfl

theorem exec_assignField {field : String} (hname : env name = some t)
    (hvalue : eval w env value = some x) (hassign : w.assign t field x = some t') :
    exec w env (.assign (.field (.var name) field) value) = some (.next (env.set name t')) := by
  show ((env name).bind fun t => (eval w env value).bind fun x =>
    (w.assign t field x).map fun t => Outcome.next (env.set name t)) = _
  rw [hname, hvalue]
  show (w.assign t field x).map _ = _
  rw [hassign]
  rfl

theorem exec_run {method : String} {arguments : List Expr} {operands : List Operand}
    (hname : env name = some t) (harguments : evalAll w env arguments = some operands)
    (htell : w.tell t method operands = some t') :
    exec w env (.run (.call (.var name) method arguments)) =
      some (.next (env.set name t')) := by
  show ((env name).bind fun t => (evalAll w env arguments).bind fun operands =>
    (w.tell t method operands).map fun t => Outcome.next (env.set name t)) = _
  rw [hname, harguments]
  show (w.tell t method operands).map _ = _
  rw [htell]
  rfl

/-- A block of one statement that declares nothing runs as the statement does. -/
theorem exec_guarded_of_true {condition : Expr}
    (h : eval w env condition = some (.value (.boolean true)))
    (hs : exec w env s = some (.next env')) (hleave : env.leave env' = env') :
    exec w env (.guarded condition [s]) = some (.next env') := by
  have hbody : execAll w env [s] = some (.next env') := execAll_next hs []
  rw [exec_guarded, h, hbody]
  show some (Outcome.next (env.leave env')) = _
  rw [hleave]

theorem exec_guarded_of_false {condition : Expr}
    (h : eval w env condition = some (.value (.boolean false))) (body : List Stmt) :
    exec w env (.guarded condition body) = some (.next env) := by
  rw [exec_guarded, h]

end

/-! ### What the resolvers read -/

section

variable {w : World} {env env' : Env} {c : Column} {o : Column → Value} {row : String → Cell}
  {v : Value} {s : Stmt}

theorem eval_valueIn (hobject : env Resolver.objectName = some (.object o))
    (hc : w.columns.find? (·.access = c.access) = some c) :
    eval w env (c.valueIn Resolver.object) = some (.value (o c)) := by
  have hmember : w.member (.object o) c.access = some (.value (o c)) := by
    rw [World.member, hc]
    rfl
  have heval : eval w env Resolver.object = some (.object o) := hobject
  unfold Column.valueIn
  cases haccess : c.access with
  | field name =>
    rw [haccess] at hmember
    exact (eval_field heval name).trans hmember
  | call method =>
    rw [haccess] at hmember
    have harguments : evalAll w env [] = some [] := rfl
    exact (eval_call heval harguments method).trans hmember

theorem eval_indexOf (hcursor : env Resolver.Get.cursorName = some (.cursor row))
    (column : String) : eval w env (ColumnType.indexOf column) = some (.index column) := by
  have heval : eval w env ColumnType.cursor = some (.cursor row) := hcursor
  have hliteral : eval w env (.text column) = some (.literal column) := rfl
  exact eval_call heval (evalAll_singleton hliteral) "getColumnIndex"

theorem eval_present (hcursor : env Resolver.Get.cursorName = some (.cursor row)) :
    eval w env (Resolver.Get.present c) =
      some (.value (.boolean (!decide (row c.name = .null)))) := by
  have heval : eval w env ColumnType.cursor = some (.cursor row) := hcursor
  have hindex := evalAll_singleton (eval_indexOf (w := w) hcursor c.name)
  exact eval_negate (eval_call heval hindex "isNull")

/-- Reading a column of a row gives the value that is kept there. -/
theorem eval_readCursor (hcursor : env Resolver.Get.cursorName = some (.cursor row))
    (hadmits : c.type.admits v = true) (hv : v ≠ .null)
    (hcell : Cell.of? v = some (row c.name)) :
    eval w env c.readCursor = some (.value v) := by
  have heval : eval w env ColumnType.cursor = some (.cursor row) := hcursor
  have hread : eval w env (.call ColumnType.cursor c.type.cursorMethod
      [ColumnType.indexOf c.name]) = some (.value v.raw) := by
    have hmethod : c.type.cursorMethod ≠ "isNull" := by
      cases c.type <;> decide
    refine (eval_call heval (evalAll_singleton (eval_indexOf hcursor c.name)) _).trans ?_
    rw [World.ask, if_neg hmethod, read?_of_admits hadmits hv hcell]
    rfl
  -- only truth values are not read as they are: they are compared with 1
  have hother (h : c.type ≠ .boolean ∧ c.type ≠ .booleanObject) : v.raw = v := by
    cases v with
    | boolean b => simp [ColumnType.admits, h] at hadmits
    | _ => rfl
  have htruth (h : c.type = .boolean ∨ c.type = .booleanObject) :
      eval w env (.equal (.call ColumnType.cursor c.type.cursorMethod
        [ColumnType.indexOf c.name]) (.number 1)) = some (.value v) := by
    rw [eval_equal hread]
    cases v with
    | boolean b => cases b <;> rfl
    | null => exact absurd rfl hv
    | _ => rcases h with h | h <;> rw [h] at hadmits <;> cases hadmits
  unfold Column.readCursor ColumnType.read
  split
  · next h => exact htruth (.inl h)
  · next h => exact htruth (.inr h)
  · next h₁ h₂ => rw [hread, hother ⟨h₁, h₂⟩]

/-- A statement that is guarded against null is run just if the column holds a value. -/
theorem exec_guardNull (hcursor : env Resolver.Get.cursorName = some (.cursor row))
    (hadmits : c.type.admits v = true) (hcell : Cell.of? v = some (row c.name))
    (hs : v ≠ .null → exec w env s = some (.next env')) (hleave : env.leave env' = env') :
    exec w env (Resolver.Get.guardNull c s) = some (.next (if v = .null then env else env')) := by
  unfold Resolver.Get.guardNull
  by_cases hnullable : c.type.isNullable = true
  · -- the guard looks at the cell, which is null just if the value is
    have hpresent : row c.name = .null ↔ v = .null := by
      rw [← Cell.of?_eq_null, hcell, Option.some.injEq]
    have hcondition := eval_present (w := w) (c := c) hcursor
    rw [if_pos hnullable]
    by_cases hv : v = .null
    · rw [decide_eq_true (hpresent.2 hv)] at hcondition
      rw [if_pos hv]
      exact exec_guarded_of_false hcondition [s]
    · rw [decide_eq_false (mt hpresent.1 hv)] at hcondition
      rw [if_neg hv]
      exact exec_guarded_of_true hcondition (hs hv) hleave
  · -- there is no guard, and no need of one
    have hv : v ≠ .null := by
      rintro rfl
      exact hnullable hadmits
    rw [if_neg hnullable, if_neg hv]
    exact hs hv

end

end ResolverGen
