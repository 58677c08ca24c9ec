/-
Faults that end a round.

A round goes on after a fault of kind `skipped`, and a fault of kind `output` comes from the store.
Every other fault is `Halting`. `Fails P x` says that whatever fault `x` fails with satisfies `P`;
with it, the checks of elements (`entity_fails`, `column_fails`, `checkCreator_fails`) and those of
entities (`addColumn_fails`, `addCreator_fails`, `checkAll_fails`) fail with refusals only, which are
halting and never say that a class has not been collected. The one check that can fail otherwise is
that of a member's owner, where the member is passed over.
-/
import ResolverGen.Collection
import ResolverGen.Entity.Check

namespace ResolverGen

/-- Peels the first step off a computation that succeeds. -/
theorem exists_of_bind_eq_ok {ε α β : Type} {x : Except ε α} {f : α → Except ε β} {b : β}
    (h : (x >>= f) = .ok b) : ∃ a, x = .ok a ∧ f a = .ok b := by
  cases x with
  | error => cases h
  | ok a => exact ⟨a, rfl, h⟩

section Except

variable {α β : Type} {x : Except Fault α} {f : α → Except Fault β} {P : Fault → Prop}

theorem exists_of_map_eq_ok {g : α → β} {b : β} (h : x.map g = .ok b) :
    ∃ a, x = .ok a ∧ g a = b := by
  cases x with
  | error => cases h
  | ok a =>
    cases h
    exact ⟨a, rfl, rfl⟩

/-- Whatever fault a computation fails with has a property. -/
def Fails (P : Fault → Prop) (x : Except Fault α) : Prop := ∀ f, x = .error f → P f

theorem Fails.ok (a : α) : Fails P (.ok a) := by
  intro f h
  cases h

theorem Fails.error {f : Fault} (h : P f) : Fails P (.error f : Except Fault α) := by
  intro g hg
  cases hg
  exact h

theorem Fails.bind (hx : Fails P x) (hf : ∀ a, x = .ok a → Fails P (f a)) :
    Fails P (x >>= f) := by
  cases x with
  | error g => exact fun _ h => hx _ (by cases h; rfl)
  | ok a => exact hf a rfl

theorem Fails.map (hx : Fails P x) (g : α → β) : Fails P (x.map g) := by
  cases x with
  | error e => exact fun _ h => hx _ (by cases h; rfl)
  | ok a => exact Fails.ok _

theorem Fails.mono {Q : Fault → Prop} (hx : Fails P x) (h : ∀ f, P f → Q f) : Fails Q x :=
  fun f hf => h f (hx f hf)

theorem Fails.mapError {ε : Type} {y : Except ε α} {g : ε → Fault} (h : ∀ e, P (g e)) :
    Fails P (y.mapError g) := by
  cases y with
  | error e => exact Fails.error (h e)
  | ok a => exact Fails.ok a

theorem Fails.ite {p : Prop} [Decidable p] {y : Except Fault α} (hx : p → Fails P x)
    (hy : ¬p → Fails P y) : Fails P (if p then x else y) := by
  by_cases h : p
  · rw [if_pos h]
    exact hx h
  · rw [if_neg h]
    exact hy h

end Except

/-- Whether a fault of the kind stands against the model itself and ends the round. -/
def FaultKind.isHalting : FaultKind → Bool
  | .skipped | .output => false
  | _ => true

/-- Faults of a model that a round does not survive. -/
def Fault.Halting (f : Fault) : Prop := f.cause.kind.isHalting = true

theorem Fault.Halting.kind_ne {f : Fault} (h : f.Halting) :
    f.cause.kind ≠ .skipped ∧ f.cause.kind ≠ .output := by
  constructor <;> intro hk <;> rw [Halting, hk] at h <;> cases h

/-- Whether the cause lies in an element or an entity itself. A class that has not been collected is
no fault of its member. -/
def Cause.isRefusal : Cause → Bool
  | .ownerMissing _ => false
  | c => c.kind.isHalting

/-- Faults that the checks of elements and entities find. -/
def Fault.Refusal (f : Fault) : Prop := f.cause.isRefusal = true

theorem Fault.Refusal.halting {f : Fault} (h : f.Refusal) : f.Halting := by
  unfold Refusal Cause.isRefusal at h
  split at h
  · cases h
  · exact h

theorem Fault.Refusal.ne_ownerMissing {f : Fault} (h : f.Refusal) (name : String) :
    f.cause ≠ .ownerMissing name := by
  intro hcause
  rw [Refusal, hcause] at h
  cases h

/-! ### The checks of elements -/

theorem Payload.ofElement_fails {α : Type} (fields : List (Payload.Field α)) (start : α)
    (m : Model) (id : ElementId) (mark : Code.ClassName) :
    Fails Fault.Refusal (Payload.ofElement fields start m id mark) := by
  unfold Payload.ofElement
  dsimp only
  split
  · exact Fails.error rfl
  · exact Fails.mapError fun _ => rfl

theorem Backend.columnSpec_fails (b : Backend) (m : Model) (id : ElementId) :
    Fails Fault.Refusal (b.columnSpec m id) :=
  Payload.ofElement_fails _ _ m id _

theorem Backend.config_fails (b : Backend) (m : Model) (id : ElementId) :
    Fails Fault.Refusal (b.config m id) := by
  cases b with
  | sqlite =>
    refine (Payload.ofElement_fails _ _ m id _).bind fun p _ => ?_
    exact Fails.ite (fun _ => Fails.error rfl) fun _ => Fails.ok _
  | contentResolver =>
    refine (Payload.ofElement_fails _ _ m id _).bind fun uris _ => ?_
    cases uris.missing with
    | nil => exact Fails.ok _
    | cons => exact Fails.error rfl

namespace Model

variable (m : Model) (b : Backend) (v : Vocabulary) (id : ElementId)

theorem checkClass_fails : Fails Fault.Refusal (m.checkClass v id) := by
  refine Fails.ite (fun _ => Fails.error rfl) fun _ => ?_
  exact Fails.ite (fun _ => Fails.ok _) fun _ => Fails.error rfl

theorem entity_fails (nonNull : Code.ClassName) :
    Fails Fault.Refusal (m.entity b nonNull id) := by
  refine (m.checkClass_fails b.vocabulary id).bind fun _ _ => ?_
  exact (b.config_fails m id).bind fun _ _ => Fails.ok _

theorem checkShape_fails (a : Accessors) : Fails Fault.Refusal (m.checkShape v a id) := by
  refine Fails.ite (fun _ => Fails.error rfl) fun _ => ?_
  exact Fails.ite (fun _ => Fails.error rfl) fun _ => Fails.ok _

theorem column_fails (a : Accessors) (p : ColumnSpec) :
    Fails Fault.Refusal (m.column v a id p) := by
  unfold column
  dsimp only
  cases (m.element id).type.bind ColumnType.ofTypeName? with
  | none => exact Fails.error rfl
  | some type =>
    dsimp only
    refine Fails.ite (fun _ => Fails.error rfl) fun _ => ?_
    refine Fails.ite (fun _ => Fails.error rfl) fun _ => ?_
    exact Fails.ite (fun _ => Fails.error rfl) fun _ => Fails.ok _

theorem checkCreator_fails : Fails Fault.Refusal (m.checkCreator v id) := by
  unfold checkCreator
  cases m.enclosingClass? id with
  | none => exact Fails.error rfl
  | some owner =>
    refine Fails.ite (fun _ => Fails.error rfl) fun _ => ?_
    refine Fails.ite (fun _ => Fails.error rfl) fun _ => ?_
    refine Fails.ite (fun _ => Fails.error rfl) fun _ => ?_
    exact Fails.ite (fun _ => Fails.error rfl) fun _ => Fails.ok _

end Model

/-! ### The checks of entities -/

namespace Entity

variable (e : Entity) (v : Vocabulary)

theorem addColumn_fails (c : Column) : Fails Fault.Refusal (e.addColumn v c) := by
  refine Fails.ite (fun _ => Fails.error rfl) fun _ => ?_
  refine Fails.ite (fun _ => Fails.error rfl) fun _ => ?_
  cases insert? { e with byCreator := e.byCreator || c.onlyByCreator } c with
  | none => exact Fails.error rfl
  | some => exact Fails.ok _

theorem addCreator_fails (c : Creator) : Fails Fault.Refusal (e.addCreator c) :=
  Fails.ite (fun _ => Fails.error rfl) fun _ => Fails.ok _

theorem check_fails : Fails Fault.Refusal (e.check v) := by
  refine Fails.ite (fun _ => Fails.error rfl) fun _ => ?_
  refine Fails.ite (fun _ => Fails.error rfl) fun _ => ?_
  refine Fails.ite (fun _ => ?_) fun _ => Fails.ok _
  cases e.creator with
  | none => exact Fails.error rfl
  | some c => exact Fails.ite (fun _ => Fails.ok _) fun _ => Fails.error rfl

theorem checkAll_fails (es : List Entity) : Fails Fault.Refusal (checkAll v es) := by
  induction es with
  | nil => exact Fails.ok _
  | cons e es ih =>
    unfold checkAll
    cases h : e.check v with
    | error f => exact Fails.error (check_fails e v f h)
    | ok => exact ih

end Entity

end ResolverGen
