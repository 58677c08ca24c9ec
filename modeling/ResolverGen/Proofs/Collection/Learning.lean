/-
What looking for an accessor does.

Looking for an accessor of a field has three ends (`AccessorTable.Outcome`): the field has one already,
the last member that serves is entered, or there is none and nothing happens. Entries stay whatever is
looked for afterwards, in the same model or in another one, and every new entry is the last member that
served for some field that was asked for (`AccessorTable.Grows`). A single inquiry lets a table grow
(`grows_learn`), and so does every sequence of them (`grows_learnAll`).

What a field is kept by has the package of its class in it, and the search for that need not end, nor
lead to an element. `Strict.learn` fails where it does not: in a sound model in which no element
encloses itself it never fails (`Strict.learn_eq`), and what it does there is what `learn_exact` says.
Outside of such models an inquiry may have no end (`learn_unanswered`).
-/
import ResolverGen.Proofs.Collection.Accessors
import ResolverGen.Proofs.Element.Lookups

namespace ResolverGen

/-! ### Looking once -/

namespace AccessorTable

/-- How looking for an accessor of a field that is kept by `key` ends: whether there is one, and the
table after it. -/
inductive Outcome (t : AccessorTable) (m : Model) (id : ElementId) (key : AccessorKey)
    (serves : Element → Prop) : Bool → AccessorTable → Prop
  | known {name : String} (h : t.lookup key = some name) : Outcome t m id key serves true t
  | entered {last : ElementId} (h : t.lookup key = none) (hlast : m.LastServing id serves last) :
    Outcome t m id key serves true ((key, (m.element last).name) :: t)
  | missing (h : t.lookup key = none) (hnone : ∀ x ∈ m.siblings id, ¬serves (m.element x)) :
    Outcome t m id key serves false t

variable {t t' t'' : AccessorTable} {m : Model} {id : ElementId} {key : AccessorKey}
  {serves : Element → Prop} {found? : Option String}

theorem outcome_resolve (t : AccessorTable) (key : AccessorKey)
    (hfinds : m.Finds id serves found?) :
    Outcome t m id key serves (t.resolve key found?).1 (t.resolve key found?).2 := by
  unfold resolve
  cases hlookup : t.lookup key with
  | some name => exact .known hlookup
  | none =>
    cases hfound : found? with
    | none => exact .missing hlookup (hfinds.none_iff.1 hfound)
    | some name =>
      obtain ⟨last, hlast, rfl⟩ := (hfinds.some_iff name).1 hfound
      exact .entered hlookup hlast

/-! ### Tables that grow -/

/-- Whether a table has all entries of another one, and no others but correct ones. -/
structure Grows (correct : AccessorKey → String → Prop) (t t' : AccessorTable) : Prop where
  kept : ∀ key name, t.lookup key = some name → t'.lookup key = some name
  added : ∀ key name, t'.lookup key = some name → t.lookup key = some name ∨ correct key name

namespace Grows

variable {correct more : AccessorKey → String → Prop}

theorem refl (correct : AccessorKey → String → Prop) (t : AccessorTable) : Grows correct t t :=
  ⟨fun _ _ h => h, fun _ _ h => .inl h⟩

theorem trans (h : Grows correct t t') (h' : Grows correct t' t'') : Grows correct t t'' where
  kept key name hlookup := h'.kept key name (h.kept key name hlookup)
  added key name hlookup :=
    (h'.added key name hlookup).elim (h.added key name) .inr

theorem mono (h : Grows correct t t') (himp : ∀ key name, correct key name → more key name) :
    Grows more t t' where
  kept := h.kept
  added key name hlookup := (h.added key name hlookup).imp_right (himp key name)

end Grows

/-- The only entry that looking for an accessor can add is the last member that serves. -/
theorem grows_resolve (t : AccessorTable) (hfinds : m.Finds id serves found?) :
    Grows (fun key name => m.accessorKey id = key ∧
      ∃ last, m.LastServing id serves last ∧ (m.element last).name = name)
      t (t.resolve (m.accessorKey id) found?).2 where
  kept _ _ := lookup_resolve
  added key name hlookup := by
    rw [lookup_resolve_eq] at hlookup
    cases hknown : t.lookup key with
    | some known =>
      rw [hknown, Option.some_or] at hlookup
      exact .inl hlookup
    | none =>
      rw [hknown, Option.none_or] at hlookup
      split at hlookup
      · next hkey => exact .inr ⟨hkey, (hfinds.some_iff name).1 hlookup⟩
      · cases hlookup

end AccessorTable

/-! ### Looking again and again -/

/-- What is looked for, in which model, and for which field. -/
structure Inquiry where
  kind : AccessorKind
  model : Model
  field : ElementId

namespace Inquiry

/-- Whether an inquiry is about an element of a sound model in which no element encloses itself. -/
structure Answerable (q : Inquiry) : Prop where
  sound : q.model.Sound
  acyclic : q.model.Acyclic
  element : q.field < q.model.size

/-- Whether an accessor is what an inquiry finds: the last one of its field. -/
def Gives (q : Inquiry) (key : AccessorKey) (name : String) : Prop :=
  q.model.accessorKey q.field = key ∧
    ∃ last, q.model.LastServing q.field (·.Serves (q.model.element q.field) q.kind) last ∧
      (q.model.element last).name = name

/-- What is found among the members of the class. -/
def result? (q : Inquiry) : Option String :=
  match q.kind with
  | .getter => q.model.getterOf? q.field
  | .setter => q.model.setterOf? q.field

theorem finds_result? (q : Inquiry) :
    q.model.Finds q.field (·.Serves (q.model.element q.field) q.kind) q.result? := by
  obtain ⟨kind, m, id⟩ := q
  cases kind with
  | getter => exact m.finds_getterOf? id
  | setter => exact m.finds_setterOf? id

end Inquiry

namespace Accessors

/-- The accessors of a kind. -/
def table (a : Accessors) : AccessorKind → AccessorTable
  | .getter => a.getters
  | .setter => a.setters

/-- Looks for an accessor of a field. -/
def learn (a : Accessors) (q : Inquiry) : Bool × Accessors :=
  match q.kind with
  | .getter => a.learnGetter q.model q.field
  | .setter => a.learnSetter q.model q.field

/-- The accessors after some inquiries, one after another. -/
def learnAll (a : Accessors) (inquiries : List Inquiry) : Accessors :=
  inquiries.foldl (fun a q => (a.learn q).2) a

/-- Whether accessors have grown by what some inquiries give. -/
def GrowsBy (inquiries : List Inquiry) (a a' : Accessors) : Prop :=
  ∀ kind, (a.table kind).Grows
    (fun key name => ∃ q ∈ inquiries, q.kind = kind ∧ q.Gives key name) (a'.table kind)

variable (a : Accessors) (q : Inquiry)

theorem learn_fst : (a.learn q).1 =
    ((a.table q.kind).resolve (q.model.accessorKey q.field) q.result?).1 := by
  obtain ⟨kind, m, id⟩ := q
  cases kind <;> rfl

theorem table_learn : (a.learn q).2.table q.kind =
    ((a.table q.kind).resolve (q.model.accessorKey q.field) q.result?).2 := by
  obtain ⟨kind, m, id⟩ := q
  cases kind <;> rfl

/-- The other table stays as it is. -/
theorem table_learn_of_ne {kind : AccessorKind} (h : kind ≠ q.kind) :
    (a.learn q).2.table kind = a.table kind := by
  obtain ⟨own, m, id⟩ := q
  cases own <;> cases kind <;> first | rfl | exact absurd rfl h

/-- An inquiry ends as its search does. -/
theorem outcome_learn : (a.table q.kind).Outcome q.model q.field (q.model.accessorKey q.field)
    (·.Serves (q.model.element q.field) q.kind) (a.learn q).1 ((a.learn q).2.table q.kind) := by
  rw [learn_fst, table_learn]
  exact AccessorTable.outcome_resolve _ _ q.finds_result?

theorem grows_learn : a.GrowsBy [q] (a.learn q).2 := by
  intro kind
  by_cases hkind : kind = q.kind
  · rw [hkind, table_learn]
    refine (AccessorTable.grows_resolve (a.table q.kind) q.finds_result?).mono ?_
    exact fun key name hgives => ⟨q, List.mem_singleton_self q, rfl, hgives⟩
  · rw [a.table_learn_of_ne q hkind]
    exact .refl _ _

theorem GrowsBy.trans {a a' a'' : Accessors} {earlier later : List Inquiry}
    (h : a.GrowsBy earlier a') (h' : a'.GrowsBy later a'') : a.GrowsBy (earlier ++ later) a'' := by
  intro kind
  refine ((h kind).mono fun key name => ?_).trans ((h' kind).mono fun key name => ?_)
  · exact fun ⟨q, hq, hgives⟩ => ⟨q, List.mem_append_left later hq, hgives⟩
  · exact fun ⟨q, hq, hgives⟩ => ⟨q, List.mem_append_right earlier hq, hgives⟩

theorem grows_learnAll (inquiries : List Inquiry) : a.GrowsBy inquiries (a.learnAll inquiries) := by
  induction inquiries generalizing a with
  | nil => exact fun kind => .refl _ _
  | cons q rest ih => exact (a.grows_learn q).trans (ih (a.learn q).2)

theorem learnAll_append (earlier later : List Inquiry) :
    a.learnAll (earlier ++ later) = (a.learnAll earlier).learnAll later :=
  List.foldl_append

end Accessors

/-! ### Inquiries that fail -/

namespace Strict

/-- Looks for an accessor of a field, and fails where a lookup does. -/
def learn (a : Accessors) (q : Inquiry) : Option (Bool × Accessors) :=
  match q.kind with
  | .getter => learnGetter q.model q.field a
  | .setter => learnSetter q.model q.field a

/-- The accessors after some inquiries, one after another, of which none may fail. -/
def learnAll (a : Accessors) : List Inquiry → Option Accessors
  | [] => some a
  | q :: rest => do
    let (_, a) ← learn a q
    learnAll a rest

theorem learn_eq {q : Inquiry} (h : q.Answerable) (a : Accessors) :
    learn a q = some (a.learn q) := by
  obtain ⟨kind, m, id⟩ := q
  cases kind with
  | getter => exact learnGetter_eq h.sound h.acyclic h.element a
  | setter => exact learnSetter_eq h.sound h.acyclic h.element a

theorem learnAll_eq {inquiries : List Inquiry} (h : ∀ q ∈ inquiries, q.Answerable)
    (a : Accessors) : learnAll a inquiries = some (a.learnAll inquiries) := by
  induction inquiries generalizing a with
  | nil => rfl
  | cons q rest ih =>
    rw [List.forall_mem_cons] at h
    rw [learnAll, learn_eq h.1]
    exact ih h.2 (a.learn q).2

end Strict

namespace Accessors

/-- Whether an inquiry is answered: its search ends in one of the three ways, and the other table stays
as it is. -/
def Answers (a : Accessors) (q : Inquiry) : Prop :=
  ∃ key found a', Strict.accessorKey q.model q.field = some key ∧
    Strict.learn a q = some (found, a') ∧
    (a.table q.kind).Outcome q.model q.field key (·.Serves (q.model.element q.field) q.kind)
      found (a'.table q.kind) ∧
    ∀ kind ≠ q.kind, a'.table kind = a.table kind

/-- **Looking for an accessor only ever adds correct entries.** An inquiry about a sound model in which
no element encloses itself is answered. Whatever is asked for after some inquiries of this sort, what
they have found stays, and only what is found is added. -/
theorem learn_exact (a : Accessors) :
    (∀ q : Inquiry, q.Answerable → a.Answers q) ∧
      ∀ earlier later : List Inquiry, (∀ q ∈ earlier ++ later, q.Answerable) →
        ∃ a' a'', Strict.learnAll a earlier = some a' ∧
          Strict.learnAll a (earlier ++ later) = some a'' ∧ a'.GrowsBy later a'' := by
  refine ⟨fun q hq => ?_, fun earlier later hall => ?_⟩
  · have hkey := Strict.accessorKey_eq hq.sound hq.acyclic hq.element
    exact ⟨_, _, _, hkey, Strict.learn_eq hq a, a.outcome_learn q,
      fun kind hne => a.table_learn_of_ne q hne⟩
  · have hearlier : ∀ q ∈ earlier, q.Answerable :=
      fun q hq => hall q (List.mem_append_left later hq)
    refine ⟨_, _, Strict.learnAll_eq hearlier a, Strict.learnAll_eq hall a, ?_⟩
    rw [learnAll_append]
    exact (a.learnAll earlier).grows_learnAll later

/-- A class with a private field, a getter of it, and a setter of another type. -/
def getterModel : Model :=
  ⟨[], [Element.ofKind .package "com.test",
    { Element.ofKind .classType "User" with enclosing := some 0 },
    { Element.ofKind .field "id" with
      enclosing := some 1
      type := some "long"
      modifiers := [.privateAccess] },
    { Element.ofKind .method "getId" with enclosing := some 1, type := some "long" },
    { Element.ofKind .method "setId" with
      enclosing := some 1
      type := some "void"
      parameters := [⟨"id", "int"⟩] }]⟩

/-- The getter is entered and there is no setter, and asking again changes nothing. -/
theorem learn_getterModel :
    let key : AccessorKey := ⟨"com.test.User", "id", some "long"⟩
    let getter : Inquiry := ⟨.getter, getterModel, 2⟩
    let setter : Inquiry := ⟨.setter, getterModel, 2⟩
    getter.Answerable ∧ setter.Answerable ∧
      Strict.learn .empty getter = some (true, ⟨[(key, "getId")], []⟩) ∧ empty.Answers getter ∧
      Strict.learn .empty setter = some (false, .empty) ∧ empty.Answers setter ∧
      ∃ a' a'', Strict.learnAll .empty [getter] = some a' ∧
        Strict.learnAll .empty ([getter] ++ [setter, getter]) = some a'' ∧
        a'.GrowsBy [setter, getter] a'' := by
  intro key getter setter
  have hsound : getterModel.Sound := Model.sound_iff_dangling?.2 (by decide +kernel)
  have hacyclic : getterModel.Acyclic := Model.acyclic_of_lt (by decide +kernel)
  have hgetter : getter.Answerable := ⟨hsound, hacyclic, by decide⟩
  have hsetter : setter.Answerable := ⟨hsound, hacyclic, by decide⟩
  refine ⟨hgetter, hsetter, by decide +kernel, (learn_exact .empty).1 getter hgetter,
    by decide +kernel, (learn_exact .empty).1 setter hsetter, ?_⟩
  refine (learn_exact .empty).2 [getter] [setter, getter] ?_
  simp [hgetter, hsetter]

/-- A class that encloses itself, with a field and a getter of it. -/
def loopModel : Model :=
  ⟨[], [{ Element.ofKind .classType "Loop" with enclosing := some 0 },
    { Element.ofKind .field "id" with enclosing := some 0, type := some "long" },
    { Element.ofKind .method "getId" with enclosing := some 0, type := some "long" }]⟩

/-- A field and a getter of it, whose class is not there. -/
def looseModel : Model :=
  ⟨[], [{ Element.ofKind .field "id" with enclosing := some 7, type := some "long" },
    { Element.ofKind .method "getId" with enclosing := some 7, type := some "long" }]⟩

/-- Although there is a getter beside the field, looking for it has no end in a class that encloses
itself, however many steps the search for its package takes, and fails where the class is not there. -/
theorem learn_unanswered :
    loopModel.LastServing 1 (·.Serves (loopModel.element 1) .getter) 2 ∧
      (∀ steps, Strict.packageWithin loopModel steps 0 = none) ∧
      Strict.learn .empty ⟨.getter, loopModel, 1⟩ = none ∧
      looseModel.LastServing 0 (·.Serves (looseModel.element 0) .getter) 1 ∧
      Strict.learn .empty ⟨.getter, looseModel, 0⟩ = none := by
  have hloop : loopModel.LastServing 1 (·.Serves (loopModel.element 1) .getter) 2 :=
    ⟨by decide +kernel, Element.isGetterOf_iff.1 (by decide +kernel),
      fun _ hother _ => Nat.le_of_lt_succ (Strict.lt_size_of_mem_siblings hother)⟩
  have hloose : looseModel.LastServing 0 (·.Serves (looseModel.element 0) .getter) 1 :=
    ⟨by decide +kernel, Element.isGetterOf_iff.1 (by decide +kernel),
      fun _ hother _ => Nat.le_of_lt_succ (Strict.lt_size_of_mem_siblings hother)⟩
  refine ⟨hloop, fun steps => ?_, by decide +kernel, hloose, by decide +kernel⟩
  -- each step leads from the class to the class
  induction steps with
  | zero => rfl
  | succ steps ih => exact ih

end Accessors

end ResolverGen
