/-
Annotations of no concern to a backend.

A backend reads its own three annotations and the marks of values that are never null, and nothing
else: `Model.seenBy` leaves out all other annotations, and what is left looks like the model itself
(`looksLike_seenBy`), so that a round does the same on it (`round_seenBy`). Together with rounds that
go by names of their own, this keeps the backends apart (`backends_apart`).
-/
import ResolverGen.Proofs.Collection.Likeness
import ResolverGen.Proofs.Round.Together

namespace ResolverGen

open Code

/-- Whether an annotation denotes one that a backend looks for. -/
def Backend.reads (b : Backend) (a : Annotation) : Bool := b.marks.any a.denotes

/-- An element with the annotations that a backend reads. -/
def Element.seenBy (e : Element) (b : Backend) : Element :=
  { e with annotations := e.annotations.filter b.reads }

/-- A model with the annotations that a backend reads. -/
def Model.seenBy (m : Model) (b : Backend) : Model :=
  { m with elements := m.elements.map (·.seenBy b) }

variable {b : Backend} {m : Model} {id : ElementId}

/-! ### What a backend sees -/

theorem Element.annotation?_seenBy {e : Element} {mark : String} (h : mark ∈ b.marks) :
    (e.seenBy b).annotation? mark = e.annotation? mark := by
  have hreads (a : Annotation) :
      (b.reads a = true ∧ a.denotes mark = true) ↔ a.denotes mark = true :=
    and_iff_right_of_imp fun hmark => List.any_eq_true.2 ⟨mark, h, hmark⟩
  simp only [annotation?, seenBy, List.find?_filter, hreads, Bool.decide_eq_true]

namespace Model

theorem element_seenBy (m : Model) (b : Backend) (id : ElementId) :
    (m.seenBy b).element id = (m.element id).seenBy b := by
  unfold element seenBy
  simp only [List.getD_eq_getElem?_getD, List.getElem?_map]
  cases m.elements[id]? <;> rfl

/-- What a backend sees of a model looks to it like the model. -/
theorem looksLike_seenBy (m : Model) (b : Backend) :
    m.LooksLike b (Equiv.refl _) (m.seenBy b) where
  knownTypes := rfl
  size := List.length_map _
  shape id := by
    rw [Equiv.refl_apply, element_seenBy, Element.moved_refl]
    rfl
  marks id mark hmark _ := by
    rw [Equiv.refl_apply, element_seenBy, Element.annotation?_seenBy hmark]
  enclosed id _ := by
    have hids : (m.seenBy b).ids = m.ids := congrArg List.range (List.length_map _)
    rw [enclosed, enclosed, hids]
    simp only [element_seenBy]
    exact (List.map_id' _).symm

theorem collect_seenBy {nonNull : ClassName} {known : Accessors} :
    (m.seenBy b).collect b nonNull known = m.collect b nonNull known := by
  have h := m.looksLike_seenBy b
  have hmarks : ∀ mark ∈ b.marks, (m.seenBy b).annotatedWith mark = m.annotatedWith mark :=
    fun mark hmark => h.annotatedWith_of fun id => by
      rw [element_seenBy, Element.annotation?_seenBy hmark]
  rw [collect_eq, collect_eq, h.takeClass, h.takeColumn, h.takeCreator,
    hmarks _ Backend.type_mem_marks, hmarks _ Backend.column_mem_marks,
    hmarks _ Backend.creator_mem_marks]

end Model

/-- A round sees no more of a model than its backend does. -/
theorem Processor.round_seenBy {σ : Type} (p : Processor) (m : Model)
    (write : σ → SourceUnit → Except String σ) (s : σ) :
    p.round (m.seenBy p.backend) write s = p.round m write s := by
  have hunits : p.units (m.seenBy p.backend) = p.units m := by
    rw [units_eq, units_eq, Model.collect_seenBy]
    rfl
  rw [round, hunits]
  rfl

/-! ### Both backends -/

/-- The backend that one is not. -/
def Backend.other : Backend → Backend
  | sqlite => contentResolver
  | contentResolver => sqlite

theorem Backend.other_ne (b : Backend) : b.other ≠ b := by cases b <;> decide

theorem Backend.other_other (b : Backend) : b.other.other = b := by cases b <;> rfl

namespace Model

/-- A round of a new processor that writes to an empty store. Each backend has its settings. -/
def alone (m : Model) (settings : Backend → Settings) (b : Backend) : Round Sources :=
  (Processor.initial b (settings b)).round m Sources.write .empty

/-- Rounds of new processors of both backends, a given one first, that write to one store, which is
empty at first. -/
def both (m : Model) (settings : Backend → Settings) (b : Backend) :
    List (Round Sources) × Sources :=
  roundsOf m Sources.write [.initial b (settings b), .initial b.other (settings b.other)] .empty

/-- The sources of a round are those of its own units. -/
theorem alone_disjoint (m : Model) (settings : Backend → Settings) (b : Backend) (name : String) :
    (m.alone settings b).store.find? name = none ∨
      (m.alone settings b.other).store.find? name = none := by
  by_cases hname : name ∈ (Processor.initial b (settings b)).unitNames m
  · refine .inr (Processor.round_lacks ?_ name hname)
    exact Processor.disjoint_emission b.other_ne.symm
  · refine .inl (Processor.round_lacks ?_ name (List.mem_singleton_self name))
    simpa using hname

theorem alone_or_comm (m : Model) (settings : Backend → Settings) (b : Backend) (name : String) :
    ((m.alone settings b.other).store.find? name).or ((m.alone settings b).store.find? name) =
      ((m.alone settings b).store.find? name).or
        ((m.alone settings b.other).store.find? name) := by
  rcases m.alone_disjoint settings b name with h | h <;> rw [h, Option.or_none, Option.none_or]

/-- What rounds of both backends leave over one store are the sources of each of them. -/
theorem both_spec (m : Model) (settings : Backend → Settings) (b : Backend) :
    List.Forall₂ Round.SameOutcome (m.both settings b).1
        [m.alone settings b, m.alone settings b.other] ∧
      ∀ name, (m.both settings b).2.find? name =
        ((m.alone settings b).store.find? name).or
          ((m.alone settings b.other).store.find? name) := by
  have hbackends : ([Processor.initial b (settings b), .initial b.other (settings b.other)].map
      (·.backend)).Nodup := by
    simpa [Processor.initial] using b.other_ne.symm
  obtain ⟨hsame, hlast⟩ := roundsOf_apart (m := m) hbackends fun p _ => Sources.empty_lacks _
  refine ⟨?_, fun name => ?_⟩
  · exact List.forall₂_map_right_iff.2 hsame.flip
  · have hlast : (m.both settings b).2 =
        (m.alone settings b.other).store.atop ((m.alone settings b).store.atop .empty) := hlast
    have hempty : Sources.empty.find? name = none := rfl
    rw [hlast, Sources.find?_atop, Sources.find?_atop, hempty, Option.or_none, alone_or_comm]

end Model

/-- **Backends do not interfere.** A round does not depend on annotations that its backend does not
read, and rounds of both backends over one store, in either order, have the outcomes that they have
alone and leave the same sources, those of each of them, which have no name in common. -/
theorem backends_apart (m : Model) (settings : Backend → Settings) :
    (∀ (p : Processor) (σ : Type) (write : σ → SourceUnit → Except String σ) (s : σ),
      p.round (m.seenBy p.backend) write s = p.round m write s) ∧
    ∀ b : Backend,
      List.Forall₂ Round.SameOutcome (m.both settings b).1
        [m.alone settings b, m.alone settings b.other] ∧
      (∀ name, (m.both settings b).2.find? name =
        ((m.alone settings b).store.find? name).or ((m.alone settings b.other).store.find? name)) ∧
      (∀ name, (m.alone settings b).store.find? name = none ∨
        (m.alone settings b.other).store.find? name = none) ∧
      ∀ name, (m.both settings b.other).2.find? name = (m.both settings b).2.find? name := by
  refine ⟨fun p σ write s => p.round_seenBy m write s, fun b => ?_⟩
  obtain ⟨hsame, hfiles⟩ := m.both_spec settings b
  obtain ⟨-, hfiles'⟩ := m.both_spec settings b.other
  refine ⟨hsame, hfiles, m.alone_disjoint settings b, fun name => ?_⟩
  rw [hfiles, hfiles', b.other_other, m.alone_or_comm]

end ResolverGen
