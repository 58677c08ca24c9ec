/-
Rounds over models that have been read.

`Strict.round` is a round with lookups that fail where there is no element, and with a search for
packages that fails if it does not end. Over a model that has been read from a document, and in which
no element encloses itself, it gives what the round gives (`lookups_of_ofDocument`): every lookup is
of an element that is there, and the round comes to its end.
-/
import ResolverGen.Proofs.Collection.Lookups
import ResolverGen.Round
import ResolverGen.Store.Sources

namespace ResolverGen

namespace Strict

def units (p : Processor) (m : Model) :
    Option (Except Fault (List Code.SourceUnit) × Collection) := do
  let (collected, c) ← collect m p.backend (p.settings.nonNullMark m) p.accessors
  let units := do
    collected
    Entity.checkAll p.backend.vocabulary c.entities
    pure (c.entities.flatMap (·.units p.backend))
  some (units, c)

def round {σ : Type} (p : Processor) (m : Model)
    (write : σ → Code.SourceUnit → Except String σ) (s : σ) : Option (Round σ) := do
  let (units, c) ← units p m
  let p := { p with accessors := c.accessors }
  match units with
  | .error f => some ⟨[], (c.warnings ++ [f]).map Fault.report, p, s⟩
  | .ok units =>
    let w := writeAll write units s
    let faults := c.warnings ++ (w.failure.map Fault.unwritable).toList
    some ⟨w.names, faults.map Fault.report, p, w.store⟩

variable {m : Model} {σ : Type}

theorem units_eq (hsound : m.Sound) (hacyclic : m.Acyclic) (p : Processor) :
    units p m = some (p.units m) := by
  rw [units, collect_eq hsound hacyclic]
  rfl

/-- A round does not fail, whatever the processor knows and wherever it writes to. -/
theorem round_eq (hsound : m.Sound) (hacyclic : m.Acyclic) (p : Processor)
    (write : σ → Code.SourceUnit → Except String σ) (s : σ) :
    round p m write s = some (p.round m write s) := by
  rw [round, Processor.round, units_eq hsound hacyclic]
  simp only [Option.bind_eq_bind, Option.bind_some]
  obtain ⟨result, c⟩ := p.units m
  cases result <;> rfl

end Strict

/-- **Models that have been read are safe to process.** A document is read as a model only if all
references of the model lead to elements, and one that holds another model is refused for the first
reference that does not. So where no element encloses itself, every lookup of a round over a model
that has been read is of an element that is there, and the round comes to its end, whatever the
processor and wherever it writes to. -/
theorem lookups_of_ofDocument :
    (∀ text m, Model.ofDocument text = .ok m → m.Sound) ∧
      (∀ text m, Model.record.read.run text = .ok m → ¬m.Sound →
        ∃ d, m.FirstDangling d ∧ Model.ofDocument text = .error (.dangling d)) ∧
      ∀ text m, Model.ofDocument text = .ok m → m.Acyclic →
        ∀ (p : Processor) {σ : Type} (write : σ → Code.SourceUnit → Except String σ) (s : σ),
          Strict.round p m write s = some (p.round m write s) :=
  ⟨fun _ _ h => Model.sound_of_ofDocument h, fun _ _ h hm => Model.ofDocument_of_not_sound h hm,
    fun _ _ h hacyclic p _ write s =>
      Strict.round_eq (Model.sound_of_ofDocument h) hacyclic p write s⟩

/-- A class with a column, in a document; the column refers to its class by a position. -/
def noteText (owner : String) : String :=
  "[[],[[\"package\",\"com.test\"]," ++
    "[\"class\",\"Note\",[],null,0,[\"@StorIOSQLiteType(table = \\\"notes\\\")\"]]," ++
    "[\"field\",\"id\",[],\"long\"," ++ owner ++
      ",[\"@StorIOSQLiteColumn(name = \\\"_id\\\", key = true)\"]]]]"

/-- The model of that document. -/
def noteModel (owner : ElementId) : Model :=
  ⟨[], [Element.ofKind .package "com.test",
    { Element.ofKind .classType "Note" with
      enclosing := some 0
      annotations := [⟨"StorIOSQLiteType", some "table = \"notes\""⟩] },
    { Element.ofKind .field "id" with
      type := some "long"
      enclosing := some owner
      annotations := [⟨"StorIOSQLiteColumn", some "name = \"_id\", key = true"⟩] }]⟩

instance : DecidableEq Model := fun m m' =>
  decidable_of_iff (m.knownTypes = m'.knownTypes ∧ m.elements = m'.elements) <| by
    cases m
    cases m'
    simp

/-- The document is read as the model if the class is there, and refused if it is not. -/
theorem lookups_of_ofDocument_noteText :
    Model.ofDocument (noteText "1") = .ok (noteModel 1) ∧ (noteModel 1).Sound ∧
      (noteModel 1).Acyclic ∧
      Strict.round (.initial .sqlite .unset) (noteModel 1) Sources.write .empty =
        some ((Processor.initial .sqlite .unset).round (noteModel 1) Sources.write .empty) ∧
      ((Processor.initial .sqlite .unset).round (noteModel 1) Sources.write
        .empty).generated.length = 4 ∧
      Model.record.read.run (noteText "3") = .ok (noteModel 3) ∧ ¬(noteModel 3).Sound ∧
      ∃ d, (noteModel 3).FirstDangling d ∧
        Model.ofDocument (noteText "3") = .error (.dangling d) := by
  obtain ⟨hsound, hrefused, hround⟩ := lookups_of_ofDocument
  have hread : Model.ofDocument (noteText "1") = .ok (noteModel 1) := by decide +kernel
  have hread' : Model.record.read.run (noteText "3") = .ok (noteModel 3) := by decide +kernel
  have hacyclic : (noteModel 1).Acyclic := Model.acyclic_of_lt (by decide +kernel)
  have hsound' : ¬(noteModel 3).Sound := by
    rw [Model.sound_iff_dangling?]
    decide +kernel
  exact ⟨hread, hsound _ _ hread, hacyclic, hround _ _ hread hacyclic _ _ _, by decide +kernel,
    hread', hsound', hrefused _ _ hread' hsound'⟩

end ResolverGen
