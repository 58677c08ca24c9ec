/-
Rounds.

A round collects the entities of a model, checks them all and writes their units in order. The first
fault ends it; nothing has been written by then unless writing itself failed. A processor keeps the
accessors that its rounds found.
-/
import ResolverGen.Collection
import ResolverGen.Entity.Check
import ResolverGen.Entity.Units
import ResolverGen.Settings

namespace ResolverGen

/-- A backend with its settings and what it knows of earlier rounds. -/
structure Processor where
  backend : Backend
  settings : Settings
  accessors : Accessors
deriving Repr, Inhabited

/-- A processor before its first round. -/
def Processor.initial (backend : Backend) (settings : Settings) : Processor :=
  ⟨backend, settings, .empty⟩

/-- What came of writing units: the names of those written, why the next one was not, and where they
have been written to. -/
structure Written (σ : Type) where
  names : List String
  failure : Option String
  store : σ

/-- Writes units in order until one cannot be written. -/
def writeAll {σ : Type} (write : σ → Code.SourceUnit → Except String σ) :
    List Code.SourceUnit → σ → Written σ
  | [], s => ⟨[], none, s⟩
  | u :: us, s =>
    match write s u with
    | .error reason => ⟨[], some reason, s⟩
    | .ok s =>
      let w := writeAll write us s
      { w with names := u.qualifiedName :: w.names }

/-- What came of a round. -/
structure Round (σ : Type) where
  /-- The names of the written units, in order. -/
  generated : List String
  diagnostics : List Diagnostic
  processor : Processor
  store : σ

namespace Round

variable {σ : Type}

/-- The number of diagnostics of a severity. -/
def count (r : Round σ) (severity : Severity) : Nat :=
  (r.diagnostics.filter (·.severity = severity)).length

/-- Whether the round had no errors. -/
def succeeded (r : Round σ) : Bool := r.count .error = 0

end Round

namespace Processor

/-- The units of a model, or the fault that stands against them, and what has been collected. -/
def units (p : Processor) (m : Model) : Except Fault (List Code.SourceUnit) × Collection :=
  let (collected, c) := m.collect p.backend (p.settings.nonNullMark m) p.accessors
  let units := do
    collected
    Entity.checkAll p.backend.vocabulary c.entities
    pure (c.entities.flatMap (·.units p.backend))
  (units, c)

/-- Runs a round over a model and writes to a store. -/
def round {σ : Type} (p : Processor) (m : Model)
    (write : σ → Code.SourceUnit → Except String σ) (s : σ) : Round σ :=
  let (units, c) := p.units m
  let p := { p with accessors := c.accessors }
  match units with
  | .error f => ⟨[], (c.warnings ++ [f]).map Fault.report, p, s⟩
  | .ok units =>
    let w := writeAll write units s
    let faults := c.warnings ++ (w.failure.map Fault.unwritable).toList
    ⟨w.names, faults.map Fault.report, p, w.store⟩

end Processor

/-- Runs a round of each of some processors, in order, all writing to one store. -/
def roundsOf {σ : Type} (m : Model) (write : σ → Code.SourceUnit → Except String σ) :
    List Processor → σ → List (Round σ) × σ
  | [], s => ([], s)
  | p :: ps, s =>
    let r := p.round m write s
    let (rs, s) := roundsOf m write ps r.store
    (r :: rs, s)

end ResolverGen
