/-
A run of the program.

The model is read first, then the settings; if either fails, nothing is written. The chosen backends
run one after the other and write below the same folder. A run fails if any round reports an error.
-/
import ResolverGen.CommandLine
import ResolverGen.Element.Document
import ResolverGen.Round
import ResolverGen.Store.Disk

namespace ResolverGen

namespace Invocation

/-- The processors of a run, each before its first round. -/
def processors (i : Invocation) (document : Settings) : List Processor :=
  i.backends.backends.map fun b => .initial b (i.settings document)

/-- The model and the settings of a run, if both can be read. -/
def load (i : Invocation) (read : String → Option String) : Option (Model × Settings) := do
  let m ← (Model.ofDocument (← read i.elements)).toOption
  match i.config with
  | none => pure (m, .unset)
  | some path => pure (m, ← (Settings.ofDocument (← read path)).toOption)

/-- Runs the rounds of an invocation on a disk; the exit code tells whether all succeeded. -/
def run (i : Invocation) (folder : Location) (d : Disk) : Nat × Disk :=
  match i.load (d.read? folder) with
  | none => (1, d)
  | some (m, document) =>
    let (rounds, d) := roundsOf m (Disk.writeUnit folder i.out) (i.processors document) d
    (if rounds.all (·.succeeded) then 0 else 1, d)

end Invocation

/-- Runs the program with its arguments and environment in a folder of a disk. -/
def program (environment : List (String × String)) (args : List String) (folder : Location)
    (d : Disk) : Nat × Disk :=
  match Invocation.ofArguments environment args with
  | .error e => (e.exitCode, d)
  | .ok i => i.run folder d

end ResolverGen
