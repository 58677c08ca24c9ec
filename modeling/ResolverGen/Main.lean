/-
The program itself.

It reads the documents and writes the files of a run; what a run does is said in the modules that
this one imports.
-/
import ResolverGen.Program

namespace ResolverGen

/-- What is printed for each reason not to start a run. -/
def usageText : UsageError → String
  | .help | .missingOption | .badValue | .unknownArgument | .repeated | .needlessValue =>
    "Usage: storio-codegen [OPTIONS] --elements <PATH> --out <DIR>"
  | .version => "storio-codegen 0.1.0"

/-- The text of a file, if it can be read. -/
def readText (path : String) : IO (Option String) := do
  try
    let text ← IO.FS.readFile path
    pure (some text)
  catch _ => pure none

/-- Writes a file below a folder, making the folders on its way. -/
def writeText (out : String) (path text : String) : IO Unit := do
  let full := Code.joinPath out path
  match Text.cutLast? '/' full.toList with
  | some (folder, _) => IO.FS.createDirAll (String.ofList folder)
  | none => pure ()
  IO.FS.writeFile full text

/-- Writes files in order until one cannot be written, and says why. -/
def writeFiles (out : String) : List (String × String) → IO (Option String)
  | [] => pure none
  | (path, text) :: files => do
    try
      writeText out path text
    catch e => return some (toString e)
    writeFiles out files

/-- Reports a diagnostic. -/
def report (d : Diagnostic) : IO Unit := IO.eprintln d.render

/-- Runs one processor, and tells whether it succeeded. -/
def runProcessor (out : String) (m : Model) (p : Processor) : IO Bool := do
  let note (files : List (String × String)) (u : Code.SourceUnit) :
      Except String (List (String × String)) := .ok (files ++ [(u.scope.path, u.source)])
  let r := p.round m note []
  r.diagnostics.forM report
  match ← writeFiles out r.store with
  | none => pure r.succeeded
  | some reason =>
    report (Fault.unwritable reason).report
    pure false

/-- Runs all processors, and tells whether all succeeded. -/
def runAll (out : String) (m : Model) : List Processor → IO Bool
  | [] => pure true
  | p :: ps => do
    let first ← runProcessor out m p
    let others ← runAll out m ps
    pure (first && others)

end ResolverGen

open ResolverGen in
/-- Runs the program. -/
def main (args : List String) : IO UInt32 := do
  let names := CommandLine.Name.all.filterMap CommandLine.Name.variableName?
  let environment ← names.filterMapM fun name => do
    pure ((← IO.getEnv name).map fun value => (name, value))
  match Invocation.ofArguments environment args with
  | .error e =>
    if e.exitCode = 0 then IO.println (usageText e) else IO.eprintln (usageText e)
    pure e.exitCode.toUInt32
  | .ok i =>
    let paths := i.elements :: i.config.toList
    let texts ← paths.mapM fun path => do pure (path, ← readText path)
    match i.load fun path => (texts.lookup path).join with
    | none =>
      IO.eprintln "cannot read the model or the settings"
      pure 1
    | some (m, document) =>
      pure (if ← runAll i.out m (i.processors document) then 0 else 1)
