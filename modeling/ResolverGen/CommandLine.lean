/-
The command line.

Options are written `--name value` or `--name=value`, each once. A value that starts with a dash has
to be given behind an equals sign, a lone dash apart. Two options can also come from the environment.
The first mistake in the order of the arguments is reported; a value behind an equals sign is settled
at once, any other only when the next option starts or the arguments end.
-/
import ResolverGen.Backend
import ResolverGen.Settings

namespace ResolverGen

/-- The backends that are run. -/
inductive BackendSelection where
  | only (b : Backend)
  | all
deriving DecidableEq, Repr, Inhabited

namespace BackendSelection

/-- The chosen backends, in the order in which they run. -/
def backends : BackendSelection → List Backend
  | only b => [b]
  | all => Backend.all

/-- The choice that a value names. -/
def ofName? (name : String) : Option BackendSelection :=
  if name = "all" then some all else (Backend.all.find? (·.name = name)).map only

end BackendSelection

/-- What a run is asked to do. -/
structure Invocation where
  /-- The path of the document that holds the model. -/
  elements : String
  /-- The folder that the generated files go to. -/
  out : String
  /-- The path of the document that holds the settings. -/
  config : Option String
  backends : BackendSelection
  nonNull : Option String
deriving DecidableEq, Repr, Inhabited

/-- Why a run is not started. -/
inductive UsageError where
  | help
  | version
  | missingOption
  | badValue
  | unknownArgument
  | repeated
  | needlessValue
deriving DecidableEq, Repr, Inhabited

/-- The exit code: asking for help or the version is no mistake. -/
def UsageError.exitCode : UsageError → Nat
  | help | version => 0
  | _ => 2

namespace CommandLine

/-- The options that take a value. -/
inductive Name where
  | elements | out | config | backend | nonNull
deriving DecidableEq, Repr, Inhabited

namespace Name

/-- All options. -/
def all : List Name := [elements, out, config, backend, nonNull]

/-- How an option is written, without its dashes. -/
def text : Name → String
  | elements => "elements"
  | out => "out"
  | config => "config"
  | backend => "backend"
  | nonNull => "non-null"

/-- The variable of the environment that stands for an option. -/
def variableName? : Name → Option String
  | config => some "STORIO_CODEGEN_CONFIG"
  | nonNull => some "STORIO_CODEGEN_NON_NULL"
  | _ => none

/-- Whether a value is one of the option. -/
def accepts (n : Name) (value : String) : Bool :=
  match n with
  | elements | out | config => value ≠ ""
  | backend => (BackendSelection.ofName? value).isSome
  | nonNull => true

end Name

/-- What an argument is. -/
inductive Argument where
  | option (n : Name) (value : Option String)
  | help
  | version
  /-- A value behind an option that takes none. -/
  | needless
  | endOfOptions
  | word (text : String)
  | unknown
deriving DecidableEq, Repr

/-- Parts a text at its first equals sign. -/
def cutAtEquals : List Char → List Char × Option (List Char)
  | [] => ([], none)
  | '=' :: cs => ([], some cs)
  | c :: cs =>
    let (name, value) := cutAtEquals cs
    (c :: name, value)

/-- What an argument behind two dashes is. -/
def Argument.ofLong (cs : List Char) : Argument :=
  let (name, value) := cutAtEquals cs
  let value := value.map String.ofList
  let flag (meaning : Argument) : Argument := if value.isSome then needless else meaning
  match Name.all.find? (·.text = String.ofList name) with
  | some n => option n value
  | none =>
    if name = "help".toList then flag help
    else if name = "version".toList then flag version
    else unknown

/-- What an argument is. -/
def Argument.of (arg : String) : Argument :=
  match arg.toList with
  | ['-', '-'] => endOfOptions
  | '-' :: '-' :: cs => ofLong cs
  | '-' :: c :: _ => if c = 'h' then help else if c = 'V' then version else unknown
  | _ => word arg

/-- The values given so far, and the option that has been named last with its value. -/
structure State where
  given : List (Name × String)
  pending : Option (Name × Option String)

/-- Nothing is given. -/
def State.start : State := ⟨[], none⟩

/-- Gives an option its value. -/
def State.give (s : State) (n : Name) (value : String) : Except UsageError State :=
  if (s.given.lookup n).isSome then .error .repeated
  else if n.accepts value then .ok { s with given := (n, value) :: s.given }
  else .error .badValue

/-- Settles the option that has been named last. -/
def State.settle (s : State) : Except UsageError State :=
  match s.pending with
  | none => .ok s
  | some (_, none) => .error .badValue
  | some (n, some value) => State.give { s with pending := none } n value

/-- Takes the arguments one after the other. -/
def State.takeAll (s : State) : List Argument → Except UsageError State
  | [] => s.settle
  | .option n none :: args => do
    let s ← s.settle
    takeAll { s with pending := some (n, none) } args
  | .option n (some value) :: args => do
    let s ← s.settle
    takeAll (← s.give n value) args
  | .help :: _ => do
    let _ ← s.settle
    throw .help
  | .version :: _ => do
    let _ ← s.settle
    throw .version
  | .needless :: _ => .error .needlessValue
  | .endOfOptions :: args => if args = [] then s.settle else .error .unknownArgument
  | .word text :: args =>
    match s.pending with
    | some (n, none) => takeAll { s with pending := some (n, some text) } args
    | _ => .error .unknownArgument
  | .unknown :: _ => .error .unknownArgument

/-- Gives the options that were not named the values of their variables. -/
def State.fill (environment : List (String × String)) (s : State) :
    List Name → Except UsageError State
  | [] => .ok s
  | n :: ns =>
    match s.given.lookup n, n.variableName?.bind (environment.lookup ·) with
    | none, some value => do (← s.give n value).fill environment ns
    | _, _ => s.fill environment ns

/-- What the given values ask for. Two options are required. -/
def State.invocation (s : State) : Except UsageError Invocation :=
  match s.given.lookup Name.elements, s.given.lookup Name.out with
  | some elements, some out =>
    .ok
      { elements, out
        config := s.given.lookup Name.config
        backends := ((s.given.lookup Name.backend).bind BackendSelection.ofName?).getD .all
        nonNull := s.given.lookup Name.nonNull }
  | _, _ => .error .missingOption

end CommandLine

open CommandLine in
/-- Reads the arguments of a run, with the environment as names and values. -/
def Invocation.ofArguments (environment : List (String × String)) (args : List String) :
    Except UsageError Invocation := do
  let s ← State.start.takeAll (args.map Argument.of)
  (← s.fill environment Name.all).invocation

/-- The settings of a run: those of its document, unless an option says otherwise. -/
def Invocation.settings (i : Invocation) (document : Settings) : Settings :=
  { document with nonNull := i.nonNull.or document.nonNull }

end ResolverGen
