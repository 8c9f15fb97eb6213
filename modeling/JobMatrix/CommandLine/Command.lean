import JobMatrix.CommandLine.Arguments
import JobMatrix.Run.Strategy
import JobMatrix.Word

/-!
# Commands of the command line

There are four commands: to run pipelines, to validate one, to show its plan, and to show
the history of runs.
-/

namespace JobMatrix.CommandLine

/-- The strategies that can be asked for. -/
inductive StrategyChoice
  | sequential
  | parallel
  | parallelLimited
deriving DecidableEq, Inhabited

namespace StrategyChoice

/-- The word for a strategy. -/
def word : StrategyChoice → String
  | .sequential => "sequential"
  | .parallel => "parallel"
  | .parallelLimited => "parallel-limited"

/-- The strategy of a word. -/
def ofWord? (s : String) : Option StrategyChoice :=
  [.sequential, .parallel, .parallelLimited].find? (·.word == s)

/-- The number of jobs at once when a limit is asked for without a number. -/
def defaultLimit : Nat := 4

/-- The strategy for a choice and a greatest number of jobs. The number has no effect on jobs that run
one after the other. -/
def strategy (choice : StrategyChoice) (maxParallel : Option Nat) : Strategy :=
  match choice, maxParallel with
  | .sequential, _ => .sequential
  | _, some n => .limited n
  | .parallel, none => .parallel
  | .parallelLimited, none => .limited defaultLimit

end StrategyChoice

/-- What to run, and how. -/
structure RunOptions where
  files : List String
  choice : StrategyChoice
  maxParallel : Option Nat
  /-- The templates to run; all if there are none. -/
  jobs : List String
  noHistory : Bool
  json : Bool
deriving DecidableEq, Inhabited

/-- The strategy to run with. -/
def RunOptions.strategy (o : RunOptions) : Strategy :=
  o.choice.strategy o.maxParallel

/-- Which runs to show, and how. -/
structure HistoryOptions where
  pipeline : Option String
  limit : Nat
  details : Bool
  json : Bool
  runId : Option String
deriving DecidableEq, Inhabited

/-- A command. -/
inductive Command
  | run (options : RunOptions)
  | validate (file : String) (json : Bool)
  | plan (file : String) (json : Bool)
  | history (options : HistoryOptions)
deriving DecidableEq, Inhabited

/-- Whether documents are asked for. -/
def Command.json : Command → Bool
  | .run o => o.json
  | .validate _ json | .plan _ json => json
  | .history o => o.json

/-- The files that a command reads. -/
def Command.files : Command → List String
  | .run o => o.files
  | .validate file _ | .plan file _ => [file]
  | .history _ => []

/-- A command line. -/
structure Invocation where
  command : Command
  verbose : Bool
  /-- Whether the output of steps is shown as they end. -/
  stream : Bool
deriving DecidableEq, Inhabited

/-! ## Values -/

/-- The number that digits write, with an optional plus sign, if it fits into 64 bits. -/
def count? (s : String) : Option Nat :=
  let cs := match s.toList with
    | '+' :: cs => cs
    | cs => cs
  if cs.isEmpty || !cs.all Char.isDigit then none
  else
    let n := cs.foldl (fun n c => 10 * n + (c.toNat - '0'.toNat)) 0
    if n < Word.bound then some n else none

/-- Any value is fine. -/
def anyValue (_ : String) : Option UsageError := none

/-- The value must be a number. -/
def countValue (s : String) : Option UsageError :=
  if (count? s).isSome then none else some .valueValidation

/-- The value must be a number other than zero. -/
def positiveValue (s : String) : Option UsageError :=
  match count? s with
  | none | some 0 => some .valueValidation
  | some _ => none

/-- The value must be the word for a strategy. -/
def strategyValue (s : String) : Option UsageError :=
  if (StrategyChoice.ofWord? s).isSome then none else some .invalidValue

/-! ## Grammars -/

/-- A switch that stands alone. -/
def flag (name : String) (short : Option Char) : Switch :=
  ⟨name, short, .flag, anyValue⟩

/-- The switches that stand everywhere. -/
def everywhere : List Switch :=
  [flag "verbose" (some 'v'), flag "stream" (some 's'), ⟨"help", some 'h', .help, anyValue⟩]

/-- What may stand before the name of a command. -/
def topGrammar : Grammar where
  switches := everywhere ++ [⟨"version", some 'V', .version, anyValue⟩]
  subcommands := ["run", "validate", "plan", "history", "help"]

def runGrammar : Grammar where
  switches := everywhere ++
    [⟨"file", some 'f', .values, anyValue⟩, ⟨"strategy", none, .value, strategyValue⟩,
      ⟨"max-parallel", none, .value, positiveValue⟩, ⟨"job", none, .values, anyValue⟩,
      flag "no-history" none, flag "json" none]
  subcommands := []

/-- The grammar of the commands that look at one file. -/
def fileGrammar : Grammar where
  switches := everywhere ++ [⟨"file", some 'f', .value, anyValue⟩, flag "json" none]
  subcommands := []

def historyGrammar : Grammar where
  switches := everywhere ++
    [⟨"pipeline", some 'p', .value, anyValue⟩, ⟨"limit", some 'l', .value, countValue⟩,
      flag "details" none, flag "json" none, ⟨"run-id", none, .value, anyValue⟩]
  subcommands := []

/-! ## Commands -/

def runCommand (m : Matches) : Except UsageError Command :=
  if !m.has "file" then .error .missingRequiredArgument
  else
    .ok (.run {
      files := m.values "file"
      choice := ((m.value? "strategy").bind StrategyChoice.ofWord?).getD .parallel
      maxParallel := (m.value? "max-parallel").bind count?
      jobs := m.values "job"
      noHistory := m.has "no-history"
      json := m.has "json" })

def fileCommand (command : String → Bool → Command) (m : Matches) : Except UsageError Command :=
  match m.value? "file" with
  | some file => .ok (command file (m.has "json"))
  | none => .error .missingRequiredArgument

/-- The number of runs shown when no number is asked for. -/
def defaultHistoryLimit : Nat := 10

def historyCommand (m : Matches) : Except UsageError Command :=
  .ok (.history {
    pipeline := m.value? "pipeline"
    limit := ((m.value? "limit").bind count?).getD defaultHistoryLimit
    details := m.has "details"
    json := m.has "json"
    runId := m.value? "run-id" })

/-- Reads the words after the name of a command. -/
def readCommand (g : Grammar) (command : Matches → Except UsageError Command) (top : Matches)
    (words : List String) : Except UsageError Invocation := do
  let (m, _) ← g.read .empty false words
  return { command := ← command m
           verbose := top.has "verbose" || m.has "verbose"
           stream := top.has "stream" || m.has "stream" }

/-- The command line that some words are. -/
def parse (words : List String) : Except UsageError Invocation := do
  match ← topGrammar.read .empty false words with
  | (top, none) =>
    .error (if top.found.isEmpty then .displayHelpOnMissingArgument else .missingSubcommand)
  | (top, some (name, rest)) =>
    if name == "run" then readCommand runGrammar runCommand top rest
    else if name == "validate" then readCommand fileGrammar (fileCommand .validate) top rest
    else if name == "plan" then readCommand fileGrammar (fileCommand .plan) top rest
    else readCommand historyGrammar historyCommand top rest

end JobMatrix.CommandLine
