/-!
# Arguments

A command line is a list of words. Words that start with a hyphen are switches; a switch is
alone, or takes a value, which stands behind it in the same word or is the next word. Words
after `--` are no switches.

A value that is a word of its own is looked at when the next switch is read or the words are
at their end. So a word that is no switch is told of before a bad value right in front of it.
-/

namespace JobMatrix.CommandLine

/-- Why words are no command line, or are answered with a text of their own. -/
inductive UsageError
  | unknownArgument
  | missingRequiredArgument
  | invalidValue
  | valueValidation
  | argumentConflict
  | invalidSubcommand
  | missingSubcommand
  | tooManyValues
  | displayHelp
  | displayHelpOnMissingArgument
  | displayVersion
deriving DecidableEq, Inhabited

/-- What a switch does. -/
inductive SwitchKind
  /-- Stands alone and may stand once. -/
  | flag
  /-- Takes a value and may stand once. -/
  | value
  /-- Takes a value each time. -/
  | values
  | help
  | version
deriving DecidableEq, Inhabited

/-- A switch. -/
structure Switch where
  name : String
  short : Option Char
  kind : SwitchKind
  /-- What is wrong with a value. -/
  check : String → Option UsageError

/-- What has been read of some words. -/
structure Matches where
  /-- The switches in the order in which they were read, with their values. -/
  found : List (String × String)
  /-- A switch whose value has not been looked at, and the value unless it is to come. -/
  pending : Option (Switch × Option String)

namespace Matches

/-- Nothing read. -/
def empty : Matches := ⟨[], none⟩

/-- Whether a switch was read. -/
def has (m : Matches) (name : String) : Bool :=
  m.found.any (·.1 == name)

/-- The values of a switch. -/
def values (m : Matches) (name : String) : List String :=
  m.found.filterMap fun (n, v) => if n == name then some v else none

/-- The value of a switch. -/
def value? (m : Matches) (name : String) : Option String :=
  (m.values name).head?

/-- Enters a switch with its value. -/
def enter (m : Matches) (s : Switch) (value : String) : Except UsageError Matches :=
  if s.kind != .values && m.has s.name then .error .argumentConflict
  else
    match s.check value with
    | some e => .error e
    | none => .ok { m with found := m.found ++ [(s.name, value)] }

/-- Looks at the value that has not been looked at. -/
def settle (m : Matches) : Except UsageError Matches :=
  match m.pending with
  | none => .ok m
  | some (_, none) => .error .invalidValue
  | some (s, some value) => { m with pending := none }.enter s value

/-- Reads a switch that stands alone. -/
def readFlag (m : Matches) (s : Switch) : Except UsageError Matches := do
  let m ← m.settle
  match s.kind with
  | .help => .error .displayHelp
  | .version => .error .displayVersion
  | _ => m.enter s ""

/-- Reads a switch that takes a value, with the value if it is in the same word. -/
def readOption (m : Matches) (s : Switch) (value : Option String) : Except UsageError Matches := do
  let m ← m.settle
  match value with
  | some value => m.enter s value
  | none => return { m with pending := some (s, none) }

/-- Whether the next word is the value of a switch. -/
def expectsValue (m : Matches) : Bool :=
  match m.pending with
  | some (_, none) => true
  | _ => false

/-- Takes a word for the value of the switch in front of it. -/
def giveValue (m : Matches) (word : String) : Matches :=
  { m with pending := m.pending.map fun (s, _) => (s, some word) }

end Matches

/-- What words may be. -/
structure Grammar where
  switches : List Switch
  /-- The names of subcommands, of which one is required if there are any. -/
  subcommands : List String

namespace Grammar

/-- Whether a switch takes a value. -/
def takesValue (s : Switch) : Bool :=
  s.kind == .value || s.kind == .values

/-- Reads a word behind two hyphens. -/
def readLong (g : Grammar) (m : Matches) (cs : List Char) : Except UsageError Matches :=
  let name := String.ofList (cs.takeWhile (· != '='))
  let value := match cs.dropWhile (· != '=') with
    | _ :: v => some (String.ofList v)
    | [] => none
  match g.switches.find? (·.name == name) with
  | none => .error .unknownArgument
  | some s =>
    if takesValue s then m.readOption s value
    else if value.isSome then .error .tooManyValues
    else m.readFlag s

/-- Reads the letters behind one hyphen. What follows the letter of a switch that takes a value is its
value. -/
def readShort (g : Grammar) (m : Matches) : List Char → Except UsageError Matches
  | [] => .ok m
  | c :: rest =>
    match g.switches.find? (·.short == some c) with
    | none => .error .unknownArgument
    | some s =>
      if takesValue s then
        m.readOption s (match rest with
          | [] => none
          | '=' :: value => some (String.ofList value)
          | value => some (String.ofList value))
      else do g.readShort (← m.readFlag s) rest

/-- Why a word that is no switch cannot stand where it does, behind `--` or not. -/
def stray (g : Grammar) (escaped : Bool) (word : String) : UsageError :=
  if g.subcommands.isEmpty || (escaped && g.subcommands.contains word) then .unknownArgument
  else .invalidSubcommand

/-- Why `help` with some words after it ends the reading. -/
def helpFor (g : Grammar) : List String → UsageError
  | [] => .displayHelp
  | [name] => if g.subcommands.contains name then .displayHelp else .invalidSubcommand
  | _ => .invalidSubcommand

/-- Reads words up to a subcommand, with which the words after it are returned. -/
def read (g : Grammar) (m : Matches) (escaped : Bool) :
    List String → Except UsageError (Matches × Option (String × List String))
  | [] => do return (← m.settle, none)
  | word :: words =>
    if escaped then .error (g.stray true word)
    else if !m.expectsValue && g.subcommands.contains word then
      if word == "help" then .error (g.helpFor words) else .ok (m, some (word, words))
    else
      match word.toList with
      | ['-', '-'] => g.read m true words
      | '-' :: '-' :: cs => do g.read (← g.readLong m cs) false words
      | '-' :: c :: cs => do g.read (← g.readShort m (c :: cs)) false words
      | _ => if m.expectsValue then g.read (m.giveValue word) false words else .error (g.stray false word)

end Grammar

end JobMatrix.CommandLine
