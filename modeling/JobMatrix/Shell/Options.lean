import JobMatrix.Files

/-!
# Options of a shell

Options say how a shell runs. They are switched on and off by letters or names, when it is
started or while it runs.
-/

namespace JobMatrix.Shell

/-- How a shell runs. -/
structure Options where
  /-- A failing command ends the script. -/
  strict : Bool
  /-- Only parameters that are set may be used. -/
  nounset : Bool
  /-- Commands are shown before they run. -/
  trace : Bool
  /-- Patterns stand for themselves. -/
  noglob : Bool
  /-- Commands are read, but not carried out. -/
  noexec : Bool
  /-- A pipeline fails if one of its commands does. -/
  pipefail : Bool
deriving DecidableEq, Inhabited

namespace Options

/-- The usual options. -/
def usual : Options := ⟨false, false, false, false, false, false⟩

/-- Switches the option of a letter. -/
def switch (on : Bool) (o : Options) (letter : Char) : Options :=
  if letter = 'e' then { o with strict := on }
  else if letter = 'u' then { o with nounset := on }
  else if letter = 'x' then { o with trace := on }
  else if letter = 'f' then { o with noglob := on }
  else if letter = 'n' then { o with noexec := on }
  else o

/-- Switches the option of a name. -/
def switchNamed (on : Bool) (o : Options) (name : String) : Options :=
  if name == "errexit" then { o with strict := on }
  else if name == "nounset" then { o with nounset := on }
  else if name == "xtrace" then { o with trace := on }
  else if name == "noglob" then { o with noglob := on }
  else if name == "noexec" then { o with noexec := on }
  else if name == "pipefail" then { o with pipefail := on }
  else o

/-- The letters of the options that are on. -/
def letters (o : Options) : String :=
  String.join
    [if o.strict then "e" else "", if o.noglob then "f" else "", if o.noexec then "n" else "",
      if o.nounset then "u" else "", if o.trace then "x" else ""]

/-- The letters that may be given to a shell. -/
def known : List Char :=
  ['a', 'b', 'C', 'E', 'e', 'f', 'I', 'i', 'l', 'm', 'n', 'p', 's', 'u', 'V', 'v', 'x']

end Options

/-- What a shell is started for. -/
structure Start where
  options : Options
  /-- The words after the options. -/
  operands : List String
  /-- Whether the first of them is a script and not the name of a file with one. -/
  isScript : Bool
deriving DecidableEq, Inhabited

/-- Reads the arguments that a shell is started with, or says which letter is unknown. -/
def Start.read (s : Start) : List String → Except Char Start
  | [] => .ok s
  | "--" :: operands => .ok { s with operands }
  | arg :: args =>
    match arg.toList with
    | '-' :: c :: cs =>
      match (c :: cs).find? fun l => !(l = 'c' || l = 'o' || Options.known.contains l) with
      | some l => .error l
      | none =>
        let options := (c :: cs).foldl (Options.switch true) s.options
        let isScript := s.isScript || (c :: cs).contains 'c'
        if (c :: cs).contains 'o' then
          match args with
          | name :: args => Start.read { s with options := options.switchNamed true name, isScript } args
          | [] => .ok { s with options, isScript }
        else Start.read { s with options, isScript } args
    | '+' :: c :: cs =>
      Start.read { s with options := (c :: cs).foldl (Options.switch false) s.options } args
    | _ => .ok { s with operands := arg :: args }

end JobMatrix.Shell
