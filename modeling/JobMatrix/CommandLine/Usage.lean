import JobMatrix.CommandLine.Arguments

/-!
# Usage

What is said to words that are no command line, and to those that ask for a text.
-/

namespace JobMatrix.CommandLine

/-- The commands and their switches. -/
def usageText : String :=
  "\n".intercalate
    ["Usage: matrix-ci [-v] [-s] <command>",
      "",
      "Commands:",
      "  run -f FILE... [--strategy sequential|parallel|parallel-limited] [--max-parallel N]",
      "      [--job NAME...] [--no-history] [--json]",
      "  validate -f FILE [--json]",
      "  plan -f FILE [--json]",
      "  history [-p PIPELINE] [-l N] [--details] [--json] [--run-id ID]"]

/-- The line with the version. -/
def versionText : String := "matrix-ci 0.1.0"

namespace UsageError

/-- What is wrong. -/
def complaint : UsageError → String
  | .unknownArgument => "error: unexpected argument"
  | .missingRequiredArgument => "error: a required argument was not provided"
  | .invalidValue | .valueValidation => "error: invalid value for an argument"
  | .argumentConflict => "error: an argument cannot be used here or more than once"
  | .invalidSubcommand => "error: unrecognized subcommand"
  | .missingSubcommand => "error: a subcommand is required but one was not provided"
  | .tooManyValues => "error: unexpected value for an argument"
  | .displayHelp | .displayHelpOnMissingArgument | .displayVersion => ""

/-- The text that is written. -/
def text : UsageError → String
  | .displayHelp | .displayHelpOnMissingArgument => usageText ++ "\n"
  | .displayVersion => versionText ++ "\n"
  | e => e.complaint ++ "\n\n" ++ usageText ++ "\n"

/-- Whether the text was asked for. -/
def isAnswer : UsageError → Bool
  | .displayHelp | .displayVersion => true
  | _ => false

/-- The exit code: 0 if the text was asked for, else 2. -/
def exitCode (e : UsageError) : Nat :=
  if e.isAnswer then 0 else 2

end UsageError

end JobMatrix.CommandLine
