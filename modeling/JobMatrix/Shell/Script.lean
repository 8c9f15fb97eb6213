/-!
# Scripts

What a text in the language of commands says: simple commands and the ways to put them
together. Words stand as they were written, with their quotes; they are expanded when a
command runs.
-/

namespace JobMatrix.Shell

/-- Where a descriptor of a command leads. -/
inductive Redirection
  /-- To a file that is emptied first. -/
  | write (word : String)
  | append (word : String)
  | read (word : String)
  /-- To where another descriptor leads. -/
  | duplicate (word : String)
  /-- From a text in the script, in which parameters are expanded or not. -/
  | text (content : String) (expands : Bool)
deriving DecidableEq, Inhabited

/-- A descriptor and where it leads. -/
structure Redirect where
  descriptor : Nat
  target : Redirection
deriving DecidableEq, Inhabited

/-- A script. -/
inductive Script
  | nothing
  /-- A command with variables set for it, on a line of the text. -/
  | simple (line : Nat) (assignments : List (String × String)) (words : List String)
      (redirects : List Redirect)
  | redirected (body : Script) (redirects : List Redirect)
  | subshell (body : Script)
  | branch (condition yes no : Script)
  /-- Repeats a body as long as a condition succeeds, or fails. -/
  | loop (whileFails : Bool) (condition body : Script)
  /-- Repeats a body for each of some words, or for each positional parameter. -/
  | each (name : String) (words : Option (List String)) (body : Script)
  | choice (word : String) (arms : Script)
  /-- A body for words that match a pattern, and the arms after it. -/
  | arm (patterns : List String) (body next : Script)
  | pipeline (left right : Script)
  | inverted (body : Script)
  | both (left right : Script)
  | either (left right : Script)
  | sequence (left right : Script)
  | background (body : Script)
  | definition (name : String) (body : Script)
  /-- The rest of a text that is no script. -/
  | malformed (line : Nat) (message : String)
deriving Inhabited

end JobMatrix.Shell
