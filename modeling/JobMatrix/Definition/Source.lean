import JobMatrix.Definition.Loading
import JobMatrix.Definition.Reading
import JobMatrix.Files
import JobMatrix.Path

/-!
# Definitions as texts

A text is read into a definition, which is checked once as if it stood in the current
directory, before it is loaded for the directory that it belongs to.
-/

namespace JobMatrix.Definition

/-- Why a pipeline cannot be had from a file. -/
inductive Failure
  /-- The file could not be read. -/
  | unread (path : String) (cause : FileError)
  | unparsed (fault : Yaml.ReadFault)
  | invalid (fault : Fault)

namespace Failure

/-- The message of a failure without the position in the text. -/
def brief : Failure → String
  | .unread path cause => "failed to read pipeline file " ++ path ++ ": " ++ cause.message
  | .unparsed fault => "failed to parse pipeline YAML: " ++ fault.text
  | .invalid fault => fault.message

/-- The message of a failure. -/
def message : Failure → String
  | .unparsed fault => (Failure.unparsed fault).brief ++ fault.position
  | f => f.brief

end Failure

/-- A definition read from a text, with its rules checked. -/
def ofText (text : String) : Except Failure PipelineDefinition :=
  match Yaml.Reader.run readPipeline text with
  | .error fault => .error (.unparsed fault)
  | .ok d =>
    match d.load "." with
    | .error fault => .error (.invalid fault)
    | .ok _ => .ok d

/-- The pipeline of a definition for a base directory, as a failure if a rule is broken. -/
def PipelineDefinition.load? (base : String) (d : PipelineDefinition) : Except Failure Pipeline :=
  match d.load base with
  | .error fault => .error (.invalid fault)
  | .ok p => .ok p

/-- The pipeline in a file, for the directory that the file is in. -/
def pipelineOfFile (files : Files) (directory : List String) (path : String) :
    Except Failure Pipeline := do
  match files.readText directory path with
  | .error cause => .error (.unread path cause)
  | .ok text => (← ofText text).load? (Path.directory path)

/-- The pipeline with only some jobs. Without names it keeps all. -/
def retain (names : List String) (p : Pipeline) : Except Failure Pipeline :=
  if names.isEmpty then .ok p
  else
    match p.retain names with
    | .error name => .error (.invalid (.unknownJob name))
    | .ok p => .ok p

end JobMatrix.Definition
