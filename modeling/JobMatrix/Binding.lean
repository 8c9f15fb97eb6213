/-!
# Axis bindings

A binding gives each axis of a job one value, in the order in which the axes were
declared. Conditions and placeholders look an axis up by name and take its first entry;
commands see every entry as an environment variable.
-/

namespace JobMatrix

/-- Values bound to axes, in declaration order. -/
structure Binding where
  entries : List (String × String)
deriving DecidableEq, Inhabited

namespace Binding

/-- The binding of no axis. -/
def empty : Binding := ⟨[]⟩

/-- The value of the first entry for `axis`. -/
def get? (b : Binding) (axis : String) : Option String :=
  (b.entries.find? (·.1 == axis)).map (·.2)

/-- The binding extended by one axis at its end. -/
def push (b : Binding) (axis value : String) : Binding :=
  ⟨b.entries ++ [(axis, value)]⟩

/-- An ASCII letter in upper case, an ASCII digit as it is, and `_` for any other character. -/
def variableChar (c : Char) : Char :=
  if c.isAlphanum then c.toUpper else '_'

/-- The name of the environment variable that shows an axis to commands. -/
def variableName (axis : String) : String :=
  "MATRIX_" ++ String.ofList (axis.toList.map variableChar)

/-- The environment variables of a binding, one for each entry. -/
def environment (b : Binding) : List (String × String) :=
  b.entries.map fun (axis, value) => (variableName axis, value)

/-- The identity of a job named `name` under a binding: `name`, or `name (axis=value, ...)`. -/
def instanceId (b : Binding) (name : String) : String :=
  if b.entries.isEmpty then name
  else
    name ++ " (" ++ ", ".intercalate (b.entries.map fun (axis, value) => axis ++ "=" ++ value)
      ++ ")"

end Binding

end JobMatrix
