import JobMatrix.Binding
import JobMatrix.Text.Blank

/-!
# Placeholders in commands

A placeholder is `${{`, optional blanks, `matrix.`, the name of an axis, optional blanks
and `}}`. Cutting a command into segments finds its placeholders from left to right
without overlaps; the axes it names and the text it renders to are both read off the
segments, so they always speak of the same placeholders.
-/

namespace JobMatrix.Placeholder

open JobMatrix.Text

/-- Characters of an axis name inside a placeholder: ASCII letters, digits, `_` and `-`. -/
def isNameChar (c : Char) : Bool :=
  c.isAlphanum || c == '_' || c == '-'

/-- The text after `word`, if `cs` begins with it. -/
def after? (word : List Char) (cs : List Char) : Option (List Char) :=
  if word.isPrefixOf cs then some (cs.drop word.length) else none

/-- The axis named by a placeholder at the front of `cs`, and the text after the placeholder. -/
def match? (cs : List Char) : Option (String × List Char) := do
  let inner ← after? ['$', '{', '{'] cs
  let named ← after? "matrix.".toList (inner.dropWhile isBlank)
  let name := named.takeWhile isNameChar
  if name.isEmpty then none
  else
    let rest ← after? ['}', '}'] ((named.dropWhile isNameChar).dropWhile isBlank)
    some (String.ofList name, rest)

theorem length_dropWhile_le (p : Char → Bool) (cs : List Char) :
    (cs.dropWhile p).length ≤ cs.length :=
  (List.dropWhile_suffix p).length_le

theorem length_of_after? {word cs rest : List Char} (h : after? word cs = some rest) :
    rest.length + word.length = cs.length := by
  unfold after? at h
  split at h
  · rename_i hp
    cases h
    have := (List.isPrefixOf_iff_prefix.1 hp).length_le
    simp only [List.length_drop]
    omega
  · cases h

theorem length_of_match? {cs rest : List Char} {axis : String}
    (h : match? cs = some (axis, rest)) : rest.length < cs.length := by
  simp only [match?, Option.bind_eq_bind, Option.bind_eq_some_iff] at h
  obtain ⟨inner, h₁, named, h₂, h₃⟩ := h
  split at h₃
  · cases h₃
  · obtain ⟨r, h₄, h₅⟩ := Option.bind_eq_some_iff.1 h₃
    cases h₅
    have l₁ := length_of_after? h₁
    have l₂ := length_of_after? h₂
    have l₄ := length_of_after? h₄
    have d₁ := length_dropWhile_le isBlank inner
    have d₂ := length_dropWhile_le isNameChar named
    have d₃ := length_dropWhile_le isBlank (named.dropWhile isNameChar)
    simp only [List.length_cons, List.length_nil] at l₁
    omega

/-- A piece of a command: a character that stands for itself, or a placeholder for an axis. -/
inductive Segment
  | char (c : Char)
  | axis (name : String)
deriving DecidableEq

/-- The segments of a command, each placeholder taken where it first begins. -/
def segments (cs : List Char) : List Segment :=
  match cs with
  | [] => []
  | c :: rest =>
    match _h : match? (c :: rest) with
    | some (name, after) => .axis name :: segments after
    | none => .char c :: segments rest
termination_by cs.length
decreasing_by
  · exact length_of_match? (by assumption)
  · simp

namespace Segment

/-- The axis that a segment names. -/
def axis? : Segment → Option String
  | .char _ => none
  | .axis name => some name

/-- A segment under a binding; an axis without a value leaves no text. -/
def render (b : Binding) : Segment → List Char
  | .char c => [c]
  | .axis name => ((b.get? name).getD "").toList

end Segment

/-- The axes that a command names in placeholders, in order and with repeats. -/
def axes (command : String) : List String :=
  (segments command.toList).filterMap Segment.axis?

/-- The command with every placeholder replaced by the value bound to its axis. -/
def render (command : String) (b : Binding) : String :=
  String.ofList ((segments command.toList).flatMap (Segment.render b))

end JobMatrix.Placeholder
