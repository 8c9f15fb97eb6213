import JobMatrix.Text.Quoted
import JobMatrix.Yaml.Resolution
import JobMatrix.Word

/-!
# Reading typed values from a document

A reader walks the nodes of a document in order and takes what it wants: texts, numbers,
lists, mappings with known fields, or any value. A node of another shape is reported with
the path to it. A document may nest 128 levels deep, and following aliases may not blow it
up more than a hundredfold.
-/

namespace JobMatrix.Yaml

open JobMatrix.Decimal

/-! ## Faults -/

/-- A step on the path to a node. -/
inductive PathStep
  | field (name : String)
  | index (n : Nat)
  /-- The value of a key that is not a scalar. -/
  | unknown
deriving DecidableEq

/-- The path to a node, last step first. -/
abbrev NodePath := List PathStep

/-- A path as shown; the path to the root is a dot. -/
def NodePath.render : NodePath → String
  | [] => "."
  | .field name :: parent => lead parent ++ name
  | .index n :: parent => NodePath.render parent ++ "[" ++ toString n ++ "]"
  | .unknown :: parent => lead parent ++ "?"
where
  lead (parent : NodePath) : String :=
    match parent with
    | [] => ""
    | parent => NodePath.render parent ++ "."

/-- What a reader met in place of what it wanted. -/
inductive Found
  | bool (b : Bool)
  | integer (n : Int)
  | float (x : Binary64)
  | text (s : String)
  | unit
  | list
  | mapping

/-- A number written out in full. -/
def positional : Binary64 → String
  | .nan => "NaN"
  | .infinite false => "inf"
  | .infinite true => "-inf"
  | .finite negative mantissa exponent => Layout.positional.renderFinite negative mantissa exponent

/-- How a message names what was met. -/
def Found.render : Found → String
  | .bool b => "boolean \x60" ++ (if b then "true" else "false") ++ "\x60"
  | .integer n =>
    let kind := if Word.fits n then "" else if n < 0 then " as i128" else " as u128"
    "integer \x60" ++ toString n ++ "\x60" ++ kind
  | .float x => "floating point \x60" ++ positional x ++ "\x60"
  | .text s => "string " ++ JobMatrix.Text.quoted s
  | .unit => "unit value"
  | .list => "sequence"
  | .mapping => "map"

/-- A key that stands in a mapping twice. -/
inductive RepeatedKey
  | null
  | bool (b : Bool)
  | number (n : Number)
  | text (s : String)
  | other

/-- How a node can fail to have the wanted shape. -/
inductive Misfit
  | missingField (name : String)
  | repeatedField (name : String)
  | repeatedKey (key : RepeatedKey)
  | wrongType (found : Found) (expected : String)
  | wrongValue (text : String) (expected : String)

/-- What a misfit says. -/
def Misfit.render : Misfit → String
  | .missingField name => "missing field \x60" ++ name ++ "\x60"
  | .repeatedField name => "duplicate field \x60" ++ name ++ "\x60"
  | .repeatedKey .null => "duplicate entry with null key"
  | .repeatedKey (.bool b) => "duplicate entry with key \x60" ++ (if b then "true" else "false") ++ "\x60"
  | .repeatedKey (.number n) => "duplicate entry with key " ++ n.render
  | .repeatedKey (.text s) => "duplicate entry with key " ++ JobMatrix.Text.quoted s
  | .repeatedKey .other => "duplicate entry in YAML map"
  | .wrongType found expected => "invalid type: " ++ found.render ++ ", expected " ++ expected
  | .wrongValue text expected =>
    "invalid value: string " ++ JobMatrix.Text.quoted text ++ ", expected " ++ expected

/-- The node that a misfit is reported for. -/
structure Place where
  path : NodePath
  mark : Mark

/-- Why a text could not be read. -/
inductive ReadFault
  /-- The text is no single document, names unknown anchors, or nests or repeats too much. -/
  | unreadable
  | misfit (misfit : Misfit) (place : Option Place)

namespace ReadFault

/-- The message of a fault, led by the path to the node. -/
def text : ReadFault → String
  | .unreadable => "not a readable document"
  | .misfit m none => m.render
  | .misfit m (some place) =>
    match place.path with
    | [] => m.render
    | path => path.render ++ ": " ++ m.render

/-- Where a fault is, unless that is the very start of the text. -/
def position : ReadFault → String
  | .misfit _ (some ⟨_, mark⟩) =>
    if mark.line = 0 ∧ mark.column = 0 then ""
    else " at line " ++ toString (mark.line + 1) ++ " column " ++ toString (mark.column + 1)
  | _ => ""

/-- A fault that is reported for a node unless it already has a place. -/
def placed (path : NodePath) (mark : Mark) : ReadFault → ReadFault
  | .misfit m none => .misfit m (some ⟨path, mark⟩)
  | f => f

end ReadFault

/-! ## Readers -/

/-- Where a reader stands. -/
structure Context where
  document : Document
  path : NodePath
  /-- How many more levels may be entered. -/
  depth : Nat

/-- A computation that may follow aliases, which are counted, and may fail. -/
abbrev Reader := ReaderT Context (StateT Nat (Except ReadFault))

namespace Reader

/-- Reports faults without a place for a node. -/
def placing {α : Type} (mark : Mark) (r : Reader α) : Reader α := fun context jumps =>
  match r context jumps with
  | .error f => .error (f.placed context.path mark)
  | .ok result => .ok result

/-- A misfit at the node being read. -/
def misfit {α : Type} (m : Misfit) : Reader α :=
  throw (.misfit m none)

/-- Reads one step further down the path. -/
def within {α : Type} (step : PathStep) (r : Reader α) : Reader α := fun context =>
  r { context with path := step :: context.path }

/-- Enters a list or a mapping. -/
def enter {α : Type} (r : Reader α) : Reader α := fun context =>
  match context.depth with
  | 0 => throw .unreadable
  | depth + 1 => r { context with depth := depth }

/-- The node that an alias leads to; any other node as it is. -/
def resolve (node : Node) : Reader Node := do
  match node with
  | .alias _ anchor =>
    let context ← read
    let jumps ← get
    if 100 * context.document.events < jumps + 1 then throw .unreadable
    set (jumps + 1)
    match context.document.anchor? anchor with
    | some target => return target
    | none => throw .unreadable
  | node => return node

/-- What a node is when it is not what was wanted. -/
def refuse {α : Type} (node : Node) (expected : String) : Reader α :=
  match node with
  | .scalar _ tag style text =>
    match Meaning.ofScalar tag style text with
    | .null => misfit (.wrongType .unit expected)
    | .bool b => misfit (.wrongType (.bool b) expected)
    | .integer n => misfit (.wrongType (.integer n) expected)
    | .float x => misfit (.wrongType (.float x) expected)
    | .text s => misfit (.wrongType (.text s) expected)
    | .mistagged text wanted => misfit (.wrongValue text wanted)
  | .sequence .. => misfit (.wrongType .list expected)
  | .mapping .. => misfit (.wrongType .mapping expected)
  | _ => throw .unreadable

/-- Where a node starts. -/
def markOf : Node → Mark
  | .scalar mark .. | .sequence mark .. | .mapping mark .. | .alias mark .. => mark
  | _ => default

/-- The text of any scalar. -/
def text (expected : String) (node : Node) : Reader String := do
  let node ← resolve node
  placing (markOf node) do
    match node with
    | .scalar _ _ _ text => return text
    | node => refuse node expected

/-- Whether a scalar may be read as a value of a kind: if it is plain, or a literal block that is tagged as
that kind. -/
def isBare (kind : String) (tag : Option String) (style : Style) : Bool :=
  style == .plain || (style == .literal && tag == some (Meaning.coreTag kind))

/-- A boolean. -/
def bool (node : Node) : Reader Bool := do
  let node ← resolve node
  placing (markOf node) do
    match node with
    | .scalar _ tag style text =>
      match (if isBare "bool" tag style then Meaning.bool? text else none) with
      | some b => return b
      | none => refuse node "a boolean"
    | node => refuse node "a boolean"

/-- An integer of 64 bits from zero up. -/
def unsigned (expected : String) (node : Node) : Reader Nat := do
  let node ← resolve node
  placing (markOf node) do
    match node with
    | .scalar _ tag style text =>
      match (if isBare "int" tag style then Meaning.unsigned? text.toList else none).filter (· < Word.bound) with
      | some n => return n
      | none => refuse node expected
    | node => refuse node expected

/-- A value that may be null. The node is read if it is not. -/
def optional {α : Type} (r : Node → Reader α) (node : Node) : Reader (Option α) := do
  match ← resolve node with
  | .scalar mark tag .plain text =>
    match tag with
    | some tag =>
      if tag = Meaning.coreTag "null" then
        if Meaning.isNull text then return none else misfit (.wrongValue text "null")
      else some <$> r (.scalar mark (some tag) .plain text)
    | none =>
      if text.isEmpty || Meaning.isNull text then return none
      else some <$> r (.scalar mark none .plain text)
  | .absent => return none
  | .cut => throw .unreadable
  | node => some <$> r node

/-- Items read in order, from the one at `index` on. -/
def items {α : Type} (r : Node → Reader α) : Nat → List Node → Reader (List α)
  | _, [] => return []
  | index, node :: rest => do
    if let .cut := node then throw .unreadable
    let item ← within (.index index) (r node)
    return item :: (← items r (index + 1) rest)

/-- Whether a node reads as an empty list or mapping: a scalar that is not written, or nothing at all. -/
def isUnwritten : Node → Bool
  | .scalar _ _ .plain text => text.isEmpty
  | .absent => true
  | _ => false

/-- A list. -/
def list {α : Type} (r : Node → Reader α) (node : Node) : Reader (List α) := do
  let node ← resolve node
  placing (markOf node) do
    match node with
    | .sequence _ _ nodes => enter (items r 0 nodes)
    | node => if isUnwritten node then return [] else refuse node "a sequence"

/-- The path step to the value of a key. -/
def stepTo : Node → PathStep
  | .scalar _ _ _ text => .field text
  | _ => .unknown

/-- Goes through the entries of a mapping in order. -/
def eachEntry {σ : Type} (r : σ → Node → Node → Reader σ) : σ → List (Node × Node) → Reader σ
  | s, [] => return s
  | s, (key, value) :: rest => do
    if let .cut := key then throw .unreadable
    eachEntry r (← r s key value) rest

/-- A mapping, gone through entry by entry. -/
def entries {σ : Type} (expected : String) (start : σ) (r : σ → Node → Node → Reader σ) (node : Node) :
    Reader σ := do
  let node ← resolve node
  placing (markOf node) do
    match node with
    | .mapping _ _ es => enter (eachEntry r start es)
    | node => if isUnwritten node then return start else refuse node expected

/-- Whether a node and everything in it is there. -/
def isWhole : Node → Bool
  | .cut => false
  | .sequence _ _ items => wholeItems items
  | .mapping _ _ entries => wholeEntries entries
  | _ => true
where
  wholeItems : List Node → Bool
    | [] => true
    | n :: ns => isWhole n && wholeItems ns
  wholeEntries : List (Node × Node) → Bool
    | [] => true
    | (k, v) :: rest => isWhole k && isWhole v && wholeEntries rest

/-- Passes over a node. -/
def ignore (node : Node) : Reader Unit :=
  if isWhole node then return else throw .unreadable

/-- A mapping with known fields. A field may be known by several names; the first is the one that
messages use. Other keys are passed over, and no field may come twice. -/
def record {σ : Type} (expected : String) (start : σ) (fieldOf : String → Option String)
    (isSet : σ → String → Bool) (readField : σ → String → Node → Reader σ)
    (finish : σ → Reader α) (node : Node) : Reader α := do
  let node ← resolve node
  placing (markOf node) do
    let s ← entries expected start readEntry node
    finish s
where
  readEntry (s : σ) (key value : Node) : Reader σ := do
    let name ← text "field identifier" key
    match fieldOf name with
    | none => within (stepTo key) (ignore value); return s
    | some field =>
      if isSet s field then misfit (.repeatedField field)
      within (stepTo key) (readField s field value)

/-- A field that has to be there. -/
def required {α : Type} (name : String) : Option α → Reader α
  | some a => return a
  | none => misfit (.missingField name)

/-! ## Any value -/

/-- The value that a scalar without a local tag stands for. -/
def scalarValue (tag : Option String) (style : Style) (text : String) : Reader Value :=
  match Meaning.ofScalar tag style text with
  | .null => return .null
  | .bool b => return .bool b
  | .integer n =>
    if Word.fits n then return .number (.integer n)
    else misfit (.wrongType (.integer n) "any YAML value")
  | .float x => return .number (.float x)
  | .text s => return .text s
  | .mistagged text wanted => misfit (.wrongValue text wanted)

/-- How a repeated key is named. -/
def repeatedKey : Value → RepeatedKey
  | .null => .null
  | .bool b => .bool b
  | .number n => .number n
  | .text s => .text s
  | _ => .other

/-- The name of a local tag; a lone `!` is a name of its own. -/
def localName (tag : String) : String :=
  let name := String.ofList (tag.toList.drop 1)
  if name.isEmpty then tag else name

/-- An entry of a mapping of any values. -/
def anyEntry (r : Node → Reader Value) (taken : List (Value × Value)) (key value : Node) :
    Reader (List (Value × Value)) := do
  let k ← r key
  if taken.any fun (k', _) => k.same k' then misfit (.repeatedKey (repeatedKey k))
  let v ← within (stepTo key) (r value)
  return (k, v) :: taken

/-- Any value, down to a depth of nodes. -/
def anyTo : Nat → Node → Reader Value
  | 0, _ => throw .unreadable
  | fuel + 1, node => do
    let node ← resolve node
    placing (markOf node) do
      match node with
      | .scalar _ (some tag) style text =>
        if Meaning.isLocal tag then return .tagged (localName tag) (← scalarValue none style text)
        else scalarValue (some tag) style text
      | .scalar _ none style text => scalarValue none style text
      | .sequence _ tag nodes => tagging tag (Value.list <$> enter (items (anyTo fuel) 0 nodes))
      | .mapping _ tag es =>
        tagging tag ((fun taken => Value.mapping taken.reverse) <$>
          enter (eachEntry (anyEntry (anyTo fuel)) [] es))
      | .absent => return .null
      | _ => throw .unreadable
where
  tagging (tag : Option String) (r : Reader Value) : Reader Value := do
    match tag with
    | none => r
    | some tag => if Meaning.isLocal tag then return .tagged (localName tag) (← r) else r

/-- The greatest depth of a document. -/
def maxDepth : Nat := 128

/-- Any value. -/
def any (node : Node) : Reader Value := anyTo (maxDepth + 2) node

/-- A mapping of any values in the order of its keys. -/
def anyMapping (node : Node) : Reader (List (Value × Value)) :=
  List.reverse <$> entries "a YAML mapping" [] (anyEntry any) node

/-- Reads the only document of a text. -/
def run {α : Type} (r : Node → Reader α) (text : String) : Except ReadFault α :=
  let document := Document.ofText text
  match r document.root { document, path := [], depth := maxDepth } 0 with
  | .error fault => .error fault
  | .ok (a, _) => if document.alone then .ok a else .error .unreadable

end Reader

end JobMatrix.Yaml
