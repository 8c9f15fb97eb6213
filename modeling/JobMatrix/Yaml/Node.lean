import JobMatrix.Yaml.Token

/-!
# Nodes of a document

The tokens of a document form a tree of nodes. A tree is built as far as the tokens follow
the grammar; where they stop doing so it holds a `cut`, and every node around the cut ends
with it. Whoever reads the tree notices the broken text only when reaching the cut.

An alias holds the number of the anchor it names. Numbers count the distinct anchor names
met before, so a name that is anchored again shares the number of the next new name.
-/

namespace JobMatrix.Yaml

/-- A part of a document. -/
inductive Node
  | scalar (mark : Mark) (tag : Option String) (style : Style) (text : String)
  | sequence (mark : Mark) (tag : Option String) (items : List Node)
  | mapping (mark : Mark) (tag : Option String) (entries : List (Node × Node))
  | alias (mark : Mark) (anchor : Nat)
  /-- The place where the text breaks the grammar. -/
  | cut
  /-- The content of a text without documents. -/
  | absent
deriving Inhabited

namespace Node

/-- An anchored node: the order in which its anchor was met, the number of the anchor, and the node. -/
structure Anchored where
  order : Nat
  anchor : Nat
  node : Node
deriving Inhabited

/-- The state of building a tree. -/
structure Build where
  tokens : List Token
  /-- Whether the text has been found to break the grammar. -/
  broken : Bool
  /-- Numbers of the anchor names so far. -/
  names : List (String × Nat)
  /-- How many anchors have been met. -/
  met : Nat
  anchored : List Anchored
  /-- Expansions of the tag handles. -/
  handles : List (String × String)
  /-- How many scalars, aliases, starts and ends have been met. -/
  events : Nat
deriving Inhabited

/-- A computation over the state of building. -/
abbrev Builder := StateM Build

namespace Builder

/-- Marks the text as broken. -/
def fail : Builder Unit :=
  modify fun b => { b with broken := true }

/-- The next token. Running out of tokens breaks the text. -/
def peek : Builder (Option Token) := do
  let b ← get
  if b.broken then return none
  match b.tokens with
  | t :: _ => return some t
  | [] => fail; return none

/-- Goes past the next token. -/
def skip : Builder Unit :=
  modify fun b => { b with tokens := b.tokens.drop 1 }

/-- Counts a scalar, an alias, a start or an end. -/
def count : Builder Unit :=
  modify fun b => { b with events := b.events + 1 }

/-- Whether the next token is one of some kinds. -/
def nextIs (p : Token.Kind → Bool) : Builder Bool := do
  return (← peek).any fun t => p t.kind

/-- Gives a name the next anchor number, and counts the anchor. -/
def meet (name : String) : Builder (Nat × Nat) := do
  let b ← get
  let anchor := b.names.length
  let names := b.names.filter (·.1 != name)
  set { b with names := (name, anchor) :: names, met := b.met + 1 }
  return (b.met, anchor)

/-- Keeps an anchored node. -/
def keep (anchor : Option (Nat × Nat)) (node : Node) : Builder Unit :=
  match anchor with
  | none => pure ()
  | some (order, number) =>
    modify fun b => { b with anchored := ⟨order, number, node⟩ :: b.anchored }

/-- A scalar that is not written at all. -/
def emptyScalar (mark : Mark) : Builder Node := do
  count
  return .scalar mark none .plain ""

end Builder

open Builder

/-- What comes before the content of a node: where it starts, an anchor name and a tag. -/
structure Properties where
  start : Mark
  anchor : Option String
  tag : Option (String × String)

/-- Takes an anchor and a tag, in either order and each at most once. -/
def takeProperties (start : Mark) : Builder Properties := do
  match ← peek with
  | some ⟨.anchor name, _, _⟩ =>
    skip
    match ← peek with
    | some ⟨.tag handle suffix, _, _⟩ => skip; return ⟨start, some name, some (handle, suffix)⟩
    | _ => return ⟨start, some name, none⟩
  | some ⟨.tag handle suffix, _, _⟩ =>
    skip
    match ← peek with
    | some ⟨.anchor name, _, _⟩ => skip; return ⟨start, some name, some (handle, suffix)⟩
    | _ => return ⟨start, none, some (handle, suffix)⟩
  | _ => return ⟨start, none, none⟩

/-- The full tag of a handle and a suffix. An unknown handle breaks the text. -/
def resolveTag : Option (String × String) → Builder (Option String)
  | none => return none
  | some (handle, suffix) => do
    if handle.isEmpty then return some suffix
    match (← get).handles.find? (·.1 == handle) with
    | some (_, expansion) => return some (expansion ++ suffix)
    | none => fail; return none

/-- Whether a token can only stand after an entry of a block mapping. -/
def endsBlockPart : Token.Kind → Bool
  | .key | .value | .blockEnd => true
  | _ => false

mutual

/-- A node. Only in blocks may it be a block, and only as part of a block mapping may it be a sequence
whose dashes stand at the column of the mapping. -/
def build (inBlock indentless : Bool) : Nat → Builder Node
  | 0 => do fail; return .cut
  | fuel + 1 => do
    match ← peek with
    | none => return .cut
    | some ⟨.alias name, mark, _⟩ =>
      skip
      match (← get).names.find? (·.1 == name) with
      | some (_, anchor) => count; return .alias mark anchor
      | none => fail; return .cut
    | some first =>
      let properties ← takeProperties first.start
      if (← get).broken then return .cut
      let tag ← resolveTag properties.tag
      match ← peek with
      | none => return .cut
      | some t =>
        let mark := properties.start
        let anchored := properties.anchor
        match t.kind with
        | .entry =>
          if indentless then
            let anchor ← anchored.mapM meet
            count
            let items ← buildIndentless fuel
            let node := .sequence mark tag items
            keep anchor node
            return node
          else buildEmpty properties tag t
        | .scalar style text =>
          skip
          let anchor ← anchored.mapM meet
          count
          let node := .scalar mark tag style text
          keep anchor node
          return node
        | .flowSequence =>
          skip
          let anchor ← anchored.mapM meet
          count
          let items ← buildFlowItems true fuel
          let node := .sequence mark tag items
          keep anchor node
          return node
        | .flowMapping =>
          skip
          let anchor ← anchored.mapM meet
          count
          let entries ← buildFlowEntries true fuel
          let node := .mapping mark tag entries
          keep anchor node
          return node
        | .blockSequence =>
          if inBlock then
            skip
            let anchor ← anchored.mapM meet
            count
            let items ← buildItems fuel
            let node := .sequence mark tag items
            keep anchor node
            return node
          else buildEmpty properties tag t
        | .blockMapping =>
          if inBlock then
            skip
            let anchor ← anchored.mapM meet
            count
            let entries ← buildEntries fuel
            let node := .mapping mark tag entries
            keep anchor node
            return node
          else buildEmpty properties tag t
        | _ => buildEmpty properties tag t

/-- A node of nothing but an anchor or a tag. -/
def buildEmpty (properties : Properties) (tag : Option String) (_next : Token) : Builder Node := do
  if properties.anchor.isSome || tag.isSome then
    let anchor ← properties.anchor.mapM meet
    count
    let node := .scalar properties.start tag .plain ""
    keep anchor node
    return node
  else
    fail
    return .cut

/-- The items of a block sequence. -/
def buildItems : Nat → Builder (List Node)
  | 0 => do fail; return [.cut]
  | fuel + 1 => do
    match ← peek with
    | some ⟨.entry, _, stop⟩ =>
      skip
      let bare ← nextIs fun k => k == .entry || k == .blockEnd
      let item ← if bare then emptyScalar stop else build true false fuel
      return item :: (← buildItems fuel)
    | some ⟨.blockEnd, _, _⟩ => skip; count; return []
    | _ => fail; return [.cut]

/-- The items of a block sequence that is indented no further than the mapping around it. -/
def buildIndentless : Nat → Builder (List Node)
  | 0 => do fail; return [.cut]
  | fuel + 1 => do
    match ← peek with
    | some ⟨.entry, _, stop⟩ =>
      skip
      let bare ← nextIs fun k => k == .entry || endsBlockPart k
      let item ← if bare then emptyScalar stop else build true false fuel
      return item :: (← buildIndentless fuel)
    | some _ => count; return []
    | none => return [.cut]

/-- The entries of a block mapping. -/
def buildEntries : Nat → Builder (List (Node × Node))
  | 0 => do fail; return [(.cut, .cut)]
  | fuel + 1 => do
    match ← peek with
    | some ⟨.key, _, stop⟩ =>
      skip
      let bare ← nextIs endsBlockPart
      let key ← if bare then emptyScalar stop else build true true fuel
      let value ← buildValue fuel
      return (key, value) :: (← buildEntries fuel)
    | some ⟨.blockEnd, _, _⟩ => skip; count; return []
    | _ => fail; return [(.cut, .cut)]

/-- The value of an entry of a block mapping. -/
def buildValue : Nat → Builder Node
  | 0 => do fail; return .cut
  | fuel + 1 => do
    match ← peek with
    | none => return .cut
    | some ⟨.value, _, stop⟩ =>
      skip
      let bare ← nextIs endsBlockPart
      if bare then emptyScalar stop else build true true fuel
    | some t => emptyScalar t.start

/-- The items of a sequence in brackets. An item with a key is a mapping of one entry. -/
def buildFlowItems (first : Bool) : Nat → Builder (List Node)
  | 0 => do fail; return [.cut]
  | fuel + 1 => do
    match ← peek with
    | none => return [.cut]
    | some ⟨.flowSequenceEnd, _, _⟩ => skip; count; return []
    | some t =>
      if !first then
        if t.kind == .separator then skip else fail
      match ← peek with
      | none => return [.cut]
      | some ⟨.flowSequenceEnd, _, _⟩ => skip; count; return []
      | some ⟨.key, mark, _⟩ =>
        skip
        count
        let entry ← buildPair fuel
        return .mapping mark none [entry] :: (← buildFlowItems false fuel)
      | some _ =>
        let item ← build false false fuel
        return item :: (← buildFlowItems false fuel)

/-- The single entry of a mapping that is written as an item in brackets. A pair without a key gives up
the token in its place. -/
def buildPair : Nat → Builder (Node × Node)
  | 0 => do fail; return (.cut, .cut)
  | fuel + 1 => do
    match ← peek with
    | none => return (.cut, .cut)
    | some t =>
      let bare := t.kind == .value || t.kind == .separator || t.kind == .flowSequenceEnd
      let key ← if bare then do skip; emptyScalar t.stop else build false false fuel
      match ← peek with
      | none => return (key, .cut)
      | some ⟨.value, _, _⟩ =>
        skip
        match ← peek with
        | none => return (key, .cut)
        | some t =>
          let bare := t.kind == .separator || t.kind == .flowSequenceEnd
          let value ← if bare then emptyScalar t.start else build false false fuel
          count
          return (key, value)
      | some t =>
        let value ← emptyScalar t.start
        count
        return (key, value)

/-- The entries of a mapping in braces. -/
def buildFlowEntries (first : Bool) : Nat → Builder (List (Node × Node))
  | 0 => do fail; return [(.cut, .cut)]
  | fuel + 1 => do
    match ← peek with
    | none => return [(.cut, .cut)]
    | some ⟨.flowMappingEnd, _, _⟩ => skip; count; return []
    | some t =>
      if !first then
        if t.kind == .separator then skip else fail
      match ← peek with
      | none => return [(.cut, .cut)]
      | some ⟨.flowMappingEnd, _, _⟩ => skip; count; return []
      | some ⟨.key, _, _⟩ =>
        skip
        match ← peek with
        | none => return [(.cut, .cut)]
        | some t =>
          let bare := t.kind == .value || t.kind == .separator || t.kind == .flowMappingEnd
          let key ← if bare then emptyScalar t.start else build false false fuel
          let value ← buildFlowValue fuel
          return (key, value) :: (← buildFlowEntries false fuel)
      | some _ =>
        let key ← build false false fuel
        match ← peek with
        | none => return [(key, .cut)]
        | some t =>
          let value ← emptyScalar t.start
          return (key, value) :: (← buildFlowEntries false fuel)

/-- The value of an entry in braces that has a key token. -/
def buildFlowValue : Nat → Builder Node
  | 0 => do fail; return .cut
  | fuel + 1 => do
    match ← peek with
    | none => return .cut
    | some ⟨.value, _, _⟩ =>
      skip
      match ← peek with
      | none => return .cut
      | some t =>
        let bare := t.kind == .separator || t.kind == .flowMappingEnd
        if bare then emptyScalar t.start else build false false fuel
    | some t => emptyScalar t.start

end

/-! ## Documents -/

/-- The tag handles that every document knows. -/
def defaultHandles : List (String × String) := [("!", "!"), ("!!", "tag:yaml.org,2002:")]

/-- Takes the directives of a document. A second version, an unknown version or a handle that is given
twice breaks the text. -/
def takeDirectives : Nat → Bool → List (String × String) → Builder (List (String × String))
  | 0, _, handles => return handles
  | fuel + 1, versioned, handles => do
    match ← peek with
    | some ⟨.version major minor, _, _⟩ =>
      if versioned || major != 1 || (minor != 1 && minor != 2) then fail
      skip
      takeDirectives fuel true handles
    | some ⟨.tagHandle handle expansion, _, _⟩ =>
      if handles.any (·.1 == handle) then fail
      skip
      takeDirectives fuel versioned ((handle, expansion) :: handles)
    | _ => return handles

end Node

/-- The first document of a text. -/
structure Document where
  root : Node
  /-- Nodes by the numbers of their anchors. -/
  anchors : List (Nat × Node)
  /-- How many scalars, aliases, starts and ends the document has. -/
  events : Nat
  /-- Whether nothing comes after the document and nothing in it is broken. -/
  alone : Bool
deriving Inhabited

namespace Document

open Node Builder

/-- Whether a token stands before a document or after all of them. -/
def isOutside : Token.Kind → Bool
  | .version .. | .tagHandle .. | .documentStart | .documentEnd | .streamEnd => true
  | _ => false

/-- The content of a document, which is empty right before a marker. -/
def buildContent (fuel : Nat) : Builder Node := do
  match ← peek with
  | none => return .cut
  | some t => if isOutside t.kind then emptyScalar t.start else build true false fuel

/-- The first document, with the tokens after it left over. -/
def buildDocument (fuel : Nat) : Builder Node := do
  match ← peek with
  | none => return .cut
  | some ⟨.streamEnd, _, _⟩ => return .absent
  | some t =>
    if isOutside t.kind && t.kind != .documentEnd then
      let handles ← takeDirectives fuel false []
      modify fun b => { b with
        handles := handles ++ defaultHandles.filter fun d => !handles.any (·.1 == d.1) }
      match ← peek with
      | some ⟨.documentStart, _, _⟩ => skip; buildContent fuel
      | _ => fail; return .cut
    else build true false fuel

/-- Goes past end markers. -/
def skipEnds : Nat → Builder Unit
  | 0 => return
  | fuel + 1 => do
    if ← nextIs (· == .documentEnd) then
      skip
      skipEnds fuel

/-- The node that an anchor number stands for in the end: the last one to be anchored under it. -/
def resolveAnchors (anchored : List Anchored) : List (Nat × Node) :=
  (anchored.mergeSort fun a b => b.order ≤ a.order).map fun a => (a.anchor, a.node)

/-- The first document of a text. -/
def ofText (text : String) : Document :=
  let tokens := Token.ofText text
  let fuel := 4 * tokens.length + 16
  let start : Build := ⟨tokens, false, [], 0, [], defaultHandles, 0⟩
  let (root, b) := (buildDocument fuel).run start
  let (after, b) := (do skipEnds fuel; nextIs (· == .streamEnd) : Builder Bool).run b
  ⟨root, resolveAnchors b.anchored, b.events, after⟩

/-- The node that an anchor number stands for. -/
def anchor? (d : Document) (anchor : Nat) : Option Node :=
  (d.anchors.find? (·.1 == anchor)).map (·.2)

end Document

end JobMatrix.Yaml
