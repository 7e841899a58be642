import WidgetMarkup.Yaml.Error
import WidgetMarkup.Yaml.Graph
import WidgetMarkup.Yaml.Scan

/-!
# From YAML tokens to nodes

The tokens of a text form a graph of nodes. A reference is to the node that its anchor names, which
may be one around it. A text holds one document at most.

Tokens are asked for one by one, and only as they are needed, so that the first thing that is wrong
is the one that counts.
-/
namespace WidgetMarkup.Yaml.Node

/-- What a document is read with. -/
structure Reading where
  rest : List Token
  /-- What goes wrong when the tokens are used up. -/
  failure : Error
  graph : Graph := #[]
  /-- The nodes that anchors name. -/
  anchors : List (String × NodeId) := []
  /-- What the tag handles expand to. -/
  handles : List (String × String) := []

abbrev ReadM := StateT Reading (Except Error)

def fail {α : Type} : ReadM α := throw .malformed

/-- The next token. -/
def peek : ReadM Token := do
  let r ← get
  match r.rest with
  | t :: _ => return t
  | [] => throw r.failure

def advance : ReadM Unit :=
  modify fun r => { r with rest := r.rest.tail }

/-- Takes a token if it comes next. -/
def take (t : Token) : ReadM Bool := do
  if (← peek) = t then advance; return true else return false

def expect (t : Token) : ReadM Unit := do
  unless ← take t do fail

/-- Whether one of some tokens comes next. -/
def nextIn (ts : List Token) : ReadM Bool := do
  return ts.contains (← peek)

/-- The anchor and the tag before a node. -/
structure Properties where
  anchor : Option String := none
  tag : Option String := none

def takeAnchor : ReadM (Option String) := do
  match ← peek with
  | .anchor name => advance; return some name
  | _ => return none

/-- A tag as it is written. -/
abbrev WrittenTag := Option String × String

def takeTag : ReadM (Option WrittenTag) := do
  match ← peek with
  | .tag handle suffix => advance; return some (handle, suffix)
  | _ => return none

/-- A tag in full. -/
def fullTag : WrittenTag → ReadM String
  | (none, suffix) => return suffix
  | (some handle, suffix) => do
    match (← get).handles.lookup handle with
    | some expansion => return expansion ++ suffix
    | none => fail

/-- Anchor and tag come in either order, each at most once. -/
def properties : ReadM Properties := do
  let (anchor, tag) ← do
    match ← takeAnchor with
    | some name => pure (some name, ← takeTag)
    | none =>
      match ← takeTag with
      | some tag => pure (← takeAnchor, some tag)
      | none => pure (none, none)
  return { anchor, tag := ← tag.mapM fullTag }

/-- Adds a node under its anchor. An anchor is given once. -/
def add (anchor : Option String) (node : Node) : ReadM NodeId := do
  let r ← get
  let id := r.graph.size
  match anchor with
  | none => set { r with graph := r.graph.push node }
  | some name =>
    if (r.anchors.lookup name).isSome then fail
    set { r with graph := r.graph.push node, anchors := (name, id) :: r.anchors }
  return id

/-- The collection is finished. -/
def complete (id : NodeId) (content : NodeContent) : ReadM NodeId := do
  modify fun r => { r with graph := r.graph.setContent id content }
  return id

/-- Nothing, where a node is left out. -/
def addEmpty : ReadM NodeId := add none .empty

def reference (name : String) : ReadM NodeId := do
  match (← get).anchors.lookup name with
  | some id => return id
  | none => fail

/-- The kind of a collection. -/
def collectionKind (tag : Option String) (usual : Kind) : Kind :=
  match tag with
  | none => usual
  | some tag => if tag = "!" then usual else .ofTag tag

/-- The kind of a scalar: by its tag; without one, or with the bare tag, by its text. -/
def scalarKind (tag : Option String) (plain : Bool) (text : String) : Kind :=
  match tag with
  | none => if plain then .ofText text else .str
  | some tag => if tag = "!" then .ofText text else .ofTag tag

/-- Adds a sequence without items. -/
def addSequence (p : Properties) : ReadM NodeId :=
  add p.anchor ⟨collectionKind p.tag .seq, .sequence []⟩

/-- Adds a mapping without entries. -/
def addMapping (p : Properties) : ReadM NodeId :=
  add p.anchor ⟨collectionKind p.tag .map, .mapping []⟩

mutual

/-- A node. Block collections are allowed in a block, and a sequence without indentation only after
a key or a colon. -/
def node : Nat → (block indentless : Bool) → ReadM NodeId
  | 0, _, _ => fail
  | fuel + 1, block, indentless => do
    match ← peek with
    | .reference name =>
      advance
      reference name
    | _ =>
      let p ← properties
      match ← peek with
      | .scalar s plain =>
        advance
        add p.anchor ⟨scalarKind p.tag plain s.text, .scalar s⟩
      | .flowSequenceStart =>
        let id ← addSequence p
        advance
        complete id (.sequence (← flowItems fuel true))
      | .flowMappingStart =>
        let id ← addMapping p
        advance
        complete id (.mapping (← flowEntries fuel true))
      | .blockSequenceStart =>
        unless block do fail
        let id ← addSequence p
        advance
        let items ← blockItems fuel [.blockEntry, .blockEnd]
        expect .blockEnd
        complete id (.sequence items)
      | .blockMappingStart =>
        unless block do fail
        let id ← addMapping p
        advance
        complete id (.mapping (← blockEntries fuel))
      | next =>
        if indentless && next = .blockEntry then
          let id ← addSequence p
          let items ← blockItems fuel [.blockEntry, .key, .value, .blockEnd]
          complete id (.sequence items)
        else if p.anchor.isSome || p.tag.isSome then
          add p.anchor ⟨scalarKind p.tag true "", .scalar ⟨"", none⟩⟩
        else fail

/-- A node, or nothing where one of some tokens comes next. -/
def nodeUnless : Nat → (ends : List Token) → (block indentless : Bool) → ReadM NodeId
  | 0, _, _, _ => fail
  | fuel + 1, ends, block, indentless => do
    if ← nextIn ends then addEmpty else node fuel block indentless

/-- The items of a block sequence. -/
def blockItems : Nat → (ends : List Token) → ReadM (List NodeId)
  | 0, _ => fail
  | fuel + 1, ends => do
    if ← take .blockEntry then
      let item ← nodeUnless fuel ends true false
      return item :: (← blockItems fuel ends)
    else return []

/-- The entries of a block mapping, up to its end. -/
def blockEntries : Nat → ReadM (List (NodeId × NodeId))
  | 0 => fail
  | fuel + 1 => do
    if ← take .key then
      let key ← nodeUnless fuel [.key, .value, .blockEnd] true true
      let value ←
        if ← take .value then nodeUnless fuel [.key, .value, .blockEnd] true true
        else addEmpty
      return (key, value) :: (← blockEntries fuel)
    else
      expect .blockEnd
      return []

/-- The items of a flow sequence, up to its end. A key with its value is a mapping of one entry. -/
def flowItems : Nat → (first : Bool) → ReadM (List NodeId)
  | 0, _ => fail
  | fuel + 1, first => do
    if ← take .flowSequenceEnd then return []
    else
      unless first do expect .flowEntry
      if ← take .flowSequenceEnd then return []
      else if ← take .key then
        let id ← addMapping {}
        let key ← nodeUnless fuel [.value, .flowEntry, .flowSequenceEnd] false false
        let value ←
          if ← take .value then nodeUnless fuel [.flowEntry, .flowSequenceEnd] false false
          else addEmpty
        let item ← complete id (.mapping [(key, value)])
        return item :: (← flowItems fuel false)
      else
        let item ← node fuel false false
        return item :: (← flowItems fuel false)

/-- The entries of a flow mapping, up to its end. A node alone is a key without a value. -/
def flowEntries : Nat → (first : Bool) → ReadM (List (NodeId × NodeId))
  | 0, _ => fail
  | fuel + 1, first => do
    if ← take .flowMappingEnd then return []
    else
      unless first do expect .flowEntry
      if ← take .flowMappingEnd then return []
      else if ← take .key then
        let key ← nodeUnless fuel [.value, .flowEntry, .flowMappingEnd] false false
        let value ←
          if ← take .value then nodeUnless fuel [.flowEntry, .flowMappingEnd] false false
          else addEmpty
        return (key, value) :: (← flowEntries fuel false)
      else
        let key ← node fuel false false
        let value ← addEmpty
        return (key, value) :: (← flowEntries fuel false)

end

/-- The handles that are there without a directive. -/
def standardHandles : List (String × String) := [("!", "!"), ("!!", Kind.standard)]

/-- The directives before a document: one version at most, and each handle once. -/
def directives : Nat → (versioned : Bool) → List (String × String) → ReadM (List (String × String))
  | 0, _, _ => fail
  | fuel + 1, versioned, handles => do
    match ← peek with
    | .directive d =>
      advance
      match d with
      | .version major _ =>
        if versioned || major != 1 then fail else directives fuel true handles
      | .handle name expansion =>
        if (handles.lookup name).isSome then fail
        else directives fuel versioned ((name, expansion) :: handles)
      | .unknown => directives fuel versioned handles
    | _ => return handles

/-- The start of a document that has a mark. -/
def explicitStart (fuel : Nat) : ReadM Unit := do
  let handles ← directives fuel false []
  expect .documentStart
  modify fun r => { r with handles := handles ++ standardHandles }

def isOutside : Token → Bool
  | .directive _ | .documentStart | .documentEnd | .streamEnd => true
  | _ => false

/-- Past the marks of a document's end. -/
def skipEnds : Nat → ReadM Unit
  | 0 => fail
  | fuel + 1 => do
    if ← take .documentEnd then skipEnds fuel

/-- The root of the only document, or none if there is no document. -/
def document (fuel : Nat) : ReadM (Option NodeId) := do
  let first ← peek
  if first = .streamEnd then return none
  let root ← do
    match first with
    | .directive _ | .documentStart =>
      explicitStart fuel
      if isOutside (← peek) then addEmpty else node fuel true false
    | _ =>
      modify fun r => { r with handles := standardHandles }
      node fuel true false
  skipEnds fuel
  unless (← peek) = .streamEnd do
    explicitStart fuel
    fail
  return some root

end WidgetMarkup.Yaml.Node

namespace WidgetMarkup.Yaml

/-- The nodes of the only document of a text and the root among them, if there is a document. -/
def Source.graph (source : Source) : Except Error (Graph × Option NodeId) := do
  let stream := source.tokens
  let reading : Node.Reading := { rest := stream.tokens, failure := stream.failure }
  let (root, r) ← (Node.document (4 * stream.tokens.length + 4)).run reading
  .ok (r.graph, root)

end WidgetMarkup.Yaml
