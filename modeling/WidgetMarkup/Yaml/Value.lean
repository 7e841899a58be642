import WidgetMarkup.Yaml.Graph
import WidgetMarkup.Yaml.Scalar

/-!
# Values of YAML nodes

Every node gets its value once, however often it is referred to. A scalar gets it when a collection
around it is filled. A collection is there at once and is filled later, after those that were there
before it, so what counts among several things that are wrong is the one that lies least deep, and of
these the first.

A merge mark as a key takes the entries of another mapping, or of several; the mapping's own entries
come after them and win. A default mark as a key is a text from then on, also where it is referred to.
Keys have to be scalars.
-/
namespace WidgetMarkup.Yaml

/-- The value of a node: for a collection, its number. -/
inductive Value where
  | scalar (d : Data)
  | collection (id : NodeId)

/-- A collection that has been filled. -/
inductive Filled where
  | list (items : List Value)
  | pairs (items : List (Value × Value))
  | mapping (entries : List (Data × Value))
  | set (items : List Data)

structure Valuation where
  graph : Graph
  /-- The values of the nodes that have one. -/
  values : Array (Option Value) := Array.replicate graph.size none
  /-- Collections that are there and not filled, the last one first. -/
  waiting : List NodeId := []
  /-- The collections that are filled. -/
  filled : Array (Option Filled) := Array.replicate graph.size none

abbrev ValueM := StateT Valuation (Except Error)

namespace Valuation

def fail {α : Type} : ValueM α := throw .malformed

/-- The text of a scalar. A mapping stands for the scalar under its default mark. -/
def scalarText (g : Graph) : Nat → NodeId → Except Error ScalarText
  | 0, _ => .error (.scalar .endless)
  | fuel + 1, id =>
    match g.content id with
    | .scalar s => .ok s
    | .sequence _ => .error .malformed
    | .mapping entries =>
      match entries.find? fun e => g.kind e.1 = .defaultMark with
      | some (_, v) => scalarText g fuel v
      | none => .error .malformed

def isTimestampCollection (g : Graph) (id : NodeId) : Bool :=
  match g.kind id, g.content id with
  | .timestamp, .mapping _ => true
  | _, _ => false

/-- The value of a node that is said to be a scalar. -/
def scalarValue (g : Graph) (id : NodeId) : Except Error Data := do
  match g.kind id with
  | .merge | .defaultMark | .unknown => .error .malformed
  | kind =>
    let s ← scalarText g (g.size + 1) id
    if isTimestampCollection g id then .error (.scalar .collectedTimestamp)
    else Scalar.value kind id s

def isCollectionKind : Kind → Bool
  | .omap | .pairs | .set | .seq | .map => true
  | _ => false

/-- The value of a node. -/
def valueOf (id : NodeId) : ValueM Value := do
  let v ← get
  match (v.values[id]?).join with
  | some value => return value
  | none =>
    let isCollection := isCollectionKind (v.graph.kind id)
    let value ← if isCollection then pure (.collection id)
      else .scalar <$> scalarValue v.graph id
    set { v with
      values := v.values.setIfInBounds id (some value)
      waiting := if isCollection then id :: v.waiting else v.waiting }
    return value

abbrev MergeM := StateT Graph (Except Error)

mutual

/-- Replaces the merge marks of a mapping by the entries that they stand for, in the mappings that
are merged first. Each mark is removed before its entries are looked up. -/
def flatten : Nat → NodeId → MergeM Unit
  | 0, _ => throw .malformed
  | fuel + 1, id => do
    let merged ← flattenFrom fuel id 0
    match (← get).content id with
    | .mapping entries => modify (·.setContent id (.mapping (merged ++ entries)))
    | _ => return

/-- The entries that the merge marks of a mapping bring in, from an entry on. Default marks become
texts. -/
def flattenFrom : Nat → NodeId → Nat → MergeM (List (NodeId × NodeId))
  | 0, _, _ => throw .malformed
  | fuel + 1, id, position => do
    let g ← get
    match g.content id with
    | .mapping entries =>
      match entries[position]? with
      | none => return []
      | some (key, value) =>
        match g.kind key with
        | .merge =>
          set (g.setContent id (.mapping (entries.eraseIdx position)))
          let merged ← mergedEntries fuel value
          return merged ++ (← flattenFrom fuel id position)
        | .defaultMark =>
          set (g.setKind key .str)
          flattenFrom fuel id (position + 1)
        | _ => flattenFrom fuel id (position + 1)
    | _ => return []

/-- The entries of a mapping that is merged, or of several, of which the first wins. -/
def mergedEntries : Nat → NodeId → MergeM (List (NodeId × NodeId))
  | 0, _ => throw .malformed
  | fuel + 1, id => do
    match (← get).content id with
    | .mapping _ =>
      flatten fuel id
      match (← get).content id with
      | .mapping entries => return entries
      | _ => return []
    | .sequence items => mergedItems fuel items
    | .scalar _ => throw .malformed

/-- The entries of several mappings that are merged. -/
def mergedItems : Nat → List NodeId → MergeM (List (NodeId × NodeId))
  | 0, _ => throw .malformed
  | _, [] => return []
  | fuel + 1, id :: ids => do
    match (← get).content id with
    | .mapping _ =>
      flatten fuel id
      let first := (← get).content id
      let rest ← mergedItems fuel ids
      match first with
      | .mapping entries => return rest ++ entries
      | _ => return rest
    | _ => throw .malformed

end

/-- More steps than merging takes. -/
def mergeFuel (g : Graph) : Nat :=
  Nat.pow (g.size + 2) 4

/-- The entries of a mapping with all that is merged into it. -/
def flatEntries (id : NodeId) : ValueM (List (NodeId × NodeId)) := do
  let v ← get
  let (_, graph) ← (flatten (mergeFuel v.graph) id).run v.graph
  set { v with graph }
  match graph.content id with
  | .mapping entries => return entries
  | _ => fail

/-- The value of a key. -/
def keyOf (id : NodeId) : ValueM Data := do
  match ← valueOf id with
  | .scalar d => return d
  | .collection _ => fail

/-- The items of an ordered mapping: mappings of one entry each. -/
def pairOf (id : NodeId) : ValueM (Value × Value) := do
  match (← get).graph.content id with
  | .mapping [(k, v)] =>
    let key ← valueOf k
    return (key, ← valueOf v)
  | _ => fail

/-- The entries of a mapping, of which the last one for a key counts. -/
def entriesOf : List (NodeId × NodeId) → List (Data × Value) → ValueM (List (Data × Value))
  | [], known => return known
  | (k, v) :: rest, known => do
    let key ← keyOf k
    let value ← valueOf v
    entriesOf rest (Data.insertEntry key value known)

/-- What a collection is filled with. -/
def contentsOf (id : NodeId) : ValueM Filled := do
  let g := (← get).graph
  match g.kind id, g.content id with
  | .seq, .sequence items => return .list (← items.mapM valueOf)
  | .omap, .sequence items => return .pairs (← items.mapM pairOf)
  | .pairs, .sequence items => return .pairs (← items.mapM pairOf)
  | .map, .mapping _ => return .mapping (← entriesOf (← flatEntries id) [])
  | .set, .mapping _ => return .set ((← entriesOf (← flatEntries id) []).map (·.1))
  | _, _ => fail

def fill (id : NodeId) : ValueM Unit := do
  let contents ← contentsOf id
  modify fun v => { v with filled := v.filled.setIfInBounds id (some contents) }

/-- Fills all collections that wait, and those that come with them. -/
def fillAll : Nat → ValueM Unit
  | 0 => fail
  | fuel + 1 => do
    let v ← get
    if v.waiting.isEmpty then return
    set { v with waiting := [] }
    v.waiting.reverse.forM fill
    fillAll fuel

end Valuation

/-- The value of the root of a document, and the collections that it leads to. -/
structure Document where
  root : Value
  filled : Array (Option Filled)

namespace Document

def ofGraph (g : Graph) (root : NodeId) : Except Error Document := do
  let run : ValueM Value := do
    let value ← Valuation.valueOf root
    Valuation.fillAll (g.size + 2)
    return value
  let (value, v) ← run.run { graph := g }
  .ok ⟨value, v.filled⟩

/-- A value, looked into down to some depth. -/
def unfold (d : Document) : Nat → Value → Data
  | _, .scalar x => x
  | 0, .collection id =>
    match (d.filled[id]?).join with
    | some (.mapping _) => .folded .mapping
    | some (.set _) => .folded .set
    | _ => .folded .list
  | depth + 1, .collection id =>
    match (d.filled[id]?).join with
    | some (.list items) => .list (items.map (d.unfold depth))
    | some (.pairs items) =>
      .list (items.map fun (a, b) => .list [d.unfold depth a, d.unfold depth b])
    | some (.mapping entries) => .mapping (entries.map fun (k, v) => (k, d.unfold depth v))
    | some (.set items) => .set items
    | none => .folded .list

end Document

end WidgetMarkup.Yaml
