import WidgetMarkup.Yaml.Kind
import WidgetMarkup.Yaml.Token

/-!
# Graphs of YAML nodes

A node is a scalar, or a collection of nodes that are known by their numbers. References to anchors
make nodes shared, and a collection can be inside of itself.
-/
namespace WidgetMarkup.Yaml

/-- The number of a node. -/
abbrev NodeId := Nat

inductive NodeContent where
  | scalar (s : ScalarText)
  | sequence (items : List NodeId)
  | mapping (entries : List (NodeId × NodeId))
deriving Repr

structure Node where
  kind : Kind
  content : NodeContent
deriving Repr

/-- Nothing, where a node is left out. -/
def Node.empty : Node := ⟨.null, .scalar ⟨"", none⟩⟩

/-- Nodes by their numbers. -/
abbrev Graph := Array Node

namespace Graph

/-- The node of a number. -/
def node (g : Graph) (id : NodeId) : Node :=
  (g[id]?).getD .empty

def kind (g : Graph) (id : NodeId) : Kind :=
  (g.node id).kind

def content (g : Graph) (id : NodeId) : NodeContent :=
  (g.node id).content

def setKind (g : Graph) (id : NodeId) (kind : Kind) : Graph :=
  g.modify id fun n => { n with kind }

def setContent (g : Graph) (id : NodeId) (content : NodeContent) : Graph :=
  g.modify id fun n => { n with content }

end Graph

end WidgetMarkup.Yaml
