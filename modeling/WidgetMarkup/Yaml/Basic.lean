import WidgetMarkup.Yaml.Node
import WidgetMarkup.Yaml.Value

/-!
# Reading YAML

A text is read into tokens, these into nodes, and these into values. Values are looked into down to
some depth, because a collection can be inside of itself.
-/
namespace WidgetMarkup.Yaml

/-- The value of a YAML text down to some depth; one without a document has the value null. -/
def read (depth : Nat) (source : Source) : Except Error Data := do
  match ← source.graph with
  | (_, none) => .ok .null
  | (g, some root) =>
    let d ← Document.ofGraph g root
    .ok (d.unfold depth d.root)

end WidgetMarkup.Yaml
