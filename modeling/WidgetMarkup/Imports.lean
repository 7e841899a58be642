import WidgetMarkup.Markup.Element

/-!
# Imports

A tag named `import` at the root of a document says which files the generated code needs. Such tags
are taken out before compiling. A package comes with the scheme `package:`; all packages come before
all files. Imports inside other tags are ordinary tags.
-/
namespace WidgetMarkup

open Markup (Element StartTag)

namespace Imports

/-- The import tag that an element is. -/
def importTag? : Element → Option StartTag
  | .tag start _ => if start.name = "import" then some start else none
  | .text _ => none

/-- The value of an attribute, unless it is missing or empty. -/
def attributeText? (start : StartTag) (name : String) : Option String :=
  match start.attributes.find? name with
  | some (some value) => if value.isEmpty then none else some value
  | _ => none

/-- What a document imports, and its other elements. -/
structure Split where
  imports : List String
  elements : List Element

def split (document : List Element) : Split :=
  let tags := document.filterMap importTag?
  { imports :=
      (tags.filterMap (attributeText? · "package")).map ("package:" ++ ·) ++
        tags.filterMap (attributeText? · "file")
    elements := document.filter fun e => (importTag? e).isNone }

/-- Takes the imports out of a document that is kept in a state: the other elements stay there. -/
def extract : StateM (List Element) (List String) := do
  let parts := split (← get)
  set parts.elements
  return parts.imports

end Imports

end WidgetMarkup
