import WidgetMarkup.Markup.Attributes

/-!
# The element tree

A document is a list of elements: tags, which hold further elements, and runs of text between them.
What the start tag says is kept apart from the content, since attributes are compiled without it.
Text is kept as written, with its character references.
-/
namespace WidgetMarkup.Markup

/-- What a start tag says, and where it stands if that is known. -/
structure StartTag where
  name : String
  attributes : Attributes := {}
  line : Option Int := none
  column : Option Int := none
deriving DecidableEq, Repr

inductive Element where
  | text (data : String)
  | tag (start : StartTag) (children : List Element)
deriving Repr

instance : Inhabited Element := ⟨.text ""⟩

end WidgetMarkup.Markup
