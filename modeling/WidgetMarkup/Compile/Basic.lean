import WidgetMarkup.Compile.Attribute
import WidgetMarkup.Options.Basic

/-!
# From elements to widgets

Every tag becomes one widget, and every line of text inside a tag becomes one text widget, in
document order. Lines are trimmed; empty lines and lines that start with two slashes are dropped.
What a tag contains becomes its last parameter, `children`, if it contains anything.

At the root there is no widget to hold text: blank text is dropped, other text is dropped with a
diagnostic.
-/
namespace WidgetMarkup.Compile

open Markup (Element StartTag)
open Text

/-- The lines of a text that become widgets, trimmed. -/
def contentLines (data : String) : List (List Char) :=
  ((pieces '\n' data.toList).map trim).filter fun line =>
    !line.isEmpty && !(['/', '/'].isPrefixOf line)

/-- A line of text as a widget. -/
def textWidget (o : Options) (line : List Char) : Traced Widget := do
  let decoded ← Traced.lift (decodeReferences line)
  return .mk
    { name := o.textWidget
      originalName := "text"
      constant := o.autoConstText && !decoded.contains '$' }
    [.mk { kind := .literal, resolved := true } (.text (String.ofList decoded))]

def textWidgets (o : Options) (data : String) : Traced (List Widget) :=
  .each (textWidget o) (contentLines data)

/-- The parameter that holds the content of a tag. -/
def childrenParam : List Widget → List Param
  | [] => []
  | children =>
    [.mk { kind := .widgets, name := some Widget.childrenName, resolved := true }
      (.list (children.map .widget))]

/-- The class name for a tag. -/
def className (o : Options) (name : String) : String :=
  Naming.pascalCase (o.resolve name)

/-- The widget of a tag, given how its content is compiled. -/
def tagWidget (o : Options) (start : StartTag) (content : Traced (List Widget)) :
    Traced Widget := do
  let name := className o start.name
  Traced.emit (.tag start.name name)
  let said ← classify start
  let children ← content
  return .mk
    { name
      originalName := start.name
      constant := start.attributes.contains constantAttribute
      generics := said.generics
      line := said.position.1
      column := said.position.2 }
    (said.params ++ childrenParam children)

mutual

/-- The widgets that an element becomes inside a tag. -/
def widgetsOf (o : Options) : Element → Traced (List Widget)
  | .text data => textWidgets o data
  | .tag start children => do
    let w ← tagWidget o start (contentWidgets o children)
    return [w]

/-- The widgets that the content of a tag becomes. -/
def contentWidgets (o : Options) : List Element → Traced (List Widget)
  | [] => pure []
  | e :: es => do
    let ws ← widgetsOf o e
    let vs ← contentWidgets o es
    return ws ++ vs

end

/-- The widget of a tag with its content. -/
def compileTag (o : Options) (start : StartTag) (children : List Element) : Traced Widget :=
  tagWidget o start (contentWidgets o children)

/-- How many characters of stray text a diagnostic shows. -/
def strayLimit : Nat := 40

/-- The widgets that an element becomes at the root. -/
def rootWidgets (o : Options) : Element → Traced (List Widget)
  | .tag start children => do
    let w ← compileTag o start children
    return [w]
  | .text data => do
    let shown := trim data.toList
    if shown.isEmpty then return []
    let p := Problem.strayText (String.ofList (shown.take strayLimit))
    Traced.emit (.problem ⟨p.message, none, none, none⟩)
    return []

def compileRoots (o : Options) (document : List Element) : Traced (List Widget) := do
  let groups ← Traced.each (rootWidgets o) document
  return groups.flatten

/-- Compiles a document. -/
def compile (o : Options) (document : List Element) : Traced (List Widget) := do
  Traced.emit (.started document.length)
  let body := compileRoots o document
  let widgets ← body
  Traced.emit (.finished widgets.length body.diagnostics.length)
  return widgets

end WidgetMarkup.Compile
