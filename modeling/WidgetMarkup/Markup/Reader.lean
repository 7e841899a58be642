import WidgetMarkup.Markup.Element
import WidgetMarkup.Markup.Token

/-!
# Reading a document

The tokens of a text are assembled into a tree with a stack of open tags. An end tag must name the
tag opened last, and every tag must be closed by the end of the text. Comments and declarations
leave no trace but this: the texts on both sides of one are two elements.

The first thing that is wrong, from left to right, is what is reported.
-/
namespace WidgetMarkup.Markup

/-- A tag whose end tag has not come yet, the text left where it starts, and the elements before it
in its parent, the last one first. -/
structure OpenTag where
  start : StartTag
  place : List Char
  before : List Element

/-- What has been assembled: the open tags, innermost first, and the elements read so far in the
innermost of them, the last one first. -/
structure Progress where
  opened : List OpenTag := []
  done : List Element := []

namespace Progress

def add (p : Progress) (e : Element) : Progress :=
  { p with done := e :: p.done }

/-- Takes in one token. Locations are found from the text that is left. -/
def step (location : List Char → Location) (p : Progress) (span : Span) :
    Except ReadError Progress :=
  match span.token with
  | .comment | .declaration => .ok p
  | .text data => .ok (p.add (.text data))
  | .startTag tag =>
    let spot := location span.start
    let start : StartTag :=
      { name := tag.name
        attributes := .ofWritten tag.attributes
        line := some spot.line
        column := some spot.column }
    if tag.closed then .ok (p.add (.tag start []))
    else .ok ⟨⟨start, span.start, p.done⟩ :: p.opened, []⟩
  | .endTag name =>
    match p.opened with
    | [] => .error (.fault ⟨.unexpectedEndTag name, span.start, span.rest⟩)
    | top :: outer =>
      if top.start.name = name then
        .ok ⟨outer, .tag top.start p.done.reverse :: top.before⟩
      else
        .error (.fault ⟨.mismatchedEndTag name top.start.name (location top.place).line,
          span.start, span.rest⟩)

/-- The roots, once the text has ended. -/
def finish (p : Progress) : Except ReadError (List Element) :=
  match p.opened with
  | [] => .ok p.done.reverse
  | top :: _ => .error (.fault ⟨.unclosedTag top.start.name, top.place, []⟩)

/-- Takes in all tokens of a scan. -/
def run (location : List Char → Location) (p : Progress) :
    List Span → Option ReadError → Except ReadError (List Element)
  | [], none => p.finish
  | [], some e => .error e
  | span :: spans, stop => do
    let p ← p.step location span
    p.run location spans stop

end Progress

/-- The location of the place in a text where a given text is left. -/
def locationLeft (source : List Char) : List Char → Location :=
  let starts := lineStarts source
  let length := source.length
  fun place => locate starts ((length - place.length : Nat) : Int)

/-- The root elements of a document. -/
def readChars (source : List Char) : Except ReadError (List Element) :=
  let s := scan source
  ({} : Progress).run (locationLeft source) s.spans s.stop

def read (source : String) : Except ReadError (List Element) :=
  readChars source.toList

end WidgetMarkup.Markup
