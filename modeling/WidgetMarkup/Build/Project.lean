import WidgetMarkup.Compile.Diagnostic
import WidgetMarkup.Disk.Path
import WidgetMarkup.Json.Basic
import WidgetMarkup.Markup.Element
import WidgetMarkup.Options.Basic
import WidgetMarkup.Widget.Document

/-!
# A project

What is known about the sources that are compiled together: at first where they are, and in the end
what has become of each of them. Things that are known of several sources are listed in the order of
the sources.
-/
namespace WidgetMarkup.Build

open Markup (Element)

/-- The sources of a project. -/
inductive Sources where
  /-- Names that someone gave, which nobody has looked up. -/
  | named (names : List String)
  /-- Files that were found. -/
  | found (files : List Path)
deriving DecidableEq, Repr

def Sources.texts : Sources → List String
  | named names => names
  | found files => files.map Path.text

/-- What a source is compiled to. -/
structure Result where
  widgets : List Widget
  diagnostics : List Diagnostic

/-- Whether a result has an encoding, given whether the class of text widgets has one. It makes no
difference to a result without text widgets. -/
def Result.encodes (r : Result) (o : Options) (encodesText : Bool) : Bool :=
  encodesText || !(r.widgets.flatMap Widget.within).any fun w => w.info.name = o.textWidget

structure Project where
  inputFolder : Option Path := none
  outputFolder : Option Path := none
  verbosity : Int := 1
  inputPattern : Option String := none
  optionsFile : Option String := none
  /-- Whether the folders and the sources have been looked up. -/
  checked : Bool := false
  sources : Sources := .found []
  options : Option Options := none
  /-- Whether the class of text widgets has an encoding. -/
  encodesText : Bool := true
  parsed : List (Path × List Element) := []
  imports : List (Path × List String) := []
  results : List (Path × Result) := []
  outputs : List Path := []

/-- The document that is written for a source. -/
def document (source : Path) (imports : List String) (r : Result) : Json :=
  .obj [
    ("source", .str source.name),
    ("imports", .arr (imports.map .str)),
    ("widgets", .arr (r.widgets.map Widget.toJson)),
    ("diagnostics", .arr (r.diagnostics.map Diagnostic.toJson))]

end WidgetMarkup.Build
