import WidgetMarkup.Json.Basic
import WidgetMarkup.Text.Quoted

/-!
# Diagnostics

Compilation goes on after a problem and records it: what it is, the tag that it concerns, and a
line and a column as far as they are known.
-/
namespace WidgetMarkup

/-- The two numbers of a position. -/
inductive Coordinate where
  | line
  | column
deriving DecidableEq, Repr

def Coordinate.label : Coordinate → String
  | line => "line"
  | column => "column"

/-- What can be wrong with a document that is still compiled. -/
inductive Problem where
  /-- There is text outside of any tag. -/
  | strayText (start : String)
  | positionWithoutValue
  | coordinateMissing (which : Coordinate)
  | coordinateNotNumber (which : Coordinate) (text : String)
  | genericsWithoutValue
deriving DecidableEq, Repr

def Problem.message : Problem → String
  | strayText start => "Text outside of a tag ignored: " ++ Text.quoted start
  | positionWithoutValue => "pug-line has no value"
  | coordinateMissing which => "pug-line has no " ++ which.label
  | coordinateNotNumber which text =>
    "pug-line " ++ which.label ++ " " ++ Text.quoted text ++ " is not a number"
  | genericsWithoutValue => "type has no value, no generics set"

structure Diagnostic where
  message : String
  tag : Option String := none
  line : Option Int := none
  column : Option Int := none
deriving DecidableEq, Repr

namespace Diagnostic

/-- A coordinate, or a question mark. -/
def showCoordinate : Option Int → String
  | some n => toString n
  | none => "?"

/-- The place of a problem, with a question mark for each part that is not known. An empty tag name
is not known either. -/
def location (d : Diagnostic) : String :=
  let tag := match d.tag with
    | some name => if name.isEmpty then "?" else name
    | none => "?"
  tag ++ "@" ++ showCoordinate d.line ++ ":" ++ showCoordinate d.column

/-- The line that a person sees. -/
def describe (d : Diagnostic) : String :=
  d.location ++ ": " ++ d.message

def toJson (d : Diagnostic) : Json :=
  .obj [("message", .str d.message), ("tag", .ofText? d.tag), ("line", .ofInt? d.line),
    ("column", .ofInt? d.column)]

end Diagnostic

end WidgetMarkup
