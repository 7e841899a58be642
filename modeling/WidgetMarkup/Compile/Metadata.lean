import WidgetMarkup.Compile.Traced
import WidgetMarkup.Markup.Element
import WidgetMarkup.Text.Blank
import WidgetMarkup.Text.Pieces

/-!
# Metadata in attributes

Two attributes say something about a widget and are no parameters of it. The attribute `pug-line`
holds a line and a column, separated by a comma; each is the integer at the start of its piece, and
anything after it is ignored. The attribute `type` holds type arguments separated by commas.
-/
namespace WidgetMarkup.Compile

open Markup (StartTag)
open Text

def positionAttribute : String := "pug-line"
def genericsAttribute : String := "type"
def constantAttribute : String := "const"

/-- Records a problem of a tag at a place. -/
def report (tag : String) (line column : Option Int) (p : Problem) : Traced Unit :=
  .emit (.problem ⟨p.message, some tag, line, column⟩)

/-- The digits of the integer at the start of a text and whether it is negative. -/
def leadingInteger? (s : List Char) : Option (Bool × List Char) :=
  let s := s.dropWhile isBlank
  let negative := s.head? == some '-'
  let digits := (if negative || s.head? == some '+' then s.tail else s).takeWhile isDecimalDigit
  if digits.isEmpty then none else some (negative, digits)

/-- One coordinate of a position, read from its piece of the attribute. -/
def readCoordinate (tag : StartTag) (which : Coordinate) :
    Option (List Char) → Traced (Option Int)
  | none => do
    report tag.name tag.line tag.column (.coordinateMissing which)
    return none
  | some piece =>
    match leadingInteger? piece with
    | none => do
      report tag.name tag.line tag.column (.coordinateNotNumber which (String.ofList piece))
      return none
    | some (negative, digits) => do
      let n ← Traced.lift (readNumeral digits)
      return some (if negative then -n else n)

/-- The line and the column that the position attribute holds. -/
def readPosition (tag : StartTag) : Option String → Traced (Option Int × Option Int)
  | none => do
    report tag.name tag.line tag.column .positionWithoutValue
    return (none, none)
  | some value => do
    let parts := pieces ',' value.toList
    let line ← readCoordinate tag .line (some (parts.headD []))
    let column ← readCoordinate tag .column parts[1]?
    return (line, column)

/-- The type arguments that the generics attribute holds. A missing or empty value is a problem,
placed at the position of the widget if its line is known and at the tag otherwise. -/
def readGenerics (tag : StartTag) (position : Option Int × Option Int) :
    Option String → Traced (Option (List String))
  | none => missing
  | some value =>
    if value.isEmpty then missing
    else return some ((pieces ',' value.toList).map fun p => String.ofList (trim p))
where
  missing : Traced (Option (List String)) := do
    let (line, column) := if position.1.isSome then position else (tag.line, tag.column)
    report tag.name line column .genericsWithoutValue
    return none

end WidgetMarkup.Compile
