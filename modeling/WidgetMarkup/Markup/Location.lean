/-!
# Offsets and locations

A place in a text is an offset, counted in characters from 0, or a location, a line and a column
counted from 1. Only the line feed ends a line. The two are related by the offsets at which lines
start.

Offsets and lines outside the text have a meaning too, so that every question has an answer. An
offset before the text is on line 0, and its column is counted from the start of the last line. A
line below 1 is counted from the last line, which is line 0.
-/
namespace WidgetMarkup.Markup

structure Location where
  line : Int
  column : Int
deriving DecidableEq, Repr

/-- Offsets just after the line feeds of a text whose first character has the given offset. -/
def startsAfter (offset : Nat) : List Char → List Nat
  | [] => []
  | c :: s => if c = '\n' then (offset + 1) :: startsAfter (offset + 1) s
    else startsAfter (offset + 1) s

/-- The offset of the first character of every line. -/
def lineStarts (s : List Char) : List Nat :=
  0 :: startsAfter 0 s

/-- The start of the line with an index from 0; below 0 the lines are counted from the end. -/
def lineStart? (starts : List Nat) (index : Int) : Option Nat :=
  if 0 ≤ index then starts[index.toNat]?
  else if 0 ≤ starts.length + index then starts[(starts.length + index).toNat]?
  else none

/-- The location of an offset, given the line starts. -/
def locate (starts : List Nat) (offset : Int) : Location :=
  let line : Nat := starts.countP fun (start : Nat) => (start : Int) ≤ offset
  ⟨line, offset - ((lineStart? starts (line - 1)).getD 0 : Nat) + 1⟩

/-- The offset of a location, or nothing past the last line. -/
def offsetOf? (starts : List Nat) (l : Location) : Option Int :=
  (lineStart? starts (l.line - 1)).map fun start => start + l.column - 1

/-- The line of text that starts at an offset. -/
def lineAt (s : List Char) (start : Nat) : List Char :=
  (s.drop start).takeWhile (· ≠ '\n')

end WidgetMarkup.Markup
