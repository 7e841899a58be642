import WidgetMarkup.Json.Basic
import WidgetMarkup.Text.Quoted

/-!
# Writing JSON

A document is written on one line, or with every item on a line of its own. Strings keep all
characters but the quote, the backslash and the controls below the space, which are escaped.
-/
namespace WidgetMarkup.Json

/-- How a document is laid out. -/
inductive Layout where
  | line
  /-- Items on lines of their own, indented by this many spaces for each level. -/
  | lines (indent : Nat)
deriving DecidableEq, Repr

/-- The layout for an indentation that may be negative; 0 asks for a single line, and a negative one
for lines without indentation. -/
def Layout.ofIndent (n : Int) : Layout :=
  if n = 0 then .line else .lines n.toNat

def escapeChar (c : Char) : List Char :=
  if c == '"' || c == '\\' then ['\\', c]
  else if c == '\n' then ['\\', 'n']
  else if c == '\r' then ['\\', 'r']
  else if c == '\t' then ['\\', 't']
  else if c.toNat == 0x8 then ['\\', 'b']
  else if c.toNat == 0xc then ['\\', 'f']
  else if c.toNat < 0x20 then '\\' :: 'u' :: Text.hexDigits 4 c.toNat
  else [c]

def renderString (s : String) : String :=
  String.ofList ('"' :: s.toList.flatMap escapeChar ++ ['"'])

/-- What stands before an item at the given level. -/
def Layout.break : Layout → Nat → String
  | line, _ => ""
  | lines indent, level => String.ofList ('\n' :: List.replicate (indent * level) ' ')

/-- What stands between two items at the given level. -/
def Layout.separator : Layout → Nat → String
  | line, _ => ", "
  | lines indent, level => "," ++ (lines indent).break level

/-- Items between brackets; without items the brackets stand next to each other. -/
def Layout.enclose (layout : Layout) (level : Nat) (opening closing : String)
    (items : List String) : String :=
  if items.isEmpty then opening ++ closing
  else opening ++ layout.break (level + 1) ++
    String.intercalate (layout.separator (level + 1)) items ++ layout.break level ++ closing

mutual

/-- The text of a value whose items are one level deeper than the given one. -/
def renderAt (layout : Layout) (level : Nat) : Json → String
  | .null => "null"
  | .bool b => if b then "true" else "false"
  | .int n => toString n
  | .str s => renderString s
  | .arr items => layout.enclose level "[" "]" (renderItems layout (level + 1) items)
  | .obj fields => layout.enclose level "\x7b" "\x7d" (renderFields layout (level + 1) fields)

def renderItems (layout : Layout) (level : Nat) : List Json → List String
  | [] => []
  | v :: vs => renderAt layout level v :: renderItems layout level vs

def renderFields (layout : Layout) (level : Nat) : List (String × Json) → List String
  | [] => []
  | (key, v) :: fields =>
    (renderString key ++ ": " ++ renderAt layout level v) :: renderFields layout level fields

end

/-- The text of a document, without a line feed at the end. -/
def render (layout : Layout) (v : Json) : String :=
  renderAt layout 0 v

end WidgetMarkup.Json
