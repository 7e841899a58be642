import WidgetMarkup.Yaml.Cursor
import WidgetMarkup.Yaml.Error

/-!
# Block scalars

A block scalar consists of the indented lines below its header, kept as they are (`|`) or folded
(`>`). The header may say how far the lines are indented, and whether the line breaks at the end are
dropped or all kept; otherwise the first line shows the indentation and one line break is kept.
-/
namespace WidgetMarkup.Yaml.Block

/-- What becomes of the line breaks at the end. -/
inductive Chomp where
  | strip
  | clip
  | keep
deriving DecidableEq, Repr

structure Header where
  chomp : Chomp := .clip
  increment : Option Nat := none

def chomp? (c : Char) : Option Chomp :=
  if c == '+' then some .keep else if c == '-' then some .strip else none

/-- The digit of an indentation indicator; zero is an error. -/
def increment? (c : Char) : Except Error (Option Nat) :=
  if '1' ≤ c ∧ c ≤ '9' then .ok (some (c.toNat - 0x30))
  else if c == '0' then .error .malformed
  else .ok none

/-- The two indicators, in either order. -/
def indicators (c : Cursor) : Except Error (Header × Cursor) :=
  match chomp? c.peek with
  | some chomp => do
    let c := c.next
    let increment ← increment? c.peek
    .ok ({ chomp, increment }, if increment.isSome then c.next else c)
  | none => do
    let increment ← increment? c.peek
    if increment.isNone then .ok ({}, c)
    else
      let c := c.next
      match chomp? c.peek with
      | some chomp => .ok ({ chomp, increment }, c.next)
      | none => .ok ({ increment }, c)

/-- The header, read up to the end of its line. -/
def header (c : Cursor) : Except Error (Header × Cursor) := do
  let (h, c) ← indicators c
  if !endsWord c.peek then .error .malformed
  else
    let c := c.skipSpaces.skipComment
    if endsLine c.peek then .ok (h, c.lineBreak.2) else .error .malformed

/-- Blank lines before the first line, the greatest column that their spaces reach, and the cursor
after them. -/
def leading : Nat → Nat → Cursor → List Char × Nat × Cursor
  | 0, reached, c => ([], reached, c)
  | fuel + 1, reached, c =>
    if c.peek == ' ' then
      let c := c.next
      leading fuel (max reached c.column) c
    else if isBreak c.peek then
      let (b, c) := c.lineBreak
      let (bs, reached, c) := leading fuel reached c
      (b ++ bs, reached, c)
    else ([], reached, c)

/-- Blank lines and the indentation of the line after them. -/
def breaks (indent : Nat) : Nat → Cursor → List Char × Cursor
  | 0, c => ([], c)
  | fuel + 1, c =>
    let c := c.skipIndent indent
    if isBreak c.peek then
      let (b, c) := c.lineBreak
      let (bs, c) := breaks indent fuel c
      (b ++ bs, c)
    else ([], c)

/-- Whether a character keeps its line from being folded. -/
def isSpace (c : Char) : Bool :=
  c == ' ' || c == '\t'

/-- What remains of the line breaks at the end, the first of them given apart. -/
def tail (chomp : Chomp) (first rest : List Char) : List Char :=
  match chomp with
  | .strip => []
  | .clip => first
  | .keep => first ++ rest

/-- The lines of a scalar, from a cursor that stands on the first of them if there is one. The
second argument is the blank lines just before. -/
def lines (folded : Bool) (chomp : Chomp) (indent : Nat) :
    Nat → List Char → Cursor → List Char × Cursor
  | 0, _, c => ([], c)
  | fuel + 1, before, c =>
    if c.column == indent && c.peek != endMark then
      let text := c.taken (!endsLine ·)
      let indented := isSpace c.peek
      let (b, c) := (c.skip text.length).lineBreak
      let (bs, c) := breaks indent (c.rest.length + 1) c
      if c.column == indent && c.peek != endMark then
        let joint :=
          if folded && b == ['\n'] && !indented && !isSpace c.peek then
            if bs.isEmpty then [' '] else []
          else b
        let (more, c) := lines folded chomp indent fuel bs c
        (before ++ text ++ joint ++ more, c)
      else (before ++ text ++ tail chomp b bs, c)
    else (tail chomp [] before, c)

/-- A block scalar, read from its indicator, inside of a block with the given indentation. -/
def read (folded : Bool) (parent : Int) (c : Cursor) : Except Error (String × Cursor) := do
  let (h, c) ← header c.next
  let least := max 1 (parent + 1).toNat
  let (before, indent, c) := match h.increment with
    | none =>
      let (before, reached, c) := leading (c.rest.length + 1) 0 c
      (before, max least reached, c)
    | some n =>
      let indent := least + n - 1
      let (before, c) := breaks indent (c.rest.length + 1) c
      (before, indent, c)
  let (text, c) := lines folded h.chomp indent (c.rest.length + 1) before c
  .ok (String.ofList text, c)

end WidgetMarkup.Yaml.Block
