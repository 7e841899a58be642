/-!
# A cursor in a YAML text

The scanner looks at the characters ahead and at the line and column it is in. The end of the text
looks like a null character, which no YAML text contains. Lines end at a line feed, a carriage
return, a next-line character or one of the two Unicode separators; a byte order mark takes no
column.
-/
namespace WidgetMarkup.Yaml

/-- The characters that a YAML text may contain. -/
def isAllowed (c : Char) : Bool :=
  let n := c.toNat
  n == 0x9 || n == 0xa || n == 0xd || (0x20 ≤ n && n ≤ 0x7e) || n == 0x85 ||
    (0xa0 ≤ n && n ≤ 0xfffd) || 0x10000 ≤ n

/-- What stands for the end of the text. -/
def endMark : Char := '\x00'

/-- Characters that end a line. -/
def isBreak (c : Char) : Bool :=
  c == '\n' || c == '\r' || c.toNat == 0x85 || c.toNat == 0x2028 || c.toNat == 0x2029

/-- The end of a line or of the text. -/
def endsLine (c : Char) : Bool :=
  c == endMark || isBreak c

/-- A space, or the end of a line or of the text. -/
def endsWord (c : Char) : Bool :=
  c == ' ' || endsLine c

/-- A space or a tab, or the end of a line or of the text. -/
def isSeparator (c : Char) : Bool :=
  c == '\t' || endsWord c

structure Cursor where
  rest : List Char
  index : Nat := 0
  line : Nat := 0
  column : Nat := 0

namespace Cursor

/-- The character some places ahead. -/
def peek (c : Cursor) (ahead : Nat := 0) : Char :=
  (c.rest[ahead]?).getD endMark

/-- One character on. -/
def next (c : Cursor) : Cursor :=
  match c.rest with
  | [] => c
  | ch :: rest =>
    let ends := if ch == '\r' then rest.head? != some '\n' else isBreak ch
    if ends then ⟨rest, c.index + 1, c.line + 1, 0⟩
    else if ch.toNat == 0xfeff then ⟨rest, c.index + 1, c.line, c.column⟩
    else ⟨rest, c.index + 1, c.line, c.column + 1⟩

/-- Some characters on. -/
def skip : Nat → Cursor → Cursor
  | 0, c => c
  | n + 1, c => skip n c.next

/-- The characters up to the first that does not satisfy a condition. -/
def taken (c : Cursor) (p : Char → Bool) : List Char :=
  c.rest.takeWhile p

/-- Past the characters that satisfy a condition. -/
def skipWhile (c : Cursor) (p : Char → Bool) : Cursor :=
  skip (c.taken p).length c

/-- Past spaces. -/
def skipSpaces (c : Cursor) : Cursor :=
  c.skipWhile (· == ' ')

/-- Past spaces, up to a column. -/
def skipIndent (c : Cursor) (column : Nat) : Cursor :=
  skip (min (c.taken (· == ' ')).length (column - c.column)) c

/-- The line break at the cursor as it counts in a scalar, and the cursor after it. The two Unicode
separators count as themselves, the others as a line feed. -/
def lineBreak (c : Cursor) : List Char × Cursor :=
  match c.rest with
  | '\r' :: '\n' :: _ => (['\n'], skip 2 c)
  | ch :: _ =>
    if ch.toNat == 0x2028 || ch.toNat == 0x2029 then ([ch], c.next)
    else if isBreak ch then (['\n'], c.next)
    else ([], c)
  | [] => ([], c)

/-- Past a comment, up to the end of its line. -/
def skipComment (c : Cursor) : Cursor :=
  if c.peek == '#' then c.skipWhile (!endsLine ·) else c

/-- Whether a marker of a document's start or end stands at the cursor. -/
def atDocumentMarker (c : Cursor) : Bool :=
  (['-', '-', '-'].isPrefixOf c.rest || ['.', '.', '.'].isPrefixOf c.rest) &&
    isSeparator (c.peek 3)

end Cursor

end WidgetMarkup.Yaml
