import WidgetMarkup.Text.Numeral
import WidgetMarkup.Yaml.Cursor
import WidgetMarkup.Yaml.Error
import WidgetMarkup.Yaml.Token

/-!
# Quoted scalars

Between single quotes every character stands for itself, and a quote is written twice. Between
double quotes a backslash starts an escape. Spaces around a line break are dropped; one line break
counts as a space, further ones as themselves.
-/
namespace WidgetMarkup.Yaml.Quoted

open Text

/-- Escapes of one character. -/
def escapes : List (Char × Nat) := [
  ('0', 0x0), ('a', 0x7), ('b', 0x8), ('t', 0x9), ('\t', 0x9), ('n', 0xa), ('v', 0xb), ('f', 0xc),
  ('r', 0xd), ('e', 0x1b), (' ', 0x20), ('"', 0x22), ('\\', 0x5c), ('/', 0x2f), ('N', 0x85),
  ('_', 0xa0), ('L', 0x2028), ('P', 0x2029)]

/-- Escapes of a code point by this many hexadecimal digits. -/
def numericEscapes : List (Char × Nat) := [('x', 2), ('u', 4), ('U', 8)]

/-- The character of a code point; surrogates are none. -/
def ofCode (n : Nat) : Except Error WideText :=
  if 0x7fffffff < n then .error (.scalar .overflow)
  else if 0x10ffff < n then .error (.scalar .outOfRange)
  else if 0xd800 ≤ n && n ≤ 0xdfff then .ok [.half n]
  else .ok [.char (Char.ofNat n)]

/-- Blank lines after a line break. A document marker must not come between the quotes. -/
def breaks : Nat → Cursor → Except Error (List Char × Cursor)
  | 0, c => .ok ([], c)
  | fuel + 1, c =>
    if c.atDocumentMarker then .error .malformed
    else
      let c := c.skipWhile fun ch => ch == ' ' || ch == '\t'
      if isBreak c.peek then do
        let (b, c) := c.lineBreak
        let (bs, c) ← breaks fuel c
        .ok (b ++ bs, c)
      else .ok ([], c)

/-- An escape, after its backslash. -/
def escape (c : Cursor) : Except Error (WideText × Cursor) :=
  match escapes.lookup c.peek with
  | some n => .ok ([.char (Char.ofNat n)], c.next)
  | none =>
    match numericEscapes.lookup c.peek with
    | some width => do
      let c := c.next
      let digits := c.rest.take width
      if digits.length == width && digits.all isHexDigit then
        let chunk ← ofCode (readHex digits)
        .ok (chunk, c.skip width)
      else .error .malformed
    | none =>
      if isBreak c.peek then do
        let c := c.lineBreak.2
        let (bs, c) ← breaks (c.rest.length + 1) c
        .ok (.ofChars bs, c)
      else .error .malformed

/-- Whether a character stands for itself between quotes of either kind. -/
def isOrdinary (c : Char) : Bool :=
  !(c == '\'' || c == '"' || c == '\\' || isSeparator c)

/-- Characters up to a space, a line break or the closing quote. -/
def word (double : Bool) : Nat → Cursor → Except Error (WideText × Cursor)
  | 0, c => .ok ([], c)
  | fuel + 1, c =>
    let text := c.taken isOrdinary
    let c := c.skip text.length
    let ch := c.peek
    let go (chunk : WideText) (c : Cursor) : Except Error (WideText × Cursor) := do
      let (more, c) ← word double fuel c
      .ok (.ofChars text ++ chunk ++ more, c)
    if !double && ch == '\'' && c.peek 1 == '\'' then go [.char '\''] (c.skip 2)
    else if (double && ch == '\'') || (!double && (ch == '"' || ch == '\\')) then
      go [.char ch] c.next
    else if double && ch == '\\' then do
      let (chunk, c) ← escape c.next
      go chunk c
    else .ok (.ofChars text, c)

/-- Spaces and line breaks. -/
def space (c : Cursor) : Except Error (List Char × Cursor) :=
  let spaces := c.taken fun ch => ch == ' ' || ch == '\t'
  let c := c.skip spaces.length
  if c.peek == endMark then .error .unclosed
  else if isBreak c.peek then do
    let (b, c) := c.lineBreak
    let (bs, c) ← breaks (c.rest.length + 1) c
    if b != ['\n'] then .ok (b ++ bs, c)
    else if bs.isEmpty then .ok ([' '], c)
    else .ok (bs, c)
  else .ok (spaces, c)

/-- Words and spaces up to the closing quote. -/
def words (double : Bool) : Nat → Cursor → Except Error (WideText × Cursor)
  | 0, _ => .error .malformed
  | fuel + 1, c => do
    let (first, c) ← word double (c.rest.length + 1) c
    if c.peek == (if double then '"' else '\'') then .ok (first, c.next)
    else
      let (between, c) ← space c
      let (more, c) ← words double fuel c
      .ok (first ++ .ofChars between ++ more, c)

/-- A quoted scalar, read from its opening quote. -/
def read (double : Bool) (c : Cursor) : Except Error (ScalarText × Cursor) := do
  let (text, c) ← words double (c.rest.length + 1) c.next
  .ok (⟨text.replaced, if text.isText then none else some text⟩, c)

end WidgetMarkup.Yaml.Quoted
