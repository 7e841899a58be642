import WidgetMarkup.Text.Numeral
import WidgetMarkup.Yaml.Cursor
import WidgetMarkup.Yaml.Error
import WidgetMarkup.Yaml.Token

/-!
# Anchors, tags and directives

An anchor names a node and a reference repeats it. A tag says what kind of value a node is; it is
written in full between `!<` and `>`, or as a handle and a suffix. Directives before a document
give the version and further handles.
-/
namespace WidgetMarkup.Yaml

open Text

def isNameChar (c : Char) : Bool :=
  c.isAlphanum || c == '-' || c == '_'

/-- Characters of the suffix of a tag; a percent sign starts an escape. -/
def isSuffixChar (c : Char) : Bool :=
  c.isAlphanum || "-;/?:@&=+$,_.!~*'()[]%".toList.contains c

/-- Characters that may follow the name of an anchor or a reference. -/
def endsName (c : Char) : Bool :=
  isSeparator c || "?:,]\x7d%@\x60".toList.contains c

/-- The name of an anchor or a reference, after its indicator. -/
def readName (c : Cursor) : Except Error (String × Cursor) :=
  let name := c.taken isNameChar
  let c := c.skip name.length
  if name.isEmpty || !endsName c.peek then .error .malformed else .ok (String.ofList name, c)

/-- Bytes written as percent signs with two hexadecimal digits each. -/
def escapedBytes : Nat → Cursor → Except Error (List UInt8 × Cursor)
  | 0, c => .ok ([], c)
  | fuel + 1, c =>
    if c.peek == '%' then do
      let digits := c.next.rest.take 2
      if digits.length == 2 && digits.all isHexDigit then
        let (bytes, c) ← escapedBytes fuel (c.skip 3)
        .ok (UInt8.ofNat (readHex digits) :: bytes, c)
      else .error .malformed
    else .ok ([], c)

/-- The suffix of a tag. -/
def suffixChars : Nat → Cursor → Except Error (List Char × Cursor)
  | 0, c => .ok ([], c)
  | fuel + 1, c =>
    if c.peek == '%' then do
      let (bytes, c) ← escapedBytes (c.rest.length + 1) c
      match String.fromUTF8? ⟨bytes.toArray⟩ with
      | none => .error .malformed
      | some s =>
        let (more, c) ← suffixChars fuel c
        .ok (s.toList ++ more, c)
    else if isSuffixChar c.peek then do
      let (more, c') ← suffixChars fuel c.next
      .ok (c.peek :: more, c')
    else .ok ([], c)

def readSuffix (c : Cursor) : Except Error (String × Cursor) := do
  if isSuffixChar c.peek then
    let (s, c) ← suffixChars (c.rest.length + 1) c
    .ok (String.ofList s, c)
  else .error .malformed

/-- A handle: an exclamation mark before a space, or a name between two of them. -/
def readHandle (c : Cursor) : Except Error (String × Cursor) :=
  if c.peek != '!' then .error .malformed
  else if c.peek 1 == ' ' then .ok ("!", c.next)
  else
    let name := c.next.taken isNameChar
    let after := c.next.skip name.length
    if after.peek == '!' then .ok (String.ofList ('!' :: name ++ ['!']), after.next)
    else .error .malformed

/-- A tag, read from its exclamation mark. -/
def readTag (c : Cursor) : Except Error (Token × Cursor) := do
  let (token, c) ←
    if c.peek 1 == '<' then do
      let (suffix, c) ← readSuffix (c.skip 2)
      if c.peek == '>' then .ok (Token.tag none suffix, c.next) else .error .malformed
    else if isSeparator (c.peek 1) then .ok (Token.tag none "!", c.next)
    else do
      let marked := (c.next.taken (!endsWord ·)).contains '!'
      let (handle, c) ← if marked then readHandle c else .ok ("!", c.next)
      let (suffix, c) ← readSuffix c
      .ok (Token.tag (some handle) suffix, c)
  if endsWord c.peek then .ok (token, c) else .error .malformed

/-- A part of a version. -/
def readVersionPart (c : Cursor) : Except Error (Nat × Cursor) :=
  let digits := c.taken Char.isDigit
  if digits.isEmpty then .error .malformed
  else
    match readNumeral digits with
    | .ok n => .ok (n, c.skip digits.length)
    | .error _ => .error (.scalar .outOfRange)

def readVersion (c : Cursor) : Except Error (Directive × Cursor) := do
  let (major, c) ← readVersionPart c.skipSpaces
  if c.peek != '.' then .error .malformed
  else
    let (minor, c) ← readVersionPart c.next
    if endsWord c.peek then .ok (.version major minor, c) else .error .malformed

def readHandleDirective (c : Cursor) : Except Error (Directive × Cursor) := do
  let (handle, c) ← readHandle c.skipSpaces
  if c.peek != ' ' then .error .malformed
  else
    let (expansion, c) ← readSuffix c.skipSpaces
    if endsWord c.peek then .ok (.handle handle expansion, c) else .error .malformed

/-- A directive, read from its percent sign to the end of its line. -/
def readDirective (c : Cursor) : Except Error (Directive × Cursor) := do
  let name := c.next.taken isNameChar
  let c := c.next.skip name.length
  if name.isEmpty || !endsWord c.peek then .error .malformed
  else
    let (directive, c) ←
      if name == "YAML".toList then readVersion c
      else if name == "TAG".toList then readHandleDirective c
      else .ok (Directive.unknown, c.skipWhile (!endsLine ·))
    let c := c.skipSpaces.skipComment
    if endsLine c.peek then .ok (directive, c.lineBreak.2) else .error .malformed

end WidgetMarkup.Yaml
