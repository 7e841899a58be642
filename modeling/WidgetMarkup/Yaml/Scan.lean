import WidgetMarkup.Yaml.Block
import WidgetMarkup.Yaml.Plain
import WidgetMarkup.Yaml.Quoted
import WidgetMarkup.Yaml.Tag

/-!
# From a YAML text to its tokens

Indentation opens and closes block collections. Whether a scalar or a bracketed collection is a key
shows only at the colon after it, so the place of a token that may become a key is remembered, one
place for every level of brackets, and the key token is put there when the colon comes. Such a key
stays on one line and within 1024 characters.
-/
namespace WidgetMarkup.Yaml

/-- The place of a token that may be a key. -/
structure KeyPlace where
  /-- How many tokens come before it. -/
  slot : Nat
  /-- Whether nothing but a key may stand there. -/
  required : Bool
  index : Nat
  line : Nat
  column : Nat

structure Scan where
  cursor : Cursor
  tokens : Array Token := #[]
  /-- The column of the innermost block collection. -/
  indent : Int := -1
  /-- The columns of those around it, from the inside. -/
  indents : List Int := []
  /-- The possible key of this level of brackets. -/
  key : Option KeyPlace := none
  /-- Those of the levels around it, from the inside. -/
  outer : List (Option KeyPlace) := []
  /-- Whether a key may start here. -/
  keyAllowed : Bool := true

namespace Scan

/-- The most characters that a key without a mark may have. -/
def keyLimit : Nat := 1024

def inFlow (s : Scan) : Bool :=
  !s.outer.isEmpty

def emit (s : Scan) (t : Token) : Scan :=
  { s with tokens := s.tokens.push t }

/-- Past spaces, comments and line breaks. In a block, a key may start after a line break. -/
def skipBlank : Nat → Scan → Scan
  | 0, s => s
  | fuel + 1, s =>
    let c := s.cursor.skipSpaces.skipComment
    if isBreak c.peek then
      skipBlank fuel
        { s with cursor := c.lineBreak.2, keyAllowed := s.keyAllowed || !s.inFlow }
    else { s with cursor := c }

/-- A possible key that lies too far back is none; a required one is then missing its colon. -/
def keepKey (c : Cursor) : Option KeyPlace → Except Error (Option KeyPlace)
  | none => .ok none
  | some k =>
    if k.line != c.line || keyLimit < c.index - k.index then
      if k.required then .error .malformed else .ok none
    else .ok (some k)

def dropStaleKeys (s : Scan) : Except Error Scan := do
  let key ← keepKey s.cursor s.key
  let outer ← s.outer.mapM (keepKey s.cursor)
  .ok { s with key, outer }

/-- The possible key of this level is none. -/
def dropKey (s : Scan) : Except Error Scan :=
  if s.key.any (·.required) then .error .malformed else .ok { s with key := none }

/-- The token that comes next may be a key. -/
def saveKey (s : Scan) : Except Error Scan :=
  if s.keyAllowed then do
    let s ← s.dropKey
    let c := s.cursor
    let required := !s.inFlow && s.indent == c.column
    .ok { s with key := some ⟨s.tokens.size, required, c.index, c.line, c.column⟩ }
  else .ok s

/-- Closes the blocks that are indented further than a column. -/
def closeBlocks (column : Int) : List Int → Scan → Scan
  | [], s => s
  | outer :: indents, s =>
    if column < s.indent then
      closeBlocks column indents { s.emit .blockEnd with indent := outer, indents }
    else s

def unwind (s : Scan) (column : Int) : Scan :=
  if s.inFlow then s else closeBlocks column s.indents s

/-- Opens a block at a column, if it lies further in; its start token comes after some others. -/
def openBlock (s : Scan) (column slot : Nat) (start : Token) : Scan :=
  if s.indent < column then
    { s with indents := s.indent :: s.indents, indent := column,
             tokens := s.tokens.insertIdxIfInBounds slot start }
  else s

/-- Opens a block where the cursor stands. A mark of a block has to stand where a key may start. -/
def openBlockHere (s : Scan) (start : Token) : Except Error Scan :=
  if s.inFlow then .ok s
  else if s.keyAllowed then .ok (s.openBlock s.cursor.column s.tokens.size start)
  else .error .malformed

/-- A token of some characters. -/
def mark (s : Scan) (width : Nat) (t : Token) : Scan :=
  { s.emit t with cursor := s.cursor.skip width }

/-- Directives and document markers end all blocks. -/
def endBlocks (s : Scan) : Except Error Scan := do
  let s ← (s.unwind (-1)).dropKey
  .ok { s with keyAllowed := false }

def openFlow (s : Scan) (t : Token) : Except Error Scan := do
  let s ← s.saveKey
  .ok { s.mark 1 t with outer := s.key :: s.outer, key := none, keyAllowed := true }

/-- A closing bracket; there has to be an opening one. -/
def closeFlow (s : Scan) (t : Token) : Except Error Scan := do
  let s ← s.dropKey
  match s.outer with
  | [] => .error .malformed
  | key :: outer => .ok { s.mark 1 t with outer, key, keyAllowed := false }

def blockEntry (s : Scan) : Except Error Scan := do
  let s ← s.openBlockHere .blockSequenceStart
  let s ← s.dropKey
  .ok { s.mark 1 .blockEntry with keyAllowed := true }

def explicitKey (s : Scan) : Except Error Scan := do
  let s ← s.openBlockHere .blockMappingStart
  let s ← s.dropKey
  .ok { s.mark 1 .key with keyAllowed := !s.inFlow }

/-- A colon makes the possible key a key; without one, it stands for an empty key. -/
def value (s : Scan) : Except Error Scan :=
  match s.key with
  | some k =>
    let s := { s with key := none, tokens := s.tokens.insertIdxIfInBounds k.slot .key }
    let s := if s.inFlow then s else s.openBlock k.column k.slot .blockMappingStart
    .ok { s.mark 1 .value with keyAllowed := false }
  | none => do
    let s ← s.openBlockHere .blockMappingStart
    .ok { s.mark 1 .value with keyAllowed := !s.inFlow }

/-- A token that may be a key, and that no key may follow. -/
def keyLike (s : Scan) (read : Cursor → Except Error (Token × Cursor)) : Except Error Scan := do
  let s ← s.saveKey
  let (token, cursor) ← read s.cursor
  .ok { s.emit token with cursor, keyAllowed := false }

def blockScalar (s : Scan) (folded : Bool) : Except Error Scan := do
  let s ← s.dropKey
  let (text, cursor) ← Block.read folded s.indent s.cursor
  .ok { s.emit (.scalar ⟨text, none⟩ false) with cursor, keyAllowed := true }

def quotedScalar (s : Scan) (double : Bool) : Except Error Scan :=
  s.keyLike fun c => do
    let (text, c) ← Quoted.read double c
    .ok (.scalar text false, c)

def plainScalar (s : Scan) : Except Error Scan := do
  let s ← s.saveKey
  let (text, cursor, broke) := Plain.read s.inFlow (s.indent + 1).toNat s.cursor
  .ok { s.emit (.scalar ⟨text, none⟩ true) with cursor, keyAllowed := broke }

/-- Characters that begin no plain scalar, unless it is one of the first three and a character
follows it. -/
def isIndicator (c : Char) : Bool :=
  "-?:,[]\x7b\x7d#&*!|>'\"%@\x60".toList.contains c

/-- Whether a plain scalar starts with the characters `c` and `d`. -/
def startsPlain (flow : Bool) (c d : Char) : Bool :=
  !(isSeparator c || isIndicator c) ||
    (!isSeparator d && (c == '-' || (!flow && (c == '?' || c == ':'))))

/-- The next token, at a cursor that stands on it. -/
def token (s : Scan) : Except Error Scan :=
  let c := s.cursor
  let ch := c.peek
  let marks := s.inFlow || isSeparator (c.peek 1)
  let atMarker := c.column == 0 && c.atDocumentMarker
  if ch == '%' && c.column == 0 then do
    let s ← s.endBlocks
    let (directive, cursor) ← readDirective s.cursor
    .ok { s.emit (.directive directive) with cursor }
  else if ch == '-' && atMarker then do
    .ok ((← s.endBlocks).mark 3 .documentStart)
  else if ch == '.' && atMarker then do
    .ok ((← s.endBlocks).mark 3 .documentEnd)
  else if ch == '[' then s.openFlow .flowSequenceStart
  else if ch == '{' then s.openFlow .flowMappingStart
  else if ch == ']' then s.closeFlow .flowSequenceEnd
  else if ch == '}' then s.closeFlow .flowMappingEnd
  else if ch == ',' then do
    let s ← s.dropKey
    .ok { s.mark 1 .flowEntry with keyAllowed := true }
  else if ch == '-' && isSeparator (c.peek 1) then s.blockEntry
  else if ch == '?' && marks then s.explicitKey
  else if ch == ':' && marks then s.value
  else if ch == '*' then
    s.keyLike fun c => do
      let (name, c) ← readName c.next
      .ok (.reference name, c)
  else if ch == '&' then
    s.keyLike fun c => do
      let (name, c) ← readName c.next
      .ok (.anchor name, c)
  else if ch == '!' then s.keyLike readTag
  else if ch == '|' && !s.inFlow then s.blockScalar false
  else if ch == '>' && !s.inFlow then s.blockScalar true
  else if ch == '\'' then s.quotedScalar false
  else if ch == '"' then s.quotedScalar true
  else if startsPlain s.inFlow ch (c.peek 1) then s.plainScalar
  else .error .malformed

/-- Whether a token has been read, or the end of the text. -/
inductive Progress where
  | more (s : Scan)
  | complete (s : Scan)

/-- Reads on to the next token. -/
def fetch (s : Scan) : Except Error Progress := do
  let s ← (skipBlank (s.cursor.rest.length + 1) s).dropStaleKeys
  let s := s.unwind s.cursor.column
  if s.cursor.rest.isEmpty then
    let s ← s.endBlocks
    .ok (.complete (s.emit .streamEnd))
  else
    .ok (.more (← s.token))

/-- The places of all possible keys. -/
def keySlots (s : Scan) : List Nat :=
  (s.key :: s.outer).filterMap fun k => k.map (·.slot)

/-- The tokens that are settled: none of them may still become a key, nor one before it. -/
def settled (s : Scan) : List Token :=
  match s.dropStaleKeys with
  | .ok s => s.tokens.toList.take (s.keySlots.foldl min s.tokens.size)
  | .error _ => []

end Scan

/-- The tokens of a text. Whoever takes them may come to an end before what went wrong with the text
is noticed. -/
structure TokenStream where
  tokens : List Token
  /-- What goes wrong when more tokens are asked for. -/
  failure : Error

/-- A text as far as it could be read. -/
structure Source where
  text : List Char
  /-- What goes wrong when more text is asked for; nothing if there is no more. -/
  beyond : Option Error := none

namespace Source

/-- Text is taken in portions of this many characters, of which the first two come at once. -/
def portion : Nat := 4096

/-- A text of which the rest, from a place on, cannot be had for some reason: what is left are whole
portions. -/
def cut (text : List Char) (length : Nat) (reason : Error) : Source :=
  let portions := length / portion
  ⟨if portions < 2 then [] else text.take (portion * portions), some reason⟩

/-- A text that may be followed by what is no text. A character that must not be in a text is noticed
when its portion is taken. -/
def ofText (text : List Char) (beyond : Option Error) : Source :=
  match text.findIdx? (!isAllowed ·), beyond with
  | some n, _ => cut text n .malformed
  | none, some e => cut text text.length e
  | none, none => ⟨text, none⟩

end Source

namespace Scan

/-- All tokens. Where the text is cut, a token that reaches up to the cut is not complete. -/
def run (beyond : Option Error) : Nat → Scan → TokenStream
  | 0, s => ⟨s.settled, .malformed⟩
  | fuel + 1, s =>
    let stop (e : Error) : TokenStream := ⟨s.settled, e⟩
    match s.fetch with
    | .error .unclosed => stop (beyond.getD .malformed)
    | .error e => stop e
    | .ok (.complete last) =>
      match beyond with
      | some e => stop e
      | none => ⟨last.tokens.toList, .malformed⟩
    | .ok (.more next) =>
      match beyond with
      | some e => if next.cursor.rest.isEmpty then stop e else run beyond fuel next
      | none => run beyond fuel next

end Scan

/-- The tokens of a text. A byte order mark at its start is passed over. -/
def Source.tokens (source : Source) : TokenStream :=
  let cursor : Cursor := { rest := source.text }
  let cursor := if cursor.peek.toNat == 0xfeff then cursor.next else cursor
  Scan.run source.beyond (source.text.length + 2) { cursor }

end WidgetMarkup.Yaml
