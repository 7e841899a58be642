import WidgetMarkup.Text.Blank

/-!
# Files of variables

A file of variables has one assignment per line, with an optional `export` before it. A byte order
mark at the start of the file is passed over. A value stands between quotes, with escapes, or as it
is up to the end of the line, without a comment. A variable whose name stands alone has no value.
Lines that are no assignment are passed over. A reference in a value, a name in braces after a dollar
sign, is replaced by the value of that variable.
-/
namespace WidgetMarkup.EnvFile

open Text

def isLineEnd (c : Char) : Bool :=
  c = '\n' || c = '\r'

/-- A blank that does not end a line. -/
def isGap (c : Char) : Bool :=
  isBlank c && !isLineEnd c

def skipGap (s : List Char) : List Char :=
  s.dropWhile isGap

/-- Past the word `export`, if a gap follows it. -/
def skipExport (s : List Char) : List Char :=
  let word := "export".toList
  let rest := s.drop word.length
  if word.isPrefixOf s && (rest.head?.any isGap) then skipGap rest else s

/-- Past the end of the line. -/
def skipLine (s : List Char) : List Char :=
  match s.dropWhile (!isLineEnd ·) with
  | '\r' :: rest => rest
  | '\n' :: rest => rest
  | rest => rest

/-- A failure to read, with the text left where it happened. -/
abbrev Read (α : Type) := Except (List Char) (α × List Char)

/-- A name; before a comment there is none. -/
def readName (s : List Char) : Read (Option String) :=
  match s with
  | '#' :: _ => .ok (none, s)
  | '\'' :: r =>
    let name := r.takeWhile (· ≠ '\'')
    match r.drop name.length with
    | _ :: rest => if name.isEmpty then .error s else .ok (some (String.ofList name), rest)
    | [] => .error s
  | _ =>
    let name := s.takeWhile fun c => c ≠ '=' && c ≠ '#' && !isBlank c
    if name.isEmpty then .error s else .ok (some (String.ofList name), s.drop name.length)

/-- What stands between quotes, and what follows. A character after a backslash does not close. -/
def quotedBody (quote : Char) : List Char → Option (List Char × List Char)
  | [] => none
  | '\\' :: c :: s => (quotedBody quote s).map fun (body, rest) => ('\\' :: c :: body, rest)
  | c :: s =>
    if c = quote then some ([], s)
    else (quotedBody quote s).map fun (body, rest) => (c :: body, rest)

/-- What the letters of escapes between double quotes stand for. -/
def escapes : List (Char × Nat) := [
  ('\\', 0x5c), ('\'', 0x27), ('"', 0x22), ('a', 0x7), ('b', 0x8), ('f', 0xc), ('n', 0xa),
  ('r', 0xd), ('t', 0x9), ('v', 0xb)]

def singleEscapes : List (Char × Nat) := escapes.take 2

/-- Replaces escapes; other backslashes stay. -/
def unescape (table : List (Char × Nat)) : List Char → List Char
  | '\\' :: c :: s =>
    match table.lookup c with
    | some n => Char.ofNat n :: unescape table s
    | none => '\\' :: unescape table (c :: s)
  | c :: s => c :: unescape table s
  | [] => []

/-- A value without quotes, up to a comment that a blank precedes. -/
def beforeComment : List Char → List Char
  | [] => []
  | c :: s =>
    if isBlank c && (s.dropWhile isBlank).head? = some '#' then [] else c :: beforeComment s

/-- What is assigned, read after the equals sign. The gap there may precede a comment. -/
def readValue (s : List Char) : Read String :=
  let start := skipGap s
  let between (quote : Char) (table : List (Char × Nat)) (r : List Char) : Read String :=
    match quotedBody quote r with
    | some (body, rest) => .ok (String.ofList (unescape table body), rest)
    | none => .error start
  match start with
  | '\'' :: r => between '\'' singleEscapes r
  | '"' :: r => between '"' escapes r
  | _ =>
    let line := s.takeWhile (!isLineEnd ·)
    .ok (String.ofList (trim (beforeComment line)), s.drop line.length)

/-- Past a comment and the end of the line. -/
def endLine (s : List Char) : Read Unit :=
  let afterGap := skipGap s
  let s := if afterGap.head? = some '#' then afterGap.dropWhile (!isLineEnd ·) else s
  match skipGap s with
  | [] => .ok ((), [])
  | '\r' :: '\n' :: rest => .ok ((), rest)
  | c :: rest => if isLineEnd c then .ok ((), rest) else .error s

/-- A variable, and its value if it has one. -/
abbrev Binding := String × Option String

/-- One line; none if it assigns nothing. -/
def readBinding (s : List Char) : Read (Option Binding) :=
  (readName (skipExport s)).bind fun (name, s) =>
    let s := skipGap s
    let assigned : Read (Option String) :=
      if s.head? = some '=' then (readValue s.tail).map fun (v, s) => (some v, s)
      else .ok (none, s)
    assigned.bind fun (value, s) =>
      (endLine s).map fun (_, s) => (name.map fun n => (n, value), s)

/-- The bindings of a file as they are written. -/
def readBindings : Nat → List Char → List Binding
  | 0, _ => []
  | fuel + 1, s =>
    match s.dropWhile isBlank with
    | [] => []
    | s =>
      match readBinding s with
      | .ok (some b, rest) => b :: readBindings fuel rest
      | .ok (none, rest) => readBindings fuel rest
      | .error rest => readBindings fuel (skipLine rest)

/-- The name and the default of a reference, read after its opening brace, and what follows. -/
def reference? (s : List Char) : Option (String × String × List Char) :=
  let name := s.takeWhile fun c => c ≠ '}' && c ≠ ':'
  match s.drop name.length with
  | '}' :: rest => some (String.ofList name, "", rest)
  | ':' :: '-' :: r =>
    let fallback := r.takeWhile (· ≠ '}')
    match r.drop fallback.length with
    | _ :: rest => some (String.ofList name, String.ofList fallback, rest)
    | [] => none
  | _ => none

/-- Replaces references by the values of variables. -/
def expand (value? : String → Option (Option String)) : Nat → List Char → List Char
  | 0, s => s
  | _, [] => []
  | fuel + 1, c :: s =>
    match c, s with
    | '$', '{' :: r =>
      match reference? r with
      | some (name, fallback, rest) =>
        let found := match value? name with
          | some v => v.getD ""
          | none => fallback
        found.toList ++ expand value? fuel rest
      | none => c :: expand value? fuel s
    | _, _ => c :: expand value? fuel s

/-- A text without the byte order mark that it may start with. -/
def dropMark : List Char → List Char
  | c :: s => if c.toNat == 0xfeff then s else c :: s
  | [] => []

/-- The variables of a file. A variable that is assigned twice has its last value. References are to
variables of the file above, and to those around. -/
def read (around : List (String × String)) (text : List Char) : List Binding :=
  (readBindings (text.length + 1) (dropMark text)).foldl (fun known (name, value) =>
    let value? (n : String) : Option (Option String) :=
      match known.lookup n with
      | some v => some v
      | none => (around.lookup n).map some
    let value := value.map fun v => String.ofList (expand value? v.length v.toList)
    if (known.lookup name).isSome then known.map fun b => if b.1 = name then (name, value) else b
    else known ++ [(name, value)]) []

end WidgetMarkup.EnvFile
