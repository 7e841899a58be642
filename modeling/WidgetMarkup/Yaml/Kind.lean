/-!
# Kinds of plain scalars

A scalar without quotes and without a tag is of the kind that its text looks like, by the rules of
YAML 1.1: a flag, a number, a merge mark, nothing at all, a timestamp, a default mark, a mark of YAML
itself, and a text otherwise. Each kind is a set of texts; they are recognised here, and their values are read
elsewhere.
-/
namespace WidgetMarkup.Yaml

/-- What a tag says a node is. -/
inductive Kind where
  | null
  | bool
  | int
  | float
  | binary
  | timestamp
  | omap
  | pairs
  | set
  | str
  | seq
  | map
  | merge
  | defaultMark
  | unknown
deriving DecidableEq, Repr

namespace Kind

/-- What the handle of the standard tags expands to. -/
def standard : String := "tag:yaml.org,2002:"

def suffixes : List (String × Kind) := [
  ("null", null), ("bool", bool), ("int", int), ("float", float), ("binary", binary),
  ("timestamp", timestamp), ("omap", omap), ("pairs", pairs), ("set", set), ("str", str),
  ("seq", seq), ("map", map), ("merge", merge), ("value", defaultMark)]

/-- The kind that a tag in full names. -/
def ofTag (tag : String) : Kind :=
  ((suffixes.find? fun e => standard ++ e.1 == tag).map (·.2)).getD unknown

def isOctal (c : Char) : Bool := '0' ≤ c ∧ c ≤ '7'

def isHex (c : Char) : Bool :=
  c.isDigit || ('a' ≤ c ∧ c ≤ 'f') || ('A' ≤ c ∧ c ≤ 'F')

/-- A condition on characters, extended to underscores. -/
def spaced (p : Char → Bool) (c : Char) : Bool := p c || c == '_'

/-- What follows an optional sign. -/
def unsigned : List Char → List Char
  | '+' :: s => s
  | '-' :: s => s
  | s => s

def words (lower : List String) : List String :=
  lower.flatMap fun w => [w, w.capitalize, w.toUpper]

def isBool (s : List Char) : Bool :=
  (words ["yes", "no", "true", "false", "on", "off"]).contains (String.ofList s)

def isNull (s : List Char) : Bool :=
  ("" :: "~" :: words ["null"]).contains (String.ofList s)

/-- The exponent of a number, which has a sign, or nothing. -/
def isExponent : List Char → Bool
  | [] => true
  | e :: sign :: digits =>
    (e == 'e' || e == 'E') && (sign == '+' || sign == '-') && !digits.isEmpty &&
      digits.all Char.isDigit
  | _ => false

/-- Digits after a point, then an exponent. -/
def isFraction (s : List Char) : Bool :=
  isExponent (s.dropWhile (spaced Char.isDigit))

/-- Parts of base sixty: a colon and a number below sixty, at least once; what follows them. -/
def sixtieths : Nat → List Char → Option (List Char)
  | 0, _ => none
  | fuel + 1, s =>
    let after? := match s with
      | ':' :: a :: b :: s =>
        if '0' ≤ a ∧ a ≤ '5' ∧ b.isDigit then some s
        else if a.isDigit then some (b :: s)
        else none
      | [':', a] => if a.isDigit then some [] else none
      | _ => none
    after?.map fun s => (sixtieths fuel s).getD s

/-- Digits of a number with underscores between them; what follows. The first has to be a digit. -/
def digits? (first : Char → Bool) (s : List Char) : Option (List Char) :=
  match s with
  | c :: s => if first c then some (s.dropWhile (spaced Char.isDigit)) else none
  | [] => none

def isFloat (s : List Char) : Bool :=
  let u := unsigned s
  let pointed := match digits? Char.isDigit u with
    | some ('.' :: f) => isFraction f
    | some r =>
      match sixtieths r.length r with
      | some ('.' :: f) => f.all (spaced Char.isDigit)
      | _ => false
    | none => false
  let bare := match s with
    | '.' :: c :: f => c.isDigit && isFraction f
    | _ => false
  pointed || bare || [".inf", ".Inf", ".INF"].contains (String.ofList u) ||
    [".nan", ".NaN", ".NAN"].contains (String.ofList s)

def isInt (s : List Char) : Bool :=
  let run (p : Char → Bool) (r : List Char) : Bool := !r.isEmpty && r.all (spaced p)
  match unsigned s with
  | '0' :: 'b' :: r => run (fun c => c == '0' || c == '1') r
  | '0' :: 'x' :: r => run isHex r
  | ['0'] => true
  | '0' :: r => run isOctal r
  | u =>
    match digits? Char.isDigit u with
    | some [] => true
    | some r => sixtieths r.length r == some []
    | none => false

/-- One or two digits; what follows. -/
def oneOrTwo : List Char → Option (List Char)
  | a :: b :: s =>
    if a.isDigit then if b.isDigit then some s else some (b :: s) else none
  | [a] => if a.isDigit then some [] else none
  | [] => none

end Kind

/-- The parts of a timestamp as they are written. -/
structure TimestampText where
  year : List Char
  month : List Char
  day : List Char
  clock : Option (List Char × List Char × List Char) := none
  fraction : List Char := []
  /-- Whether universal time is named, or the sign, hours and minutes of an offset. -/
  zone : Option (Option (Char × List Char × List Char)) := none

namespace TimestampText

/-- The first of two texts without the second at its end. -/
def before (s rest : List Char) : List Char :=
  s.take (s.length - rest.length)

/-- A run of one or two digits, and the rest. -/
def part (s : List Char) : Option (List Char × List Char) :=
  (Kind.oneOrTwo s).map fun rest => (before s rest, rest)

/-- Exactly this many digits, and the rest. -/
def exactly (n : Nat) (s : List Char) : Option (List Char × List Char) :=
  let digits := s.take n
  if digits.length == n && digits.all Char.isDigit then some (digits, s.drop n) else none

/-- What follows a character. -/
def after (c : Char) : List Char → Option (List Char)
  | d :: s => if c == d then some s else none
  | [] => none

def isGap (c : Char) : Bool := c == ' ' || c == '\t'

def zone? (s : List Char) : Option (Option (Option (Char × List Char × List Char))) :=
  match s.dropWhile isGap with
  | [] => if s.isEmpty then some none else none
  | ['Z'] => some (some none)
  | sign :: r =>
    if sign == '+' || sign == '-' then do
      let (hours, r) ← part r
      if r.isEmpty then some (some (some (sign, hours, [])))
      else
        let (minutes, r) ← exactly 2 (← after ':' r)
        if r.isEmpty then some (some (some (sign, hours, minutes))) else none
    else none

def ofChars? (s : List Char) : Option TimestampText := do
  let (year, s) ← exactly 4 s
  let (month, s) ← part (← after '-' s)
  let (day, s) ← part (← after '-' s)
  if s.isEmpty then some { year, month, day }
  else
    let clock ← match s with
      | 'T' :: r => some r
      | 't' :: r => some r
      | c :: r => if isGap c then some (r.dropWhile isGap) else none
      | [] => none
    let (hour, s) ← part clock
    let (minute, s) ← exactly 2 (← after ':' s)
    let (second, s) ← exactly 2 (← after ':' s)
    let (fraction, s) := match s with
      | '.' :: r => (r.takeWhile Char.isDigit, r.dropWhile Char.isDigit)
      | _ => ([], s)
    let zone ← zone? s
    some { year, month, day, clock := some (hour, minute, second), fraction, zone }

end TimestampText

namespace Kind

/-- A date alone has two digits for the month and for the day. -/
def isTimestamp (s : List Char) : Bool :=
  match TimestampText.ofChars? s with
  | some t => t.clock.isSome || (t.month.length == 2 && t.day.length == 2)
  | none => false

/-- A text without one line feed at its end, if more than that remains. -/
def withoutFinalBreak (s : List Char) : List Char :=
  if 1 < s.length && s.getLast? == some '\n' then s.dropLast else s

/-- Whether a text is one of the marks of tags, anchors and references. Such a text stands for a piece
of YAML, of which there are no values. -/
def isIndicator (s : List Char) : Bool :=
  s == ['!'] || s == ['&'] || s == ['*']

/-- The kind that a text looks like. -/
def ofText (text : String) : Kind :=
  let s := withoutFinalBreak text.toList
  if isBool s then bool
  else if isFloat s then float
  else if isInt s then int
  else if s == ['<', '<'] then merge
  else if isNull s then null
  else if isTimestamp s then timestamp
  else if s == ['='] then defaultMark
  else if isIndicator s then unknown
  else str

end Kind

end WidgetMarkup.Yaml
