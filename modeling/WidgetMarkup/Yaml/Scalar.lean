import WidgetMarkup.Data.Base64
import WidgetMarkup.Data.Basic
import WidgetMarkup.Text.Number
import WidgetMarkup.Text.Pieces
import WidgetMarkup.Yaml.Error
import WidgetMarkup.Yaml.Kind
import WidgetMarkup.Yaml.Token

/-!
# Values of YAML scalars

The value of a scalar of a known kind. Numbers may have underscores between their digits; an integer
may be in base two, eight or sixteen, and both integers and fractions in base sixty, its parts
divided by colons.
-/
namespace WidgetMarkup.Yaml

open Text

namespace Scalar

def flags : List (String × Bool) := [
  ("yes", true), ("no", false), ("true", true), ("false", false), ("on", true), ("off", false)]

def boolOf (s : String) : Except ScalarError Bool :=
  match flags.lookup s.toLower with
  | some b => .ok b
  | none => .error .unknownFlag

def orOutOfRange {α : Type} : Option α → Except ScalarError α
  | some a => .ok a
  | none => .error .outOfRange

/-- The number that parts in base sixty write. -/
def sixty (parts : List Int) : Int :=
  parts.foldl (fun n d => 60 * n + d) 0

/-- The sign of a number, and the rest of its characters, of which there has to be one. -/
def signed (s : List Char) : Except ScalarError (Bool × List Char) :=
  if s.isEmpty then .error .emptyNumber else .ok (takeSign s)

def intOf (s : String) : Except ScalarError Int := do
  let (negative, u) ← signed (s.toList.filter (· ≠ '_'))
  let magnitude ← match u with
    | [] => .error .emptyNumber
    | '0' :: 'b' :: r => orOutOfRange (readInteger? 2 r)
    | '0' :: 'x' :: r => orOutOfRange (readInteger? 16 r)
    | '0' :: _ => orOutOfRange (readInteger? 8 u)
    | _ =>
      if u.contains ':' then
        orOutOfRange (((pieces ':' u).mapM (readInteger? 10)).map sixty)
      else orOutOfRange (readInteger? 10 u)
  .ok (if negative then -magnitude else magnitude)

/-- A fraction, or one of the words for what is no number. -/
def fractionOf (s : List Char) : Option Float :=
  let (negative, word) := takeSign (trimMargins s)
  let word := String.ofList (word.map Char.toLower)
  if word = "inf" ∨ word = "infinity" then some (if negative then -(1.0 / 0.0) else 1.0 / 0.0)
  else if word = "nan" then some (0.0 / 0.0)
  else (readDecimal? s).map Decimal.toFloat

/-- The number that parts in base sixty write, summed from the last. The place of each part has to be
a number itself. -/
def sixtyFloat (parts : List Float) : Except ScalarError Float :=
  let units := (List.range parts.length).map fun k => Nat.pow 60 k
  if units.all (· < Nat.pow 2 1024) then
    .ok ((parts.reverse.zip units).foldl (fun x (d, unit) => x + d * Float.ofNat unit) 0.0)
  else .error .overflow

/-- The number that a text writes, or none for the mark of what is no number. -/
def floatOf (s : String) : Except ScalarError (Option Float) := do
  let (negative, u) ← signed ((s.toList.filter (· ≠ '_')).map Char.toLower)
  let sign : Float := if negative then -1.0 else 1.0
  let word := String.ofList u
  if word = ".inf" then .ok (some (sign * (1.0 / 0.0)))
  else if word = ".nan" then .ok none
  else if u.contains ':' then do
    let parts ← orOutOfRange ((pieces ':' u).mapM fractionOf)
    .ok (some (sign * (← sixtyFloat parts)))
  else do
    .ok (some (sign * (← orOutOfRange (fractionOf u))))

/-- A number as a value. All marks of what is no number have one origin, and every text that happens
to be none has its own. -/
def floatData (origin : Nat) : Option Float → Data
  | none => .notNumber 0
  | some x => if x.isNaN then .notNumber (origin + 1) else .float x

/-- The number that ASCII digits write. -/
def digitsValue (s : List Char) : Nat :=
  ofDigitValues 10 (s.filterMap digitValue?)

/-- The first six digits of a fraction of a second, filled with zeros. -/
def microseconds (s : List Char) : Nat :=
  let digits := s.take 6
  digitsValue (digits ++ List.replicate (6 - digits.length) '0')

/-- The offset of a zone in minutes. -/
def offset : Option (Char × List Char × List Char) → Int
  | none => 0
  | some (sign, hours, minutes) =>
    let n : Int := digitsValue hours * 60 + digitsValue minutes
    if sign = '-' then -n else n

def timeOf (s : String) : Except ScalarError Data :=
  match TimestampText.ofChars? (Kind.withoutFinalBreak s.toList) with
  | none => .error .notTimestamp
  | some t =>
    let date : Data.Date := ⟨digitsValue t.year, digitsValue t.month, digitsValue t.day⟩
    match t.clock with
    | none => if date.isValid then .ok (.date date) else .error .outOfRange
    | some (hour, minute, second) =>
      let time : Data.Timestamp :=
        { date, hour := digitsValue hour, minute := digitsValue minute
          second := digitsValue second, microsecond := microseconds t.fraction
          offset := t.zone.map offset }
      if time.isValid then .ok (.time time) else .error .outOfRange

def textOf (s : ScalarText) : Data :=
  match s.wide with
  | some w => .brokenText w
  | none => .text s.text

/-- The value of a scalar with an origin. Collections, marks and unknown kinds are no kinds of
scalars. -/
def value (kind : Kind) (origin : Nat) (s : ScalarText) : Except Error Data :=
  let ofScalar (r : Except ScalarError Data) : Except Error Data := r.mapError .scalar
  match kind with
  | .null => .ok .null
  | .bool => ofScalar ((boolOf s.text).map .bool)
  | .int => ofScalar ((intOf s.text).map .int)
  | .float => ofScalar ((floatOf s.text).map (floatData origin))
  | .timestamp => ofScalar (timeOf s.text)
  | .str => .ok (textOf s)
  | .binary =>
    let chars := s.text.toList
    if chars.all (·.toNat < 0x80) then
      match Data.Base64.decode? chars with
      | some b => .ok (.bytes b)
      | none => .error .malformed
    else .error .malformed
  | .omap | .pairs | .set | .seq | .map | .merge | .defaultMark | .unknown => .error .malformed

end Scalar

end WidgetMarkup.Yaml
