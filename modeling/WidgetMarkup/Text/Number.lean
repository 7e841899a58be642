import WidgetMarkup.Text.Blank
import WidgetMarkup.Text.Numeral

/-!
# Numbers in text

Integers in a base from two to sixteen and decimal fractions, with a sign if there is one. Margins
around a number are allowed, and digits of any script.
-/
namespace WidgetMarkup.Text

/-- What follows an optional sign, and whether the sign is a minus. -/
def takeSign : List Char → Bool × List Char
  | '-' :: s => (true, s)
  | '+' :: s => (false, s)
  | s => (false, s)

/-- The value of a digit; letters count from ten. -/
def anyDigitValue? (c : Char) : Option Nat :=
  match digitValue? c with
  | some d => some d
  | none => hexValue? c

/-- The letter that may follow a zero to name a base. -/
def baseLetter? : Nat → Option Char
  | 2 => some 'b'
  | 8 => some 'o'
  | 16 => some 'x'
  | _ => none

/-- What follows the name of a base, where there is one. -/
def dropBase (base : Nat) : List Char → List Char
  | '0' :: c :: s => if baseLetter? base = some c.toLower then s else '0' :: c :: s
  | s => s

/-- An integer in a base. In base ten its length is limited. -/
def readInteger? (base : Nat) (s : List Char) : Option Int := do
  let (negative, s) := takeSign (trimMargins s)
  let digits := dropBase base s
  let values ← digits.mapM fun c => (anyDigitValue? c).filter (· < base)
  if values.isEmpty || (base = 10 && digitLimit < values.length) then none
  else
    let n : Int := ofDigitValues base values
    some (if negative then -n else n)

/-- A decimal fraction: the number `digits * 10 ^ exponent`. -/
structure Decimal where
  negative : Bool
  digits : Nat
  exponent : Int

/-- An exponent, or nothing. -/
def readExponent? : List Char → Option Int
  | [] => some 0
  | e :: s =>
    if e = 'e' ∨ e = 'E' then do
      let (negative, digits) := takeSign s
      let values ← digits.mapM digitValue?
      if values.isEmpty then none
      else
        let n : Int := ofDigitValues 10 values
        some (if negative then -n else n)
    else none

def readDecimal? (s : List Char) : Option Decimal := do
  let (negative, s) := takeSign (trimMargins s)
  let whole := s.takeWhile isDecimalDigit
  let s := s.drop whole.length
  let (part, s) := match s with
    | '.' :: r => (r.takeWhile isDecimalDigit, r.dropWhile isDecimalDigit)
    | _ => ([], s)
  let exponent ← readExponent? s
  let digits := whole ++ part
  if digits.isEmpty then none
  else
    some ⟨negative, ofDigitValues 10 (digits.filterMap digitValue?), exponent - part.length⟩

/-- The double nearest to a decimal. -/
def Decimal.toFloat (d : Decimal) : Float :=
  let size : Int := (Nat.toDigits 10 d.digits).length + d.exponent
  let magnitude : Float :=
    if d.digits = 0 ∨ size < -400 then 0.0
    else if 400 < size then 1.0 / 0.0
    else .ofScientific d.digits (d.exponent < 0) d.exponent.natAbs
  if d.negative then -magnitude else magnitude

end WidgetMarkup.Text
