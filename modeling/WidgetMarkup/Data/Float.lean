import WidgetMarkup.Data.Shortest

/-!
# Text and integer value of floating-point numbers

A number is shown with the fewest digits that read back as it. It is written positionally from
`1e-4` up to, and not including, `1e16`, with at least one place after the point, and with an
exponent of at least two digits otherwise.
-/
namespace WidgetMarkup.Data

/-- A double by its parts. -/
inductive FloatParts where
  | nan
  | infinite (negative : Bool)
  /-- The number `m * 2 ^ q`, negated if so. -/
  | finite (negative : Bool) (m : Nat) (q : Int)
deriving DecidableEq, Repr

def FloatParts.of (x : Float) : FloatParts :=
  let bits : Nat := x.toBits.toNat
  let negative := Nat.pow 2 63 ≤ bits
  let exponent : Nat := bits / Nat.pow 2 52 % 2048
  let fraction : Nat := bits % Nat.pow 2 52
  if exponent = 2047 then if fraction = 0 then infinite negative else nan
  else if exponent = 0 then finite negative fraction (-1074)
  else finite negative (fraction + Nat.pow 2 52) ((exponent : Int) - 1075)

/-- The integer that a number equals. -/
def FloatParts.int? : FloatParts → Option Int
  | finite negative m q =>
    let magnitude? : Option Nat :=
      if 0 ≤ q then some (m * Nat.pow 2 q.toNat)
      else if m % Nat.pow 2 (-q).toNat = 0 then some (m / Nat.pow 2 (-q).toNat)
      else none
    magnitude?.map fun n => if negative then -(n : Int) else n
  | _ => none

/-- The exponents of the first digit that are written positionally: from the first to the second,
this one not included. -/
def positionalExponents : Int × Int := (-4, 16)

/-- Digits of a number below ten to the power `point`, the first of them just after the point. -/
def renderDigits (digits : List Char) (point : Int) : List Char :=
  if positionalExponents.1 ≤ point - 1 ∧ point - 1 < positionalExponents.2 then
    if point ≤ 0 then '0' :: '.' :: List.replicate (-point).toNat '0' ++ digits
    else if digits.length ≤ point.toNat then
      digits ++ List.replicate (point.toNat - digits.length) '0' ++ ['.', '0']
    else digits.take point.toNat ++ '.' :: digits.drop point.toNat
  else
    let exponent := point - 1
    let shown := Nat.toDigits 10 exponent.natAbs
    let rest := digits.drop 1
    digits.take 1 ++ (if rest.isEmpty then [] else '.' :: rest) ++
      ['e', if exponent < 0 then '-' else '+'] ++
      List.replicate (2 - shown.length) '0' ++ shown

def FloatParts.text : FloatParts → String
  | nan => "nan"
  | infinite negative => if negative then "-inf" else "inf"
  | finite negative m q =>
    let magnitude :=
      if m = 0 then ['0', '.', '0']
      else
        let short := shortest m q
        let all := Nat.toDigits 10 short.digits
        renderDigits (all.reverse.dropWhile (· = '0')).reverse (short.exponent + all.length)
    String.ofList (if negative then '-' :: magnitude else magnitude)

def floatText (x : Float) : String :=
  (FloatParts.of x).text

end WidgetMarkup.Data
