/-!
# The shortest decimal for a floating-point number

A double stands for all reals that round to it. Among the decimals of these reals there is one with
the fewest digits, and of those with equally few digits one is nearest to the number. It is found in
exact integer arithmetic: for one digit, two digits and so on, the two neighbours of the number on
the grid of decimals with so many digits are tried.

A finite positive double is `m * 2 ^ q` with `m < 2 ^ 53` and `-1074 ≤ q`.
-/
namespace WidgetMarkup.Data

/-- The number `digits * 10 ^ exponent`. -/
structure ShortDecimal where
  digits : Nat
  exponent : Int
deriving DecidableEq, Repr

/-- A positive fraction. -/
structure Ratio where
  num : Nat
  den : Nat
deriving Repr

namespace Ratio

/-- The fraction `n * 2 ^ q`. -/
def ofBinary (n : Nat) (q : Int) : Ratio :=
  if 0 ≤ q then ⟨n * Nat.pow 2 q.toNat, 1⟩ else ⟨n, Nat.pow 2 (-q).toNat⟩

/-- The fraction `n * 10 ^ e`. -/
def ofDecimal (n : Nat) (e : Int) : Ratio :=
  if 0 ≤ e then ⟨n * Nat.pow 10 e.toNat, 1⟩ else ⟨n, Nat.pow 10 (-e).toNat⟩

def lt (a b : Ratio) : Bool := a.num * b.den < b.num * a.den

def le (a b : Ratio) : Bool := a.num * b.den ≤ b.num * a.den

/-- The distance of two fractions. -/
def distance (a b : Ratio) : Ratio :=
  ⟨a.num * b.den - b.num * a.den + (b.num * a.den - a.num * b.den), a.den * b.den⟩

/-- How many times `10 ^ e` goes into the fraction. -/
def floorIn (a : Ratio) (e : Int) : Nat :=
  let unit := ofDecimal 1 e
  a.num * unit.den / (a.den * unit.num)

end Ratio

/-- The reals that round to `m * 2 ^ q`: the ends, and whether the ends belong. -/
structure RoundingInterval where
  low : Ratio
  high : Ratio
  closed : Bool

def RoundingInterval.of (m : Nat) (q : Int) : RoundingInterval :=
  let narrow := m = Nat.pow 2 52 ∧ -1074 < q
  { low := if narrow then .ofBinary (4 * m - 1) (q - 2) else .ofBinary (2 * m - 1) (q - 1)
    high := .ofBinary (2 * m + 1) (q - 1)
    closed := m % 2 == 0 }

def RoundingInterval.contains (i : RoundingInterval) (x : Ratio) : Bool :=
  if i.closed then i.low.le x && x.le i.high else i.low.lt x && x.lt i.high

/-- The power of ten of the first digit of a fraction, searched for from a bound above it. -/
def leadingExponent (a : Ratio) : Nat → Int → Int
  | 0, e => e
  | fuel + 1, e => if (Ratio.ofDecimal 1 e).le a then e else leadingExponent a fuel (e - 1)

/-- The neighbour of the value on the grid `10 ^ e` that rounds to it, the nearer one if both do. -/
def onGrid? (i : RoundingInterval) (value : Ratio) (e : Int) : Option ShortDecimal :=
  let below := value.floorIn e
  let lower := Ratio.ofDecimal below e
  let upper := Ratio.ofDecimal (below + 1) e
  match i.contains lower && 0 < below, i.contains upper with
  | true, true =>
    if (upper.distance value).lt (lower.distance value) then some ⟨below + 1, e⟩
    else if (lower.distance value).lt (upper.distance value) then some ⟨below, e⟩
    else some ⟨below + below % 2, e⟩
  | true, false => some ⟨below, e⟩
  | false, true => some ⟨below + 1, e⟩
  | false, false => none

/-- The shortest decimal that rounds to `m * 2 ^ q`. Seventeen digits always do. -/
def shortest (m : Nat) (q : Int) : ShortDecimal :=
  let value := Ratio.ofBinary m q
  let interval := RoundingInterval.of m q
  let lead := leadingExponent value 640 309
  let grids := (List.range 18).map fun (k : Nat) => lead + 1 - k
  (grids.findSome? (onGrid? interval value)).getD ⟨0, 0⟩

end WidgetMarkup.Data
