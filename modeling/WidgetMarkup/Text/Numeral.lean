/-!
# Decimal numerals

Every script with a decimal system has ten consecutive digits, so its digits are known by its zero.
A numeral is read as a natural number if it is not too long: one of more than `digitLimit` digits,
leading zeros counted, is refused.
-/
namespace WidgetMarkup.Text

/-- The zeros of the decimal systems of Unicode 14. -/
def zeroDigits : List Nat := [
  0x30, 0x660, 0x6f0, 0x7c0, 0x966, 0x9e6, 0xa66, 0xae6, 0xb66, 0xbe6, 0xc66, 0xce6, 0xd66, 0xde6,
  0xe50, 0xed0, 0xf20, 0x1040, 0x1090, 0x17e0, 0x1810, 0x1946, 0x19d0, 0x1a80, 0x1a90, 0x1b50,
  0x1bb0, 0x1c40, 0x1c50, 0xa620, 0xa8d0, 0xa900, 0xa9d0, 0xa9f0, 0xaa50, 0xabf0, 0xff10, 0x104a0,
  0x10d30, 0x11066, 0x110f0, 0x11136, 0x111d0, 0x112f0, 0x11450, 0x114d0, 0x11650, 0x116c0,
  0x11730, 0x118e0, 0x11950, 0x11c50, 0x11d50, 0x11da0, 0x16a60, 0x16ac0, 0x16b50, 0x1d7ce,
  0x1d7d8, 0x1d7e2, 0x1d7ec, 0x1d7f6, 0x1e140, 0x1e2f0, 0x1e950, 0x1fbf0]

/-- The value of a decimal digit of any script. -/
def digitValue? (c : Char) : Option Nat :=
  zeroDigits.findSome? fun first =>
    if first ≤ c.toNat && c.toNat < first + 10 then some (c.toNat - first) else none

def isDecimalDigit (c : Char) : Bool :=
  (digitValue? c).isSome

/-- The most digits that a numeral may have. -/
def digitLimit : Nat := 4300

/-- A numeral was refused for its length. -/
structure NumeralTooLong where
  digits : Nat
deriving DecidableEq, Repr

/-- The number that digit values write in a base, the most significant first. -/
def ofDigitValues (base : Nat) (digits : List Nat) : Nat :=
  digits.foldl (fun n d => base * n + d) 0

/-- Reads a run of decimal digits. -/
def readNumeral (s : List Char) : Except NumeralTooLong Nat :=
  if s.length ≤ digitLimit then .ok (ofDigitValues 10 (s.filterMap digitValue?))
  else .error ⟨s.length⟩

/-- The value of a hexadecimal digit of the basic Latin block. -/
def hexValue? (c : Char) : Option Nat :=
  if '0' ≤ c ∧ c ≤ '9' then some (c.toNat - 0x30)
  else if 'a' ≤ c ∧ c ≤ 'f' then some (c.toNat - 0x57)
  else if 'A' ≤ c ∧ c ≤ 'F' then some (c.toNat - 0x37)
  else none

def isHexDigit (c : Char) : Bool :=
  (hexValue? c).isSome

/-- The number that hexadecimal digits write; its length is not limited. -/
def readHex (s : List Char) : Nat :=
  ofDigitValues 16 (s.filterMap hexValue?)

end WidgetMarkup.Text
