import WidgetMarkup.Text.Numeral
import WidgetMarkup.Text.ReferenceName.LowerAK
import WidgetMarkup.Text.ReferenceName.LowerLZ
import WidgetMarkup.Text.ReferenceName.Upper

/-!
# Character references

A character reference is an ampersand followed by a number in decimal (`#38;`) or hexadecimal
(`#x26;`) or by a name (`amp;`). The semicolon of a number may be missing, and so may that of the
names that the table also lists without one. Decoding replaces each reference by what it stands for,
in one pass from left to right, so what a reference produces is not decoded again. An ampersand that
starts no reference stays.

A decimal number that is too long to be read is an error; a hexadecimal one never is.
-/
namespace WidgetMarkup.Text

namespace ReferenceName

/-- The names that start with a character. -/
def startingWith : Char → List (String × List Nat)
  | 'A' => upperA | 'B' => upperB | 'C' => upperC | 'D' => upperD | 'E' => upperE
  | 'F' => upperF | 'G' => upperG | 'H' => upperH | 'I' => upperI | 'J' => upperJ
  | 'K' => upperK | 'L' => upperL | 'M' => upperM | 'N' => upperN | 'O' => upperO
  | 'P' => upperP | 'Q' => upperQ | 'R' => upperR | 'S' => upperS | 'T' => upperT
  | 'U' => upperU | 'V' => upperV | 'W' => upperW | 'X' => upperX | 'Y' => upperY
  | 'Z' => upperZ
  | 'a' => lowerA | 'b' => lowerB | 'c' => lowerC | 'd' => lowerD | 'e' => lowerE
  | 'f' => lowerF | 'g' => lowerG | 'h' => lowerH | 'i' => lowerI | 'j' => lowerJ
  | 'k' => lowerK | 'l' => lowerL | 'm' => lowerM | 'n' => lowerN | 'o' => lowerO
  | 'p' => lowerP | 'q' => lowerQ | 'r' => lowerR | 's' => lowerS | 't' => lowerT
  | 'u' => lowerU | 'v' => lowerV | 'w' => lowerW | 'x' => lowerX | 'y' => lowerY
  | 'z' => lowerZ
  | _ => []

/-- Of two table entries, the one with the longer name; the first if they are equally long. -/
def longer (a b : String × List Nat) : String × List Nat :=
  if a.1.length < b.1.length then b else a

/-- The entry with the longest name that the text starts with. -/
def longest? (s : List Char) : Option (String × List Nat) :=
  match s with
  | [] => none
  | c :: _ =>
    match (startingWith c).filter (fun e => e.1.toList.isPrefixOf s) with
    | [] => none
    | e :: es => some (es.foldl longer e)

end ReferenceName

/-- What the numbers from 0x80 to 0x9f stand for: the characters that Windows code page 1252 has at
these places, or the control character itself where it has none. -/
def codePage1252 : List Nat := [
  0x20ac, 0x81, 0x201a, 0x192, 0x201e, 0x2026, 0x2020, 0x2021, 0x2c6, 0x2030, 0x160, 0x2039, 0x152,
  0x8d, 0x17d, 0x8f, 0x90, 0x2018, 0x2019, 0x201c, 0x201d, 0x2022, 0x2013, 0x2014, 0x2dc, 0x2122,
  0x161, 0x203a, 0x153, 0x9d, 0x17e, 0x178]

/-- Numbers that stand for nothing: control characters and code points set aside for no character. -/
def isDroppedNumber (n : Nat) : Bool :=
  (0x1 ≤ n && n ≤ 0x8) || n == 0xb || (0xe ≤ n && n ≤ 0x1f) || n == 0x7f ||
    (0xfdd0 ≤ n && n ≤ 0xfdef) || n % 0x10000 == 0xfffe || n % 0x10000 == 0xffff

/-- The text that a numeric reference stands for. -/
def ofNumber (n : Nat) : List Char :=
  if n == 0 || (0xd800 ≤ n && n ≤ 0xdfff) || 0x10ffff < n then [Char.ofNat 0xfffd]
  else if 0x80 ≤ n && n ≤ 0x9f then [Char.ofNat ((codePage1252[n - 0x80]?).getD n)]
  else if isDroppedNumber n then []
  else [Char.ofNat n]

/-- A reference as written after its ampersand. -/
inductive Reference where
  | decimal (digits : List Char)
  | hex (digits : List Char)
  | named (codes : List Nat)
deriving DecidableEq, Repr

namespace Reference

/-- One more if a semicolon comes next. -/
def withSemicolon (n : Nat) : List Char → Nat
  | ';' :: _ => n + 1
  | _ => n

/-- The reference at the start of a text that follows an ampersand, and how many characters it
takes. -/
def read? : List Char → Option (Reference × Nat)
  | '#' :: s =>
    let digits := s.takeWhile Char.isDigit
    if digits ≠ [] then
      some (.decimal digits, withSemicolon (digits.length + 1) (s.drop digits.length))
    else
      match s with
      | x :: t =>
        let digits := t.takeWhile isHexDigit
        if (x = 'x' ∨ x = 'X') ∧ digits ≠ [] then
          some (.hex digits, withSemicolon (digits.length + 2) (t.drop digits.length))
        else none
      | [] => none
  | s => (ReferenceName.longest? s).map fun e => (.named e.2, e.1.length)

/-- The text that a reference stands for. -/
def value : Reference → Except NumeralTooLong (List Char)
  | decimal digits => ofNumber <$> readNumeral digits
  | hex digits => .ok (ofNumber (readHex digits))
  | named codes => .ok (codes.map Char.ofNat)

end Reference

/-- Replaces every character reference by the text that it stands for. -/
def decodeReferences : List Char → Except NumeralTooLong (List Char)
  | [] => .ok []
  | c :: s =>
    if c = '&' then
      match Reference.read? s with
      | some (r, n) => do
        let v ← r.value
        let t ← decodeReferences (s.drop n)
        pure (v ++ t)
      | none => (c :: ·) <$> decodeReferences s
    else (c :: ·) <$> decodeReferences s
termination_by s => s.length
decreasing_by all_goals simp; try omega

end WidgetMarkup.Text
