/-!
# Patterns for names

A star matches any characters, a question mark one character, and brackets one character of a class.
A class lists characters and ranges, and an exclamation mark at its start turns it around. Brackets
that are not closed, and everything else, stand for themselves.
-/
namespace WidgetMarkup

/-- A part of a class: a character, or a hyphen between the ends of a range. -/
inductive ClassItem where
  | char (c : Char)
  | to
deriving DecidableEq, Repr

inductive NamePiece where
  | star
  | one
  | char (c : Char)
  /-- A character between two ends of one of the ranges, or between none of them. -/
  | oneOf (negated : Bool) (ranges : List (Char × Char))
deriving DecidableEq, Repr

namespace NamePiece

/-- The position of the bracket that closes a class, in what follows the opening one. A bracket at
the start of the class belongs to it. -/
def classLength (s : List Char) : Option Nat :=
  let skipped := match s with
    | '!' :: ']' :: _ => 2
    | ']' :: _ => 1
    | '!' :: _ => 1
    | _ => 0
  ((s.drop skipped).idxOf? ']').map (skipped + ·)

/-- Cuts a class at the hyphens that make ranges. The hyphen has a character before it and one after
it that no other range has taken; the first argument says how many characters come before the next
hyphen at least. -/
def chunks : Nat → List Char → List Char → List (List Char)
  | _, chunk, [] => [chunk.reverse]
  | 0, chunk, '-' :: s => chunk.reverse :: chunks 2 [] s
  | n, chunk, c :: s => chunks (n - 1) (c :: chunk) s

/-- A hyphen at the end of a class makes no range. -/
def closeChunks : List (List Char) → List (List Char)
  | [a, []] => [a ++ ['-']]
  | a :: rest => a :: closeChunks rest
  | [] => []

/-- Ranges from a later to an earlier character are empty: both ends vanish, and the rest of the two
chunks is one. -/
def dropEmpty : List (List Char) → List (List Char)
  | [] => []
  | a :: rest =>
    match dropEmpty rest with
    | [] => [a]
    | b :: rest =>
      match a.getLast?, b.head? with
      | some x, some y => if y < x then (a.dropLast ++ b.tail) :: rest else a :: b :: rest
      | _, _ => a :: b :: rest

/-- The parts of a class. -/
def classItems (s : List Char) : List ClassItem :=
  let least := if s.head? = some '!' then 2 else 1
  let pieces := dropEmpty (closeChunks (chunks least [] s))
  (pieces.map fun p => p.map ClassItem.char).intersperse [.to] |>.flatten

/-- The ranges that the parts of a class give. -/
def ranges : List ClassItem → List (Char × Char)
  | .char a :: .to :: .char b :: rest => (a, b) :: ranges rest
  | .char a :: rest => (a, a) :: ranges rest
  | .to :: rest => ('-', '-') :: ranges rest
  | [] => []

def ofClass (s : List Char) : NamePiece :=
  match classItems s with
  | .char '!' :: items => oneOf true (ranges items)
  | items => oneOf false (ranges items)

/-- The pieces of a pattern. -/
def ofChars : List Char → List NamePiece
  | [] => []
  | '*' :: s => star :: ofChars s
  | '?' :: s => one :: ofChars s
  | '[' :: s =>
    match classLength s with
    | none => char '[' :: ofChars s
    | some n => ofClass (s.take n) :: ofChars (s.drop (n + 1))
  | c :: s => char c :: ofChars s
termination_by s => s.length

/-- Whether a piece that stands for one character stands for this one. -/
def accepts : NamePiece → Char → Bool
  | star, _ => false
  | one, _ => true
  | char d, c => c = d
  | oneOf negated ranges, c => ranges.any (fun (a, b) => a ≤ c && c ≤ b) != negated

/-- Whether a whole name matches. -/
def fits : List NamePiece → List Char → Bool
  | [], s => s.isEmpty
  | star :: ps, [] => fits ps []
  | star :: ps, c :: s => fits ps (c :: s) || fits (star :: ps) s
  | _ :: _, [] => false
  | p :: ps, c :: s => p.accepts c && fits ps s
termination_by ps s => ps.length + s.length

end NamePiece

end WidgetMarkup
