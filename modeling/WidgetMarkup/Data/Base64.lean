/-!
# Base64

Bytes written with 64 letters, four letters for three bytes. Reading is lenient: other characters are
passed over, and reading ends at the padding that completes a group of four.
-/
namespace WidgetMarkup.Data.Base64

def letterValue? (c : Char) : Option Nat :=
  if 'A' ≤ c ∧ c ≤ 'Z' then some (c.toNat - 0x41)
  else if 'a' ≤ c ∧ c ≤ 'z' then some (c.toNat - 0x61 + 26)
  else if '0' ≤ c ∧ c ≤ '9' then some (c.toNat - 0x30 + 52)
  else if c = '+' then some 62
  else if c = '/' then some 63
  else none

/-- A group of four letters that is being read. -/
structure Group where
  letters : Nat := 0
  /-- The bits of the last letter that belong to the next byte. -/
  bits : Nat := 0
  pads : Nat := 0

/-- The byte that a letter completes, and the group after it. -/
def Group.add (g : Group) (v : Nat) : Option UInt8 × Group :=
  match g.letters with
  | 0 => (none, ⟨1, v, 0⟩)
  | 1 => (some (UInt8.ofNat (g.bits * 4 + v / 16)), ⟨2, v % 16, 0⟩)
  | 2 => (some (UInt8.ofNat (g.bits * 16 + v / 4)), ⟨3, v % 4, 0⟩)
  | _ => (some (UInt8.ofNat (g.bits * 64 + v)), ⟨0, 0, 0⟩)

/-- The bytes of a text from inside of a group; none if the text ends there. -/
def decodeFrom (g : Group) : List Char → Option (List UInt8)
  | [] => if g.letters = 0 then some [] else none
  | c :: s =>
    if c = '=' then
      if 2 ≤ g.letters then
        if 4 ≤ g.letters + g.pads + 1 then some []
        else decodeFrom { g with pads := g.pads + 1 } s
      else decodeFrom g s
    else
      match letterValue? c with
      | none => decodeFrom g s
      | some v =>
        match g.add v with
        | (none, g) => decodeFrom g s
        | (some b, g) => (decodeFrom g s).map (b :: ·)

def decode? (s : List Char) : Option (List UInt8) :=
  decodeFrom {} s

end WidgetMarkup.Data.Base64
