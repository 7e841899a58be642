import WidgetMarkup.Text.LetterCase.Cased
import WidgetMarkup.Text.LetterCase.Ignorable
import WidgetMarkup.Text.LetterCase.Lower

/-!
# Text in small letters

Two capital letters need more than a table. The capital I with a dot becomes a small i and a dot
above it. The capital sigma becomes a final sigma at the end of a word: after a letter that has a
case and not before one, where marks and the like in between do not count.
-/
namespace WidgetMarkup.Text

def capitalSigma : Nat := 0x3a3

/-- Whether a letter that has a case comes first, apart from what rules about case pass over. -/
def meetsCased (s : List Char) : Bool :=
  (s.dropWhile isCaseIgnorable).head?.any isCased

/-- A character in small letters. What stands before it is given from its end. -/
def lowerChar (before : List Char) (c : Char) (after : List Char) : List Char :=
  if c.toNat = capitalSigma then
    [if meetsCased before && !meetsCased after then Char.ofNat 0x3c2 else Char.ofNat 0x3c3]
  else if c.toNat = 0x130 then ['i', Char.ofNat 0x307]
  else [smallLetter c]

/-- The rest of a text in small letters, after what has been passed of it. -/
def lowerFrom (before : List Char) : List Char → List Char
  | [] => []
  | c :: s => lowerChar before c s ++ lowerFrom (c :: before) s

def lowerCase (s : List Char) : List Char :=
  lowerFrom [] s

end WidgetMarkup.Text
