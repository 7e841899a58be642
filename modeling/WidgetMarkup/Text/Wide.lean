import WidgetMarkup.Text.Quoted

/-!
# Wide text

The escapes of a configuration document can name any code point, also half of a surrogate pair, which
is no character. In a wide text such halves may stand among the characters. It has no encoding then.
-/
namespace WidgetMarkup

/-- What stands at one place of a wide text. -/
inductive WideChar where
  | char (c : Char)
  /-- Half of a surrogate pair, by its code point. -/
  | half (code : Nat)
deriving DecidableEq, Repr

namespace WideChar

def char? : WideChar → Option Char
  | char c => some c
  | half _ => none

/-- The character, or the one that stands for what is none. -/
def replaced : WideChar → Char
  | char c => c
  | half _ => Char.ofNat 0xfffd

/-- A character as it stands between the given quotes. -/
def escaped (quote : Char) : WideChar → List Char
  | char c => Text.escapeChar quote c
  | half code => '\\' :: 'u' :: Text.hexDigits 4 code

end WideChar

abbrev WideText := List WideChar

namespace WideText

def ofChars (s : List Char) : WideText :=
  s.map .char

def ofString (s : String) : WideText :=
  ofChars s.toList

/-- Whether it has an encoding. -/
def isText (w : WideText) : Bool :=
  w.all fun c => c.char?.isSome

/-- The text with something else in the place of the halves. -/
def replaced (w : WideText) : String :=
  String.ofList (w.map WideChar.replaced)

/-- The text between quotes. -/
def quoted (w : WideText) : String :=
  let quote := Text.quoteFor (w.filterMap WideChar.char?)
  String.ofList (quote :: w.flatMap (WideChar.escaped quote) ++ [quote])

end WideText

end WidgetMarkup
