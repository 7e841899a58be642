/-!
# Identifier names

A name written in any style is a sequence of words. Characters other than Latin letters and digits
separate words, a capital after a small letter or a digit starts a word, and so does the last
capital of a run of capitals that a small letter follows: `HTTPClient` is `HTTP` and `Client`.

Parameters take their names in camel case, classes in Pascal case.
-/
namespace WidgetMarkup.Naming

/-- Whether a word starts at `d`, which follows `c` and is followed by `rest`. -/
def startsWord (c d : Char) (rest : List Char) : Bool :=
  ((c.isLower || c.isDigit) && d.isUpper) ||
    (c.isUpper && d.isUpper && rest.head?.any Char.isLower)

/-- Whether the word of `c` goes on with the text after it. -/
def continues (c : Char) : List Char → Bool
  | d :: rest => d.isAlphanum && !startsWord c d rest
  | [] => false

/-- Puts a character in front of the first word. -/
def extendFirst (c : Char) : List (List Char) → List (List Char)
  | w :: ws => (c :: w) :: ws
  | [] => [[c]]

/-- The words of a name, in order. -/
def splitWords : List Char → List (List Char)
  | [] => []
  | c :: s =>
    if !c.isAlphanum then splitWords s
    else if continues c s then extendFirst c (splitWords s)
    else [c] :: splitWords s

def words (name : String) : List String :=
  (splitWords name.toList).map String.ofList

/-- The word with its first letter capital and the others small. -/
def capitalize : List Char → List Char
  | [] => []
  | c :: s => c.toUpper :: s.map Char.toLower

/-- The word with its first letter capital and the others as they are. -/
def raiseFirst : List Char → List Char
  | [] => []
  | c :: s => c.toUpper :: s

def camelChars (name : List Char) : List Char :=
  match splitWords name with
  | [] => []
  | w :: ws => w.map Char.toLower ++ ws.flatMap capitalize

/-- `main-axis` becomes `mainAxis`. -/
def camelCase (name : String) : String :=
  String.ofList (camelChars name.toList)

/-- `main-axis` becomes `MainAxis`. -/
def pascalCase (name : String) : String :=
  String.ofList (raiseFirst (camelChars name.toList))

end WidgetMarkup.Naming
