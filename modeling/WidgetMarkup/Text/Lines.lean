/-!
# Text files

A text file is decoded as UTF-8, and each of its line endings is read as a line feed: a carriage
return, a line feed, or both in this order.
-/
namespace WidgetMarkup.Text

def unifyLineEnds : List Char → List Char
  | [] => []
  | '\r' :: '\n' :: s => '\n' :: unifyLineEnds s
  | '\r' :: s => '\n' :: unifyLineEnds s
  | c :: s => c :: unifyLineEnds s

/-- The text in a file, if its bytes are valid UTF-8. -/
def ofFile? (content : ByteArray) : Option (List Char) :=
  (String.fromUTF8? content).map fun s => unifyLineEnds s.toList

/-- How many bytes are valid UTF-8, from a place on. -/
def validFrom (content : ByteArray) : Nat → Nat → Nat
  | 0, n => n
  | fuel + 1, n =>
    match content.utf8DecodeChar? n with
    | some c => validFrom content fuel (n + c.utf8Size)
    | none => n

/-- Whether bytes are the start of a character that goes on. -/
def beginsChar (bytes : ByteArray) : Bool :=
  [0x80, 0x90, 0xa0].any fun next =>
    ((bytes ++ ⟨#[next, 0x80, 0x80]⟩).utf8DecodeChar? 0).any fun c => bytes.size < c.utf8Size

/-- The text that is known from the first bytes of a file. A character that goes on has to wait for
the bytes that follow, and so does a carriage return, which may be half of a line ending. -/
def known (bytes : ByteArray) : List Char :=
  let text := (String.fromUTF8? (bytes.extract 0 (validFrom bytes bytes.size 0))).elim [] String.toList
  unifyLineEnds (if text.getLast? = some '\r' then text.dropLast else text)

/-- The least size of the blocks in which the bytes of a file are decoded. -/
def blockSize : Nat := 8192

/-- The text that is known before the first block with bytes that are not valid UTF-8, for a text that
is taken in portions. A block is as long as what is missing of a portion would be if its characters
were as long as those of the block before. -/
def knownBefore (portion : Nat) (content : ByteArray) (valid : Nat) :
    Nat → Nat → Nat → List Char → List Char
  | 0, _, _, text => text
  | fuel + 1, start, likely, text =>
    let stop := min content.size (start + max blockSize likely)
    if stop = start || (valid < stop && !beginsChar (content.extract valid stop)) then text
    else
      let longer := known (content.extract 0 stop)
      let missing := portion - longer.length % portion
      knownBefore portion content valid fuel stop
        ((stop - start) * missing / (longer.length - text.length)) longer

/-- The text in a file, taken in portions, before it shows that the bytes are not valid UTF-8. -/
def beforeInvalid (portion : Nat) (content : ByteArray) : List Char :=
  knownBefore portion content (validFrom content content.size 0) content.size 0 0 []

end WidgetMarkup.Text
