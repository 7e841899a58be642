import WidgetMarkup.Yaml.Cursor

/-!
# Plain scalars

A scalar without quotes goes on over spaces and line breaks for as long as the lines are indented.
It ends at a comment, at a colon that a space follows, and inside of brackets also at punctuation. A
line break inside of it counts as a space, further line breaks as themselves.
-/
namespace WidgetMarkup.Yaml.Plain

/-- Punctuation of flow collections. -/
def isFlowMark (c : Char) : Bool :=
  c == ',' || c == '[' || c == ']' || c == '{' || c == '}'

/-- Whether a run of characters ends before `c`, which `d` follows. -/
def endsRun (flow : Bool) (c d : Char) : Bool :=
  isSeparator c || (c == ':' && (isSeparator d || (flow && isFlowMark d))) ||
    (flow && (isFlowMark c || c == '?'))

/-- The characters up to the end of the run. -/
def run (flow : Bool) : List Char → List Char
  | [] => []
  | c :: s => if endsRun flow c (s.head?.getD endMark) then [] else c :: run flow s

/-- Blank lines after a line break, and the spaces around them. Stops before a document marker,
and then says so. -/
def blankLines : Nat → Cursor → List Char × Cursor × Bool
  | 0, c => ([], c, false)
  | fuel + 1, c =>
    if c.peek == ' ' then blankLines fuel c.next
    else if isBreak c.peek then
      let (b, c) := c.lineBreak
      if c.atDocumentMarker then ([], c, true)
      else
        let (bs, c, stop) := blankLines fuel c
        (b ++ bs, c, stop)
    else ([], c, false)

/-- What stands between two runs, the cursor after it, and whether there was a line break. There is
nothing between runs before a document marker. -/
def gap (c : Cursor) : List Char × Cursor × Bool :=
  let spaces := c.taken (· == ' ')
  let c := c.skipSpaces
  if isBreak c.peek then
    let (b, c) := c.lineBreak
    if c.atDocumentMarker then ([], c, true)
    else
      let (bs, c, stop) := blankLines c.rest.length c
      if stop then ([], c, true)
      else if b != ['\n'] then (b ++ bs, c, true)
      else if bs.isEmpty then ([' '], c, true)
      else (bs, c, true)
  else (spaces, c, false)

/-- The runs of a scalar joined by the gaps between them, the cursor after it, and whether the last
gap had a line break. -/
def runs (flow : Bool) (indent : Nat) : Nat → List Char → Bool → Cursor →
    List Char × Cursor × Bool
  | 0, _, broke, c => ([], c, broke)
  | fuel + 1, before, broke, c =>
    let text := run flow c.rest
    if c.peek == '#' || text.isEmpty then ([], c, broke)
    else
      let (between, c, broke) := gap (c.skip text.length)
      if between.isEmpty || c.peek == '#' || (!flow && c.column < indent) then
        (before ++ text, c, broke)
      else
        let (more, c, broke) := runs flow indent fuel between broke c
        (before ++ text ++ more, c, broke)

/-- A plain scalar, the cursor after it, and whether it ends with a line break. -/
def read (flow : Bool) (indent : Nat) (c : Cursor) : String × Cursor × Bool :=
  let (text, c, broke) := runs flow indent (c.rest.length + 1) [] false c
  (String.ofList text, c, broke)

end WidgetMarkup.Yaml.Plain
