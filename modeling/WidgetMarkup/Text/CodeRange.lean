/-!
# Ranges of code points

A character class that no short formula describes is a list of ranges. A range holds both of its
ends.
-/
namespace WidgetMarkup.Text

/-- First and last code point of a run of characters. -/
abbrev CodeRange := Nat × Nat

namespace CodeRange

def contains (r : CodeRange) (c : Char) : Bool :=
  r.1 ≤ c.toNat && c.toNat ≤ r.2

/-- Whether some range of the table holds the character. -/
def covers (table : List CodeRange) (c : Char) : Bool :=
  table.any (·.contains c)

end CodeRange

end WidgetMarkup.Text
