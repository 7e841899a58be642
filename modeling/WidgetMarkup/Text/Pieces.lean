/-!
# Cutting a text at a separator

The pieces between the separators, so that a text with `n` separators has `n + 1` pieces and every
text has at least one.
-/
namespace WidgetMarkup.Text

def pieces (separator : Char) : List Char → List (List Char)
  | [] => [[]]
  | c :: s =>
    if c = separator then [] :: pieces separator s
    else
      match pieces separator s with
      | [] => [[c]]
      | p :: ps => (c :: p) :: ps

end WidgetMarkup.Text
