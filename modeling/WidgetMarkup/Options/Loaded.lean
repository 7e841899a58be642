import WidgetMarkup.Disk.Basic
import WidgetMarkup.Options.Basic
import WidgetMarkup.Text.Wide
import WidgetMarkup.Yaml.Error

/-!
# Options as they are loaded

The aliases in an options file are wide texts. The class of text widgets may have halves of surrogate
pairs in it then, and documents with such widgets cannot be encoded. Everywhere else a half does what
any character does that is neither a letter nor a digit: no tag has it in its name, and Pascal case
drops it.
-/
namespace WidgetMarkup

structure LoadedOptions where
  tagAliases : List (WideText × WideText) := [(.ofString "text", .ofString "Text")]
  autoConstText : Bool := false
deriving DecidableEq, Repr

namespace LoadedOptions

/-- The options for the compiler. An alias for a name that no tag can have is left out. -/
def options (l : LoadedOptions) : Options where
  tagAliases := (l.tagAliases.filter (·.1.isText)).map fun e => (e.1.replaced, e.2.replaced)
  autoConstText := l.autoConstText

/-- Whether the class of text widgets has an encoding. -/
def encodesText (l : LoadedOptions) : Bool :=
  (l.tagAliases.lookup (.ofString "text")).all WideText.isText

/-- The aliases as the log shows them. -/
def showAliases (l : LoadedOptions) : String :=
  let shown := l.tagAliases.map fun (k, v) => k.quoted ++ ": " ++ v.quoted
  "\x7b" ++ String.intercalate ", " shown ++ "\x7d"

end LoadedOptions

/-- A failure to load options that nobody has provided for. -/
inductive Options.LoadFailure where
  | notText
  | scalar (e : Yaml.ScalarError)
  | disk (e : DiskError)
  /-- The file is nested deeper than the stack allows. -/
  | stack
  /-- Any other failure of what reads the file, by its name. -/
  | other (name : String)
deriving DecidableEq, Repr

end WidgetMarkup
