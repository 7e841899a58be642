/-!
# Compile options

Tags may go by other names: an alias replaces the name of a tag before the name of its class is
made. The alias of `text` is special, for it names the class of text widgets, exactly as written.
-/
namespace WidgetMarkup

structure Options where
  /-- Replacements for tag names, in the order in which they were given. -/
  tagAliases : List (String × String) := [("text", "Text")]
  /-- Whether text widgets without interpolation are constant. -/
  autoConstText : Bool := false
deriving DecidableEq, Repr

namespace Options

instance : Inhabited Options := ⟨{}⟩

/-- The name that a tag goes by. -/
def resolve (o : Options) (name : String) : String :=
  (o.tagAliases.lookup name).getD name

/-- The class of text widgets where no alias names one. -/
def defaultTextWidget : String := "Text"

/-- The class of text widgets. -/
def textWidget (o : Options) : String :=
  (o.tagAliases.lookup "text").getD defaultTextWidget

end Options

end WidgetMarkup
