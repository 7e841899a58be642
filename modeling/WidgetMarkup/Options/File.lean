import WidgetMarkup.Disk.Basic
import WidgetMarkup.Options.Validation
import WidgetMarkup.Text.Lines
import WidgetMarkup.Yaml.Basic

/-!
# Options from a file

Options are read from a YAML file. If there is no file, the defaults apply. Besides being no good
options file, a file can be no text at all, or hold a scalar that is no value of its kind; and its
path can be too long to look it up. How deep a file may be nested is not looked at here.
-/
namespace WidgetMarkup.Options

inductive LoadError where
  | options (e : OptionsError)
  | failure (e : LoadFailure)
deriving DecidableEq, Repr

/-- The content of a file as a YAML text. -/
def source (content : ByteArray) : Yaml.Source :=
  match Text.ofFile? content with
  | some text => .ofText text none
  | none => .ofText (Text.beforeInvalid Yaml.Source.portion content) (some .notText)

/-- Options are a mapping with a mapping in it. -/
def depth : Nat := 2

/-- Options from the content of a file with a name. -/
def ofContent (name : String) (content : ByteArray) : Except LoadError LoadedOptions :=
  match Yaml.read depth (source content) with
  | .error .malformed | .error .unclosed => .error (.options (.malformed name))
  | .error .notText => .error (.failure .notText)
  | .error (.scalar e) => .error (.failure (.scalar e))
  | .ok data => (Options.ofData data).mapError .options

def load (d : Disk) (p : Path) : Except LoadError LoadedOptions :=
  match d.pathExists p with
  | .error e => .error (.failure (.disk e))
  | .ok false => .ok {}
  | .ok true =>
    match d.read p with
    | .error e => .error (.options (.unreadable p.name (e.message p)))
    | .ok content => ofContent p.name content

end WidgetMarkup.Options
