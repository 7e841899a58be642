import WidgetMarkup.Compile.Metadata
import WidgetMarkup.Naming
import WidgetMarkup.Text.Reference
import WidgetMarkup.Widget.Basic

/-!
# Parameters from attributes

The first character of an attribute name says how its value is meant, and so does a colon at the
start of the value. A caret before the rest of the name asks for the name to be kept; other names
are put in camel case, and the name `value` stands for the default parameter. An attribute whose
value is its own name, or that has no value, is a flag.
-/
namespace WidgetMarkup.Compile

open Markup (StartTag)
open Text

/-- The name of a parameter, and whether it is to be kept as it is. -/
def paramName (name : String) : Option String × Bool :=
  match name.toList with
  | '^' :: rest => (some (String.ofList rest), true)
  | _ =>
    let camel := Naming.camelCase name
    (if camel = "value" then none else some camel, false)

/-- The value of a parameter, given the attribute name as written. -/
def paramValue (written : String) : Option String → Except NumeralTooLong Value
  | none => .ok (.flag true)
  | some value =>
    if value = written then .ok (.flag true)
    else do
      let decoded ← decodeReferences value.toList
      pure (.text (String.ofList decoded))

/-- A parameter from an attribute: its name as written, its kind, its name without the character for
the kind, and its value without a colon. -/
def makeParam (written : String) (kind : ParamKind) (name : String) (value : Option String) :
    Except NumeralTooLong Param := do
  let (shown, resolved) := paramName name
  let value ← paramValue written value
  pure (.mk { kind, name := shown, resolved, originalName := some name } value)

/-- The value without the colon that marks an expression, and whether it had one. -/
def expressionValue? (value : String) : Option String :=
  match value.toList with
  | ':' :: rest => some (String.ofList rest)
  | _ => none

/-- What an attribute says about its widget. -/
inductive Part where
  | position
  | generics (names : Option (List String))
  | param (p : Param)

namespace Part

def param? : Part → Option Param
  | param p => some p
  | _ => none

def generics? : Part → Option (List String)
  | generics names => names
  | _ => none

end Part

/-- What one attribute says. -/
def readAttribute (tag : StartTag) (position : Option Int × Option Int)
    (entry : String × Option String) : Traced Part :=
  let (name, raw) := entry
  let (kind, bare) := ParamKind.ofAttribute name
  let (kind, value) := match raw.bind expressionValue? with
    | some rest => (.expression, some rest)
    | none => (kind, raw)
  if name = positionAttribute then return .position
  else if name = genericsAttribute then do
    let names ← readGenerics tag position (if raw = some name then none else value)
    return .generics names
  else do
    let p ← Traced.lift (makeParam name kind bare value)
    return .param p

/-- What the attributes of a tag say: the position, the type arguments and the parameters, these in
the order of the attributes. -/
structure Classified where
  position : Option Int × Option Int
  generics : Option (List String)
  params : List Param

/-- Reads the position first, so that later problems can be placed there. -/
def classify (tag : StartTag) : Traced Classified := do
  let position ← match tag.attributes.find? positionAttribute with
    | some value => readPosition tag value
    | none => pure (none, none)
  let parts ← Traced.each (readAttribute tag position) tag.attributes.entries
  return ⟨position, parts.findSome? Part.generics?, parts.filterMap Part.param?⟩

end WidgetMarkup.Compile
