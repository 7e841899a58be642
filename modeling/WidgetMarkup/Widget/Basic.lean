/-!
# Widget descriptors

A widget has a class name and typed parameters. The value of a parameter is a text, a flag, a
widget, or a list of these, so that widgets nest. What describes a widget or a parameter by itself
is kept apart from what nests.
-/
namespace WidgetMarkup

/-- How the value of a parameter is meant. -/
inductive ParamKind where
  /-- Text to be quoted. -/
  | literal
  /-- Code to be pasted. -/
  | expression
  /-- Code to be wrapped in a callback. -/
  | closure
  | widget
  | widgets
  | array
deriving DecidableEq, Repr

namespace ParamKind

def label : ParamKind → String
  | literal => "literal"
  | expression => "expression"
  | closure => "closure"
  | widget => "widget"
  | widgets => "widgets"
  | array => "array"

def all : List ParamKind :=
  [literal, expression, closure, widget, widgets, array]

def ofLabel? (label : String) : Option ParamKind :=
  all.find? (·.label == label)

/-- The kind that the first character of an attribute name asks for, and the name without it. -/
def ofAttribute (name : String) : ParamKind × String :=
  match name.toList with
  | c :: rest =>
    if c = ':' then (expression, String.ofList rest)
    else if c = '@' then (closure, String.ofList rest)
    else (literal, name)
  | [] => (literal, name)

end ParamKind

/-- A widget apart from its parameters. -/
structure WidgetInfo where
  /-- The name of its class. -/
  name : String
  /-- The name as it stands in the markup. -/
  originalName : String
  constant : Bool := false
  /-- Type arguments. -/
  generics : Option (List String) := none
  line : Option Int := none
  column : Option Int := none
deriving DecidableEq, Repr

/-- A parameter apart from its value. -/
structure ParamInfo where
  kind : ParamKind
  /-- The default parameter has no name. -/
  name : Option String := none
  /-- Whether name and value are to be used exactly as they are. -/
  resolved : Bool := false
  /-- The name as it stands in the markup, without the character for its kind. -/
  originalName : Option String := none
deriving DecidableEq, Repr

mutual

inductive Widget where
  | mk (info : WidgetInfo) (params : List Param)
deriving Repr

inductive Param where
  | mk (info : ParamInfo) (value : Value)
deriving Repr

inductive Value where
  | text (s : String)
  | flag (b : Bool)
  | widget (w : Widget)
  | list (items : List Value)
deriving Repr

end

instance : Inhabited Widget := ⟨.mk ⟨"", "", false, none, none, none⟩ []⟩

mutual

/-- A widget and all widgets in its parameters, whatever their kind, in pre-order. -/
def Widget.within : Widget → List Widget
  | .mk info params => .mk info params :: Param.withinAll params

def Param.within : Param → List Widget
  | .mk _ value => value.within

def Value.within : Value → List Widget
  | .text _ => []
  | .flag _ => []
  | .widget w => w.within
  | .list items => Value.withinAll items

def Param.withinAll : List Param → List Widget
  | [] => []
  | p :: ps => p.within ++ Param.withinAll ps

def Value.withinAll : List Value → List Widget
  | [] => []
  | v :: vs => v.within ++ Value.withinAll vs

end

namespace Param

def info : Param → ParamInfo
  | mk i _ => i

def value : Param → Value
  | mk _ v => v

def name (p : Param) : Option String :=
  p.info.name

end Param

namespace Value

/-- The widget that a value is. -/
def widget? : Value → Option Widget
  | widget w => some w
  | _ => none

end Value

namespace Widget

def info : Widget → WidgetInfo
  | mk i _ => i

def params : Widget → List Param
  | mk _ ps => ps

/-- The first parameter of a name, or the first without a name. -/
def param? (w : Widget) (name : Option String) : Option Param :=
  w.params.find? (·.name == name)

/-- The parameter that holds the content of a widget. -/
def childrenName : String := "children"

/-- A value that has no items was taken for one that has. -/
structure NotIterable where
deriving DecidableEq, Repr

/-- The widgets among the items of a value. A text has no widgets among its characters. -/
def widgetsIn : Value → Except NotIterable (List Widget)
  | .list items => .ok (items.filterMap Value.widget?)
  | .text _ => .ok []
  | .flag _ | .widget _ => .error {}

/-- The content of a widget: the widgets in its parameter `children`, if that holds widgets. -/
def children (w : Widget) : Except NotIterable (List Widget) :=
  match w.param? (some childrenName) with
  | some p => if p.info.kind = .widgets then widgetsIn p.value else .ok []
  | none => .ok []

end Widget

end WidgetMarkup
