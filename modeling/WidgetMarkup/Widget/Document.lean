import WidgetMarkup.Json.Basic
import WidgetMarkup.Widget.Basic

/-!
# Widgets as JSON

The form in which widgets are handed on. Fields that are not set are left out, and so is an empty
list of parameters.
-/
namespace WidgetMarkup

/-- A field for a value that may be missing. -/
def optionalField {α : Type} (key : String) (render : α → Json) : Option α → List (String × Json)
  | some a => [(key, render a)]
  | none => []

def WidgetInfo.fieldsBefore (i : WidgetInfo) : List (String × Json) :=
  [("class", .str "widget"), ("name", .str i.name), ("originalName", .str i.originalName),
    ("constant", .bool i.constant)] ++
    optionalField "generics" (fun names => .arr (names.map .str)) i.generics

def WidgetInfo.fieldsAfter (i : WidgetInfo) : List (String × Json) :=
  optionalField "line" .int i.line ++ optionalField "column" .int i.column

def ParamInfo.fieldsBefore (i : ParamInfo) : List (String × Json) :=
  [("class", .str "param"), ("type", .str i.kind.label)] ++
    optionalField "name" .str i.name ++ optionalField "originalName" .str i.originalName

mutual

def Widget.toJson : Widget → Json
  | .mk info params =>
    .obj (info.fieldsBefore ++
      (if params.isEmpty then [] else [("params", .arr (Param.listToJson params))]) ++
      info.fieldsAfter)

def Param.toJson : Param → Json
  | .mk info value =>
    .obj (info.fieldsBefore ++ [("value", value.toJson), ("resolved", .bool info.resolved)])

def Value.toJson : Value → Json
  | .text s => .str s
  | .flag b => .bool b
  | .widget w => w.toJson
  | .list items => .arr (Value.listToJson items)

def Param.listToJson : List Param → List Json
  | [] => []
  | p :: ps => p.toJson :: Param.listToJson ps

def Value.listToJson : List Value → List Json
  | [] => []
  | v :: vs => v.toJson :: Value.listToJson vs

end

end WidgetMarkup
