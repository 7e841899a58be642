import Mathlib.Data.List.Basic
import WidgetMarkup.Widget.Document

/-!
# Reading widgets back

A widget can be read back from its document, although fields that are not set are left out: each field
has a kind of value that tells whether it was there. The reader looks fields up by their names, so the
order of the fields does not count. It follows that no two widgets have the same document.
-/
namespace WidgetMarkup

namespace Json

mutual

/-- Documents that have the same items in the same order and the same fields in any order. -/
inductive Same : Json → Json → Prop
  | null : Same .null .null
  | bool (b : Bool) : Same (.bool b) (.bool b)
  | int (n : Int) : Same (.int n) (.int n)
  | str (s : String) : Same (.str s) (.str s)
  | arr {items items' : List Json} : SameItems items items' → Same (.arr items) (.arr items')
  | obj {fields fields' : List (String × Json)} :
      (∀ key, SameField (fields.lookup key) (fields'.lookup key)) → Same (.obj fields) (.obj fields')

inductive SameItems : List Json → List Json → Prop
  | nil : SameItems [] []
  | cons {j j' : Json} {js js' : List Json} :
      Same j j' → SameItems js js' → SameItems (j :: js) (j' :: js')

/-- The same field, or none in both. -/
inductive SameField : Option Json → Option Json → Prop
  | none : SameField none none
  | some {j j' : Json} : Same j j' → SameField (some j) (some j')

end

end Json

def Json.str? : Json → Option String
  | .str s => some s
  | _ => none

def Json.bool? : Json → Option Bool
  | .bool b => some b
  | _ => none

def Json.int? : Json → Option Int
  | .int n => some n
  | _ => none

def Json.strs? : Json → Option (List String)
  | .arr items => items.mapM Json.str?
  | _ => none

/-- A field that may be missing. -/
def optional? {α : Type} (read : Json → Option α) : Option Json → Option (Option α)
  | none => some none
  | some j => (read j).map some

def WidgetInfo.ofFields? (fields : List (String × Json)) : Option WidgetInfo := do
  guard ((fields.lookup "class").bind Json.str? = some "widget")
  return {
    name := ← (fields.lookup "name").bind Json.str?
    originalName := ← (fields.lookup "originalName").bind Json.str?
    constant := ← (fields.lookup "constant").bind Json.bool?
    generics := ← optional? Json.strs? (fields.lookup "generics")
    line := ← optional? Json.int? (fields.lookup "line")
    column := ← optional? Json.int? (fields.lookup "column") }

def ParamInfo.ofFields? (fields : List (String × Json)) : Option ParamInfo := do
  guard ((fields.lookup "class").bind Json.str? = some "param")
  return {
    kind := ← ((fields.lookup "type").bind Json.str?).bind ParamKind.ofLabel?
    name := ← optional? Json.str? (fields.lookup "name")
    resolved := ← (fields.lookup "resolved").bind Json.bool?
    originalName := ← optional? Json.str? (fields.lookup "originalName") }

/-- A widget from the fields of an object and its parameters. -/
def Widget.ofParts? (fields : List (String × Json)) (params : Option (List Param)) :
    Option Widget := do
  return .mk (← WidgetInfo.ofFields? fields) (← params)

mutual

def Value.ofJson? : Json → Option Value
  | .str s => some (.text s)
  | .bool b => some (.flag b)
  | .arr items => (Value.listOfJson? items).map .list
  | .obj fields => (Widget.ofParts? fields (Param.inFields? fields)).map .widget
  | _ => none

def Value.listOfJson? : List Json → Option (List Value)
  | [] => some []
  | j :: js => do return (← Value.ofJson? j) :: (← Value.listOfJson? js)

/-- The parameters among the fields of a widget; there are none if the field is missing. -/
def Param.inFields? : List (String × Json) → Option (List Param)
  | [] => some []
  | (key, j) :: fields => if key = "params" then Param.allOfJson? j else Param.inFields? fields

def Param.allOfJson? : Json → Option (List Param)
  | .arr items => Param.listOfJson? items
  | _ => none

def Param.listOfJson? : List Json → Option (List Param)
  | [] => some []
  | j :: js => do return (← Param.ofJson? j) :: (← Param.listOfJson? js)

def Param.ofJson? : Json → Option Param
  | .obj fields => do return .mk (← ParamInfo.ofFields? fields) (← Value.inFields? fields)
  | _ => none

/-- The value among the fields of a parameter. -/
def Value.inFields? : List (String × Json) → Option Value
  | [] => none
  | (key, j) :: fields => if key = "value" then Value.ofJson? j else Value.inFields? fields

end

def Widget.ofJson? : Json → Option Widget
  | .obj fields => Widget.ofParts? fields (Param.inFields? fields)
  | _ => none

theorem optional?_map {α : Type} {read : Json → Option α} {render : α → Json}
    (h : ∀ a, read (render a) = some a) (o : Option α) :
    optional? read (o.map render) = some o := by
  cases o with
  | none => rfl
  | some a => simp [optional?, h]

theorem Json.strs?_arr (names : List String) :
    Json.strs? (.arr (names.map .str)) = some names := by
  have hitems : (names.map Json.str).mapM Json.str? = some names := by
    induction names with
    | nil => rfl
    | cons name names ih => simp [List.mapM_cons, Json.str?, ih]
  exact hitems

theorem ParamKind.ofLabel?_label (kind : ParamKind) : ParamKind.ofLabel? kind.label = some kind := by
  cases kind <;> rfl

theorem lookup_optionalField {α : Type} (key key' : String) (render : α → Json) (o : Option α) :
    (optionalField key' render o).lookup key = if key = key' then o.map render else none := by
  cases o with
  | none => simp [optionalField]
  | some a =>
    by_cases h : key = key'
    · simp [optionalField, h]
    · simp [optionalField, List.lookup_cons, h, beq_eq_false_iff_ne.2 h]

namespace Json

/-- A document that is the same only as itself. -/
def IsPlain (j : Json) : Prop :=
  ∀ j', Same j' j → j' = j

@[simp]
theorem isPlain_str (s : String) : IsPlain (.str s) := by
  intro j h
  cases h
  rfl

@[simp]
theorem isPlain_bool (b : Bool) : IsPlain (.bool b) := by
  intro j h
  cases h
  rfl

@[simp]
theorem isPlain_int (n : Int) : IsPlain (.int n) := by
  intro j h
  cases h
  rfl

theorem eq_of_sameItems {items items' : List Json} (h : SameItems items' items)
    (hplain : ∀ j ∈ items, IsPlain j) : items' = items := by
  induction items generalizing items' with
  | nil =>
    cases h
    rfl
  | cons j items ih =>
    obtain ⟨hj, hitems⟩ := List.forall_mem_cons.1 hplain
    cases h with
    | cons hsame hrest => rw [hj _ hsame, ih hrest hitems]

@[simp]
theorem isPlain_strs (names : List String) : IsPlain (.arr (names.map .str)) := by
  intro j h
  cases h with
  | arr hsame => rw [eq_of_sameItems hsame (by simp)]

end Json

/-- The fields of two objects are the same in any order. -/
def SameFields (fields fields' : List (String × Json)) : Prop :=
  ∀ key, Json.SameField (fields.lookup key) (fields'.lookup key)

/-- Fields without fields of their own are found as they are. -/
theorem SameFields.lookup_eq {fields fields' : List (String × Json)}
    (h : SameFields fields fields') {key : String} {field : Option Json}
    (hkey : fields'.lookup key = field) (hplain : ∀ j ∈ field, j.IsPlain) :
    fields.lookup key = field := by
  have hfield := h key
  rw [hkey] at hfield
  generalize fields.lookup key = field' at hfield
  cases hfield with
  | none => rfl
  | some hsame => rw [hplain _ rfl _ hsame]

/-- The fields in the document of a widget. -/
def widgetFields (info : WidgetInfo) (params : List Param) : List (String × Json) :=
  info.fieldsBefore ++
    (if params.isEmpty then [] else [("params", .arr (Param.listToJson params))]) ++
    info.fieldsAfter

/-- The fields in the document of a parameter. -/
def paramFields (info : ParamInfo) (value : Value) : List (String × Json) :=
  info.fieldsBefore ++ [("value", value.toJson), ("resolved", .bool info.resolved)]

theorem lookup_widgetFields (info : WidgetInfo) (params : List Param) :
    (widgetFields info params).lookup "class" = some (.str "widget") ∧
    (widgetFields info params).lookup "name" = some (.str info.name) ∧
    (widgetFields info params).lookup "originalName" = some (.str info.originalName) ∧
    (widgetFields info params).lookup "constant" = some (.bool info.constant) ∧
    (widgetFields info params).lookup "generics" =
      info.generics.map (fun names => .arr (names.map .str)) ∧
    (widgetFields info params).lookup "params" =
      (if params.isEmpty then none else some (.arr (Param.listToJson params))) ∧
    (widgetFields info params).lookup "line" = info.line.map .int ∧
    (widgetFields info params).lookup "column" = info.column.map .int := by
  cases params with
  | nil =>
    simp [widgetFields, WidgetInfo.fieldsBefore, WidgetInfo.fieldsAfter, List.lookup_append,
      lookup_optionalField, List.lookup_cons]
  | cons p ps =>
    simp [widgetFields, WidgetInfo.fieldsBefore, WidgetInfo.fieldsAfter, List.lookup_append,
      lookup_optionalField, List.lookup_cons]

theorem lookup_paramFields (info : ParamInfo) (value : Value) :
    (paramFields info value).lookup "class" = some (.str "param") ∧
    (paramFields info value).lookup "type" = some (.str info.kind.label) ∧
    (paramFields info value).lookup "name" = info.name.map .str ∧
    (paramFields info value).lookup "originalName" = info.originalName.map .str ∧
    (paramFields info value).lookup "value" = some value.toJson ∧
    (paramFields info value).lookup "resolved" = some (.bool info.resolved) := by
  simp [paramFields, ParamInfo.fieldsBefore, List.lookup_append, lookup_optionalField,
    List.lookup_cons]

section Fields

variable {fields : List (String × Json)}

theorem WidgetInfo.ofFields?_of_same {info : WidgetInfo} {params : List Param}
    (h : SameFields fields (widgetFields info params)) : WidgetInfo.ofFields? fields = some info := by
  obtain ⟨hclass, hname, horiginal, hconstant, hgenerics, -, hline, hcolumn⟩ :=
    lookup_widgetFields info params
  have hint : ∀ n, Json.int? (.int n) = some n := fun _ => rfl
  rw [WidgetInfo.ofFields?, h.lookup_eq hclass (by simp), h.lookup_eq hname (by simp),
    h.lookup_eq horiginal (by simp), h.lookup_eq hconstant (by simp),
    h.lookup_eq hgenerics (by simp), h.lookup_eq hline (by simp), h.lookup_eq hcolumn (by simp),
    optional?_map Json.strs?_arr, optional?_map hint, optional?_map hint]
  rfl

theorem ParamInfo.ofFields?_of_same {info : ParamInfo} {value : Value}
    (h : SameFields fields (paramFields info value)) : ParamInfo.ofFields? fields = some info := by
  obtain ⟨hclass, htype, hname, horiginal, -, hresolved⟩ := lookup_paramFields info value
  have hstr : ∀ s, Json.str? (.str s) = some s := fun _ => rfl
  have hkind : ((some (Json.str info.kind.label)).bind Json.str?).bind ParamKind.ofLabel? =
      some info.kind := ParamKind.ofLabel?_label info.kind
  rw [ParamInfo.ofFields?, h.lookup_eq hclass (by simp), h.lookup_eq htype (by simp),
    h.lookup_eq hname (by simp), h.lookup_eq horiginal (by simp), h.lookup_eq hresolved (by simp),
    optional?_map hstr, optional?_map hstr, hkind]
  rfl

theorem Param.inFields?_eq (fields : List (String × Json)) :
    Param.inFields? fields = (fields.lookup "params").elim (some []) Param.allOfJson? := by
  induction fields with
  | nil => rfl
  | cons field fields ih =>
    obtain ⟨key, j⟩ := field
    by_cases hkey : key = "params"
    · simp [Param.inFields?, hkey]
    · have hne : ("params" == key) = false := beq_eq_false_iff_ne.2 (Ne.symm hkey)
      simp [Param.inFields?, List.lookup_cons, hkey, hne, ih]

theorem Value.inFields?_eq (fields : List (String × Json)) :
    Value.inFields? fields = (fields.lookup "value").bind Value.ofJson? := by
  induction fields with
  | nil => rfl
  | cons field fields ih =>
    obtain ⟨key, j⟩ := field
    by_cases hkey : key = "value"
    · simp [Value.inFields?, hkey]
    · have hne : ("value" == key) = false := beq_eq_false_iff_ne.2 (Ne.symm hkey)
      simp [Value.inFields?, List.lookup_cons, hkey, hne, ih]

end Fields

theorem Widget.ofParts?_of_same {fields : List (String × Json)} {info : WidgetInfo}
    {params : List Param} (h : SameFields fields (widgetFields info params))
    (hparams : ∀ items, Json.SameItems items (Param.listToJson params) →
      Param.listOfJson? items = some params) :
    Widget.ofParts? fields (Param.inFields? fields) = some (.mk info params) := by
  have hread : Param.inFields? fields = some params := by
    have hfield := h "params"
    rw [(lookup_widgetFields info params).2.2.2.2.2.1] at hfield
    rw [Param.inFields?_eq]
    generalize fields.lookup "params" = field at hfield
    cases params with
    | nil =>
      cases hfield
      rfl
    | cons p ps =>
      cases hfield with
      | some hsame =>
        cases hsame with
        | arr hitems => exact hparams _ hitems
  rw [Widget.ofParts?, WidgetInfo.ofFields?_of_same h, hread]
  rfl

/-- A parameter is read back if its value is. -/
theorem Param.ofJson?_obj_of_same {fields : List (String × Json)} {info : ParamInfo} {value : Value}
    (h : SameFields fields (paramFields info value))
    (hvalue : ∀ j : Json, j.Same value.toJson → Value.ofJson? j = some value) :
    Param.ofJson? (.obj fields) = some (.mk info value) := by
  have hread : Value.inFields? fields = some value := by
    have hfield := h "value"
    rw [(lookup_paramFields info value).2.2.2.2.1] at hfield
    rw [Value.inFields?_eq]
    generalize fields.lookup "value" = field at hfield
    cases hfield with
    | some hsame => exact hvalue _ hsame
  rw [Param.ofJson?, ParamInfo.ofFields?_of_same h, hread]
  rfl

mutual

theorem Widget.ofJson?_of_same : ∀ (w : Widget) (j : Json), j.Same w.toJson →
    Widget.ofJson? j = some w
  | .mk info params, j, h => by
    rw [Widget.toJson] at h
    cases h with
    | obj hfields => exact Widget.ofParts?_of_same hfields (Param.listOfJson?_of_same params)

theorem Param.ofJson?_of_same : ∀ (p : Param) (j : Json), j.Same p.toJson →
    Param.ofJson? j = some p
  | .mk info value, j, h => by
    rw [Param.toJson] at h
    cases h with
    | obj hfields => exact Param.ofJson?_obj_of_same hfields (Value.ofJson?_of_same value)

theorem Value.ofJson?_of_same : ∀ (v : Value) (j : Json), j.Same v.toJson →
    Value.ofJson? j = some v
  | .text s, j, h => by
    rw [Value.toJson] at h
    cases h
    rw [Value.ofJson?]
  | .flag b, j, h => by
    rw [Value.toJson] at h
    cases h
    rw [Value.ofJson?]
  | .widget w, j, h => by
    rw [Value.toJson] at h
    have hwidget := Widget.ofJson?_of_same w j h
    cases j with
    | obj fields => rw [Value.ofJson?, ← Widget.ofJson?, hwidget, Option.map_some]
    | _ => cases hwidget
  | .list items, j, h => by
    rw [Value.toJson] at h
    cases h with
    | arr hitems =>
      rw [Value.ofJson?, Value.listOfJson?_of_same items _ hitems, Option.map_some]

theorem Param.listOfJson?_of_same : ∀ (ps : List Param) (items : List Json),
    Json.SameItems items (Param.listToJson ps) → Param.listOfJson? items = some ps
  | [], items, h => by
    rw [Param.listToJson] at h
    cases h
    rw [Param.listOfJson?]
  | p :: ps, items, h => by
    rw [Param.listToJson] at h
    cases h with
    | cons hitem hrest =>
      rw [Param.listOfJson?, Param.ofJson?_of_same p _ hitem,
        Param.listOfJson?_of_same ps _ hrest]
      rfl

theorem Value.listOfJson?_of_same : ∀ (vs : List Value) (items : List Json),
    Json.SameItems items (Value.listToJson vs) → Value.listOfJson? items = some vs
  | [], items, h => by
    rw [Value.listToJson] at h
    cases h
    rw [Value.listOfJson?]
  | v :: vs, items, h => by
    rw [Value.listToJson] at h
    cases h with
    | cons hitem hrest =>
      rw [Value.listOfJson?, Value.ofJson?_of_same v _ hitem,
        Value.listOfJson?_of_same vs _ hrest]
      rfl

end

mutual

theorem Json.same_refl : ∀ j : Json, j.Same j
  | .null => .null
  | .bool b => .bool b
  | .int n => .int n
  | .str s => .str s
  | .arr items => .arr (Json.sameItems_refl items)
  | .obj fields => .obj (Json.sameField_refl fields)

theorem Json.sameItems_refl : ∀ items : List Json, Json.SameItems items items
  | [] => .nil
  | j :: items => .cons (Json.same_refl j) (Json.sameItems_refl items)

theorem Json.sameField_refl : ∀ (fields : List (String × Json)) (key : String),
    Json.SameField (fields.lookup key) (fields.lookup key)
  | [], key => .none
  | (key', j) :: fields, key => by
    rw [List.lookup_cons]
    cases key == key' with
    | true => exact .some (Json.same_refl j)
    | false => exact Json.sameField_refl fields key

end

/-- The document of a widget is faithful: the widget can be read back from it, whatever its parameters
hold and however deep they nest. Two widgets have the same document, up to the order of fields, only
if they are equal. -/
theorem Widget.toJson_faithful :
    (∀ w : Widget, Widget.ofJson? w.toJson = some w) ∧
      ∀ w w' : Widget, w.toJson.Same w'.toJson ↔ w = w' := by
  have hread : ∀ w : Widget, Widget.ofJson? w.toJson = some w :=
    fun w => Widget.ofJson?_of_same w _ (Json.same_refl _)
  refine ⟨hread, fun w w' => ⟨fun h => ?_, ?_⟩⟩
  · have hread' := Widget.ofJson?_of_same w' _ h
    rw [hread w] at hread'
    exact Option.some.inj hread'
  · rintro rfl
    exact Json.same_refl _

end WidgetMarkup
