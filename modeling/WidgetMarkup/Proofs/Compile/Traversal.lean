import WidgetMarkup.Proofs.Compile.Outcome

/-!
# Widgets in document order

Going through a document in pre-order, one meets its tags and the lines of text in them that are
kept. Going through its widgets in the same way, one meets one widget for each of these, in the same
order and at the same depth: nothing is lost and nothing is there twice. The widgets in a tag stand
in the last parameter of its widget, and a tag without content has no such parameter.
-/
namespace WidgetMarkup.Compile

open Markup (Element StartTag)
open Text

/-- A trimmed line of text that is kept. -/
def Survives (line : List Char) : Prop :=
  line ≠ [] ∧ ¬['/', '/'] <+: line

instance (line : List Char) : Decidable (Survives line) :=
  inferInstanceAs (Decidable (_ ∧ _))

/-- What becomes a widget: a tag, or a line of text. -/
inductive Node where
  | tag (start : StartTag) (children : List Element)
  | line (text : List Char)

def lineNodes (data : String) : List Node :=
  (((pieces '\n' data.toList).map trim).filter fun line => decide (Survives line)).map .line

mutual

/-- What becomes a widget in an element, in pre-order, with its depth. -/
def elementNodes (depth : Nat) : Element → List (Nat × Node)
  | .text data => (lineNodes data).map fun n => (depth, n)
  | .tag start children => (depth, .tag start children) :: contentNodes (depth + 1) children

def contentNodes (depth : Nat) : List Element → List (Nat × Node)
  | [] => []
  | e :: es => elementNodes depth e ++ contentNodes depth es

end

/-- The same for an element at the root, where text becomes nothing. -/
def rootNodes : Element → List (Nat × Node)
  | .text _ => []
  | .tag start children => elementNodes 0 (.tag start children)

mutual

/-- A widget and the widgets in its parameters of kind `widgets`, in pre-order, with their depth. -/
def widgetNodes (depth : Nat) : Widget → List (Nat × Widget)
  | .mk info params => (depth, .mk info params) :: paramsNodes (depth + 1) params

def paramNodes (depth : Nat) : Param → List (Nat × Widget)
  | .mk info value => if info.kind = .widgets then valueNodes depth value else []

def valueNodes (depth : Nat) : Value → List (Nat × Widget)
  | .text _ => []
  | .flag _ => []
  | .widget w => widgetNodes depth w
  | .list items => valuesNodes depth items

def paramsNodes (depth : Nat) : List Param → List (Nat × Widget)
  | [] => []
  | p :: ps => paramNodes depth p ++ paramsNodes depth ps

def valuesNodes (depth : Nat) : List Value → List (Nat × Widget)
  | [] => []
  | v :: vs => valueNodes depth v ++ valuesNodes depth vs

end

/-- An element in a tag that becomes at least one widget. -/
def Contributes : Element → Prop
  | .text data => lineNodes data ≠ []
  | .tag _ _ => True

/-- Exactly one parameter holds widgets. It is the last one and is named `children`. -/
def EndsWithChildren (params : List Param) : Prop :=
  ∃ before last, params = before ++ [last] ∧ last.info.kind = .widgets ∧
    last.name = some "children" ∧ ∀ p ∈ before, p.info.kind ≠ .widgets

def Represents : Node → Widget → Prop
  | .tag start children, w =>
    w.info.originalName = start.name ∧
      w.info.constant = start.attributes.contains "const" ∧
      ((∃ e ∈ children, Contributes e) → EndsWithChildren w.params) ∧
      ((∀ e ∈ children, ¬Contributes e) → ∀ p ∈ w.params, p.info.kind ≠ .widgets)
  | .line text, w =>
    w.info.originalName = "text" ∧
      ∃ decoded, decodeReferences text = .ok decoded ∧
        w.params = [.mk { kind := .literal, resolved := true } (.text (String.ofList decoded))]

/-- What is met at a step through a document and what is met at a step through its widgets. -/
def Corresponds (n : Nat × Node) (v : Nat × Widget) : Prop :=
  n.1 = v.1 ∧ Represents n.2 v.2

theorem makeParam_eq_ok {written name : String} {kind : ParamKind} {value : Option String}
    {p : Param} (h : makeParam written kind name value = .ok p) :
    p.info = { kind, name := (paramName name).1, resolved := (paramName name).2,
               originalName := some name } ∧
      paramValue written value = .ok p.value := by
  simp only [makeParam] at h
  cases hvalue : paramValue written value with
  | error e =>
    rw [hvalue] at h
    cases h
  | ok v =>
    rw [hvalue] at h
    cases h
    exact ⟨rfl, rfl⟩

theorem ofAttribute_kind_ne_widgets (name : String) :
    (ParamKind.ofAttribute name).1 ≠ .widgets := by
  unfold ParamKind.ofAttribute
  split
  · split
    · simp
    · split <;> simp
  · simp

theorem kind_of_attributeParam {entry : String × Option String} {p : Param}
    (h : attributeParam entry = .ok p) : p.info.kind ≠ .widgets := by
  unfold attributeParam at h
  split at h
  · rw [(makeParam_eq_ok h).1]
    simp
  · rw [(makeParam_eq_ok h).1]
    exact ofAttribute_kind_ne_widgets entry.1

theorem originalName_of_attributeParam {entry : String × Option String} {p : Param}
    (h : attributeParam entry = .ok p) : p.info.originalName ≠ none := by
  unfold attributeParam at h
  split at h
  · rw [(makeParam_eq_ok h).1]
    simp
  · rw [(makeParam_eq_ok h).1]
    simp

theorem forall_attributeParams {P : Param → Prop} {entries : List (String × Option String)}
    {ps : List Param} (hP : ∀ e p, attributeParam e = .ok p → P p)
    (h : List.Forall₂ (fun e p => attributeParam e = .ok p) entries ps) : ∀ p ∈ ps, P p := by
  induction h with
  | nil => simp
  | cons hp _ ih => exact List.forall_mem_cons.2 ⟨hP _ _ hp, ih⟩

theorem kinds_of_attributeParams {entries : List (String × Option String)} {ps : List Param}
    (h : List.Forall₂ (fun e p => attributeParam e = .ok p) entries ps) :
    ∀ p ∈ ps, p.info.kind ≠ .widgets :=
  forall_attributeParams (fun _ _ => kind_of_attributeParam) h

theorem kind_of_childrenParam {ws : List Widget} : ∀ p ∈ childrenParam ws,
    p.info.kind = .widgets := by
  cases ws with
  | nil => simp [childrenParam]
  | cons w ws => simp [childrenParam, Param.info]

theorem paramsNodes_append (depth : Nat) (ps qs : List Param) :
    paramsNodes depth (ps ++ qs) = paramsNodes depth ps ++ paramsNodes depth qs := by
  induction ps with
  | nil => simp [paramsNodes]
  | cons p ps ih => simp [paramsNodes, ih]

theorem paramsNodes_of_kind_ne {depth : Nat} {ps : List Param}
    (h : ∀ p ∈ ps, p.info.kind ≠ .widgets) : paramsNodes depth ps = [] := by
  induction ps with
  | nil => simp [paramsNodes]
  | cons p ps ih =>
    obtain ⟨info, value⟩ := p
    obtain ⟨hkind, hrest⟩ := List.forall_mem_cons.1 h
    have hkind : info.kind ≠ .widgets := hkind
    simp [paramsNodes, paramNodes, hkind, ih hrest]

theorem valuesNodes_widgets (depth : Nat) (ws : List Widget) :
    valuesNodes depth (ws.map .widget) = ws.flatMap (widgetNodes depth) := by
  induction ws with
  | nil => simp [valuesNodes]
  | cons w ws ih => simp [valuesNodes, valueNodes, ih]

theorem paramsNodes_childrenParam (depth : Nat) (ws : List Widget) :
    paramsNodes depth (childrenParam ws) = ws.flatMap (widgetNodes depth) := by
  cases ws with
  | nil => simp [childrenParam, paramsNodes]
  | cons w ws =>
    simp only [childrenParam, paramsNodes, paramNodes, if_true, valueNodes, valuesNodes_widgets,
      List.append_nil]

theorem lineNodes_eq (data : String) : lineNodes data = (contentLines data).map .line := by
  unfold lineNodes contentLines
  refine congrArg _ (List.filter_congr fun line _ => ?_)
  rw [Bool.eq_iff_iff, decide_eq_true_eq, Bool.and_eq_true, Bool.not_eq_true', Bool.not_eq_true',
    List.isEmpty_eq_false_iff, ← Bool.not_eq_true, List.isPrefixOf_iff_prefix]
  rfl

/-- The content of a tag becomes no widget exactly if none of its elements does. -/
theorem contentNodes_eq_nil_iff {depth : Nat} {es : List Element} :
    contentNodes depth es = [] ↔ ∀ e ∈ es, ¬Contributes e := by
  induction es with
  | nil => simp [contentNodes]
  | cons e es ih =>
    rw [contentNodes, List.append_eq_nil_iff, ih, List.forall_mem_cons]
    refine and_congr_left fun _ => ?_
    cases e with
    | text data => simp [elementNodes, Contributes]
    | tag start children => simp [elementNodes, Contributes]

theorem flatMap_widgetNodes_eq_nil {depth : Nat} {ws : List Widget}
    (h : ws.flatMap (widgetNodes depth) = []) : ws = [] := by
  cases ws with
  | nil => rfl
  | cons w ws =>
    obtain ⟨info, params⟩ := w
    simp [widgetNodes] at h

section Correspondence

variable {o : Options} {ds : List Diagnostic}

/-- What compiling makes of a node: the widget of a tag with its content, or that of a line. -/
def Makes (o : Options) : Node → Widget → Prop
  | .tag start children, w => ∃ ds, (compileTag o start children).Gives w ds
  | .line text, w => ∃ ds, (textWidget o text).Gives w ds

/-- The same for nodes and widgets with their depth. -/
def MakesAt (o : Options) (n : Nat × Node) (v : Nat × Widget) : Prop :=
  n.1 = v.1 ∧ Makes o n.2 v.2

theorem makes_line {depth : Nat} {line : List Char} {w : Widget}
    (h : (textWidget o line).Gives w ds) :
    List.Forall₂ (MakesAt o) [(depth, .line line)] (widgetNodes depth w) := by
  have hmakes : Makes o (.line line) w := ⟨ds, h⟩
  obtain ⟨decoded, -, -, rfl⟩ := gives_textWidget h
  have hleaf : paramsNodes (depth + 1)
      [.mk { kind := .literal, resolved := true } (.text (String.ofList decoded))] = [] := by
    simp [paramsNodes, paramNodes]
  rw [widgetNodes, hleaf]
  exact .cons ⟨rfl, hmakes⟩ .nil

theorem makes_text {depth : Nat} {data : String} {ws : List Widget}
    (h : (widgetsOf o (.text data)).Gives ws ds) :
    List.Forall₂ (MakesAt o) (elementNodes depth (.text data))
      (ws.flatMap (widgetNodes depth)) := by
  obtain ⟨hlines, -⟩ := gives_widgetsOf_text h
  rw [elementNodes, lineNodes_eq, List.map_map]
  clear h
  generalize contentLines data = lines at hlines
  induction hlines with
  | nil => exact .nil
  | @cons line w lines ws hw _ ih =>
    obtain ⟨ds', hw⟩ := hw
    rw [List.flatMap_cons, List.map_cons, ← List.singleton_append]
    exact List.rel_append (makes_line hw) ih

/-- After the widget of a tag come those of its content, for its other parameters hold none. -/
theorem makes_tag {depth : Nat} {start : StartTag} {children : List Element} {w : Widget}
    (h : (compileTag o start children).Gives w ds)
    (hcontent : ∀ ws ds, (contentWidgets o children).Gives ws ds →
      List.Forall₂ (MakesAt o) (contentNodes (depth + 1) children)
        (ws.flatMap (widgetNodes (depth + 1)))) :
    List.Forall₂ (MakesAt o) (elementNodes depth (.tag start children))
      (widgetNodes depth w) := by
  have hmakes : Makes o (.tag start children) w := ⟨ds, h⟩
  obtain ⟨said, ws, ds₁, ds₂, hsaid, hws, -, rfl⟩ := gives_tagWidget h
  have hkinds := kinds_of_attributeParams (params_of_gives_classify hsaid)
  rw [elementNodes, widgetNodes, paramsNodes_append, paramsNodes_of_kind_ne hkinds,
    List.nil_append, paramsNodes_childrenParam]
  exact .cons ⟨rfl, hmakes⟩ (hcontent ws ds₂ hws)

mutual

theorem makes_element (o : Options) : ∀ (e : Element) (depth : Nat) (ws : List Widget)
    (ds : List Diagnostic), (widgetsOf o e).Gives ws ds →
      List.Forall₂ (MakesAt o) (elementNodes depth e) (ws.flatMap (widgetNodes depth))
  | .text data, depth, ws, ds, h => makes_text h
  | .tag start children, depth, ws, ds, h => by
    obtain ⟨w, rfl, hw⟩ := gives_widgetsOf_tag h
    rw [List.flatMap_singleton]
    exact makes_tag hw (makes_content o children (depth + 1))

theorem makes_content (o : Options) : ∀ (es : List Element) (depth : Nat)
    (ws : List Widget) (ds : List Diagnostic), (contentWidgets o es).Gives ws ds →
      List.Forall₂ (MakesAt o) (contentNodes depth es) (ws.flatMap (widgetNodes depth))
  | [], depth, ws, ds, h => by
    obtain ⟨rfl, -⟩ := gives_contentWidgets_nil h
    rw [contentNodes]
    exact .nil
  | e :: es, depth, ws, ds, h => by
    obtain ⟨us, vs, ds₁, ds₂, hus, hvs, rfl, -⟩ := gives_contentWidgets_cons h
    rw [contentNodes, List.flatMap_append]
    exact List.rel_append (makes_element o e depth us ds₁ hus)
      (makes_content o es depth vs ds₂ hvs)

end

theorem makes_root {e : Element} {ws : List Widget} (h : (rootWidgets o e).Gives ws ds) :
    List.Forall₂ (MakesAt o) (rootNodes e) (ws.flatMap (widgetNodes 0)) := by
  cases e with
  | text data =>
    obtain ⟨rfl, -⟩ := gives_rootWidgets_text h
    exact .nil
  | tag start children =>
    obtain ⟨w, rfl, hw⟩ := gives_rootWidgets_tag h
    rw [List.flatMap_singleton]
    exact makes_tag hw (makes_content o children 1)

/-- Every widget of a document is what compiling makes of the node that stands at its place. -/
theorem makes_compile {document : List Element} {ws : List Widget}
    (h : (compile o document).result = .ok ws) :
    List.Forall₂ (MakesAt o) (document.flatMap rootNodes) (ws.flatMap (widgetNodes 0)) := by
  obtain ⟨groups, hgroups, rfl⟩ := gives_compile (Traced.gives_diagnostics h)
  have hroots : List.Forall₂ (List.Forall₂ (MakesAt o)) (document.map rootNodes)
      (groups.map fun ws => ws.flatMap (widgetNodes 0)) := by
    rw [List.forall₂_map_left_iff, List.forall₂_map_right_iff]
    exact (Traced.values_of_gives_each hgroups).imp fun e ws hws => makes_root hws.choose_spec
  have hnodes := List.rel_flatten hroots
  rw [← List.flatMap_id, List.flatMap_assoc]
  rwa [← List.flatMap_def, ← List.flatMap_def] at hnodes

theorem represents_of_makes {n : Node} {w : Widget} (h : Makes o n w) : Represents n w := by
  cases n with
  | line text =>
    obtain ⟨ds, h⟩ := h
    obtain ⟨decoded, hdecoded, -, rfl⟩ := gives_textWidget h
    exact ⟨rfl, decoded, hdecoded, rfl⟩
  | tag start children =>
    obtain ⟨ds, h⟩ := h
    obtain ⟨said, ws, ds₁, ds₂, hsaid, hws, -, rfl⟩ := gives_tagWidget h
    have hinner := makes_content o children 0 ws ds₂ hws
    have hkinds := kinds_of_attributeParams (params_of_gives_classify hsaid)
    refine ⟨rfl, rfl, ?_, ?_⟩
    · rintro ⟨e, he, hcontributes⟩
      -- there is a child, so there is a widget for it
      cases ws with
      | nil =>
        rw [List.flatMap_nil, List.forall₂_nil_right_iff, contentNodes_eq_nil_iff] at hinner
        exact absurd hcontributes (hinner e he)
      | cons w ws => exact ⟨said.params, _, rfl, rfl, rfl, hkinds⟩
    · intro hnone
      rw [contentNodes_eq_nil_iff.2 hnone, List.forall₂_nil_left_iff] at hinner
      rw [flatMap_widgetNodes_eq_nil hinner]
      simpa [childrenParam, Widget.params] using hkinds

end Correspondence

/-- When a document is compiled, its tags and the lines of text in them that are kept correspond to
the widgets, one to one, in pre-order and with the same depth. -/
theorem compile_corresponds {o : Options} {document : List Element} {ws : List Widget}
    (h : (compile o document).result = .ok ws) :
    List.Forall₂ Corresponds (document.flatMap rootNodes) (ws.flatMap (widgetNodes 0)) :=
  (makes_compile h).imp fun _ _ hmakes => ⟨hmakes.1, represents_of_makes hmakes.2⟩

/-- A text outside of tags, and a constant tag around two lines of text with a comment between them
and a tag that holds nothing but a comment. -/
def sampleDocument : List Element :=
  [.text "stray",
    .tag
      { name := "Row"
        attributes :=
          { entries := [("const", some "const"), ("children", some "x")]
            nodup := by decide } }
      [.text "a &#60; b\n // note\n c",
        .tag { name := "br", attributes := default } [.text " // only a note"]]]

def sampleWidgets : List Widget :=
  [.mk { name := "Row", originalName := "Row", constant := true }
    [.mk { kind := .literal, name := some "const", originalName := some "const" } (.flag true),
      .mk { kind := .literal, name := some "children", originalName := some "children" } (.text "x"),
      .mk { kind := .widgets, name := some "children", resolved := true }
        (.list
          [.widget (.mk { name := "Text", originalName := "text" }
            [.mk { kind := .literal, resolved := true } (.text "a < b")]),
          .widget (.mk { name := "Text", originalName := "text" }
            [.mk { kind := .literal, resolved := true } (.text "c")]),
          .widget (.mk { name := "Br", originalName := "br" } [])])]]

theorem compile_corresponds_sample :
    (compile {} sampleDocument).result = .ok sampleWidgets ∧
      List.Forall₂ Corresponds (sampleDocument.flatMap rootNodes)
        (sampleWidgets.flatMap (widgetNodes 0)) := by
  have hresult : (compile {} sampleDocument).result = .ok sampleWidgets := by
    with_unfolding_all rfl
  exact ⟨hresult, compile_corresponds hresult⟩

end WidgetMarkup.Compile
