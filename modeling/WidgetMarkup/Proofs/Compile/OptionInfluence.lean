import WidgetMarkup.Proofs.Compile.Traversal

/-!
# What options have an influence on

One document compiled with two sets of options gives widgets that differ in two respects only: in
their names, and in whether the widgets of text lines are constant. The diagnostics are the same, and
so is whether compiling returns. The proof runs both compilations side by side.

With given options, every name of a tag widget and every constant flag of a text widget is what the
options say, at every depth. A widget tells by itself whether it was made of a line of text, even
beside tags named `text`.
-/
namespace WidgetMarkup

open Markup (Element StartTag)

/-- Whether a widget was made of a line of text. A parameter that was made of an attribute keeps the
name as written, and a parameter that holds content is no literal. -/
def Widget.isLine : Widget → Bool
  | .mk info [.mk p (.text _)] =>
    info.originalName = "text" && p = { kind := .literal, resolved := true }
  | _ => false

mutual

/-- A widget without its name and without the constant flag of a text line. The same is erased in all
widgets inside. -/
def Widget.erase : Widget → Widget
  | .mk info params =>
    .mk { info with name := "", constant := info.constant && !(Widget.mk info params).isLine }
      (Param.eraseAll params)

def Param.erase : Param → Param
  | .mk info value => .mk info value.erase

def Value.erase : Value → Value
  | .text s => .text s
  | .flag b => .flag b
  | .widget w => .widget w.erase
  | .list items => .list (Value.eraseAll items)

def Param.eraseAll : List Param → List Param
  | [] => []
  | p :: ps => p.erase :: Param.eraseAll ps

def Value.eraseAll : List Value → List Value
  | [] => []
  | v :: vs => v.erase :: Value.eraseAll vs

end

theorem Param.eraseAll_eq_map (ps : List Param) : Param.eraseAll ps = ps.map Param.erase := by
  induction ps with
  | nil => rfl
  | cons p ps ih => rw [Param.eraseAll, ih, List.map_cons]

theorem Value.eraseAll_widgets (ws : List Widget) :
    Value.eraseAll (ws.map .widget) = (ws.map Widget.erase).map .widget := by
  induction ws with
  | nil => rfl
  | cons w ws ih => rw [List.map_cons, Value.eraseAll, ih, Value.erase, List.map_cons, List.map_cons]

/-- A widget none of whose parameters is a literal without a name as written is no text line. -/
theorem Widget.isLine_of_params {info : WidgetInfo} {ps : List Param}
    (h : ∀ p ∈ ps, p.info ≠ { kind := .literal, resolved := true }) :
    (Widget.mk info ps).isLine = false := by
  unfold Widget.isLine
  split
  · rename_i info' p text heq
    cases heq
    have hp : p ≠ { kind := .literal, resolved := true } := h _ List.mem_cons_self
    simp [hp]
  · rfl

namespace Compile

open Text

namespace Traced

variable {α β γ δ : Type}

/-- Two results that are related values, or the same failure. -/
inductive SameResult (R : α → β → Prop) :
    Except NumeralTooLong α → Except NumeralTooLong β → Prop
  | ok {a : α} {b : β} : R a b → SameResult R (.ok a) (.ok b)
  | error {e : NumeralTooLong} : SameResult R (.error e) (.error e)

theorem SameResult.map_eq {R : α → β → Prop} {r : Except NumeralTooLong α}
    {r' : Except NumeralTooLong β} {f : α → γ} {g : β → γ} (h : SameResult R r r')
    (hfg : ∀ {a b}, R a b → f a = g b) : r.map f = r'.map g := by
  cases h with
  | ok hab => exact congrArg Except.ok (hfg hab)
  | error => rfl

/-- Two computations that record the same diagnostics and have the same kind of result. -/
structure Agree (R : α → β → Prop) (x : Traced α) (y : Traced β) : Prop where
  diagnostics_eq : x.diagnostics = y.diagnostics
  result : SameResult R x.result y.result

variable {R : α → β → Prop} {S : γ → δ → Prop} {x : Traced α} {y : Traced β}

theorem agree_pure {a : α} {b : β} (h : R a b) : Agree R (Pure.pure a) (Pure.pure b) :=
  ⟨rfl, .ok h⟩

theorem agree_self (x : Traced α) : Agree (fun a b => a = b ∧ x.result = .ok a) x x := by
  refine ⟨rfl, ?_⟩
  cases hresult : x.result with
  | ok a => exact .ok ⟨rfl, rfl⟩
  | error e => exact .error

theorem SameResult.mono {R' : α → β → Prop} {r : Except NumeralTooLong α}
    {r' : Except NumeralTooLong β} (h : SameResult R r r') (hR : ∀ a b, R a b → R' a b) :
    SameResult R' r r' := by
  cases h with
  | ok hab => exact .ok (hR _ _ hab)
  | error => exact .error

theorem Agree.mono {R' : α → β → Prop} (h : Agree R x y) (hR : ∀ a b, R a b → R' a b) :
    Agree R' x y :=
  ⟨h.diagnostics_eq, h.result.mono hR⟩

theorem agree_emit {e e' : Event} (h : e.diagnostic? = e'.diagnostic?) :
    Agree (fun _ _ => True) (emit e) (emit e') := by
  refine ⟨?_, .ok trivial⟩
  simp only [diagnostics, emit, List.filterMap_cons, List.filterMap_nil, h]

theorem diagnostics_bind_ok {f : α → Traced γ} {a : α} (h : x.result = .ok a) :
    (x >>= f).diagnostics = x.diagnostics ++ (f a).diagnostics ∧
      (x >>= f).result = (f a).result := by
  have hbind : x >>= f = ⟨x.events ++ (f a).events, (f a).result⟩ := by
    simp only [Bind.bind, bind, h]
  rw [hbind]
  exact ⟨List.filterMap_append, rfl⟩

theorem diagnostics_bind_error {f : α → Traced γ} {e : NumeralTooLong}
    (h : x.result = .error e) :
    (x >>= f).diagnostics = x.diagnostics ∧ (x >>= f).result = .error e := by
  have hbind : x >>= f = ⟨x.events, .error e⟩ := by
    simp only [Bind.bind, bind, h]
  rw [hbind]
  exact ⟨rfl, rfl⟩

theorem Agree.bind {f : α → Traced γ} {g : β → Traced δ} (h : Agree R x y)
    (hfg : ∀ a b, R a b → Agree S (f a) (g b)) : Agree S (x >>= f) (y >>= g) := by
  obtain ⟨hdiagnostics, hresult⟩ := h
  generalize hx : x.result = r at hresult
  generalize hy : y.result = r' at hresult
  cases hresult with
  | ok hab =>
    have hnext := hfg _ _ hab
    obtain ⟨hds, hr⟩ := diagnostics_bind_ok (f := f) hx
    obtain ⟨hds', hr'⟩ := diagnostics_bind_ok (f := g) hy
    constructor
    · rw [hds, hds', hdiagnostics, hnext.diagnostics_eq]
    · rw [hr, hr']
      exact hnext.result
  | error =>
    obtain ⟨hds, hr⟩ := diagnostics_bind_error (f := f) hx
    obtain ⟨hds', hr'⟩ := diagnostics_bind_error (f := g) hy
    constructor
    · rw [hds, hds', hdiagnostics]
    · rw [hr, hr']
      exact .error

theorem agree_each {ι : Type} {f : ι → Traced α} {g : ι → Traced β}
    (h : ∀ i, Agree R (f i) (g i)) (l : List ι) :
    Agree (List.Forall₂ R) (each f l) (each g l) := by
  induction l with
  | nil => exact agree_pure .nil
  | cons i l ih =>
    apply (h i).bind
    intro a b hab
    apply ih.bind
    intro as bs habs
    exact agree_pure (.cons hab habs)

end Traced

open Traced (Agree agree_pure agree_self agree_emit agree_each)

/-- Two widgets that differ in what is erased only. -/
def Alike (w v : Widget) : Prop :=
  w.erase = v.erase

theorem map_erase_eq_iff {ws vs : List Widget} :
    List.Forall₂ Alike ws vs ↔ ws.map Widget.erase = vs.map Widget.erase := by
  rw [← List.forall₂_eq_eq_eq, List.forall₂_map_left_iff, List.forall₂_map_right_iff]
  rfl

theorem eraseAll_childrenParam (ws : List Widget) :
    (childrenParam ws).map Param.erase = childrenParam (ws.map Widget.erase) := by
  cases ws with
  | nil => rfl
  | cons w ws =>
    have hitems := Value.eraseAll_widgets (w :: ws)
    simp only [List.map_cons] at hitems
    simp only [childrenParam, List.map_cons, List.map_nil, Param.erase, Value.erase, hitems]

theorem isLine_tag {start : StartTag} {said : Classified} (h : (classify start).result = .ok said)
    (info : WidgetInfo) (children : List Widget) :
    (Widget.mk info (said.params ++ childrenParam children)).isLine = false := by
  have hparams := params_of_gives_classify (Traced.gives_diagnostics h)
  have hnames := forall_attributeParams (fun _ _ => originalName_of_attributeParam) hparams
  apply Widget.isLine_of_params
  intro p hp heq
  rcases List.mem_append.1 hp with hattribute | hchildren
  · apply hnames p hattribute
    rw [heq]
  · have hkind := kind_of_childrenParam p hchildren
    rw [heq] at hkind
    cases hkind

/-- Two widgets of a tag are alike if their contents are, whatever they are called. -/
theorem alike_tag {start : StartTag} {said : Classified} (h : (classify start).result = .ok said)
    (info : WidgetInfo) (name₁ name₂ : String) {ws₁ ws₂ : List Widget}
    (hws : List.Forall₂ Alike ws₁ ws₂) :
    Alike (.mk { info with name := name₁ } (said.params ++ childrenParam ws₁))
      (.mk { info with name := name₂ } (said.params ++ childrenParam ws₂)) := by
  have hchildren : (childrenParam ws₁).map Param.erase = (childrenParam ws₂).map Param.erase := by
    rw [eraseAll_childrenParam, eraseAll_childrenParam, map_erase_eq_iff.1 hws]
  simp only [Alike, Widget.erase, isLine_tag h, Param.eraseAll_eq_map, List.map_append, hchildren]

variable (o₁ o₂ : Options)

theorem agree_textWidget (line : List Char) :
    Agree Alike (textWidget o₁ line) (textWidget o₂ line) := by
  unfold textWidget
  apply (agree_self _).bind
  rintro decoded _ ⟨rfl, -⟩
  apply agree_pure
  simp [Alike, Widget.erase, Widget.isLine]

theorem agree_tagWidget (start : StartTag) {content₁ content₂ : Traced (List Widget)}
    (h : Agree (List.Forall₂ Alike) content₁ content₂) :
    Agree Alike (tagWidget o₁ start content₁) (tagWidget o₂ start content₂) := by
  have hmet : Agree (fun _ _ => True) (.emit (.tag start.name (className o₁ start.name)))
      (.emit (.tag start.name (className o₂ start.name))) := agree_emit rfl
  apply hmet.bind
  intro _ _ _
  apply (agree_self (classify start)).bind
  rintro said _ ⟨rfl, hsaid⟩
  apply h.bind
  intro ws₁ ws₂ hws
  apply agree_pure
  exact alike_tag hsaid
    { name := "", originalName := start.name
      constant := start.attributes.contains constantAttribute
      generics := said.generics, line := said.position.1, column := said.position.2 } _ _ hws

mutual

theorem agree_widgetsOf : ∀ e : Element,
    Agree (List.Forall₂ Alike) (widgetsOf o₁ e) (widgetsOf o₂ e)
  | .text data => by
    rw [widgetsOf, widgetsOf]
    exact agree_each (agree_textWidget o₁ o₂) (contentLines data)
  | .tag start children => by
    rw [widgetsOf, widgetsOf]
    apply (agree_tagWidget o₁ o₂ start (agree_contentWidgets children)).bind
    intro w v hwv
    exact agree_pure (.cons hwv .nil)

theorem agree_contentWidgets : ∀ es : List Element,
    Agree (List.Forall₂ Alike) (contentWidgets o₁ es) (contentWidgets o₂ es)
  | [] => by
    rw [contentWidgets, contentWidgets]
    exact agree_pure .nil
  | e :: es => by
    rw [contentWidgets, contentWidgets]
    apply (agree_widgetsOf e).bind
    intro ws₁ ws₂ hws
    apply (agree_contentWidgets es).bind
    intro vs₁ vs₂ hvs
    exact agree_pure (List.rel_append hws hvs)

end

theorem agree_rootWidgets (e : Element) :
    Agree (List.Forall₂ Alike) (rootWidgets o₁ e) (rootWidgets o₂ e) := by
  cases e with
  | tag start children =>
    rw [rootWidgets, rootWidgets]
    apply (agree_tagWidget o₁ o₂ start (agree_contentWidgets o₁ o₂ children)).bind
    intro w v hwv
    exact agree_pure (.cons hwv .nil)
  | text data =>
    -- text outside of tags is dropped without a look at the options
    have hsame : rootWidgets o₂ (.text data) = rootWidgets o₁ (.text data) := rfl
    rw [hsame]
    apply (agree_self _).mono
    rintro ws _ ⟨rfl, -⟩
    exact map_erase_eq_iff.2 rfl

theorem agree_compile (document : List Element) :
    Agree (List.Forall₂ Alike) (compile o₁ document) (compile o₂ document) := by
  unfold compile
  apply (agree_self _).bind
  intro _ _ _
  have hbody : Agree (List.Forall₂ Alike) (compileRoots o₁ document)
      (compileRoots o₂ document) := by
    apply (agree_each (agree_rootWidgets o₁ o₂) document).bind
    intro groups₁ groups₂ hgroups
    exact agree_pure (List.rel_flatten hgroups)
  apply hbody.bind
  intro ws₁ ws₂ hws
  have hfinished : ∀ n₁ n₂, Agree (fun _ _ => True) (.emit (.finished ws₁.length n₁))
      (.emit (.finished ws₂.length n₂)) := fun n₁ n₂ => agree_emit rfl
  apply (hfinished _ _).bind
  intro _ _ _
  exact agree_pure hws

/-- The widget of a tag has the name that the options and the naming rules give to the tag. The widget
of a text line has the name that the options give to text, and it is constant exactly if the options
ask for it and the decoded line has no interpolation. -/
def NamedBy (o : Options) : Node → Widget → Prop
  | .tag start _, w =>
    w.isLine = false ∧ w.info.name = Naming.pascalCase (o.resolve start.name)
  | .line text, w =>
    w.isLine = true ∧ w.info.name = o.textWidget ∧
      ∃ decoded, decodeReferences text = .ok decoded ∧
        (w.info.constant = true ↔ o.autoConstText = true ∧ '$' ∉ decoded)

theorem namedBy_of_makes {o : Options} {n : Node} {w : Widget} (h : Makes o n w) :
    NamedBy o n w := by
  cases n with
  | tag start children =>
    obtain ⟨ds, h⟩ := h
    obtain ⟨said, ws, ds₁, ds₂, hsaid, -, -, rfl⟩ := gives_tagWidget h
    exact ⟨isLine_tag hsaid.1 _ ws, rfl⟩
  | line text =>
    obtain ⟨ds, h⟩ := h
    obtain ⟨decoded, hdecoded, -, rfl⟩ := gives_textWidget h
    refine ⟨?_, rfl, decoded, hdecoded, ?_⟩
    · simp [Widget.isLine]
    · simp [Widget.info]

/-- Options have an influence on names and on the constant flags of text lines only. With any two sets
of options a document leaves the same diagnostics, and it either breaks off in the same way or gives
the same widgets up to these. And at every depth, names and flags are what the options say. -/
theorem compile_options (document : List Element) :
    (∀ o₁ o₂ : Options,
      (compile o₁ document).diagnostics = (compile o₂ document).diagnostics ∧
      (compile o₁ document).result.map (List.map Widget.erase) =
        (compile o₂ document).result.map (List.map Widget.erase)) ∧
    ∀ (o : Options) (ws : List Widget), (compile o document).result = .ok ws →
      List.Forall₂ (fun n v => n.1 = v.1 ∧ NamedBy o n.2 v.2) (document.flatMap rootNodes)
        (ws.flatMap (widgetNodes 0)) := by
  constructor
  · intro o₁ o₂
    have hagree := agree_compile o₁ o₂ document
    refine ⟨hagree.diagnostics_eq, ?_⟩
    exact hagree.result.map_eq map_erase_eq_iff.1
  · intro o ws h
    exact (makes_compile h).imp fun _ _ hmakes => ⟨hmakes.1, namedBy_of_makes hmakes.2⟩

/-- Lines of text with and without interpolation, one of them in a tag named `text`. -/
def greetingDocument : List Element :=
  [.tag ⟨"row", default, none, none⟩
    [.text "Hi $name\nBye", .tag ⟨"text", default, none, none⟩ [.text "&#36;"]]]

/-- Options by which a tag goes by the name of text, and text by the name of no class. -/
def greetingOptions : Options where
  tagAliases := [("text", "rich text"), ("row", "text")]
  autoConstText := true

def greetingLine (constant : Bool) (text : String) : Value :=
  .widget (.mk { name := "rich text", originalName := "text", constant }
    [.mk { kind := .literal, resolved := true } (.text text)])

def greetingWidgets : List Widget :=
  [.mk { name := "Text", originalName := "row" }
    [.mk { kind := .widgets, name := some "children", resolved := true }
      (.list [greetingLine false "Hi $name", greetingLine true "Bye",
        .widget (.mk { name := "RichText", originalName := "text" }
          [.mk { kind := .widgets, name := some "children", resolved := true }
            (.list [greetingLine false "$"])])])]]

theorem compile_options_greeting :
    (compile greetingOptions greetingDocument).result = .ok greetingWidgets ∧
      (compile {} greetingDocument).result.map (List.map Widget.erase) =
        .ok (greetingWidgets.map Widget.erase) ∧
      List.Forall₂ (fun n v => n.1 = v.1 ∧ NamedBy greetingOptions n.2 v.2)
        (greetingDocument.flatMap rootNodes) (greetingWidgets.flatMap (widgetNodes 0)) := by
  have hresult : (compile greetingOptions greetingDocument).result = .ok greetingWidgets := by
    with_unfolding_all rfl
  have hoptions := compile_options greetingDocument
  refine ⟨hresult, ?_, hoptions.2 _ _ hresult⟩
  rw [(hoptions.1 {} greetingOptions).2, hresult]
  rfl

end Compile

end WidgetMarkup
