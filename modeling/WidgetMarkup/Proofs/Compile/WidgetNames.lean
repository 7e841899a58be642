import WidgetMarkup.Proofs.Compile.OptionInfluence
import WidgetMarkup.Proofs.Markup.Coverage
import WidgetMarkup.Proofs.Naming.ClassName

/-!
# Which widgets have class names

The name of a tag is put into Pascal case, so the widget of a tag has a name of letters and digits,
and it is a class name if the first of them in the name of the tag is a letter. A tag that was read
and that goes by its own name has a letter there, unless it starts with an underscore. The widget of a
text line takes the name that the options have for text as it is written there; by default that is a
class name.
-/
namespace WidgetMarkup

namespace Compile

open Markup (Element StartTag IsTagName Traverses Piece Token WrittenTag)
open Naming (IsClassName LetterFirst)

/-- Only parameters of kind `widgets` hold widgets. -/
def Tidy (w : Widget) : Prop :=
  ∀ p ∈ w.params, p.info.kind ≠ .widgets → p.within = []

mutual

/-- Where all widgets are tidy, going through the parameters of kind `widgets` meets every widget. -/
theorem map_widgetNodes (depth : Nat) : ∀ w : Widget, (∀ v ∈ widgetNodes depth w, Tidy v.2) →
    (widgetNodes depth w).map (·.2) = w.within
  | .mk info params, h => by
    rw [widgetNodes] at h ⊢
    obtain ⟨htidy, hparams⟩ := List.forall_mem_cons.1 h
    rw [List.map_cons, Widget.within, map_paramsNodes (depth + 1) params htidy hparams]

theorem map_paramsNodes (depth : Nat) : ∀ ps : List Param,
    (∀ p ∈ ps, p.info.kind ≠ .widgets → p.within = []) →
    (∀ v ∈ paramsNodes depth ps, Tidy v.2) →
    (paramsNodes depth ps).map (·.2) = Param.withinAll ps
  | [], _, _ => by rw [paramsNodes, Param.withinAll, List.map_nil]
  | .mk info value :: ps, htidy, h => by
    rw [paramsNodes, paramNodes] at h ⊢
    obtain ⟨hparam, hrest⟩ := List.forall_mem_cons.1 htidy
    obtain ⟨hvalue, hnodes⟩ := List.forall_mem_append.1 h
    rw [List.map_append, Param.withinAll, map_paramsNodes depth ps hrest hnodes]
    congr 1
    split
    · next hkind =>
      rw [if_pos hkind] at hvalue
      rw [Param.within, map_valueNodes depth value hvalue]
    · next hkind => rw [hparam hkind, List.map_nil]

theorem map_valueNodes (depth : Nat) : ∀ v : Value, (∀ u ∈ valueNodes depth v, Tidy u.2) →
    (valueNodes depth v).map (·.2) = v.within
  | .text _, _ => by rw [valueNodes, Value.within, List.map_nil]
  | .flag _, _ => by rw [valueNodes, Value.within, List.map_nil]
  | .widget w, h => by
    rw [valueNodes] at h ⊢
    rw [Value.within, map_widgetNodes depth w h]
  | .list items, h => by
    rw [valueNodes] at h ⊢
    rw [Value.within, map_valuesNodes depth items h]

theorem map_valuesNodes (depth : Nat) : ∀ vs : List Value,
    (∀ u ∈ valuesNodes depth vs, Tidy u.2) →
    (valuesNodes depth vs).map (·.2) = Value.withinAll vs
  | [], _ => by rw [valuesNodes, Value.withinAll, List.map_nil]
  | v :: vs, h => by
    rw [valuesNodes] at h ⊢
    obtain ⟨hv, hvs⟩ := List.forall_mem_append.1 h
    rw [List.map_append, Value.withinAll, map_valueNodes depth v hv, map_valuesNodes depth vs hvs]

end

theorem within_of_paramValue {written : String} {value : Option String} {v : Value}
    (h : paramValue written value = .ok v) : v.within = [] := by
  cases value with
  | none =>
    obtain rfl := Except.ok.inj h
    rw [Value.within]
  | some value =>
    rw [paramValue] at h
    split at h
    · obtain rfl := Except.ok.inj h
      rw [Value.within]
    · cases hdecoded : Text.decodeReferences value.toList with
      | error e =>
        rw [hdecoded] at h
        cases h
      | ok decoded =>
        rw [hdecoded] at h
        obtain rfl := Except.ok.inj h
        rw [Value.within]

theorem within_of_attributeParam {entry : String × Option String} {p : Param}
    (h : attributeParam entry = .ok p) : p.within = [] := by
  obtain ⟨info, value⟩ := p
  rw [Param.within]
  unfold attributeParam at h
  split at h
  · exact within_of_paramValue (makeParam_eq_ok h).2
  · exact within_of_paramValue (makeParam_eq_ok h).2

theorem tidy_of_makes {o : Options} {n : Node} {w : Widget} (h : Makes o n w) : Tidy w := by
  intro p hp hkind
  cases n with
  | tag start children =>
    obtain ⟨ds, h⟩ := h
    obtain ⟨said, ws, ds₁, ds₂, hsaid, -, -, rfl⟩ := gives_tagWidget h
    have hattributes : ∀ p ∈ said.params, p.within = [] :=
      forall_attributeParams (fun _ _ => within_of_attributeParam) (params_of_gives_classify hsaid)
    rcases List.mem_append.1 hp with hp | hp
    · exact hattributes p hp
    · exact absurd (kind_of_childrenParam p hp) hkind
  | line text =>
    obtain ⟨ds, h⟩ := h
    obtain ⟨decoded, -, -, rfl⟩ := gives_textWidget h
    obtain rfl := List.mem_singleton.1 hp
    rw [Param.within, Value.within]

/-- The widgets of a document, wherever they are, are what compiling makes of its nodes. -/
theorem makes_within {o : Options} {document : List Element} {ws : List Widget}
    (h : (compile o document).result = .ok ws) :
    List.Forall₂ (Makes o) ((document.flatMap rootNodes).map (·.2))
      (ws.flatMap Widget.within) := by
  have hmakes : List.Forall₂ (Makes o) ((document.flatMap rootNodes).map (·.2))
      ((ws.flatMap (widgetNodes 0)).map (·.2)) := by
    rw [List.forall₂_map_left_iff, List.forall₂_map_right_iff]
    exact (makes_compile h).imp fun _ _ hmakes => hmakes.2
  have htidy : ∀ v ∈ (ws.flatMap (widgetNodes 0)).map (·.2), Tidy v := by
    have hflip := hmakes.flip.imp fun _ _ h => And.intro (tidy_of_makes h) h
    exact ((List.forall₂_and_left _ _).1 hflip).1
  have hwithin : ∀ w ∈ ws, (widgetNodes 0 w).map (·.2) = w.within := by
    intro w hw
    apply map_widgetNodes
    intro v hv
    exact htidy v.2 (List.mem_map_of_mem (List.mem_flatMap_of_mem hw hv))
  have hsame : (ws.flatMap (widgetNodes 0)).map (·.2) = ws.flatMap Widget.within := by
    rw [List.map_flatMap, List.flatMap_congr hwithin]
  rwa [hsame] at hmakes

theorem contentNodes_eq_flatMap (depth : Nat) (es : List Element) :
    contentNodes depth es = es.flatMap (elementNodes depth) := by
  induction es with
  | nil => rw [contentNodes, List.flatMap_nil]
  | cons e es ih => rw [contentNodes, ih, List.flatMap_cons]

/-- A tag with a name that can be read. -/
def Readable : Node → Prop
  | .tag start _ => IsTagName start.name.toList
  | .line _ => True

theorem isTagName_of_written {tag : WrittenTag} {chars : List Char}
    (h : (Token.startTag tag).Written chars) : IsTagName tag.name.toList := by
  cases h with
  | startTag hname => rwa [String.toList_ofList]

theorem readable_contentNodes {starts : List Nat} {es : List Element} {qs : List Piece}
    (h : Traverses starts es qs) (hwritten : ∀ q ∈ qs, q.token.Written q.chars) (depth : Nat) :
    ∀ n ∈ contentNodes depth es, Readable n.2 := by
  have htag : ∀ {start : StartTag} {tag : WrittenTag} {q : Piece},
      Markup.StandsAt starts start tag q → q.token.Written q.chars →
      IsTagName start.name.toList := by
    intro start tag q hstands hq
    rw [hstands.token_eq] at hq
    rw [hstands.name_eq]
    exact isTagName_of_written hq
  induction h generalizing depth with
  | done =>
    rw [contentNodes]
    simp
  | skip _ _ ih => exact ih (List.forall_mem_cons.1 hwritten).2 depth
  | text _ _ ih =>
    rw [contentNodes, List.forall_mem_append]
    refine ⟨?_, ih (List.forall_mem_cons.1 hwritten).2 depth⟩
    rw [elementNodes, List.forall_mem_map]
    intro n hn
    obtain ⟨line, -, rfl⟩ := List.mem_map.1 hn
    exact trivial
  | closed hstands _ _ ih =>
    obtain ⟨hq, hqs⟩ := List.forall_mem_cons.1 hwritten
    rw [contentNodes, elementNodes, List.forall_mem_append, List.forall_mem_cons, contentNodes]
    exact ⟨⟨htag hstands hq, by simp⟩, ih hqs depth⟩
  | enclosing hstands _ _ _ _ ihchildren ih =>
    obtain ⟨hq, hrest⟩ := List.forall_mem_cons.1 hwritten
    obtain ⟨hqs, hafter⟩ := List.forall_mem_append.1 hrest
    rw [contentNodes, elementNodes, List.forall_mem_append, List.forall_mem_cons]
    exact ⟨⟨htag hstands hq, ihchildren hqs (depth + 1)⟩,
      ih (List.forall_mem_cons.1 hafter).2 depth⟩

theorem readable_rootNodes {source : String} {roots : List Element}
    (h : Markup.read source = .ok roots) : ∀ n ∈ roots.flatMap rootNodes, Readable n.2 := by
  have hnothing : Markup.Progress.Covers (Markup.lineStarts source.toList) [] [] [] := .done
  obtain ⟨qs, hcut, htraverses⟩ :=
    Markup.Progress.readOn_pieces (p := {}) (Nat.zero_add _) hnothing h
  rw [List.nil_append] at htraverses
  have hcontent := readable_contentNodes htraverses hcut.written 0
  intro n hn
  obtain ⟨e, he, hn⟩ := List.mem_flatMap.1 hn
  apply hcontent
  rw [contentNodes_eq_flatMap]
  apply List.mem_flatMap_of_mem he
  cases e with
  | text data => cases hn
  | tag start children => exact hn

/-- The name of a widget. For a tag it is made of letters and digits, and it is a class name if a
letter comes first in the name that the tag goes by, so always if that is its own name and does not
start with an underscore. For a text line it is the one that the options have for text, and a class
name if they leave it open. -/
def ClassNamed (o : Options) : Node → Widget → Prop
  | .tag start _, w =>
    (∀ c ∈ w.info.name.toList, c.isAlphanum = true) ∧
      (LetterFirst (o.resolve start.name) → IsClassName w.info.name) ∧
      (o.tagAliases.lookup start.name = none → start.name.toList.head? ≠ some '_' →
        IsClassName w.info.name)
  | .line _, w =>
    w.info.name = o.textWidget ∧
      (o.tagAliases.lookup "text" = none → IsClassName w.info.name)

theorem letterFirst_of_isTagName {name : String} (h : IsTagName name.toList)
    (hunderscore : name.toList.head? ≠ some '_') : LetterFirst name := by
  obtain ⟨c, t, hname, hc, -⟩ := h
  rw [hname] at hunderscore
  have hletter : c.isAlpha = true := by
    rw [Markup.isNameStart, Bool.or_eq_true, beq_iff_eq] at hc
    apply hc.resolve_right
    rintro rfl
    exact hunderscore rfl
  exact Naming.letterFirst_of_head hname hletter

theorem classNamed_of_makes {o : Options} {n : Node} {w : Widget} (hreadable : Readable n)
    (h : Makes o n w) : ClassNamed o n w := by
  cases n with
  | tag start children =>
    obtain ⟨-, hname⟩ := namedBy_of_makes h
    have hclass : LetterFirst (o.resolve start.name) → IsClassName w.info.name := by
      rw [hname]
      exact Naming.isClassName_pascalCase_iff.2
    refine ⟨?_, hclass, ?_⟩
    · rw [hname]
      exact Naming.isAlphanum_pascalCase _
    · intro halias hunderscore
      apply hclass
      rw [Options.resolve, halias]
      exact letterFirst_of_isTagName hreadable hunderscore
  | line text =>
    obtain ⟨-, hname, -⟩ := namedBy_of_makes h
    refine ⟨hname, ?_⟩
    intro halias
    rw [hname, Options.textWidget, halias]
    decide +kernel

/-- What the names of the widgets are like, wherever they are, for a document that has been read. -/
theorem compile_classNamed {o : Options} {source : String} {roots : List Element}
    {ws : List Widget} (hread : Markup.read source = .ok roots)
    (hcompile : (compile o roots).result = .ok ws) :
    List.Forall₂ (ClassNamed o) ((roots.flatMap rootNodes).map (·.2))
      (ws.flatMap Widget.within) := by
  have hreadable : ∀ n ∈ (roots.flatMap rootNodes).map (·.2), Readable n := by
    rw [List.forall_mem_map]
    exact readable_rootNodes hread
  have hmakes := (List.forall₂_and_left _ _).2 ⟨hreadable, makes_within hcompile⟩
  exact hmakes.imp fun _ _ h => classNamed_of_makes h.1 h.2

def captionRoots : List Element :=
  [.tag ⟨"Row", default, some 1, some 1⟩ [.text "hi"]]

/-- Options with a name for text that is no class name. -/
def captionOptions : Options where
  tagAliases := [("text", "rich-text")]

def captionWidgets : List Widget :=
  [.mk { name := "Row", originalName := "Row" }
    [.mk { kind := .widgets, name := some "children", resolved := true }
      (.list [.widget (.mk { name := "rich-text", originalName := "text" }
        [.mk { kind := .literal, resolved := true } (.text "hi")])])]]

theorem read_caption : Markup.read "<Row>hi</Row>" = .ok captionRoots := by
  have hscan : Markup.scan "<Row>hi</Row>".toList =
      ⟨[⟨.startTag ⟨"Row", [], false⟩, "<Row>hi</Row>".toList, "hi</Row>".toList⟩,
        ⟨.text "hi", "hi</Row>".toList, "</Row>".toList⟩,
        ⟨.endTag "Row", "</Row>".toList, []⟩], none⟩ := by
    decide +kernel
  rw [Markup.read, Markup.readChars, hscan]
  rfl

theorem compile_caption : (compile captionOptions captionRoots).result = .ok captionWidgets := by
  with_unfolding_all rfl

/-- The tag has a class name, and the text the name that the options have for it. -/
theorem compile_classNamed_caption :
    Markup.read "<Row>hi</Row>" = .ok captionRoots ∧
      (compile captionOptions captionRoots).result = .ok captionWidgets ∧
      List.Forall₂ (ClassNamed captionOptions) ((captionRoots.flatMap rootNodes).map (·.2))
        (captionWidgets.flatMap Widget.within) :=
  ⟨read_caption, compile_caption, compile_classNamed read_caption compile_caption⟩

/-- Not every widget has a class name. -/
theorem not_isClassName_caption : ∃ roots ws, Markup.read "<Row>hi</Row>" = .ok roots ∧
    (compile captionOptions roots).result = .ok ws ∧
    ∃ w ∈ ws.flatMap Widget.within, ¬IsClassName w.info.name := by
  refine ⟨captionRoots, captionWidgets, read_caption, compile_caption, ?_⟩
  refine ⟨_, List.mem_cons_of_mem _ List.mem_cons_self, ?_⟩
  decide +kernel

end Compile

end WidgetMarkup
