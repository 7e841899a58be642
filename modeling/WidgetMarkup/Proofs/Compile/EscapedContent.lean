import WidgetMarkup.Proofs.Compile.Diagnostics
import WidgetMarkup.Proofs.Compile.Traversal
import WidgetMarkup.Proofs.Markup.RoundTrip
import WidgetMarkup.Proofs.Text.Escape

/-!
# Escaped content survives

A tag with literal attributes and lines of text is written as markup with everything in it escaped.
Reading and compiling this markup gives the widget that has exactly the values and lines that were
written, and nothing is recorded on the way. What would mean something else when compiled is set
apart: names that mark a kind or are reserved, values that mark an expression or a flag, and lines
that are dropped or trimmed.
-/
namespace WidgetMarkup.Compile

open Markup
open Text

def escaped (s : String) : String :=
  String.ofList (escape s.toList)

/-- A name and a value that make a literal parameter. -/
structure IsLiteralAttribute (a : String × String) : Prop where
  isAttributeName : IsAttributeName a.1.toList
  name_head : a.1.toList.head? ≠ some ':' ∧ a.1.toList.head? ≠ some '@'
  not_reserved : a.1 ≠ positionAttribute ∧ a.1 ≠ genericsAttribute
  value_head : a.2.toList.head? ≠ some ':'
  not_flag : escaped a.2 ≠ a.1

/-- A line that makes a text widget and has nothing to trim. -/
structure IsLiteralLine (line : String) : Prop where
  ne_empty : line ≠ ""
  trimmed : trim line.toList = line.toList
  no_newline : '\n' ∉ line.toList
  no_slashes : ¬['/', '/'] <+: line.toList

/-- A tag with literal attributes around lines of text. -/
structure LiteralTag where
  name : String
  attributes : List (String × String)
  lines : List String
  isTagName : IsTagName name.toList
  not_void : isVoid name = false
  nodup : (attributes.map (·.1)).Nodup
  literal_attributes : ∀ a ∈ attributes, IsLiteralAttribute a
  literal_lines : ∀ line ∈ lines, IsLiteralLine line

def attributeSource (a : String × String) : List Char :=
  ' ' :: (a.1.toList ++ '=' :: '"' :: ((escaped a.2).toList ++ ['"']))

def literalParam (a : String × String) : Param :=
  .mk
    { kind := .literal
      name := (paramName a.1).1
      resolved := (paramName a.1).2
      originalName := some a.1 }
    (.text a.2)

def literalText (o : Options) (line : String) : Widget :=
  .mk
    { name := o.textWidget
      originalName := "text"
      constant := o.autoConstText && !line.toList.contains '$' }
    [.mk { kind := .literal, resolved := true } (.text line)]

theorem isPlain_of_not_mem {s : List Char} (h : '<' ∉ s) : IsPlain s := by
  intro t ht
  rw [Bool.eq_false_iff]
  intro hstarts
  obtain ⟨c, u, rfl, -⟩ := startsMarkup_iff.1 hstarts
  exact h (ht.subset List.mem_cons_self)

theorem expressionValue?_escaped {s : String} (h : s.toList.head? ≠ some ':') :
    expressionValue? (escaped s) = none := by
  cases hvalue : expressionValue? (escaped s) with
  | none => rfl
  | some rest =>
    have hlist := expressionValue?_eq_some hvalue
    rw [escaped, String.toList_ofList] at hlist
    have hhead : ':' ∈ (escape s.toList).head? := by
      rw [hlist]
      rfl
    rcases head?_escape hhead with hcolon | hcolon
    · cases hcolon
    · exact absurd hcolon h

theorem IsLiteralAttribute.ofAttribute {a : String × String} (h : IsLiteralAttribute a) :
    ParamKind.ofAttribute a.1 = (.literal, a.1) := by
  obtain ⟨hcolon, hat⟩ := h.name_head
  unfold ParamKind.ofAttribute
  split
  · rename_i c rest hname
    rw [hname, List.head?_cons] at hcolon hat
    rw [if_neg fun hc => hcolon (congrArg some hc), if_neg fun hc => hat (congrArg some hc)]
  · rfl

theorem IsLiteralAttribute.attributeParam {a : String × String} (h : IsLiteralAttribute a) :
    attributeParam (a.1, some (escaped a.2)) = .ok (literalParam a) := by
  have hdecoded : decodeReferences (escaped a.2).toList = .ok a.2.toList := by
    rw [escaped, String.toList_ofList, decodeReferences_escape]
  have hvalue : paramValue a.1 (some (escaped a.2)) = .ok (.text a.2) := by
    rw [paramValue, if_neg h.not_flag, hdecoded]
    simp only [bind, Except.bind, pure, Except.pure, String.ofList_toList]
  simp only [Compile.attributeParam, Option.bind_some, expressionValue?_escaped h.value_head,
    h.ofAttribute, makeParam, hvalue]
  rfl

theorem unplacedAll_eq_nil {es : List Element} (h : unplacedAll es = unplacedAll []) : es = [] := by
  cases es with
  | nil => rfl
  | cons e es => simp [unplacedAll] at h

theorem unplacedAll_eq_text {es : List Element} {data : String}
    (h : unplacedAll es = unplacedAll [.text data]) : es = [.text data] := by
  cases es with
  | nil => simp [unplacedAll] at h
  | cons e es =>
    simp only [unplacedAll, List.cons.injEq] at h
    cases e with
    | text data' =>
      rw [unplacedAll_eq_nil h.2, Element.text.inj h.1]
    | tag start children => cases h.1

theorem unplacedAll_eq_tag {es children : List Element} {start : StartTag}
    (h : unplacedAll es = unplacedAll [.tag start children]) :
    ∃ line column children', es = [.tag { start with line := line, column := column } children'] ∧
      unplacedAll children' = unplacedAll children := by
  cases es with
  | nil => simp [unplacedAll] at h
  | cons e es =>
    simp only [unplacedAll, List.cons.injEq] at h
    cases e with
    | text data => cases h.1
    | tag start' children' =>
      obtain ⟨hstart, hchildren⟩ := Element.tag.inj h.1
      obtain ⟨name', attributes', line', column'⟩ := start'
      obtain ⟨hname, hattributes, -, -⟩ := StartTag.mk.inj hstart
      subst hname hattributes
      exact ⟨line', column', children', by rw [unplacedAll_eq_nil h.2], hchildren⟩

namespace LiteralTag

variable (tag : LiteralTag)

/-- The lines as they are written between the start tag and the end tag. -/
def text : List Char :=
  ['\n'].intercalate (tag.lines.map fun line => escape line.toList)

/-- The markup of the tag, with blanks before the end of the start tag. -/
def source (pad : List Char) : String :=
  String.ofList ('<' :: (tag.name.toList ++ (tag.attributes.flatMap attributeSource ++
    (pad ++ ['>']))) ++ (tag.text ++ (['<', '/'] ++ (tag.name.toList ++ ['>']))))

def widget (o : Options) : Widget :=
  .mk
    { name := className o tag.name
      originalName := tag.name
      constant := (tag.attributes.map (·.1)).contains constantAttribute }
    (tag.attributes.map literalParam ++ childrenParam (tag.lines.map (literalText o)))

def start : StartTag :=
  { name := tag.name
    attributes :=
      { entries := tag.attributes.map fun a => (a.1, some (escaped a.2))
        nodup := by
          rw [List.map_map]
          exact tag.nodup } }

def content : List Element :=
  if tag.lines = [] then [] else [.text (String.ofList tag.text)]

theorem content_cases :
    tag.lines = [] ∧ tag.content = [] ∨
      tag.lines ≠ [] ∧ tag.content = [.text (String.ofList tag.text)] := by
  by_cases hlines : tag.lines = []
  · exact Or.inl ⟨hlines, if_pos hlines⟩
  · exact Or.inr ⟨hlines, if_neg hlines⟩

theorem spells_attributes (attributes : List (String × String)) :
    SpellsAttributes (attributes.map fun a => (a.1, some (escaped a.2)))
      (attributes.flatMap attributeSource) := by
  have hblank : AllBlank [' '] := by simp [AllBlank, isBlank]
  have hnone : AllBlank [] := by simp [AllBlank]
  induction attributes with
  | nil => exact .nil
  | cons a attributes ih =>
    have hquote : '"' ∉ (escaped a.2).toList := by
      rw [escaped, String.toList_ofList]
      exact not_mem_escape (by simp) _
    exact .cons hblank (by simp) (.quoted hnone hnone (Or.inl rfl) hquote) ih

theorem not_mem_text : '<' ∉ tag.text := by
  intro hmem
  rcases mem_intercalate hmem with hnewline | ⟨piece, hpiece, hmem⟩
  · cases hnewline
  · obtain ⟨line, -, rfl⟩ := List.mem_map.1 hpiece
    exact not_mem_escape (by simp) _ hmem

theorem text_ne_nil (h : tag.lines ≠ []) : tag.text ≠ [] := by
  obtain ⟨line, lines, hlines⟩ := List.exists_cons_of_ne_nil h
  have hline := tag.literal_lines line (hlines ▸ List.mem_cons_self)
  have hne : escape line.toList ≠ [] := escape_ne_nil (by simpa using hline.ne_empty)
  rw [text, hlines, List.map_cons]
  cases lines with
  | nil => simpa using hne
  | cons next lines =>
    rw [List.map_cons, List.intercalate_cons_cons]
    simp

theorem writable : AllWritable [.tag tag.start tag.content] := by
  refine ⟨⟨tag.isTagName, ?_, fun hvoid => ?_, ?_⟩, trivial⟩
  · intro e he
    obtain ⟨a, ha, rfl⟩ := List.mem_map.1 he
    refine ⟨(tag.literal_attributes a ha).isAttributeName, _, rfl, fun hquotes => ?_⟩
    rw [escaped, String.toList_ofList] at hquotes
    exact not_mem_escape (by simp) _ hquotes.1
  · exact absurd (hvoid.symm.trans tag.not_void) (by simp)
  · rcases tag.content_cases with ⟨-, hnil⟩ | ⟨hlines, htext⟩
    · rw [hnil]
      trivial
    · rw [htext]
      refine ⟨⟨?_, ?_⟩, trivial⟩
      · intro hempty
        exact tag.text_ne_nil hlines (by simpa using congrArg String.toList hempty)
      · rw [String.toList_ofList]
        exact isPlain_of_not_mem tag.not_mem_text

theorem spells_content : Spells false tag.content tag.text := by
  rcases tag.content_cases with ⟨hlines, hnil⟩ | ⟨-, htext⟩
  · rw [hnil, text, hlines]
    exact .done
  · have hspells : Spells false [.text (String.ofList tag.text)] _ := .text .done
    rw [String.toList_ofList, List.append_nil] at hspells
    rwa [htext]

theorem spells {pad : List Char} (hpad : AllBlank pad) :
    Spells false [.tag tag.start tag.content] (tag.source pad).toList := by
  have hnone : AllBlank [] := by simp [AllBlank]
  have hstart : SpellsStart tag.start false ('<' :: (tag.name.toList ++
      (tag.attributes.flatMap attributeSource ++ (pad ++ ['>'])))) :=
    ⟨_, pad, spells_attributes tag.attributes, hpad, rfl⟩
  have hend : SpellsEnd tag.start.name (['<', '/'] ++ (tag.name.toList ++ ['>'])) :=
    ⟨[], [], hnone, hnone, rfl⟩
  have hspells : Spells false [.tag tag.start tag.content] ('<' :: (tag.name.toList ++
      (tag.attributes.flatMap attributeSource ++ (pad ++ ['>']))) ++
        (tag.text ++ (['<', '/'] ++ (tag.name.toList ++ ['>']) ++ []))) :=
    .enclosing tag.not_void hstart tag.spells_content hend .done
  rw [List.append_nil] at hspells
  rw [source, String.toList_ofList]
  exact hspells

/-- Reading gives the tag back at the place where it was found. -/
theorem read_source {pad : List Char} (hpad : AllBlank pad) :
    ∃ line column, Markup.read (tag.source pad) =
      .ok [.tag { tag.start with line := line, column := column } tag.content] := by
  obtain ⟨roots, hroots, hread⟩ := (tag.spells hpad).readOn tag.writable {} (Or.inl rfl)
  rw [List.append_nil] at hread
  obtain ⟨line, column, children, rfl, hchildren⟩ := unplacedAll_eq_tag hroots
  have hcontent : children = tag.content := by
    rcases tag.content_cases with ⟨-, hnil⟩ | ⟨-, htext⟩
    · rw [hnil] at hchildren ⊢
      exact unplacedAll_eq_nil hchildren
    · rw [htext] at hchildren ⊢
      exact unplacedAll_eq_text hchildren
  refine ⟨line, column, ?_⟩
  rw [Markup.read, readChars_eq, hread, Progress.readOn_nil, hcontent]
  rfl

theorem contentLines_text (h : tag.lines ≠ []) :
    contentLines (String.ofList tag.text) = tag.lines.map fun line => escape line.toList := by
  have hpieces : pieces '\n' tag.text = tag.lines.map fun line => escape line.toList := by
    apply pieces_intercalate
    · simpa using h
    · intro piece hpiece hmem
      obtain ⟨line, hline, rfl⟩ := List.mem_map.1 hpiece
      rcases mem_escape hmem with ⟨hnewline, -⟩ | hname
      · exact (tag.literal_lines line hline).no_newline hnewline
      · revert hname
        decide
  have htrim : (tag.lines.map fun line => escape line.toList).map trim =
      tag.lines.map fun line => escape line.toList := by
    rw [List.map_map]
    exact List.map_congr_left fun line hline =>
      trim_escape (tag.literal_lines line hline).trimmed
  rw [contentLines, String.toList_ofList, hpieces, htrim, List.filter_eq_self]
  intro piece hpiece
  obtain ⟨line, hline, rfl⟩ := List.mem_map.1 hpiece
  have hliteral := tag.literal_lines line hline
  have hne : escape line.toList ≠ [] := escape_ne_nil (by simpa using hliteral.ne_empty)
  have hslashes : ¬['/', '/'] <+: escape line.toList := fun hprefix =>
    hliteral.no_slashes (prefix_of_prefix_escape (by decide) hprefix)
  rw [← List.isPrefixOf_iff_prefix, Bool.not_eq_true] at hslashes
  simp [hne, hslashes]

theorem isParameter_entries : ∀ e ∈ tag.start.attributes.entries, isParameter e = true := by
  intro e he
  obtain ⟨a, ha, rfl⟩ := List.mem_map.1 he
  simp [isParameter, (tag.literal_attributes a ha).not_reserved]

theorem find?_reserved {name : String} (h : name = positionAttribute ∨ name = genericsAttribute) :
    tag.start.attributes.find? name = none := by
  have hnone : tag.start.attributes.entries.find? (·.1 == name) = none := by
    refine List.find?_eq_none.2 fun e he heq => ?_
    have hentry := tag.isParameter_entries e he
    simp only [isParameter, Bool.and_eq_true, decide_eq_true_eq] at hentry
    rw [beq_iff_eq] at heq
    rcases h with rfl | rfl
    · exact hentry.1 heq
    · exact hentry.2 heq
  rw [Attributes.find?, hnone]
  rfl

theorem not_tooLong (line column : Option Int) :
    ¬TooLong (.tag { tag.start with line := line, column := column } tag.content) := by
  -- a text with a long reference cannot be decoded, and an escaped text can
  have hreference : ∀ s, ¬LongReference (escape s) := fun s =>
    (decodeReferences_ok_iff _).1 ⟨s, decodeReferences_escape s⟩
  intro h
  rcases tooLong_tag.1 h with (⟨value, hfind, -⟩ | ⟨entry, hentry, hlong⟩) | ⟨e, he, hlong⟩
  · cases hfind.symm.trans (tag.find?_reserved (Or.inl rfl))
  · obtain ⟨a, ha, rfl⟩ := List.mem_map.1 hentry
    obtain ⟨-, -, value, hvalue, -, hlong⟩ := hlong
    cases hvalue
    have hshown : shownValue (escaped a.2) = escaped a.2 := by
      rw [shownValue, expressionValue?_escaped (tag.literal_attributes a ha).value_head]
      rfl
    rw [hshown, escaped, String.toList_ofList] at hlong
    exact hreference _ hlong
  · rcases tag.content_cases with ⟨-, hnil⟩ | ⟨hlines, htext⟩
    · rw [hnil] at he
      cases he
    · rw [htext] at he
      obtain rfl := List.mem_singleton.1 he
      obtain ⟨piece, hpiece, hlong⟩ := tooLong_text.1 hlong
      rw [tag.contentLines_text hlines] at hpiece
      obtain ⟨line, -, rfl⟩ := List.mem_map.1 hpiece
      exact hreference _ hlong

section Given

variable {tag} {o : Options} {line column : Option Int} {ds : List Diagnostic}

theorem said_of_gives {said : Classified}
    (h : (classify { tag.start with line := line, column := column }).Gives said ds) :
    said.position = (none, none) ∧ said.generics = none ∧
      said.params = tag.attributes.map literalParam := by
  have hposition : positionOf { tag.start with line := line, column := column } = (none, none) := by
    have hfind : tag.start.attributes.find? "pug-line" = none := tag.find?_reserved (Or.inl rfl)
    simp only [positionOf, hfind]
  refine ⟨?_, generics_of_gives_classify h tag.isParameter_entries, ?_⟩
  · obtain ⟨_, _, _, hplace, -⟩ := gives_classify h
    exact (gives_readPlace hplace).1.trans hposition
  · have hparams := params_of_gives_classify h
    rw [List.filter_eq_self.2 tag.isParameter_entries] at hparams
    have hentries := List.forall₂_map_left_iff.1 hparams
    have hvalues := (List.forall₂_and_left _ _).2 ⟨tag.literal_attributes, hentries⟩
    have hall : List.Forall₂ (fun a p => literalParam a = p) tag.attributes said.params := by
      refine hvalues.imp fun a p hp => ?_
      exact Except.ok.inj (hp.1.attributeParam.symm.trans hp.2)
    rw [← List.forall₂_map_left_iff, List.forall₂_eq_eq_eq] at hall
    exact hall.symm

theorem children_of_gives {ws : List Widget} (h : (contentWidgets o tag.content).Gives ws ds) :
    ws = tag.lines.map (literalText o) := by
  rcases tag.content_cases with ⟨hlines, hnil⟩ | ⟨hlines, htext⟩
  · rw [hnil] at h
    rw [hlines, (gives_contentWidgets_nil h).1, List.map_nil]
  · rw [htext] at h
    obtain ⟨us, vs, _, _, hus, hvs, rfl, -⟩ := gives_contentWidgets_cons h
    rw [(gives_contentWidgets_nil hvs).1, List.append_nil]
    have hwidgets := (gives_widgetsOf_text hus).1
    rw [tag.contentLines_text hlines, List.forall₂_map_left_iff] at hwidgets
    have hall : List.Forall₂ (fun l w => literalText o l = w) tag.lines us := by
      refine hwidgets.imp fun l w hw => ?_
      obtain ⟨ds, hw⟩ := hw
      obtain ⟨decoded, hdecoded, -, rfl⟩ := gives_textWidget hw
      rw [decodeReferences_escape] at hdecoded
      cases hdecoded
      rw [String.ofList_toList, literalText]
    rw [← List.forall₂_map_left_iff, List.forall₂_eq_eq_eq] at hall
    exact hall.symm

theorem widget_of_gives {w : Widget}
    (h : (compileTag o { tag.start with line := line, column := column } tag.content).Gives w ds) :
    w = tag.widget o := by
  obtain ⟨said, children, _, _, hsaid, hchildren, -, rfl⟩ := gives_tagWidget h
  obtain ⟨hposition, hgenerics, hparams⟩ := said_of_gives hsaid
  have hconstant : tag.start.attributes.contains constantAttribute =
      (tag.attributes.map (·.1)).contains constantAttribute := by
    rw [Attributes.contains, Attributes.names, start, List.map_map]
    rfl
  rw [hposition, hgenerics, hparams, children_of_gives hchildren, hconstant]
  rfl

end Given

theorem rootDiagnostics_eq_nil (line column : Option Int) :
    rootDiagnostics (.tag { tag.start with line := line, column := column } tag.content) = [] := by
  have hposition : tag.start.attributes.find? "pug-line" = none := tag.find?_reserved (Or.inl rfl)
  have hgenerics : tag.start.attributes.find? "type" = none := tag.find?_reserved (Or.inr rfl)
  have hcontent : contentDiagnostics tag.content = [] := by
    rcases tag.content_cases with ⟨-, hnil⟩ | ⟨-, htext⟩
    · rw [hnil, contentDiagnostics]
    · rw [htext]
      simp only [contentDiagnostics, elementDiagnostics, List.append_nil]
  simp only [rootDiagnostics, elementDiagnostics, startDiagnostics, positionDiagnostics,
    genericsDiagnostics, hposition, hgenerics, hcontent, List.append_nil]

end LiteralTag

/-- The markup of a tag with escaped values and lines is read and compiled to the one widget that
has these values and lines, and nothing is recorded. -/
theorem compile_escaped (tag : LiteralTag) (o : Options) {pad : List Char} (hpad : AllBlank pad) :
    ∃ roots, Markup.read (tag.source pad) = .ok roots ∧
      (compile o roots).result = .ok [tag.widget o] ∧ (compile o roots).diagnostics = [] := by
  obtain ⟨line, column, hread⟩ := tag.read_source hpad
  refine ⟨_, hread, ?_⟩
  generalize hroot :
    Element.tag { tag.start with line := line, column := column } tag.content = root
  -- the widgets exist, since nothing is too long; what they are follows from their being given
  have hreturns : (compile o [root]).Returns := by
    rw [returns_compile, returns_compileRoots]
    rintro ⟨start, children, hmem, hlong⟩
    rw [List.mem_singleton.1 hmem, ← hroot] at hlong
    exact tag.not_tooLong line column hlong
  obtain ⟨ws, hws⟩ := hreturns
  obtain ⟨groups, hgroups, rfl⟩ := gives_compile (Traced.gives_diagnostics hws)
  have hdiagnostics := Traced.diagnostics_of_gives_each hgroups fun e _ ws ds he =>
    diagnostics_rootWidgets he
  have hvalues := Traced.values_of_gives_each hgroups
  subst hroot
  cases hvalues with
  | cons hgroup hnone =>
    cases hnone
    obtain ⟨ds, hgroup⟩ := hgroup
    obtain ⟨w, rfl, hw⟩ := gives_rootWidgets_tag hgroup
    rw [LiteralTag.widget_of_gives hw] at hws
    refine ⟨hws, ?_⟩
    rw [hdiagnostics, List.flatMap_singleton, tag.rootDiagnostics_eq_nil]

/-- A tag in which every character of markup occurs, and a reference that is meant as text. -/
def sampleTag : LiteralTag where
  name := "p"
  attributes := [("title", "<a & \"b\">"), ("^x.y", "")]
  lines := ["1 < 2", "&lt; \t >"]
  isTagName := ⟨'p', [], rfl, by decide, by simp⟩
  not_void := by decide +kernel
  nodup := by decide
  literal_attributes := by
    intro a ha
    simp only [List.mem_cons, List.not_mem_nil, or_false] at ha
    rcases ha with rfl | rfl
    all_goals
      exact ⟨⟨by decide, List.all_eq_true.1 (by decide +kernel)⟩, by decide, by decide, by decide,
        by decide +kernel⟩
  literal_lines := by
    intro line hline
    simp only [List.mem_cons, List.not_mem_nil, or_false] at hline
    rcases hline with rfl | rfl
    all_goals exact ⟨by decide, by decide, by decide, by decide⟩

def sampleMarkup : String :=
  "<p title=\"&lt;a &amp; &quot;b&quot;&gt;\" ^x.y=\"\" >1 &lt; 2\n&amp;lt; \t &gt;</p>"

theorem compile_sampleMarkup :
    AllBlank [' '] ∧ ∃ roots, Markup.read sampleMarkup = .ok roots ∧
      (compile {} roots).result = .ok [sampleTag.widget {}] ∧
      (compile {} roots).diagnostics = [] := by
  have hblank : AllBlank [' '] := by simp [AllBlank, isBlank]
  have hsource : sampleTag.source [' '] = sampleMarkup := by decide +kernel
  have hcompile := compile_escaped sampleTag {} hblank
  rw [hsource] at hcompile
  exact ⟨hblank, hcompile⟩

end WidgetMarkup.Compile
