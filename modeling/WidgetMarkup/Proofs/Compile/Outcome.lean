import Mathlib.Data.List.Forall2
import WidgetMarkup.Compile.Basic

/-!
# What compiling gives

A computation that returns gives a value and leaves diagnostics behind. Computations one after the
other give the last value and all diagnostics in order. For each function of the compiler one
statement says what it has given when it returns; later statements about widgets or diagnostics are
read off from these and do not look into the functions again.
-/
namespace WidgetMarkup.Compile

open Markup (Element StartTag)
open Text

namespace Traced

variable {α β : Type} {x : Traced α} {f : α → Traced β} {a : α} {b : β} {ds : List Diagnostic}

/-- A computation returns a value and leaves diagnostics. -/
def Gives (x : Traced α) (a : α) (ds : List Diagnostic) : Prop :=
  x.result = .ok a ∧ x.diagnostics = ds

theorem gives_diagnostics (h : x.result = .ok a) : x.Gives a x.diagnostics :=
  ⟨h, rfl⟩

@[simp]
theorem gives_pure {a' : α} : (Pure.pure a : Traced α).Gives a' ds ↔ a' = a ∧ ds = [] := by
  constructor
  · rintro ⟨hresult, rfl⟩
    cases hresult
    exact ⟨rfl, rfl⟩
  · rintro ⟨rfl, rfl⟩
    exact ⟨rfl, rfl⟩

@[simp]
theorem gives_lift {r : Except NumeralTooLong α} : (lift r).Gives a ds ↔ r = .ok a ∧ ds = [] :=
  and_congr_right fun _ => eq_comm

@[simp]
theorem gives_emit {e : Event} {u : Unit} : (emit e).Gives u ds ↔ ds = e.diagnostic?.toList := by
  have hdiagnostics : (emit e).diagnostics = e.diagnostic?.toList := by
    simp only [diagnostics, emit, List.filterMap_cons, List.filterMap_nil]
    cases e.diagnostic? with
    | none => rfl
    | some d => rfl
  rw [Gives, hdiagnostics]
  exact ⟨fun h => h.2.symm, fun h => ⟨rfl, h.symm⟩⟩

theorem gives_bind : (x >>= f).Gives b ds ↔
    ∃ a ds₁ ds₂, x.Gives a ds₁ ∧ (f a).Gives b ds₂ ∧ ds = ds₁ ++ ds₂ := by
  have hbind : x >>= f = x.bind f := rfl
  unfold bind at hbind
  cases hresult : x.result with
  | error e =>
    rw [hresult] at hbind
    rw [hbind]
    constructor
    · rintro ⟨h, -⟩
      cases h
    · rintro ⟨a, ds₁, ds₂, ⟨h, -⟩, -⟩
      rw [hresult] at h
      cases h
  | ok a =>
    rw [hresult] at hbind
    have hdiagnostics : (x >>= f).diagnostics = x.diagnostics ++ (f a).diagnostics := by
      rw [hbind]
      exact List.filterMap_append
    have hvalue : (x >>= f).result = (f a).result := by rw [hbind]
    rw [Gives, hdiagnostics, hvalue]
    constructor
    · rintro ⟨h, rfl⟩
      exact ⟨a, _, _, gives_diagnostics hresult, gives_diagnostics h, rfl⟩
    · rintro ⟨a', _, _, ⟨h, rfl⟩, ⟨h', rfl⟩, rfl⟩
      rw [hresult] at h
      cases h
      exact ⟨h', rfl⟩

theorem gives_each {l : List α} {bs : List β} : (each f l).Gives bs ds ↔
    ∃ r : List (β × List Diagnostic), List.Forall₂ (fun a p => (f a).Gives p.1 p.2) l r ∧
      bs = r.map (·.1) ∧ ds = r.flatMap (·.2) := by
  induction l generalizing bs ds with
  | nil =>
    rw [each]
    constructor
    · intro h
      obtain ⟨rfl, rfl⟩ := gives_pure.1 h
      exact ⟨[], .nil, rfl, rfl⟩
    · rintro ⟨r, hr, rfl, rfl⟩
      cases hr
      exact gives_pure.2 ⟨rfl, rfl⟩
  | cons a l ih =>
    rw [each]
    simp only [gives_bind, gives_pure]
    constructor
    · rintro ⟨b, ds₁, _, hb, ⟨bs', ds₂, _, hbs, ⟨rfl, rfl⟩, rfl⟩, rfl⟩
      obtain ⟨r, hr, rfl, rfl⟩ := ih.1 hbs
      exact ⟨(b, ds₁) :: r, .cons hb hr, rfl, by simp⟩
    · rintro ⟨_, hr, rfl, rfl⟩
      cases hr with
      | cons hb hr =>
        exact ⟨_, _, _, hb, ⟨_, _, [], ih.2 ⟨_, hr, rfl, rfl⟩, ⟨rfl, rfl⟩, rfl⟩, by simp⟩

/-- Where every item leaves the diagnostics that belong to it, the list leaves all of them. -/
theorem diagnostics_of_gives_each {g : α → List Diagnostic} {l : List α} {bs : List β}
    (h : (each f l).Gives bs ds) (hf : ∀ a ∈ l, ∀ b ds, (f a).Gives b ds → ds = g a) :
    ds = l.flatMap g := by
  obtain ⟨r, hr, -, rfl⟩ := gives_each.1 h
  clear h
  induction hr with
  | nil => rfl
  | @cons a p l r hp _ ih =>
    have hrest := ih fun a ha => hf a (List.mem_cons_of_mem _ ha)
    rw [List.flatMap_cons, List.flatMap_cons, hf a List.mem_cons_self p.1 p.2 hp, hrest]

theorem values_of_gives_each {l : List α} {bs : List β} (h : (each f l).Gives bs ds) :
    List.Forall₂ (fun a b => ∃ ds, (f a).Gives b ds) l bs := by
  obtain ⟨r, hr, rfl, -⟩ := gives_each.1 h
  rw [List.forall₂_map_right_iff]
  exact hr.imp fun a p hp => ⟨p.2, hp⟩

end Traced

open Traced (gives_pure gives_lift gives_emit gives_bind gives_each)

/-- An attribute that becomes a parameter. -/
def isParameter (entry : String × Option String) : Bool :=
  entry.1 ≠ positionAttribute && entry.1 ≠ genericsAttribute

/-- The parameter that an attribute becomes. A colon at the start of the value counts for more than
the first character of the name. -/
def attributeParam (entry : String × Option String) : Except NumeralTooLong Param :=
  match entry.2.bind expressionValue? with
  | some rest => makeParam entry.1 .expression (ParamKind.ofAttribute entry.1).2 (some rest)
  | none =>
    makeParam entry.1 (ParamKind.ofAttribute entry.1).1 (ParamKind.ofAttribute entry.1).2 entry.2

/-- The value in which type arguments are looked for. Without a colon at its start a value stands for
itself, and the name of the attribute for no value. -/
def genericsValue (raw : Option String) : Option String :=
  if raw = some genericsAttribute then none
  else
    match raw.bind expressionValue? with
    | some rest => some rest
    | none => raw

section Attributes

variable {start : StartTag} {position : Option Int × Option Int} {entry : String × Option String}
  {part : Part} {ds : List Diagnostic}

theorem gives_readAttribute_position (hname : entry.1 = positionAttribute)
    (h : (readAttribute start position entry).Gives part ds) : part = .position ∧ ds = [] := by
  simp only [readAttribute, hname, if_true] at h
  exact gives_pure.1 h

theorem gives_readAttribute_generics (hname : entry.1 = genericsAttribute)
    (h : (readAttribute start position entry).Gives part ds) :
    ∃ names, part = .generics names ∧
      (readGenerics start position (genericsValue entry.2)).Gives names ds := by
  have hne : genericsAttribute ≠ positionAttribute := by decide
  simp only [readAttribute, hname, hne, if_false, if_true] at h
  obtain ⟨names, ds₁, ds₂, hnames, hpart, rfl⟩ := gives_bind.1 h
  obtain ⟨rfl, rfl⟩ := gives_pure.1 hpart
  refine ⟨names, rfl, ?_⟩
  rw [List.append_nil]
  unfold genericsValue
  split at hnames
  · rename_i hraw
    rwa [if_pos hraw]
  · rename_i hraw
    rw [if_neg hraw]
    cases hvalue : entry.2.bind expressionValue? with
    | none => simpa only [hvalue] using hnames
    | some rest => simpa only [hvalue] using hnames

theorem gives_readAttribute_param (hentry : isParameter entry = true)
    (h : (readAttribute start position entry).Gives part ds) :
    ∃ p, part = .param p ∧ attributeParam entry = .ok p ∧ ds = [] := by
  simp only [isParameter, Bool.and_eq_true, decide_eq_true_eq] at hentry
  simp only [readAttribute, hentry.1, hentry.2, if_false] at h
  obtain ⟨p, ds₁, ds₂, hlift, hpart, rfl⟩ := gives_bind.1 h
  obtain ⟨rfl, rfl⟩ := gives_pure.1 hpart
  obtain ⟨hp, rfl⟩ := gives_lift.1 hlift
  refine ⟨p, rfl, ?_, rfl⟩
  unfold attributeParam
  cases hvalue : entry.2.bind expressionValue? with
  | none => simpa only [hvalue] using hp
  | some rest => simpa only [hvalue] using hp

/-- Of the parts that attributes give, the parameters are those of the attributes that become one. -/
theorem params_of_parts {entries : List (String × Option String)} {parts : List Part}
    (h : List.Forall₂ (fun e part => ∃ ds, (readAttribute start position e).Gives part ds)
      entries parts) :
    List.Forall₂ (fun e p => attributeParam e = .ok p) (entries.filter isParameter)
      (parts.filterMap Part.param?) := by
  induction h with
  | nil => exact .nil
  | @cons e part entries parts hpart _ ih =>
    obtain ⟨ds, hpart⟩ := hpart
    by_cases hparam : isParameter e = true
    · obtain ⟨p, rfl, hp, -⟩ := gives_readAttribute_param hparam hpart
      rw [List.filter_cons_of_pos hparam]
      exact .cons hp ih
    · rw [List.filter_cons_of_neg hparam]
      -- a reserved attribute gives a part that is no parameter
      have hnone : part.param? = none := by
        have hreserved : e.1 = positionAttribute ∨ e.1 = genericsAttribute := by
          simp only [isParameter, Bool.and_eq_true, decide_eq_true_eq] at hparam
          by_cases hposition : e.1 = positionAttribute
          · exact Or.inl hposition
          · exact Or.inr (by_contra fun hgenerics => hparam ⟨hposition, hgenerics⟩)
        rcases hreserved with hname | hname
        · rw [(gives_readAttribute_position hname hpart).1]
          rfl
        · obtain ⟨names, rfl, -⟩ := gives_readAttribute_generics hname hpart
          rfl
      rwa [List.filterMap_cons_none hnone]

end Attributes

/-- The line and the column that the position attribute of a tag holds, if there is one. -/
def readPlace (start : StartTag) : Traced (Option Int × Option Int) :=
  match start.attributes.find? positionAttribute with
  | some value => readPosition start value
  | none => pure (none, none)

theorem classify_eq (start : StartTag) :
    classify start = readPlace start >>= fun position =>
      Traced.each (readAttribute start position) start.attributes.entries >>= fun parts =>
        Pure.pure ⟨position, parts.findSome? Part.generics?, parts.filterMap Part.param?⟩ := by
  unfold classify readPlace
  cases start.attributes.find? positionAttribute with
  | none => rfl
  | some value => rfl

theorem gives_classify {start : StartTag} {said : Classified} {ds : List Diagnostic}
    (h : (classify start).Gives said ds) :
    ∃ ds₁ ds₂ parts, (readPlace start).Gives said.position ds₁ ∧
      (Traced.each (readAttribute start said.position) start.attributes.entries).Gives parts ds₂ ∧
      said.generics = parts.findSome? Part.generics? ∧
      said.params = parts.filterMap Part.param? ∧ ds = ds₁ ++ ds₂ := by
  rw [classify_eq] at h
  obtain ⟨position, ds₁, _, hposition, hattributes, rfl⟩ := gives_bind.1 h
  obtain ⟨parts, ds₂, _, hparts, hsaid, rfl⟩ := gives_bind.1 hattributes
  obtain ⟨rfl, rfl⟩ := gives_pure.1 hsaid
  rw [List.append_nil]
  exact ⟨ds₁, ds₂, parts, hposition, hparts, rfl, rfl, rfl⟩

theorem params_of_gives_classify {start : StartTag} {said : Classified} {ds : List Diagnostic}
    (h : (classify start).Gives said ds) :
    List.Forall₂ (fun e p => attributeParam e = .ok p)
      (start.attributes.entries.filter isParameter) said.params := by
  obtain ⟨-, ds₂, parts, -, hparts, -, hparams, -⟩ := gives_classify h
  rw [hparams]
  exact params_of_parts (Traced.values_of_gives_each hparts)

/-- A tag whose attributes all become parameters has no type arguments. -/
theorem generics_of_gives_classify {start : StartTag} {said : Classified} {ds : List Diagnostic}
    (h : (classify start).Gives said ds)
    (hparams : ∀ e ∈ start.attributes.entries, isParameter e = true) : said.generics = none := by
  obtain ⟨-, ds₂, parts, -, hparts, hgenerics, -⟩ := gives_classify h
  rw [hgenerics, List.findSome?_eq_none_iff]
  have hvalues := Traced.values_of_gives_each hparts
  generalize start.attributes.entries = entries at hparams hvalues
  clear hparts hgenerics h
  induction hvalues with
  | nil => simp
  | cons hpart _ ih =>
    obtain ⟨hentry, hrest⟩ := List.forall_mem_cons.1 hparams
    obtain ⟨ds, hpart⟩ := hpart
    obtain ⟨p, rfl, -⟩ := gives_readAttribute_param hentry hpart
    exact List.forall_mem_cons.2 ⟨rfl, ih hrest⟩

section Elements

variable {o : Options} {ds : List Diagnostic}

theorem gives_textWidget {line : List Char} {w : Widget} (h : (textWidget o line).Gives w ds) :
    ∃ decoded, decodeReferences line = .ok decoded ∧ ds = [] ∧
      w = .mk
        { name := o.textWidget
          originalName := "text"
          constant := o.autoConstText && !decoded.contains '$' }
        [.mk { kind := .literal, resolved := true } (.text (String.ofList decoded))] := by
  obtain ⟨decoded, ds₁, ds₂, hlift, hw, rfl⟩ := gives_bind.1 h
  obtain ⟨hdecoded, rfl⟩ := gives_lift.1 hlift
  obtain ⟨rfl, rfl⟩ := gives_pure.1 hw
  exact ⟨decoded, hdecoded, rfl, rfl⟩

/-- The widget of a tag is described by its name, by what its attributes say, and by its content. -/
theorem gives_tagWidget {start : StartTag} {content : Traced (List Widget)} {w : Widget}
    (h : (tagWidget o start content).Gives w ds) :
    ∃ said children ds₁ ds₂, (classify start).Gives said ds₁ ∧ content.Gives children ds₂ ∧
      ds = ds₁ ++ ds₂ ∧
      w = .mk
        { name := className o start.name
          originalName := start.name
          constant := start.attributes.contains constantAttribute
          generics := said.generics
          line := said.position.1
          column := said.position.2 }
        (said.params ++ childrenParam children) := by
  obtain ⟨_, ds₀, _, hemit, hclassify, rfl⟩ := gives_bind.1 h
  obtain ⟨said, ds₁, _, hsaid, hchildren, rfl⟩ := gives_bind.1 hclassify
  obtain ⟨children, ds₂, _, hcontent, hw, rfl⟩ := gives_bind.1 hchildren
  obtain ⟨rfl, rfl⟩ := gives_pure.1 hw
  have hnone : ds₀ = [] := gives_emit.1 hemit
  subst hnone
  exact ⟨said, children, ds₁, ds₂, hsaid, hcontent, by simp, rfl⟩

theorem gives_widgetsOf_text {data : String} {ws : List Widget}
    (h : (widgetsOf o (.text data)).Gives ws ds) :
    List.Forall₂ (fun line w => ∃ ds, (textWidget o line).Gives w ds) (contentLines data) ws ∧
      ds = [] := by
  rw [widgetsOf, textWidgets] at h
  refine ⟨Traced.values_of_gives_each h, ?_⟩
  rw [Traced.diagnostics_of_gives_each (g := fun _ => []) h]
  · simp
  · intro line _ w ds hw
    obtain ⟨-, -, hds, -⟩ := gives_textWidget hw
    exact hds

theorem gives_widgetsOf_tag {start : StartTag} {children : List Element} {ws : List Widget}
    (h : (widgetsOf o (.tag start children)).Gives ws ds) :
    ∃ w, ws = [w] ∧ (compileTag o start children).Gives w ds := by
  rw [widgetsOf] at h
  obtain ⟨w, ds₁, ds₂, hw, hws, rfl⟩ := gives_bind.1 h
  obtain ⟨rfl, rfl⟩ := gives_pure.1 hws
  exact ⟨w, rfl, by rwa [List.append_nil]⟩

theorem gives_contentWidgets_nil {ws : List Widget} (h : (contentWidgets o []).Gives ws ds) :
    ws = [] ∧ ds = [] := by
  rw [contentWidgets] at h
  exact gives_pure.1 h

theorem gives_contentWidgets_cons {e : Element} {es : List Element} {ws : List Widget}
    (h : (contentWidgets o (e :: es)).Gives ws ds) :
    ∃ us vs ds₁ ds₂, (widgetsOf o e).Gives us ds₁ ∧ (contentWidgets o es).Gives vs ds₂ ∧
      ws = us ++ vs ∧ ds = ds₁ ++ ds₂ := by
  rw [contentWidgets] at h
  obtain ⟨us, ds₁, _, hus, hrest, rfl⟩ := gives_bind.1 h
  obtain ⟨vs, ds₂, _, hvs, hws, rfl⟩ := gives_bind.1 hrest
  obtain ⟨rfl, rfl⟩ := gives_pure.1 hws
  exact ⟨us, vs, ds₁, ds₂, hus, hvs, rfl, by simp⟩

end Elements

section Documents

variable {o : Options} {ds : List Diagnostic}

theorem gives_rootWidgets_text {data : String} {ws : List Widget}
    (h : (rootWidgets o (.text data)).Gives ws ds) :
    ws = [] ∧ ds = if trim data.toList = [] then [] else
      [⟨(Problem.strayText (String.ofList ((trim data.toList).take strayLimit))).message,
        none, none, none⟩] := by
  simp only [rootWidgets, List.isEmpty_iff] at h
  split at h
  · rename_i hblank
    rw [if_pos hblank]
    exact gives_pure.1 h
  · rename_i hblank
    obtain ⟨_, ds₁, ds₂, hemit, hws, rfl⟩ := gives_bind.1 h
    obtain ⟨rfl, rfl⟩ := gives_pure.1 hws
    rw [if_neg hblank, gives_emit.1 hemit]
    exact ⟨rfl, rfl⟩

theorem gives_rootWidgets_tag {start : StartTag} {children : List Element} {ws : List Widget}
    (h : (rootWidgets o (.tag start children)).Gives ws ds) :
    ∃ w, ws = [w] ∧ (compileTag o start children).Gives w ds := by
  rw [rootWidgets] at h
  obtain ⟨w, ds₁, ds₂, hw, hws, rfl⟩ := gives_bind.1 h
  obtain ⟨rfl, rfl⟩ := gives_pure.1 hws
  exact ⟨w, rfl, by rwa [List.append_nil]⟩

theorem gives_compile {document : List Element} {ws : List Widget}
    (h : (compile o document).Gives ws ds) :
    ∃ groups, (Traced.each (rootWidgets o) document).Gives groups ds ∧ ws = groups.flatten := by
  obtain ⟨_, ds₀, _, hstarted, hroots, rfl⟩ := gives_bind.1 h
  obtain ⟨widgets, ds₁, _, hbody, hend, rfl⟩ := gives_bind.1 hroots
  obtain ⟨_, ds₂, _, hfinished, hws, rfl⟩ := gives_bind.1 hend
  obtain ⟨rfl, rfl⟩ := gives_pure.1 hws
  obtain ⟨groups, ds₃, _, hgroups, hwidgets, rfl⟩ := gives_bind.1 hbody
  obtain ⟨rfl, rfl⟩ := gives_pure.1 hwidgets
  have hnone₀ : ds₀ = [] := gives_emit.1 hstarted
  have hnone₂ : ds₂ = [] := gives_emit.1 hfinished
  subst hnone₀ hnone₂
  exact ⟨groups, by simpa using hgroups, rfl⟩

end Documents

end WidgetMarkup.Compile
