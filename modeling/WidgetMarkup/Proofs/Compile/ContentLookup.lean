import WidgetMarkup.Proofs.Compile.Traversal

/-!
# Finding the content of a widget

The content of a tag is put into the last parameter of its widget, under the name `children`. It is
looked up by that name, and the first parameter of the name is the one that is found. An attribute can
become a parameter of the same name, in several spellings; it comes first then and holds no widgets,
so the content is not found. Any other content is found.
-/
namespace WidgetMarkup.Compile

open Markup (Element StartTag)

/-- An attribute whose parameter has the name of the content: without the character for its kind, it is
that name after a caret, or it has no caret and is that name in camel case. -/
def NamesContent (written : String) : Prop :=
  (ParamKind.ofAttribute written).2 = "^children" ∨
    ((ParamKind.ofAttribute written).2.toList.head? ≠ some '^' ∧
      Naming.camelCase (ParamKind.ofAttribute written).2 = "children")

instance : DecidablePred NamesContent :=
  fun _ => inferInstanceAs (Decidable (_ ∨ _))

theorem paramName_eq_childrenName {name : String} :
    (paramName name).1 = some Widget.childrenName ↔
      name = "^children" ∨ (name.toList.head? ≠ some '^' ∧ Naming.camelCase name = "children") := by
  unfold paramName
  split
  · rename_i rest hname
    have hcaret : name = "^children" ↔ String.ofList rest = "children" := by
      rw [← String.toList_inj, ← String.toList_inj, hname, String.toList_ofList (l := rest)]
      exact List.cons_inj_right '^'
    simp [hname, hcaret, Widget.childrenName]
  · rename_i hname
    have hhead : name.toList.head? ≠ some '^' := by
      intro hcaret
      obtain ⟨rest, hrest⟩ := List.head?_eq_some_iff.1 hcaret
      exact hname rest hrest
    have hne : name ≠ "^children" := by
      rintro rfl
      exact hhead rfl
    dsimp only
    split
    · rename_i hvalue
      simp [hne, hvalue]
    · simp [hne, hhead, Widget.childrenName]

theorem name_of_attributeParam {entry : String × Option String} {p : Param}
    (h : attributeParam entry = .ok p) :
    p.name = (paramName (ParamKind.ofAttribute entry.1).2).1 := by
  unfold attributeParam at h
  split at h
  · rw [Param.name, (makeParam_eq_ok h).1]
  · rw [Param.name, (makeParam_eq_ok h).1]

theorem isParameter_of_namesContent {entry : String × Option String} (h : NamesContent entry.1) :
    isParameter entry = true := by
  have hposition : ¬NamesContent positionAttribute := by decide +kernel
  have hgenerics : ¬NamesContent genericsAttribute := by decide +kernel
  simp only [isParameter, Bool.and_eq_true, decide_eq_true_eq]
  constructor
  · intro hname
    rw [hname] at h
    exact hposition h
  · intro hname
    rw [hname] at h
    exact hgenerics h

theorem exists_childrenName_iff {entries : List (String × Option String)} {ps : List Param}
    (h : List.Forall₂ (fun e p => attributeParam e = .ok p) entries ps) :
    (∃ p ∈ ps, p.name = some Widget.childrenName) ↔ ∃ e ∈ entries, NamesContent e.1 := by
  induction h with
  | nil => simp
  | @cons e p entries ps hp _ ih =>
    have hname : p.name = some Widget.childrenName ↔ NamesContent e.1 := by
      rw [name_of_attributeParam hp]
      exact paramName_eq_childrenName
    rw [List.exists_mem_cons_iff, List.exists_mem_cons_iff, hname, ih]

section Lookup

variable {info : WidgetInfo} {ps : List Param} {inside : List Widget}

theorem filterMap_widget? (ws : List Widget) :
    (ws.map Value.widget).filterMap Value.widget? = ws := by
  induction ws with
  | nil => rfl
  | cons w ws ih =>
    rw [List.map_cons, List.filterMap_cons, ih]
    rfl

/-- A parameter of the name that comes first hides the content. -/
theorem children_of_named (hkinds : ∀ p ∈ ps, p.info.kind ≠ .widgets)
    (h : ∃ p ∈ ps, p.name = some Widget.childrenName) :
    (Widget.mk info (ps ++ childrenParam inside)).children = .ok [] := by
  have hsome : (ps.find? (·.name == some Widget.childrenName)).isSome = true := by
    rw [List.find?_isSome]
    obtain ⟨p, hp, hname⟩ := h
    exact ⟨p, hp, by simp [hname]⟩
  obtain ⟨p, hfind⟩ := Option.isSome_iff_exists.1 hsome
  have hkind := hkinds p (List.mem_of_find?_eq_some hfind)
  have hparam : (Widget.mk info (ps ++ childrenParam inside)).param?
      (some Widget.childrenName) = some p := by
    rw [Widget.param?, Widget.params, List.find?_append, hfind]
    rfl
  simp only [Widget.children, hparam, if_neg hkind]

theorem children_of_not_named (h : ¬∃ p ∈ ps, p.name = some Widget.childrenName) :
    (Widget.mk info (ps ++ childrenParam inside)).children = .ok inside := by
  have hnone : ps.find? (·.name == some Widget.childrenName) = none := by
    rw [List.find?_eq_none]
    intro p hp hname
    exact h ⟨p, hp, by simpa using hname⟩
  have hparam : (Widget.mk info (ps ++ childrenParam inside)).param?
      (some Widget.childrenName) =
        (childrenParam inside).find? (·.name == some Widget.childrenName) := by
    rw [Widget.param?, Widget.params, List.find?_append, hnone]
    rfl
  simp only [Widget.children, hparam]
  cases inside with
  | nil => rfl
  | cons w ws => exact congrArg Except.ok (filterMap_widget? (w :: ws))

end Lookup

/-- The content of a compiled tag is found in its widget exactly if there is none or no attribute of
the tag has the name of the content. Otherwise the widget seems to have no content. -/
theorem children_compileTag {o : Options} {start : StartTag} {content : List Element} {w : Widget}
    (h : (compileTag o start content).result = .ok w) :
    ∃ inside, (contentWidgets o content).result = .ok inside ∧
      (w.children = .ok inside ↔
        inside = [] ∨ ¬∃ e ∈ start.attributes.entries, NamesContent e.1) ∧
      ((∃ e ∈ start.attributes.entries, NamesContent e.1) → w.children = .ok []) := by
  obtain ⟨said, inside, ds₁, ds₂, hsaid, hinside, -, rfl⟩ :=
    gives_tagWidget (Traced.gives_diagnostics h)
  have hparams := params_of_gives_classify hsaid
  have hnamed : (∃ p ∈ said.params, p.name = some Widget.childrenName) ↔
      ∃ e ∈ start.attributes.entries, NamesContent e.1 := by
    rw [exists_childrenName_iff hparams]
    constructor
    · rintro ⟨e, he, hname⟩
      exact ⟨e, (List.mem_filter.1 he).1, hname⟩
    · rintro ⟨e, he, hname⟩
      exact ⟨e, List.mem_filter.2 ⟨he, isParameter_of_namesContent hname⟩, hname⟩
  refine ⟨inside, hinside.1, ?_, ?_⟩
  · by_cases hname : ∃ e ∈ start.attributes.entries, NamesContent e.1
    · rw [children_of_named (kinds_of_attributeParams hparams) (hnamed.2 hname)]
      simp [hname, eq_comm]
    · rw [children_of_not_named fun hp => hname (hnamed.1 hp)]
      simp [hname]
  · intro hname
    exact children_of_named (kinds_of_attributeParams hparams) (hnamed.2 hname)

/-- A tag with one attribute and a line of text. -/
theorem children_compileTag_titled :
    ∃ w inside, (compileTag {} ⟨"B", .ofWritten [("title", "x")], none, none⟩ [.text "y"]).result =
        .ok w ∧ inside.length = 1 ∧ w.children = .ok inside := by
  obtain ⟨w, hw⟩ : ∃ w,
      (compileTag {} ⟨"B", .ofWritten [("title", "x")], none, none⟩ [.text "y"]).result = .ok w :=
    ⟨_, by with_unfolding_all rfl⟩
  obtain ⟨ws, hws, hlength⟩ :
      ∃ ws, (contentWidgets {} [.text "y"]).result = .ok ws ∧ ws.length = 1 :=
    ⟨_, by with_unfolding_all rfl, rfl⟩
  obtain ⟨inside, hinside, hfound, -⟩ := children_compileTag hw
  cases hws.symm.trans hinside
  refine ⟨w, ws, hw, hlength, hfound.2 (Or.inr ?_)⟩
  decide +kernel

/-- The same line of text is not found if the attribute has the name of the content. -/
theorem children_hidden_by_attribute :
    ∃ w inside,
      (compileTag {} ⟨"B", .ofWritten [("children", "x")], none, none⟩ [.text "y"]).result = .ok w ∧
        (contentWidgets {} [.text "y"]).result = .ok inside ∧ inside.length = 1 ∧
        w.children = .ok [] :=
  ⟨_, _, by with_unfolding_all rfl, by with_unfolding_all rfl, rfl, by with_unfolding_all rfl⟩

end WidgetMarkup.Compile
