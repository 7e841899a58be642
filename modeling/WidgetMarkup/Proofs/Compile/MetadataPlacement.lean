import WidgetMarkup.Proofs.Compile.Diagnostics
import WidgetMarkup.Proofs.Compile.Traversal

/-!
# Metadata among the attributes

The position and the type arguments of a widget stand among its attributes, but they are no
parameters, and no parameter depends on them. Every other attribute becomes one parameter, so the
parameters stay the same when the metadata is left out, added or given other values, as long as the
position can be read at all.

Nor does it matter where the metadata stands. It is looked up by name, and what is wrong with the type
arguments is placed at the position even if this is written later. So the metadata can be moved to
other places among the attributes, and neither the widget nor its diagnostics change.
-/
namespace WidgetMarkup.Compile

open Markup (Element StartTag Attributes)
open Text

/-- The type arguments in the value of an attribute. -/
def typeArguments (raw : Option String) : Option (List String) :=
  match genericsValue raw with
  | none => none
  | some value =>
    if value.isEmpty then none
    else some ((pieces ',' value.toList).map fun p => String.ofList (trim p))

theorem names_of_gives_readGenerics {start : StartTag} {position : Option Int × Option Int}
    {raw : Option String} {names : Option (List String)} {ds : List Diagnostic}
    (h : (readGenerics start position (genericsValue raw)).Gives names ds) :
    names = typeArguments raw := by
  have hmissing : (readGenerics.missing start position).Gives names ds → names = none :=
    fun h => (gives_report h).1
  unfold typeArguments
  cases hvalue : genericsValue raw with
  | none =>
    rw [hvalue] at h
    exact hmissing h
  | some value =>
    rw [hvalue, readGenerics] at h
    dsimp only
    split at h
    · rename_i hempty
      rw [if_pos hempty]
      exact hmissing h
    · rename_i hempty
      rw [if_neg hempty]
      exact (Traced.gives_pure.1 h).1

theorem generics_of_parts {start : StartTag} {position : Option Int × Option Int}
    {entries : List (String × Option String)} {parts : List Part}
    (h : List.Forall₂ (fun e part => ∃ ds, (readAttribute start position e).Gives part ds)
      entries parts) :
    parts.filterMap Part.generics? = entries.flatMap fun e =>
      if e.1 = genericsAttribute then (typeArguments e.2).toList else [] := by
  induction h with
  | nil => rfl
  | @cons e part entries parts hpart _ ih =>
    obtain ⟨ds, hpart⟩ := hpart
    rw [List.flatMap_cons, ← ih]
    by_cases hgenerics : e.1 = genericsAttribute
    · obtain ⟨names, rfl, hnames⟩ := gives_readAttribute_generics hgenerics hpart
      rw [if_pos hgenerics, ← names_of_gives_readGenerics hnames, List.filterMap_cons]
      cases names with
      | none => rfl
      | some names => rfl
    · have hnone : part.generics? = none := by
        by_cases hposition : e.1 = positionAttribute
        · rw [(gives_readAttribute_position hposition hpart).1]
          rfl
        · obtain ⟨p, rfl, -⟩ :=
            gives_readAttribute_param (by simp [isParameter, hposition, hgenerics]) hpart
          rfl
      rw [if_neg hgenerics, List.nil_append, List.filterMap_cons_none hnone]

theorem generics_classify {start : StartTag} {said : Classified} {ds : List Diagnostic}
    (h : (classify start).Gives said ds) :
    said.generics = (start.attributes.find? genericsAttribute).bind typeArguments := by
  obtain ⟨-, ds₂, parts, -, hparts, hgenerics, -⟩ := gives_classify h
  rw [hgenerics, ← List.head?_filterMap, generics_of_parts (Traced.values_of_gives_each hparts),
    flatMap_key start.attributes.nodup genericsAttribute fun raw => (typeArguments raw).toList,
    Attributes.find?]
  cases (start.attributes.entries.find? (·.1 == genericsAttribute)).map (·.2) with
  | none => rfl
  | some raw => exact Option.head?_toList

/-- The attributes that become parameters are the same and in the same order. -/
def SameParameters (a b : Attributes) : Prop :=
  a.entries.filter isParameter = b.entries.filter isParameter

/-- The same attributes, with the metadata in other places. -/
structure MetadataMoved (a b : Attributes) : Prop where
  perm : a.entries.Perm b.entries
  sameParameters : SameParameters a b

/-- The position that attributes hold has a number that is too long to be read. -/
def LongPlace (a : Attributes) : Prop :=
  ∃ value, a.find? positionAttribute = some (some value) ∧ LongPosition value

section Changed

variable {o : Options} {start : StartTag} {children : List Element} {a : Attributes}
  {said said' : Classified} {ds ds' : List Diagnostic}

theorem params_of_sameParameters (hsame : SameParameters a start.attributes)
    (h : (classify start).Gives said ds)
    (h' : (classify { start with attributes := a }).Gives said' ds') :
    said'.params = said.params := by
  have hparams := params_of_gives_classify h
  have hparams' := params_of_gives_classify h'
  dsimp only at hparams'
  rw [hsame] at hparams'
  have hunique : Relator.RightUnique fun (e : String × Option String) p =>
      attributeParam e = .ok p := by
    intro e p q hp hq
    exact Except.ok.inj (hp.symm.trans hq)
  exact List.right_unique_forall₂' hunique hparams' hparams

/-- Everything that the attributes of a tag say is found wherever the metadata stands. -/
theorem classified_of_moved (hmoved : MetadataMoved a start.attributes)
    (h : (classify start).Gives said ds)
    (h' : (classify { start with attributes := a }).Gives said' ds') : said' = said := by
  have hfind := find?_eq_of_perm hmoved.perm
  have hgenerics : said'.generics = said.generics := by
    rw [generics_classify h, generics_classify h']
    dsimp only
    rw [hfind]
  have hposition : said'.position = said.position := by
    obtain ⟨_, _, _, hplace, -⟩ := gives_classify h
    obtain ⟨_, _, _, hplace', -⟩ := gives_classify h'
    rw [(gives_readPlace hplace).1, (gives_readPlace hplace').1, positionOf, positionOf]
    dsimp only
    rw [hfind]
  have hparams := params_of_sameParameters hmoved.sameParameters h h'
  obtain ⟨position, generics, params⟩ := said
  obtain ⟨position', generics', params'⟩ := said'
  dsimp only at hgenerics hposition hparams
  rw [hgenerics, hposition, hparams]

theorem exists_longValue_iff (a : Attributes) :
    (∃ e ∈ a.entries, LongValue e) ↔ ∃ e ∈ a.entries.filter isParameter, LongValue e := by
  constructor
  · rintro ⟨e, he, hlong⟩
    have hparameter : isParameter e = true := by simp [isParameter, hlong.1, hlong.2.1]
    exact ⟨e, List.mem_filter.2 ⟨he, hparameter⟩, hlong⟩
  · rintro ⟨e, he, hlong⟩
    exact ⟨e, (List.mem_filter.1 he).1, hlong⟩

theorem longStart_iff (start : StartTag) :
    LongStart start ↔ LongPlace start.attributes ∨
      ∃ e ∈ start.attributes.entries.filter isParameter, LongValue e := by
  rw [LongStart, exists_longValue_iff]
  rfl

/-- With other metadata a tag can still be compiled, unless the position cannot be read. -/
theorem returns_of_sameParameters (hsame : SameParameters a start.attributes)
    (h : (compileTag o start children).Returns) :
    (compileTag o { start with attributes := a } children).Returns ↔ ¬LongPlace a := by
  obtain ⟨hstart, hcontent⟩ := returns_tagWidget.1 h
  rw [longStart_iff, not_or] at hstart
  have hchanged : LongStart { start with attributes := a } ↔ LongPlace a := by
    rw [longStart_iff]
    dsimp only
    rw [hsame]
    exact or_iff_left hstart.2
  have hreturns : (compileTag o { start with attributes := a } children).Returns ↔
      ¬LongStart { start with attributes := a } ∧ (contentWidgets o children).Returns :=
    returns_tagWidget
  rw [hreturns, hchanged, and_iff_left hcontent]

theorem returns_of_moved (hmoved : MetadataMoved a start.attributes)
    (h : (compileTag o start children).Returns) :
    (compileTag o { start with attributes := a } children).Returns := by
  rw [returns_of_sameParameters hmoved.sameParameters h]
  rintro ⟨value, hvalue, hlong⟩
  rw [find?_eq_of_perm hmoved.perm] at hvalue
  exact (returns_tagWidget.1 h).1 (Or.inl ⟨value, hvalue, hlong⟩)

theorem contains_of_moved {b : Attributes} (hmoved : MetadataMoved a b) (name : String) :
    a.contains name = b.contains name := by
  rw [Bool.eq_iff_iff, Attributes.contains, Attributes.contains, List.contains_iff_mem,
    List.contains_iff_mem]
  exact (hmoved.perm.map (·.1)).mem_iff

end Changed

/-- A name, and the same name without a colon or an at sign in front. -/
def Unprefixed (name bare : String) : Prop :=
  name = ":" ++ bare ∨ name = "@" ++ bare ∨
    (name = bare ∧ name.toList.head? ≠ some ':' ∧ name.toList.head? ≠ some '@')

theorem unprefixed_ofAttribute (name : String) : Unprefixed name (ParamKind.ofAttribute name).2 := by
  have hcons : ∀ (c : Char) (rest : List Char), name.toList = c :: rest →
      name = String.ofList [c] ++ String.ofList rest := by
    intro c rest hname
    rw [← String.toList_inj, String.toList_append, String.toList_ofList, String.toList_ofList,
      hname]
    rfl
  unfold ParamKind.ofAttribute
  split
  · rename_i c rest hname
    split
    · rename_i hcolon
      subst hcolon
      exact Or.inl (hcons ':' rest hname)
    · rename_i hcolon
      split
      · rename_i hat
        subst hat
        exact Or.inr (Or.inl (hcons '@' rest hname))
      · rename_i hat
        refine Or.inr (Or.inr ⟨rfl, ?_, ?_⟩)
        · simpa [hname] using hcolon
        · simpa [hname] using hat
  · rename_i hname
    exact Or.inr (Or.inr ⟨rfl, by simp [hname], by simp [hname]⟩)

theorem unprefixed_of_attributeParam {entry : String × Option String} {p : Param}
    (h : attributeParam entry = .ok p) :
    ∃ bare, p.info.originalName = some bare ∧ Unprefixed entry.1 bare := by
  refine ⟨_, ?_, unprefixed_ofAttribute entry.1⟩
  unfold attributeParam at h
  split at h
  · rw [(makeParam_eq_ok h).1]
  · rw [(makeParam_eq_ok h).1]

/-- A compiled tag has one parameter for each attribute but the position and the type arguments, in
their order and with their names, and then its content. With other metadata the tag has the same
parameters, and it can be compiled unless the position cannot be read. With the metadata in other
places it has the same widget and leaves the same diagnostics. -/
theorem compileTag_metadata {o : Options} {start : StartTag} {children : List Element} {w : Widget}
    (h : (compileTag o start children).result = .ok w) :
    ∃ inside ps, (contentWidgets o children).result = .ok inside ∧
      w.params = ps ++ childrenParam inside ∧
      List.Forall₂ (fun entry p => ∃ bare, p.info.originalName = some bare ∧ Unprefixed entry.1 bare)
        (start.attributes.entries.filter isParameter) ps ∧
      (∀ a, SameParameters a start.attributes →
        ((compileTag o { start with attributes := a } children).Returns ↔ ¬LongPlace a) ∧
        ∀ v, (compileTag o { start with attributes := a } children).result = .ok v →
          v.params = ps ++ childrenParam inside) ∧
      ∀ a, MetadataMoved a start.attributes →
        (compileTag o { start with attributes := a } children).result = .ok w ∧
        (compileTag o { start with attributes := a } children).diagnostics =
          (compileTag o start children).diagnostics := by
  have hgives := Traced.gives_diagnostics h
  obtain ⟨said, inside, ds₁, ds₂, hsaid, hinside, -, rfl⟩ := gives_tagWidget hgives
  refine ⟨inside, said.params, hinside.1, rfl, ?_, ?_, ?_⟩
  · exact (params_of_gives_classify hsaid).imp fun _ _ => unprefixed_of_attributeParam
  · intro a hsame
    refine ⟨returns_of_sameParameters hsame ⟨_, h⟩, ?_⟩
    intro v hv
    obtain ⟨said', inside', ds₁', ds₂', hsaid', hinside', -, rfl⟩ :=
      gives_tagWidget (Traced.gives_diagnostics hv)
    have hcontent : inside' = inside := Except.ok.inj (hinside'.1.symm.trans hinside.1)
    rw [Widget.params, params_of_sameParameters hsame hsaid hsaid', hcontent]
  · intro a hmoved
    obtain ⟨v, hv⟩ := returns_of_moved hmoved ⟨_, h⟩
    have hgives' := Traced.gives_diagnostics hv
    have hcontent := diagnostics_contentWidgets o children
    constructor
    · obtain ⟨said', inside', ds₁', ds₂', hsaid', hinside', -, rfl⟩ := gives_tagWidget hgives'
      have heq : inside' = inside := Except.ok.inj (hinside'.1.symm.trans hinside.1)
      rw [hv, classified_of_moved hmoved hsaid hsaid', heq]
      dsimp only
      rw [contains_of_moved hmoved]
    · rw [diagnostics_compileTag hgives' hcontent, diagnostics_compileTag hgives hcontent,
        elementDiagnostics, elementDiagnostics, startDiagnostics_eq_of_perm hmoved.perm]

/-- A tag whose type arguments are missing, with the position written after them. -/
def reservedTag : StartTag :=
  ⟨"B", .ofWritten [("type", "type"), (":a", "x"), ("const", "const"), ("pug-line", "3,4")],
    some 1, some 1⟩

def reservedMoved : Attributes :=
  .ofWritten [("pug-line", "3,4"), (":a", "x"), ("type", "type"), ("const", "const")]

def reservedLeftOut : Attributes :=
  .ofWritten [(":a", "x"), ("const", "const")]

/-- The diagnostic for the missing type arguments is placed at the position wherever this stands, and
without both the parameters are the same. -/
theorem compileTag_reservedTag :
    ∃ w p q, (compileTag {} reservedTag []).result = .ok w ∧ w.params = [p, q] ∧
      (compileTag {} { reservedTag with attributes := reservedMoved } []).result = .ok w ∧
      (compileTag {} { reservedTag with attributes := reservedMoved } []).diagnostics =
        [⟨"type has no value, no generics set", some "B", some 3, some 4⟩] ∧
      ∃ v, (compileTag {} { reservedTag with attributes := reservedLeftOut } []).result = .ok v ∧
        v.params = [p, q] := by
  obtain ⟨w, p, q, hw, hparams⟩ :
      ∃ w p q, (compileTag {} reservedTag []).result = .ok w ∧ w.params = [p, q] :=
    ⟨_, _, _, by with_unfolding_all rfl, rfl⟩
  obtain ⟨inside, ps, -, hwparams, -, hchanged, hmoved⟩ := compileTag_metadata hw
  have hmetadata : MetadataMoved reservedMoved reservedTag.attributes :=
    ⟨by decide +kernel, by unfold SameParameters; decide +kernel⟩
  have hsame : SameParameters reservedLeftOut reservedTag.attributes := by
    unfold SameParameters
    decide +kernel
  have hplace : ¬LongPlace reservedLeftOut := by
    rintro ⟨value, hvalue, -⟩
    have hnone : reservedLeftOut.find? positionAttribute = none := by decide +kernel
    cases hnone.symm.trans hvalue
  obtain ⟨hresult, hdiagnostics⟩ := hmoved reservedMoved hmetadata
  obtain ⟨hreturns, hunchanged⟩ := hchanged reservedLeftOut hsame
  obtain ⟨v, hv⟩ := hreturns.2 hplace
  refine ⟨w, p, q, hw, hparams, hresult, hdiagnostics.trans (by with_unfolding_all rfl), v, hv, ?_⟩
  rw [hunchanged v hv, ← hwparams, hparams]

end WidgetMarkup.Compile
