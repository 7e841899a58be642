import Mathlib.Data.List.Nodup
import WidgetMarkup.Proofs.Compile.Outcome
import WidgetMarkup.Proofs.Compile.Returning
import WidgetMarkup.Proofs.Text.Lines

/-!
# The diagnostics of a document

What is recorded when a document is compiled can be read off from the document alone: for a text
outside of tags that it is there, and for a tag what is wrong with its position and with its type
arguments, before what is wrong with the tags in it. Only two attributes matter, and they are looked
up by name, so that the order of the attributes makes no difference.

A problem with the type arguments is placed at the position that the tag gives, if its line is a
number. Line and column then both come from there; otherwise both come from the markup.
-/
namespace WidgetMarkup.Compile

open Markup (Element StartTag Attributes)
open Text

/-- The integer that a sign and digits write. -/
def signedValue (negative : Bool) (digits : List Char) : Int :=
  if negative then -(ofDigitValues 10 (digits.filterMap digitValue?) : Int)
  else ofDigitValues 10 (digits.filterMap digitValue?)

def integerAt? (s : List Char) : Option Int :=
  (leadingInteger? s).map fun r => signedValue r.1 r.2

theorem integerAt?_eq_some_iff {s : List Char} {n : Int} :
    integerAt? s = some n ↔
      ∃ negative digits, LeadsWith s negative digits ∧ n = signedValue negative digits := by
  simp only [integerAt?, Option.map_eq_some_iff, Prod.exists, leadingInteger?_eq_some_iff,
    eq_comm (b := n)]

def diagnosticAt (start : StartTag) (place : Option Int × Option Int) (p : Problem) : Diagnostic :=
  ⟨p.message, some start.name, place.1, place.2⟩

/-- The place of a tag in the markup. -/
def markupPlace (start : StartTag) : Option Int × Option Int :=
  (start.line, start.column)

def coordinateProblems (which : Coordinate) : Option (List Char) → List Problem
  | none => [.coordinateMissing which]
  | some piece =>
    if (integerAt? piece).isSome then []
    else [.coordinateNotNumber which (String.ofList piece)]

/-- What is wrong with the value of a position attribute: first with its line, then with its
column. -/
def positionProblems : Option String → List Problem
  | none => [.positionWithoutValue]
  | some value =>
    coordinateProblems .line (pieces ',' value.toList)[0]? ++
      coordinateProblems .column (pieces ',' value.toList)[1]?

/-- The line and the column that the value of a position attribute gives. -/
def positionIn : Option String → Option Int × Option Int
  | none => (none, none)
  | some value =>
    ((pieces ',' value.toList)[0]?.bind integerAt?, (pieces ',' value.toList)[1]?.bind integerAt?)

/-- The line and the column that a tag gives. -/
def positionOf (start : StartTag) : Option Int × Option Int :=
  match start.attributes.find? "pug-line" with
  | some value => positionIn value
  | none => (none, none)

/-- Where a problem with the type arguments of a tag is placed. -/
def genericsPlace (start : StartTag) : Option Int × Option Int :=
  if (positionOf start).1.isSome then positionOf start else markupPlace start

/-- A value in which there are no type arguments. -/
def LacksGenerics (raw : Option String) : Prop :=
  raw = none ∨ raw = some "" ∨ raw = some "type" ∨ raw = some ":"

instance (raw : Option String) : Decidable (LacksGenerics raw) :=
  inferInstanceAs (Decidable (_ ∨ _))

def positionDiagnostics (start : StartTag) : List Diagnostic :=
  match start.attributes.find? "pug-line" with
  | some value => (positionProblems value).map (diagnosticAt start (markupPlace start))
  | none => []

def genericsDiagnostics (start : StartTag) : List Diagnostic :=
  match start.attributes.find? "type" with
  | some raw =>
    if LacksGenerics raw then [diagnosticAt start (genericsPlace start) .genericsWithoutValue]
    else []
  | none => []

/-- What is recorded for a tag without what it holds. -/
def startDiagnostics (start : StartTag) : List Diagnostic :=
  positionDiagnostics start ++ genericsDiagnostics start

mutual

def elementDiagnostics : Element → List Diagnostic
  | .text _ => []
  | .tag start children => startDiagnostics start ++ contentDiagnostics children

def contentDiagnostics : List Element → List Diagnostic
  | [] => []
  | e :: es => elementDiagnostics e ++ contentDiagnostics es

end

/-- What is recorded for an element at the root. A text is shown from its first character that is not
blank. -/
def rootDiagnostics : Element → List Diagnostic
  | .text data =>
    if data.toList.all isBlank then []
    else
      [⟨(Problem.strayText (String.ofList ((trim data.toList).take strayLimit))).message,
        none, none, none⟩]
  | .tag start children => elementDiagnostics (.tag start children)

open Traced (gives_pure gives_lift gives_emit gives_bind)

section Positions

variable {start : StartTag} {ds : List Diagnostic}

theorem gives_report {α : Type} {tag : String} {line column : Option Int} {p : Problem} {a b : α}
    (h : (report tag line column p >>= fun _ => Pure.pure a).Gives b ds) :
    b = a ∧ ds = [⟨p.message, some tag, line, column⟩] := by
  obtain ⟨_, ds₁, ds₂, hreport, hb, rfl⟩ := gives_bind.1 h
  obtain ⟨rfl, rfl⟩ := gives_pure.1 hb
  rw [gives_emit.1 hreport]
  exact ⟨rfl, rfl⟩

theorem readNumeral_eq_ok {digits : List Char} {n : Nat} (h : readNumeral digits = .ok n) :
    n = ofDigitValues 10 (digits.filterMap digitValue?) := by
  unfold readNumeral at h
  split at h
  · cases h
    rfl
  · cases h

theorem gives_readCoordinate {which : Coordinate} {piece? : Option (List Char)} {n : Option Int}
    (h : (readCoordinate start which piece?).Gives n ds) :
    n = piece?.bind integerAt? ∧
      ds = (coordinateProblems which piece?).map (diagnosticAt start (markupPlace start)) := by
  cases piece? with
  | none => exact gives_report h
  | some piece =>
    rw [readCoordinate] at h
    cases hread : leadingInteger? piece with
    | none =>
      rw [hread] at h
      have hnone : integerAt? piece = none := by simp [integerAt?, hread]
      simp only [Option.bind_some, coordinateProblems, hnone]
      exact gives_report h
    | some r =>
      rw [hread] at h
      have hsome : integerAt? piece = some (signedValue r.1 r.2) := by simp [integerAt?, hread]
      obtain ⟨m, ds₁, ds₂, hlift, hn, rfl⟩ := gives_bind.1 h
      obtain ⟨hm, rfl⟩ := gives_lift.1 hlift
      obtain ⟨rfl, rfl⟩ := gives_pure.1 hn
      simp only [Option.bind_some, coordinateProblems, hsome]
      exact ⟨by rw [readNumeral_eq_ok hm]; rfl, rfl⟩

theorem gives_readPosition {value? : Option String} {position : Option Int × Option Int}
    (h : (readPosition start value?).Gives position ds) :
    position = positionIn value? ∧
      ds = (positionProblems value?).map (diagnosticAt start (markupPlace start)) := by
  cases value? with
  | none => exact gives_report h
  | some value =>
    obtain ⟨line, ds₁, _, hline, hrest, rfl⟩ := gives_bind.1 h
    obtain ⟨column, ds₂, _, hcolumn, hposition, rfl⟩ := gives_bind.1 hrest
    obtain ⟨rfl, rfl⟩ := gives_pure.1 hposition
    obtain ⟨rfl, rfl⟩ := gives_readCoordinate hline
    obtain ⟨rfl, rfl⟩ := gives_readCoordinate hcolumn
    -- there is always a first piece
    have hfirst : (pieces ',' value.toList)[0]? = some ((pieces ',' value.toList).headD []) := by
      obtain ⟨p, ps, hps⟩ := List.exists_cons_of_ne_nil (pieces_ne_nil ',' value.toList)
      rw [hps]
      rfl
    rw [positionIn, positionProblems, hfirst, List.map_append, List.append_nil]
    exact ⟨rfl, rfl⟩

theorem gives_readPlace {position : Option Int × Option Int}
    (h : (readPlace start).Gives position ds) :
    position = positionOf start ∧ ds = positionDiagnostics start := by
  have hname : positionAttribute = "pug-line" := rfl
  unfold readPlace at h
  rw [hname] at h
  unfold positionOf positionDiagnostics
  cases hfind : start.attributes.find? "pug-line" with
  | none =>
    rw [hfind] at h
    exact gives_pure.1 h
  | some value =>
    rw [hfind] at h
    exact gives_readPosition h

end Positions

theorem expressionValue?_eq_some {value rest : String} (h : expressionValue? value = some rest) :
    value.toList = ':' :: rest.toList := by
  unfold expressionValue? at h
  split at h
  · rename_i chars hchars
    cases h
    rw [hchars, String.toList_ofList]
  · cases h

theorem lacksGenerics_iff {raw : Option String} :
    LacksGenerics raw ↔ genericsValue raw = none ∨ genericsValue raw = some "" := by
  have hname : genericsAttribute = "type" := rfl
  unfold LacksGenerics genericsValue
  rw [hname]
  cases raw with
  | none => simp
  | some value =>
    by_cases htype : value = "type"
    · simp [htype]
    · rw [if_neg (by simpa using htype), Option.bind_some]
      cases hvalue : expressionValue? value with
      | none =>
        have hcolon : value ≠ ":" := by
          rintro rfl
          cases hvalue
        simp [htype, hcolon]
      | some rest =>
        have hchars := expressionValue?_eq_some hvalue
        have hempty : value ≠ "" := by
          rintro rfl
          cases hchars
        -- the colon is all there is if nothing follows it
        have hcolon : value = ":" ↔ rest = "" := by
          rw [← String.toList_inj, ← String.toList_inj, hchars]
          exact List.cons_inj_right ':'
        simp [htype, hempty, hcolon]

theorem gives_readGenerics {start : StartTag} {position : Option Int × Option Int}
    {raw : Option String} {names : Option (List String)} {ds : List Diagnostic}
    (h : (readGenerics start position (genericsValue raw)).Gives names ds) :
    ds = if LacksGenerics raw then
      [diagnosticAt start (if position.1.isSome then position else markupPlace start)
        .genericsWithoutValue] else [] := by
  have hmissing : (readGenerics.missing start position).Gives names ds →
      ds = [diagnosticAt start (if position.1.isSome then position else markupPlace start)
        .genericsWithoutValue] :=
    fun h => (gives_report h).2
  simp only [lacksGenerics_iff]
  cases hvalue : genericsValue raw with
  | none =>
    rw [hvalue] at h
    rw [if_pos (Or.inl rfl)]
    exact hmissing h
  | some value =>
    rw [hvalue, readGenerics] at h
    by_cases hempty : value = ""
    · subst hempty
      rw [if_pos (Or.inr rfl)]
      exact hmissing h
    · rw [if_neg (by simpa using hempty)] at h
      rw [if_neg (by simpa using hempty)]
      exact (gives_pure.1 h).2

/-- In a list in which a key occurs at most once, what belongs to it is found by looking it up. -/
theorem flatMap_key {β : Type} {entries : List (String × Option String)}
    (hnodup : (entries.map (·.1)).Nodup) (key : String) (g : Option String → List β) :
    (entries.flatMap fun e => if e.1 = key then g e.2 else []) =
      ((entries.find? (·.1 == key)).map (·.2)).elim [] g := by
  induction entries with
  | nil => rfl
  | cons e entries ih =>
    rw [List.map_cons, List.nodup_cons] at hnodup
    rw [List.flatMap_cons, ih hnodup.2, List.find?_cons]
    by_cases hkey : e.1 = key
    · have hnone : entries.find? (·.1 == key) = none := by
        rw [List.find?_eq_none]
        intro e' he' heq
        exact hnodup.1 (List.mem_map.2 ⟨e', he', (eq_of_beq heq).trans hkey.symm⟩)
      simp [hkey, hnone]
    · have hbeq : (e.1 == key) = false := beq_eq_false_iff_ne.2 hkey
      rw [if_neg hkey, List.nil_append, hbeq]

theorem gives_readAttribute {start : StartTag} {entry : String × Option String} {part : Part}
    {ds : List Diagnostic} (h : (readAttribute start (positionOf start) entry).Gives part ds) :
    ds = if entry.1 = "type" then
      (if LacksGenerics entry.2 then
        [diagnosticAt start (genericsPlace start) .genericsWithoutValue] else [])
      else [] := by
  by_cases hgenerics : entry.1 = "type"
  · obtain ⟨names, -, hnames⟩ := gives_readAttribute_generics hgenerics h
    rw [if_pos hgenerics]
    exact gives_readGenerics hnames
  · rw [if_neg hgenerics]
    by_cases hposition : entry.1 = positionAttribute
    · exact (gives_readAttribute_position hposition h).2
    · obtain ⟨p, -, -, hds⟩ :=
        gives_readAttribute_param (by simp [isParameter, hposition, genericsAttribute, hgenerics]) h
      exact hds

theorem diagnostics_classify {start : StartTag} {said : Classified} {ds : List Diagnostic}
    (h : (classify start).Gives said ds) : ds = startDiagnostics start := by
  obtain ⟨ds₁, ds₂, parts, hplace, hparts, -, -, rfl⟩ := gives_classify h
  obtain ⟨hposition, rfl⟩ := gives_readPlace hplace
  rw [hposition] at hparts
  have hgenerics := Traced.diagnostics_of_gives_each hparts fun e _ part ds he =>
    gives_readAttribute he
  rw [hgenerics, flatMap_key start.attributes.nodup "type" fun raw =>
    if LacksGenerics raw then [diagnosticAt start (genericsPlace start) .genericsWithoutValue]
    else []]
  unfold startDiagnostics genericsDiagnostics
  congr 1
  rw [Attributes.find?]
  cases (start.attributes.entries.find? (·.1 == "type")).map (·.2) with
  | none => rfl
  | some raw => rfl

section Documents

variable {o : Options} {ds : List Diagnostic}

theorem diagnostics_compileTag {start : StartTag} {children : List Element} {w : Widget}
    (h : (compileTag o start children).Gives w ds)
    (hcontent : ∀ ws ds, (contentWidgets o children).Gives ws ds →
      ds = contentDiagnostics children) :
    ds = elementDiagnostics (.tag start children) := by
  obtain ⟨said, ws, ds₁, ds₂, hsaid, hws, rfl, -⟩ := gives_tagWidget h
  rw [elementDiagnostics, diagnostics_classify hsaid, hcontent ws ds₂ hws]

mutual

theorem diagnostics_widgetsOf (o : Options) : ∀ (e : Element) (ws : List Widget)
    (ds : List Diagnostic), (widgetsOf o e).Gives ws ds → ds = elementDiagnostics e
  | .text data, ws, ds, h => by
    rw [elementDiagnostics]
    exact (gives_widgetsOf_text h).2
  | .tag start children, ws, ds, h => by
    obtain ⟨w, -, hw⟩ := gives_widgetsOf_tag h
    exact diagnostics_compileTag hw (diagnostics_contentWidgets o children)

theorem diagnostics_contentWidgets (o : Options) : ∀ (es : List Element) (ws : List Widget)
    (ds : List Diagnostic), (contentWidgets o es).Gives ws ds → ds = contentDiagnostics es
  | [], ws, ds, h => by
    rw [contentDiagnostics]
    exact (gives_contentWidgets_nil h).2
  | e :: es, ws, ds, h => by
    obtain ⟨us, vs, ds₁, ds₂, hus, hvs, -, rfl⟩ := gives_contentWidgets_cons h
    rw [contentDiagnostics, diagnostics_widgetsOf o e us ds₁ hus,
      diagnostics_contentWidgets o es vs ds₂ hvs]

end

theorem diagnostics_rootWidgets {e : Element} {ws : List Widget}
    (h : (rootWidgets o e).Gives ws ds) : ds = rootDiagnostics e := by
  cases e with
  | text data =>
    rw [(gives_rootWidgets_text h).2, rootDiagnostics]
    simp only [trim_eq_nil_iff, List.all_eq_true]
  | tag start children =>
    obtain ⟨w, -, hw⟩ := gives_rootWidgets_tag h
    exact diagnostics_compileTag hw (diagnostics_contentWidgets o children)

end Documents

/-- Names that occur once are found wherever they stand. -/
theorem find?_eq_of_perm {a b : Attributes} (h : a.entries.Perm b.entries) (name : String) :
    a.find? name = b.find? name := by
  have hmem : ∀ (a : Attributes) (e : String × Option String),
      a.entries.find? (·.1 == name) = some e ↔ e ∈ a.entries ∧ e.1 = name := by
    intro a e
    constructor
    · intro he
      exact ⟨List.mem_of_find?_eq_some he, by simpa using List.find?_some he⟩
    · rintro ⟨he, hname⟩
      cases hfind : a.entries.find? (·.1 == name) with
      | none =>
        have hno := List.find?_eq_none.1 hfind e he
        simp [hname] at hno
      | some e' =>
        have he' := List.mem_of_find?_eq_some hfind
        have hname' : e'.1 = name := by simpa using List.find?_some hfind
        rw [List.inj_on_of_nodup_map a.nodup he' he (hname'.trans hname.symm)]
  have hfind : a.entries.find? (·.1 == name) = b.entries.find? (·.1 == name) := by
    apply Option.ext
    intro e
    rw [hmem a e, hmem b e, h.mem_iff]
  rw [Attributes.find?, Attributes.find?, hfind]

theorem startDiagnostics_eq_of_perm {start : StartTag} {a : Attributes}
    (h : a.entries.Perm start.attributes.entries) :
    startDiagnostics { start with attributes := a } = startDiagnostics start := by
  have hfind := find?_eq_of_perm h
  unfold startDiagnostics positionDiagnostics genericsDiagnostics genericsPlace positionOf
  simp only [hfind]
  rfl

/-- When a document is compiled, the diagnostics are those of its roots, one after the other, and
the order in which the attributes of a tag are written makes no difference to them. -/
theorem diagnostics_compile {o : Options} {document : List Element} {ws : List Widget}
    (h : (compile o document).result = .ok ws) :
    (compile o document).diagnostics = document.flatMap rootDiagnostics ∧
      ∀ (start : StartTag) (a : Attributes), a.entries.Perm start.attributes.entries →
        startDiagnostics { start with attributes := a } = startDiagnostics start := by
  obtain ⟨groups, hgroups, -⟩ := gives_compile (Traced.gives_diagnostics h)
  have hdiagnostics := Traced.diagnostics_of_gives_each hgroups fun e _ ws ds he =>
    diagnostics_rootWidgets he
  exact ⟨hdiagnostics, fun start a hperm => startDiagnostics_eq_of_perm hperm⟩

/-- A text outside of tags, a tag whose position has a line but no column, and in it one whose
reserved attributes have no values. -/
def faultyDocument : List Element :=
  [.text " x ",
    .tag
      { name := "a"
        attributes := { entries := [("type", some ":"), ("pug-line", some "7px,z")]
                        nodup := by decide }
        line := some 1
        column := some 5 }
      [.tag
        { name := "b"
          attributes := { entries := [("type", none), ("pug-line", none)]
                          nodup := by decide }
          line := some 2
          column := some 1 } []]]

theorem diagnostics_faultyDocument :
    (∃ ws, (compile {} faultyDocument).result = .ok ws) ∧
      (compile {} faultyDocument).diagnostics =
        [⟨"Text outside of a tag ignored: 'x'", none, none, none⟩,
          ⟨"pug-line column 'z' is not a number", some "a", some 1, some 5⟩,
          ⟨"type has no value, no generics set", some "a", some 7, none⟩,
          ⟨"pug-line has no value", some "b", some 2, some 1⟩,
          ⟨"type has no value, no generics set", some "b", some 2, some 1⟩] := by
  have hreturns : ∃ ws, (compile {} faultyDocument).result = .ok ws :=
    ⟨_, by with_unfolding_all rfl⟩
  obtain ⟨ws, hws⟩ := hreturns
  refine ⟨⟨ws, hws⟩, (diagnostics_compile hws).1.trans ?_⟩
  decide +kernel

end WidgetMarkup.Compile
