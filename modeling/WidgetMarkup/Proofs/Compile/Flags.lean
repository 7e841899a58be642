import WidgetMarkup.Proofs.Compile.Returning
import WidgetMarkup.Proofs.Compile.Traversal

/-!
# Attributes that are flags

An attribute without a value, or with its own name as value, stands for a flag. A colon at the start
of the value marks an expression, and it is taken off before the value is compared with the name,
while the name is compared as it is written. So there are two cases in which the comparison is not
that of what is written: a value that is the name after a colon counts as a flag, and a name that
starts with a colon does not count as its own value.
-/
namespace WidgetMarkup.Compile

open Markup (StartTag)
open Text

theorem shownValue_colon {value : String} {rest : List Char} (h : value.toList = ':' :: rest) :
    shownValue value = String.ofList rest := by
  simp only [shownValue, expressionValue?, h, Option.getD_some]

theorem shownValue_of_ne_colon {value : String} (h : ∀ rest, value.toList ≠ ':' :: rest) :
    shownValue value = value := by
  unfold shownValue expressionValue?
  split
  · rename_i rest heq
    exact absurd heq (h rest)
  · rfl

/-- A value is longer than what follows its colon. -/
theorem shownValue_ne_self {value : String} {rest : List Char} (h : value.toList = ':' :: rest) :
    shownValue value ≠ value := by
  intro heq
  have hlist : rest = ':' :: rest := by
    rw [← h, ← heq, shownValue_colon h, String.toList_ofList]
  have hlength := congrArg List.length hlist
  rw [List.length_cons] at hlength
  omega

theorem eq_colon_append_iff {value : String} {rest : List Char} (h : value.toList = ':' :: rest)
    (name : String) : value = ":" ++ name ↔ shownValue value = name := by
  rw [shownValue_colon h, ← String.toList_inj, ← String.toList_inj, String.toList_append,
    String.toList_ofList, h]
  simp

theorem paramValue_of_attributeParam {entry : String × Option String} {p : Param}
    (h : attributeParam entry = .ok p) :
    paramValue entry.1 (entry.2.map shownValue) = .ok p.value := by
  obtain ⟨name, raw⟩ := entry
  unfold attributeParam at h
  cases raw with
  | none => exact (makeParam_eq_ok h).2
  | some value =>
    rw [Option.map_some, shownValue]
    rw [Option.bind_some] at h
    cases hvalue : expressionValue? value with
    | none =>
      rw [hvalue] at h
      exact (makeParam_eq_ok h).2
    | some rest =>
      rw [hvalue] at h
      exact (makeParam_eq_ok h).2

/-- A value that is a flag under some condition, and otherwise the text of the attribute, without a
colon at its start and decoded. -/
def FlagWhen (condition : Prop) (raw : Option String) (v : Value) : Prop :=
  (v = .flag true ↔ condition) ∧
    (¬condition → ∃ value decoded, raw = some value ∧
      decodeReferences (shownValue value).toList = .ok decoded ∧ v = .text (String.ofList decoded))

/-- An attribute without a value, or with its own name as value. -/
def WrittenBare (entry : String × Option String) : Prop :=
  entry.2 = none ∨ entry.2 = some entry.1

/-- The same once a colon at the start of the value is taken off. -/
def ShownBare (entry : String × Option String) : Prop :=
  WrittenBare (entry.1, entry.2.map shownValue)

/-- The value is the name after a colon, or it is the name and this starts with a colon. -/
def ColonMisleads (entry : String × Option String) : Prop :=
  entry.2 = some (":" ++ entry.1) ∨
    (entry.2 = some entry.1 ∧ entry.1.toList.head? = some ':')

theorem FlagWhen.iff_congr {P Q : Prop} {raw : Option String} {v : Value} (h : FlagWhen P raw v) :
    FlagWhen Q raw v ↔ (P ↔ Q) := by
  constructor
  · intro h'
    exact h.1.symm.trans h'.1
  · intro hPQ
    rwa [propext hPQ] at h

theorem flagWhen_of_attributeParam {entry : String × Option String} {p : Param}
    (h : attributeParam entry = .ok p) : FlagWhen (ShownBare entry) entry.2 p.value := by
  have hvalue := paramValue_of_attributeParam h
  obtain ⟨name, raw⟩ := entry
  cases raw with
  | none =>
    have hflag : Value.flag true = p.value := Except.ok.inj hvalue
    have hbare : ShownBare (name, none) := Or.inl rfl
    exact ⟨iff_of_true hflag.symm hbare, fun hnot => absurd hbare hnot⟩
  | some value =>
    have hbare : ShownBare (name, some value) ↔ shownValue value = name := by
      simp [ShownBare, WrittenBare]
    simp only [Option.map_some, paramValue] at hvalue
    by_cases hname : shownValue value = name
    · rw [if_pos hname] at hvalue
      have hflag : Value.flag true = p.value := Except.ok.inj hvalue
      exact ⟨iff_of_true hflag.symm (hbare.2 hname), fun hnot => absurd (hbare.2 hname) hnot⟩
    · rw [if_neg hname] at hvalue
      cases hdecoded : decodeReferences (shownValue value).toList with
      | error e =>
        rw [hdecoded] at hvalue
        cases hvalue
      | ok decoded =>
        rw [hdecoded] at hvalue
        have htext : Value.text (String.ofList decoded) = p.value := Except.ok.inj hvalue
        have hnotBare : ¬ShownBare (name, some value) := fun hb => hname (hbare.1 hb)
        refine ⟨iff_of_false ?_ hnotBare, fun _ => ⟨value, decoded, rfl, hdecoded, htext.symm⟩⟩
        rw [← htext]
        simp

/-- Where a colon does not mislead, an attribute is bare as written and as shown. -/
theorem shownBare_iff_writtenBare {entry : String × Option String} :
    (ShownBare entry ↔ WrittenBare entry) ↔ ¬ColonMisleads entry := by
  obtain ⟨name, raw⟩ := entry
  cases raw with
  | none => simp [ShownBare, WrittenBare, ColonMisleads]
  | some value =>
    have hshown : ShownBare (name, some value) ↔ shownValue value = name := by
      simp [ShownBare, WrittenBare]
    have hwritten : WrittenBare (name, some value) ↔ value = name := by
      simp [WrittenBare]
    have hmisleads : ColonMisleads (name, some value) ↔
        value = ":" ++ name ∨ (value = name ∧ name.toList.head? = some ':') := by
      simp [ColonMisleads]
    rw [hshown, hwritten, hmisleads]
    by_cases hcolon : ∃ rest, value.toList = ':' :: rest
    · obtain ⟨rest, hrest⟩ := hcolon
      have hown : (value = name ∧ name.toList.head? = some ':') ↔ value = name :=
        and_iff_left_of_imp fun heq => by rw [← heq, hrest, List.head?_cons]
      rw [eq_colon_append_iff hrest, hown]
      -- the name cannot be the value with and without its colon
      have hnotBoth : shownValue value = name → value ≠ name := by
        intro hlater heq
        exact shownValue_ne_self hrest (hlater.trans heq.symm)
      constructor
      · rintro hiff (hlater | heq)
        · exact hnotBoth hlater (hiff.1 hlater)
        · exact hnotBoth (hiff.2 heq) heq
      · intro hneither
        exact iff_of_false (fun hlater => hneither (Or.inl hlater))
          fun heq => hneither (Or.inr heq)
    · have hne : ∀ rest, value.toList ≠ ':' :: rest := fun rest heq => hcolon ⟨rest, heq⟩
      rw [shownValue_of_ne_colon hne]
      refine iff_of_true Iff.rfl ?_
      rintro (rfl | ⟨rfl, hrest⟩)
      · exact hcolon ⟨name.toList, by rw [String.toList_append]; rfl⟩
      · exact hcolon (List.head?_eq_some_iff.1 hrest)

/-- Every attribute that becomes a parameter is a flag exactly if it has no value or a value that is
its name once a colon is taken off; any other one is given as text, without that colon and decoded.
This is the same as being bare as written exactly where a colon does not mislead. -/
theorem classify_flags {start : StartTag} {said : Classified}
    (h : (classify start).result = .ok said) :
    List.Forall₂ (fun entry p => FlagWhen (ShownBare entry) entry.2 p.value ∧
        (FlagWhen (WrittenBare entry) entry.2 p.value ↔ ¬ColonMisleads entry))
      (start.attributes.entries.filter isParameter) said.params := by
  have hparams := params_of_gives_classify (Traced.gives_diagnostics h)
  apply hparams.imp
  intro entry p hp
  have hflag := flagWhen_of_attributeParam hp
  exact ⟨hflag, hflag.iff_congr.trans shownBare_iff_writtenBare⟩

/-- A flag, and an expression with another name as value. -/
def plainFlagTag : StartTag :=
  ⟨"B", .ofWritten [("a", "a"), ("b", ":a")], none, none⟩

theorem classify_plainFlagTag :
    ∃ p q, (classify plainFlagTag).result = .ok ⟨(none, none), none, [p, q]⟩ ∧
      FlagWhen (WrittenBare ("a", some "a")) (some "a") p.value ∧
      FlagWhen (WrittenBare ("b", some ":a")) (some ":a") q.value := by
  obtain ⟨p, q, hresult⟩ :
      ∃ p q, (classify plainFlagTag).result = .ok ⟨(none, none), none, [p, q]⟩ :=
    ⟨_, _, by with_unfolding_all rfl⟩
  have hflags := classify_flags hresult
  have hentries : plainFlagTag.attributes.entries.filter isParameter =
      [("a", some "a"), ("b", some ":a")] := by
    decide +kernel
  rw [hentries] at hflags
  cases hflags with
  | cons hp hrest =>
    cases hrest with
    | cons hq _ =>
      refine ⟨p, q, hresult, hp.2.2 ?_, hq.2.2 ?_⟩
      · simp [ColonMisleads]
      · simp [ColonMisleads]

/-- An expression that has the name of its attribute, and a bare attribute that is an expression. -/
def misleadingTag : StartTag :=
  ⟨"B", .ofWritten [("a", ":a"), (":b", ":b")], none, none⟩

/-- The first one is taken for a flag, and the second one is not. -/
theorem classify_misleadingTag :
    ∃ p q, (classify misleadingTag).result = .ok ⟨(none, none), none, [p, q]⟩ ∧
      p.value = .flag true ∧ ¬FlagWhen (WrittenBare ("a", some ":a")) (some ":a") p.value ∧
      q.value = .text "b" ∧ ¬FlagWhen (WrittenBare (":b", some ":b")) (some ":b") q.value := by
  refine ⟨_, _, by with_unfolding_all rfl, rfl, ?_, rfl, ?_⟩
  · rintro ⟨hflag, -⟩
    have hbare := hflag.1 rfl
    simp [WrittenBare] at hbare
  · rintro ⟨hflag, -⟩
    have htext := hflag.2 (Or.inr rfl)
    cases htext

end WidgetMarkup.Compile
