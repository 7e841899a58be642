import WidgetMarkup.Compile.Basic
import WidgetMarkup.Proofs.Markup.TagReading
import WidgetMarkup.Proofs.Text.Lines
import WidgetMarkup.Proofs.Text.LongReference

/-!
# When compiling returns

Compiling a document gives its widgets unless a number in it is too long to be read. There are two
kinds of such numbers: a line or a column in the position attribute of a tag, and a decimal
reference in a value or a line of text that is decoded. Anything else that is wrong with a document
is reported and compiled past.
-/
namespace WidgetMarkup.Compile

open Markup (Element StartTag AllBlank Stops)
open Text

namespace Traced

variable {α β : Type}

def Returns (x : Traced α) : Prop :=
  ∃ a, x.result = .ok a

@[simp]
theorem returns_pure (a : α) : (Pure.pure a : Traced α).Returns :=
  ⟨a, rfl⟩

@[simp]
theorem returns_emit (e : Event) : (emit e).Returns :=
  ⟨(), rfl⟩

theorem returns_lift {r : Except NumeralTooLong α} : (lift r).Returns ↔ ∃ a, r = .ok a :=
  Iff.rfl

theorem result_bind (x : Traced α) (f : α → Traced β) :
    (x >>= f).result = x.result.bind fun a => (f a).result := by
  simp only [Bind.bind, bind]
  cases x.result with
  | error e => rfl
  | ok a => rfl

/-- A computation that goes on returns if both parts do, where the second one does or does not
whatever it is given. -/
theorem returns_bind {x : Traced α} {f : α → Traced β} {P : Prop}
    (h : ∀ a, (f a).Returns ↔ P) : (x >>= f).Returns ↔ x.Returns ∧ P := by
  simp only [Returns, result_bind] at h ⊢
  cases x.result with
  | error e => simp [Except.bind]
  | ok a => simpa [Except.bind] using h a

theorem returns_each {f : α → Traced β} {l : List α} :
    (each f l).Returns ↔ ∀ a ∈ l, (f a).Returns := by
  induction l with
  | nil => exact ⟨fun _ a ha => absurd ha List.not_mem_nil, fun _ => returns_pure []⟩
  | cons a l ih =>
    have hrest : ∀ b, (each f l >>= fun bs => (Pure.pure (b :: bs) : Traced (List β))).Returns ↔
        ∀ a ∈ l, (f a).Returns := by
      intro b
      rw [returns_bind fun _ => iff_true_intro (returns_pure _), ih, and_true]
    rw [each, returns_bind hrest, List.forall_mem_cons]

end Traced

open Traced (returns_pure returns_emit returns_lift returns_bind returns_each)

/-- A text starts with an integer of too many digits, after blanks and a sign. -/
def LongInteger (s : List Char) : Prop :=
  ∃ blanks sign digits rest, s = blanks ++ (sign ++ (digits ++ rest)) ∧
    (∀ c ∈ blanks, isBlank c = true) ∧ (sign = [] ∨ sign = ['-'] ∨ sign = ['+']) ∧
    (∀ c ∈ digits, isDecimalDigit c = true) ∧ digitLimit < digits.length

theorem not_blank_or_sign_of_digit {c : Char} (h : isDecimalDigit c = true) :
    isBlank c = false ∧ c ≠ '-' ∧ c ≠ '+' := by
  have htable : ∀ first ∈ zeroDigits, ∀ k < 10, isBlank (Char.ofNat (first + k)) = false ∧
      Char.ofNat (first + k) ≠ '-' ∧ Char.ofNat (first + k) ≠ '+' := by
    decide +kernel
  obtain ⟨value, hvalue⟩ := Option.isSome_iff_exists.1 h
  obtain ⟨first, hfirst, hrange⟩ := List.exists_of_findSome?_eq_some hvalue
  split at hrange
  · rename_i hbounds
    simp only [Bool.and_eq_true, decide_eq_true_eq] at hbounds
    have hc := htable first hfirst (c.toNat - first) (by omega)
    rwa [Nat.add_sub_cancel' hbounds.1, Char.ofNat_toNat] at hc
  · cases hrange

theorem leadingInteger?_sign {s digits : List Char} {sign : Char} (hsign : sign = '-' ∨ sign = '+')
    (hs : s.dropWhile isBlank = sign :: digits) :
    leadingInteger? s = if (digits.takeWhile isDecimalDigit).isEmpty then none
      else some (sign == '-', digits.takeWhile isDecimalDigit) := by
  rw [leadingInteger?, hs]
  rcases hsign with rfl | rfl
  · rfl
  · rfl

theorem leadingInteger?_bare {s t : List Char} (hs : s.dropWhile isBlank = t)
    (hminus : t.head? ≠ some '-') (hplus : t.head? ≠ some '+') :
    leadingInteger? s = if (t.takeWhile isDecimalDigit).isEmpty then none
      else some (false, t.takeWhile isDecimalDigit) := by
  rw [leadingInteger?, hs]
  simp only [beq_eq_false_iff_ne.2 hminus, beq_eq_false_iff_ne.2 hplus, Bool.or_self,
    Bool.false_eq_true, if_false]

/-- A text starts with blanks, a sign and digits, and there are no further digits. -/
def LeadsWith (s : List Char) (negative : Bool) (digits : List Char) : Prop :=
  ∃ blanks sign rest, s = blanks ++ (sign ++ (digits ++ rest)) ∧
    AllBlank blanks ∧
    (sign = ['-'] ∧ negative = true ∨ (sign = ['+'] ∨ sign = []) ∧ negative = false) ∧
    digits ≠ [] ∧ (∀ c ∈ digits, isDecimalDigit c = true) ∧ Stops isDecimalDigit rest

theorem leadingInteger?_eq_some_iff {s digits : List Char} {negative : Bool} :
    leadingInteger? s = some (negative, digits) ↔ LeadsWith s negative digits := by
  constructor
  · intro h
    have hsplit := List.takeWhile_append_dropWhile (p := isBlank) (l := s)
    have hblanks : AllBlank (s.takeWhile isBlank) := List.all_eq_true.1 List.all_takeWhile
    -- what is found after a sign is all digits that stand there
    have hfound : ∀ sign t, s.dropWhile isBlank = sign ++ t →
        (sign = ['-'] ∧ negative = true ∨ (sign = ['+'] ∨ sign = []) ∧ negative = false) →
        digits = t.takeWhile isDecimalDigit → digits ≠ [] → LeadsWith s negative digits := by
      intro sign t ht hsign hdigits hne
      refine ⟨_, sign, t.dropWhile isDecimalDigit, ?_, hblanks, hsign, hne, ?_,
        Markup.stops_dropWhile isDecimalDigit t⟩
      · rw [hdigits, List.takeWhile_append_dropWhile, ← ht, hsplit]
      · rw [hdigits]
        exact List.all_eq_true.1 List.all_takeWhile
    by_cases hminus : (s.dropWhile isBlank).head? = some '-'
    · obtain ⟨t, ht⟩ := List.head?_eq_some_iff.1 hminus
      rw [leadingInteger?_sign (Or.inl rfl) ht] at h
      split at h
      · cases h
      · rename_i hne
        cases h
        exact hfound ['-'] t ht (Or.inl ⟨rfl, rfl⟩) rfl (by simpa using hne)
    · by_cases hplus : (s.dropWhile isBlank).head? = some '+'
      · obtain ⟨t, ht⟩ := List.head?_eq_some_iff.1 hplus
        rw [leadingInteger?_sign (Or.inr rfl) ht] at h
        split at h
        · cases h
        · rename_i hne
          cases h
          exact hfound ['+'] t ht (Or.inr ⟨Or.inl rfl, rfl⟩) rfl (by simpa using hne)
      · rw [leadingInteger?_bare rfl hminus hplus] at h
        split at h
        · cases h
        · rename_i hne
          cases h
          exact hfound [] _ rfl (Or.inr ⟨Or.inr rfl, rfl⟩) rfl (by simpa using hne)
  · rintro ⟨blanks, sign, rest, rfl, hblanks, hsign, hne, hdigits, hrest⟩
    have hrun := Markup.takeWhile_run hdigits hrest
    obtain ⟨d, ds, rfl⟩ := List.exists_cons_of_ne_nil hne
    obtain ⟨hblank, hminus, hplus⟩ := not_blank_or_sign_of_digit (hdigits d List.mem_cons_self)
    have hskip : (blanks ++ (sign ++ (d :: ds ++ rest))).dropWhile isBlank =
        sign ++ (d :: ds ++ rest) := by
      rw [List.dropWhile_append_of_pos hblanks]
      rcases hsign with ⟨rfl, -⟩ | ⟨rfl | rfl, -⟩
      · rfl
      · rfl
      · exact List.dropWhile_cons_of_neg (by simp [hblank])
    rcases hsign with ⟨rfl, rfl⟩ | ⟨rfl | rfl, rfl⟩
    · rw [List.singleton_append] at hskip ⊢
      rw [leadingInteger?_sign (Or.inl rfl) hskip, hrun]
      rfl
    · rw [List.singleton_append] at hskip ⊢
      rw [leadingInteger?_sign (Or.inr rfl) hskip, hrun]
      rfl
    · rw [leadingInteger?_bare hskip (by simpa using hminus) (by simpa using hplus),
        List.nil_append, hrun]
      rfl

theorem longInteger_iff {s : List Char} :
    LongInteger s ↔ ∃ negative digits, leadingInteger? s = some (negative, digits) ∧
      digitLimit < digits.length := by
  simp only [leadingInteger?_eq_some_iff]
  constructor
  · rintro ⟨blanks, sign, digits, rest, rfl, hblanks, hsign, hdigits, hlong⟩
    -- digits that follow belong to the integer too
    have hrun : ∀ c ∈ digits ++ rest.takeWhile isDecimalDigit, isDecimalDigit c = true := by
      rw [List.forall_mem_append]
      exact ⟨hdigits, List.all_eq_true.1 List.all_takeWhile⟩
    have hmore : digitLimit < (digits ++ rest.takeWhile isDecimalDigit).length := by
      rw [List.length_append]
      omega
    have hne : digits ++ rest.takeWhile isDecimalDigit ≠ [] :=
      List.ne_nil_of_length_pos (Nat.lt_of_le_of_lt (Nat.zero_le _) hmore)
    refine ⟨sign == ['-'], _, ⟨blanks, sign, rest.dropWhile isDecimalDigit, ?_, hblanks, ?_, hne,
      hrun, Markup.stops_dropWhile isDecimalDigit rest⟩, hmore⟩
    · rw [List.append_assoc, List.takeWhile_append_dropWhile]
    · rcases hsign with rfl | rfl | rfl
      · exact Or.inr ⟨Or.inr rfl, rfl⟩
      · exact Or.inl ⟨rfl, rfl⟩
      · exact Or.inr ⟨Or.inl rfl, rfl⟩
  · rintro ⟨negative, digits, ⟨blanks, sign, rest, hs, hblanks, hsign, -, hdigits, -⟩, hlong⟩
    refine ⟨blanks, sign, digits, rest, hs, hblanks, ?_, hdigits, hlong⟩
    rcases hsign with ⟨rfl, -⟩ | ⟨rfl | rfl, -⟩
    · exact Or.inr (Or.inl rfl)
    · exact Or.inr (Or.inr rfl)
    · exact Or.inl rfl

theorem returns_report (tag : String) (line column : Option Int) (p : Problem) :
    (report tag line column p).Returns :=
  returns_emit _

theorem returns_report_bind {α : Type} {tag : String} {line column : Option Int} {p : Problem}
    {f : Unit → Traced α} (h : (f ()).Returns) : (report tag line column p >>= f).Returns := by
  rw [returns_bind fun _ => iff_true_intro h]
  exact ⟨returns_report tag line column p, trivial⟩

theorem returns_readCoordinate {tag : StartTag} {which : Coordinate} {piece? : Option (List Char)} :
    (readCoordinate tag which piece?).Returns ↔ ∀ piece ∈ piece?, ¬LongInteger piece := by
  cases piece? with
  | none => simp [readCoordinate, returns_report_bind]
  | some piece =>
    have hmem : (∀ p ∈ some piece, ¬LongInteger p) ↔ ¬LongInteger piece := by simp
    rw [hmem, longInteger_iff, readCoordinate]
    cases hread : leadingInteger? piece with
    | none => simp [returns_report_bind]
    | some r =>
      obtain ⟨negative, digits⟩ := r
      dsimp only
      rw [returns_bind fun _ => iff_true_intro (returns_pure _), and_true, returns_lift,
        readNumeral_ok_iff]
      constructor
      · rintro hle ⟨_, _, heq, hlong⟩
        cases heq
        omega
      · intro h
        exact Nat.le_of_not_lt fun hlong => h ⟨_, _, rfl, hlong⟩

/-- The line or the column of a position is a number that is too long. -/
def LongPosition (value : String) : Prop :=
  ∃ piece ∈ (pieces ',' value.toList).take 2, LongInteger piece

theorem returns_readPosition {tag : StartTag} {value? : Option String} :
    (readPosition tag value?).Returns ↔ ∀ value ∈ value?, ¬LongPosition value := by
  cases value? with
  | none => simp [readPosition, returns_report_bind]
  | some value =>
    have hcolumn : ∀ (line : Option Int) (piece? : Option (List Char)),
        (readCoordinate tag .column piece? >>= fun column =>
          (Pure.pure (line, column) : Traced (Option Int × Option Int))).Returns ↔
        ∀ piece ∈ piece?, ¬LongInteger piece := by
      intro line piece?
      rw [returns_bind fun _ => iff_true_intro (returns_pure _), and_true, returns_readCoordinate]
    simp only [readPosition]
    rw [returns_bind fun line => hcolumn line _, returns_readCoordinate]
    simp only [LongPosition, Option.mem_some_iff, forall_eq']
    match pieces ',' value.toList, pieces_ne_nil ',' value.toList with
    | [p], _ => simp
    | p :: q :: ps, _ => simp

/-- The value of an attribute that becomes a parameter, without the mark of an expression. -/
def shownValue (value : String) : String :=
  (expressionValue? value).getD value

/-- An attribute that becomes a parameter, and no flag, has a value with a long reference. -/
def LongValue (entry : String × Option String) : Prop :=
  entry.1 ≠ positionAttribute ∧ entry.1 ≠ genericsAttribute ∧
    ∃ value ∈ entry.2, shownValue value ≠ entry.1 ∧ LongReference (shownValue value).toList

theorem except_bind_ok_iff {ε α β : Type} {x : Except ε α} {f : α → β} :
    (∃ b, (x >>= fun a => (pure (f a) : Except ε β)) = .ok b) ↔ ∃ a, x = .ok a := by
  cases x with
  | error e =>
    constructor
    · rintro ⟨b, hb⟩
      cases hb
    · rintro ⟨a, ha⟩
      cases ha
  | ok a => exact ⟨fun _ => ⟨a, rfl⟩, fun _ => ⟨f a, rfl⟩⟩

theorem paramValue_ok_iff {written : String} {value? : Option String} :
    (∃ v, paramValue written value? = .ok v) ↔
      ∀ value ∈ value?, value ≠ written → ¬LongReference value.toList := by
  cases value? with
  | none => simp [paramValue]
  | some value =>
    simp only [paramValue, Option.mem_some_iff, forall_eq']
    split
    · rename_i heq
      exact ⟨fun _ hne => absurd heq hne, fun _ => ⟨_, rfl⟩⟩
    · rename_i hne
      rw [except_bind_ok_iff, decodeReferences_ok_iff]
      exact ⟨fun h _ => h, fun h => h hne⟩

theorem makeParam_ok_iff {written name : String} {kind : ParamKind} {value? : Option String} :
    (∃ p, makeParam written kind name value? = .ok p) ↔
      ∀ value ∈ value?, value ≠ written → ¬LongReference value.toList := by
  rw [← paramValue_ok_iff]
  exact except_bind_ok_iff

theorem returns_readGenerics {tag : StartTag} {position : Option Int × Option Int}
    {value? : Option String} : (readGenerics tag position value?).Returns := by
  have hmissing : (readGenerics.missing tag position).Returns :=
    returns_report_bind (returns_pure _)
  cases value? with
  | none => exact hmissing
  | some value =>
    rw [readGenerics]
    split
    · exact hmissing
    · exact returns_pure _

theorem returns_readAttribute {tag : StartTag} {position : Option Int × Option Int}
    {entry : String × Option String} :
    (readAttribute tag position entry).Returns ↔ ¬LongValue entry := by
  obtain ⟨name, raw⟩ := entry
  simp only [readAttribute, LongValue]
  split
  · rename_i hname
    exact iff_of_true (returns_pure _) fun h => h.1 hname
  · rename_i hposition
    split
    · rename_i hname
      refine iff_of_true ?_ fun h => h.2.1 hname
      rw [returns_bind fun _ => iff_true_intro (returns_pure _)]
      exact ⟨returns_readGenerics, trivial⟩
    · rename_i hgenerics
      rw [returns_bind fun _ => iff_true_intro (returns_pure _), and_true, returns_lift,
        makeParam_ok_iff]
      cases raw with
      | none => simp
      | some value =>
        cases hvalue : expressionValue? value with
        | none => simp [shownValue, hvalue, hposition, hgenerics]
        | some rest => simp [shownValue, hvalue, hposition, hgenerics]

/-- A number that is too long stands in the position of a tag or in one of its values. -/
def LongStart (start : StartTag) : Prop :=
  (∃ value, start.attributes.find? positionAttribute = some (some value) ∧ LongPosition value) ∨
    ∃ entry ∈ start.attributes.entries, LongValue entry

theorem returns_classify {start : StartTag} : (classify start).Returns ↔ ¬LongStart start := by
  have hparts : ∀ position : Option Int × Option Int,
      (Traced.each (readAttribute start position) start.attributes.entries >>= fun parts =>
        (Pure.pure ⟨position, parts.findSome? Part.generics?, parts.filterMap Part.param?⟩ :
          Traced Classified)).Returns ↔ ∀ entry ∈ start.attributes.entries, ¬LongValue entry := by
    intro position
    rw [returns_bind fun _ => iff_true_intro (returns_pure _), and_true, returns_each]
    simp only [returns_readAttribute]
  have hvalues : (∀ entry ∈ start.attributes.entries, ¬LongValue entry) ↔
      ¬∃ entry ∈ start.attributes.entries, LongValue entry := by
    simp
  rw [classify, LongStart, not_or, ← hvalues]
  cases hfind : start.attributes.find? positionAttribute with
  | none =>
    dsimp only
    rw [returns_bind hparts]
    simp
  | some value? =>
    dsimp only
    rw [returns_bind hparts, returns_readPosition]
    simp

theorem returns_tagWidget {o : Options} {start : StartTag} {content : Traced (List Widget)} :
    (tagWidget o start content).Returns ↔ ¬LongStart start ∧ content.Returns := by
  unfold tagWidget
  rw [returns_bind (P := ¬LongStart start ∧ content.Returns)]
  · simp
  · intro _
    rw [returns_bind (P := content.Returns), returns_classify]
    intro said
    rw [returns_bind fun _ => iff_true_intro (returns_pure _), and_true]

/-- A number that is too long stands in a line of text, in a tag or in what it holds. -/
inductive TooLong : Element → Prop
  | line {data : String} {line : List Char} : line ∈ contentLines data → LongReference line →
      TooLong (.text data)
  | start {start : StartTag} {children : List Element} : LongStart start →
      TooLong (.tag start children)
  | child {start : StartTag} {children : List Element} {e : Element} : e ∈ children →
      TooLong e → TooLong (.tag start children)

theorem tooLong_text {data : String} :
    TooLong (.text data) ↔ ∃ line ∈ contentLines data, LongReference line := by
  constructor
  · intro h
    cases h with
    | line hmem hlong => exact ⟨_, hmem, hlong⟩
  · rintro ⟨line, hmem, hlong⟩
    exact .line hmem hlong

theorem tooLong_tag {start : StartTag} {children : List Element} :
    TooLong (.tag start children) ↔ LongStart start ∨ ∃ e ∈ children, TooLong e := by
  constructor
  · intro h
    cases h with
    | start hstart => exact Or.inl hstart
    | child hmem he => exact Or.inr ⟨_, hmem, he⟩
  · rintro (hstart | ⟨e, hmem, he⟩)
    · exact .start hstart
    · exact .child hmem he

theorem returns_textWidgets {o : Options} {data : String} :
    (textWidgets o data).Returns ↔ ¬TooLong (.text data) := by
  have hline : ∀ line, (textWidget o line).Returns ↔ ¬LongReference line := by
    intro line
    rw [textWidget, returns_bind fun _ => iff_true_intro (returns_pure _), and_true, returns_lift,
      decodeReferences_ok_iff]
  rw [textWidgets, returns_each, tooLong_text]
  simp [hline]

mutual

theorem returns_widgetsOf (o : Options) : ∀ e, (widgetsOf o e).Returns ↔ ¬TooLong e
  | .text data => by
    rw [widgetsOf]
    exact returns_textWidgets
  | .tag start children => by
    rw [widgetsOf, returns_bind fun _ => iff_true_intro (returns_pure _), and_true,
      returns_tagWidget, returns_contentWidgets o children, tooLong_tag, not_or]
    simp

theorem returns_contentWidgets (o : Options) :
    ∀ es, (contentWidgets o es).Returns ↔ ∀ e ∈ es, ¬TooLong e
  | [] => by
    rw [contentWidgets]
    simp
  | e :: es => by
    rw [contentWidgets, returns_bind (P := ∀ e ∈ es, ¬TooLong e), returns_widgetsOf o e,
      List.forall_mem_cons]
    intro ws
    rw [returns_bind fun _ => iff_true_intro (returns_pure _), and_true,
      returns_contentWidgets o es]

end

theorem returns_rootWidgets {o : Options} {e : Element} :
    (rootWidgets o e).Returns ↔ ∀ start children, e = .tag start children → ¬TooLong e := by
  cases e with
  | text data =>
    have hreturns : (rootWidgets o (.text data)).Returns := by
      simp only [rootWidgets]
      split
      · exact returns_pure _
      · rw [returns_bind fun _ => iff_true_intro (returns_pure _)]
        exact ⟨returns_emit _, trivial⟩
    simp [hreturns]
  | tag start children =>
    rw [rootWidgets, returns_bind fun _ => iff_true_intro (returns_pure _), and_true, compileTag,
      returns_tagWidget, returns_contentWidgets, tooLong_tag, not_or]
    simp

theorem returns_compileRoots {o : Options} {document : List Element} :
    (compileRoots o document).Returns ↔
      ¬∃ start children, .tag start children ∈ document ∧ TooLong (.tag start children) := by
  rw [compileRoots, returns_bind fun _ => iff_true_intro (returns_pure _), and_true, returns_each]
  simp only [returns_rootWidgets]
  constructor
  · rintro h ⟨start, children, hmem, hlong⟩
    exact h _ hmem start children rfl hlong
  · rintro h e hmem start children rfl hlong
    exact h ⟨start, children, hmem, hlong⟩

theorem returns_compile {o : Options} {document : List Element} :
    (compile o document).Returns ↔ (compileRoots o document).Returns := by
  unfold compile
  rw [returns_bind (P := (compileRoots o document).Returns)]
  · simp
  · intro _
    rw [returns_bind (P := True), and_true]
    intro widgets
    rw [returns_bind fun _ => iff_true_intro (returns_pure _)]
    simp

/-- Compiling gives the widgets of a document if and only if none of its root tags holds a number
that is too long. -/
theorem compile_returns_iff (o : Options) (document : List Element) :
    (∃ widgets, (compile o document).result = .ok widgets) ↔
      ¬∃ start children, .tag start children ∈ document ∧ TooLong (.tag start children) :=
  returns_compile.trans returns_compileRoots

/-- A decimal reference with so many digits. -/
def onesReference (n : Nat) : List Char :=
  '&' :: '#' :: (List.replicate n '1' ++ [';'])

/-- A tag with one attribute, whose value is a reference. -/
def referenceTag (n : Nat) : StartTag :=
  { name := "B"
    attributes := { entries := [("l", some (String.ofList (onesReference n)))] } }

theorem longReference_onesReference {n : Nat} (h : digitLimit < n) :
    LongReference (onesReference n) := by
  refine ⟨List.replicate n '1', by rwa [List.length_replicate], ?_, ?_⟩
  · intro c hc
    rw [List.eq_of_mem_replicate hc]
    decide
  · exact List.IsPrefix.isInfix ⟨[';'], rfl⟩

theorem longStart_referenceTag {n : Nat} (h : digitLimit < n) : LongStart (referenceTag n) := by
  have hvalue : shownValue (String.ofList (onesReference n)) = String.ofList (onesReference n) := by
    simp only [shownValue, expressionValue?, String.toList_ofList]
    rfl
  refine Or.inr ⟨_, List.mem_singleton.2 rfl, by simp [positionAttribute],
    by simp [genericsAttribute], _, rfl, ?_, ?_⟩
  · rw [hvalue]
    intro heq
    have hhead := congrArg (fun s : String => s.toList.head?) heq
    simp [onesReference] at hhead
  · rw [hvalue, String.toList_ofList]
    exact longReference_onesReference h

/-- One digit too many, and there are no widgets. -/
theorem compile_referenceTag :
    ¬∃ widgets, (compile {} [.tag (referenceTag 4301) []]).result = .ok widgets := by
  intro h
  have hroots := returns_compileRoots.1 (returns_compile.1 h)
  exact hroots ⟨_, _, List.mem_singleton.2 rfl, .start (longStart_referenceTag (by decide))⟩

end WidgetMarkup.Compile
