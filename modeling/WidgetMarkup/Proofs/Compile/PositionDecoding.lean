import WidgetMarkup.Proofs.Compile.Diagnostics

/-!
# Positions that are read back

A line and a column, each written as a decimal numeral, are read back from the position attribute. A
numeral may have a sign and leading zeros, blanks may stand before it, and anything that is no digit
may follow: up to the comma after the line, and up to the end or to a second comma after the column.
The sign and the digits are then all that counts, as the search for digits stops at the first
character that is none in any script.
-/
namespace WidgetMarkup.Compile

open Markup (StartTag AllBlank Stops)
open Text

/-- What may stand before the digits of a numeral. -/
inductive Sign where
  | absent
  | plus
  | minus

def Sign.chars : Sign → List Char
  | absent => []
  | plus => ['+']
  | minus => ['-']

def Sign.isMinus : Sign → Bool
  | absent => false
  | plus => false
  | minus => true

/-- The integer with a sign and a size. -/
def Sign.apply (sign : Sign) (size : Nat) : Int :=
  if sign.isMinus then -size else size

/-- An optional sign and at least one Latin digit, but not more digits than can be read. -/
structure Numeral where
  sign : Sign
  digits : List Char
  digits_ne_nil : digits ≠ []
  digits_isDigit : digits.all Char.isDigit = true
  length_digits_le : digits.length ≤ digitLimit

namespace Numeral

/-- The numeral as a text. -/
def chars (n : Numeral) : List Char :=
  n.sign.chars ++ n.digits

/-- The integer that a numeral stands for. -/
def value (n : Numeral) : Int :=
  n.sign.apply (Nat.ofDigitChars 10 n.digits 0)

theorem isDigit_of_mem_digits {n : Numeral} {c : Char} (hc : c ∈ n.digits) : c.isDigit = true :=
  List.all_eq_true.1 n.digits_isDigit c hc

/-- The usual numeral of an integer that is not too long. -/
def ofInt (k : Int) (h : (Nat.toDigits 10 k.natAbs).length ≤ digitLimit) : Numeral where
  sign := if 0 ≤ k then .absent else .minus
  digits := Nat.toDigits 10 k.natAbs
  digits_ne_nil := Nat.toDigits_ne_nil
  digits_isDigit := List.all_eq_true.2 fun _ hc =>
    Nat.isDigit_of_mem_toDigits (by decide) (by decide) hc
  length_digits_le := h

variable {k : Int} {h : (Nat.toDigits 10 k.natAbs).length ≤ digitLimit}

theorem chars_ofInt : (ofInt k h).chars = (toString k).toList := by
  rw [Int.toString_eq_repr, Int.repr_eq_if, chars, ofInt]
  by_cases hk : 0 ≤ k
  · have habs : k.natAbs = k.toNat := by omega
    rw [if_pos hk, if_pos hk, Nat.toList_repr, ← habs]
    rfl
  · have habs : k.natAbs = (-k).toNat := by omega
    rw [if_neg hk, if_neg hk, String.toList_append, Nat.toList_repr, ← habs]
    rfl

theorem value_ofInt : (ofInt k h).value = k := by
  rw [value, ofInt]
  dsimp only
  rw [Nat.ofDigitChars_ten_toDigits]
  by_cases hk : 0 ≤ k
  · rw [if_pos hk, Sign.apply, Sign.isMinus, if_neg Bool.false_ne_true]
    omega
  · rw [if_neg hk, Sign.apply, Sign.isMinus, if_pos rfl]
    omega

end Numeral

theorem digitValue?_of_isDigit {c : Char} (h : c.isDigit = true) :
    digitValue? c = some (c.toNat - '0'.toNat) := by
  have hzero : '0'.toNat = 48 := rfl
  have hnine : '9'.toNat = 57 := rfl
  rw [Char.isDigit_iff_toNat] at h
  have hrange : (0x30 ≤ c.toNat && c.toNat < 0x30 + 10) = true := by
    rw [Bool.and_eq_true, decide_eq_true_eq, decide_eq_true_eq]
    omega
  rw [digitValue?, zeroDigits, List.findSome?_cons, hrange]
  rfl

theorem isDecimalDigit_of_isDigit {c : Char} (h : c.isDigit = true) : isDecimalDigit c = true := by
  rw [isDecimalDigit, digitValue?_of_isDigit h]
  rfl

theorem ofDigitValues_filterMap {digits : List Char} (h : ∀ c ∈ digits, c.isDigit = true) :
    ofDigitValues 10 (digits.filterMap digitValue?) = Nat.ofDigitChars 10 digits 0 := by
  have hvalues : digits.filterMap digitValue? = digits.map fun c => c.toNat - '0'.toNat := by
    rw [← List.filterMap_eq_map]
    exact List.filterMap_congr fun c hc => digitValue?_of_isDigit (h c hc)
  rw [hvalues, ofDigitValues, List.foldl_map, Nat.ofDigitChars_eq_foldl]

theorem leadsWith_numeral (n : Numeral) {blanks rest : List Char} (hblanks : AllBlank blanks)
    (hrest : Stops isDecimalDigit rest) :
    LeadsWith (blanks ++ (n.chars ++ rest)) n.sign.isMinus n.digits := by
  have hdigits : ∀ c ∈ n.digits, isDecimalDigit c = true := fun c hc =>
    isDecimalDigit_of_isDigit (Numeral.isDigit_of_mem_digits hc)
  refine ⟨blanks, n.sign.chars, rest, by rw [Numeral.chars, List.append_assoc], hblanks, ?_,
    n.digits_ne_nil, hdigits, hrest⟩
  cases n.sign with
  | absent => exact Or.inr ⟨Or.inr rfl, rfl⟩
  | plus => exact Or.inr ⟨Or.inl rfl, rfl⟩
  | minus => exact Or.inl ⟨rfl, rfl⟩

theorem readNumeral_digits (n : Numeral) :
    readNumeral n.digits = .ok (Nat.ofDigitChars 10 n.digits 0) := by
  rw [readNumeral, if_pos n.length_digits_le,
    ofDigitValues_filterMap fun c hc => Numeral.isDigit_of_mem_digits hc]

theorem gives_readCoordinate_numeral (tag : StartTag) (which : Coordinate) (n : Numeral)
    {blanks rest : List Char} (hblanks : AllBlank blanks) (hrest : Stops isDecimalDigit rest) :
    (readCoordinate tag which (some (blanks ++ (n.chars ++ rest)))).Gives (some n.value) [] := by
  rw [readCoordinate, leadingInteger?_eq_some_iff.2 (leadsWith_numeral n hblanks hrest)]
  dsimp only
  rw [readNumeral_digits]
  exact Traced.gives_bind.2
    ⟨_, [], [], Traced.gives_lift.2 ⟨rfl, rfl⟩, Traced.gives_pure.2 ⟨rfl, rfl⟩, rfl⟩

theorem comma_not_mem_blanks {blanks : List Char} (h : AllBlank blanks) : ',' ∉ blanks := by
  intro hmem
  have hblank := h ',' hmem
  revert hblank
  decide

theorem comma_not_mem_chars (n : Numeral) : ',' ∉ n.chars := by
  rw [Numeral.chars, List.mem_append, not_or]
  constructor
  · cases n.sign with
    | absent => decide
    | plus => decide
    | minus => decide
  · intro hmem
    have hdigit := Numeral.isDigit_of_mem_digits hmem
    revert hdigit
    decide

theorem stops_takeWhile {p q : Char → Bool} {s : List Char} (h : Stops p s) :
    Stops p (s.takeWhile q) := by
  cases s with
  | nil => exact h
  | cons c s =>
    by_cases hc : q c = true
    · rw [List.takeWhile_cons_of_pos hc]
      exact h
    · rw [List.takeWhile_cons_of_neg hc]
      exact Markup.stops_nil p

/-- Two numerals with a comma between them give a position, whatever blanks come before them and
whatever follows them. -/
theorem gives_readPosition_numerals (tag : StartTag) (line column : Numeral)
    (u v after₁ after₂ : List Char) (hu : AllBlank u) (hv : AllBlank v) (hcomma : ',' ∉ after₁)
    (hafter₁ : Stops isDecimalDigit after₁) (hafter₂ : Stops isDecimalDigit after₂) :
    (readPosition tag (some (String.ofList
      ((u ++ (line.chars ++ after₁)) ++ ',' :: (v ++ (column.chars ++ after₂)))))).Gives
        (some line.value, some column.value) [] := by
  have hfirst : ',' ∉ u ++ (line.chars ++ after₁) := by
    simp only [List.mem_append, not_or]
    exact ⟨comma_not_mem_blanks hu, comma_not_mem_chars line, hcomma⟩
  -- the second piece ends at the next comma, which is after the numeral
  have hsecond : (pieces ',' (v ++ (column.chars ++ after₂))).head? =
      some (v ++ (column.chars ++ after₂.takeWhile (· ≠ ','))) := by
    rw [head?_pieces, takeWhile_append_of_not_mem (comma_not_mem_blanks hv),
      takeWhile_append_of_not_mem (comma_not_mem_chars column)]
  rw [readPosition, String.toList_ofList, pieces_append hfirst, List.headD_cons,
    List.getElem?_cons_succ, ← List.head?_eq_getElem?, hsecond]
  have hline := gives_readCoordinate_numeral tag .line line hu hafter₁
  have hcolumn := gives_readCoordinate_numeral tag .column column hv
    (stops_takeWhile (q := (· ≠ ',')) hafter₂)
  exact Traced.gives_bind.2 ⟨_, [], [], hline,
    Traced.gives_bind.2 ⟨_, [], [], hcolumn, Traced.gives_pure.2 ⟨rfl, rfl⟩, rfl⟩, rfl⟩

/-- A position is read back from any two numerals that write its line and its column. In particular it
is read back from the usual ones, if they are not too long. -/
theorem readPosition_decodes (tag : StartTag) (l c : Int) :
    (∀ (line column : Numeral) (u v after₁ after₂ : List Char), line.value = l → column.value = c →
      AllBlank u → AllBlank v → ',' ∉ after₁ → Stops isDecimalDigit after₁ →
      Stops isDecimalDigit after₂ →
      (readPosition tag (some (String.ofList
        ((u ++ (line.chars ++ after₁)) ++ ',' :: (v ++ (column.chars ++ after₂)))))).Gives
          (some l, some c) []) ∧
    ((Nat.toDigits 10 l.natAbs).length ≤ digitLimit →
      (Nat.toDigits 10 c.natAbs).length ≤ digitLimit →
      (readPosition tag (some (toString l ++ "," ++ toString c))).Gives (some l, some c) []) := by
  constructor
  · rintro line column u v after₁ after₂ rfl rfl hu hv hcomma hafter₁ hafter₂
    exact gives_readPosition_numerals tag line column u v after₁ after₂ hu hv hcomma hafter₁ hafter₂
  · intro hl hc
    have hread := gives_readPosition_numerals tag (.ofInt l hl) (.ofInt c hc) [] [] [] []
      (by simp [AllBlank]) (by simp [AllBlank]) (by simp) (Markup.stops_nil _) (Markup.stops_nil _)
    have hvalue : String.ofList (([] ++ ((Numeral.ofInt l hl).chars ++ [])) ++
        ',' :: ([] ++ ((Numeral.ofInt c hc).chars ++ []))) = toString l ++ "," ++ toString c := by
      rw [← String.toList_inj]
      simp [Numeral.chars_ofInt]
    rwa [hvalue, Numeral.value_ofInt, Numeral.value_ofInt] at hread

/-- Blanks, signs, leading zeros, letters and further commas. -/
theorem readPosition_decodes_lenient :
    (readPosition ⟨"b", default, none, none⟩ (some "\t+007px, -12e5,9")).Gives
        (some 7, some (-12)) [] ∧
      (readPosition ⟨"b", default, none, none⟩
        (some (toString (7 : Int) ++ "," ++ toString (-12 : Int)))).Gives (some 7, some (-12)) [] := by
  obtain ⟨hlenient, husual⟩ := readPosition_decodes ⟨"b", default, none, none⟩ 7 (-12)
  refine ⟨?_, husual (by decide) (by decide)⟩
  apply hlenient ⟨.plus, ['0', '0', '7'], by simp, rfl, by decide⟩
    ⟨.minus, ['1', '2'], by simp, rfl, by decide⟩ ['\t'] [' '] ['p', 'x'] ['e', '5', ',', '9'] rfl rfl
  · simp [AllBlank, isBlank]
  · simp [AllBlank, isBlank]
  · simp
  · exact Markup.stops_cons.2 (by decide +kernel)
  · exact Markup.stops_cons.2 (by decide +kernel)

end WidgetMarkup.Compile
