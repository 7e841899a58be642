import WidgetMarkup.Naming
import WidgetMarkup.Proofs.Text.Casing

/-!
# Names in Pascal case

The words of a name hold its Latin letters and digits, all of them and in order; the other characters
are lost. Camel case and Pascal case join the words again and change nothing but the case of letters.
So the name in Pascal case is a class name exactly if the first letter or digit is a letter: a name
with a digit first keeps it there, and a name without letters and digits becomes empty.
-/
namespace WidgetMarkup.Naming

open Text

/-- A capital, and then letters and digits. -/
def IsClassName (name : String) : Prop :=
  name.toList.head?.any Char.isUpper = true ∧ ∀ c ∈ name.toList, c.isAlphanum = true

instance (name : String) : Decidable (IsClassName name) :=
  decidable_of_iff (name.toList.head?.any Char.isUpper = true ∧ name.toList.all Char.isAlphanum = true)
    (and_congr_right fun _ => List.all_eq_true)

/-- The first letter or digit of a name is a letter. -/
def LetterFirst (name : String) : Prop :=
  (name.toList.find? Char.isAlphanum).any Char.isAlpha = true

instance (name : String) : Decidable (LetterFirst name) :=
  inferInstanceAs (Decidable (_ = _))

theorem letterFirst_of_head {name : String} {c : Char} {t : List Char}
    (hname : name.toList = c :: t) (hc : c.isAlpha = true) : LetterFirst name := by
  have halnum : c.isAlphanum = true := by rw [Char.isAlphanum, hc, Bool.true_or]
  rw [LetterFirst, hname, List.find?_cons_of_pos halnum]
  exact hc

theorem flatten_extendFirst (c : Char) (ws : List (List Char)) :
    (extendFirst c ws).flatten = c :: ws.flatten := by
  cases ws with
  | nil => rfl
  | cons w ws => rfl

theorem flatten_splitWords (name : List Char) :
    (splitWords name).flatten = name.filter Char.isAlphanum := by
  induction name with
  | nil => rfl
  | cons c name ih =>
    rw [splitWords]
    by_cases hc : c.isAlphanum = true
    · rw [if_neg (by simp [hc]), List.filter_cons_of_pos hc]
      split
      · rw [flatten_extendFirst, ih]
      · rw [List.flatten_cons, ih, List.singleton_append]
    · rw [if_pos (by simp [hc]), List.filter_cons_of_neg hc, ih]

theorem isAlphanum_toLower (c : Char) : c.toLower.isAlphanum = c.isAlphanum := by
  cases hc : c.isUpper with
  | true =>
    have halpha : c.isAlpha = true := by rw [isAlpha_eq, hc, Bool.true_or]
    rw [Char.isAlphanum, Char.isAlphanum, isAlpha_toLower, halpha, Bool.true_or, Bool.true_or]
  | false => rw [toLower_of_not_isUpper hc]

theorem isAlphanum_of_map_toLower_eq {s t : List Char}
    (h : s.map Char.toLower = t.map Char.toLower) (ht : ∀ c ∈ t, c.isAlphanum = true) :
    ∀ c ∈ s, c.isAlphanum = true := by
  intro c hc
  have hmem : c.toLower ∈ t.map Char.toLower := h ▸ List.mem_map_of_mem hc
  obtain ⟨d, hd, heq⟩ := List.mem_map.1 hmem
  rw [← isAlphanum_toLower c, ← heq, isAlphanum_toLower, ht d hd]

theorem map_toLower_capitalize (w : List Char) :
    (capitalize w).map Char.toLower = w.map Char.toLower := by
  cases w with
  | nil => rfl
  | cons c w => simp [capitalize]

theorem map_toLower_raiseFirst (w : List Char) :
    (raiseFirst w).map Char.toLower = w.map Char.toLower := by
  cases w with
  | nil => rfl
  | cons c w => simp [raiseFirst]

/-- Camel case keeps the letters and digits of a name, but for the case of letters. -/
theorem map_toLower_camelChars (name : List Char) :
    (camelChars name).map Char.toLower = (name.filter Char.isAlphanum).map Char.toLower := by
  rw [← flatten_splitWords, camelChars]
  have hrest : ∀ ws : List (List Char),
      (ws.flatMap capitalize).map Char.toLower = ws.flatten.map Char.toLower := by
    intro ws
    induction ws with
    | nil => rfl
    | cons w ws ih =>
      rw [List.flatMap_cons, List.map_append, map_toLower_capitalize, ih, List.flatten_cons,
        List.map_append]
  split
  · next hwords => rw [hwords, List.flatten_nil]
  · next w ws hwords =>
    rw [hwords, List.map_append, hrest, List.flatten_cons, List.map_append, List.map_map]
    simp

theorem toList_pascalCase (name : String) :
    (pascalCase name).toList = raiseFirst (camelChars name.toList) :=
  String.toList_ofList

/-- Pascal case leaves nothing but letters and digits. -/
theorem isAlphanum_pascalCase (name : String) : ∀ c ∈ (pascalCase name).toList,
    c.isAlphanum = true := by
  rw [toList_pascalCase]
  have hcase : (raiseFirst (camelChars name.toList)).map Char.toLower =
      (name.toList.filter Char.isAlphanum).map Char.toLower := by
    rw [map_toLower_raiseFirst, map_toLower_camelChars]
  apply isAlphanum_of_map_toLower_eq hcase
  intro c hc
  exact (List.mem_filter.1 hc).2

theorem head?_pascalCase (name : String) : (pascalCase name).toList.head? =
    (name.toList.find? Char.isAlphanum).map Char.toUpper := by
  have hfirst := congrArg List.head? (map_toLower_camelChars name.toList)
  rw [List.head?_map, List.head?_map, List.head?_filter] at hfirst
  have hraise : ∀ s : List Char,
      (raiseFirst s).head? = (s.head?.map Char.toLower).map Char.toUpper := by
    intro s
    cases s with
    | nil => rfl
    | cons c s => simp [raiseFirst]
  rw [toList_pascalCase, hraise, hfirst, Option.map_map]
  congr 1
  funext c
  exact toUpper_toLower

/-- Which names become class names. -/
theorem isClassName_pascalCase_iff {name : String} :
    IsClassName (pascalCase name) ↔ LetterFirst name := by
  rw [IsClassName, and_iff_left (isAlphanum_pascalCase name), head?_pascalCase, LetterFirst,
    Option.any_map]
  simp

end WidgetMarkup.Naming
