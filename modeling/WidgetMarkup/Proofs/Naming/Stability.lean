import Mathlib.Data.List.Chain
import WidgetMarkup.Proofs.Naming.Words

/-!
# Names that are converted twice

A converted name has no separators left, so only its capitals show where the words were joined. Two
capitals that follow each other are read as an acronym unless a small letter comes next. A one-letter
word and the word after it meet in such a pair: `a-b-c` becomes `aBC`, and this becomes `aBc`.
Converting a second time changes a name exactly if two of its words meet in this way.

On letters and digits alone, the conversion looks at one character after the other and makes it
capital if a word starts there and small otherwise.
-/
namespace WidgetMarkup.Naming

open Text

/-- The text after a character, with a capital where a word starts and small letters elsewhere. -/
def recase (c : Char) : List Char → List Char
  | [] => []
  | d :: s => (if startsWord c d s then d.toUpper else d.toLower) :: recase d s

/-- Without separators, joining the words again changes the case of one character after the other. -/
theorem splitWords_recase {c : Char} {s : List Char} (hc : c.isAlphanum = true)
    (hs : ∀ d ∈ s, d.isAlphanum = true) :
    ∃ w ws, splitWords (c :: s) = (c :: w) :: ws ∧
      w.map Char.toLower ++ ws.flatMap capitalize = recase c s := by
  induction s generalizing c with
  | nil => exact ⟨[], [], by simp [splitWords, hc, continues], rfl⟩
  | cons d s ih =>
    have hd := hs d List.mem_cons_self
    -- the next character starts the first of the words found after this one
    obtain ⟨w, ws, hwords, hjoined⟩ := ih hd fun e he => hs e (List.mem_cons_of_mem d he)
    rw [splitWords, if_neg (by simp [hc]), hwords, recase]
    cases hstarts : startsWord c d s with
    | true =>
      refine ⟨[], (d :: w) :: ws, by simp [continues, hstarts], ?_⟩
      rw [if_pos rfl, ← hjoined, List.flatMap_cons, capitalize]
      rfl
    | false =>
      refine ⟨d :: w, ws, by simp [continues, hstarts, hd, extendFirst], ?_⟩
      rw [if_neg Bool.false_ne_true, ← hjoined]
      rfl

theorem camelChars_cons {c : Char} {s : List Char} (hc : c.isAlphanum = true)
    (hs : ∀ d ∈ s, d.isAlphanum = true) : camelChars (c :: s) = c.toLower :: recase c s := by
  obtain ⟨w, ws, hwords, hjoined⟩ := splitWords_recase hc hs
  rw [camelChars, hwords]
  dsimp only
  rw [List.map_cons, List.cons_append, hjoined]

theorem recase_cons_eq_iff {c d : Char} {s : List Char} :
    recase c (d :: s) = d :: s ↔
      (d.isUpper = true → startsWord c d s = true) ∧ recase d s = s := by
  rw [recase, List.cons.injEq]
  apply and_congr_left
  intro _
  cases hupper : d.isUpper with
  | true =>
    have hraised : d.toUpper = d := toUpper_of_isUpper hupper
    have hlowered : d.toLower ≠ d := by
      intro heq
      rw [← heq, isUpper_toLower] at hupper
      cases hupper
    cases startsWord c d s with
    | true => simp [hraised]
    | false => simp [hlowered]
  | false =>
    have hstarts : startsWord c d s = false := by simp [startsWord, hupper]
    have hlowered : d.toLower = d := toLower_of_not_isUpper hupper
    simp [hstarts, hlowered]

theorem recase_map_toLower_append (c : Char) (s rest : List Char) :
    recase c (s.map Char.toLower ++ rest) =
      s.map Char.toLower ++ recase ((s.map Char.toLower).getLastD c) rest := by
  induction s generalizing c with
  | nil => rfl
  | cons d s ih =>
    have hstarts : startsWord c d.toLower (s.map Char.toLower ++ rest) = false := by
      simp [startsWord]
    rw [List.map_cons, List.cons_append, recase, hstarts, if_neg Bool.false_ne_true,
      toLower_toLower, ih, List.getLastD_cons, List.cons_append]

/-- A word of one letter. -/
def IsLetter (w : List Char) : Prop :=
  ∃ c, w = [c] ∧ c.isAlpha = true

/-- A word starts with a letter, and the next character of the word is no letter, if there is one. -/
def LoneLetterFirst (w : List Char) : Prop :=
  w.head?.any Char.isAlpha = true ∧ w.tail.head?.any Char.isAlpha = false

/-- Joining two words does not make an acronym of them. -/
def StaysApart (u w : List Char) : Prop :=
  IsLetter u → ¬LoneLetterFirst w

theorem isChain_staysApart_cons {w : List Char} {ws : List (List Char)} :
    (w :: ws).IsChain StaysApart ↔
      (IsLetter w → ∀ u ∈ ws.head?, ¬LoneLetterFirst u) ∧ ws.IsChain StaysApart := by
  rw [List.isChain_cons]
  apply and_congr_left
  intro _
  exact ⟨fun h hletter u hu => h u hu hletter, fun h u hu hletter => h hletter u hu⟩

/-- What the words of a name are: letters and digits, and at least one of them. -/
def IsWord (w : List Char) : Prop :=
  w ≠ [] ∧ ∀ c ∈ w, c.isAlphanum = true

theorem isWord_of_mem_splitWords {name w : List Char} (h : w ∈ splitWords name) : IsWord w := by
  refine ⟨ne_nil_of_mem_splitWords name w h, fun c hc => ?_⟩
  have hmem : c ∈ (splitWords name).flatten := List.mem_flatten.2 ⟨w, h, hc⟩
  rw [flatten_splitWords] at hmem
  exact (List.mem_filter.1 hmem).2

theorem isUpper_getLastD_map_toLower (c : Char) (s : List Char) :
    ((s.map Char.toLower).getLastD c).isUpper = (s.isEmpty && c.isUpper) := by
  induction s generalizing c with
  | nil => rfl
  | cons d s ih =>
    rw [List.map_cons, List.getLastD_cons, ih]
    simp

theorem isAlphanum_getLastD_map_toLower {c : Char} {s : List Char} (hc : c.isAlphanum = true)
    (hs : ∀ d ∈ s, d.isAlphanum = true) :
    ((s.map Char.toLower).getLastD c).isAlphanum = true := by
  induction s generalizing c with
  | nil => exact hc
  | cons d s ih =>
    rw [List.map_cons, List.getLastD_cons]
    apply ih
    · rw [isAlphanum_toLower, hs d List.mem_cons_self]
    · exact fun e he => hs e (List.mem_cons_of_mem d he)

theorem head?_flatMap_capitalize {ws : List (List Char)} (hws : ∀ w ∈ ws, IsWord w) :
    (ws.flatMap capitalize).head?.any Char.isLower = false := by
  cases ws with
  | nil => rfl
  | cons w ws =>
    obtain ⟨d, v, rfl⟩ := List.exists_cons_of_ne_nil (hws w List.mem_cons_self).1
    simp [capitalize]

/-- After a letter or digit, the capital of a joined word shows that a word starts there, unless it
follows a capital and its own word has no letter to come next. -/
theorem startsWord_capital_iff {c d : Char} {v : List Char} {ws : List (List Char)}
    (hc : c.isAlphanum = true) (hws : ∀ w ∈ ws, IsWord w) :
    (d.toUpper.isUpper = true →
        startsWord c d.toUpper (v.map Char.toLower ++ ws.flatMap capitalize) = true) ↔
      (c.isUpper = true → ¬LoneLetterFirst (d :: v)) := by
  -- what comes next is a letter of the same word, or a capital or a digit of the next one
  have hnext : (v.map Char.toLower ++ ws.flatMap capitalize).head?.any Char.isLower =
      v.head?.any Char.isAlpha := by
    cases v with
    | nil => exact head?_flatMap_capitalize hws
    | cons e v => simp
  have hlone : LoneLetterFirst (d :: v) ↔ d.isAlpha = true ∧ v.head?.any Char.isAlpha = false :=
    Iff.rfl
  rw [startsWord, hnext, hlone, isUpper_toUpper]
  cases hupper : c.isUpper with
  | true =>
    rw [not_isLower_or_isDigit hupper]
    cases d.isAlpha <;> simp
  | false =>
    have hsmall : (c.isLower || c.isDigit) = true := by
      rwa [Char.isAlphanum, isAlpha_eq, hupper, Bool.false_or] at hc
    cases d.isAlpha <;> simp [hsmall]

theorem isUpper_last_capitalize_iff {d : Char} {v : List Char} :
    ((v.map Char.toLower).getLastD d.toUpper).isUpper = true ↔ IsLetter (d :: v) := by
  rw [isUpper_getLastD_map_toLower, isUpper_toUpper, Bool.and_eq_true,
    List.isEmpty_iff]
  constructor
  · rintro ⟨rfl, hd⟩
    exact ⟨d, rfl, hd⟩
  · rintro ⟨e, hword, he⟩
    cases hword
    exact ⟨rfl, he⟩

/-- Joined words stay as they are after a letter or digit exactly if no two of them meet in an
acronym, nor a capital before them and the first one. -/
theorem recase_flatMap_capitalize_iff {c : Char} {ws : List (List Char)} (hc : c.isAlphanum = true)
    (hws : ∀ w ∈ ws, IsWord w) :
    recase c (ws.flatMap capitalize) = ws.flatMap capitalize ↔
      (c.isUpper = true → ∀ w ∈ ws.head?, ¬LoneLetterFirst w) ∧ ws.IsChain StaysApart := by
  -- of the words before only the last character matters, which is a capital after a one-letter word
  induction ws generalizing c with
  | nil => simp [recase]
  | cons w ws ih =>
    obtain ⟨hne, halnum⟩ := hws w List.mem_cons_self
    have hothers : ∀ w ∈ ws, IsWord w := fun w hw => hws w (List.mem_cons_of_mem _ hw)
    obtain ⟨d, v, rfl⟩ := List.exists_cons_of_ne_nil hne
    have hd : d.toUpper.isAlphanum = true := by
      rw [← isAlphanum_toLower, toLower_toUpper, isAlphanum_toLower]
      exact halnum d List.mem_cons_self
    have hlast := isAlphanum_getLastD_map_toLower hd fun e he => halnum e (List.mem_cons_of_mem d he)
    rw [List.flatMap_cons, capitalize, List.cons_append, recase_cons_eq_iff,
      startsWord_capital_iff hc hothers, recase_map_toLower_append, List.append_cancel_left_eq,
      ih hlast hothers, isUpper_last_capitalize_iff, ← isChain_staysApart_cons]
    simp

theorem isAlphanum_camelChars (name : List Char) : ∀ c ∈ camelChars name, c.isAlphanum = true := by
  apply isAlphanum_of_map_toLower_eq (map_toLower_camelChars name)
  intro c hc
  exact (List.mem_filter.1 hc).2

theorem camelChars_joined {c : Char} {v : List Char} {ws : List (List Char)}
    (h : ∀ d ∈ c :: (v.map Char.toLower ++ ws.flatMap capitalize), d.isAlphanum = true) :
    camelChars (c :: (v.map Char.toLower ++ ws.flatMap capitalize)) =
      c.toLower :: (v.map Char.toLower ++
        recase ((v.map Char.toLower).getLastD c) (ws.flatMap capitalize)) := by
  obtain ⟨hc, hrest⟩ := List.forall_mem_cons.1 h
  rw [camelChars_cons hc hrest, recase_map_toLower_append]

section Words

variable {name : List Char} {d : Char} {v : List Char} {ws : List (List Char)}

theorem camelChars_of_splitWords (hwords : splitWords name = (d :: v) :: ws) :
    camelChars name = d.toLower :: (v.map Char.toLower ++ ws.flatMap capitalize) := by
  rw [camelChars, hwords]
  rfl

/-- In camel case the first word ends with no capital. -/
theorem camelChars_stable_iff (hwords : splitWords name = (d :: v) :: ws) :
    camelChars (camelChars name) = camelChars name ↔ ws.IsChain StaysApart := by
  have halnum := isAlphanum_camelChars name
  have hws : ∀ w ∈ (d :: v) :: ws, IsWord w := fun w hw => isWord_of_mem_splitWords (hwords ▸ hw)
  obtain ⟨hfirst, hothers⟩ := List.forall_mem_cons.1 hws
  rw [camelChars_of_splitWords hwords] at halnum ⊢
  have hlast := isAlphanum_getLastD_map_toLower (halnum _ List.mem_cons_self)
    fun e he => hfirst.2 e (List.mem_cons_of_mem d he)
  rw [camelChars_joined halnum, toLower_toLower, List.cons.injEq,
    List.append_cancel_left_eq, recase_flatMap_capitalize_iff hlast hothers,
    isUpper_getLastD_map_toLower]
  simp

/-- In Pascal case a first word of one letter is a capital and meets the word after it. -/
theorem raiseFirst_camelChars_stable_iff (hwords : splitWords name = (d :: v) :: ws) :
    raiseFirst (camelChars (raiseFirst (camelChars name))) = raiseFirst (camelChars name) ↔
      ((d :: v) :: ws).IsChain StaysApart := by
  have halnum : ∀ c ∈ raiseFirst (camelChars name), c.isAlphanum = true := by
    apply isAlphanum_of_map_toLower_eq (map_toLower_raiseFirst _)
    exact isAlphanum_camelChars name
  have hws : ∀ w ∈ (d :: v) :: ws, IsWord w := fun w hw => isWord_of_mem_splitWords (hwords ▸ hw)
  obtain ⟨hfirst, hothers⟩ := List.forall_mem_cons.1 hws
  rw [camelChars_of_splitWords hwords, raiseFirst, toUpper_toLower] at halnum ⊢
  have hlast := isAlphanum_getLastD_map_toLower (halnum _ List.mem_cons_self)
    fun e he => hfirst.2 e (List.mem_cons_of_mem d he)
  rw [camelChars_joined halnum, raiseFirst, toUpper_toLower,
    toUpper_toUpper, List.cons.injEq, List.append_cancel_left_eq,
    recase_flatMap_capitalize_iff hlast hothers, isUpper_last_capitalize_iff,
    ← isChain_staysApart_cons]
  exact and_iff_right rfl

end Words

/-- Converting a second time changes nothing exactly if, among the words after the first for camel case
and among all words for Pascal case, no word of one letter is followed by a word that starts with a
letter and has no letter next to it. -/
theorem conversion_stable_iff (name : String) :
    (camelCase (camelCase name) = camelCase name ↔
      ((words name).map String.toList).tail.IsChain StaysApart) ∧
    (pascalCase (pascalCase name) = pascalCase name ↔
      ((words name).map String.toList).IsChain StaysApart) := by
  rw [map_toList_words]
  simp only [camelCase, pascalCase, String.toList_ofList, String.ofList_inj]
  cases hwords : splitWords name.toList with
  | nil =>
    have hempty : camelChars name.toList = [] := by rw [camelChars, hwords]
    rw [hempty]
    exact ⟨iff_of_true rfl .nil, iff_of_true rfl .nil⟩
  | cons w ws =>
    have hne : w ≠ [] := by
      apply ne_nil_of_mem_splitWords name.toList
      rw [hwords]
      exact List.mem_cons_self
    obtain ⟨d, v, rfl⟩ := List.exists_cons_of_ne_nil hne
    exact ⟨camelChars_stable_iff hwords, raiseFirst_camelChars_stable_iff hwords⟩

/-- Initials are read as an acronym the second time: `aBC` becomes `aBc`, and `ABC` becomes `Abc`. -/
theorem conversion_not_stable_initials :
    camelCase (camelCase "a-b-c") ≠ camelCase "a-b-c" ∧
      pascalCase (pascalCase "a-b-c") ≠ pascalCase "a-b-c" := by
  decide +kernel

end WidgetMarkup.Naming
