import Mathlib.Data.List.Forall2
import WidgetMarkup.Proofs.Naming.Words

/-!
# Spellings of a name

The same words can be written with hyphens, with underscores, or one right after the other with
capitals at the joints. A word here is a small letter followed by at least one small letter or digit.
Then no two capitals meet, so each capital of a spelling starts a word, and nothing else but a
separator does. The words of a spelling are therefore the words that were written, some of them with
a capital, and joining them forgets which.
-/
namespace WidgetMarkup.Naming

open Text

section Small

variable {c : Char}

theorem not_isUpper_of_small (hc : (c.isLower || c.isDigit) = true) : c.isUpper = false := by
  rw [Bool.eq_false_iff]
  intro hupper
  rw [not_isLower_or_isDigit hupper] at hc
  cases hc

theorem isAlphanum_of_small (hc : (c.isLower || c.isDigit) = true) : c.isAlphanum = true := by
  rw [Char.isAlphanum, isAlpha_eq, Bool.or_assoc, hc, Bool.or_true]

theorem toLower_of_small (hc : (c.isLower || c.isDigit) = true) : c.toLower = c :=
  toLower_of_not_isUpper (not_isUpper_of_small hc)

/-- Small letters and digits after a character belong to its word. The word ends where the text after
them does not go on with the last one. -/
theorem splitWords_small_append {small rest : List Char} (hc : c.isAlphanum = true)
    (hsmall : ∀ d ∈ small, (d.isLower || d.isDigit) = true)
    (hrest : continues ((c :: small).getLast (List.cons_ne_nil c small)) rest = false) :
    splitWords (c :: (small ++ rest)) = (c :: small) :: splitWords rest := by
  induction small generalizing c with
  | nil =>
    rw [List.getLast_singleton] at hrest
    rw [List.nil_append, splitWords, if_neg (by simp [hc]), hrest, if_neg Bool.false_ne_true]
  | cons d small ih =>
    have hd := hsmall d List.mem_cons_self
    have hgoesOn : continues c (d :: (small ++ rest)) = true := by
      simp [continues, startsWord, isAlphanum_of_small hd, not_isUpper_of_small hd]
    rw [List.getLast_cons_cons] at hrest
    rw [List.cons_append, splitWords, if_neg (by simp [hc]), if_pos hgoesOn,
      ih (isAlphanum_of_small hd) (fun e he => hsmall e (List.mem_cons_of_mem d he)) hrest,
      extendFirst]

end Small

/-- A small letter, and at least one small letter or digit after it. -/
structure PlainWord where
  first : Char
  others : List Char
  first_isLower : first.isLower = true
  others_ne_nil : others ≠ []
  others_small : (others.all fun c => c.isLower || c.isDigit) = true

namespace PlainWord

/-- The word in small letters. -/
def small (w : PlainWord) : List Char :=
  w.first :: w.others

/-- The word with a capital. -/
def capital (w : PlainWord) : List Char :=
  w.first.toUpper :: w.others

/-- A text is the word, in small letters or with a capital. -/
def Reads (w : PlainWord) (s : List Char) : Prop :=
  s = w.small ∨ s = w.capital

theorem small_of_mem_others {w : PlainWord} {c : Char} (hc : c ∈ w.others) :
    (c.isLower || c.isDigit) = true :=
  List.all_eq_true.1 w.others_small c hc

theorem isAlpha_first (w : PlainWord) : w.first.isAlpha = true := by
  rw [isAlpha_eq, w.first_isLower, Bool.or_true]

theorem toLower_first (w : PlainWord) : w.first.toLower = w.first :=
  toLower_of_not_isUpper (not_isUpper_of_isLower w.first_isLower)

theorem map_toLower_others (w : PlainWord) : w.others.map Char.toLower = w.others := by
  have hsame : ∀ c ∈ w.others, c.toLower = id c := fun c hc =>
    toLower_of_small (small_of_mem_others hc)
  rw [List.map_congr_left hsame, List.map_id]

variable {w : PlainWord} {s : List Char}

theorem Reads.map_toLower (h : w.Reads s) : s.map Char.toLower = w.small := by
  rcases h with rfl | rfl
  · rw [small, List.map_cons, w.toLower_first, w.map_toLower_others]
  · rw [capital, small, List.map_cons, toLower_toUpper, w.toLower_first,
      w.map_toLower_others]

theorem Reads.capitalize (h : w.Reads s) : capitalize s = w.capital := by
  rcases h with rfl | rfl
  · rw [small, Naming.capitalize, w.map_toLower_others, capital]
  · rw [capital, Naming.capitalize, w.map_toLower_others, toUpper_toUpper]

theorem Reads.splitWords_append (h : w.Reads s) {rest : List Char}
    (hrest : ∀ c, (c.isLower || c.isDigit) = true → continues c rest = false) :
    splitWords (s ++ rest) = s :: splitWords rest := by
  -- a word of two characters or more ends with a small letter or a digit in both forms
  have hlast : ∀ c,
      continues ((c :: w.others).getLast (List.cons_ne_nil c w.others)) rest = false := by
    intro c
    rw [List.getLast_cons w.others_ne_nil]
    exact hrest _ (small_of_mem_others (List.getLast_mem w.others_ne_nil))
  have halnum : ∀ c : Char, c.isAlpha = true → c.isAlphanum = true := by
    intro c hc
    rw [Char.isAlphanum, hc, Bool.true_or]
  rcases h with rfl | rfl
  · exact splitWords_small_append (halnum _ w.isAlpha_first) (fun c => small_of_mem_others) (hlast _)
  · have hcapital : w.first.toUpper.isAlpha = true := by
      rw [isAlpha_toUpper, w.isAlpha_first]
    exact splitWords_small_append (halnum _ hcapital) (fun c => small_of_mem_others) (hlast _)

end PlainWord

/-- A text without letters and digits. -/
def IsGap (gap : List Char) : Prop :=
  ∀ c ∈ gap, c.isAlphanum = false

/-- The words are written after another word: each with a capital, or in small letters after a gap
that is not empty. -/
inductive WrittenAfter : List PlainWord → List Char → Prop
  | done (gap : List Char) : IsGap gap → WrittenAfter [] gap
  | capital (gap : List Char) {s : List Char} (w : PlainWord) {ws : List PlainWord} : IsGap gap →
      WrittenAfter ws s → WrittenAfter (w :: ws) (gap ++ (w.capital ++ s))
  | small (gap : List Char) {s : List Char} (w : PlainWord) {ws : List PlainWord} : IsGap gap →
      gap ≠ [] → WrittenAfter ws s → WrittenAfter (w :: ws) (gap ++ (w.small ++ s))

/-- A text writes the words in order, with gaps around them; the first word is in either form. -/
inductive Spells : List PlainWord → List Char → Prop
  | intro (gap : List Char) {first s : List Char} {w : PlainWord} {ws : List PlainWord} :
      IsGap gap → w.Reads first → WrittenAfter ws s → Spells (w :: ws) (gap ++ (first ++ s))

theorem isGap_nil : IsGap [] := by
  intro c hc
  cases hc

theorem splitWords_gap_append {gap : List Char} (h : IsGap gap) (s : List Char) :
    splitWords (gap ++ s) = splitWords s := by
  induction gap with
  | nil => rfl
  | cons c gap ih =>
    rw [List.cons_append, splitWords, if_pos (by simp [h c List.mem_cons_self])]
    exact ih fun d hd => h d (List.mem_cons_of_mem c hd)

theorem continues_gap_append {c : Char} {gap : List Char} (h : IsGap gap) (hne : gap ≠ [])
    (s : List Char) : continues c (gap ++ s) = false := by
  obtain ⟨d, gap, rfl⟩ := List.exists_cons_of_ne_nil hne
  rw [List.cons_append, continues, h d List.mem_cons_self, Bool.false_and]

/-- What is written after a word does not go on with it. -/
theorem WrittenAfter.not_continues {ws : List PlainWord} {s : List Char} (h : WrittenAfter ws s)
    {c : Char} (hc : (c.isLower || c.isDigit) = true) : continues c s = false := by
  cases h with
  | done _ hgap =>
    cases s with
    | nil => rfl
    | cons d gap =>
      rw [← List.append_nil (d :: gap)]
      exact continues_gap_append hgap (List.cons_ne_nil d gap) []
  | capital gap w hgap hafter =>
    cases gap with
    | nil =>
      -- a capital right after a small letter or a digit starts a word
      have hcapital : w.first.toUpper.isUpper = true := by
        rw [isUpper_toUpper, w.isAlpha_first]
      simp [PlainWord.capital, continues, startsWord, hc, hcapital]
    | cons d gap => exact continues_gap_append hgap (List.cons_ne_nil d gap) _
  | small gap w hgap hne hafter => exact continues_gap_append hgap hne _

theorem WrittenAfter.splitWords {ws : List PlainWord} {s : List Char} (h : WrittenAfter ws s) :
    List.Forall₂ PlainWord.Reads ws (splitWords s) := by
  induction h with
  | done gap hgap =>
    have hnone := splitWords_gap_append hgap []
    rw [List.append_nil] at hnone
    rw [hnone]
    exact List.Forall₂.nil
  | capital gap w hgap hafter ih =>
    have hreads : w.Reads w.capital := Or.inr rfl
    rw [splitWords_gap_append hgap,
      hreads.splitWords_append fun c hc => hafter.not_continues hc]
    exact List.Forall₂.cons hreads ih
  | small gap w hgap hne hafter ih =>
    have hreads : w.Reads w.small := Or.inl rfl
    rw [splitWords_gap_append hgap,
      hreads.splitWords_append fun c hc => hafter.not_continues hc]
    exact List.Forall₂.cons hreads ih

theorem Spells.splitWords {ws : List PlainWord} {s : List Char} (h : Spells ws s) :
    List.Forall₂ PlainWord.Reads ws (splitWords s) := by
  cases h with
  | intro gap hgap hreads hafter =>
    rw [splitWords_gap_append hgap,
      hreads.splitWords_append fun c hc => hafter.not_continues hc]
    exact List.Forall₂.cons hreads hafter.splitWords

/-- The usual ways to write a name. -/
inductive Style where
  | kebab
  | snake
  | camel
  | pascal

/-- A first word and further ones in a style. -/
def Style.write : Style → PlainWord → List PlainWord → List Char
  | kebab, w, ws => ['-'].intercalate ((w :: ws).map PlainWord.small)
  | snake, w, ws => ['_'].intercalate ((w :: ws).map PlainWord.small)
  | camel, w, ws => w.small ++ ws.flatMap PlainWord.capital
  | pascal, w, ws => w.capital ++ ws.flatMap PlainWord.capital

theorem writtenAfter_capitals (ws : List PlainWord) :
    WrittenAfter ws (ws.flatMap PlainWord.capital) := by
  induction ws with
  | nil => exact .done [] isGap_nil
  | cons w ws ih => exact .capital [] w isGap_nil ih

theorem writtenAfter_separated {separator : Char} (h : separator.isAlphanum = false)
    (ws : List PlainWord) :
    WrittenAfter ws (ws.flatMap fun w => separator :: w.small) := by
  induction ws with
  | nil => exact .done [] isGap_nil
  | cons w ws ih =>
    have hgap : IsGap [separator] := by
      intro c hc
      rwa [List.mem_singleton.1 hc]
    exact .small [separator] w hgap (List.cons_ne_nil _ _) ih

theorem intercalate_small (separator : Char) (w : PlainWord) (ws : List PlainWord) :
    [separator].intercalate ((w :: ws).map PlainWord.small) =
      w.small ++ ws.flatMap fun v => separator :: v.small := by
  induction ws generalizing w with
  | nil => simp
  | cons v ws ih =>
    rw [List.map_cons, List.map_cons, List.intercalate_cons_cons, ← List.map_cons, ih,
      List.flatMap_cons]
    simp

theorem Style.spells (style : Style) (w : PlainWord) (ws : List PlainWord) :
    Spells (w :: ws) (style.write w ws) := by
  have hstart : ∀ {first s : List Char}, w.Reads first → WrittenAfter ws s →
      Spells (w :: ws) (first ++ s) := by
    intro first s hfirst hafter
    exact .intro [] isGap_nil hfirst hafter
  cases style with
  | kebab =>
    rw [write, intercalate_small]
    exact hstart (Or.inl rfl) (writtenAfter_separated (by decide) ws)
  | snake =>
    rw [write, intercalate_small]
    exact hstart (Or.inl rfl) (writtenAfter_separated (by decide) ws)
  | camel => exact hstart (Or.inl rfl) (writtenAfter_capitals ws)
  | pascal => exact hstart (Or.inr rfl) (writtenAfter_capitals ws)

theorem flatMap_capitalize_of_reads {ws : List PlainWord} {vs : List (List Char)}
    (h : List.Forall₂ PlainWord.Reads ws vs) :
    vs.flatMap capitalize = ws.flatMap PlainWord.capital := by
  induction h with
  | nil => rfl
  | cons hreads _ ih => rw [List.flatMap_cons, List.flatMap_cons, hreads.capitalize, ih]

theorem Spells.camelChars {w : PlainWord} {ws : List PlainWord} {s : List Char}
    (h : Spells (w :: ws) s) : camelChars s = Style.camel.write w ws := by
  have hwords := h.splitWords
  rw [Naming.camelChars]
  generalize Naming.splitWords s = found at hwords
  cases hwords with
  | cons hreads hothers =>
    dsimp only
    rw [hreads.map_toLower, flatMap_capitalize_of_reads hothers, Style.write]

theorem raiseFirst_write_camel (w : PlainWord) (ws : List PlainWord) :
    raiseFirst (Style.camel.write w ws) = Style.pascal.write w ws :=
  rfl

theorem Spells.cases_eq {w : PlainWord} {ws : List PlainWord} {name : String}
    (h : Spells (w :: ws) name.toList) :
    camelCase name = String.ofList (Style.camel.write w ws) ∧
      pascalCase name = String.ofList (Style.pascal.write w ws) := by
  rw [camelCase, pascalCase, h.camelChars, raiseFirst_write_camel]
  exact ⟨rfl, rfl⟩

/-- The name of plain words does not depend on how they are spelled. In particular names in the usual
styles become the same, and a name in camel case is kept. -/
theorem camelCase_spelling (w : PlainWord) (ws : List PlainWord) :
    (∀ name : String, Spells (w :: ws) name.toList →
      camelCase name = String.ofList (Style.camel.write w ws) ∧
        pascalCase name = String.ofList (Style.pascal.write w ws)) ∧
    ∀ style : Style,
      camelCase (String.ofList (style.write w ws)) = String.ofList (Style.camel.write w ws) ∧
        pascalCase (String.ofList (style.write w ws)) = String.ofList (Style.pascal.write w ws) := by
  refine ⟨fun name h => h.cases_eq, fun style => Spells.cases_eq ?_⟩
  rw [String.toList_ofList]
  exact style.spells w ws

/-- Three words with a gap before them, no gap, two characters and one character after them. -/
theorem camelCase_spelling_sample :
    camelCase "_appBar2 -item." = "appBar2Item" ∧ pascalCase "_appBar2 -item." = "AppBar2Item" := by
  have happ := camelCase_spelling ⟨'a', ['p', 'p'], rfl, by simp, rfl⟩
    [⟨'b', ['a', 'r', '2'], rfl, by simp, rfl⟩, ⟨'i', ['t', 'e', 'm'], rfl, by simp, rfl⟩]
  apply happ.1
  refine .intro ['_'] ?_ (Or.inl rfl) ?_
  · simp [IsGap]
  · refine .capital [] _ isGap_nil (.small [' ', '-'] _ ?_ ?_ (.done ['.'] ?_))
    · simp [IsGap]
    · simp
    · simp [IsGap]

end WidgetMarkup.Naming
