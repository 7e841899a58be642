import WidgetMarkup.Proofs.Naming.ClassName

/-!
# The words of a name

No word is empty, and the words one after the other are the letters and digits of the name. Where a
word ends is told by the characters around the place: two letters or digits with nothing between them
belong to one word unless a capital follows a small letter or a digit, or a capital follows another
one and a small letter comes next.

The words can also be found in two passes over the name and a cut. Each pass puts a blank at one kind
of boundary, and the name is cut at everything that is no letter or digit. A pass goes on after the
characters that it has looked at, and the second pass sees the blanks of the first one; neither hides
a boundary.
-/
namespace WidgetMarkup.Naming

open Text

theorem ne_nil_of_mem_extendFirst {c : Char} {ws : List (List Char)} (h : ∀ w ∈ ws, w ≠ []) :
    ∀ w ∈ extendFirst c ws, w ≠ [] := by
  cases ws with
  | nil => simp [extendFirst]
  | cons w ws =>
    rw [extendFirst, List.forall_mem_cons]
    exact ⟨List.cons_ne_nil c w, fun v hv => h v (List.mem_cons_of_mem w hv)⟩

theorem ne_nil_of_mem_splitWords (name : List Char) : ∀ w ∈ splitWords name, w ≠ [] := by
  induction name with
  | nil => simp [splitWords]
  | cons c name ih =>
    rw [splitWords]
    split
    · exact ih
    · split
      · exact ne_nil_of_mem_extendFirst ih
      · exact List.forall_mem_cons.2 ⟨List.cons_ne_nil c [], ih⟩

theorem splitWords_cons_of_isAlphanum {c : Char} (hc : c.isAlphanum = true) (s : List Char) :
    ∃ w ws, splitWords (c :: s) = (c :: w) :: ws := by
  have hflatten := flatten_splitWords (c :: s)
  rw [List.filter_cons_of_pos hc] at hflatten
  cases hwords : splitWords (c :: s) with
  | nil =>
    rw [hwords] at hflatten
    cases hflatten
  | cons first ws =>
    have hne : first ≠ [] := by
      apply ne_nil_of_mem_splitWords (c :: s)
      rw [hwords]
      exact List.mem_cons_self
    obtain ⟨d, w, rfl⟩ := List.exists_cons_of_ne_nil hne
    rw [hwords, List.flatten_cons, List.cons_append, List.cons.injEq] at hflatten
    exact ⟨w, ws, by rw [hflatten.1]⟩

/-- After the given characters, two further ones follow each other in one word. -/
def Together (ws : List (List Char)) (before : List Char) (c d : Char) : Prop :=
  ∃ earlier w later u v, ws = earlier ++ w :: later ∧ w = u ++ c :: d :: v ∧
    earlier.flatten ++ u = before

section Together

variable {ws : List (List Char)} {before : List Char} {b c d : Char}

theorem together_singleton_cons : Together ([b] :: ws) (b :: before) c d ↔ Together ws before c d := by
  constructor
  · rintro ⟨earlier, w, later, u, v, hws, hw, hbefore⟩
    cases earlier with
    | nil =>
      -- one character is not enough for two
      cases hws
      have hlength := congrArg List.length hw
      simp only [List.length_append, List.length_cons, List.length_nil] at hlength
      omega
    | cons first earlier =>
      cases hws
      rw [List.flatten_cons, List.append_assoc, List.singleton_append, List.cons.injEq] at hbefore
      exact ⟨earlier, w, later, u, v, rfl, hw, hbefore.2⟩
  · rintro ⟨earlier, w, later, u, v, rfl, hw, rfl⟩
    exact ⟨[b] :: earlier, w, later, u, v, rfl, hw, rfl⟩

theorem together_extendFirst (hws : ws ≠ []) :
    Together (extendFirst b ws) (b :: before) c d ↔ Together ws before c d := by
  obtain ⟨first, others, rfl⟩ := List.exists_cons_of_ne_nil hws
  rw [extendFirst]
  constructor
  · rintro ⟨earlier, w, later, u, v, hws, hw, hbefore⟩
    cases earlier with
    | nil =>
      cases hws
      rw [List.flatten_nil, List.nil_append] at hbefore
      rw [hbefore, List.cons_append, List.cons.injEq] at hw
      exact ⟨[], first, others, before, v, rfl, hw.2, rfl⟩
    | cons w' earlier =>
      cases hws
      rw [List.flatten_cons, List.append_assoc, List.cons_append, List.cons.injEq] at hbefore
      refine ⟨first :: earlier, w, later, u, v, rfl, hw, ?_⟩
      rw [List.flatten_cons, List.append_assoc]
      exact hbefore.2
  · rintro ⟨earlier, w, later, u, v, hws, hw, rfl⟩
    cases earlier with
    | nil =>
      cases hws
      exact ⟨[], b :: first, others, b :: u, v, rfl, by rw [hw, List.cons_append], rfl⟩
    | cons w' earlier =>
      cases hws
      exact ⟨(b :: first) :: earlier, w, later, u, v, rfl, hw, rfl⟩

theorem together_nil (hws : ∀ w ∈ ws, w ≠ []) :
    Together ws [] c d ↔ ∃ v later, ws = (c :: d :: v) :: later := by
  constructor
  · rintro ⟨earlier, w, later, u, v, rfl, rfl, hbefore⟩
    obtain ⟨hearlier, rfl⟩ := List.append_eq_nil_iff.1 hbefore
    cases earlier with
    | nil => exact ⟨v, later, rfl⟩
    | cons first earlier =>
      rw [List.flatten_cons] at hearlier
      exact absurd (List.append_eq_nil_iff.1 hearlier).1 (hws first List.mem_cons_self)
  · rintro ⟨v, later, rfl⟩
    exact ⟨[], c :: d :: v, later, [], v, rfl, rfl, rfl⟩

end Together

/-- The word of a character goes on with the next letter or digit if this comes right after it and
starts no word. -/
theorem continues_iff {c d : Char} {gap after : List Char} (hd : d.isAlphanum = true)
    (hgap : ∀ x ∈ gap, x.isAlphanum = false) :
    continues c (gap ++ d :: after) = true ↔ gap = [] ∧ startsWord c d after = false := by
  cases gap with
  | nil => simp [continues, hd]
  | cons x gap => simp [continues, hgap x List.mem_cons_self]

/-- Two letters or digits with none between them are in one word if they are neighbours and the
second one starts no word. -/
theorem together_splitWords_iff {before gap after : List Char} {c d : Char}
    (hc : c.isAlphanum = true) (hd : d.isAlphanum = true)
    (hgap : ∀ x ∈ gap, x.isAlphanum = false) :
    Together (splitWords (before ++ c :: (gap ++ d :: after))) (before.filter Char.isAlphanum) c d ↔
      gap = [] ∧ startsWord c d after = false := by
  -- the characters before only add to the words before, or to the start of the same word
  induction before with
  | nil =>
    rw [List.nil_append, List.filter_nil, ← continues_iff hd hgap,
      together_nil (ne_nil_of_mem_splitWords _), splitWords, if_neg (by simp [hc])]
    constructor
    · rintro ⟨v, later, hwords⟩
      by_cases hgoesOn : continues c (gap ++ d :: after) = true
      · exact hgoesOn
      · rw [if_neg hgoesOn] at hwords
        cases hwords
    · intro hgoesOn
      obtain ⟨rfl, -⟩ := (continues_iff hd hgap).1 hgoesOn
      obtain ⟨w, ws, hwords⟩ := splitWords_cons_of_isAlphanum hd after
      rw [if_pos hgoesOn, List.nil_append, hwords]
      exact ⟨w, ws, rfl⟩
  | cons b before ih =>
    rw [List.cons_append, splitWords]
    by_cases hb : b.isAlphanum = true
    · rw [if_neg (by simp [hb]), List.filter_cons_of_pos hb, ← ih]
      split
      · apply together_extendFirst
        intro hnil
        have hflatten := flatten_splitWords (before ++ c :: (gap ++ d :: after))
        rw [hnil, List.filter_append, List.filter_cons_of_pos hc] at hflatten
        simp at hflatten
      · exact together_singleton_cons
    · rw [if_pos (by simp [hb]), List.filter_cons_of_neg hb]
      exact ih

/-- Puts a blank between a small letter or a digit and a capital after it. Both are passed over. -/
def spaceCapitals : List Char → List Char
  | c :: d :: s =>
    if (c.isLower || c.isDigit) && d.isUpper then c :: ' ' :: d :: spaceCapitals s
    else c :: spaceCapitals (d :: s)
  | s => s

/-- Puts a blank before a capital that stands between a capital and a small letter. All three are
passed over. -/
def spaceAcronyms : List Char → List Char
  | c :: d :: e :: s =>
    if c.isUpper && d.isUpper && e.isLower then c :: ' ' :: d :: e :: spaceAcronyms s
    else c :: spaceAcronyms (d :: e :: s)
  | s => s

/-- The pieces of a text between the characters that are no letters or digits. -/
def cutAtSeparators (s : List Char) : List (List Char) :=
  (s.splitOnP fun c => !c.isAlphanum).filter (· ≠ [])

theorem not_isLower_or_isDigit {c : Char} (h : c.isUpper = true) :
    (c.isLower || c.isDigit) = false := by
  have hlower : c.isLower = false := not_isLower_of_isUpper h
  have hdigit : c.isDigit = false := by
    rw [Bool.eq_false_iff]
    intro hdigit
    have hfirst := (isUpper_iff.1 h).1
    have hlast : c.toNat ≤ 57 := (Char.isDigit_iff_toNat.1 hdigit).2
    omega
  rw [hlower, hdigit, Bool.or_false]

/-- Where a capital is passed over, no blank is missed. -/
theorem spaceCapitals_cons_of_isUpper {c : Char} (h : c.isUpper = true) (s : List Char) :
    spaceCapitals (c :: s) = c :: spaceCapitals s := by
  cases s with
  | nil => rfl
  | cons d s => simp [spaceCapitals, not_isLower_or_isDigit h]

theorem spaceCapitals_cons_cons (c d : Char) (s : List Char) :
    spaceCapitals (c :: d :: s) =
      if (c.isLower || c.isDigit) && d.isUpper then c :: ' ' :: spaceCapitals (d :: s)
      else c :: spaceCapitals (d :: s) := by
  rw [spaceCapitals]
  split
  · rename_i hboundary
    have hd : d.isUpper = true := (Bool.and_eq_true_iff.1 hboundary).2
    rw [spaceCapitals_cons_of_isUpper hd]
  · rfl

theorem head?_spaceCapitals (s : List Char) : (spaceCapitals s).head? = s.head? := by
  match s with
  | [] => rfl
  | [c] => rfl
  | c :: d :: s =>
    rw [spaceCapitals_cons_cons]
    split
    · rfl
    · rfl

theorem spaceAcronyms_cons_of_not_isUpper {c : Char} (h : c.isUpper = false) (s : List Char) :
    spaceAcronyms (c :: s) = c :: spaceAcronyms s := by
  match s with
  | [] => rfl
  | [d] => rfl
  | d :: e :: s => simp [spaceAcronyms, h]

theorem spaceAcronyms_cons_cons (c d : Char) (s : List Char) :
    spaceAcronyms (c :: d :: s) =
      if c.isUpper && d.isUpper && s.head?.any Char.isLower then c :: ' ' :: spaceAcronyms (d :: s)
      else c :: spaceAcronyms (d :: s) := by
  cases s with
  | nil => simp [spaceAcronyms]
  | cons e s =>
    rw [spaceAcronyms, List.head?_cons, Option.any_some]
    split
    · rename_i hboundary
      have he : e.isUpper = false := by
        have hlower : e.isLower = true := (Bool.and_eq_true_iff.1 hboundary).2
        exact not_isUpper_of_isLower hlower
      have hnext : spaceAcronyms (d :: e :: s) = d :: spaceAcronyms (e :: s) := by
        cases s with
        | nil => rfl
        | cons f s => simp [spaceAcronyms, he]
      rw [hnext, spaceAcronyms_cons_of_not_isUpper he]
    · rfl

/-- Both passes together put a blank wherever a word starts. -/
theorem spaceAcronyms_spaceCapitals (c d : Char) (s : List Char) :
    spaceAcronyms (spaceCapitals (c :: d :: s)) =
      if startsWord c d s then c :: ' ' :: spaceAcronyms (spaceCapitals (d :: s))
      else c :: spaceAcronyms (spaceCapitals (d :: s)) := by
  rw [spaceCapitals_cons_cons]
  by_cases hcapital : ((c.isLower || c.isDigit) && d.isUpper) = true
  · have hc : c.isUpper = false := by
      rw [Bool.eq_false_iff]
      intro hupper
      rw [not_isLower_or_isDigit hupper] at hcapital
      cases hcapital
    have hstarts : startsWord c d s = true := by rw [startsWord, hcapital, Bool.true_or]
    rw [if_pos hcapital, if_pos hstarts, spaceAcronyms_cons_of_not_isUpper hc,
      spaceAcronyms_cons_of_not_isUpper (by decide)]
  · have hstarts : startsWord c d s = (c.isUpper && d.isUpper && s.head?.any Char.isLower) := by
      rw [startsWord, Bool.eq_false_iff.2 hcapital, Bool.false_or]
    rw [if_neg hcapital, hstarts]
    by_cases hd : d.isUpper = true
    · rw [spaceCapitals_cons_of_isUpper hd, spaceAcronyms_cons_cons, head?_spaceCapitals]
    · rw [Bool.not_eq_true] at hd
      rw [if_neg (by simp [hd])]
      -- the first pass leaves the second character where it is
      obtain ⟨t, ht⟩ : ∃ t, spaceCapitals (d :: s) = d :: t := by
        have hhead := head?_spaceCapitals (d :: s)
        exact List.head?_eq_some_iff.1 hhead
      rw [ht, spaceAcronyms_cons_cons, if_neg (by simp [hd])]

theorem cutAtSeparators_cons_of_not_isAlphanum {c : Char} (hc : c.isAlphanum = false)
    (s : List Char) : cutAtSeparators (c :: s) = cutAtSeparators s := by
  simp [cutAtSeparators, List.splitOnP_cons_eq_if_modifyHead, hc]

/-- A letter or digit belongs to the piece of the one after it; before a separator it is a piece by
itself. -/
theorem cutAtSeparators_cons_of_isAlphanum {c : Char} (hc : c.isAlphanum = true) (s : List Char) :
    cutAtSeparators (c :: s) =
      if s.head?.any Char.isAlphanum then extendFirst c (cutAtSeparators s)
      else [c] :: cutAtSeparators s := by
  cases s with
  | nil => simp [cutAtSeparators, List.splitOnP_cons_eq_if_modifyHead, hc]
  | cons d s =>
    rw [List.head?_cons, Option.any_some]
    cases hd : d.isAlphanum with
    | true =>
      obtain ⟨first, others, hsplit⟩ :=
        List.exists_cons_of_ne_nil (List.splitOnP_ne_nil (fun c => !c.isAlphanum) s)
      simp [cutAtSeparators, List.splitOnP_cons_eq_if_modifyHead, hc, hd, hsplit, extendFirst]
    | false => simp [cutAtSeparators, List.splitOnP_cons_eq_if_modifyHead, hc, hd]

theorem head?_passes (s : List Char) : (spaceAcronyms (spaceCapitals s)).head? = s.head? := by
  match s with
  | [] => rfl
  | [c] => rfl
  | c :: d :: s =>
    rw [spaceAcronyms_spaceCapitals]
    split
    · rfl
    · rfl

/-- The pieces after both passes are the words. -/
theorem cutAtSeparators_passes (name : List Char) :
    cutAtSeparators (spaceAcronyms (spaceCapitals name)) = splitWords name := by
  induction name with
  | nil => rfl
  | cons c name ih =>
    rw [splitWords, ← ih]
    cases name with
    | nil =>
      have hpasses : spaceAcronyms (spaceCapitals [c]) = [c] := rfl
      rw [hpasses]
      cases hc : c.isAlphanum with
      | false => exact cutAtSeparators_cons_of_not_isAlphanum hc []
      | true => exact cutAtSeparators_cons_of_isAlphanum hc []
    | cons d s =>
      have hhead := head?_passes (d :: s)
      rw [spaceAcronyms_spaceCapitals]
      generalize spaceAcronyms (spaceCapitals (d :: s)) = passed at hhead
      cases hc : c.isAlphanum with
      | false =>
        have hstarts : startsWord c d s = false := by
          simp only [Char.isAlphanum, isAlpha_eq, Bool.or_eq_false_iff] at hc
          simp [startsWord, hc]
        rw [hstarts]
        exact cutAtSeparators_cons_of_not_isAlphanum hc passed
      | true =>
        cases hstarts : startsWord c d s with
        | true =>
          -- the blank ends the piece, as the next character would start a word
          have hblank := cutAtSeparators_cons_of_not_isAlphanum (c := ' ') (by decide) passed
          have hends : continues c (d :: s) = false := by simp [continues, hstarts]
          rw [if_pos rfl, cutAtSeparators_cons_of_isAlphanum hc, hblank, hends]
          rfl
        | false =>
          have hgoesOn : continues c (d :: s) = d.isAlphanum := by simp [continues, hstarts]
          rw [if_neg Bool.false_ne_true, cutAtSeparators_cons_of_isAlphanum hc, hhead, hgoesOn]
          rfl

theorem map_toList_words (name : String) : (words name).map String.toList = splitWords name.toList := by
  simp [words, Function.comp_def]

/-- No word is empty, and joined the words are the letters and digits of the name. Two letters or
digits with none between them are in one word exactly if they are neighbours, the second one is no
capital after a small letter or a digit, and it is no capital between a capital and a small letter.
The two passes and the cut find the same words. -/
theorem words_boundaries (name : String) :
    (∀ w ∈ words name, w ≠ "") ∧
    String.join (words name) = String.ofList (name.toList.filter Char.isAlphanum) ∧
    (∀ before c gap d after, name.toList = before ++ c :: (gap ++ d :: after) →
      c.isAlphanum = true → d.isAlphanum = true → (∀ x ∈ gap, x.isAlphanum = false) →
      (Together ((words name).map String.toList) (before.filter Char.isAlphanum) c d ↔
        gap = [] ∧ ¬((c.isLower = true ∨ c.isDigit = true) ∧ d.isUpper = true) ∧
          ¬(c.isUpper = true ∧ d.isUpper = true ∧ ∃ e ∈ after.head?, e.isLower = true))) ∧
    words name =
      (cutAtSeparators (spaceAcronyms (spaceCapitals name.toList))).map String.ofList := by
  refine ⟨?_, ?_, ?_, ?_⟩
  · intro w hw hempty
    have hmem : w.toList ∈ splitWords name.toList := by
      rw [← map_toList_words]
      exact List.mem_map_of_mem hw
    exact ne_nil_of_mem_splitWords name.toList w.toList hmem (by rw [hempty]; rfl)
  · rw [← String.toList_inj, String.toList_join, String.toList_ofList, ← flatten_splitWords,
      ← map_toList_words, List.flatMap_def]
  · intro before c gap d after hname hc hd hgap
    have hstarts : startsWord c d after = false ↔
        ¬((c.isLower = true ∨ c.isDigit = true) ∧ d.isUpper = true) ∧
          ¬(c.isUpper = true ∧ d.isUpper = true ∧ ∃ e ∈ after.head?, e.isLower = true) := by
      rw [← Bool.not_eq_true, ← not_or]
      simp [startsWord, Option.any_eq_true, and_assoc]
    rw [map_toList_words, hname, together_splitWords_iff hc hd hgap, hstarts]
  · rw [cutAtSeparators_passes]
    rfl

/-- A small letter and capitals on both sides of a gap, the last capital before small letters. -/
theorem words_boundaries_sample :
    words "aB__CDef" = ["a", "B", "C", "Def"] ∧
      Together ((words "aB__CDef").map String.toList) ['a', 'B', 'C'] 'D' 'e' ∧
      ¬Together ((words "aB__CDef").map String.toList) ['a', 'B'] 'C' 'D' ∧
      ¬Together ((words "aB__CDef").map String.toList) ['a'] 'B' 'C' := by
  obtain ⟨-, -, htogether, hpasses⟩ := words_boundaries "aB__CDef"
  have hsame := htogether ['a', 'B', '_', '_', 'C'] 'D' [] 'e' ['f'] rfl rfl rfl (by simp)
  have hacronym := htogether ['a', 'B', '_', '_'] 'C' [] 'D' ['e', 'f'] rfl rfl rfl (by simp)
  have hgap := htogether ['a'] 'B' ['_', '_'] 'C' ['D', 'e', 'f'] rfl rfl rfl
    (List.forall_mem_cons.2 ⟨rfl, List.forall_mem_cons.2 ⟨rfl, by simp⟩⟩)
  have hsmall : ¬ 'e'.isUpper = true := by decide
  refine ⟨hpasses.trans (by decide +kernel), ?_, ?_, ?_⟩
  · exact hsame.2 ⟨rfl, fun h => hsmall h.2, fun h => hsmall h.2.1⟩
  · intro h
    exact (hacronym.1 h).2.2 ⟨rfl, rfl, 'e', rfl, rfl⟩
  · intro h
    cases (hgap.1 h).1

end WidgetMarkup.Naming
