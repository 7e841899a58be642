import Mathlib.Data.List.DropRight
import WidgetMarkup.Text.Blank
import WidgetMarkup.Text.Pieces

/-!
# Lines and their ends

Lines that are put together with a separator are the pieces that the text is cut into again, and
trimming a line changes nothing exactly if neither of its ends is blank.
-/
namespace WidgetMarkup.Text

variable {separator : Char} {s t : List Char}

theorem pieces_ne_nil (separator : Char) (s : List Char) : pieces separator s ≠ [] := by
  cases s with
  | nil => simp [pieces]
  | cons c s =>
    rw [pieces]
    split
    · simp
    · split <;> simp

theorem pieces_cons_of_ne {c : Char} (hc : c ≠ separator) {first : List Char}
    {others : List (List Char)} (h : pieces separator s = first :: others) :
    pieces separator (c :: s) = (c :: first) :: others := by
  rw [pieces, if_neg hc, h]

theorem pieces_append_cons (s t : List Char) :
    pieces separator (s ++ separator :: t) = pieces separator s ++ pieces separator t := by
  induction s with
  | nil => simp [pieces]
  | cons c s ih =>
    rw [List.cons_append]
    by_cases hc : c = separator
    · rw [pieces, pieces, if_pos hc, if_pos hc, ih]
      rfl
    · cases hs : pieces separator s with
      | nil => exact absurd hs (pieces_ne_nil separator s)
      | cons first others =>
        rw [hs, List.cons_append] at ih
        rw [pieces_cons_of_ne hc hs, pieces_cons_of_ne hc ih]
        rfl

theorem length_pieces (s : List Char) : (pieces separator s).length = s.count separator + 1 := by
  induction s with
  | nil => rfl
  | cons c s ih =>
    by_cases hc : c = separator
    · rw [pieces, if_pos hc, List.length_cons, ih, hc, List.count_cons_self]
    · cases hs : pieces separator s with
      | nil => exact absurd hs (pieces_ne_nil separator s)
      | cons first others =>
        rw [hs] at ih
        rw [pieces_cons_of_ne hc hs, List.count_cons_of_ne hc, ← ih]
        rfl

theorem head?_pieces (s : List Char) :
    (pieces separator s).head? = some (s.takeWhile (· ≠ separator)) := by
  induction s with
  | nil => rfl
  | cons c s ih =>
    by_cases hc : c = separator
    · rw [pieces, if_pos hc, List.takeWhile_cons_of_neg (by simpa using hc)]
      rfl
    · cases hs : pieces separator s with
      | nil => exact absurd hs (pieces_ne_nil separator s)
      | cons first others =>
        rw [hs, List.head?_cons, Option.some.injEq] at ih
        rw [pieces_cons_of_ne hc hs, List.takeWhile_cons_of_pos (by simpa using hc), ← ih]
        rfl

theorem decide_ne_of_not_mem (h : separator ∉ s) : ∀ c ∈ s, decide (c ≠ separator) = true := by
  intro c hc
  rw [decide_eq_true_eq]
  exact fun heq => h (heq ▸ hc)

/-- The first piece goes through a text without separators. -/
theorem takeWhile_append_of_not_mem (h : separator ∉ s) :
    (s ++ t).takeWhile (· ≠ separator) = s ++ t.takeWhile (· ≠ separator) :=
  List.takeWhile_append_of_pos (decide_ne_of_not_mem h)

theorem pieces_of_not_mem (h : separator ∉ s) : pieces separator s = [s] := by
  induction s with
  | nil => rfl
  | cons c s ih =>
    have hc : c ≠ separator := (List.ne_of_not_mem_cons h).symm
    rw [pieces, if_neg hc, ih (List.not_mem_of_not_mem_cons h)]

theorem pieces_append (h : separator ∉ s) :
    pieces separator (s ++ separator :: t) = s :: pieces separator t := by
  rw [pieces_append_cons, pieces_of_not_mem h]
  rfl

theorem pieces_intercalate {lines : List (List Char)} (hne : lines ≠ [])
    (h : ∀ line ∈ lines, separator ∉ line) :
    pieces separator ([separator].intercalate lines) = lines := by
  induction lines with
  | nil => exact absurd rfl hne
  | cons line lines ih =>
    have hline := h line List.mem_cons_self
    cases lines with
    | nil => rw [List.intercalate_singleton, pieces_of_not_mem hline]
    | cons next lines =>
      have hrest := ih (List.cons_ne_nil _ _) fun l hl => h l (List.mem_cons_of_mem _ hl)
      rw [List.intercalate_cons_cons, List.append_assoc, List.singleton_append,
        pieces_append hline, hrest]

theorem mem_intercalate {c : Char} {lines : List (List Char)}
    (h : c ∈ [separator].intercalate lines) : c = separator ∨ ∃ line ∈ lines, c ∈ line := by
  induction lines with
  | nil => simp at h
  | cons line lines ih =>
    cases lines with
    | nil =>
      rw [List.intercalate_singleton] at h
      exact Or.inr ⟨line, List.mem_cons_self, h⟩
    | cons next lines =>
      rw [List.intercalate_cons_cons, List.mem_append, List.mem_append, List.mem_singleton] at h
      rcases h with (h | h) | h
      · exact Or.inr ⟨line, List.mem_cons_self, h⟩
      · exact Or.inl h
      · rcases ih h with hc | ⟨l, hl, hc⟩
        · exact Or.inl hc
        · exact Or.inr ⟨l, List.mem_cons_of_mem _ hl, hc⟩

theorem trim_eq_nil_iff : trim s = [] ↔ ∀ c ∈ s, isBlank c = true := by
  rw [trim, trimEnd, List.reverse_eq_nil_iff, List.dropWhile_eq_nil_iff]
  simp only [List.mem_reverse]
  constructor
  · intro h
    -- the first character that is left would be blank
    have hnone : s.dropWhile isBlank = [] := by
      have hagain := List.dropWhile_idempotent isBlank s
      rwa [List.dropWhile_eq_nil_iff.2 h, eq_comm] at hagain
    exact List.dropWhile_eq_nil_iff.1 hnone
  · intro h c hc
    exact h c ((List.dropWhile_suffix isBlank).subset hc)

theorem dropWhile_eq_self_of_head? {p : Char → Bool} (h : ∀ c ∈ s.head?, p c = false) :
    s.dropWhile p = s := by
  cases s with
  | nil => rfl
  | cons c s => exact List.dropWhile_cons_of_neg (by simp [h c rfl])

theorem head?_of_dropWhile_eq_self {p : Char → Bool} (h : s.dropWhile p = s) :
    ∀ c ∈ s.head?, p c = false := by
  intro c hc
  have hnot := List.head?_dropWhile_not p s
  rw [h, Option.mem_def.1 hc] at hnot
  exact hnot

/-- Trimming leaves a text alone exactly if it neither starts nor ends with a blank. -/
theorem trim_eq_self_iff : trim s = s ↔
    (∀ c ∈ s.head?, isBlank c = false) ∧ ∀ c ∈ s.getLast?, isBlank c = false := by
  constructor
  · intro h
    have hfront := (List.dropWhile_suffix (l := s) isBlank).length_le
    have hback := (List.dropWhile_suffix (l := (s.dropWhile isBlank).reverse) isBlank).length_le
    have hlength := congrArg List.length h
    rw [trim, trimEnd, List.length_reverse] at hlength
    rw [List.length_reverse] at hback
    have hdrop : s.dropWhile isBlank = s :=
      (List.dropWhile_suffix isBlank).eq_of_length (by omega)
    have hdropEnd : s.reverse.dropWhile isBlank = s.reverse := by
      refine (List.dropWhile_suffix isBlank).eq_of_length ?_
      rw [hdrop] at hlength
      rw [hlength, List.length_reverse]
    refine ⟨head?_of_dropWhile_eq_self hdrop, ?_⟩
    rw [← List.head?_reverse]
    exact head?_of_dropWhile_eq_self hdropEnd
  · rintro ⟨hfirst, hlast⟩
    rw [← List.head?_reverse] at hlast
    rw [trim, trimEnd, dropWhile_eq_self_of_head? hfirst, dropWhile_eq_self_of_head? hlast,
      List.reverse_reverse]

end WidgetMarkup.Text
