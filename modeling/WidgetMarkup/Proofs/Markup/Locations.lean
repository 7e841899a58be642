import Mathlib.Data.List.DropRight
import WidgetMarkup.Markup.Reader
import WidgetMarkup.Proofs.Text.Lines

/-!
# Places and their locations

The line of a place counts the line feeds before it, and its column the characters since the last of
them. The line starts that are kept for a text say the same. So the location of a place lies within
the text: its line is one of the lines, and its column at most one past the end of that line.
-/
namespace WidgetMarkup.Markup

open Text (pieces)

/-- The characters since the last line feed. -/
def lastLine (s : List Char) : List Char :=
  s.rtakeWhile (· ≠ '\n')

/-- The location of the place that has a text before it. -/
def locationAfter (before : List Char) : Location :=
  ⟨before.count '\n' + 1, (lastLine before).length + 1⟩

theorem lastLine_of_not_mem {s : List Char} (h : '\n' ∉ s) : lastLine s = s := by
  rw [lastLine, List.rtakeWhile_eq_self_iff]
  exact Text.decide_ne_of_not_mem h

theorem lastLine_append {s : List Char} (h : '\n' ∉ s) (earlier : List Char) :
    lastLine (earlier ++ '\n' :: s) = s := by
  have hreverse : '\n' ∉ s.reverse := by rwa [List.mem_reverse]
  rw [lastLine, List.rtakeWhile, List.reverse_append, List.reverse_cons, List.append_assoc,
    Text.takeWhile_append_of_not_mem hreverse]
  simp

theorem exists_lastLine (s : List Char) :
    '\n' ∉ s ∨ ∃ earlier last, s = earlier ++ '\n' :: last ∧ '\n' ∉ last := by
  induction s with
  | nil => exact Or.inl (by simp)
  | cons c s ih =>
    rcases ih with hs | ⟨earlier, last, rfl, hlast⟩
    · by_cases hc : c = '\n'
      · exact Or.inr ⟨[], s, by rw [hc]; rfl, hs⟩
      · refine Or.inl fun hmem => ?_
        rcases List.mem_cons.1 hmem with heq | hmem
        · exact hc heq.symm
        · exact hs hmem
    · exact Or.inr ⟨c :: earlier, last, rfl, hlast⟩

theorem startsAfter_append (offset : Nat) (s t : List Char) :
    startsAfter offset (s ++ t) = startsAfter offset s ++ startsAfter (offset + s.length) t := by
  induction s generalizing offset with
  | nil => rfl
  | cons c s ih =>
    have hoffset : offset + (c :: s).length = offset + 1 + s.length := by
      rw [List.length_cons]
      omega
    rw [List.cons_append, startsAfter, startsAfter, ih, hoffset]
    split
    · rfl
    · rfl

theorem length_startsAfter (offset : Nat) (s : List Char) :
    (startsAfter offset s).length = s.count '\n' := by
  induction s generalizing offset with
  | nil => rfl
  | cons c s ih =>
    by_cases hc : c = '\n'
    · rw [startsAfter, if_pos hc, List.length_cons, ih, hc, List.count_cons_self]
    · rw [startsAfter, if_neg hc, ih, List.count_cons_of_ne hc]

theorem startsAfter_bounds {offset start : Nat} {s : List Char} (h : start ∈ startsAfter offset s) :
    offset < start ∧ start ≤ offset + s.length := by
  induction s generalizing offset with
  | nil => cases h
  | cons c s ih =>
    have hlength : (c :: s).length = s.length + 1 := rfl
    have hrest : start ∈ startsAfter (offset + 1) s →
        offset < start ∧ start ≤ offset + (c :: s).length := by
      intro hstart
      have hbounds := ih hstart
      omega
    rw [startsAfter] at h
    split at h
    · rcases List.mem_cons.1 h with heq | hstart
      · omega
      · exact hrest hstart
    · exact hrest h

/-- The lines that start no later than a place are the first one and those after the line feeds before
the place. -/
theorem countP_lineStarts (before rest : List Char) :
    (lineStarts (before ++ rest)).countP (fun (start : Nat) => (start : Int) ≤ before.length) =
      before.count '\n' + 1 := by
  have hbefore : (startsAfter 0 before).countP
      (fun (start : Nat) => decide ((start : Int) ≤ (before.length : Int))) = before.count '\n' := by
    rw [← length_startsAfter 0 before, List.countP_eq_length]
    intro start hstart
    have hbounds := startsAfter_bounds hstart
    rw [decide_eq_true_eq]
    omega
  have hrest : (startsAfter (0 + before.length) rest).countP
      (fun (start : Nat) => decide ((start : Int) ≤ (before.length : Int))) = 0 := by
    rw [List.countP_eq_zero]
    intro start hstart
    have hbounds := startsAfter_bounds hstart
    rw [decide_eq_true_eq]
    omega
  rw [lineStarts, startsAfter_append, List.countP_cons_of_pos (by simp), List.countP_append, hbefore,
    hrest]

theorem getElem?_lineStarts (before rest : List Char) :
    (lineStarts (before ++ rest))[before.count '\n']? =
      some (before.length - (lastLine before).length) := by
  rcases exists_lastLine before with hnone | ⟨earlier, last, rfl, hlast⟩
  · rw [lastLine_of_not_mem hnone, List.count_eq_zero.2 hnone, Nat.sub_self]
    rfl
  · have hstarts : lineStarts (earlier ++ '\n' :: last ++ rest) =
        (0 :: startsAfter 0 earlier) ++ (earlier.length + 1) ::
          startsAfter (earlier.length + 1) (last ++ rest) := by
      rw [lineStarts, List.append_assoc, startsAfter_append, List.cons_append, startsAfter,
        if_pos rfl, Nat.zero_add]
      rfl
    have hcount : (earlier ++ '\n' :: last).count '\n' = (0 :: startsAfter 0 earlier).length := by
      rw [List.count_append, List.count_cons_self, List.count_eq_zero.2 hlast, List.length_cons,
        length_startsAfter]
    rw [hstarts, hcount, List.getElem?_append_right (Nat.le_refl _), Nat.sub_self,
      lastLine_append hlast, List.length_append, List.length_cons]
    simp only [List.getElem?_cons_zero, Option.some.injEq]
    omega

theorem length_lastLine_le (s : List Char) : (lastLine s).length ≤ s.length :=
  (List.rtakeWhile_suffix _ s).length_le

theorem locate_length (before rest : List Char) :
    locate (lineStarts (before ++ rest)) before.length = locationAfter before := by
  have hle := length_lastLine_le before
  have hindex : ((before.count '\n' + 1 : Nat) : Int) - 1 = (before.count '\n' : Nat) := by omega
  have hstart : lineStart? (lineStarts (before ++ rest))
      (((before.count '\n' + 1 : Nat) : Int) - 1) =
        some (before.length - (lastLine before).length) := by
    rw [hindex, lineStart?, if_pos (by omega), Int.toNat_natCast, getElem?_lineStarts]
  simp only [locate, countP_lineStarts, hstart, Option.getD_some, locationAfter,
    Location.mk.injEq]
  omega

theorem locationLeft_append (before rest : List Char) :
    locationLeft (before ++ rest) rest = locationAfter before := by
  have hoffset : (before ++ rest).length - rest.length = before.length := by
    rw [List.length_append]
    omega
  rw [locationLeft]
  dsimp only
  rw [hoffset, locate_length]

theorem head?_pieces_append {s : List Char} (h : '\n' ∉ s) (rest : List Char) :
    (pieces '\n' (s ++ rest)).head? = some (s ++ rest.takeWhile (· ≠ '\n')) := by
  rw [Text.head?_pieces, Text.takeWhile_append_of_not_mem h]

/-- The line of a place goes from the last line feed before it to the next one. -/
theorem getElem?_pieces (before rest : List Char) :
    (pieces '\n' (before ++ rest))[before.count '\n']? =
      some (lastLine before ++ rest.takeWhile (· ≠ '\n')) := by
  rcases exists_lastLine before with hnone | ⟨earlier, last, rfl, hlast⟩
  · rw [lastLine_of_not_mem hnone, List.count_eq_zero.2 hnone, ← List.head?_eq_getElem?]
    exact head?_pieces_append hnone rest
  · have hcount : (earlier ++ '\n' :: last).count '\n' = (pieces '\n' earlier).length := by
      rw [Text.length_pieces, List.count_append, List.count_cons_self,
        List.count_eq_zero.2 hlast]
    rw [hcount, lastLine_append hlast, List.append_assoc, List.cons_append,
      Text.pieces_append_cons, List.getElem?_append_right (Nat.le_refl _), Nat.sub_self,
      ← List.head?_eq_getElem?]
    exact head?_pieces_append hlast rest

/-- A location lies within a text: on one of its lines, or right after the end of that line. -/
def Location.Within (l : Location) (source : List Char) : Prop :=
  1 ≤ l.line ∧ l.line ≤ (pieces '\n' source).length ∧ 1 ≤ l.column ∧
    ∃ line, (pieces '\n' source)[(l.line - 1).toNat]? = some line ∧ l.column ≤ line.length + 1

theorem locationAfter_within (before rest : List Char) :
    (locationAfter before).Within (before ++ rest) := by
  have hindex : ((locationAfter before).line - 1).toNat = before.count '\n' := by
    simp only [locationAfter]
    omega
  refine ⟨?_, ?_, ?_, lastLine before ++ rest.takeWhile (· ≠ '\n'), ?_, ?_⟩
  · simp only [locationAfter]
    omega
  · rw [Text.length_pieces, List.count_append]
    simp only [locationAfter]
    omega
  · simp only [locationAfter]
    omega
  · rw [hindex, getElem?_pieces]
  · rw [List.length_append]
    simp only [locationAfter]
    omega

end WidgetMarkup.Markup
