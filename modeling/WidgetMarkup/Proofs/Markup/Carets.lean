import WidgetMarkup.Proofs.Markup.Concatenation

/-!
# Offsets, locations and carets

Offsets and locations are two names for the same places. A location is found in the table of line
starts and leads back to its offset, and a later place has a later location. A report shows the line
of its place as it stands in the text, and below it a caret: under the character at the place, or
right after the line where the line or the text ends.
-/
namespace WidgetMarkup.Markup

open Text (pieces)

/-- The lines that start no later than a place are the first ones of the table. -/
theorem lineStarts_le_iff (before rest : List Char) {i start : Nat}
    (h : (lineStarts (before ++ rest))[i]? = some start) :
    start ≤ before.length ↔ i < before.count '\n' + 1 := by
  have htable : lineStarts (before ++ rest) =
      lineStarts before ++ startsAfter before.length rest := by
    rw [lineStarts, lineStarts, startsAfter_append, Nat.zero_add, List.cons_append]
  have hlength : (lineStarts before).length = before.count '\n' + 1 := by
    rw [lineStarts, List.length_cons, length_startsAfter]
  rw [htable] at h
  -- the part of the table before the place has as many entries as there are lines up to it
  by_cases hi : i < (lineStarts before).length
  · rw [List.getElem?_append_left hi] at h
    have hstart : start ≤ before.length := by
      rcases List.mem_cons.1 (List.mem_of_getElem? h) with rfl | hlater
      · exact Nat.zero_le _
      · have hbounds := startsAfter_bounds hlater
        omega
    exact iff_of_true hstart (hlength ▸ hi)
  · rw [List.getElem?_append_right (Nat.le_of_not_lt hi)] at h
    have hbounds := startsAfter_bounds (List.mem_of_getElem? h)
    omega

/-- A location is before another one: on an earlier line, or on the same line in an earlier column. -/
def Location.Before (l l' : Location) : Prop :=
  Prod.Lex (· < ·) (· < ·) (l.line, l.column) (l'.line, l'.column)

theorem locationAfter_before {between : List Char} (h : between ≠ []) (before : List Char) :
    (locationAfter before).Before (locationAfter (before ++ between)) := by
  rw [Location.Before, Prod.lex_def]
  simp only [locationAfter, List.count_append]
  -- a line feed in between leads to a later line; without one the line gets longer
  by_cases hline : '\n' ∈ between
  · have hpos := List.count_pos_iff.2 hline
    left
    omega
  · have hpos := List.length_pos_iff.2 h
    right
    rw [List.count_eq_zero.2 hline, lastLine_lengthened hline, List.length_append]
    omega

theorem lineFeed_not_mem_lastLine (before : List Char) : '\n' ∉ lastLine before := by
  intro hmem
  have hkept := List.mem_rtakeWhile_imp hmem
  simp at hkept

theorem lineStart?_count (before rest : List Char) :
    lineStart? (lineStarts (before ++ rest)) ((locationAfter before).line - 1) =
      some (before.length - (lastLine before).length) := by
  have hindex : (locationAfter before).line - 1 = (before.count '\n' : Nat) := by
    simp only [locationAfter]
    omega
  rw [hindex, lineStart?, if_pos (by omega), Int.toNat_natCast, getElem?_lineStarts]

/-- The line at a line start goes on through the place to the next line feed. -/
theorem lineAt_lastLine (before rest : List Char) :
    lineAt (before ++ rest) (before.length - (lastLine before).length) =
      lastLine before ++ rest.takeWhile (· ≠ '\n') := by
  obtain ⟨earlier, hearlier⟩ : lastLine before <:+ before := List.rtakeWhile_suffix _ _
  have hlength : before.length - (lastLine before).length = earlier.length := by
    rw [← congrArg List.length hearlier, List.length_append, Nat.add_sub_cancel]
  have hdrop : (before ++ rest).drop earlier.length = lastLine before ++ rest := by
    conv_lhs => rw [← hearlier, List.append_assoc]
    exact List.drop_left
  rw [lineAt, hlength, hdrop,
    Text.takeWhile_append_of_not_mem (lineFeed_not_mem_lastLine before)]

/-- The text of a report up to the caret: what is wrong, the location, and a line of text. -/
def shownLines (message : String) (l : Location) (context : List Char) : String :=
  s!"\n{message}\nLine {l.line}, column {l.column}\nContext: {String.ofList context}"

/-- The text of a report, with the caret below the character of the shown line that has an index. -/
def caretMessage (message : String) (l : Location) (context : List Char) (index : Nat) : String :=
  shownLines message l context ++ "\n" ++
    String.ofList (List.replicate ("Context: ".length + index) ' ') ++ "^"

theorem append_indent (shown : String) (index : Nat) :
    shown ++ "\n         " ++ String.ofList (List.replicate index ' ') =
      shown ++ "\n" ++ String.ofList (List.replicate ("Context: ".length + index) ' ') := by
  have hindent : String.ofList (List.replicate ("Context: ".length + index) ' ') =
      "         " ++ String.ofList (List.replicate index ' ') := by
    rw [← List.replicate_append_replicate, String.ofList_append]
    rfl
  have hlineFeed : "\n         " = "\n" ++ "         " := rfl
  rw [hindent, hlineFeed]
  simp only [String.append_assoc]

theorem reportAt_append (before rest : List Char) {offset : Int}
    (h : min offset (before ++ rest).length = before.length) (message : String) :
    reportAt (before ++ rest) offset message =
      ⟨caretMessage message (locationAfter before) (lastLine before ++ rest.takeWhile (· ≠ '\n'))
        (lastLine before).length, locationAfter before⟩ := by
  have hcolumn : ((locationAfter before).column - 1).toNat = (lastLine before).length := by
    simp only [locationAfter]
    omega
  simp only [reportAt, h, locate_length, lineStart?_count, Option.getD_some, lineAt_lastLine, hcolumn]
  rw [caretMessage, ← append_indent]
  rfl

/-- A report shows an offset of a text. Its location is that of the offset, the shown line is the piece
of the text on that line, and the caret is below the character at the offset, or right after the line
if the line ends there. -/
structure Report.Shows (r : Report) (source : List Char) (message : String) (offset : Nat)
    (context : List Char) (index : Nat) : Prop where
  location_eq : r.location = locate (lineStarts source) offset
  piece : (pieces '\n' source)[(r.location.line - 1).toNat]? = some context
  place : ∃ before after, source = before ++ (context ++ after) ∧ before.length + index = offset
  index_le : index ≤ context.length
  under : context[index]? = source[offset]?.filter (· ≠ '\n')
  message_eq : r.message = caretMessage message r.location context index

theorem reportAt_shows (before rest : List Char) {offset : Int}
    (h : min offset (before ++ rest).length = before.length) (message : String) :
    (reportAt (before ++ rest) offset message).Shows (before ++ rest) message before.length
      (lastLine before ++ rest.takeWhile (· ≠ '\n')) (lastLine before).length := by
  obtain ⟨earlier, hearlier⟩ : lastLine before <:+ before := List.rtakeWhile_suffix _ _
  have hindex : ((locationAfter before).line - 1).toNat = before.count '\n' := by
    simp only [locationAfter]
    omega
  rw [reportAt_append before rest h message]
  exact {
    location_eq := (locate_length before rest).symm
    piece := by rw [hindex, getElem?_pieces]
    place := by
      refine ⟨earlier, rest.dropWhile (· ≠ '\n'), ?_, ?_⟩
      · rw [List.append_assoc, List.takeWhile_append_dropWhile, ← List.append_assoc, hearlier]
      · rw [← List.length_append, hearlier]
    index_le := by
      rw [List.length_append]
      omega
    under := by
      rw [List.getElem?_append_right (Nat.le_refl _), List.getElem?_append_right (Nat.le_refl _),
        Nat.sub_self, Nat.sub_self, ← List.head?_eq_getElem?, ← List.head?_eq_getElem?,
        List.head?_takeWhile]
    message_eq := rfl }

/-- Every offset of a text has the location that the line feeds before it give, which is found in the
table of line starts and leads back to the offset; later offsets have later locations. A report for
an offset shows that offset, or the end of the text if it is past the end. -/
theorem locate_reportAt (source : List Char) :
    (∀ o ≤ source.length, locate (lineStarts source) o = locationAfter (source.take o) ∧
      (∀ i start : Nat, (lineStarts source)[i]? = some start →
        (start ≤ o ↔ (i : Int) < (locate (lineStarts source) o).line)) ∧
      offsetOf? (lineStarts source) (locate (lineStarts source) o) = some (o : Int)) ∧
    (∀ o o', o < o' → o' ≤ source.length →
      (locate (lineStarts source) o).Before (locate (lineStarts source) o')) ∧
    ∀ (offset : Nat) (message : String), ∃ context index,
      (reportAt source offset message).Shows source message (min offset source.length) context
        index := by
  have hlocate : ∀ o ≤ source.length,
      locate (lineStarts source) o = locationAfter (source.take o) := by
    intro o ho
    have hfound := locate_length (source.take o) (source.drop o)
    rwa [List.take_append_drop, List.length_take_of_le ho] at hfound
  refine ⟨fun o ho => ⟨hlocate o ho, ?_, offsetOf?_locate List.mem_cons_self⟩, ?_, ?_⟩
  · intro i start hstart
    rw [← List.take_append_drop o source] at hstart
    have hline := lineStarts_le_iff _ _ hstart
    rw [List.length_take_of_le ho] at hline
    rw [hline, hlocate o ho]
    simp only [locationAfter]
    omega
  · intro o o' hlt hle
    have hsplit : source.take o' = source.take o ++ (source.drop o).take (o' - o) := by
      rw [← List.take_add, Nat.add_sub_cancel' (Nat.le_of_lt hlt)]
    rw [hlocate o (by omega), hlocate o' hle, hsplit]
    apply locationAfter_before
    apply List.ne_nil_of_length_pos
    rw [List.length_take, List.length_drop]
    omega
  · intro offset message
    have hlength : (source.take offset).length = min offset source.length := List.length_take
    have hclamped : min (offset : Int) (source.take offset ++ source.drop offset).length =
        (source.take offset).length := by
      rw [List.take_append_drop, hlength]
      omega
    have hshows := reportAt_shows _ _ hclamped message
    rw [List.take_append_drop, hlength] at hshows
    exact ⟨_, _, hshows⟩

/-- An empty line and a line that the text ends with, and a report past the end. -/
theorem locate_reportAt_lastLine :
    locate (lineStarts "x\n\nab".toList) 4 = ⟨3, 2⟩ ∧
      offsetOf? (lineStarts "x\n\nab".toList) ⟨3, 2⟩ = some 4 ∧
      (locate (lineStarts "x\n\nab".toList) 2).Before ⟨3, 2⟩ ∧
      ∃ context index,
        (reportAt "x\n\nab".toList 9 "m").Shows "x\n\nab".toList "m" 5 context index := by
  obtain ⟨hoffsets, horder, hreports⟩ := locate_reportAt "x\n\nab".toList
  obtain ⟨hlocation, -, hoffset⟩ := hoffsets 4 (by decide)
  have hbefore := horder 2 4 (by decide) (by decide)
  have hfound : locate (lineStarts "x\n\nab".toList) (4 : Nat) = ⟨3, 2⟩ :=
    hlocation.trans (by decide +kernel)
  rw [hfound] at hoffset hbefore
  exact ⟨hfound, hoffset, hbefore, hreports 9 "m"⟩

end WidgetMarkup.Markup
