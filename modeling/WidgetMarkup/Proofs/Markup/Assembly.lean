import WidgetMarkup.Markup.Reader
import WidgetMarkup.Proofs.Markup.TokenReading

/-!
# Reading on

Scanning and assembling go together: from what has been assembled and the text that is left, one
token is read and taken in, and so on to the end of the text. The equations below say so, and proofs
about whole documents follow the text with them instead of a list of tokens made beforehand.

Of the attributes written in a tag, the first of each name is kept.
-/
namespace WidgetMarkup.Markup

/-- The attributes of a list, without those whose name has occurred before. -/
def firstOccurrences : List (String × String) → List (String × Option String)
  | [] => []
  | (name, value) :: l => (name, some value) :: (firstOccurrences l).filter (·.1 ≠ name)

theorem entries_foldl_insertNew (l : List (String × String)) (a : Attributes) :
    (l.foldl (fun a e => a.insertNew e.1 (some e.2)) a).entries =
      a.entries ++ (firstOccurrences l).filter (fun e => !a.contains e.1) := by
  induction l generalizing a with
  | nil => simp [firstOccurrences]
  | cons e l ih =>
    obtain ⟨name, value⟩ := e
    rw [List.foldl_cons, ih, firstOccurrences, List.filter_cons, List.filter_filter]
    by_cases h : a.contains name = true
    · have hins : a.insertNew name (some value) = a := by simp [Attributes.insertNew, h]
      rw [hins, h]
      -- a name that is there already leaves no trace, so neither do its later occurrences
      have hsame : ∀ e : String × Option String,
          (!a.contains e.1 && decide (e.1 ≠ name)) = !a.contains e.1 := by
        intro e
        by_cases he : e.1 = name
        · simp [he, h]
        · simp [he]
      simp only [hsame]
      rfl
    · rw [Bool.not_eq_true] at h
      have hins : (a.insertNew name (some value)).entries = a.entries ++ [(name, some value)] := by
        simp [Attributes.insertNew, h]
      have hcontains : ∀ n, (a.insertNew name (some value)).contains n =
          (a.contains n || decide (n = name)) := by
        intro n
        rw [Bool.eq_iff_iff]
        simp [Attributes.contains, Attributes.names, hins]
      rw [hins, h, List.append_assoc]
      simp [hcontains]

theorem entries_ofWritten (l : List (String × String)) :
    (Attributes.ofWritten l).entries = firstOccurrences l := by
  rw [Attributes.ofWritten, entries_foldl_insertNew]
  simp [Attributes.contains, Attributes.names]

theorem firstOccurrences_of_nodup {l : List (String × String)} (h : (l.map (·.1)).Nodup) :
    firstOccurrences l = l.map fun e => (e.1, some e.2) := by
  induction l with
  | nil => rfl
  | cons e l ih =>
    rw [List.map_cons, List.nodup_cons] at h
    rw [firstOccurrences, ih h.2, List.map_cons, List.filter_eq_self.2]
    intro e' he'
    obtain ⟨e'', he'', rfl⟩ := List.mem_map.1 he'
    have hne : e''.1 ≠ e.1 := fun heq => h.1 (heq ▸ List.mem_map_of_mem he'')
    simpa using hne

theorem scan_token {s rest : List Char} {token : Token} (hs : s ≠ [])
    (h : Token.read s = .ok (token, rest)) :
    scan s = ⟨⟨token, s, rest⟩ :: (scan rest).spans, (scan rest).stop⟩ := by
  rw [scan, dif_neg hs]
  split
  · rename_i heq
    rw [h] at heq
    cases heq
  · rename_i heq
    rw [h] at heq
    cases heq
    rfl

namespace Progress

variable (location : List Char → Location)

/-- Reads the text that is left. -/
def readOn (p : Progress) (s : List Char) : Except ReadError (List Element) :=
  p.run location (scan s).spans (scan s).stop

theorem readOn_nil (p : Progress) : p.readOn location [] = p.finish := by
  rw [readOn, scan]
  rfl

variable {location}

theorem readOn_error {p : Progress} {s : List Char} {e : ReadError} (hs : s ≠ [])
    (h : Token.read s = .error e) : p.readOn location s = .error e := by
  have hscan : scan s = ⟨[], some e⟩ := by
    rw [scan, dif_neg hs]
    split
    · rename_i heq
      rw [h] at heq
      cases heq
      rfl
    · rename_i heq
      rw [h] at heq
      cases heq
  rw [readOn, hscan]
  rfl

theorem readOn_token {p : Progress} {s rest : List Char} {token : Token} (hs : s ≠ [])
    (h : Token.read s = .ok (token, rest)) :
    p.readOn location s =
      (p.step location ⟨token, s, rest⟩).bind fun p => p.readOn location rest := by
  rw [readOn, scan_token hs h]
  rfl

theorem readOn_written {p : Progress} {token : Token} {piece rest : List Char}
    (h : token.Written piece) (he : token.EndsBefore rest) :
    p.readOn location (piece ++ rest) =
      (p.step location ⟨token, piece ++ rest, rest⟩).bind fun p => p.readOn location rest := by
  refine readOn_token ?_ (h.read he)
  intro hnil
  exact h.ne_nil (List.append_eq_nil_iff.1 hnil).1

end Progress

theorem readChars_eq (source : List Char) :
    readChars source = ({} : Progress).readOn (locationLeft source) source :=
  rfl

end WidgetMarkup.Markup
