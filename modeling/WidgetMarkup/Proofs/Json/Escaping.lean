import WidgetMarkup.Build.Project
import WidgetMarkup.Json.Printer
import WidgetMarkup.Text.Numeral

/-!
# Strings in written documents

A string in a written document can be read back, whatever follows it: each escape shows the character
that it stands for, and none starts with the quote that ends the string. So the text of the document
of a source shows the name of the source.
-/
namespace WidgetMarkup.Json

/-- The character that a letter after a backslash stands for. -/
def escapedLetter (c : Char) : Char :=
  if c = 'n' then '\n'
  else if c = 'r' then '\r'
  else if c = 't' then '\t'
  else if c = 'b' then Char.ofNat 0x8
  else if c = 'f' then Char.ofNat 0xc
  else c

/-- The character that a text starts with, which may be escaped, and what follows it. -/
def unescape? : List Char → Option (Char × List Char)
  | '\\' :: 'u' :: a :: b :: c :: d :: s => some (Char.ofNat (Text.readHex [a, b, c, d]), s)
  | '\\' :: c :: s => some (escapedLetter c, s)
  | c :: s => some (c, s)
  | [] => none

theorem readHex_hexDigits : ∀ n < 0x20, (Text.hexDigits 4 n).length = 4 ∧
    Text.readHex (Text.hexDigits 4 n) = n := by
  decide +kernel

theorem unescape?_letter {c : Char} (h : c ≠ 'u') (s : List Char) :
    unescape? ('\\' :: c :: s) = some (escapedLetter c, s) := by
  unfold unescape?
  split
  · rename_i heq
    cases heq
    exact absurd rfl h
  · rename_i heq
    cases heq
    rfl
  · rename_i hnot heq
    cases heq
    exact (hnot _ _ rfl rfl).elim
  · rename_i heq
    cases heq

theorem unescape?_plain {c : Char} (h : c ≠ '\\') (s : List Char) :
    unescape? (c :: s) = some (c, s) := by
  unfold unescape?
  split
  · rename_i heq
    cases heq
    exact absurd rfl h
  · rename_i heq
    cases heq
    exact absurd rfl h
  · rename_i heq
    cases heq
    rfl
  · rename_i heq
    cases heq

theorem unescape?_escapeChar (c : Char) (s : List Char) :
    unescape? (escapeChar c ++ s) = some (c, s) := by
  unfold escapeChar
  split
  · rename_i hc
    simp only [Bool.or_eq_true, beq_iff_eq] at hc
    rcases hc with rfl | rfl
    · exact unescape?_letter (by decide) s
    · exact unescape?_letter (by decide) s
  · rename_i hquote
    simp only [Bool.or_eq_true, beq_iff_eq, not_or] at hquote
    split
    · rename_i hc
      rw [beq_iff_eq] at hc
      subst hc
      exact unescape?_letter (by decide) s
    split
    · rename_i hc
      rw [beq_iff_eq] at hc
      subst hc
      exact unescape?_letter (by decide) s
    split
    · rename_i hc
      rw [beq_iff_eq] at hc
      subst hc
      exact unescape?_letter (by decide) s
    split
    · rename_i hc
      rw [beq_iff_eq] at hc
      rw [← Char.ofNat_toNat c, hc]
      exact unescape?_letter (by decide) s
    split
    · rename_i hc
      rw [beq_iff_eq] at hc
      rw [← Char.ofNat_toNat c, hc]
      exact unescape?_letter (by decide) s
    split
    · rename_i hc
      obtain ⟨hlength, hread⟩ := readHex_hexDigits c.toNat hc
      match hdigits : Text.hexDigits 4 c.toNat, hlength with
      | [x, y, z, w], _ =>
        rw [hdigits] at hread
        have hc : Char.ofNat (Text.readHex [x, y, z, w]) = c := by rw [hread, Char.ofNat_toNat]
        simp only [List.cons_append, List.nil_append, unescape?, hc]
    · exact unescape?_plain hquote.2 s

theorem escapeChar_cancel {c c' : Char} {s s' : List Char}
    (h : escapeChar c ++ s = escapeChar c' ++ s') : c = c' ∧ s = s' := by
  have hread := congrArg unescape? h
  rw [unescape?_escapeChar, unescape?_escapeChar] at hread
  cases hread
  exact ⟨rfl, rfl⟩

theorem escapeChar_ne_quote (c : Char) (s t : List Char) : escapeChar c ++ s ≠ '"' :: t := by
  intro h
  have hread := congrArg unescape? h
  rw [unescape?_escapeChar, unescape?_plain (by decide)] at hread
  cases hread
  cases h

/-- A string that is written is followed by its quote in one way only. -/
theorem escaped_cancel {s s' t t' : List Char}
    (h : s.flatMap escapeChar ++ '"' :: t = s'.flatMap escapeChar ++ '"' :: t') : s = s' := by
  induction s generalizing s' with
  | nil =>
    cases s' with
    | nil => rfl
    | cons c s' =>
      rw [List.flatMap_cons, List.append_assoc] at h
      exact absurd h.symm (escapeChar_ne_quote c _ _)
  | cons c s ih =>
    rw [List.flatMap_cons, List.append_assoc] at h
    cases s' with
    | nil => exact absurd h (escapeChar_ne_quote c _ _)
    | cons c' s' =>
      rw [List.flatMap_cons, List.append_assoc] at h
      obtain ⟨rfl, hrest⟩ := escapeChar_cancel h
      rw [ih hrest]

/-- What a document starts with, up to the name of its source. -/
def documentStart (layout : Layout) : String :=
  "\x7b" ++ layout.break 1 ++ renderString "source" ++ ": "

theorem render_document (layout : Layout) (source : Path) (imports : List String)
    (r : Build.Result) :
    ∃ rest, render layout (Build.document source imports r) =
      documentStart layout ++ renderString source.name ++ rest := by
  have hitems : ∀ sep item items, ∃ rest, String.intercalate sep (item :: items) = item ++ rest := by
    intro sep item items
    cases items with
    | nil => exact ⟨"", by simp⟩
    | cons next items => exact ⟨sep ++ sep.intercalate (next :: items), by
        rw [String.intercalate_cons_cons, String.append_assoc]⟩
  simp only [render, Build.document, renderAt, renderFields, Layout.enclose, List.isEmpty_cons,
    Bool.false_eq_true, if_false]
  obtain ⟨rest, hrest⟩ := hitems (layout.separator (0 + 1)) (renderString "source" ++ ": " ++
    renderString source.name) _
  rw [hrest]
  exact ⟨rest ++ layout.break 0 ++ "\x7d", by simp only [documentStart, String.append_assoc]⟩

/-- The written document of a source shows its name. -/
theorem name_eq_of_render_eq {layout : Layout} {source source' : Path}
    {imports imports' : List String} {r r' : Build.Result}
    (h : render layout (Build.document source imports r) =
      render layout (Build.document source' imports' r')) : source.name = source'.name := by
  obtain ⟨rest, hrest⟩ := render_document layout source imports r
  obtain ⟨rest', hrest'⟩ := render_document layout source' imports' r'
  rw [hrest, hrest'] at h
  have hchars := congrArg String.toList h
  simp only [String.toList_append, renderString, String.toList_ofList, List.cons_append,
    List.append_assoc, List.nil_append] at hchars
  have hnames := List.append_cancel_left hchars
  injection hnames with _ hnames
  exact String.toList_inj.1 (escaped_cancel hnames)

end WidgetMarkup.Json
