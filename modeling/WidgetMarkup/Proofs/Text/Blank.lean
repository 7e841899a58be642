import WidgetMarkup.Text.Blank
import WidgetMarkup.Text.Word

/-!
# Blanks are not word characters

The two classes come from different tables, so that this is a fact about the tables: none of the
ranges of word characters meets one of the blanks.
-/
namespace WidgetMarkup.Text

/-- The blanks from code point 0x80 on. -/
def blankRanges : List CodeRange :=
  [(0x85, 0x85), (0xa0, 0xa0), (0x1680, 0x1680), (0x2000, 0x200a), (0x2028, 0x2029),
    (0x202f, 0x202f), (0x205f, 0x205f), (0x3000, 0x3000)]

theorem covers_of_isBlank {c : Char} (h : isBlank c = true) (hc : 0x80 ≤ c.toNat) :
    CodeRange.covers blankRanges c = true := by
  simp only [isBlank, Bool.or_eq_true, Bool.and_eq_true, decide_eq_true_eq, beq_iff_eq] at h
  simp only [CodeRange.covers, blankRanges, CodeRange.contains, List.any_cons, List.any_nil,
    Bool.or_eq_true, Bool.and_eq_true, decide_eq_true_eq]
  omega

/-- Tables of ranges that do not meet have no character in common. -/
theorem not_covers_of_disjoint {t u : List CodeRange} {c : Char}
    (h : t.all (fun r => u.all fun q => r.2 < q.1 || q.2 < r.1) = true)
    (hc : CodeRange.covers t c = true) : CodeRange.covers u c = false := by
  obtain ⟨r, hr, hrc⟩ := List.any_eq_true.1 hc
  refine List.any_eq_false.2 fun q hq hqc => ?_
  have hd := List.all_eq_true.1 (List.all_eq_true.1 h r hr) q hq
  simp only [CodeRange.contains, Bool.and_eq_true, decide_eq_true_eq, Bool.or_eq_true] at hrc hqc hd
  omega

theorem isWordChar_of_isBlank {c : Char} (h : isBlank c = true) : isWordChar c = false := by
  unfold isWordChar
  split
  · rename_i hc
    simp only [isBlank, Bool.or_eq_true, Bool.and_eq_true, decide_eq_true_eq, beq_iff_eq] at h
    have hlow : ∀ n < 0x21, ((Char.ofNat n).isAlphanum || Char.ofNat n == '_') = false := by decide
    have hn := hlow c.toNat (by omega)
    rwa [Char.ofNat_toNat] at hn
  · exact not_covers_of_disjoint (by decide +kernel) (covers_of_isBlank h (by omega))

end WidgetMarkup.Text
