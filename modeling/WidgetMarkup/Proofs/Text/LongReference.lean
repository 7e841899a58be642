import WidgetMarkup.Text.Reference

/-!
# When references can be decoded

Decoding fails in one case only: somewhere in the text an ampersand and a number sign are followed
by more decimal digits than a numeral may have. It does not matter what stands before them, since no
reference that is decoded has an ampersand in it, so that none swallows the start of another.
-/
namespace WidgetMarkup.Text

/-- An ampersand, a number sign and too many digits occur in a text. -/
def LongReference (s : List Char) : Prop :=
  ∃ digits, digitLimit < digits.length ∧ (∀ c ∈ digits, c.isDigit = true) ∧
    '&' :: '#' :: digits <:+: s

theorem readNumeral_ok_iff {s : List Char} :
    (∃ n, readNumeral s = .ok n) ↔ s.length ≤ digitLimit := by
  rw [readNumeral]
  split
  · rename_i h
    exact ⟨fun _ => h, fun _ => ⟨_, rfl⟩⟩
  · rename_i h
    constructor
    · rintro ⟨n, hn⟩
      cases hn
    · intro hle
      exact absurd hle h

theorem mem_bytes_of_ampersand {s : String} (h : '&' ∈ s.toList) :
    38 ∈ s.toByteArray.data.toList := by
  rw [← String.utf8Encode_toList, List.utf8Encode, List.data_toByteArray, List.mem_flatMap]
  exact ⟨'&', h, by decide⟩

namespace ReferenceName

-- The bytes of a name are compared, since they are found faster than its characters.
theorem bytes_startingWith (c : Char) :
    ((startingWith c).all fun e => e.1.toByteArray.data.toList.all fun b => !(b == 38)) = true := by
  unfold startingWith
  split
  all_goals decide +kernel

theorem ampersand_not_mem {c : Char} {e : String × List Nat} (h : e ∈ startingWith c) :
    '&' ∉ e.1.toList := by
  intro hmem
  have hall := List.all_eq_true.1 (bytes_startingWith c) e h
  have hbyte := List.all_eq_true.1 hall 38 (mem_bytes_of_ampersand hmem)
  simp at hbyte

theorem longer_eq (a b : String × List Nat) : longer a b = a ∨ longer a b = b := by
  unfold longer
  split
  · exact Or.inr rfl
  · exact Or.inl rfl

theorem foldl_longer_mem (es : List (String × List Nat)) (e : String × List Nat) :
    es.foldl longer e ∈ e :: es := by
  induction es generalizing e with
  | nil => exact List.mem_singleton.2 rfl
  | cons d es ih =>
    rw [List.foldl_cons]
    rcases longer_eq e d with heq | heq
    · rw [heq]
      rcases List.mem_cons.1 (ih e) with h | h
      · rw [h]
        exact List.mem_cons_self
      · exact List.mem_cons_of_mem _ (List.mem_cons_of_mem _ h)
    · rw [heq]
      exact List.mem_cons_of_mem _ (ih d)

theorem longest?_spec {s : List Char} {e : String × List Nat} (h : longest? s = some e) :
    '&' ∉ e.1.toList ∧ e.1.toList <+: s := by
  cases s with
  | nil => cases h
  | cons c t =>
    simp only [longest?] at h
    split at h
    · cases h
    · rename_i d ds hfilter
      injection h with h
      have hmem : e ∈ d :: ds := h ▸ foldl_longer_mem ds d
      rw [← hfilter, List.mem_filter] at hmem
      exact ⟨ampersand_not_mem hmem.1, List.isPrefixOf_iff_prefix.1 hmem.2⟩

end ReferenceName

namespace Reference

theorem take_withSemicolon {u t : List Char} (h : '&' ∉ u) :
    '&' ∉ (u ++ t).take (withSemicolon u.length t) := by
  unfold withSemicolon
  split
  · rename_i t
    rw [List.take_length_add_append, List.take_succ_cons, List.take_zero, List.mem_append]
    rintro (hu | ht)
    · exact h hu
    · simp at ht
  · rw [List.take_left' rfl]
    exact h

theorem ampersand_not_mem_takeWhile {p : Char → Bool} (h : p '&' = false) (s : List Char) :
    '&' ∉ s.takeWhile p := by
  intro hmem
  have hp := List.all_eq_true.1 List.all_takeWhile '&' hmem
  rw [h] at hp
  cases hp

theorem ampersand_not_mem_read {s : List Char} {r : Reference} {n : Nat}
    (h : read? s = some (r, n)) : '&' ∉ s.take n := by
  unfold read? at h
  split at h
  · rename_i s
    dsimp only at h
    split at h
    · cases h
      have hdigits := ampersand_not_mem_takeWhile (p := Char.isDigit) (by decide) s
      have hsplit := List.prefix_iff_eq_append.1 (List.takeWhile_prefix Char.isDigit (l := s))
      have htake := take_withSemicolon (u := '#' :: s.takeWhile Char.isDigit)
        (t := s.drop (s.takeWhile Char.isDigit).length) (by simp [hdigits])
      rwa [List.cons_append, hsplit] at htake
    · split at h
      · rename_i x t _
        split at h
        · rename_i hx
          cases h
          have hdigits := ampersand_not_mem_takeWhile (p := isHexDigit) (by decide) t
          have hsplit := List.prefix_iff_eq_append.1 (List.takeWhile_prefix isHexDigit (l := t))
          have hne : '&' ≠ x := by
            rintro rfl
            exact absurd hx.1 (by decide)
          have htake := take_withSemicolon (u := '#' :: x :: t.takeWhile isHexDigit)
            (t := t.drop (t.takeWhile isHexDigit).length) (by simp [hdigits, hne])
          rwa [List.cons_append, List.cons_append, hsplit] at htake
        · cases h
      · cases h
  · obtain ⟨e, he, hread⟩ := Option.map_eq_some_iff.1 h
    cases hread
    obtain ⟨hmem, hprefix⟩ := ReferenceName.longest?_spec he
    rw [← String.length_toList, ← List.prefix_iff_eq_take.1 hprefix]
    exact hmem

/-- A number sign and digits are a decimal reference with all digits that follow. -/
theorem read?_decimal {digits s : List Char} (hne : digits ≠ [])
    (hdigits : ∀ c ∈ digits, c.isDigit = true) (h : '#' :: digits <+: s) :
    ∃ all n, read? s = some (.decimal all, n) ∧ digits.length ≤ all.length := by
  obtain ⟨t, rfl⟩ := h
  have hall : (digits ++ t).takeWhile Char.isDigit = digits ++ t.takeWhile Char.isDigit :=
    List.takeWhile_append_of_pos hdigits
  have hread : read? ('#' :: (digits ++ t)) =
      some (.decimal ((digits ++ t).takeWhile Char.isDigit), _) :=
    if_pos (by simp [hall, hne])
  exact ⟨_, _, hread, by simp [hall]⟩

theorem prefix_of_read?_decimal {digits s : List Char} {n : Nat}
    (h : read? s = some (.decimal digits, n)) :
    (∀ c ∈ digits, c.isDigit = true) ∧ '#' :: digits <+: s := by
  unfold read? at h
  split at h
  · rename_i s
    dsimp only at h
    split at h
    · cases h
      exact ⟨List.all_eq_true.1 List.all_takeWhile,
        List.prefix_cons_iff.2 (Or.inr ⟨_, rfl, List.takeWhile_prefix _⟩)⟩
    · split at h
      · split at h <;> cases h
      · cases h
  · obtain ⟨e, -, hread⟩ := Option.map_eq_some_iff.1 h
    cases hread

end Reference

/-- What starts with a character is not found in a text without it. -/
theorem infix_append_iff {a : Char} {pattern u t : List Char} (h : a ∉ u) :
    a :: pattern <:+: u ++ t ↔ a :: pattern <:+: t := by
  induction u with
  | nil => rfl
  | cons c u ih =>
    rw [List.mem_cons, not_or] at h
    rw [List.cons_append, List.infix_cons_iff, ih h.2, List.cons_prefix_cons]
    constructor
    · rintro (⟨heq, -⟩ | ht)
      · exact absurd heq h.1
      · exact ht
    · exact Or.inr

theorem longReference_cons {c : Char} {s : List Char} (h : c ≠ '&') :
    LongReference (c :: s) ↔ LongReference s := by
  have hc : '&' ∉ [c] := by simpa using h.symm
  simp only [LongReference, ← List.singleton_append (l := s), infix_append_iff hc]

theorem longReference_of_not_read {s : List Char} (h : Reference.read? s = none) :
    LongReference ('&' :: s) ↔ LongReference s := by
  constructor
  · rintro ⟨digits, hlong, hdigits, hinfix⟩
    rcases List.infix_cons_iff.1 hinfix with hprefix | hinfix
    · have hne : digits ≠ [] := List.ne_nil_of_length_pos (by omega)
      obtain ⟨all, n, hread, -⟩ :=
        Reference.read?_decimal hne hdigits (List.cons_prefix_cons.1 hprefix).2
      rw [h] at hread
      cases hread
    · exact ⟨digits, hlong, hdigits, hinfix⟩
  · rintro ⟨digits, hlong, hdigits, hinfix⟩
    exact ⟨digits, hlong, hdigits, hinfix.trans (List.suffix_cons '&' s).isInfix⟩

theorem longReference_of_read {s : List Char} {r : Reference} {n : Nat}
    (h : Reference.read? s = some (r, n)) :
    LongReference ('&' :: s) ↔
      (∃ digits, r = .decimal digits ∧ digitLimit < digits.length) ∨ LongReference (s.drop n) := by
  have htake := Reference.ampersand_not_mem_read h
  constructor
  · rintro ⟨digits, hlong, hdigits, hinfix⟩
    rcases List.infix_cons_iff.1 hinfix with hprefix | hinfix
    · have hne : digits ≠ [] := List.ne_nil_of_length_pos (by omega)
      obtain ⟨all, m, hread, hle⟩ :=
        Reference.read?_decimal hne hdigits (List.cons_prefix_cons.1 hprefix).2
      rw [h] at hread
      cases hread
      exact Or.inl ⟨all, rfl, by omega⟩
    · rw [← List.take_append_drop n s, infix_append_iff htake] at hinfix
      exact Or.inr ⟨digits, hlong, hdigits, hinfix⟩
  · rintro (⟨digits, rfl, hlong⟩ | ⟨digits, hlong, hdigits, hinfix⟩)
    · obtain ⟨hdigits, hprefix⟩ := Reference.prefix_of_read?_decimal h
      exact ⟨digits, hlong, hdigits, (List.cons_prefix_cons.2 ⟨rfl, hprefix⟩).isInfix⟩
    · refine ⟨digits, hlong, hdigits, ?_⟩
      exact hinfix.trans ((List.drop_suffix n s).trans (List.suffix_cons '&' s)).isInfix

theorem Reference.value_ok_iff {r : Reference} :
    (∃ v, r.value = .ok v) ↔ ¬∃ digits, r = .decimal digits ∧ digitLimit < digits.length := by
  cases r with
  | decimal digits =>
    have hiff : (∃ v, Reference.value (.decimal digits) = .ok v) ↔
        ∃ n, readNumeral digits = .ok n := by
      rw [Reference.value]
      cases readNumeral digits with
      | error e => simp [Functor.map, Except.map]
      | ok n => simp [Functor.map, Except.map]
    rw [hiff, readNumeral_ok_iff]
    simp
  | hex digits => simp [Reference.value]
  | named codes => simp [Reference.value]

/-- A text can be decoded if and only if it has no decimal reference that is too long. -/
theorem decodeReferences_ok_iff (s : List Char) :
    (∃ t, decodeReferences s = .ok t) ↔ ¬LongReference s := by
  fun_induction decodeReferences s with
  | case1 => simp [LongReference]
  | case2 s r n hread ih =>
    rw [longReference_of_read hread, not_or, ← ih, ← Reference.value_ok_iff]
    cases r.value with
    | error e => simp [bind, Except.bind]
    | ok v =>
      cases decodeReferences (s.drop n) with
      | error e => simp [bind, Except.bind]
      | ok t => simp [bind, Except.bind, pure, Except.pure]
  | case3 s hread ih =>
    rw [longReference_of_not_read hread, ← ih]
    cases decodeReferences s with
    | error e => simp [Functor.map, Except.map]
    | ok t => simp [Functor.map, Except.map]
  | case4 c s hc ih =>
    rw [longReference_cons hc, ← ih]
    cases decodeReferences s with
    | error e => simp [Functor.map, Except.map]
    | ok t => simp [Functor.map, Except.map]

end WidgetMarkup.Text
