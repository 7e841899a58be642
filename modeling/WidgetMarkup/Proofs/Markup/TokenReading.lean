import WidgetMarkup.Proofs.Markup.TagReading

/-!
# Reading tokens

A token is read from a text exactly when the text starts with it in its written form; a run of text
must also be as long as it can be.
-/
namespace WidgetMarkup.Markup

open Text

/-- The first occurrence of a pattern: no place before it starts with the pattern. -/
theorem afterFirst?_eq_some {p s rest : List Char} (hp : p ≠ []) :
    afterFirst? p s = some rest ↔
      ∃ u, s = u ++ (p ++ rest) ∧
        ∀ v c w, u = v ++ c :: w → ¬p <+: c :: w ++ (p ++ rest) := by
  induction s with
  | nil => simp [afterFirst?, hp]
  | cons c s ih =>
    unfold afterFirst?
    split
    · rename_i hpre
      obtain ⟨t, ht⟩ := List.isPrefixOf_iff_prefix.1 hpre
      rw [← ht, List.drop_left, Option.some.injEq]
      constructor
      · rintro rfl
        exact ⟨[], rfl, by simp⟩
      · rintro ⟨u, hu, hfirst⟩
        cases u with
        | nil => exact List.append_cancel_left hu
        | cons d u =>
          exact absurd ⟨t, hu⟩ (hfirst [] d u rfl)
    · rename_i hpre
      rw [ih]
      constructor
      · rintro ⟨u, rfl, hfirst⟩
        refine ⟨c :: u, rfl, ?_⟩
        intro v d w hv
        cases v with
        | nil =>
          cases hv
          intro h
          exact hpre (List.isPrefixOf_iff_prefix.2 h)
        | cons e v =>
          cases hv
          exact hfirst v d w rfl
      · rintro ⟨u, hu, hfirst⟩
        cases u with
        | nil => exact absurd (List.isPrefixOf_iff_prefix.2 ⟨rest, hu.symm⟩) hpre
        | cons d u =>
          cases hu
          exact ⟨u, rfl, fun v e w hv => hfirst (c :: v) e w (by rw [hv]; rfl)⟩

/-- An end of a comment cannot begin inside the comment and be completed by its own end. -/
theorem afterFirst?_dashes {s rest : List Char} :
    afterFirst? ['-', '-', '>'] s = some rest ↔
      ∃ u, s = u ++ (['-', '-', '>'] ++ rest) ∧ ¬['-', '-', '>'] <:+: u := by
  rw [afterFirst?_eq_some (by simp)]
  refine exists_congr fun u => and_congr_right fun _ => ⟨?_, ?_⟩
  · rintro hfirst ⟨v, w, rfl⟩
    exact hfirst v '-' ('-' :: '>' :: w) (by simp) ⟨w ++ (['-', '-', '>'] ++ rest), by simp⟩
  · rintro hu v c w rfl ⟨t, ht⟩
    match w, ht with
    | [], ht => simp at ht
    | [d], ht => simp at ht
    | d :: e :: w, ht =>
      obtain ⟨rfl, rfl, rfl, -⟩ : '-' = c ∧ '-' = d ∧ '>' = e ∧ _ := by simpa using ht
      exact hu ⟨v, w, by simp⟩

theorem afterFirst?_angle {s rest : List Char} :
    afterFirst? ['>'] s = some rest ↔ ∃ u, s = u ++ '>' :: rest ∧ '>' ∉ u := by
  rw [afterFirst?_eq_some (by simp)]
  refine exists_congr fun u => and_congr_right fun _ => ⟨?_, ?_⟩
  · intro hfirst hmem
    obtain ⟨v, w, rfl⟩ := List.append_of_mem hmem
    exact hfirst v '>' w rfl ⟨w ++ ('>' :: rest), by simp⟩
  · rintro hu v c w rfl ⟨t, ht⟩
    obtain ⟨rfl, -⟩ : '>' = c ∧ _ := by simpa using ht
    exact hu (by simp)

theorem not_isNameStart {c : Char} (h : isNameStart c = true) : c ≠ '!' ∧ c ≠ '?' ∧ c ≠ '/' := by
  refine ⟨?_, ?_, ?_⟩ <;> rintro rfl <;> revert h <;> decide

theorem opening_bang (t : List Char) :
    Opening.of ('<' :: '!' :: t) = if ['-', '-'].isPrefixOf t then .comment else .declaration := by
  simp [Opening.of, List.isPrefixOf]

theorem opening_question (t : List Char) : Opening.of ('<' :: '?' :: t) = .declaration := by
  simp [Opening.of, List.isPrefixOf]

theorem opening_slash (t : List Char) : Opening.of ('<' :: '/' :: t) = .endTag := by
  simp [Opening.of, List.isPrefixOf]

theorem opening_name {c : Char} (h : isNameStart c = true) (t : List Char) :
    Opening.of ('<' :: c :: t) = .startTag := by
  obtain ⟨h₁, h₂, h₃⟩ := not_isNameStart h
  simp [Opening.of, List.isPrefixOf, opensTag, h, h₁.symm, h₂.symm, h₃.symm]

theorem startsMarkup_iff {s : List Char} : startsMarkup s = true ↔
    ∃ c t, s = '<' :: c :: t ∧ (c = '!' ∨ c = '?' ∨ c = '/' ∨ isNameStart c = true) := by
  constructor
  · intro h
    unfold startsMarkup at h
    split at h
    · rename_i c t
      exact ⟨c, t, rfl, by simpa [or_assoc] using h⟩
    · cases h
  · rintro ⟨c, t, rfl, h⟩
    simpa [startsMarkup, or_assoc] using h

theorem opening_text {s : List Char} : Opening.of s = .text ↔ startsMarkup s = false := by
  constructor
  · intro h
    rw [Bool.eq_false_iff]
    intro hs
    obtain ⟨c, t, rfl, rfl | rfl | rfl | hc⟩ := startsMarkup_iff.1 hs
    · rw [opening_bang] at h
      split at h <;> cases h
    · cases (opening_question t).symm.trans h
    · cases (opening_slash t).symm.trans h
    · cases (opening_name hc t).symm.trans h
  · intro h
    match s, h with
    | [], _ => rfl
    | [c], _ => simp [Opening.of, List.isPrefixOf, opensTag]
    | c :: d :: t, h =>
      by_cases hc : c = '<'
      · subst hc
        obtain ⟨⟨⟨h₁, h₂⟩, h₃⟩, h₄⟩ : ((d ≠ '!' ∧ d ≠ '?') ∧ d ≠ '/') ∧ isNameStart d = false := by
          simpa [startsMarkup] using h
        simp [Opening.of, List.isPrefixOf, opensTag, h₁.symm, h₂.symm, h₃.symm, h₄]
      · simp [Opening.of, List.isPrefixOf, opensTag, Ne.symm hc, hc]

theorem startsMarkup_extend {t rest : List Char} (h : startsMarkup t = true) :
    startsMarkup (t ++ rest) = true := by
  obtain ⟨c, u, rfl, hc⟩ := startsMarkup_iff.1 h
  exact startsMarkup_iff.2 ⟨c, u ++ rest, rfl, hc⟩

theorem isPlain_nil : IsPlain [] := by
  simp [IsPlain, startsMarkup]

theorem isPlain_cons {c : Char} {s : List Char} :
    IsPlain (c :: s) ↔ startsMarkup (c :: s) = false ∧ IsPlain s := by
  constructor
  · intro h
    exact ⟨h _ List.suffix_rfl, fun t ht => h t (ht.trans (List.suffix_cons c s))⟩
  · rintro ⟨hc, hs⟩ t ht
    rcases List.suffix_cons_iff.1 ht with rfl | ht
    · exact hc
    · exact hs t ht

theorem textRun_written (s : List Char) :
    s = (textRun s).1 ++ (textRun s).2 ∧ IsPlain (textRun s).1 ∧
      ((textRun s).2 = [] ∨ startsMarkup (textRun s).2 = true) := by
  induction s with
  | nil => exact ⟨rfl, isPlain_nil, Or.inl rfl⟩
  | cons c s ih =>
    obtain ⟨hs, hplain, hrest⟩ := ih
    unfold textRun
    split
    · rename_i ho
      refine ⟨by rw [List.cons_append, ← hs], isPlain_cons.2 ⟨?_, hplain⟩, hrest⟩
      rw [opening_text, hs, ← List.cons_append] at ho
      rw [Bool.eq_false_iff] at ho ⊢
      exact fun h => ho (startsMarkup_extend h)
    · rename_i ho
      exact ⟨rfl, isPlain_nil, Or.inr (by simpa using mt opening_text.2 ho)⟩

theorem startsMarkup_append {t rest : List Char} (ht : IsPlain t) (hne : t ≠ [])
    (hrest : rest = [] ∨ startsMarkup rest = true) : startsMarkup (t ++ rest) = false := by
  match t, hne with
  | [c], _ =>
    rcases hrest with rfl | hrest
    · simpa using ht _ List.suffix_rfl
    · obtain ⟨d, u, rfl, -⟩ := startsMarkup_iff.1 hrest
      rw [Bool.eq_false_iff]
      intro h
      obtain ⟨e, v, hv, he⟩ := startsMarkup_iff.1 h
      cases hv
      revert he
      decide
  | c :: d :: u, _ =>
    have h := ht _ List.suffix_rfl
    rw [Bool.eq_false_iff] at h ⊢
    intro hs
    obtain ⟨e, v, hv, he⟩ := startsMarkup_iff.1 hs
    cases hv
    exact h (startsMarkup_iff.2 ⟨_, _, rfl, he⟩)

theorem textRun_run {data rest : List Char} (hd : IsPlain data)
    (hrest : rest = [] ∨ startsMarkup rest = true) : textRun (data ++ rest) = (data, rest) := by
  induction data with
  | nil =>
    rcases hrest with rfl | hrest
    · rfl
    · obtain ⟨c, t, rfl, -⟩ := startsMarkup_iff.1 hrest
      have ho : Opening.of ('<' :: c :: t) ≠ .text := by
        rw [Ne, opening_text, hrest]
        simp
      simp [textRun, ho]
  | cons c data ih =>
    have ho : Opening.of (c :: (data ++ rest)) = .text :=
      opening_text.2 (startsMarkup_append hd (by simp) hrest)
    have htail := ih (isPlain_cons.1 hd).2
    simp [textRun, ho, htail]

theorem dashes_prefix {body rest : List Char} :
    ['-', '-'] <+: body ++ '>' :: rest ↔ ['-', '-'] <+: body := by
  match body with
  | [] => simp
  | [c] => simp
  | c :: d :: t => simp

theorem opening_declaration {mark : Char} {body rest : List Char} (hmark : mark = '!' ∨ mark = '?')
    (hdashes : ¬(mark = '!' ∧ ['-', '-'] <+: body)) :
    Opening.of ('<' :: mark :: (body ++ '>' :: rest)) = .declaration := by
  rcases hmark with rfl | rfl
  · rw [opening_bang, if_neg]
    intro hpre
    exact hdashes ⟨rfl, dashes_prefix.1 (List.isPrefixOf_iff_prefix.1 hpre)⟩
  · exact opening_question _

theorem Token.Written.ne_nil {token : Token} {piece : List Char} (h : token.Written piece) :
    piece ≠ [] := by
  cases h with
  | text hne _ => exact hne
  | _ => simp

theorem Token.Written.read {token : Token} {piece rest : List Char} (h : token.Written piece)
    (hrest : token.EndsBefore rest) : Token.read (piece ++ rest) = .ok (token, rest) := by
  cases h with
  | @comment body hbody =>
    have ho : Opening.of (['<', '!', '-', '-'] ++ (body ++ ['-', '-', '>']) ++ rest) = .comment :=
      opening_bang _
    have hafter : afterFirst? ['-', '-', '>'] (body ++ (['-', '-', '>'] ++ rest)) = some rest :=
      afterFirst?_dashes.2 ⟨body, rfl, hbody⟩
    have hskip : skipComment (['<', '!', '-', '-'] ++ (body ++ ['-', '-', '>']) ++ rest) =
        .ok rest := by
      simp only [List.append_assoc, List.cons_append, List.nil_append] at hafter ⊢
      simp only [skipComment, List.drop_succ_cons, List.drop_zero, hafter]
    rw [Token.read, ho]
    dsimp only
    rw [hskip]
    rfl
  | @declaration mark body hmark hbody hdashes =>
    rw [List.cons_append, List.cons_append, List.append_assoc, List.singleton_append]
    have hafter : afterFirst? ['>'] ('<' :: mark :: (body ++ '>' :: rest)) = some rest := by
      refine afterFirst?_angle.2 ⟨'<' :: mark :: body, rfl, ?_⟩
      rcases hmark with rfl | rfl <;> simpa using hbody
    rw [Token.read, opening_declaration hmark hdashes]
    dsimp only
    rw [skipDeclaration, hafter]
    rfl
  | @startTag name body as slash hn hstop hbody =>
    have hread := readStartTag_run hn hstop hbody rest
    obtain ⟨c, t, rfl, hc, -⟩ := hn
    rw [List.cons_append, List.append_assoc, Token.read, List.cons_append, opening_name hc]
    dsimp only
    rw [← List.cons_append, hread]
    rfl
  | @endTag b₁ name b₂ hb₁ hn hb₂ =>
    have hread := readEndTag_run hb₁ hn hb₂ rest
    simp only [List.append_assoc, List.cons_append, List.nil_append]
    rw [Token.read, opening_slash]
    dsimp only
    rw [hread]
    rfl
  | text hne hplain =>
    have hrest := hrest rfl
    rw [Token.read, opening_text.2 (startsMarkup_append hplain hne hrest)]
    dsimp only
    rw [textRun_run hplain hrest]

theorem Token.written_of_comment {t rest : List Char} {token : Token}
    (hpre : ['-', '-'] <+: t) (h : Token.read ('<' :: '!' :: t) = .ok (token, rest)) :
    ∃ piece, '<' :: '!' :: t = piece ++ rest ∧ token.Written piece ∧ token.EndsBefore rest := by
  obtain ⟨t, rfl⟩ := hpre
  rw [Token.read, opening_bang, if_pos (by simp [List.isPrefixOf])] at h
  dsimp only at h
  rw [skipComment] at h
  simp only [List.cons_append, List.nil_append, List.drop_succ_cons, List.drop_zero] at h
  cases hafter : afterFirst? ['-', '-', '>'] t with
  | none => rw [hafter] at h; cases h
  | some r =>
    rw [hafter] at h
    cases h
    obtain ⟨body, rfl, hbody⟩ := afterFirst?_dashes.1 hafter
    exact ⟨_, by simp, .comment hbody, by simp [EndsBefore, isText]⟩

theorem Token.written_of_declaration {mark : Char} {t rest : List Char} {token : Token}
    (hmark : mark = '!' ∨ mark = '?') (hdashes : ¬(mark = '!' ∧ ['-', '-'] <+: t))
    (h : Token.read ('<' :: mark :: t) = .ok (token, rest)) :
    ∃ piece, '<' :: mark :: t = piece ++ rest ∧ token.Written piece ∧ token.EndsBefore rest := by
  have ho : Opening.of ('<' :: mark :: t) = .declaration := by
    rcases hmark with rfl | rfl
    · rw [opening_bang, if_neg]
      exact fun hpre => hdashes ⟨rfl, List.isPrefixOf_iff_prefix.1 hpre⟩
    · exact opening_question t
  rw [Token.read, ho] at h
  dsimp only at h
  rw [skipDeclaration] at h
  cases hafter : afterFirst? ['>'] ('<' :: mark :: t) with
  | none => rw [hafter] at h; cases h
  | some r =>
    rw [hafter] at h
    cases h
    obtain ⟨u, hu, hmem⟩ := afterFirst?_angle.1 hafter
    -- the first two characters are no end of the declaration
    match u, hu, hmem with
    | [], hu, _ => cases hu
    | [c], hu, _ =>
      cases hu
      rcases hmark with h | h <;> cases h
    | c :: d :: body, hu, hmem =>
      cases hu
      refine ⟨'<' :: mark :: (body ++ ['>']), by simp, .declaration hmark (fun hb => hmem ?_) ?_,
        by simp [EndsBefore, isText]⟩
      · simp [hb]
      · exact fun hd => hdashes ⟨hd.1, dashes_prefix.2 hd.2⟩

/-- A token that has been read is written there, and a run of text is as long as it can be. -/
theorem Token.written_of_read {s rest : List Char} {token : Token} (hs : s ≠ [])
    (h : Token.read s = .ok (token, rest)) :
    ∃ piece, s = piece ++ rest ∧ token.Written piece ∧ token.EndsBefore rest := by
  cases hm : startsMarkup s with
  | false =>
    rw [Token.read, opening_text.2 hm] at h
    obtain ⟨hsplit, hplain, hrest⟩ := textRun_written s
    cases h
    refine ⟨(textRun s).1, hsplit, .text ?_ hplain, fun _ => hrest⟩
    intro hnil
    rw [hnil, List.nil_append] at hsplit
    rw [← hsplit] at hrest
    rcases hrest with hrest | hrest
    · exact hs hrest
    · rw [hm] at hrest
      cases hrest
  | true =>
    obtain ⟨c, t, rfl, hc⟩ := startsMarkup_iff.1 hm
    by_cases hdash : c = '!' ∧ ['-', '-'] <+: t
    · obtain ⟨rfl, hpre⟩ := hdash
      exact written_of_comment hpre h
    · rcases hc with rfl | rfl | rfl | hc
      · exact written_of_declaration (Or.inl rfl) hdash h
      · exact written_of_declaration (Or.inr rfl) hdash h
      · rw [Token.read, opening_slash] at h
        dsimp only at h
        cases hr : readEndTag ('<' :: '/' :: t) with
        | error e => rw [hr] at h; cases h
        | ok p =>
          rw [hr] at h
          cases h
          obtain ⟨b₁, n, b₂, rfl, hb₁, hn, hb₂, hname⟩ := readEndTag_written hr
          rw [hname]
          exact ⟨_, by simp, .endTag hb₁ hn hb₂, by simp [EndsBefore, isText]⟩
      · rw [Token.read, opening_name hc] at h
        dsimp only at h
        cases hr : readStartTag ('<' :: c :: t) with
        | error e => rw [hr] at h; cases h
        | ok p =>
          rw [hr] at h
          cases h
          obtain ⟨name, body, as, slash, hs', hn, hstop, hbody, htag⟩ := readStartTag_written hr
          rw [htag, hs']
          exact ⟨_, by simp, .startTag hn hstop hbody, by simp [EndsBefore, isText]⟩

end WidgetMarkup.Markup
