import WidgetMarkup.Proofs.Markup.Assembly

/-!
# What is wrong with a text

A start tag or an attribute can be asked for where none can start. Reading a document never does so:
a start tag is read only where its name begins, and an attribute only before the end of the text.
Whatever goes wrong is a fault of the text. It is found where a token starts that cannot be read,
among the attributes of a start tag, at an end tag that closes nothing, or at the end.

Reading on halts in one of these ways after some tokens have been taken in, and what taking in a
token preserves holds there.
-/
namespace WidgetMarkup.Markup

open Text

/-- Something is wrong among the attributes of a tag. -/
def Cause.isOfAttribute : Cause → Bool
  | unexpectedCharacter _ => true
  | missingValue _ => true
  | unterminatedValue _ => true
  | _ => false

/-- A fault among the attributes that a text starts with. -/
structure Fault.OfAttribute (f : Fault) (s : List Char) : Prop where
  cause_eq : f.cause.isOfAttribute = true
  place_suffix : f.place <:+ s
  cursor_suffix : f.cursor <:+ s

theorem Fault.OfAttribute.mono {f : Fault} {s t : List Char} (h : f.OfAttribute s) (hs : s <:+ t) :
    f.OfAttribute t :=
  ⟨h.cause_eq, h.place_suffix.trans hs, h.cursor_suffix.trans hs⟩

/-- Why no token can be read from a text. -/
inductive Fault.OfToken (s : List Char) : Fault → Prop
  | comment : ['<', '!', '-', '-'] <+: s → OfToken s ⟨.unterminatedComment, s, s⟩
  | declaration : ['<', '!'] <+: s ∨ ['<', '?'] <+: s → OfToken s ⟨.unterminatedDeclaration, s, s⟩
  | endTag : ['<', '/'] <+: s → OfToken s ⟨.malformedEndTag, s, s⟩
  | startTag {name : List Char} : IsTagName name → '<' :: name <+: s →
      OfToken s ⟨.unterminatedTag (String.ofList name), s, []⟩
  | inAttributes {f : Fault} : f.OfAttribute s → OfToken s f

theorem error_of_bind {α β : Type} {x : Except ReadError α} {f : α → Except ReadError β}
    {e : ReadError} (h : x >>= f = .error e) (hf : ∀ a, ∃ b, f a = .ok b) : x = .error e := by
  cases x with
  | error e' =>
    cases h
    rfl
  | ok a =>
    obtain ⟨b, hb⟩ := hf a
    cases hb.symm.trans h

section Pieces

variable {s : List Char} {e : ReadError}

theorem readValue_error {name : List Char} (h : readValue name s = .error e) :
    ∃ f, e = .fault f ∧ f.OfAttribute s := by
  have hhere : ∀ cause : Cause, cause.isOfAttribute = true →
      ∃ f, ReadError.of cause s = .fault f ∧ f.OfAttribute s :=
    fun cause hcause => ⟨_, rfl, hcause, List.suffix_rfl, List.suffix_rfl⟩
  unfold readValue at h
  split at h
  · cases h
    exact hhere _ rfl
  · split at h
    · split at h
      · cases h
        exact hhere _ rfl
      · cases h
    · dsimp only at h
      split at h
      · cases h
        exact hhere _ rfl
      · split at h <;> cases h

theorem readAttribute_error (hs : s ≠ []) (h : readAttribute s = .error e) :
    ∃ f, e = .fault f ∧ f.OfAttribute s := by
  have hrest : skipBlank (s.dropWhile isAttributeChar) <:+ s :=
    (List.dropWhile_suffix _).trans (List.dropWhile_suffix _)
  unfold readAttribute at h
  dsimp only at h
  split at h
  · split at h
    · exact absurd rfl hs
    · cases h
      exact ⟨_, rfl, rfl, List.suffix_rfl, List.suffix_rfl⟩
  · split at h
    · cases h
    · rename_i c t heq
      split at h
      · obtain ⟨f, hf, hattribute⟩ := readValue_error (error_of_bind h fun _ => ⟨_, rfl⟩)
        have ht : skipBlank t <:+ c :: t :=
          (List.dropWhile_suffix _).trans (List.suffix_cons c t)
        rw [heq] at hrest
        exact ⟨f, hf, hattribute.mono (ht.trans hrest)⟩
      · cases h

theorem readAttributes_error {start : List Char} {name : String}
    (h : readAttributes start name s = .error e) :
    e = .fault ⟨.unterminatedTag name, start, []⟩ ∨ ∃ f, e = .fault f ∧ f.OfAttribute s := by
  fun_induction readAttributes start name s with
  | case1 s hs =>
    cases h
    exact Or.inl rfl
  | case2 s t hs => cases h
  | case3 s c t hs hc hslash => cases h
  | case4 s c t hs hc hslash e' ha =>
    have hsuffix : skipBlank s <:+ s := List.dropWhile_suffix _
    rw [hs] at hsuffix
    cases h
    obtain ⟨f, hf, hattribute⟩ := readAttribute_error (by simp) ha
    exact Or.inr ⟨f, hf, hattribute.mono hsuffix⟩
  | case5 s c t hs hc hslash a rest ha ih =>
    have hsuffix : skipBlank s <:+ s := List.dropWhile_suffix _
    obtain ⟨u, b, -, hsplit, -⟩ := readAttribute_written ha
    rw [hs, hsplit, ← List.append_assoc] at hsuffix
    rcases ih (error_of_bind h fun _ => ⟨_, rfl⟩) with hend | ⟨f, hf, hattribute⟩
    · exact Or.inl hend
    · exact Or.inr ⟨f, hf, hattribute.mono ((List.suffix_append _ _).trans hsuffix)⟩

/-- Where a tag opens, its name is there. -/
theorem readStartTag_error (hs : opensTag s = true) (h : readStartTag s = .error e) :
    ∃ f, e = .fault f ∧ f.OfToken s := by
  unfold opensTag at hs
  split at hs
  · rename_i c t
    have hname : tagName? (c :: t) = some (c :: t.takeWhile isNameChar, t.dropWhile isNameChar) := by
      simp [tagName?, hs]
    have hsplit := List.takeWhile_append_dropWhile (p := isNameChar) (l := t)
    simp only [readStartTag, List.drop_succ_cons, List.drop_zero, hname] at h
    rcases readAttributes_error (error_of_bind h fun _ => ⟨_, rfl⟩) with hend | ⟨f, hf, hattribute⟩
    · refine ⟨_, hend, .startTag ⟨c, t.takeWhile isNameChar, rfl, hs, ?_⟩ ?_⟩
      · exact fun d hd => List.mem_takeWhile_imp hd
      · exact ⟨t.dropWhile isNameChar, by simp [hsplit]⟩
    · have ht : t.dropWhile isNameChar <:+ '<' :: c :: t :=
        (List.dropWhile_suffix _).trans ((List.suffix_cons c t).trans (List.suffix_cons _ _))
      exact ⟨f, hf, .inAttributes (hattribute.mono ht)⟩
  · cases hs

theorem readEndTag_error (h : readEndTag s = .error e) : e = .of .malformedEndTag s := by
  unfold readEndTag at h
  split at h
  · split at h
    · cases h
      rfl
    · split at h
      · cases h
        rfl
      · split at h
        · cases h
        · cases h
          rfl
  · cases h
    rfl

theorem skipComment_error (h : skipComment s = .error e) : e = .of .unterminatedComment s := by
  unfold skipComment at h
  split at h
  · cases h
    rfl
  · cases h

theorem skipDeclaration_error (h : skipDeclaration s = .error e) :
    e = .of .unterminatedDeclaration s := by
  unfold skipDeclaration at h
  split at h
  · cases h
    rfl
  · cases h

theorem opening_starts (s : List Char) :
    (Opening.of s = .comment → ['<', '!', '-', '-'] <+: s) ∧
    (Opening.of s = .declaration → ['<', '!'] <+: s ∨ ['<', '?'] <+: s) ∧
    (Opening.of s = .endTag → ['<', '/'] <+: s) ∧
    (Opening.of s = .startTag → opensTag s = true) := by
  unfold Opening.of
  split
  · rename_i hcomment
    simp [List.isPrefixOf_iff_prefix.1 hcomment]
  · split
    · rename_i hdeclaration
      rw [Bool.or_eq_true, List.isPrefixOf_iff_prefix, List.isPrefixOf_iff_prefix] at hdeclaration
      simp [hdeclaration]
    · split
      · rename_i hendTag
        simp [List.isPrefixOf_iff_prefix.1 hendTag]
      · split
        · rename_i hopens
          simp [hopens]
        · simp

theorem Token.read_error (h : Token.read s = .error e) : ∃ f, e = .fault f ∧ f.OfToken s := by
  have hstarts := opening_starts s
  unfold Token.read at h
  split at h
  · rename_i hopening
    exact ⟨_, skipComment_error (error_of_bind h fun _ => ⟨_, rfl⟩), .comment (hstarts.1 hopening)⟩
  · rename_i hopening
    exact ⟨_, skipDeclaration_error (error_of_bind h fun _ => ⟨_, rfl⟩),
      .declaration (hstarts.2.1 hopening)⟩
  · rename_i hopening
    exact ⟨_, readEndTag_error (error_of_bind h fun _ => ⟨_, rfl⟩),
      .endTag (hstarts.2.2.1 hopening)⟩
  · rename_i hopening
    exact readStartTag_error (hstarts.2.2.2 hopening) (error_of_bind h fun _ => ⟨_, rfl⟩)
  · cases h

end Pieces

namespace Progress

variable {location : List Char → Location} {p : Progress} {e : ReadError}

theorem step_error {token : Token} {s rest : List Char}
    (h : p.step location ⟨token, s, rest⟩ = .error e) :
    ∃ name, token = .endTag name ∧
      ((p.opened = [] ∧ e = .fault ⟨.unexpectedEndTag name, s, rest⟩) ∨
      ∃ top outer, p.opened = top :: outer ∧ top.start.name ≠ name ∧
        e = .fault ⟨.mismatchedEndTag name top.start.name (location top.place).line, s, rest⟩) := by
  cases token with
  | comment => cases h
  | declaration => cases h
  | text data => cases h
  | startTag tag =>
    simp only [step] at h
    split at h <;> cases h
  | endTag name =>
    simp only [step] at h
    refine ⟨name, rfl, ?_⟩
    split at h
    · rename_i hopened
      cases h
      exact Or.inl ⟨hopened, rfl⟩
    · rename_i top outer hopened
      split at h
      · cases h
      · rename_i hname
        cases h
        exact Or.inr ⟨top, outer, hopened, hname, rfl⟩

theorem finish_error (h : p.finish = .error e) :
    ∃ top outer, p.opened = top :: outer ∧
      e = .fault ⟨.unclosedTag top.start.name, top.place, []⟩ := by
  unfold finish at h
  split at h
  · cases h
  · rename_i top outer hopened
    cases h
    exact ⟨top, outer, hopened, rfl⟩

/-- Reading on halts right here, with some text left. -/
inductive Halts (location : List Char → Location) (p : Progress) : List Char → ReadError → Prop
  | token {s : List Char} {e : ReadError} : Token.read s = .error e → Halts location p s e
  | step {token : Token} {s rest : List Char} {e : ReadError} : s ≠ [] →
      Token.read s = .ok (token, rest) → p.step location ⟨token, s, rest⟩ = .error e →
      Halts location p s e
  | finish {e : ReadError} : p.finish = .error e → Halts location p [] e

/-- Where reading on halts, everything holds that taking in a token preserves. -/
theorem readOn_halts (Inv : Progress → List Char → Prop)
    (hpres : ∀ p p' token s rest, s ≠ [] → Token.read s = .ok (token, rest) →
      p.step location ⟨token, s, rest⟩ = .ok p' → Inv p s → Inv p' rest)
    {s : List Char} (hinv : Inv p s) (h : p.readOn location s = .error e) :
    ∃ p' s', Inv p' s' ∧ Halts location p' s' e := by
  -- every token leaves less of the text
  induction hlength : s.length using Nat.strong_induction_on generalizing s p with
  | _ n ih =>
    by_cases hs : s = []
    · rw [hs, readOn_nil] at h
      exact ⟨p, s, hinv, hs ▸ .finish h⟩
    · cases hread : Token.read s with
      | error e' =>
        rw [readOn_error hs hread] at h
        cases h
        exact ⟨p, s, hinv, .token hread⟩
      | ok r =>
        obtain ⟨token, rest⟩ := r
        rw [readOn_token hs hread] at h
        cases hstep : p.step location ⟨token, s, rest⟩ with
        | error e' =>
          rw [hstep] at h
          cases h
          exact ⟨p, s, hinv, .step hs hread hstep⟩
        | ok p' =>
          rw [hstep] at h
          have hlt : rest.length < n := hlength ▸ Token.length_read_lt hs hread
          exact ih _ hlt (hpres p p' token s rest hs hread hstep hinv) h rfl

theorem Halts.isFault {s : List Char} (h : Halts location p s e) : ∃ f, e = .fault f := by
  cases h with
  | token hread =>
    obtain ⟨f, hf, -⟩ := Token.read_error hread
    exact ⟨f, hf⟩
  | step _ _ hstep =>
    obtain ⟨name, -, ⟨-, hf⟩ | ⟨top, outer, -, -, hf⟩⟩ := step_error hstep
    · exact ⟨_, hf⟩
    · exact ⟨_, hf⟩
  | finish hfinish =>
    obtain ⟨top, outer, -, hf⟩ := finish_error hfinish
    exact ⟨_, hf⟩

end Progress

/-- Nothing but a fault of the text keeps a document from being read. -/
theorem isFault_readChars {source : List Char} {e : ReadError} (h : readChars source = .error e) :
    ∃ f, e = .fault f := by
  rw [readChars_eq] at h
  obtain ⟨p, s, -, hhalts⟩ :=
    Progress.readOn_halts (fun _ _ => True) (fun _ _ _ _ _ _ _ _ _ => trivial) trivial h
  exact hhalts.isFault

end WidgetMarkup.Markup
