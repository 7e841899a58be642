import WidgetMarkup.Proofs.Markup.Coverage
import WidgetMarkup.Proofs.Markup.Faults
import WidgetMarkup.Proofs.Markup.Locations

/-!
# Where a text is at fault

Every token and every attribute takes at least one character, so a document is read to its end or to
a fault. All before a fault has been cut into tokens. A fault is reported where the token starts that
cannot be read, or at a place among the attributes of that token; at an end tag that closes nothing
or the wrong tag; or at the last tag that is still open when the text ends. Its location lies within
the text.
-/
namespace WidgetMarkup.Markup

open Text

/-- Spans from a place in a text to a later one: each takes at least one character, and the next one
starts where it ends. -/
inductive Follow : List Char → List Span → List Char → Prop
  | done {s : List Char} : Follow s [] s
  | next {token : Token} {piece rest last : List Char} {spans : List Span} : piece ≠ [] →
      Follow rest spans last → Follow (piece ++ rest) (⟨token, piece ++ rest, rest⟩ :: spans) last

/-- A scan goes on to the end of the text unless it stops at a token that cannot be read. -/
theorem follow_scan (s : List Char) :
    ∃ last, Follow s (scan s).spans last ∧ ((scan s).stop = none ↔ last = []) := by
  induction hlength : s.length using Nat.strong_induction_on generalizing s with
  | _ n ih =>
    unfold scan
    split
    · rename_i hs
      exact ⟨s, .done, by simp [hs]⟩
    · rename_i hs
      split
      · exact ⟨s, .done, by simp [hs]⟩
      · rename_i token rest hread
        have hlt : rest.length < n := hlength ▸ Token.length_read_lt hs hread
        obtain ⟨last, hfollow, hstop⟩ := ih _ hlt rest rfl
        obtain ⟨piece, rfl, hw, -⟩ := Token.written_of_read hs hread
        exact ⟨last, .next hw.ne_nil hfollow, hstop⟩

theorem Follow.length_le {s last : List Char} {spans : List Span} (h : Follow s spans last) :
    spans.length + last.length ≤ s.length := by
  induction h with
  | done => simp
  | next hne _ ih =>
    have hpos := List.length_pos_iff.2 hne
    rw [List.length_cons, List.length_append]
    omega

theorem readAttribute_forward {s rest : List Char} {a : String × String}
    (h : readAttribute (skipBlank s) = .ok (a, rest)) : ∃ used, used ≠ [] ∧ s = used ++ rest := by
  obtain ⟨b, -, hblank, -⟩ := exists_blank s
  obtain ⟨u, b', -, hsplit, -⟩ := readAttribute_written h
  have hlt := length_readAttribute_lt h
  have hs : s = (b ++ (u ++ b')) ++ rest := by
    rw [hsplit] at hblank
    simpa using hblank
  refine ⟨b ++ (u ++ b'), ?_, hs⟩
  intro hnil
  rw [hsplit] at hlt
  simp only [List.append_eq_nil_iff] at hnil
  simp [hnil] at hlt

/-- A text is cut into pieces as far as a place, where some text is left. -/
inductive CutUpTo (source : List Char) : List Piece → List Char → Prop
  | start : CutUpTo source [] source
  | next {qs : List Piece} {token : Token} {piece rest : List Char} :
      CutUpTo source qs (piece ++ rest) → token.Written piece → token.EndsBefore rest →
      CutUpTo source (qs ++ [⟨(qs.flatMap (·.chars)).length, token, piece⟩]) rest

variable {source s : List Char} {qs : List Piece}

theorem CutUpTo.chars_eq (h : CutUpTo source qs s) : source = qs.flatMap (·.chars) ++ s := by
  induction h with
  | start => rfl
  | next _ _ _ ih =>
    rw [ih]
    simp

theorem CutUpTo.suffix (h : CutUpTo source qs s) : s <:+ source :=
  ⟨_, h.chars_eq.symm⟩

theorem CutUpTo.written (h : CutUpTo source qs s) : ∀ q ∈ qs, q.token.Written q.chars := by
  induction h with
  | start => simp
  | next _ hw _ ih =>
    intro q hq
    rcases List.mem_append.1 hq with hq | hq
    · exact ih q hq
    · rw [List.mem_singleton.1 hq]
      exact hw

theorem CutUpTo.split (h : CutUpTo source qs s) {before after : List Piece} {q : Piece}
    (hqs : qs = before ++ q :: after) :
    CutUpTo source before (q.chars ++ (after.flatMap (·.chars) ++ s)) ∧
      q.offset = (before.flatMap (·.chars)).length := by
  induction h generalizing after with
  | start => simp at hqs
  | @next qs token piece rest hcut _ _ ih =>
    rcases List.eq_nil_or_concat after with rfl | ⟨others, last, rfl⟩
    · obtain ⟨rfl, hq⟩ := List.append_inj' hqs rfl
      cases hq
      exact ⟨by simpa using hcut, rfl⟩
    · rw [List.concat_eq_append, ← List.cons_append, ← List.append_assoc] at hqs
      obtain ⟨hothers, hlast⟩ := List.append_inj' hqs rfl
      cases hlast
      have hsplit := ih hothers
      simpa using hsplit

/-- A text does not start with a token. -/
def NoToken (s : List Char) : Prop :=
  ∀ (token : Token) (piece rest : List Char), s = piece ++ rest → token.Written piece →
    ¬token.EndsBefore rest

theorem noToken_of_error {e : ReadError} (h : Token.read s = .error e) : NoToken s := by
  rintro token piece rest rfl hw hends
  rw [hw.read hends] at h
  cases h

/-- The last tag that is still open after some pieces: its name, and the text left where it starts.
All tags after it have been closed. -/
def LastOpen (source : List Char) (qs : List Piece) (name : String) (place : List Char) : Prop :=
  ∃ before q inside tag es, qs = before ++ q :: inside ∧ CutUpTo source before place ∧
    q.token = .startTag tag ∧ tag.name = name ∧ tag.closed = false ∧
    Traverses (lineStarts source) es inside

/-- What a fault of a text is to be blamed on. -/
inductive Blames (source : List Char) : Fault → Prop
  /-- A token that cannot be read. -/
  | token {qs : List Piece} {s : List Char} {f : Fault} : CutUpTo source qs s → NoToken s →
      f.OfToken s → Blames source f
  /-- An end tag where no tag is open. -/
  | unexpectedEndTag {qs : List Piece} {name : String} {piece rest : List Char}
      {es : List Element} : CutUpTo source qs (piece ++ rest) →
      (Token.endTag name).Written piece → Traverses (lineStarts source) es qs →
      Blames source ⟨.unexpectedEndTag name, piece ++ rest, rest⟩
  /-- An end tag with another name than the last open tag. -/
  | mismatchedEndTag {qs : List Piece} {name opened : String} {piece rest before place : List Char} :
      CutUpTo source qs (piece ++ rest) → (Token.endTag name).Written piece →
      LastOpen source qs opened place → opened ≠ name → source = before ++ place →
      Blames source
        ⟨.mismatchedEndTag name opened (locationAfter before).line, piece ++ rest, rest⟩
  /-- A tag that is open at the end. -/
  | unclosedTag {qs : List Piece} {name : String} {place : List Char} : CutUpTo source qs [] →
      LastOpen source qs name place → Blames source ⟨.unclosedTag name, place, []⟩

namespace Progress

/-- What is known of a run when some text is left: how the text before has been cut, and for every
open tag the place where it starts. -/
structure Reached (source : List Char) (p : Progress) (s : List Char) (qs : List Piece) : Prop where
  cut : CutUpTo source qs s
  covers : Covers (lineStarts source) p.opened p.done qs
  opened_at : ∀ o ∈ p.opened, o.place <:+ source ∧
    ∃ tag, o.start = startAt (locationLeft source) tag o.place

theorem reached_start (source : List Char) : Reached source {} source [] :=
  ⟨.start, .done, by simp⟩

theorem Reached.step {p p' : Progress} {token : Token} {rest : List Char}
    (h : Reached source p s qs) (hs : s ≠ []) (hread : Token.read s = .ok (token, rest))
    (hstep : p.step (locationLeft source) ⟨token, s, rest⟩ = .ok p') :
    ∃ qs', Reached source p' rest qs' := by
  obtain ⟨piece, rfl, hw, hends⟩ := Token.written_of_read hs hread
  have hchars := h.cut.chars_eq
  have hoffset : (qs.flatMap (·.chars)).length + (piece ++ rest).length = source.length := by
    rw [hchars, List.length_append]
    simp
  refine ⟨_, h.cut.next hw hends, h.covers.step hstep hw (offsetOf?_locationLeft hoffset), ?_⟩
  rcases step_cases hstep with ⟨-, rfl⟩ | ⟨data, -, rfl⟩ | ⟨tag, -, -, rfl⟩ |
    ⟨tag, -, -, rfl⟩ | ⟨top, outer, hopened, -, rfl⟩
  · exact h.opened_at
  · exact h.opened_at
  · exact h.opened_at
  · refine List.forall_mem_cons.2 ⟨⟨?_, tag, rfl⟩, h.opened_at⟩
    exact ⟨_, hchars.symm⟩
  · intro o ho
    exact h.opened_at o (hopened ▸ List.mem_cons_of_mem top ho)

theorem Reached.lastOpen {p : Progress} {top : OpenTag} {outer : List OpenTag}
    (h : Reached source p s qs) (hopened : p.opened = top :: outer) :
    LastOpen source qs top.start.name top.place := by
  have hcovers := h.covers
  rw [hopened] at hcovers
  obtain ⟨before, q, inside, tag, hqs, -, hq, hclosed, hinside⟩ := hcovers
  obtain ⟨hcut, hoffset⟩ := h.cut.split hqs
  refine ⟨before, q, inside, tag, _, hqs, ?_, hq.token_eq, hq.name_eq.symm, hclosed, hinside⟩
  -- the tag and its piece have the same offset, so the same text is left there
  obtain ⟨⟨earlier, hearlier⟩, tag', hstart⟩ := h.opened_at top (hopened ▸ List.mem_cons_self)
  obtain ⟨line, column, hline, hcolumn, hplace⟩ := hq.offset_eq
  have hlength : earlier.length + top.place.length = source.length := by
    rw [← hearlier, List.length_append]
  have hearlierOffset : earlier.length = q.offset := by
    have hlocation := offsetOf?_locationLeft hlength
    rw [hstart] at hline hcolumn
    cases hline
    cases hcolumn
    have heq := hlocation.symm.trans hplace
    injection heq with heq
    omega
  have hchars := hcut.chars_eq
  rw [hoffset] at hearlierOffset
  obtain ⟨-, hleft⟩ := List.append_inj (hearlier.trans hchars) hearlierOffset
  rw [hleft]
  exact hcut

theorem Halts.blames {p : Progress} {e : ReadError} (h : Halts (locationLeft source) p s e)
    (hreached : Reached source p s qs) : ∃ f, e = .fault f ∧ Blames source f := by
  cases h with
  | token hread =>
    obtain ⟨f, hf, htoken⟩ := Token.read_error hread
    exact ⟨f, hf, .token hreached.cut (noToken_of_error hread) htoken⟩
  | step hs hread hstep =>
    obtain ⟨piece, rfl, hw, -⟩ := Token.written_of_read hs hread
    obtain ⟨name, rfl, ⟨hopened, hf⟩ | ⟨top, outer, hopened, hname, hf⟩⟩ := step_error hstep
    · have hcovers := hreached.covers
      rw [hopened] at hcovers
      exact ⟨_, hf, .unexpectedEndTag hreached.cut hw hcovers⟩
    · have hlast := hreached.lastOpen hopened
      obtain ⟨⟨earlier, hearlier⟩, -⟩ :=
        hreached.opened_at top (hopened ▸ List.mem_cons_self)
      have hline : locationLeft source top.place = locationAfter earlier := by
        rw [← hearlier, locationLeft_append]
      rw [hline] at hf
      exact ⟨_, hf, .mismatchedEndTag hreached.cut hw hlast hname hearlier.symm⟩
  | finish hfinish =>
    obtain ⟨top, outer, hopened, hf⟩ := finish_error hfinish
    exact ⟨_, hf, .unclosedTag hreached.cut (hreached.lastOpen hopened)⟩

end Progress

/-- A text that cannot be read has a fault that something is to be blamed for. -/
theorem readChars_blames {e : ReadError} (h : readChars source = .error e) :
    ∃ f, e = .fault f ∧ Blames source f := by
  rw [readChars_eq] at h
  have hstart : ∃ qs, Progress.Reached source {} source qs := ⟨[], Progress.reached_start source⟩
  obtain ⟨p, s, ⟨qs, hreached⟩, hhalts⟩ := Progress.readOn_halts
    (fun p s => ∃ qs, Progress.Reached source p s qs)
    (fun p p' token s rest hs hread hstep ⟨qs, hreached⟩ => hreached.step hs hread hstep) hstart h
  exact hhalts.blames hreached

theorem Fault.OfToken.suffixes {f : Fault} (h : f.OfToken s) : f.place <:+ s ∧ f.cursor <:+ s := by
  cases h with
  | comment => exact ⟨List.suffix_rfl, List.suffix_rfl⟩
  | declaration => exact ⟨List.suffix_rfl, List.suffix_rfl⟩
  | endTag => exact ⟨List.suffix_rfl, List.suffix_rfl⟩
  | startTag => exact ⟨List.suffix_rfl, List.nil_suffix⟩
  | inAttributes h => exact ⟨h.place_suffix, h.cursor_suffix⟩

theorem Fault.OfToken.place_eq {f : Fault} (h : f.OfToken s) (hcause : f.cause.isOfAttribute = false) :
    f.place = s ∧ ∃ t, s = '<' :: t := by
  cases h with
  | comment hopening =>
    obtain ⟨t, rfl⟩ := hopening
    exact ⟨rfl, _, rfl⟩
  | declaration hopening =>
    obtain ⟨t, rfl⟩ | ⟨t, rfl⟩ := hopening
    · exact ⟨rfl, _, rfl⟩
    · exact ⟨rfl, _, rfl⟩
  | endTag hopening =>
    obtain ⟨t, rfl⟩ := hopening
    exact ⟨rfl, _, rfl⟩
  | startTag _ hopening =>
    obtain ⟨t, rfl⟩ := hopening
    exact ⟨rfl, _, rfl⟩
  | inAttributes h =>
    rw [h.cause_eq] at hcause
    cases hcause

theorem Token.Written.opens {token : Token} {piece : List Char} (h : token.Written piece)
    (htext : token.isText = false) : ∃ t, piece = '<' :: t := by
  cases h with
  | text => cases htext
  | _ => exact ⟨_, rfl⟩

theorem LastOpen.place {name : String} {place : List Char} (h : LastOpen source qs name place)
    (hcut : CutUpTo source qs s) : place <:+ source ∧ ∃ t, place = '<' :: t := by
  obtain ⟨before, q, inside, tag, es, hqs, hbefore, htoken, -⟩ := h
  have hw := hcut.written q (by rw [hqs]; simp)
  obtain ⟨t, ht⟩ := hw.opens (by rw [htoken]; rfl)
  have hsame := hbefore.chars_eq.symm.trans (hcut.split hqs).1.chars_eq
  rw [ht] at hsame
  exact ⟨hbefore.suffix, _, List.append_cancel_left hsame⟩

theorem Blames.suffixes {f : Fault} (h : Blames source f) :
    f.place <:+ source ∧ f.cursor <:+ source := by
  cases h with
  | token hcut _ htoken =>
    have hsuffixes := htoken.suffixes
    exact ⟨hsuffixes.1.trans hcut.suffix, hsuffixes.2.trans hcut.suffix⟩
  | unexpectedEndTag hcut _ _ =>
    exact ⟨hcut.suffix, (List.suffix_append _ _).trans hcut.suffix⟩
  | mismatchedEndTag hcut _ _ _ _ =>
    exact ⟨hcut.suffix, (List.suffix_append _ _).trans hcut.suffix⟩
  | unclosedTag hcut hlast => exact ⟨(hlast.place hcut).1, List.nil_suffix⟩

/-- Unless something is wrong among the attributes of a tag, a fault is found at an angle bracket. -/
theorem Blames.opens {f : Fault} (h : Blames source f) (hcause : f.cause.isOfAttribute = false) :
    ∃ t, f.place = '<' :: t := by
  cases h with
  | token _ _ htoken =>
    obtain ⟨hplace, ht⟩ := htoken.place_eq hcause
    rw [hplace]
    exact ht
  | unexpectedEndTag _ hw _ =>
    obtain ⟨t, rfl⟩ := hw.opens rfl
    exact ⟨_, rfl⟩
  | mismatchedEndTag _ hw _ _ _ =>
    obtain ⟨t, rfl⟩ := hw.opens rfl
    exact ⟨_, rfl⟩
  | unclosedTag hcut hlast => exact (hlast.place hcut).2

theorem location_report {f : Fault} {before : List Char} (h : source = before ++ f.place) :
    (f.report source).location = locationAfter before := by
  have hoffset : min ((offsetLeft source f.place : Nat) : Int) source.length = before.length := by
    rw [offsetLeft, h, List.length_append]
    omega
  simp only [Fault.report, reportAt, hoffset]
  rw [h, locate_length]

/-- Reading a document goes forward with every token and every attribute. It gives a forest or a
fault of the text, and nothing else. A fault has a location within the text, and something is to be
blamed for it: what starts at that place is a token that cannot be read or an end tag that closes
nothing or the wrong tag, or it is the last tag that is still open at the end. In each of these cases
an angle bracket stands there, unless the fault is among the attributes of a tag. -/
theorem read_located (source : String) :
    (∃ last, Follow source.toList (scan source.toList).spans last ∧
      ((scan source.toList).stop = none ↔ last = []) ∧
      (scan source.toList).spans.length + last.length ≤ source.toList.length) ∧
    (∀ s a rest, readAttribute (skipBlank s) = .ok (a, rest) → ∃ used, used ≠ [] ∧ s = used ++ rest) ∧
    ((∃ roots, read source = .ok roots) ∨
      ∃ f before, read source = .error (.fault f) ∧ source.toList = before ++ f.place ∧
        f.cursor <:+ source.toList ∧
        (f.report source.toList).location = locationAfter before ∧
        (f.report source.toList).location.Within source.toList ∧
        Blames source.toList f ∧
        (f.cause.isOfAttribute = false → ∃ t, f.place = '<' :: t)) := by
  obtain ⟨last, hfollow, hstop⟩ := follow_scan source.toList
  refine ⟨⟨last, hfollow, hstop, hfollow.length_le⟩, fun s a rest => readAttribute_forward, ?_⟩
  cases hread : read source with
  | ok roots => exact Or.inl ⟨roots, rfl⟩
  | error e =>
    obtain ⟨f, rfl, hblames⟩ := readChars_blames hread
    obtain ⟨⟨before, hbefore⟩, hcursor⟩ := hblames.suffixes
    have hlocation := location_report hbefore.symm
    refine Or.inr ⟨f, before, rfl, hbefore.symm, hcursor, hlocation, ?_, hblames, hblames.opens⟩
    rw [hlocation, ← hbefore]
    exact locationAfter_within before f.place

/-- A tag in the second line that is not closed. -/
theorem read_unclosedTag :
    ∃ f before, read "x\n <p>" = .error (.fault f) ∧ f.cause = .unclosedTag "p" ∧
      "x\n <p>".toList = before ++ f.place ∧
      (f.report "x\n <p>".toList).location = ⟨2, 2⟩ ∧ Blames "x\n <p>".toList f ∧
      ∃ t, f.place = '<' :: t := by
  have hread : read "x\n <p>" = .error (.fault ⟨.unclosedTag "p", "<p>".toList, []⟩) := by
    have hscan : scan "x\n <p>".toList = ⟨[⟨.text "x\n ", "x\n <p>".toList, "<p>".toList⟩,
        ⟨.startTag ⟨"p", [], false⟩, "<p>".toList, []⟩], none⟩ := by
      decide +kernel
    rw [read, readChars, hscan]
    rfl
  obtain ⟨-, -, ⟨roots, hroots⟩ | ⟨f, before, hf, hplace, -, -, -, hblames, hopens⟩⟩ :=
    read_located "x\n <p>"
  · cases hread.symm.trans hroots
  · cases hread.symm.trans hf
    exact ⟨_, before, hf, rfl, hplace, by decide +kernel, hblames, hopens rfl⟩

end WidgetMarkup.Markup
