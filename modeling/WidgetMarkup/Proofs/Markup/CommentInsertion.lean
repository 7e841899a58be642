import WidgetMarkup.Proofs.Markup.Concatenation
import WidgetMarkup.Proofs.Markup.RoundTrip

/-!
# A comment at the start of a line of text

A comment is put into a document right after a line feed that belongs to a run of text. The document
can still be read. The run of text is cut in two there, unless it ends with the line feed, and the tags
are found at other locations; apart from that the forest is the same, at every depth.

The two readings go side by side. Up to the run of text they read the same tokens, since each of them
is complete before the line feed. The run itself takes up to three tokens, and after it the same text
is left.
-/
namespace WidgetMarkup.Markup

/-- The second forest is the first one with other locations of tags and with some texts cut in two
after a line feed. -/
inductive Recut : List Element → List Element → Prop
  | nil : Recut [] []
  | text {data : String} {es es' : List Element} : Recut es es' →
      Recut (.text data :: es) (.text data :: es')
  | cut {line rest : String} {es es' : List Element} : Recut es es' →
      Recut (.text (line ++ "\n" ++ rest) :: es) (.text (line ++ "\n") :: .text rest :: es')
  | tag {start start' : StartTag} {children children' es es' : List Element} :
      start.name = start'.name → start.attributes = start'.attributes → Recut children children' →
      Recut es es' → Recut (.tag start children :: es) (.tag start' children' :: es')

theorem Recut.append {es es' fs fs' : List Element} (h : Recut es es') (h' : Recut fs fs') :
    Recut (es ++ fs) (es' ++ fs') := by
  induction h with
  | nil => exact h'
  | text _ ih => exact .text ih
  | cut _ ih => exact .cut ih
  | tag hname hattributes hchildren _ _ ih => exact .tag hname hattributes hchildren ih

/-- A character of a text, given with what follows it, belongs to a run of text. -/
def InText (source : List Char) (c : Char) (after : List Char) : Prop :=
  ∃ span ∈ (scan source).spans, span.token.isText = true ∧ c :: after <:+ span.start ∧
    span.rest <:+ after

theorem Follow.start_suffix {s last : List Char} {spans : List Span} (h : Follow s spans last) :
    ∀ span ∈ spans, span.start <:+ s := by
  induction h with
  | done => simp
  | @next token piece rest last spans _ _ ih =>
    refine List.forall_mem_cons.2 ⟨List.suffix_rfl, ?_⟩
    intro span hspan
    exact (ih span hspan).trans (List.suffix_append piece rest)

theorem InText.suffix {s after : List Char} {c : Char} (h : InText s c after) :
    c :: after <:+ s := by
  obtain ⟨span, hspan, -, hstart, -⟩ := h
  obtain ⟨last, hfollow, -⟩ := follow_scan s
  exact hstart.trans (hfollow.start_suffix span hspan)

theorem not_inText_nil {c : Char} {after : List Char} : ¬InText [] c after := by
  intro h
  simpa using h.suffix

theorem InText.token_cases {s rest after : List Char} {c : Char} {token : Token}
    (h : InText s c after) (hs : s ≠ []) (hread : Token.read s = .ok (token, rest)) :
    (token.isText = true ∧ rest <:+ after) ∨ InText rest c after := by
  obtain ⟨span, hspan, htext, hstart, hrest⟩ := h
  rw [scan_token hs hread] at hspan
  rcases List.mem_cons.1 hspan with rfl | hspan
  · exact Or.inl ⟨htext, hrest⟩
  · exact Or.inr ⟨span, hspan, htext, hstart, hrest⟩

theorem IsPlain.of_append_left {s t : List Char} (h : IsPlain (s ++ t)) : IsPlain s := by
  rintro v ⟨u, rfl⟩
  rw [Bool.eq_false_iff]
  intro hv
  have hsuffix : v ++ t <:+ u ++ v ++ t := ⟨u, by rw [List.append_assoc]⟩
  have hlonger := h (v ++ t) hsuffix
  rw [startsMarkup_extend hv] at hlonger
  cases hlonger

theorem IsPlain.of_suffix {s t : List Char} (h : IsPlain s) (ht : t <:+ s) : IsPlain t :=
  fun v hv => h v (hv.trans ht)

/-- Markup that starts before a line feed does not depend on what follows it. -/
theorem startsMarkup_before_lineFeed {u s : List Char}
    (h : startsMarkup (u ++ '\n' :: s) = true) (t : List Char) :
    startsMarkup (u ++ '\n' :: t) = true := by
  obtain ⟨c, rest, heq, hc⟩ := startsMarkup_iff.1 h
  match u, heq with
  | [], heq => cases heq
  | [d], heq =>
    cases heq
    exact absurd hc (by decide)
  | d :: e :: v, heq =>
    cases heq
    exact startsMarkup_iff.2 ⟨c, v ++ '\n' :: t, rfl, hc⟩

/-- The characters of a comment. -/
def commentChars (body : List Char) : List Char :=
  ['<', '!', '-', '-'] ++ (body ++ ['-', '-', '>'])

/-- Two open tags that say the same, with the same before them. -/
structure OpenTag.Alike (o o' : OpenTag) : Prop where
  name_eq : o.start.name = o'.start.name
  attributes_eq : o.start.attributes = o'.start.attributes
  before : Recut o.before.reverse o'.before.reverse

namespace Progress

variable {location : List Char → Location}

/-- The same has been assembled, up to locations and texts cut in two. -/
structure Alike (p p' : Progress) : Prop where
  opened : List.Forall₂ OpenTag.Alike p.opened p'.opened
  done : Recut p.done.reverse p'.done.reverse

theorem alike_start : Alike {} {} :=
  ⟨.nil, .nil⟩

theorem Alike.add {p p' : Progress} (h : Alike p p') {e : Element} {es : List Element}
    (he : Recut [e] es) : Alike (p.add e) ⟨p'.opened, es.reverse ++ p'.done⟩ := by
  refine ⟨h.opened, ?_⟩
  rw [Progress.add, List.reverse_cons, List.reverse_append, List.reverse_reverse]
  exact h.done.append he

theorem recut_startAt {location' : List Char → Location} {tag : WrittenTag} {s s' : List Char}
    {children children' : List Element} (h : Recut children children') :
    Recut [.tag (startAt location tag s) children] [.tag (startAt location' tag s') children'] :=
  .tag rfl rfl h .nil

/-- A token that is taken in on one side is taken in on the other, wherever it stands. -/
theorem Alike.step {p p' q : Progress} (h : Alike p p') {token : Token} {s rest : List Char}
    (hstep : p.step location ⟨token, s, rest⟩ = .ok q) (location' : List Char → Location)
    (s' rest' : List Char) :
    ∃ q', p'.step location' ⟨token, s', rest'⟩ = .ok q' ∧ Alike q q' := by
  rcases step_cases hstep with ⟨rfl | rfl, rfl⟩ | ⟨data, rfl, rfl⟩ | ⟨tag, rfl, hclosed, rfl⟩ |
    ⟨tag, rfl, hclosed, rfl⟩ | ⟨top, outer, hopened, rfl, rfl⟩
  · exact ⟨p', rfl, h⟩
  · exact ⟨p', rfl, h⟩
  · exact ⟨_, rfl, h.add (.text .nil)⟩
  · exact ⟨_, step_closed hclosed, h.add (recut_startAt .nil)⟩
  · exact ⟨_, step_opens hclosed, .cons ⟨rfl, rfl, h.done⟩ h.opened, .nil⟩
  · have hopened' := h.opened
    rw [hopened] at hopened'
    cases htop : p'.opened with
    | nil =>
      rw [htop] at hopened'
      cases hopened'
    | cons top' outer' =>
      rw [htop] at hopened'
      obtain ⟨halike, houter⟩ := List.forall₂_cons.1 hopened'
      refine ⟨⟨outer', .tag top'.start p'.done.reverse :: top'.before⟩, ?_, houter, ?_⟩
      · simp only [Progress.step, htop, halike.name_eq, if_true]
      · rw [List.reverse_cons, List.reverse_cons]
        exact halike.before.append (.tag halike.name_eq halike.attributes_eq h.done .nil)

theorem Alike.finish {p p' : Progress} (h : Alike p p') {roots : List Element}
    (hfinish : p.finish = .ok roots) : ∃ roots', p'.finish = .ok roots' ∧ Recut roots roots' := by
  obtain ⟨opened, done⟩ := p
  obtain ⟨opened', done'⟩ := p'
  cases h.opened with
  | nil =>
    cases hfinish
    exact ⟨done'.reverse, rfl, h.done⟩
  | cons _ _ => cases hfinish

theorem readOn_returns (Inv : Progress → List Char → Prop)
    (hpres : ∀ p p' token s rest, s ≠ [] → Token.read s = .ok (token, rest) →
      p.step location ⟨token, s, rest⟩ = .ok p' → Inv p s → Inv p' rest)
    {p : Progress} {s : List Char} {roots : List Element} (hinv : Inv p s)
    (h : p.readOn location s = .ok roots) : ∃ p', Inv p' [] ∧ p'.finish = .ok roots := by
  -- every token leaves less of the text
  induction hlength : s.length using Nat.strong_induction_on generalizing s p with
  | _ n ih =>
    by_cases hs : s = []
    · subst hs
      rw [readOn_nil] at h
      exact ⟨p, hinv, h⟩
    · cases hread : Token.read s with
      | error e =>
        rw [readOn_error hs hread] at h
        cases h
      | ok r =>
        obtain ⟨token, rest⟩ := r
        rw [readOn_token hs hread] at h
        cases hstep : p.step location ⟨token, s, rest⟩ with
        | error e =>
          rw [hstep] at h
          cases h
        | ok p' =>
          rw [hstep] at h
          have hlt : rest.length < n := hlength ▸ Token.length_read_lt hs hread
          exact ih _ hlt (hpres p p' token s rest hs hread hstep hinv) h rfl

variable {body after : List Char}

/-- The run of text with the comment in it takes in the same text, in one piece or in two. -/
theorem readOn_commented {u rest : List Char} {p p' : Progress} (h : Alike p p')
    (hbody : ¬['-', '-', '>'] <:+: body) (hplain : IsPlain (u ++ '\n' :: after))
    (hends : rest = [] ∨ startsMarkup rest = true) (location : List Char → Location) :
    ∃ q', p'.readOn location (u ++ '\n' :: (commentChars body ++ (after ++ rest))) =
        q'.readOn location rest ∧
      Alike (p.add (.text (String.ofList (u ++ '\n' :: after)))) q' := by
  have hline : String.ofList (u ++ ['\n']) = String.ofList u ++ "\n" := String.ofList_append
  have hsplit : u ++ '\n' :: (commentChars body ++ (after ++ rest)) =
      (String.ofList (u ++ ['\n'])).toList ++ (commentChars body ++ (after ++ rest)) := by
    rw [String.toList_ofList, List.append_assoc]
    rfl
  have hplainLine : IsPlain (String.ofList (u ++ ['\n'])).toList := by
    rw [String.toList_ofList]
    apply IsPlain.of_append_left (t := after)
    rwa [List.append_assoc]
  have hne : String.ofList (u ++ ['\n']) ≠ "" := by simp
  rw [hsplit, readOn_text hne hplainLine p' (Or.inr rfl), commentChars, readOn_comment hbody]
  cases after with
  | nil => exact ⟨_, rfl, h.add (.text .nil)⟩
  | cons c after =>
    have hplainRest : IsPlain (String.ofList (c :: after)).toList := by
      rw [String.toList_ofList]
      exact hplain.of_suffix ⟨u ++ ['\n'], by rw [List.append_assoc]; rfl⟩
    have hneRest : String.ofList (c :: after) ≠ "" := by simp
    have hread : ∀ q : Progress, q.readOn location (c :: after ++ rest) =
        (q.add (.text (String.ofList (c :: after)))).readOn location rest := by
      intro q
      rw [← readOn_text hneRest hplainRest q hends, String.toList_ofList]
    have hdata : String.ofList (u ++ '\n' :: c :: after) =
        String.ofList u ++ "\n" ++ String.ofList (c :: after) := by
      rw [← hline, ← String.ofList_append, List.append_assoc]
      rfl
    rw [hread, hdata, hline]
    exact ⟨_, rfl, h.add (.cut .nil)⟩

/-- How the reading of the document with the comment keeps up: before the run of text the comment is
still to come, and after it the same text is left. -/
inductive KeepsUp (source body after : List Char) : Progress → List Char → Prop
  | before {p p' : Progress} {u : List Char} : InText (u ++ '\n' :: after) '\n' after →
      Alike p p' →
      readChars source =
        p'.readOn (locationLeft source) (u ++ '\n' :: (commentChars body ++ after)) →
      KeepsUp source body after p (u ++ '\n' :: after)
  | after {p p' : Progress} {s : List Char} : Alike p p' →
      readChars source = p'.readOn (locationLeft source) s → KeepsUp source body after p s

theorem KeepsUp.step {source s rest : List Char} {p q : Progress} {token : Token}
    (hbody : ¬['-', '-', '>'] <:+: body) (h : KeepsUp source body after p s) (hs : s ≠ [])
    (hread : Token.read s = .ok (token, rest))
    (hstep : p.step location ⟨token, s, rest⟩ = .ok q) : KeepsUp source body after q rest := by
  obtain ⟨piece, hpiece, hw, hends⟩ := Token.written_of_read hs hread
  cases h with
  | @after p' _ halike hsame =>
    obtain ⟨q', hstep', halike'⟩ := halike.step hstep (locationLeft source) s rest
    refine .after halike' ?_
    rw [hsame, readOn_token hs hread, hstep']
    rfl
  | @before p' u hin halike hsame =>
    rcases hin.token_cases hs hread with ⟨htext, later, rfl⟩ | hlater
    · -- the token is the run of text that holds the line feed
      cases hw with
      | text hne hplain =>
        have hdata : piece = u ++ '\n' :: later := by
          rw [← List.cons_append, ← List.append_assoc] at hpiece
          exact (List.append_cancel_right hpiece).symm
        subst hdata
        cases hstep
        obtain ⟨q', hreads, halike'⟩ :=
          readOn_commented halike hbody hplain (hends rfl) (locationLeft source)
        exact .after halike' (hsame.trans hreads)
      | _ => cases htext
    · -- the token ends before, and what follows the line feed does not matter to it
      obtain ⟨v, rfl⟩ := hlater.suffix
      have hu : u = piece ++ v := by
        rw [← List.append_assoc] at hpiece
        exact List.append_cancel_right hpiece
      subst hu
      have hends' : token.EndsBefore (v ++ '\n' :: (commentChars body ++ after)) := by
        intro htext
        rcases hends htext with hnil | hmarkup
        · simp at hnil
        · exact Or.inr (startsMarkup_before_lineFeed hmarkup _)
      obtain ⟨q', hstep', halike'⟩ := halike.step hstep (locationLeft source)
        (piece ++ (v ++ '\n' :: (commentChars body ++ after)))
        (v ++ '\n' :: (commentChars body ++ after))
      refine .before hlater halike' ?_
      rw [hsame, List.append_assoc, readOn_written hw hends', hstep']
      rfl

end Progress

/-- A document with a comment put in after a line feed of a text is read, and its forest differs in
locations and in that text only. -/
theorem readChars_commented {before after body : List Char} {roots : List Element}
    (h : readChars (before ++ '\n' :: after) = .ok roots)
    (hin : InText (before ++ '\n' :: after) '\n' after) (hbody : ¬['-', '-', '>'] <:+: body) :
    ∃ roots', readChars (before ++ '\n' :: (commentChars body ++ after)) = .ok roots' ∧
      Recut roots roots' := by
  rw [readChars_eq] at h
  obtain ⟨p, hkeeps, hfinish⟩ := Progress.readOn_returns
    (Progress.KeepsUp (before ++ '\n' :: (commentChars body ++ after)) body after)
    (fun p p' token s rest hs hread hstep hkeeps => hkeeps.step hbody hs hread hstep)
    (.before hin Progress.alike_start rfl) h
  generalize hnil : ([] : List Char) = s at hkeeps
  cases hkeeps with
  | before hin' _ _ =>
    rw [← hnil] at hin'
    exact absurd hin' not_inText_nil
  | @after p' _ halike hsame =>
    obtain ⟨roots', hfinish', hrecut⟩ := halike.finish hfinish
    refine ⟨roots', ?_, hrecut⟩
    rw [hsame, ← hnil, Progress.readOn_nil]
    exact hfinish'

end WidgetMarkup.Markup
