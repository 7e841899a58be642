import WidgetMarkup.Proofs.Markup.Concatenation

/-!
# End tags out of place

An end tag that closes nothing, or not the tag opened last, is reported where it stands, and no text
behind it can change that: every token up to it is complete, the runs of text before it end where
markup starts, and the lines are counted from the start. So the report names the same end tag at the
same location when the text goes on; only the line shown below it may get longer.

Other faults are not of this kind. A tag, a comment or a value that is not terminated can be completed
by more text, and a tag that is not closed can be closed.
-/
namespace WidgetMarkup.Markup

/-- An end tag closes nothing, or another tag than the one opened last. -/
def Cause.isOfNesting : Cause → Bool
  | unexpectedEndTag _ => true
  | mismatchedEndTag _ _ _ => true
  | _ => false

/-- The same fault in a text that goes on. -/
def Fault.extended (t : List Char) (f : Fault) : Fault :=
  { f with place := f.place ++ t, cursor := f.cursor ++ t }

theorem Fault.OfToken.isOfNesting_eq {f : Fault} {s : List Char} (h : f.OfToken s) :
    f.cause.isOfNesting = false := by
  cases h with
  | inAttributes hattribute =>
    have hcause := hattribute.cause_eq
    cases hf : f.cause with
    | unexpectedEndTag name =>
      rw [hf] at hcause
      cases hcause
    | mismatchedEndTag name opened line =>
      rw [hf] at hcause
      cases hcause
    | _ => rfl
  | _ => rfl

/-- What a report says is wrong: the first line of its message, before which a line is left empty. -/
def Report.headline (r : Report) : List Char :=
  (r.message.toList.drop 1).takeWhile (· ≠ '\n')

theorem takeWhile_append_lineFeed (s t : List Char) :
    (s ++ '\n' :: t).takeWhile (· ≠ '\n') = s.takeWhile (· ≠ '\n') := by
  induction s with
  | nil => rfl
  | cons c s ih =>
    rw [List.cons_append, List.takeWhile_cons, List.takeWhile_cons, ih]

theorem headline_report (source : List Char) (f : Fault) :
    (f.report source).headline = f.cause.message.toList.takeWhile (· ≠ '\n') := by
  have hmessage : ∃ rest, (f.report source).message.toList =
      '\n' :: (f.cause.message.toList ++ '\n' :: rest) := by
    simp only [Fault.report, reportAt, String.toList_append, List.append_assoc]
    exact ⟨_, rfl⟩
  obtain ⟨rest, hrest⟩ := hmessage
  rw [Report.headline, hrest, List.drop_succ_cons, List.drop_zero, takeWhile_append_lineFeed]

theorem location_extended {source : List Char} {f : Fault} (h : f.place <:+ source) (t : List Char) :
    ((f.extended t).report (source ++ t)).location = (f.report source).location := by
  obtain ⟨earlier, hearlier⟩ := h
  have hlonger : source ++ t = earlier ++ (f.extended t).place := by
    rw [← hearlier, List.append_assoc]
    rfl
  rw [location_report hlonger, location_report hearlier.symm]

namespace Progress

theorem step_error_extended {location location' : List Char → Location} {p : Progress}
    {token : Token} {s rest t : List Char} {f : Fault}
    (hopened : ∀ o ∈ p.opened, location' (o.place ++ t) = location o.place)
    (h : p.step location ⟨token, s, rest⟩ = .error (.fault f)) :
    (p.extended t).step location' ⟨token, s ++ t, rest ++ t⟩ = .error (.fault (f.extended t)) := by
  obtain ⟨name, rfl, ⟨hnone, hf⟩ | ⟨top, outer, htop, hname, hf⟩⟩ := step_error h
  · cases hf
    simp only [step, extended, hnone, List.map_nil]
    rfl
  · cases hf
    have hline := hopened top (htop ▸ List.mem_cons_self)
    simp only [step, extended, htop, List.map_cons, hname, if_false, hline]
    rfl

/-- Reading a text that goes on has come to the same place, with the same progress. -/
structure Shared (source t : List Char) (p : Progress) (s : List Char) : Prop where
  suffix : s <:+ source
  opened : ∀ o ∈ p.opened, o.place <:+ source
  readChars_eq : readChars (source ++ t) =
    (p.extended t).readOn (locationLeft (source ++ t)) (s ++ t)

theorem shared_start (source t : List Char) : Shared source t {} source :=
  ⟨List.suffix_rfl, by simp, rfl⟩

/-- A token that more text can follow is taken in by both readings. -/
theorem Shared.step {source t s rest : List Char} {p p' : Progress} {token : Token}
    (h : Shared source t p s) (hs : s ≠ []) (hread : Token.read s = .ok (token, rest))
    (hstep : p.step (locationLeft source) ⟨token, s, rest⟩ = .ok p') (hrest : rest ≠ []) :
    Shared source t p' rest where
  suffix := (Token.suffix_of_read hs hread).trans h.suffix
  opened := opened_step h.suffix h.opened hstep
  readChars_eq := by
    have hs' : s ++ t ≠ [] := List.append_ne_nil_of_left_ne_nil hs t
    have hread' := Token.read_extended hs hread (fun hend => hrest hend.2) t
    have hstep' := step_extended (locationLeft_extended h.suffix t) hstep
    rw [h.readChars_eq, readOn_token hs' hread', hstep']
    rfl

end Progress

theorem readChars_extended {source : List Char} {f : Fault}
    (h : readChars source = .error (.fault f)) (hcause : f.cause.isOfNesting = true)
    (t : List Char) : readChars (source ++ t) = .error (.fault (f.extended t)) := by
  rw [readChars_eq] at h
  -- the readings part only at the end of the shorter text, where no end tag is left
  obtain ⟨p, s, hshared, hhalts⟩ := Progress.readOn_halts
    (fun p s => s = [] ∨ Progress.Shared source t p s)
    (fun p p' token s rest hs hread hstep hinv => by
      by_cases hrest : rest = []
      · exact Or.inl hrest
      · exact Or.inr ((hinv.resolve_left hs).step hs hread hstep hrest))
    (Or.inr (Progress.shared_start source t)) h
  cases hhalts with
  | token hread =>
    obtain ⟨_, hf, htoken⟩ := Token.read_error hread
    cases hf
    rw [htoken.isOfNesting_eq] at hcause
    cases hcause
  | finish hfinish =>
    obtain ⟨top, outer, -, hf⟩ := Progress.finish_error hfinish
    cases hf
    cases hcause
  | step hs hread hstep =>
    have hshared := hshared.resolve_left hs
    obtain ⟨name, rfl, -⟩ := Progress.step_error hstep
    have hs' : s ++ t ≠ [] := List.append_ne_nil_of_left_ne_nil hs t
    have hread' := Token.read_extended hs hread (fun hend => by cases hend.1) t
    have hstep' := Progress.step_error_extended
      (fun o ho => locationLeft_extended (hshared.opened o ho) t) hstep
    rw [hshared.readChars_eq, Progress.readOn_token hs' hread', hstep']
    rfl

/-- An end tag that closes nothing, or not the tag opened last, is reported in the same way whatever
text follows: with the same cause, the same first line of the message, and the same location. -/
theorem read_nestingFault {source : String} {f : Fault} (h : read source = .error (.fault f))
    (hcause : f.cause.isOfNesting = true) (more : String) :
    ∃ g, read (source ++ more) = .error (.fault g) ∧ g.cause = f.cause ∧
      (g.report (source ++ more).toList).headline = (f.report source.toList).headline ∧
      (g.report (source ++ more).toList).location = (f.report source.toList).location := by
  obtain ⟨_, hf, hblames⟩ := readChars_blames h
  cases hf
  refine ⟨f.extended more.toList, ?_, rfl, ?_, ?_⟩
  · rw [read, String.toList_append]
    exact readChars_extended h hcause more.toList
  · rw [headline_report, headline_report]
    rfl
  · rw [String.toList_append]
    exact location_extended hblames.suffixes.1 more.toList

/-- The wrong end tag in the second line; what follows would be at fault too. -/
theorem read_nestingFault_secondLine :
    ∃ g, read ("<p>\n </b>" ++ "</p></i><") = .error (.fault g) ∧
      g.cause = .mismatchedEndTag "b" "p" 1 ∧
      (g.report ("<p>\n </b>" ++ "</p></i><").toList).headline =
        "End tag </b> does not match <p> opened at line 1".toList ∧
      (g.report ("<p>\n </b>" ++ "</p></i><").toList).location = ⟨2, 2⟩ := by
  have hread : read "<p>\n </b>" =
      .error (.fault ⟨.mismatchedEndTag "b" "p" 1, "</b>".toList, []⟩) := by
    have hscan : scan "<p>\n </b>".toList =
        ⟨[⟨.startTag ⟨"p", [], false⟩, "<p>\n </b>".toList, "\n </b>".toList⟩,
          ⟨.text "\n ", "\n </b>".toList, "</b>".toList⟩,
          ⟨.endTag "b", "</b>".toList, []⟩], none⟩ := by
      decide +kernel
    rw [read, readChars, hscan]
    rfl
  obtain ⟨g, hg, hcause, hheadline, hlocation⟩ := read_nestingFault hread rfl "</p></i><"
  refine ⟨g, hg, hcause, hheadline.trans ?_, hlocation.trans (by decide +kernel)⟩
  rw [headline_report]
  decide +kernel

end WidgetMarkup.Markup
