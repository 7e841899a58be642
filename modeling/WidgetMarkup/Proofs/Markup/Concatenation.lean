import WidgetMarkup.Proofs.Markup.FaultPlaces

/-!
# Documents one after the other

A document that can be read and does not end in text is read in the same way whatever follows it: no
token of it depends on more than its own characters. After it no tag is open, so what follows is read
as if it stood alone, and only the locations in it are moved. A text at the end is the exception,
since the first text of what follows would be joined to it.

Two runs are compared in turn. The first one reads the document with and without more text behind
it; the second one reads what follows with and without the document before it.
-/
namespace WidgetMarkup.Markup

open Text

/-- A location, seen in the text that has another one before it. The first line goes on where the
other text ends. -/
def Location.moved (before : List Char) (l : Location) : Location :=
  ⟨l.line + before.count '\n',
    if l.line = 1 then l.column + (lastLine before).length else l.column⟩

theorem lastLine_lengthened {s : List Char} (h : '\n' ∉ s) (before : List Char) :
    lastLine (before ++ s) = lastLine before ++ s := by
  have hreverse : '\n' ∉ s.reverse := by rwa [List.mem_reverse]
  rw [lastLine, List.rtakeWhile, List.reverse_append, takeWhile_append_of_not_mem hreverse,
    List.reverse_append, List.reverse_reverse]
  rfl

theorem locationAfter_append (before s : List Char) :
    locationAfter (before ++ s) = (locationAfter s).moved before := by
  have hline : ((before ++ s).count '\n' : Int) + 1 = s.count '\n' + 1 + before.count '\n' := by
    rw [List.count_append]
    omega
  rcases exists_lastLine s with hnone | ⟨earlier, last, rfl, hlast⟩
  · have hfirst : ((s.count '\n' : Nat) : Int) + 1 = 1 := by
      rw [List.count_eq_zero.2 hnone]
      rfl
    have hcolumn : ((lastLine (before ++ s)).length : Int) + 1 =
        (lastLine s).length + 1 + (lastLine before).length := by
      rw [lastLine_lengthened hnone, lastLine_of_not_mem hnone, List.length_append]
      omega
    rw [locationAfter, locationAfter, Location.moved, if_pos hfirst, hline, hcolumn]
  · have hlater : ((((earlier ++ '\n' :: last).count '\n' : Nat) : Int) + 1) ≠ 1 := by
      rw [List.count_append, List.count_cons_self]
      omega
    have hcolumn : lastLine (before ++ (earlier ++ '\n' :: last)) =
        lastLine (earlier ++ '\n' :: last) := by
      rw [← List.append_assoc, lastLine_append hlast, lastLine_append hlast]
    rw [locationAfter, locationAfter, Location.moved, if_neg hlater, hline, hcolumn]

theorem locationLeft_extended {source place : List Char} (h : place <:+ source) (t : List Char) :
    locationLeft (source ++ t) (place ++ t) = locationLeft source place := by
  obtain ⟨earlier, rfl⟩ := h
  rw [List.append_assoc, locationLeft_append, locationLeft_append]

/-- A place in a text has its location moved when another text stands before it. -/
theorem locationLeft_moved {source place : List Char} (h : place <:+ source) (before : List Char) :
    locationLeft (before ++ source) place = (locationLeft source place).moved before := by
  obtain ⟨earlier, rfl⟩ := h
  rw [← List.append_assoc, locationLeft_append, locationLeft_append, locationAfter_append]

/-- A tag with its location moved, if it has one. -/
def StartTag.moved (before : List Char) (start : StartTag) : StartTag :=
  match start.line, start.column with
  | some line, some column =>
    { start with
      line := some ((⟨line, column⟩ : Location).moved before).line
      column := some ((⟨line, column⟩ : Location).moved before).column }
  | _, _ => start

theorem StartTag.name_moved (before : List Char) (start : StartTag) :
    (start.moved before).name = start.name := by
  unfold StartTag.moved
  split
  · rfl
  · rfl

mutual

/-- An element with the locations of all its tags moved. -/
def Element.moved (before : List Char) : Element → Element
  | .text data => .text data
  | .tag start children => .tag (start.moved before) (movedAll before children)

def movedAll (before : List Char) : List Element → List Element
  | [] => []
  | e :: es => e.moved before :: movedAll before es

end

theorem movedAll_eq_map (before : List Char) (es : List Element) :
    movedAll before es = es.map (Element.moved before) := by
  induction es with
  | nil => rfl
  | cons e es ih => rw [movedAll, ih, List.map_cons]

theorem movedAll_reverse (before : List Char) (es : List Element) :
    movedAll before es.reverse = (movedAll before es).reverse := by
  rw [movedAll_eq_map, movedAll_eq_map, List.map_reverse]

/-- A cause with the line that it names moved. -/
def Cause.moved (before : List Char) : Cause → Cause
  | mismatchedEndTag name opened line =>
    mismatchedEndTag name opened (line + before.count '\n')
  | cause => cause

/-- A fault is placed by the text that is left, so its places stay as they are. -/
def Fault.moved (before : List Char) (f : Fault) : Fault :=
  { f with cause := f.cause.moved before }

def ReadError.moved (before : List Char) : ReadError → ReadError
  | .fault f => .fault (f.moved before)
  | e => e

theorem Fault.OfToken.moved {f : Fault} {s : List Char} (h : f.OfToken s) (before : List Char) :
    f.moved before = f := by
  cases h with
  | inAttributes hattribute =>
    obtain ⟨cause, place, cursor⟩ := f
    have hcause := hattribute.cause_eq
    cases cause with
    | mismatchedEndTag name opened line => cases hcause
    | _ => rfl
  | _ => rfl

/-- What is read from a text, seen in the text that has another one with these roots before it. -/
def readAfter (before : List Char) (roots : List Element)
    (r : Except ReadError (List Element)) : Except ReadError (List Element) :=
  (r.map fun es => roots ++ movedAll before es).mapError (ReadError.moved before)

/-- The forest is empty or its last root is a tag. -/
def EndsInTag (roots : List Element) : Prop :=
  roots = [] ∨ ∃ others start children, roots = others ++ [.tag start children]

theorem not_endsInTag_text (others : List Element) (data : String) :
    ¬EndsInTag (others ++ [.text data]) := by
  rintro (hnil | ⟨others', start, children, heq⟩)
  · simp at hnil
  · have hlast := (List.append_inj' heq rfl).2
    cases hlast

/-- A token is read in the same way when the text goes on, unless it is text up to the end. -/
theorem Token.read_extended {s rest : List Char} {token : Token} (hs : s ≠ [])
    (h : Token.read s = .ok (token, rest)) (hrest : ¬(token.isText = true ∧ rest = []))
    (t : List Char) : Token.read (s ++ t) = .ok (token, rest ++ t) := by
  obtain ⟨piece, rfl, hw, hends⟩ := Token.written_of_read hs h
  rw [List.append_assoc]
  apply hw.read
  intro htext
  rcases hends htext with hnil | hmarkup
  · exact absurd ⟨htext, hnil⟩ hrest
  · exact Or.inr (startsMarkup_extend hmarkup)

theorem Token.suffix_of_read {s rest : List Char} {token : Token} (hs : s ≠ [])
    (h : Token.read s = .ok (token, rest)) : rest <:+ s := by
  obtain ⟨piece, hpiece, -⟩ := Token.written_of_read hs h
  exact ⟨piece, hpiece.symm⟩

namespace Progress

/-- The same progress in a text that goes on. -/
def extended (t : List Char) (p : Progress) : Progress :=
  { p with opened := p.opened.map fun o => { o with place := o.place ++ t } }

section StartTags

variable {location : List Char → Location} {p : Progress} {tag : WrittenTag} {s rest : List Char}

theorem step_closed (h : tag.closed = true) :
    p.step location ⟨.startTag tag, s, rest⟩ = .ok (p.add (.tag (startAt location tag s) [])) := by
  simp only [step, h, if_true]
  rfl

theorem step_opens (h : tag.closed = false) :
    p.step location ⟨.startTag tag, s, rest⟩ =
      .ok ⟨⟨startAt location tag s, s, p.done⟩ :: p.opened, []⟩ := by
  simp only [step, h, Bool.false_eq_true, if_false]
  rfl

end StartTags

theorem startAt_congr {location location' : List Char → Location} {s s' : List Char}
    (h : location s = location' s') (tag : WrittenTag) :
    startAt location tag s = startAt location' tag s' := by
  rw [startAt, startAt, h]

theorem step_extended {location location' : List Char → Location} {p p' : Progress}
    {token : Token} {s rest t : List Char} (hlocation : location' (s ++ t) = location s)
    (h : p.step location ⟨token, s, rest⟩ = .ok p') :
    (p.extended t).step location' ⟨token, s ++ t, rest ++ t⟩ = .ok (p'.extended t) := by
  have hstart := startAt_congr hlocation
  rcases step_cases h with ⟨rfl | rfl, rfl⟩ | ⟨data, rfl, rfl⟩ | ⟨tag, rfl, hclosed, rfl⟩ |
    ⟨tag, rfl, hclosed, rfl⟩ | ⟨top, outer, hopened, rfl, rfl⟩
  · rfl
  · rfl
  · rfl
  · rw [step_closed hclosed, hstart]
    rfl
  · rw [step_opens hclosed, hstart]
    rfl
  · simp only [step, extended, hopened, List.map_cons, if_true]

theorem not_isText_of_endsInTag {location : List Char → Location} {p p' : Progress}
    {token : Token} {s : List Char} {roots : List Element}
    (hstep : p.step location ⟨token, s, []⟩ = .ok p') (h : p'.finish = .ok roots)
    (hroots : EndsInTag roots) : ¬token.isText = true := by
  intro htext
  cases token with
  | text data =>
    have hp' : p.add (.text data) = p' := Except.ok.inj hstep
    subst hp'
    unfold finish at h
    split at h
    · cases h
      rw [add, List.reverse_cons] at hroots
      exact not_endsInTag_text _ _ hroots
    · cases h
  | _ => cases htext

/-- A document that does not end in text is read to its end, and what follows comes after its
roots. -/
theorem readOn_extended {location location' : List Char → Location} {source t : List Char}
    (hlocation : ∀ place, place <:+ source → location' (place ++ t) = location place)
    {s : List Char} (hsource : s <:+ source) {p : Progress} {roots : List Element}
    (h : p.readOn location s = .ok roots) (hroots : EndsInTag roots) :
    (p.extended t).readOn location' (s ++ t) =
      (⟨[], roots.reverse⟩ : Progress).readOn location' t := by
  -- every token leaves less of the text
  induction hlength : s.length using Nat.strong_induction_on generalizing s p with
  | _ n ih =>
    by_cases hs : s = []
    · subst hs
      obtain ⟨opened, done⟩ := p
      rw [readOn_nil, finish] at h
      cases opened with
      | nil =>
        cases h
        rw [List.nil_append, List.reverse_reverse]
        rfl
      | cons top outer => cases h
    · cases hread : Token.read s with
      | error e =>
        rw [readOn_error hs hread] at h
        cases h
      | ok r =>
        obtain ⟨token, rest⟩ := r
        rw [readOn_token hs hread] at h
        cases hstep : p.step location ⟨token, s, rest⟩ with
        | error e =>
          rw [hstep] at h
          cases h
        | ok p' =>
          rw [hstep] at h
          have hlt : rest.length < n := hlength ▸ Token.length_read_lt hs hread
          have hrestSource : rest <:+ source := (Token.suffix_of_read hs hread).trans hsource
          have hgoesOn : ¬(token.isText = true ∧ rest = []) := by
            rintro ⟨htext, rfl⟩
            have hfinish : p'.finish = .ok roots := by
              rw [← readOn_nil location]
              exact h
            exact not_isText_of_endsInTag hstep hfinish hroots htext
          have hread' := Token.read_extended hs hread hgoesOn t
          have hstep' := step_extended (hlocation s hsource) hstep
          have hs' : s ++ t ≠ [] := fun hnil => hs (List.append_eq_nil_iff.1 hnil).1
          rw [readOn_token hs' hread', hstep']
          exact ih _ hlt hrestSource h rfl

/-- The elements done in the innermost open tag, or at the root after those of the document
before. -/
def settled (before : List Char) (base : List Element) :
    List OpenTag → List Element → List Element
  | [], done => movedAll before done ++ base
  | _ :: _, done => movedAll before done

def movedOpened (before : List Char) (base : List Element) : List OpenTag → List OpenTag
  | [] => []
  | top :: outer =>
    ⟨top.start.moved before, top.place, settled before base outer top.before⟩ ::
      movedOpened before base outer

/-- The same progress in a text that has another one before it: the locations are moved, and the
elements of the other text, the last one first, are the first ones at the root. -/
def movedOnto (before : List Char) (base : List Element) (p : Progress) : Progress :=
  ⟨movedOpened before base p.opened, settled before base p.opened p.done⟩

variable (before : List Char) (base : List Element)

theorem settled_cons (opened : List OpenTag) (e : Element) (done : List Element) :
    settled before base opened (e :: done) = e.moved before :: settled before base opened done := by
  cases opened with
  | nil => rfl
  | cons top outer => rfl

theorem movedOnto_add (p : Progress) (e : Element) :
    (p.add e).movedOnto before base = (p.movedOnto before base).add (e.moved before) := by
  simp only [movedOnto, add, settled_cons]

theorem movedOnto_close (top : OpenTag) (outer : List OpenTag) (done : List Element) :
    movedOnto before base ⟨outer, .tag top.start done.reverse :: top.before⟩ =
      ⟨movedOpened before base outer, .tag (top.start.moved before)
        (settled before base (top :: outer) done).reverse ::
          settled before base outer top.before⟩ := by
  have hinside : settled before base (top :: outer) done = movedAll before done := rfl
  rw [movedOnto, hinside, ← movedAll_reverse, settled_cons]
  rfl

theorem finish_movedOnto (p : Progress) :
    (p.movedOnto before base).finish = readAfter before base.reverse p.finish := by
  obtain ⟨opened, done⟩ := p
  cases opened with
  | nil =>
    simp only [finish, movedOnto, movedOpened, settled, List.reverse_append, ← movedAll_reverse]
    rfl
  | cons top outer =>
    simp only [finish, movedOnto, movedOpened, StartTag.name_moved]
    rfl

variable {before base} {location location' : List Char → Location}

theorem startAt_moved {s : List Char} (h : location' s = (location s).moved before)
    (tag : WrittenTag) : startAt location' tag s = (startAt location tag s).moved before := by
  rw [startAt, h]
  rfl

/-- A token is taken in, or refused, as it is without the document before. -/
theorem step_movedOnto {p : Progress} {token : Token} {s rest : List Char}
    (hlocation : location' s = (location s).moved before)
    (hopened : ∀ o ∈ p.opened, location' o.place = (location o.place).moved before) :
    (p.movedOnto before base).step location' ⟨token, s, rest⟩ =
      ((p.step location ⟨token, s, rest⟩).map (movedOnto before base)).mapError
        (ReadError.moved before) := by
  cases token with
  | comment => rfl
  | declaration => rfl
  | text data =>
    have hadd := movedOnto_add before base p (.text data)
    exact congrArg Except.ok hadd.symm
  | startTag tag =>
    have hstart := startAt_moved hlocation tag
    cases hclosed : tag.closed with
    | true =>
      have hadd := movedOnto_add before base p (.tag (startAt location tag s) [])
      rw [step_closed hclosed, step_closed hclosed, hstart]
      exact congrArg Except.ok hadd.symm
    | false =>
      rw [step_opens hclosed, step_opens hclosed, hstart]
      rfl
  | endTag name =>
    obtain ⟨opened, done⟩ := p
    cases opened with
    | nil => rfl
    | cons top outer =>
      have hname := StartTag.name_moved before top.start
      by_cases hmatch : top.start.name = name
      · have hclose := movedOnto_close before base top outer done
        simp only [step, movedOnto, movedOpened, hname, hmatch, if_true]
        exact congrArg Except.ok hclose.symm
      · have hplace := hopened top List.mem_cons_self
        simp only [step, movedOnto, movedOpened, hname, hmatch, if_false, hplace]
        rfl

theorem opened_step {source s rest : List Char} {p p' : Progress} {token : Token}
    (hsource : s <:+ source) (hopened : ∀ o ∈ p.opened, o.place <:+ source)
    (h : p.step location ⟨token, s, rest⟩ = .ok p') : ∀ o ∈ p'.opened, o.place <:+ source := by
  rcases step_cases h with ⟨-, rfl⟩ | ⟨data, -, rfl⟩ | ⟨tag, -, -, rfl⟩ | ⟨tag, -, -, rfl⟩ |
    ⟨top, outer, htop, -, rfl⟩
  · exact hopened
  · exact hopened
  · exact hopened
  · exact List.forall_mem_cons.2 ⟨hsource, hopened⟩
  · intro o ho
    exact hopened o (htop ▸ List.mem_cons_of_mem top ho)

/-- A text is read as it is without the document before. -/
theorem readOn_movedOnto {source : List Char}
    (hlocation : ∀ place, place <:+ source → location' place = (location place).moved before)
    {s : List Char} (hsource : s <:+ source) {p : Progress}
    (hopened : ∀ o ∈ p.opened, o.place <:+ source) :
    (p.movedOnto before base).readOn location' s =
      readAfter before base.reverse (p.readOn location s) := by
  induction hlength : s.length using Nat.strong_induction_on generalizing s p with
  | _ n ih =>
    by_cases hs : s = []
    · rw [hs, readOn_nil, readOn_nil, finish_movedOnto]
    · cases hread : Token.read s with
      | error e =>
        obtain ⟨f, rfl, htoken⟩ := Token.read_error hread
        rw [readOn_error hs hread, readOn_error hs hread]
        exact congrArg (fun f => Except.error (ReadError.fault f)) (htoken.moved before).symm
      | ok r =>
        obtain ⟨token, rest⟩ := r
        have hstep : (p.movedOnto before base).step location' ⟨token, s, rest⟩ =
            ((p.step location ⟨token, s, rest⟩).map (movedOnto before base)).mapError
              (ReadError.moved before) :=
          step_movedOnto (hlocation s hsource) fun o ho => hlocation o.place (hopened o ho)
        rw [readOn_token hs hread, readOn_token hs hread, hstep]
        cases hstep' : p.step location ⟨token, s, rest⟩ with
        | error e => rfl
        | ok p' =>
          have hlt : rest.length < n := hlength ▸ Token.length_read_lt hs hread
          have hrestSource : rest <:+ source := (Token.suffix_of_read hs hread).trans hsource
          exact ih _ hlt hrestSource (opened_step hsource hopened hstep') rfl

end Progress

theorem readChars_append {s t : List Char} {roots : List Element} (h : readChars s = .ok roots)
    (hroots : EndsInTag roots) : readChars (s ++ t) = readAfter s roots (readChars t) := by
  have hfirst : readChars (s ++ t) =
      (⟨[], roots.reverse⟩ : Progress).readOn (locationLeft (s ++ t)) t :=
    Progress.readOn_extended (fun place hplace => locationLeft_extended hplace t)
      List.suffix_rfl h hroots
  have hsecond : (Progress.movedOnto s roots.reverse {}).readOn (locationLeft (s ++ t)) t =
      readAfter s roots.reverse.reverse (readChars t) :=
    Progress.readOn_movedOnto (fun place hplace => locationLeft_moved hplace s)
      List.suffix_rfl (by simp)
  rw [List.reverse_reverse] at hsecond
  exact hfirst.trans hsecond

theorem location_moved {source before : List Char} {f : Fault} (h : f.place <:+ source) :
    ((f.moved before).report (before ++ source)).location =
      (f.report source).location.moved before := by
  obtain ⟨earlier, hearlier⟩ := h
  have hlonger : before ++ source = (before ++ earlier) ++ (f.moved before).place := by
    rw [List.append_assoc, ← hearlier]
    rfl
  rw [location_report hlonger, location_report hearlier.symm, locationAfter_append]

/-- After a document that does not end in text, a text can be read if and only if it can be read
alone. Then its roots come after those of the document, with the locations of all tags moved by the
lines of the document and, on the first line, by the characters of the document's last line. The
location of a fault is moved in the same way, and so is the line that its cause may name. -/
theorem read_append {first : String} {roots : List Element} (h : read first = .ok roots)
    (hroots : EndsInTag roots) (second : String) :
    ((∃ es, read (first ++ second) = .ok es) ↔ ∃ es, read second = .ok es) ∧
    (∀ es, read second = .ok es →
      read (first ++ second) = .ok (roots ++ movedAll first.toList es)) ∧
    ∀ e, read second = .error e →
      ∃ f, e = .fault f ∧ read (first ++ second) = .error (.fault (f.moved first.toList)) ∧
        ((f.moved first.toList).report (first ++ second).toList).location =
          (f.report second.toList).location.moved first.toList := by
  have happend : read (first ++ second) = readAfter first.toList roots (read second) := by
    rw [read, String.toList_append]
    exact readChars_append h hroots
  refine ⟨?_, ?_, ?_⟩
  · rw [happend]
    cases read second with
    | ok es => exact ⟨fun _ => ⟨es, rfl⟩, fun _ => ⟨_, rfl⟩⟩
    | error e => simp [readAfter, Except.map, Except.mapError]
  · intro es hes
    rw [happend, hes]
    rfl
  · intro e he
    obtain ⟨f, rfl, hblames⟩ := readChars_blames he
    refine ⟨f, rfl, ?_, ?_⟩
    · rw [happend, he]
      rfl
    · rw [String.toList_append]
      exact location_moved hblames.suffixes.1

/-- A text in the first line and a comment at the end of the second one. -/
def precedingText : String :=
  "x\n<b></b><!-- -->"

theorem read_precedingText : read precedingText =
    .ok [.text "x\n", .tag ⟨"b", default, some 2, some 1⟩ []] := by
  have hscan : scan precedingText.toList =
      ⟨[⟨.text "x\n", "x\n<b></b><!-- -->".toList, "<b></b><!-- -->".toList⟩,
        ⟨.startTag ⟨"b", [], false⟩, "<b></b><!-- -->".toList, "</b><!-- -->".toList⟩,
        ⟨.endTag "b", "</b><!-- -->".toList, "<!-- -->".toList⟩,
        ⟨.comment, "<!-- -->".toList, []⟩], none⟩ := by
    decide +kernel
  rw [read, readChars, hscan]
  rfl

/-- A tag that is not closed is found on the line that the document before ends with, and tags on
later lines keep their columns. -/
theorem read_append_precedingText :
    ∃ f, read " <i>" = .error (.fault f) ∧ (f.report " <i>".toList).location = ⟨1, 2⟩ ∧
      read (precedingText ++ " <i>") = .error (.fault f) ∧
      (f.report (precedingText ++ " <i>").toList).location = ⟨2, 17⟩ ∧
      read (precedingText ++ "<p/>\n<q/>") =
        .ok [.text "x\n", .tag ⟨"b", default, some 2, some 1⟩ [],
          .tag ⟨"p", default, some 2, some 16⟩ [], .text "\n",
          .tag ⟨"q", default, some 3, some 1⟩ []] := by
  have hends : EndsInTag [.text "x\n", .tag ⟨"b", default, some 2, some 1⟩ []] :=
    Or.inr ⟨[.text "x\n"], _, _, rfl⟩
  have hfault : read " <i>" = .error (.fault ⟨.unclosedTag "i", "<i>".toList, []⟩) := by
    have hscan : scan " <i>".toList = ⟨[⟨.text " ", " <i>".toList, "<i>".toList⟩,
        ⟨.startTag ⟨"i", [], false⟩, "<i>".toList, []⟩], none⟩ := by
      decide +kernel
    rw [read, readChars, hscan]
    rfl
  have htags : read "<p/>\n<q/>" = .ok [.tag ⟨"p", default, some 1, some 1⟩ [], .text "\n",
      .tag ⟨"q", default, some 2, some 1⟩ []] := by
    have hscan : scan "<p/>\n<q/>".toList =
        ⟨[⟨.startTag ⟨"p", [], true⟩, "<p/>\n<q/>".toList, "\n<q/>".toList⟩,
          ⟨.text "\n", "\n<q/>".toList, "<q/>".toList⟩,
          ⟨.startTag ⟨"q", [], true⟩, "<q/>".toList, []⟩], none⟩ := by
      decide +kernel
    rw [read, readChars, hscan]
    rfl
  obtain ⟨-, -, herror⟩ := read_append read_precedingText hends " <i>"
  obtain ⟨-, hok, -⟩ := read_append read_precedingText hends "<p/>\n<q/>"
  obtain ⟨f, hf, hread, hlocation⟩ := herror _ hfault
  cases hf
  refine ⟨_, hfault, by decide +kernel, hread, hlocation.trans (by decide +kernel), ?_⟩
  rw [hok _ htags]
  rfl

end WidgetMarkup.Markup
