import Mathlib.Data.List.Chain
import WidgetMarkup.Proofs.Markup.Assembly

/-!
# Nothing is lost or invented

A document that has been read is cut into consecutive pieces, each the written form of a token, and
going through the forest in order meets exactly those pieces that are no comments or declarations:
a piece for each text, one for each tag that stands alone, and a start and an end piece for every
other tag.

Along the run, the pieces read so far belong to the elements that are done and to the start tags
that are still open. One token extends the pieces by one; at the end no tag is open.
-/
namespace WidgetMarkup.Markup

/-- A piece of a document: the offset at which it starts, its token and its characters. -/
structure Piece where
  offset : Nat
  token : Token
  chars : List Char

/-- The pieces of a text are consecutive, none is empty, each is the written form of its token, and
a run of text is as long as it can be. -/
structure IsCut (source : List Char) (pieces : List Piece) : Prop where
  chars_eq : pieces.flatMap (·.chars) = source
  offset_eq : ∀ before q after, pieces = before ++ q :: after →
    q.offset = (before.flatMap (·.chars)).length
  ne_nil : ∀ q ∈ pieces, q.chars ≠ []
  written : ∀ q ∈ pieces, q.token.Written q.chars
  maximal : pieces.IsChain fun q r => ¬(q.token.isText = true ∧ r.token.isText = true)

/-- A tag stands at a piece: it has the name and the location of the piece, and of the attributes
written there the first of each name. -/
structure StandsAt (starts : List Nat) (start : StartTag) (tag : WrittenTag) (q : Piece) :
    Prop where
  token_eq : q.token = .startTag tag
  name_eq : start.name = tag.name
  opens : '<' :: start.name.toList <+: q.chars
  attributes_eq : start.attributes.entries = firstOccurrences tag.attributes
  offset_eq : ∃ line column, start.line = some line ∧ start.column = some column ∧
    offsetOf? starts ⟨line, column⟩ = some (q.offset : Int)

/-- Going through a forest in order meets these pieces. -/
inductive Traverses (starts : List Nat) : List Element → List Piece → Prop
  | done : Traverses starts [] []
  | skip {q : Piece} {es : List Element} {qs : List Piece} :
      q.token = .comment ∨ q.token = .declaration → Traverses starts es qs →
      Traverses starts es (q :: qs)
  | text {q : Piece} {data : String} {es : List Element} {qs : List Piece} :
      q.token = .text data → Traverses starts es qs →
      Traverses starts (.text data :: es) (q :: qs)
  | closed {q : Piece} {start : StartTag} {tag : WrittenTag} {es : List Element}
      {qs : List Piece} : StandsAt starts start tag q → tag.closed = true →
      Traverses starts es qs → Traverses starts (.tag start [] :: es) (q :: qs)
  | enclosing {q q' : Piece} {start : StartTag} {tag : WrittenTag} {children es : List Element}
      {qs qs' : List Piece} : StandsAt starts start tag q → tag.closed = false →
      Traverses starts children qs → q'.token = .endTag start.name → Traverses starts es qs' →
      Traverses starts (.tag start children :: es) (q :: (qs ++ q' :: qs'))

theorem Traverses.append {starts : List Nat} {es es' : List Element} {qs qs' : List Piece}
    (h : Traverses starts es qs) (h' : Traverses starts es' qs') :
    Traverses starts (es ++ es') (qs ++ qs') := by
  induction h with
  | done => exact h'
  | skip hq _ ih => exact .skip hq ih
  | text hq _ ih => exact .text hq ih
  | closed hq hclosed _ ih => exact .closed hq hclosed ih
  | enclosing hq hclosed hchildren hend _ _ ih =>
    simp only [List.cons_append, List.append_assoc]
    exact .enclosing hq hclosed hchildren hend ih

/-- A text is cut from left to right, with the offset of its start. -/
inductive Cut : Nat → List Char → List Piece → Prop
  | nil {n : Nat} : Cut n [] []
  | cons {n : Nat} {token : Token} {piece rest : List Char} {qs : List Piece} :
      token.Written piece → token.EndsBefore rest → Cut (n + piece.length) rest qs →
      Cut n (piece ++ rest) (⟨n, token, piece⟩ :: qs)

theorem Cut.chars_eq {n : Nat} {s : List Char} {qs : List Piece} (h : Cut n s qs) :
    qs.flatMap (·.chars) = s := by
  induction h with
  | nil => rfl
  | cons _ _ _ ih => rw [List.flatMap_cons, ih]

theorem Cut.offset_eq {n : Nat} {s : List Char} {qs : List Piece} (h : Cut n s qs)
    {before : List Piece} {q : Piece} {after : List Piece} (hqs : qs = before ++ q :: after) :
    q.offset = n + (before.flatMap (·.chars)).length := by
  induction h generalizing before with
  | nil => simp at hqs
  | cons _ _ _ ih =>
    cases before with
    | nil =>
      cases hqs
      rfl
    | cons r before =>
      cases hqs
      rw [ih rfl, List.flatMap_cons, List.length_append, Nat.add_assoc]

theorem Cut.written {n : Nat} {s : List Char} {qs : List Piece} (h : Cut n s qs) :
    ∀ q ∈ qs, q.token.Written q.chars := by
  induction h with
  | nil => simp
  | cons hw _ _ ih =>
    intro q hq
    rcases List.mem_cons.1 hq with rfl | hq
    · exact hw
    · exact ih q hq

theorem Cut.maximal {n : Nat} {s : List Char} {qs : List Piece} (h : Cut n s qs) :
    qs.IsChain fun q r => ¬(q.token.isText = true ∧ r.token.isText = true) := by
  induction h with
  | nil => exact .nil
  | cons _ hends hcut ih =>
    cases hcut with
    | nil => exact .singleton _
    | @cons _ token piece rest _ hw hends' _ =>
      refine .cons_cons ?_ ih
      rintro ⟨htext, htext'⟩
      -- what follows a text starts markup, but a text does not
      rcases hends htext with hnil | hmarkup
      · exact hw.ne_nil (List.append_eq_nil_iff.1 hnil).1
      · cases hw with
        | text hne hplain =>
          rw [startsMarkup_append hplain hne (hends' rfl)] at hmarkup
          cases hmarkup
        | _ => cases htext'

theorem Cut.isCut {s : List Char} {qs : List Piece} (h : Cut 0 s qs) : IsCut s qs where
  chars_eq := h.chars_eq
  offset_eq := by
    intro before q after hqs
    have := h.offset_eq hqs
    omega
  ne_nil := fun q hq => (h.written q hq).ne_nil
  written := h.written
  maximal := h.maximal

theorem offsetOf?_locate {starts : List Nat} {offset : Nat} (h : 0 ∈ starts) :
    offsetOf? starts (locate starts offset) = some (offset : Int) := by
  obtain ⟨line, hline⟩ : ∃ line, starts.countP (fun (start : Nat) => (start : Int) ≤ offset) = line :=
    ⟨_, rfl⟩
  have hpos : 0 < line := by
    rw [← hline, List.countP_pos_iff]
    exact ⟨0, h, by simp⟩
  have hle : line ≤ starts.length := by
    rw [← hline]
    exact List.countP_le_length
  have hindex : ((line : Int) - 1).toNat < starts.length := by omega
  have hstart : lineStart? starts ((line : Int) - 1) = some starts[((line : Int) - 1).toNat] := by
    rw [lineStart?, if_pos (by omega), List.getElem?_eq_getElem hindex]
  simp only [offsetOf?, locate, hline, hstart, Option.getD_some, Option.pure_def,
    Option.bind_eq_bind, Option.bind_some, Option.map_some]
  congr 1
  omega

/-- The location of a place in a text leads back to its offset. -/
theorem offsetOf?_locationLeft {source s : List Char} {n : Nat}
    (h : n + s.length = source.length) :
    offsetOf? (lineStarts source) (locationLeft source s) = some (n : Int) := by
  have hn : source.length - s.length = n := by omega
  rw [locationLeft]
  dsimp only
  rw [hn]
  exact offsetOf?_locate (by simp [lineStarts])

namespace Progress

/-- What a start tag says, at the place where a text is left. -/
def startAt (location : List Char → Location) (tag : WrittenTag) (s : List Char) : StartTag :=
  { name := tag.name
    attributes := .ofWritten tag.attributes
    line := some (location s).line
    column := some (location s).column }

variable {location : List Char → Location}

theorem step_cases {p p' : Progress} {token : Token} {s rest : List Char}
    (h : p.step location ⟨token, s, rest⟩ = .ok p') :
    ((token = .comment ∨ token = .declaration) ∧ p' = p) ∨
    (∃ data, token = .text data ∧ p' = p.add (.text data)) ∨
    (∃ tag, token = .startTag tag ∧ tag.closed = true ∧
      p' = p.add (.tag (startAt location tag s) [])) ∨
    (∃ tag, token = .startTag tag ∧ tag.closed = false ∧
      p' = ⟨⟨startAt location tag s, s, p.done⟩ :: p.opened, []⟩) ∨
    (∃ top outer, p.opened = top :: outer ∧ token = .endTag top.start.name ∧
      p' = ⟨outer, .tag top.start p.done.reverse :: top.before⟩) := by
  cases token with
  | comment =>
    cases h
    exact Or.inl ⟨Or.inl rfl, rfl⟩
  | declaration =>
    cases h
    exact Or.inl ⟨Or.inr rfl, rfl⟩
  | text data =>
    cases h
    exact Or.inr (Or.inl ⟨data, rfl, rfl⟩)
  | startTag tag =>
    simp only [step] at h
    split at h
    · rename_i hclosed
      cases h
      exact Or.inr (Or.inr (Or.inl ⟨tag, rfl, hclosed, rfl⟩))
    · rename_i hclosed
      cases h
      exact Or.inr (Or.inr (Or.inr (Or.inl ⟨tag, rfl, by simpa using hclosed, rfl⟩)))
  | endTag name =>
    simp only [step] at h
    split at h
    · cases h
    · rename_i top outer hopened
      split at h
      · rename_i hname
        cases h
        exact Or.inr (Or.inr (Or.inr (Or.inr ⟨top, outer, hopened, by rw [hname], rfl⟩)))
      · cases h

/-- The pieces read so far, given the open tags and the elements done in the innermost of them: the
pieces before an open tag, its own piece, and those of what it holds. -/
def Covers (starts : List Nat) : List OpenTag → List Element → List Piece → Prop
  | [], done, qs => Traverses starts done.reverse qs
  | top :: outer, done, qs =>
    ∃ before q inside tag, qs = before ++ q :: inside ∧ Covers starts outer top.before before ∧
      StandsAt starts top.start tag q ∧ tag.closed = false ∧
      Traverses starts done.reverse inside

theorem Covers.append {starts : List Nat} {opened : List OpenTag} {done es : List Element}
    {qs qs' : List Piece} (h : Covers starts opened done qs) (hes : Traverses starts es qs') :
    Covers starts opened (es.reverse ++ done) (qs ++ qs') := by
  cases opened with
  | nil =>
    have hdone := Traverses.append h hes
    rw [Covers, List.reverse_append, List.reverse_reverse]
    exact hdone
  | cons top outer =>
    obtain ⟨before, q, inside, tag, rfl, hbefore, hq, hclosed, hinside⟩ := h
    have hdone := hinside.append hes
    refine ⟨before, q, inside ++ qs', tag, by simp, hbefore, hq, hclosed, ?_⟩
    rw [List.reverse_append, List.reverse_reverse]
    exact hdone

theorem standsAt_startAt {starts : List Nat} {tag : WrittenTag} {s : List Char} {q : Piece}
    (htoken : q.token = .startTag tag) (hw : q.token.Written q.chars)
    (hloc : offsetOf? starts (location s) = some (q.offset : Int)) :
    StandsAt starts (startAt location tag s) tag q where
  token_eq := htoken
  name_eq := rfl
  opens := by
    obtain ⟨offset, token, chars⟩ := q
    cases htoken
    cases hw
    simp [startAt]
  attributes_eq := entries_ofWritten tag.attributes
  offset_eq := ⟨_, _, rfl, rfl, hloc⟩

/-- A token that is taken in extends the pieces by its own. -/
theorem Covers.step {starts : List Nat} {p p' : Progress} {qs : List Piece} {q : Piece}
    {s rest : List Char} (h : Covers starts p.opened p.done qs)
    (hstep : p.step location ⟨q.token, s, rest⟩ = .ok p') (hw : q.token.Written q.chars)
    (hloc : offsetOf? starts (location s) = some (q.offset : Int)) :
    Covers starts p'.opened p'.done (qs ++ [q]) := by
  rcases step_cases hstep with ⟨hskip, rfl⟩ | ⟨data, htext, rfl⟩ | ⟨tag, htag, hclosed, rfl⟩ |
    ⟨tag, htag, hclosed, rfl⟩ | ⟨top, outer, hopened, hend, rfl⟩
  · exact h.append (.skip hskip .done)
  · exact h.append (.text htext .done)
  · exact h.append (.closed (standsAt_startAt htag hw hloc) hclosed .done)
  · exact ⟨qs, q, [], tag, rfl, h, standsAt_startAt htag hw hloc, hclosed, .done⟩
  · rw [hopened] at h
    obtain ⟨before, q', inside, tag, rfl, hbefore, hq', hclosed, hinside⟩ := h
    have helement : Traverses starts [.tag top.start p.done.reverse] (q' :: (inside ++ [q])) :=
      .enclosing hq' hclosed hinside hend .done
    have hall := hbefore.append helement
    rw [List.append_assoc, List.cons_append]
    exact hall

/-- Reading the text that is left succeeds only along a cut of it. -/
theorem readOn_pieces {source s : List Char} {n : Nat} {p : Progress} {roots : List Element}
    {qs : List Piece} (hn : n + s.length = source.length)
    (hp : Covers (lineStarts source) p.opened p.done qs)
    (h : p.readOn (locationLeft source) s = .ok roots) :
    ∃ qs', Cut n s qs' ∧ Traverses (lineStarts source) roots (qs ++ qs') := by
  induction hlen : s.length using Nat.strongRecOn generalizing s n p qs with
  | _ length ih =>
    subst hlen
    by_cases hs : s = []
    · subst hs
      rw [readOn_nil, finish] at h
      obtain ⟨opened, done⟩ := p
      cases opened with
      | nil =>
        cases h
        refine ⟨[], .nil, ?_⟩
        rw [List.append_nil]
        exact hp
      | cons => cases h
    · cases hread : Token.read s with
      | error e =>
        rw [readOn_error hs hread] at h
        cases h
      | ok r =>
        obtain ⟨token, rest⟩ := r
        rw [readOn_token hs hread] at h
        obtain ⟨piece, rfl, hw, hends⟩ := Token.written_of_read hs hread
        cases hstep : p.step (locationLeft source) ⟨token, piece ++ rest, rest⟩ with
        | error e =>
          rw [hstep] at h
          cases h
        | ok p' =>
          rw [hstep] at h
          have hcovers := Covers.step (q := ⟨n, token, piece⟩) hp hstep hw
            (offsetOf?_locationLeft hn)
          rw [List.length_append] at hn
          have hpiece : 0 < piece.length := List.length_pos_iff.2 hw.ne_nil
          obtain ⟨qs', hcut, htraverses⟩ :=
            ih rest.length (by rw [List.length_append]; omega) (n := n + piece.length)
              (by omega) hcovers h rfl
          refine ⟨⟨n, token, piece⟩ :: qs', .cons hw hends hcut, ?_⟩
          rwa [List.append_assoc] at htraverses

end Progress

/-- A document that has been read is cut into pieces, and going through its forest meets them in
order. -/
theorem read_covers {source : String} {roots : List Element} (h : read source = .ok roots) :
    ∃ pieces, IsCut source.toList pieces ∧
      Traverses (lineStarts source.toList) roots pieces := by
  have hnothing : Progress.Covers (lineStarts source.toList) [] [] [] := .done
  obtain ⟨pieces, hcut, htraverses⟩ :=
    Progress.readOn_pieces (p := {}) (Nat.zero_add _) hnothing h
  exact ⟨pieces, hcut.isCut, htraverses⟩

/-- A doubled attribute, attributes without a blank between them, and two texts with a comment
between them. -/
theorem read_covers_sample :
    ∃ roots, read "<p a='1'a=2/>\nx<!--y-->z" = .ok roots ∧
      ∃ pieces, IsCut "<p a='1'a=2/>\nx<!--y-->z".toList pieces ∧
        Traverses (lineStarts "<p a='1'a=2/>\nx<!--y-->z".toList) roots pieces := by
  have hscan : scan "<p a='1'a=2/>\nx<!--y-->z".toList =
      ⟨[⟨.startTag ⟨"p", [("a", "1"), ("a", "2")], true⟩, "<p a='1'a=2/>\nx<!--y-->z".toList,
          "\nx<!--y-->z".toList⟩,
        ⟨.text "\nx", "\nx<!--y-->z".toList, "<!--y-->z".toList⟩,
        ⟨.comment, "<!--y-->z".toList, "z".toList⟩, ⟨.text "z", "z".toList, []⟩], none⟩ := by
    decide +kernel
  have hread : read "<p a='1'a=2/>\nx<!--y-->z" =
      .ok [.tag ⟨"p", ⟨[("a", some "1")], by simp⟩, some 1, some 1⟩ [], .text "\nx",
        .text "z"] := by
    rw [read, readChars, hscan]
    rfl
  exact ⟨_, hread, read_covers hread⟩

end WidgetMarkup.Markup
