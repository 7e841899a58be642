import WidgetMarkup.Compile.Session
import WidgetMarkup.Proofs.Compile.Outcome

/-!
# A compiler that is used again

What a call does to a compiler is told by the events of its trace, one after the other. Only the
start of a document clears the diagnostics, and no document is started inside a tag, a text or an
attribute; so every call but one adds to the diagnostics and leaves those before it alone, also when
it breaks off. The start of a document is the first event of its trace, so nothing of the calls
before is left then.
-/
namespace WidgetMarkup.Compile

open Markup (Element StartTag)
open Text

def Event.isStart : Event → Bool
  | started _ => true
  | _ => false

namespace Traced

variable {α β : Type} {x : Traced α} {f : α → Traced β}

/-- No document is started. -/
def Quiet (x : Traced α) : Prop :=
  ∀ e ∈ x.events, e.isStart = false

theorem quiet_pure (a : α) : (Pure.pure a : Traced α).Quiet := by
  intro e he
  cases he

theorem quiet_lift (r : Except NumeralTooLong α) : (lift r).Quiet := by
  intro e he
  cases he

theorem quiet_emit {e : Event} (h : e.isStart = false) : (emit e).Quiet := by
  intro e' he'
  rw [List.mem_singleton.1 he']
  exact h

/-- What follows a computation adds its events, unless the computation has broken off. -/
theorem events_bind (x : Traced α) (f : α → Traced β) :
    (x >>= f).events = x.events ++ x.result.toOption.elim [] fun a => (f a).events := by
  have hbind : x >>= f = x.bind f := rfl
  rw [hbind, bind]
  cases hresult : x.result with
  | error e => simp [Except.toOption]
  | ok a => simp [Except.toOption]

theorem quiet_bind (hx : x.Quiet) (hf : ∀ a, (f a).Quiet) : (x >>= f).Quiet := by
  intro e he
  rw [events_bind] at he
  rcases List.mem_append.1 he with he | he
  · exact hx e he
  · cases hresult : x.result with
    | error _ =>
      rw [hresult] at he
      cases he
    | ok a =>
      rw [hresult] at he
      exact hf a e he

theorem quiet_map (g : α → β) (hx : x.Quiet) : (g <$> x).Quiet :=
  quiet_bind hx fun a => quiet_pure (g a)

theorem quiet_each (hf : ∀ a, (f a).Quiet) (l : List α) : (each f l).Quiet := by
  induction l with
  | nil => exact quiet_pure []
  | cons a l ih =>
    refine quiet_bind (hf a) fun b => ?_
    exact quiet_bind ih fun bs => quiet_pure (b :: bs)

theorem result_map (g : α → β) (x : Traced α) : (g <$> x).result = g <$> x.result := by
  have hmap : g <$> x = x.bind fun a => pure (g a) := rfl
  rw [hmap, bind]
  cases x.result with
  | error e => rfl
  | ok a => rfl

theorem events_map (g : α → β) (x : Traced α) : (g <$> x).events = x.events := by
  have hmap : g <$> x = x >>= fun a => pure (g a) := rfl
  rw [hmap, events_bind]
  cases x.result with
  | error e => exact List.append_nil _
  | ok a => exact List.append_nil _

end Traced

open Traced (quiet_pure quiet_lift quiet_emit quiet_bind quiet_map quiet_each)

section Attributes

variable (start : StartTag)

theorem quiet_report (tag : String) (line column : Option Int) (p : Problem) :
    (report tag line column p).Quiet :=
  quiet_emit rfl

theorem quiet_readCoordinate (which : Coordinate) (piece : Option (List Char)) :
    (readCoordinate start which piece).Quiet := by
  cases piece with
  | none => exact quiet_bind (quiet_report _ _ _ _) fun _ => quiet_pure _
  | some piece =>
    rw [readCoordinate]
    split
    · exact quiet_bind (quiet_report _ _ _ _) fun _ => quiet_pure _
    · exact quiet_bind (quiet_lift _) fun _ => quiet_pure _

theorem quiet_readPosition (value : Option String) : (readPosition start value).Quiet := by
  cases value with
  | none => exact quiet_bind (quiet_report _ _ _ _) fun _ => quiet_pure _
  | some value =>
    refine quiet_bind (quiet_readCoordinate _ _ _) fun line => ?_
    exact quiet_bind (quiet_readCoordinate _ _ _) fun column => quiet_pure _

theorem quiet_readGenerics (position : Option Int × Option Int) (value : Option String) :
    (readGenerics start position value).Quiet := by
  have hmissing : (readGenerics.missing start position).Quiet :=
    quiet_bind (quiet_report _ _ _ _) fun _ => quiet_pure _
  cases value with
  | none => exact hmissing
  | some value =>
    rw [readGenerics]
    split
    · exact hmissing
    · exact quiet_pure _

theorem quiet_readAttribute (position : Option Int × Option Int)
    (entry : String × Option String) : (readAttribute start position entry).Quiet := by
  simp only [readAttribute]
  split
  · exact quiet_pure _
  · split
    · exact quiet_bind (quiet_readGenerics _ _ _) fun _ => quiet_pure _
    · exact quiet_bind (quiet_lift _) fun _ => quiet_pure _

theorem quiet_classify : (classify start).Quiet := by
  rw [classify_eq]
  refine quiet_bind ?_ fun position => ?_
  · unfold readPlace
    split
    · exact quiet_readPosition _ _
    · exact quiet_pure _
  · exact quiet_bind (quiet_each (quiet_readAttribute start position) _) fun _ => quiet_pure _

end Attributes

section Elements

variable (o : Options)

theorem quiet_textWidgets (data : String) : (textWidgets o data).Quiet :=
  quiet_each (fun _ => quiet_bind (quiet_lift _) fun _ => quiet_pure _) _

theorem quiet_tagWidget (start : StartTag) {content : Traced (List Widget)}
    (h : content.Quiet) : (tagWidget o start content).Quiet := by
  refine quiet_bind (quiet_emit rfl) fun _ => ?_
  refine quiet_bind (quiet_classify start) fun said => ?_
  exact quiet_bind h fun children => quiet_pure _

mutual

theorem quiet_widgetsOf : ∀ e : Element, (widgetsOf o e).Quiet
  | .text data => by
    rw [widgetsOf]
    exact quiet_textWidgets o data
  | .tag start children => by
    rw [widgetsOf]
    have hcontent := quiet_contentWidgets children
    exact quiet_bind (quiet_tagWidget o start hcontent) fun w => quiet_pure _

theorem quiet_contentWidgets : ∀ es : List Element, (contentWidgets o es).Quiet
  | [] => by
    rw [contentWidgets]
    exact quiet_pure _
  | e :: es => by
    rw [contentWidgets]
    refine quiet_bind (quiet_widgetsOf e) fun ws => ?_
    exact quiet_bind (quiet_contentWidgets es) fun vs => quiet_pure _

end

theorem quiet_compileTag (start : StartTag) (children : List Element) :
    (compileTag o start children).Quiet :=
  quiet_tagWidget o start (quiet_contentWidgets o children)

theorem quiet_compileRoots (document : List Element) : (compileRoots o document).Quiet := by
  refine quiet_bind (quiet_each (fun e => ?_) document) fun groups => quiet_pure _
  cases e with
  | tag start children => exact quiet_bind (quiet_compileTag o start children) fun w => quiet_pure _
  | text data =>
    simp only [rootWidgets]
    split
    · exact quiet_pure _
    · exact quiet_bind (quiet_emit rfl) fun _ => quiet_pure _

end Elements

namespace Compiler

variable {α : Type}

theorem foldl_note {events : List Event} (h : ∀ e ∈ events, e.isStart = false) (c : Compiler) :
    events.foldl note c =
      { c with diagnostics := c.diagnostics ++ events.filterMap Event.diagnostic? } := by
  induction events generalizing c with
  | nil => simp
  | cons e events ih =>
    obtain ⟨hstart, hrest⟩ := List.forall_mem_cons.1 h
    rw [List.foldl_cons, ih hrest]
    cases e with
    | started roots => cases hstart
    | problem d => simp [note, Event.diagnostic?]
    | tag name widget => rfl
    | finished widgets diagnostics => rfl

/-- A computation that starts no document adds its diagnostics to those before it. -/
theorem after_of_quiet {t : Traced α} (h : t.Quiet) (c : Compiler) :
    c.after t = { c with diagnostics := c.diagnostics ++ t.diagnostics } :=
  foldl_note h c

theorem after_compile (c : Compiler) (o : Options) (document : List Element) :
    c.after (compile o document) =
      { c with diagnostics := (compile o document).diagnostics } := by
  obtain ⟨events, hevents, hquiet⟩ : ∃ events,
      (compile o document).events = .started document.length :: events ∧
        ∀ e ∈ events, e.isStart = false := by
    refine ⟨_, Traced.events_bind _ _, ?_⟩
    exact quiet_bind (quiet_compileRoots o document) fun widgets =>
      quiet_bind (quiet_emit rfl) fun _ => quiet_pure widgets
  rw [after, Traced.diagnostics, hevents, List.foldl_cons, foldl_note hquiet]
  rfl

end Compiler

namespace Call

def isDocument : Call → Bool
  | document _ => true
  | _ => false

theorem quiet_run (o : Options) {request : Call} (h : request.isDocument = false) :
    (request.run o).Quiet := by
  cases request with
  | document elements => cases h
  | tag start children => exact quiet_map _ (quiet_compileTag o start children)
  | content children => exact quiet_map _ (quiet_contentWidgets o children)
  | text data => exact quiet_map _ (quiet_textWidgets o data)
  | position start value => exact quiet_map _ (quiet_readPosition start value)
  | generics start place value => exact quiet_map _ (quiet_readGenerics start place value)
  | param written kind name value => exact quiet_map _ (quiet_lift _)

end Call

namespace Compiler

theorem call_of_not_document (c : Compiler) {request : Call} (h : request.isDocument = false) :
    c.call request = ((request.run c.options).result,
      { c with diagnostics := c.diagnostics ++ (request.run c.options).diagnostics }) := by
  rw [call, after_of_quiet (Call.quiet_run c.options h)]

theorem call_document (c : Compiler) (document : List Element) :
    c.call (.document document) = (Reply.widgets <$> (compile c.options document).result,
      { c with diagnostics := (compile c.options document).diagnostics }) := by
  have hafter : c.after (Call.run c.options (.document document)) =
      c.after (compile c.options document) := by
    simp only [after, Call.run, Traced.events_map]
  rw [call, hafter, after_compile, Call.run, Traced.result_map]

theorem call_document_eq_ok_iff {c : Compiler} {document : List Element} {ws : List Widget}
    {ds : List Diagnostic} :
    c.call (.document document) = (.ok (.widgets ws), { c with diagnostics := ds }) ↔
      (compile c.options document).Gives ws ds := by
  rw [call_document, Traced.Gives, Prod.mk.injEq]
  refine and_congr ?_ ?_
  · cases (compile c.options document).result with
    | error e => simp [Functor.map, Except.map]
    | ok a => simp [Functor.map, Except.map]
  · simp

theorem options_call (c : Compiler) (request : Call) : (c.call request).2.options = c.options := by
  cases h : request.isDocument with
  | false => rw [call_of_not_document c h]
  | true =>
    cases request with
    | document elements => rw [call_document]
    | _ => cases h

/-- The compiler after several calls, some of which may have broken off. -/
def afterCalls (c : Compiler) (history : List Call) : Compiler :=
  history.foldl (fun c request => (c.call request).2) c

theorem options_afterCalls (c : Compiler) (history : List Call) :
    (c.afterCalls history).options = c.options := by
  induction history generalizing c with
  | nil => rfl
  | cons request history ih =>
    have hrest := ih (c.call request).2
    rw [options_call] at hrest
    exact hrest

end Compiler

open Traced (gives_pure gives_emit gives_bind gives_each)

theorem gives_compile_of_roots {o : Options} {document : List Element}
    {groups : List (List Widget)} {ds : List Diagnostic}
    (h : (Traced.each (rootWidgets o) document).Gives groups ds) :
    (compile o document).Gives groups.flatten ds := by
  have hroots : (compileRoots o document).Gives groups.flatten ds :=
    gives_bind.2 ⟨groups, ds, [], h, gives_pure.2 ⟨rfl, rfl⟩, by simp⟩
  refine gives_bind.2 ⟨(), [], ds, gives_emit.2 rfl, ?_, rfl⟩
  refine gives_bind.2 ⟨_, ds, [], hroots, ?_, by simp⟩
  exact gives_bind.2 ⟨(), [], [], gives_emit.2 rfl, gives_pure.2 ⟨rfl, rfl⟩, rfl⟩

theorem gives_compile_append {o : Options} {xs ys : List Element} {ws vs : List Widget}
    {ds es : List Diagnostic} (hxs : (compile o xs).Gives ws ds)
    (hys : (compile o ys).Gives vs es) :
    (compile o (xs ++ ys)).Gives (ws ++ vs) (ds ++ es) := by
  obtain ⟨groups, hgroups, rfl⟩ := gives_compile hxs
  obtain ⟨groups', hgroups', rfl⟩ := gives_compile hys
  obtain ⟨r, hr, rfl, rfl⟩ := gives_each.1 hgroups
  obtain ⟨r', hr', rfl, rfl⟩ := gives_each.1 hgroups'
  have happend := List.rel_append hr hr'
  have hall := gives_compile_of_roots (gives_each.2 ⟨r ++ r', happend, rfl, rfl⟩)
  rwa [List.map_append, List.flatten_append, List.flatMap_append] at hall

/-- A compiler answers as a new one with the same options would, whatever it has been asked before.
Of the diagnostics that it holds, a document leaves none and any other call all. Documents that are
put together give their widgets and their diagnostics together. -/
theorem call_afterCalls (o : Options) (history : List Call) :
    let new : Compiler := { options := o }
    let used := new.afterCalls history
    (∀ request : Call, request.isDocument = false →
      (used.call request).1 = (new.call request).1 ∧
        (used.call request).2.diagnostics =
          used.diagnostics ++ (new.call request).2.diagnostics) ∧
    (∀ document, used.call (.document document) = new.call (.document document) ∧
      used.call (.document document) = (Reply.widgets <$> (compile o document).result,
        { options := o, diagnostics := (compile o document).diagnostics })) ∧
    ∀ xs ys ws vs ds es,
      used.call (.document xs) = (.ok (.widgets ws), { options := o, diagnostics := ds }) →
      used.call (.document ys) = (.ok (.widgets vs), { options := o, diagnostics := es }) →
      used.call (.document (xs ++ ys)) =
        (.ok (.widgets (ws ++ vs)), { options := o, diagnostics := ds ++ es }) := by
  intro new used
  have hoptions : used.options = o := Compiler.options_afterCalls new history
  have hnew : ∀ document, used.call (.document document) = new.call (.document document) := by
    intro document
    rw [Compiler.call_document, Compiler.call_document, hoptions]
  refine ⟨?_, ?_, ?_⟩
  · intro request hrequest
    rw [Compiler.call_of_not_document used hrequest, Compiler.call_of_not_document new hrequest,
      hoptions]
    exact ⟨rfl, rfl⟩
  · intro document
    exact ⟨hnew document, (hnew document).trans (Compiler.call_document new document)⟩
  · intro xs ys ws vs ds es hxs hys
    rw [hnew] at hxs hys ⊢
    have hiff : ∀ document ws ds,
        new.call (.document document) = (.ok (.widgets ws), { options := o, diagnostics := ds }) ↔
          (compile o document).Gives ws ds :=
      fun _ _ _ => Compiler.call_document_eq_ok_iff (c := new)
    rw [hiff] at hxs hys ⊢
    exact gives_compile_append hxs hys

def plainTag : StartTag :=
  ⟨"b", default, none, none⟩

/-- Calls that leave two diagnostics behind: a text outside of any tag, and a position without a
value. -/
def sampleCalls : List Call :=
  [.tag plainTag [.text "x"], .document [.text "stray"], .position plainTag none]

/-- A third diagnostic is added to these, and a document leaves only its own. -/
theorem call_afterCalls_sample :
    let new : Compiler := {}
    let used := new.afterCalls sampleCalls
    let request : Call := .generics plainTag (some 3, some 1) none
    used.diagnostics.length = 2 ∧ (new.call request).2.diagnostics ≠ [] ∧
      (used.call request).2.diagnostics = used.diagnostics ++ (new.call request).2.diagnostics ∧
      used.call (.document [.text "stray"]) = new.call (.document [.text "stray"]) := by
  intro new used request
  obtain ⟨hadds, hdocument, -⟩ := call_afterCalls {} sampleCalls
  refine ⟨by decide +kernel, by decide +kernel, (hadds _ rfl).2, (hdocument _).1⟩

end WidgetMarkup.Compile
