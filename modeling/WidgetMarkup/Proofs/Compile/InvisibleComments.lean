import WidgetMarkup.Proofs.Compile.Outcome
import WidgetMarkup.Proofs.Compile.Returning
import WidgetMarkup.Proofs.Markup.CommentInsertion

/-!
# Comments that leave no trace

The widgets of a document do not depend on where its tags stand in the markup, for locations are used
in diagnostics only. Nor do they depend on a text being cut in two after a line feed: each line becomes
a widget of its own, and the empty line that the cut adds is dropped. So a comment at the start of a
line of text leaves no trace in the widgets, whatever the options.

Results are compared without the trace of the computation. Where one computation breaks off the other
one does too, and with the same failure.
-/
namespace WidgetMarkup.Compile

open Markup (Element StartTag Recut InText)
open Text

namespace Traced

variable {α β : Type}

theorem result_bind_congr {x y : Traced α} {f g : α → Traced β} (h : x.result = y.result)
    (hfg : ∀ a, (f a).result = (g a).result) : (x >>= f).result = (y >>= g).result := by
  rw [result_bind, result_bind, h]
  congr 1
  funext a
  exact hfg a

theorem result_each_congr {f g : α → Traced β} (h : ∀ a, (f a).result = (g a).result)
    (l : List α) : (each f l).result = (each g l).result := by
  induction l with
  | nil => rfl
  | cons a l ih =>
    rw [each, each]
    refine result_bind_congr (h a) fun b => ?_
    exact result_bind_congr ih fun bs => rfl

theorem result_append (x y : Traced (List α)) :
    (x >>= fun as => y >>= fun bs => Pure.pure (as ++ bs)).result =
      x.result.bind fun as => y.result.map (as ++ ·) := by
  rw [result_bind]
  congr 1
  funext as
  rw [result_bind]
  cases y.result with
  | error e => rfl
  | ok bs => rfl

theorem result_each_append (f : α → Traced β) (l l' : List α) :
    (each f (l ++ l')).result =
      (each f l).result.bind fun bs => (each f l').result.map (bs ++ ·) := by
  induction l with
  | nil =>
    rw [List.nil_append]
    cases (each f l').result with
    | error e => rfl
    | ok bs => rfl
  | cons a l ih =>
    rw [List.cons_append, each, each, result_bind, result_bind]
    cases (f a).result with
    | error e => rfl
    | ok b =>
      simp only [Except.bind]
      rw [result_bind, result_bind, ih]
      cases (each f l).result with
      | error e => rfl
      | ok bs =>
        cases (each f l').result with
        | error e => rfl
        | ok bs' => rfl

end Traced

open Traced (result_bind result_bind_congr result_each_congr result_append result_each_append)

section Locations

variable (start start' : StartTag)

theorem result_readCoordinate (which : Coordinate) (piece : Option (List Char)) :
    (readCoordinate start which piece).result = (readCoordinate start' which piece).result := by
  cases piece with
  | none => rfl
  | some piece =>
    rw [readCoordinate, readCoordinate]
    split
    · rfl
    · rfl

theorem result_readPosition (value : Option String) :
    (readPosition start value).result = (readPosition start' value).result := by
  cases value with
  | none => rfl
  | some value =>
    rw [readPosition, readPosition]
    refine result_bind_congr (result_readCoordinate start start' _ _) fun line => ?_
    exact result_bind_congr (result_readCoordinate start start' _ _) fun column => rfl

theorem result_readGenerics (position : Option Int × Option Int) (value : Option String) :
    (readGenerics start position value).result = (readGenerics start' position value).result := by
  cases value with
  | none => rfl
  | some value =>
    rw [readGenerics, readGenerics]
    split
    · rfl
    · rfl

theorem result_readAttribute (position : Option Int × Option Int)
    (entry : String × Option String) :
    (readAttribute start position entry).result = (readAttribute start' position entry).result := by
  simp only [readAttribute]
  split
  · rfl
  · split
    · exact result_bind_congr (result_readGenerics start start' position _) fun names => rfl
    · rfl

variable {start start'}

/-- What the attributes of a tag say does not depend on where the tag stands. -/
theorem result_classify (h : start.attributes = start'.attributes) :
    (classify start).result = (classify start').result := by
  rw [classify_eq, classify_eq, readPlace, readPlace, h]
  refine result_bind_congr ?_ fun position => ?_
  · cases start'.attributes.find? positionAttribute with
    | none => rfl
    | some value => exact result_readPosition start start' value
  · exact result_bind_congr
      (result_each_congr (result_readAttribute start start' position) _) fun parts => rfl

theorem result_tagWidget {o : Options} {content content' : Traced (List Widget)}
    (hname : start.name = start'.name) (hattributes : start.attributes = start'.attributes)
    (hcontent : content.result = content'.result) :
    (tagWidget o start content).result = (tagWidget o start' content').result := by
  unfold tagWidget
  rw [hname]
  refine result_bind_congr rfl fun _ => ?_
  refine result_bind_congr (result_classify hattributes) fun said => ?_
  rw [hattributes]
  exact result_bind_congr hcontent fun children => rfl

end Locations

theorem toList_lineFeed (line rest : String) :
    (line ++ "\n" ++ rest).toList = line.toList ++ '\n' :: rest.toList := by
  rw [String.toList_append, String.toList_append, List.append_assoc]
  rfl

theorem contentLines_lineFeed (line rest : String) :
    contentLines (line ++ "\n" ++ rest) = contentLines line ++ contentLines rest := by
  rw [contentLines, contentLines, contentLines, toList_lineFeed, pieces_append_cons,
    List.map_append, List.filter_append]

/-- The lines on both sides of a cut are the lines of the whole. -/
theorem contentLines_cut (line rest : String) :
    contentLines (line ++ "\n" ++ rest) = contentLines (line ++ "\n") ++ contentLines rest := by
  -- after the line feed stands an empty line, which is dropped
  have hline : contentLines (line ++ "\n") = contentLines line := by
    have hempty := contentLines_lineFeed line ""
    rw [String.append_empty] at hempty
    rw [hempty]
    exact List.append_nil (contentLines line)
  rw [hline, contentLines_lineFeed]

section Forests

variable {o : Options}

theorem result_contentWidgets_cons (e : Element) (es : List Element) :
    (contentWidgets o (e :: es)).result =
      (widgetsOf o e).result.bind fun ws => (contentWidgets o es).result.map (ws ++ ·) := by
  rw [contentWidgets]
  exact result_append _ _

theorem result_compileRoots_cons (e : Element) (es : List Element) :
    (compileRoots o (e :: es)).result =
      (rootWidgets o e).result.bind fun ws => (compileRoots o es).result.map (ws ++ ·) := by
  rw [compileRoots, compileRoots, Traced.each, result_bind, result_bind, result_bind]
  cases (rootWidgets o e).result with
  | error e => rfl
  | ok ws =>
    simp only [Except.bind]
    rw [result_bind]
    cases (Traced.each (rootWidgets o) es).result with
    | error e => rfl
    | ok groups => rfl

theorem result_rootWidgets_text (data : String) : (rootWidgets o (.text data)).result = .ok [] := by
  simp only [rootWidgets]
  split
  · rfl
  · rfl

theorem result_contentWidgets {es es' : List Element} (h : Recut es es') :
    (contentWidgets o es).result = (contentWidgets o es').result := by
  induction h with
  | nil => rfl
  | text _ ih => rw [result_contentWidgets_cons, result_contentWidgets_cons, ih]
  | @cut line rest es es' _ ih =>
    have hwhole : (widgetsOf o (.text (line ++ "\n" ++ rest))).result =
        (widgetsOf o (.text (line ++ "\n"))).result.bind fun ws =>
          (widgetsOf o (.text rest)).result.map (ws ++ ·) := by
      simp only [widgetsOf, textWidgets, contentLines_cut]
      exact result_each_append _ _ _
    rw [result_contentWidgets_cons, result_contentWidgets_cons, result_contentWidgets_cons, hwhole,
      ih]
    cases (widgetsOf o (.text (line ++ "\n"))).result with
    | error e => rfl
    | ok ws =>
      cases (widgetsOf o (.text rest)).result with
      | error e => rfl
      | ok vs =>
        cases (contentWidgets o es').result with
        | error e => rfl
        | ok us => exact congrArg Except.ok (List.append_assoc ws vs us)
  | tag hname hattributes _ _ ihchildren ih =>
    rw [result_contentWidgets_cons, result_contentWidgets_cons, ih]
    congr 1
    simp only [widgetsOf]
    exact result_bind_congr (result_tagWidget hname hattributes ihchildren) fun w => rfl

theorem result_compileRoots {es es' : List Element} (h : Recut es es') :
    (compileRoots o es).result = (compileRoots o es').result := by
  induction h with
  | nil => rfl
  | text _ ih => rw [result_compileRoots_cons, result_compileRoots_cons, ih]
  | cut _ ih =>
    rw [result_compileRoots_cons, result_compileRoots_cons, result_compileRoots_cons, ih,
      result_rootWidgets_text, result_rootWidgets_text, result_rootWidgets_text]
    cases (compileRoots o _).result with
    | error e => rfl
    | ok ws => rfl
  | tag hname hattributes hchildren _ _ ih =>
    rw [result_compileRoots_cons, result_compileRoots_cons, ih]
    congr 1
    simp only [rootWidgets]
    exact result_bind_congr
      (result_tagWidget hname hattributes (result_contentWidgets hchildren)) fun w => rfl

theorem result_compile {es es' : List Element} (h : Recut es es') :
    (compile o es).result = (compile o es').result := by
  unfold compile
  refine result_bind_congr rfl fun _ => ?_
  exact result_bind_congr (result_compileRoots h) fun ws => rfl

end Forests

/-- A comment is put into a document right after a line feed that belongs to a run of text. Then the
document can still be read, into a forest that differs in the locations of tags and in that text being
cut in two, and under all options it is compiled to the same widgets. -/
theorem compile_commented {before after comment : String} {roots : List Element}
    (h : Markup.read (before ++ "\n" ++ after) = .ok roots)
    (hline : InText (before ++ "\n" ++ after).toList '\n' after.toList)
    (hcomment : ¬ "-->".toList <:+: comment.toList) :
    ∃ roots', Markup.read (before ++ "\n" ++ "<!--" ++ comment ++ "-->" ++ after) = .ok roots' ∧
      Recut roots roots' ∧ ∀ o, (compile o roots').result = (compile o roots).result := by
  have hcommented : (before ++ "\n" ++ "<!--" ++ comment ++ "-->" ++ after).toList =
      before.toList ++ '\n' :: (Markup.commentChars comment.toList ++ after.toList) := by
    simp only [String.toList_append, List.append_assoc, Markup.commentChars]
    rfl
  rw [toList_lineFeed] at hline
  rw [Markup.read, toList_lineFeed] at h
  rw [Markup.read, hcommented]
  obtain ⟨roots', hread, hrecut⟩ := Markup.readChars_commented h hline hcomment
  exact ⟨roots', hread, hrecut, fun o => (result_compile hrecut).symm⟩

/-- The comment stands before a line that is dropped, and a tag follows in the same line as text. -/
theorem compile_commented_betweenLines :
    ∃ roots', Markup.read ("<p>a" ++ "\n" ++ "<!--" ++ " -- " ++ "-->" ++ "// x\nb<i/></p>") =
        .ok roots' ∧
      ∀ o, (compile o roots').result = (compile o [.tag ⟨"p", default, some 1, some 1⟩
        [.text "a\n// x\nb", .tag ⟨"i", default, some 3, some 2⟩ []]]).result := by
  have hscan : Markup.scan "<p>a\n// x\nb<i/></p>".toList =
      ⟨[⟨.startTag ⟨"p", [], false⟩, "<p>a\n// x\nb<i/></p>".toList,
          "a\n// x\nb<i/></p>".toList⟩,
        ⟨.text "a\n// x\nb", "a\n// x\nb<i/></p>".toList, "<i/></p>".toList⟩,
        ⟨.startTag ⟨"i", [], true⟩, "<i/></p>".toList, "</p>".toList⟩,
        ⟨.endTag "p", "</p>".toList, []⟩], none⟩ := by
    decide +kernel
  have hread : Markup.read ("<p>a" ++ "\n" ++ "// x\nb<i/></p>") =
      .ok [.tag ⟨"p", default, some 1, some 1⟩
        [.text "a\n// x\nb", .tag ⟨"i", default, some 3, some 2⟩ []]] := by
    change Markup.read "<p>a\n// x\nb<i/></p>" = _
    rw [Markup.read, Markup.readChars, hscan]
    rfl
  have hline : InText ("<p>a" ++ "\n" ++ "// x\nb<i/></p>").toList '\n'
      "// x\nb<i/></p>".toList := by
    change InText "<p>a\n// x\nb<i/></p>".toList _ _
    rw [InText, hscan]
    exact ⟨_, List.mem_cons_of_mem _ List.mem_cons_self, rfl, by decide +kernel, by decide +kernel⟩
  have hcomment : ¬ "-->".toList <:+: " -- ".toList := by decide +kernel
  obtain ⟨roots', hroots', -, hresult⟩ := compile_commented hread hline hcomment
  exact ⟨roots', hroots', hresult⟩

end WidgetMarkup.Compile
