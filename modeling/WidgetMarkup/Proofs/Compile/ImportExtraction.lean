import WidgetMarkup.Imports
import WidgetMarkup.Proofs.Compile.Reuse

/-!
# Imports and compiling

Import tags at the root are compiled like any other tags if they are not taken out before. Each root
of a document gives its own widget and its own diagnostics, one after the other, so taking out the
imports takes out exactly what they would have given. What stands inside another tag stays there,
imports included.

The imports are listed by the kind of their attribute and then in document order. After they have been
taken out, there are none left.
-/
namespace WidgetMarkup

open Markup (Element StartTag Attributes)

namespace Imports

/-- A tag at the root that is an import. -/
def isImport : Element → Bool
  | .tag start _ => start.name = "import"
  | .text _ => false

/-- What an import tag has written in the attribute of a name, unless it is empty. -/
def declared (name : String) : Element → List String
  | .tag start _ =>
    if start.name = "import" then
      (start.attributes.entries.filterMap fun e => if e.1 = name then e.2 else none).filter (· ≠ "")
    else []
  | .text _ => []

theorem isNone_importTag? (e : Element) : (importTag? e).isNone = !isImport e := by
  cases e with
  | text data => rfl
  | tag start children =>
    by_cases hname : start.name = "import"
    · simp [importTag?, isImport, hname]
    · simp [importTag?, isImport, hname]

theorem elements_split (document : List Element) :
    (split document).elements = document.filter fun e => !isImport e := by
  simp only [split, isNone_importTag?]

/-- A name occurs once among attributes, so all values under it are the one that is found. -/
theorem values_eq_find? (a : Attributes) (name : String) :
    (a.entries.filterMap fun e => if e.1 = name then e.2 else none) =
      (a.find? name).join.toList := by
  obtain ⟨entries, hnodup⟩ := a
  simp only [Attributes.find?]
  induction entries with
  | nil => rfl
  | cons e entries ih =>
    obtain ⟨key, value?⟩ := e
    rw [List.map_cons, List.nodup_cons] at hnodup
    by_cases hkey : key = name
    · have hothers : (entries.filterMap fun e => if e.1 = name then e.2 else none) = [] := by
        rw [List.filterMap_eq_nil_iff]
        intro e he
        have hne : e.1 ≠ name := by
          intro heq
          exact hnodup.1 (List.mem_map.2 ⟨e, he, heq.trans hkey.symm⟩)
        rw [if_neg hne]
      rw [List.find?_cons_of_pos (by simpa using hkey), List.filterMap_cons, if_pos hkey, hothers]
      cases value? with
      | none => rfl
      | some value => rfl
    · rw [List.find?_cons_of_neg (by simpa using hkey), List.filterMap_cons, if_neg hkey]
      exact ih hnodup.2

theorem attributeText?_eq (start : StartTag) (name : String) :
    (attributeText? start name).toList = (start.attributes.find? name).join.toList.filter (· ≠ "") := by
  unfold attributeText?
  split
  · rename_i value hvalue
    rw [hvalue]
    by_cases hempty : value = ""
    · simp [hempty]
    · simp [hempty]
  · rename_i hvalue
    cases hfind : start.attributes.find? name with
    | none => rfl
    | some value? =>
      cases value? with
      | none => rfl
      | some value => exact absurd hfind (hvalue value)

theorem declared_eq (name : String) (e : Element) :
    declared name e = ((importTag? e).bind (attributeText? · name)).toList := by
  cases e with
  | text data => rfl
  | tag start children =>
    by_cases hname : start.name = "import"
    · simp only [declared, importTag?, if_pos hname, Option.bind_some, attributeText?_eq,
        values_eq_find?]
    · simp only [declared, importTag?, if_neg hname, Option.bind_none, Option.toList_none]

theorem filterMap_attributeText? (document : List Element) (name : String) :
    (document.filterMap importTag?).filterMap (attributeText? · name) =
      document.flatMap (declared name) := by
  rw [List.filterMap_filterMap]
  induction document with
  | nil => rfl
  | cons e document ih =>
    rw [List.flatMap_cons, declared_eq, ← ih, List.filterMap_cons]
    cases (importTag? e).bind (attributeText? · name) with
    | none => rfl
    | some value => rfl

theorem imports_split (document : List Element) :
    (split document).imports = (document.flatMap (declared "package")).map ("package:" ++ ·) ++
      document.flatMap (declared "file") := by
  simp only [split, filterMap_attributeText?]

theorem split_of_not_import {document : List Element} (h : ∀ e ∈ document, isImport e = false) :
    split document = ⟨[], document⟩ := by
  have htags : document.filterMap importTag? = [] := by
    rw [List.filterMap_eq_nil_iff]
    intro e he
    rw [← Option.isNone_iff_eq_none, isNone_importTag?, h e he]
    rfl
  have hall : document.filter (fun e => (importTag? e).isNone) = document := by
    rw [List.filter_eq_self]
    intro e he
    rw [isNone_importTag?, h e he]
    rfl
  rw [split, htags, hall]
  rfl

theorem split_elements_split (document : List Element) :
    split (split document).elements = ⟨[], (split document).elements⟩ := by
  apply split_of_not_import
  intro e he
  rw [elements_split, List.mem_filter] at he
  simpa using he.2

end Imports

namespace Compile

open Imports (isImport declared split extract)

variable {o : Options}

/-- The diagnostics that a root leaves when it is compiled alone. -/
def diagnosticsAlone (o : Options) (root : Element) : List Diagnostic :=
  (compile o [root]).diagnostics

theorem diagnosticsAlone_of_gives {root : Element} {ws : List Widget} {ds : List Diagnostic}
    (h : (rootWidgets o root).Gives ws ds) : ds = diagnosticsAlone o root := by
  have heach : (Traced.each (rootWidgets o) [root]).Gives [ws] ds :=
    Traced.gives_each.2 ⟨[(ws, ds)], .cons h .nil, rfl, by simp⟩
  exact (gives_compile_of_roots heach).2.symm

/-- The diagnostics of a document are those of its roots, in order. -/
theorem diagnostics_of_gives_compile {document : List Element} {ws : List Widget}
    {ds : List Diagnostic} (h : (compile o document).Gives ws ds) :
    ds = document.flatMap (diagnosticsAlone o) := by
  obtain ⟨groups, hgroups, -⟩ := gives_compile h
  apply Traced.diagnostics_of_gives_each hgroups
  intro root _ ws ds hroot
  exact diagnosticsAlone_of_gives hroot

/-- Whether a widget is made of a tag other than an import. -/
def notImport (w : Widget) : Bool :=
  w.info.originalName ≠ "import"

theorem filter_of_gives_rootWidgets {root : Element} {ws : List Widget} {ds : List Diagnostic}
    (h : (rootWidgets o root).Gives ws ds) :
    ws.filter notImport = if isImport root then [] else ws := by
  cases root with
  | text data =>
    obtain ⟨rfl, -⟩ := gives_rootWidgets_text h
    rfl
  | tag start children =>
    obtain ⟨w, rfl, hw⟩ := gives_rootWidgets_tag h
    obtain ⟨said, inside, ds₁, ds₂, -, -, -, rfl⟩ := gives_tagWidget hw
    by_cases hname : start.name = "import"
    · simp [notImport, isImport, Widget.info, hname]
    · simp [notImport, isImport, Widget.info, hname]

/-- Without the imports, the roots give what they give with them. -/
theorem gives_each_without {document : List Element} {groups : List (List Widget)}
    {ds : List Diagnostic} (h : (Traced.each (rootWidgets o) document).Gives groups ds) :
    ∃ others es, (Traced.each (rootWidgets o) (document.filter fun e => !isImport e)).Gives others es ∧
      others.flatten = groups.flatten.filter notImport := by
  obtain ⟨r, hr, rfl, -⟩ := Traced.gives_each.1 h
  clear h
  induction hr with
  | nil => exact ⟨[], [], Traced.gives_pure.2 ⟨rfl, rfl⟩, rfl⟩
  | @cons root p document r hroot _ ih =>
    obtain ⟨others, es, hothers, hflatten⟩ := ih
    have hfirst := filter_of_gives_rootWidgets hroot
    rw [List.map_cons, List.flatten_cons, List.filter_append, ← hflatten, hfirst]
    cases himport : isImport root with
    | true =>
      rw [List.filter_cons_of_neg (by simp [himport])]
      exact ⟨others, es, hothers, rfl⟩
    | false =>
      rw [List.filter_cons_of_pos (by simp [himport])]
      obtain ⟨r', hr', rfl, rfl⟩ := Traced.gives_each.1 hothers
      exact ⟨_, _, Traced.gives_each.2 ⟨p :: r', .cons hroot hr', rfl, rfl⟩, rfl⟩

theorem gives_compile_split {document : List Element} {ws : List Widget} {ds : List Diagnostic}
    (h : (compile o document).Gives ws ds) :
    (compile o (split document).elements).Gives (ws.filter notImport)
      ((document.filter fun e => !isImport e).flatMap (diagnosticsAlone o)) := by
  obtain ⟨groups, hgroups, rfl⟩ := gives_compile h
  obtain ⟨others, es, hothers, hflatten⟩ := gives_each_without hgroups
  have hcompile := gives_compile_of_roots hothers
  have hdiagnostics := diagnostics_of_gives_compile hcompile
  rw [Imports.elements_split, ← hflatten, ← hdiagnostics]
  exact hcompile

/-- A document that compiles does so without its imports. Then its widgets are those that are not
made of a root import, and from its diagnostics those of the root imports are gone, each group as a
whole. What is imported are the packages and then the files that the root imports name, in order. The
imports can also be taken out of a document in its place, and there is nothing to take out twice. -/
theorem compile_split (o : Options) (document : List Element) :
    (∀ ws, (compile o document).result = .ok ws →
      (compile o document).diagnostics = document.flatMap (diagnosticsAlone o) ∧
      (compile o (split document).elements).result =
        .ok (ws.filter fun w => w.info.originalName ≠ "import") ∧
      (compile o (split document).elements).diagnostics =
        (document.filter fun e => !isImport e).flatMap (diagnosticsAlone o)) ∧
    (split document).elements = document.filter (fun e => !isImport e) ∧
    (split document).imports = (document.flatMap (declared "package")).map ("package:" ++ ·) ++
      document.flatMap (declared "file") ∧
    extract.run document = ((split document).imports, (split document).elements) ∧
    extract.run (split document).elements = ([], (split document).elements) := by
  refine ⟨?_, Imports.elements_split document, Imports.imports_split document, rfl, ?_⟩
  · intro ws hws
    have hgives := Traced.gives_diagnostics hws
    obtain ⟨hresult, hdiagnostics⟩ := gives_compile_split hgives
    exact ⟨diagnostics_of_gives_compile hgives, hresult, hdiagnostics⟩
  · have hagain : extract.run (split document).elements =
        ((split (split document).elements).imports, (split (split document).elements).elements) :=
      rfl
    rw [hagain, Imports.split_elements_split]

/-- A text outside of any tag, an import with both attributes and a position that is no number, and a
tag that holds an import. -/
def importingDocument : List Element :=
  [.text "stray",
    .tag ⟨"import", .ofWritten [("file", "a.dart"), ("pug-line", "x"), ("package", "p")],
      none, none⟩ [],
    .tag ⟨"b", default, none, none⟩ [.tag ⟨"import", default, none, none⟩ []]]

/-- The import leaves two diagnostics, which are gone without it; the stray text leaves one. -/
theorem compile_split_importingDocument :
    (compile {} importingDocument).diagnostics.length = 3 ∧
      (∃ ws, (compile {} importingDocument).result = .ok ws ∧ ws.length = 2 ∧
        (compile {} (split importingDocument).elements).result =
          .ok (ws.filter fun w => w.info.originalName ≠ "import")) ∧
      (compile {} (split importingDocument).elements).diagnostics.length = 1 ∧
      (split importingDocument).imports = ["package:p", "a.dart"] ∧
      extract.run (split importingDocument).elements = ([], (split importingDocument).elements) := by
  obtain ⟨hcompile, -, himports, -, htwice⟩ := compile_split {} importingDocument
  obtain ⟨ws, hws, hlength⟩ :
      ∃ ws, (compile {} importingDocument).result = .ok ws ∧ ws.length = 2 :=
    ⟨_, by with_unfolding_all rfl, rfl⟩
  obtain ⟨hdiagnostics, hresult, hothers⟩ := hcompile ws hws
  refine ⟨by decide +kernel, ⟨ws, hws, hlength, hresult⟩, ?_, himports.trans (by decide +kernel),
    htwice⟩
  rw [hothers]
  decide +kernel

end Compile

end WidgetMarkup
