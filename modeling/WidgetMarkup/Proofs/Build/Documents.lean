import WidgetMarkup.Proofs.Build.Completion
import WidgetMarkup.Proofs.Disk.Folders

/-!
# The documents of a build

A build that completes has written one document per source. It is the document of the source as it
was before the build: the sources are read from a disk that has only new folders, and nothing is
written before everything is compiled. A build completes if there is a document for every source and
a place for every document.
-/
namespace WidgetMarkup.Build

open Markup (Element)

theorem filterAuxM_ok {α ε : Type} {f : α → Except ε Bool} {l acc r : List α}
    (hacc : ∀ a ∈ acc, f a = .ok true) (h : l.filterAuxM f acc = .ok r) :
    ∀ a ∈ r, f a = .ok true := by
  induction l generalizing acc with
  | nil =>
    cases h
    exact hacc
  | cons a l ih =>
    rw [List.filterAuxM] at h
    cases ha : f a with
    | error e => rw [ha] at h; cases h
    | ok b =>
      rw [ha] at h
      refine ih ?_ h
      cases b with
      | false => exact hacc
      | true =>
        intro a' ha'
        rcases List.mem_cons.1 ha' with rfl | ha'
        · exact ha
        · exact hacc a' ha'

theorem isFile_of_files {d : Disk} {pattern : Pattern} {folder : Path} {files : List Path}
    (h : Pattern.files d pattern folder = .ok files) : ∀ file ∈ files, d.isFile file = .ok true := by
  unfold Pattern.files at h
  cases hselected : Pattern.selectFrom d pattern.foldersOnly pattern.levels folder with
  | error e => rw [hselected] at h; cases h
  | ok selected =>
    rw [hselected] at h
    simp only [bind, Except.bind, List.filterM] at h
    cases hfound : selected.filterAuxM d.isFile [] with
    | error e => rw [hfound] at h; cases h
    | ok found =>
      rw [hfound] at h
      cases h
      intro file hfile
      have hmem := List.mem_mergeSort.1 hfile
      exact filterAuxM_ok (by simp) hfound file (List.mem_reverse.1 hmem)

/-- The document that a source on a disk is compiled to. -/
def IsDocumentOf (d : Disk) (o : Options) (source : Path) (doc : Json) : Prop :=
  ∃ roots r, HoldsRoots d source roots ∧ CompilesTo o (Imports.split roots).elements r ∧
    doc = document source (Imports.split roots).imports r

/-- The same with what it is compiled to, on a stack that is large enough. -/
def Platform.MakesDocument (platform : Platform) (d : Disk) (o : Options) (source : Path)
    (r : Result) (doc : Json) : Prop :=
  ∃ roots, HoldsRoots d source roots ∧ platform.Compiles o (Imports.split roots).elements r ∧
    doc = document source (Imports.split roots).imports r

theorem Platform.MakesDocument.isDocumentOf {platform : Platform} {d : Disk} {o : Options}
    {source : Path} {r : Result} {doc : Json} (h : platform.MakesDocument d o source r doc) :
    IsDocumentOf d o source doc := by
  obtain ⟨roots, hroots, ⟨-, hcompiles⟩, hdoc⟩ := h
  exact ⟨roots, r, hroots, hcompiles, hdoc⟩

theorem HoldsRoots.unique {d : Disk} {file : Path} {roots roots' : List Element}
    (h : HoldsRoots d file roots) (h' : HoldsRoots d file roots') : roots = roots' := by
  obtain ⟨content, text, hcontent, htext, hroots⟩ := h
  obtain ⟨content', text', hcontent', htext', hroots'⟩ := h'
  rw [hcontent] at hcontent'
  cases hcontent'
  rw [htext] at htext'
  cases htext'
  rw [hroots] at hroots'
  cases hroots'
  rfl

theorem CompilesTo.unique {o : Options} {elements : List Element} {r r' : Result}
    (h : CompilesTo o elements r) (h' : CompilesTo o elements r') : r = r' := by
  obtain ⟨hwidgets, hdiagnostics⟩ := h
  obtain ⟨hwidgets', hdiagnostics'⟩ := h'
  obtain ⟨widgets, diagnostics⟩ := r
  obtain ⟨widgets', diagnostics'⟩ := r'
  have hw := hwidgets.symm.trans hwidgets'
  injection hw with hw
  have hd := hdiagnostics.symm.trans hdiagnostics'
  dsimp only at hw hd
  rw [hw, hd]

theorem IsDocumentOf.unique {d : Disk} {o : Options} {source : Path} {doc doc' : Json}
    (h : IsDocumentOf d o source doc) (h' : IsDocumentOf d o source doc') : doc = doc' := by
  obtain ⟨roots, r, hroots, hr, rfl⟩ := h
  obtain ⟨roots', r', hroots', hr', rfl⟩ := h'
  obtain rfl := hroots.unique hroots'
  rw [hr.unique hr']

theorem Platform.MakesDocument.unique {platform : Platform} {d : Disk} {o : Options}
    {source : Path} {r r' : Result} {doc doc' : Json}
    (h : platform.MakesDocument d o source r doc)
    (h' : platform.MakesDocument d o source r' doc') : r = r' ∧ doc = doc' := by
  obtain ⟨roots, hroots, ⟨-, hr⟩, rfl⟩ := h
  obtain ⟨roots', hroots', ⟨-, hr'⟩, rfl⟩ := h'
  obtain rfl := hroots.unique hroots'
  obtain rfl := hr.unique hr'
  exact ⟨rfl, rfl⟩

theorem lookup_imports {d : Disk} {parsed : List (Path × List Element)}
    (hparsed : ∀ e ∈ parsed, HoldsRoots d e.1 e.2) {file : Path} {roots : List Element}
    (h : (file, roots) ∈ parsed) :
    (parsed.map fun e => (e.1, (Imports.split e.2).imports)).lookup file =
      some (Imports.split roots).imports := by
  induction parsed with
  | nil => cases h
  | cons e parsed ih =>
    rw [List.map_cons, List.lookup_cons]
    by_cases hfile : file = e.1
    · have heq := (hparsed e List.mem_cons_self).unique (hfile ▸ hparsed _ h)
      simp only [hfile, beq_self_eq_true, heq]
    · have hbeq : (file == e.1) = false := beq_eq_false_iff_ne.2 hfile
      rcases List.mem_cons.1 h with heq | h
      · exact absurd (congrArg Prod.fst heq) hfile
      · rw [hbeq]
        exact ih (fun e he => hparsed e (List.mem_cons_of_mem _ he)) h

theorem HoldsRoots.of_extends {d d' : Disk} {file : Path} {roots : List Element}
    (hext : Disk.Extends d d') (hfile : d.isFile file = .ok true)
    (h : HoldsRoots d' file roots) : HoldsRoots d file roots := by
  unfold HoldsRoots at h ⊢
  rwa [hext.read_eq hfile] at h

section Compiled

variable {platform : Platform} {d : Disk} {o : Options} {parsed : List (Path × List Element)}
  {compiled : List ((Path × List Element) × Result)}
  (hcompiled : compiled.map (·.1) = parsed.map fun e => (e.1, (Imports.split e.2).elements))

include hcompiled

theorem sources_compiled :
    (compiled.map fun e => (e.1.1, e.2)).map (·.1) = parsed.map (·.1) := by
  have hpaths := congrArg (List.map Prod.fst) hcompiled
  rw [List.map_map, List.map_map] at hpaths
  rw [List.map_map]
  exact hpaths

theorem makesDocument_compiled (hparsed : ∀ e ∈ parsed, HoldsRoots d e.1 e.2)
    (hresults : ∀ e ∈ compiled, platform.Compiles o e.1.2 e.2) :
    ∀ e ∈ compiled.map fun e => (e.1.1, e.2), platform.MakesDocument d o e.1 e.2 (document e.1
      (((parsed.map fun e => (e.1, (Imports.split e.2).imports)).lookup e.1).getD []) e.2) := by
  rw [List.forall_mem_map]
  intro c hc
  have hmem : c.1 ∈ compiled.map (·.1) := List.mem_map_of_mem hc
  rw [hcompiled] at hmem
  obtain ⟨e, he, hec⟩ := List.mem_map.1 hmem
  have hresult := hresults c hc
  rw [← hec] at hresult ⊢
  refine ⟨e.2, hparsed e he, hresult, ?_⟩
  rw [lookup_imports hparsed he]
  rfl

end Compiled

/-- When the documents are written, sources have been found, and the document of each of them, as it
was before, has been written to its path. -/
theorem completes_writingStages {platform : Platform} {s : Settings} {p p' : Project} {w : World}
    {d' : Disk} (h : Completes (runStages platform s writingStages p) w p' d') :
    ∃ (output : Path) (o : Options) (items : List (Path × Json)) (d : Disk),
      p.outputFolder = some output ∧ p'.sources = .found (items.map (·.1)) ∧
      p'.options = some o ∧ p'.outputs = items.map (fun e => outputPath s output e.1) ∧
      (∀ e ∈ items, IsDocumentOf w.disk o e.1 e.2) ∧
      Disk.Writes d (items.map fun e => (outputPath s output e.1, jsonBytes s e.2)) d' := by
  obtain ⟨input, output, hinput, houtput⟩ : ∃ input output,
      p.inputFolder = some input ∧ p.outputFolder = some output := by
    obtain ⟨p₁, w₁, hcheck, -⟩ := completes_bind.1 h
    exact exists_folders_of_check ⟨w₁, hcheck, rfl⟩
  obtain ⟨files, d, ⟨-, ⟨pattern, -, hfiles⟩, -, hensure⟩, l, -, parsed, ⟨rfl, hparsed⟩,
    compiled, ⟨hcompiled, hresults⟩, ⟨-, hwrites⟩, rfl⟩ :=
      (does_writingStages hinput houtput w p' d').1 h
  have hext := (Disk.makesFolders_ensureFolders List.prefix_rfl hensure).extends
  have hisFile := isFile_of_files hfiles
  -- the sources are read from the disk with the new folders, where they are as before
  have hroots : ∀ e ∈ parsed, HoldsRoots w.disk e.1 e.2 := fun e he =>
    (hparsed e he).of_extends hext (hisFile e.1 (List.mem_map_of_mem he))
  let imports := parsed.map fun e => (e.1, (Imports.split e.2).imports)
  let items := (compiled.map fun e => (e.1.1, e.2)).map fun e =>
    (e.1, document e.1 ((imports.lookup e.1).getD []) e.2)
  have hsources : items.map (·.1) = parsed.map (·.1) := by
    rw [← sources_compiled hcompiled, List.map_map]
    rfl
  have hdocuments : ∀ e ∈ items, IsDocumentOf w.disk l.options e.1 e.2 := by
    rw [List.forall_mem_map]
    exact fun e he => (makesDocument_compiled hcompiled hroots hresults e he).isDocumentOf
  refine ⟨output, l.options, items, d, houtput, by rw [hsources], rfl, ?_, hdocuments, ?_⟩
  · simp only [items, List.map_map]
    rfl
  · simp only [items, List.map_map]
    simp only [List.map_map] at hwrites
    exact hwrites

theorem exists_pairs {α β : Type} {P : α → β → Prop} {l : List α} (h : ∀ a ∈ l, ∃ b, P a b) :
    ∃ r : List (α × β), r.map (·.1) = l ∧ ∀ e ∈ r, P e.1 e.2 := by
  induction l with
  | nil => exact ⟨[], rfl, by simp⟩
  | cons a l ih =>
    obtain ⟨ha, hl⟩ := List.forall_mem_cons.1 h
    obtain ⟨b, hb⟩ := ha
    obtain ⟨r, hmap, hr⟩ := ih hl
    exact ⟨(a, b) :: r, by rw [List.map_cons, hmap], List.forall_mem_cons.2 ⟨hb, hr⟩⟩

/-- The roots of sources that all have a document, and what they are compiled to. -/
theorem exists_compiled {platform : Platform} {d : Disk} {o : Options} {files : List Path}
    (h : ∀ file ∈ files, ∃ r doc, platform.MakesDocument d o file r doc) :
    ∃ (parsed : List (Path × List Element)) (compiled : List ((Path × List Element) × Result)),
      parsed.map (·.1) = files ∧ (∀ e ∈ parsed, HoldsRoots d e.1 e.2) ∧
      compiled.map (·.1) = parsed.map (fun e => (e.1, (Imports.split e.2).elements)) ∧
      ∀ e ∈ compiled, platform.Compiles o e.1.2 e.2 := by
  obtain ⟨parsed, hmap, hparsed⟩ := exists_pairs (P := fun file roots =>
    HoldsRoots d file roots ∧ ∃ r, platform.Compiles o (Imports.split roots).elements r)
    fun file hfile => by
      obtain ⟨r, doc, roots, hroots, hr, -⟩ := h file hfile
      exact ⟨roots, hroots, r, hr⟩
  obtain ⟨compiled, hcompiled, hresults⟩ := exists_pairs
    (l := parsed.map fun e => (e.1, (Imports.split e.2).elements))
    (P := fun e r => platform.Compiles o e.2 r) (by
      rw [List.forall_mem_map]
      exact fun e he => (hparsed e he).2)
  exact ⟨parsed, compiled, hmap, fun e he => (hparsed e he).1, hcompiled, hresults⟩

/-- Documents that have an encoding and a place can be written. -/
theorem exists_written {platform : Platform} {d : Disk} {l : LoadedOptions} (s : Settings)
    (output : Path) {results : List (Path × Result)} {documentOf : Path × Result → Json}
    (hmakes : ∀ e ∈ results, platform.MakesDocument d l.options e.1 e.2 (documentOf e))
    (hgood : ∀ e ∈ results, (∃ r doc, platform.MakesDocument d l.options e.1 r doc ∧
      platform.Renders l.options l.encodesText doc r) ∧ d.CanWrite (outputPath s output e.1)) :
    (∀ e ∈ results, platform.Renders l.options l.encodesText (documentOf e) e.2) ∧
      ∃ d', Disk.Writes d
        (results.map fun e => (outputPath s output e.1, jsonBytes s (documentOf e))) d' := by
  constructor
  · intro e he
    obtain ⟨⟨r, doc, hmade, hrenders⟩, -⟩ := hgood e he
    obtain ⟨rfl, rfl⟩ := hmade.unique (hmakes e he)
    exact hrenders
  · apply Disk.exists_writes
    simp only [List.forall_mem_map]
    exact fun e he => (hgood e he).2

/-- The documents are written if sources are found, each of them has a document that can be written,
and no output is a folder. -/
theorem exists_completes_writingStages {platform : Platform} {s : Settings} {p : Project}
    {w : World} {input output : Path} {pattern : Pattern} {files : List Path} {d : Disk}
    {l : LoadedOptions}
    (hinput : p.inputFolder = some input) (hfolder : w.disk.isFolder input = .ok true)
    (hpattern : Pattern.ofString (orElseText p.inputPattern s.inputPattern) = .ok pattern)
    (hfiles : Pattern.files w.disk pattern input = .ok files) (hne : files ≠ [])
    (houtput : p.outputFolder = some output) (hensure : w.disk.ensureFolders output = .ok d)
    (hload : platform.load d (input.join (.ofString (orElseText p.optionsFile s.optionsFile))) =
      .ok l)
    (hdocs : ∀ file ∈ files, ∃ r doc, platform.MakesDocument d l.options file r doc ∧
      platform.Renders l.options l.encodesText doc r)
    (htargets : ∀ file ∈ files, d.CanWrite (outputPath s output file)) :
    ∃ p' d', Completes (runStages platform s writingStages p) w p' d' ∧
      p'.sources = .found files := by
  have hmakes : ∀ file ∈ files, ∃ r doc, platform.MakesDocument d l.options file r doc :=
    fun file hfile => (hdocs file hfile).imp fun r hr => hr.imp fun doc hdoc => hdoc.1
  obtain ⟨parsed, compiled, hmap, hparsed, hcompiled, hresults⟩ := exists_compiled hmakes
  have hsources := (sources_compiled hcompiled).trans hmap
  obtain ⟨hrenders, d', hwrites⟩ := exists_written s output
    (makesDocument_compiled hcompiled hparsed hresults) fun e he => by
      have hfile : e.1 ∈ files := hsources ▸ List.mem_map_of_mem he
      exact ⟨hdocs e.1 hfile, htargets e.1 hfile⟩
  exact ⟨_, d', (does_writingStages hinput houtput w _ d').2 ⟨files, d, ⟨hfolder,
    ⟨pattern, hpattern, hfiles⟩, hne, hensure⟩, l, hload, parsed,
    ⟨hmap, hparsed⟩, compiled, ⟨hcompiled, hresults⟩, ⟨hrenders, hwrites⟩, rfl⟩, rfl⟩

end WidgetMarkup.Build
