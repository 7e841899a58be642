import Mathlib.Data.List.Nodup
import WidgetMarkup.Proofs.Build.Documents
import WidgetMarkup.Proofs.Json.Escaping
import WidgetMarkup.Proofs.Text.Lines

/-!
# The outputs of a build

The path of an output is made from the stem of its source. Outputs of different sources may lead to
one place, and then the document that is written last stays. The statement here says exactly when
every source keeps its own: when the places are different. For output names that are plain names in
the output folder, this means that no two sources have the same stem.
-/
namespace WidgetMarkup.Build

/-- The document of a source stands at its output. -/
def HasOutput (s : Settings) (o : Options) (output : Path) (before after : Disk) (file : Path) :
    Prop :=
  ∃ doc, IsDocumentOf before o file doc ∧
    after.read (outputPath s output file) = .ok (jsonBytes s doc)

/-- Every source has its own document at its output, and no output is listed twice. -/
structure KeepsOutputs (s : Settings) (o : Options) (output : Path) (before after : Disk)
    (files outputs : List Path) : Prop where
  hasOutput : ∀ file ∈ files, HasOutput s o output before after file
  nodup : outputs.Nodup

theorem name_eq_of_jsonBytes_eq {s : Settings} {o : Options} {d : Disk} {file file' : Path}
    {doc doc' : Json} (hdoc : IsDocumentOf d o file doc) (hdoc' : IsDocumentOf d o file' doc')
    (h : jsonBytes s doc = jsonBytes s doc') : file.name = file'.name := by
  obtain ⟨roots, r, -, -, rfl⟩ := hdoc
  obtain ⟨roots', r', -, -, rfl⟩ := hdoc'
  exact Json.name_eq_of_render_eq (String.toByteArray_inj.1 h)

section Written

variable {s : Settings} {o : Options} {output : Path} {before d after : Disk}
  {items : List (Path × Json)} (hdocs : ∀ e ∈ items, IsDocumentOf before o e.1 e.2)
  (hwrites : Disk.Writes d (items.map fun e => (outputPath s output e.1, jsonBytes s e.2)) after)

include hdocs hwrites

/-- Where every source has its own document, outputs at one place belong to sources of one name. -/
theorem name_eq_of_target_eq
    (hown : ∀ file ∈ items.map (·.1), HasOutput s o output before after file)
    {e e' : Path × Json} (he : e ∈ items) (he' : e' ∈ items)
    (htarget : after.target (outputPath s output e.1) = after.target (outputPath s output e'.1)) :
    e.1.name = e'.1.name := by
  have hkeeps := hwrites.keeps_iff
  simp only [List.forall_mem_map] at hkeeps hown
  -- what is read at the output of a source is what was written for it
  have hread : ∀ e ∈ items, after.read (outputPath s output e.1) = .ok (jsonBytes s e.2) := by
    intro e he
    obtain ⟨doc, hdoc, hread⟩ := hown e he
    rw [hread, hdoc.unique (hdocs e he)]
  exact name_eq_of_jsonBytes_eq (hdocs e he) (hdocs e' he') (hkeeps.1 hread e he e' he' htarget)

theorem keepsOutputs_iff_nodup_target :
    KeepsOutputs s o output before after (items.map (·.1))
        (items.map fun e => outputPath s output e.1) ↔
      (items.map fun e => after.target (outputPath s output e.1)).Nodup := by
  constructor
  · rintro ⟨hown, hnodup⟩
    rw [List.Nodup, List.pairwise_map] at hnodup ⊢
    refine hnodup.imp_of_mem fun {e e'} he he' hne htarget => hne ?_
    have hname := name_eq_of_target_eq hdocs hwrites hown he he' htarget
    simp only [outputPath, Settings.outputName, Path.stem, hname]
  · intro hnodup
    have hkeeps := hwrites.keeps_iff
    simp only [List.forall_mem_map] at hkeeps
    refine ⟨?_, ?_⟩
    · have hread := hkeeps.2 fun e he e' he' htarget => by
        rw [List.inj_on_of_nodup_map hnodup he he' htarget]
      rw [List.forall_mem_map]
      intro e he
      exact ⟨e.2, hdocs e he, hread e he⟩
    · have hmap : items.map (fun e => after.target (outputPath s output e.1)) =
          (items.map fun e => outputPath s output e.1).map after.target := by
        rw [List.map_map, Function.comp_def]
      rw [hmap] at hnodup
      exact hnodup.of_map _

end Written

/-- A name that stands for one entry of a folder. -/
def IsPlainName (name : String) : Prop :=
  '/' ∉ name.toList ∧ name ≠ "" ∧ name ≠ "." ∧ name ≠ ".."

instance (name : String) : Decidable (IsPlainName name) :=
  inferInstanceAs (Decidable (_ ∧ _))

theorem ofString_of_isPlainName {name : String} (h : IsPlainName name) :
    Path.ofString name = ⟨"", [name]⟩ := by
  obtain ⟨hslash, hempty, hdot, -⟩ := h
  have hroot : Path.rootOf name.toList = "" := by
    cases hchars : name.toList with
    | nil => rfl
    | cons c chars =>
      have hc : ¬decide (c = '/') = true := by
        intro h
        rw [hchars, of_decide_eq_true h] at hslash
        exact hslash List.mem_cons_self
      have htake : (c :: chars).takeWhile (· = '/') = [] := List.takeWhile_cons_of_neg hc
      rw [Path.rootOf, htake]
      rfl
  have hparts : Path.partsOf name.toList = [name] := by
    simp [Path.partsOf, Text.pieces_of_not_mem hslash, hempty, hdot]
  rw [Path.ofString, hroot, hparts]

theorem target_outputPath {s : Settings} {output file : Path} {d : Disk} {l : Disk.Place}
    (hname : IsPlainName (s.outputName file)) (hl : d.target (outputPath s output file) = .ok l) :
    ∃ m, d.follow (d.start output) output.parts = .ok m ∧ l = m ++ [s.outputName file] := by
  have hpath : outputPath s output file = ⟨output.root, output.parts ++ [s.outputName file]⟩ := by
    rw [outputPath, ofString_of_isPlainName hname]
    rfl
  rw [hpath] at hl
  unfold Disk.target at hl
  cases hcheck : Disk.checkPath ⟨output.root, output.parts ++ [s.outputName file]⟩ with
  | error e => rw [hcheck] at hl; cases hl
  | ok u =>
    rw [hcheck] at hl
    simp only [bind, Except.bind, List.getLast?_concat, List.dropLast_concat] at hl
    have hstart : d.start ⟨output.root, output.parts ++ [s.outputName file]⟩ = d.start output := rfl
    rw [hstart] at hl
    cases hfollow : d.follow (d.start output) output.parts with
    | error e => rw [hfollow] at hl; cases hl
    | ok m =>
      rw [hfollow] at hl
      simp only [Disk.enter, hname.2.2.2, if_false] at hl
      split at hl
      · cases hl
      · split at hl
        · cases hl
        · cases hl
          exact ⟨m, rfl, rfl⟩

/-- Two outputs with plain names are one place only if the sources have the same stem. -/
theorem target_outputPath_eq_iff {s : Settings} {output file file' : Path} {d : Disk}
    {l : Disk.Place} (hname : IsPlainName (s.outputName file))
    (hname' : IsPlainName (s.outputName file'))
    (hl : d.target (outputPath s output file) = .ok l) :
    d.target (outputPath s output file) = d.target (outputPath s output file') ↔
      file.stem = file'.stem := by
  constructor
  · intro heq
    obtain ⟨m, hm, rfl⟩ := target_outputPath hname hl
    obtain ⟨m', hm', hplace⟩ := target_outputPath hname' (heq.symm.trans hl)
    rw [hm] at hm'
    cases hm'
    have hnames := List.head_eq_of_cons_eq (List.append_cancel_left hplace)
    have hchars := congrArg String.toList hnames
    simp only [Settings.outputName, String.toList_append] at hchars
    exact String.toList_injective (List.append_cancel_right hchars)
  · intro hstem
    simp only [outputPath, Settings.outputName, hstem]

/-- When the documents are written, every source keeps its own if and only if the outputs are at
different places. Where the outputs are plain names in the output folder, this says that no two
sources have the same stem. -/
theorem keepsOutputs_iff {platform : Platform} {s : Settings} {p p' : Project} {w : World}
    {d : Disk} (h : Completes (runStages platform s writingStages p) w p' d) :
    ∃ (output : Path) (files : List Path) (o : Options), p.outputFolder = some output ∧
      p'.sources = .found files ∧ p'.options = some o ∧
      p'.outputs = files.map (outputPath s output) ∧
      (KeepsOutputs s o output w.disk d files p'.outputs ↔
        (files.map fun file => d.target (outputPath s output file)).Nodup) ∧
      ((∀ file ∈ files, IsPlainName (s.outputName file)) →
        (KeepsOutputs s o output w.disk d files p'.outputs ↔
          (files.map Path.stem).Nodup)) := by
  obtain ⟨output, o, items, d₁, houtput, hsources, ho, houtputs, hdocs, hwrites⟩ :=
    completes_writingStages h
  have hkeeps := keepsOutputs_iff_nodup_target hdocs hwrites
  have htargets := hwrites.exists_target
  simp only [List.forall_mem_map] at htargets
  refine ⟨output, items.map (·.1), o, houtput, hsources, ho, ?_, ?_, fun hplain => ?_⟩
  · rw [houtputs, List.map_map, Function.comp_def]
  · rw [houtputs, hkeeps, List.map_map, Function.comp_def]
  · rw [houtputs, hkeeps, List.map_map, List.Nodup, List.Nodup, List.pairwise_map,
      List.pairwise_map]
    refine List.Pairwise.iff_of_mem fun {e e'} he he' => not_congr ?_
    rw [List.forall_mem_map] at hplain
    obtain ⟨l, hl⟩ := htargets e he
    exact target_outputPath_eq_iff (hplain e he) (hplain e' he') (hwrites.sameFolders.target hl)

/-- A page in the input folder. -/
def page (name : String) : Path :=
  ⟨"", ["in", name]⟩

/-- Three pages without content. -/
def pages : Disk :=
  ["b.html", "a.html", "a.htm"].foldl (fun d name => d.addFile ["in", name] ⟨#[]⟩) {}

/-- A project for the pages that a pattern selects. -/
def pagesLike (text : String) : Project where
  inputFolder := some ⟨"", ["in"]⟩
  outputFolder := some ⟨"", ["out"]⟩
  inputPattern := some text
  optionsFile := some "o"

theorem files_pages {pattern : Pattern} {files : List Path}
    (hselected : Pattern.selectFrom pages pattern.foldersOnly pattern.levels ⟨"", ["in"]⟩ = .ok files)
    (hfound : files.filterM pages.isFile = .ok files) (hsorted : files.Pairwise (Path.le · ·)) :
    Pattern.files pages pattern ⟨"", ["in"]⟩ = .ok files := by
  simp only [Pattern.files, hselected, hfound, bind, Except.bind, List.mergeSort_of_pairwise hsorted]

theorem makesDocument_page {name : String} (h : name ∈ ["a.htm", "a.html", "b.html"]) :
    ∃ r doc, ({} : Platform).MakesDocument (pages.put ["out"] .folder) {} (page name) r doc := by
  have hread : (pages.put ["out"] .folder).read (page name) = .ok ⟨#[]⟩ := by
    revert name
    simp only [List.forall_mem_cons, List.not_mem_nil, IsEmpty.forall_iff, implies_true, and_true]
    refine ⟨?_, ?_, ?_⟩
    · rfl
    · rfl
    · rfl
  have htext : Text.ofFile? ⟨#[]⟩ = some [] := by decide +kernel
  have hroots : Markup.readChars [] = .ok [] := by with_unfolding_all rfl
  exact ⟨⟨[], []⟩, _, [], ⟨_, _, hread, htext, hroots⟩, ⟨rfl, rfl, rfl⟩, rfl⟩

theorem canWrite_page {name : String} (h : name ∈ ["a.htm", "a.html", "b.html"]) :
    (pages.put ["out"] .folder).CanWrite (outputPath {} ⟨"", ["out"]⟩ (page name)) := by
  refine ⟨["out", ({} : Settings).outputName (page name)], ?_⟩
  revert name
  simp only [List.forall_mem_cons, List.not_mem_nil, IsEmpty.forall_iff, implies_true, and_true]
  refine ⟨?_, ?_, ?_⟩
  · decide +kernel
  · decide +kernel
  · decide +kernel

theorem exists_completes_pages (text : String) (pattern : Pattern) (names : List String)
    (hpattern : Pattern.ofString (orElseText (some text) "*.html") = .ok pattern)
    (hfiles : Pattern.files pages pattern ⟨"", ["in"]⟩ = .ok (names.map page)) (hne : names ≠ [])
    (hnames : ∀ name ∈ names, name ∈ ["a.htm", "a.html", "b.html"]) :
    ∃ p' d', Completes (runStages {} {} writingStages (pagesLike text)) { disk := pages } p' d' ∧
      p'.sources = .found (names.map page) := by
  have hfolder : pages.isFolder ⟨"", ["in"]⟩ = .ok true := by rfl
  have hensure : pages.ensureFolders ⟨"", ["out"]⟩ = .ok (pages.put ["out"] .folder) := by rfl
  have hname : Path.join ⟨"", ["in"]⟩ (.ofString (orElseText (pagesLike text).optionsFile
      ({} : Settings).optionsFile)) = page "o" := by
    change Path.join _ (.ofString (orElseText (some "o") "pugwidgets.yaml")) = _
    decide +kernel
  have hmissing : (pages.put ["out"] .folder).pathExists (page "o") = .ok false := by
    rfl
  rw [← hname] at hmissing
  refine exists_completes_writingStages rfl hfolder hpattern hfiles (by simpa using hne) rfl hensure
    (load_of_missing hmissing) ?_ ?_
  · rw [List.forall_mem_map]
    intro name hname
    obtain ⟨r, doc, hdoc⟩ := makesDocument_page (hnames name hname)
    exact ⟨r, doc, hdoc, rfl, rfl⟩
  · rw [List.forall_mem_map]
    exact fun name hname => canWrite_page (hnames name hname)

/-- Pages with different stems keep their outputs. -/
theorem keepsOutputs_htmlPages :
    ∃ p' d o, Completes (runStages {} {} writingStages (pagesLike "*.html")) { disk := pages } p' d ∧
      p'.sources = .found [page "a.html", page "b.html"] ∧ p'.options = some o ∧
      KeepsOutputs {} o ⟨"", ["out"]⟩ pages d [page "a.html", page "b.html"] p'.outputs := by
  obtain ⟨p', d, h, hsources⟩ := exists_completes_pages "*.html"
    ⟨[.like [.star, .char '.', .char 'h', .char 't', .char 'm', .char 'l']], false⟩
    ["a.html", "b.html"] (by decide +kernel)
    (files_pages (by with_unfolding_all rfl) (by rfl) (by decide +kernel)) (by decide) (by decide)
  obtain ⟨output, files, o, houtput, hfound, ho, -, -, hstems⟩ := keepsOutputs_iff h
  cases houtput
  cases hsources.symm.trans hfound
  refine ⟨p', d, o, h, hsources, ho, (hstems ?_).2 ?_⟩
  · decide +kernel
  · decide +kernel

/-- Of two pages with the same stem, one loses its document, and the output is listed twice. -/
theorem not_hasOutput_sameStem :
    ∃ p' d o, Completes (runStages {} {} writingStages (pagesLike "a*")) { disk := pages } p' d ∧
      p'.sources = .found [page "a.htm", page "a.html"] ∧ p'.options = some o ∧
      ¬p'.outputs.Nodup ∧
      ¬∀ file ∈ [page "a.htm", page "a.html"], HasOutput {} o ⟨"", ["out"]⟩ pages d file := by
  obtain ⟨p', d, h, hsources⟩ := exists_completes_pages "a*"
    ⟨[.like [.char 'a', .star]], false⟩ ["a.htm", "a.html"] (by decide +kernel)
    (files_pages (by with_unfolding_all rfl) (by rfl) (by decide +kernel)) (by decide) (by decide)
  obtain ⟨output, o, items, d₁, houtput, hfound, ho, houtputs, hdocs, hwrites⟩ :=
    completes_writingStages h
  cases houtput
  have hfiles := hsources.symm.trans hfound
  injection hfiles with hfiles
  obtain ⟨⟨_, doc⟩, rest, rfl, rfl, hsecond⟩ := List.map_eq_cons_iff.1 hfiles.symm
  obtain ⟨⟨_, doc'⟩, rest, rfl, rfl, hnone⟩ := List.map_eq_cons_iff.1 hsecond
  obtain rfl := List.map_eq_nil_iff.1 hnone
  have hsame : outputPath {} ⟨"", ["out"]⟩ (page "a.htm") =
      outputPath {} ⟨"", ["out"]⟩ (page "a.html") := by decide +kernel
  refine ⟨p', d, o, h, hsources, ho, ?_, ?_⟩
  · rw [houtputs]
    simp [hsame]
  · intro hown
    have hname : (page "a.htm").name = (page "a.html").name :=
      name_eq_of_target_eq hdocs hwrites hown List.mem_cons_self
        (List.mem_cons_of_mem _ List.mem_cons_self) (by rw [hsame])
    exact absurd hname (by decide +kernel)

end WidgetMarkup.Build
