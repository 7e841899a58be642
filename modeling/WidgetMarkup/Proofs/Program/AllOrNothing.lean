import WidgetMarkup.Proofs.Build.Effects
import WidgetMarkup.Proofs.Program.Endings

/-!
# All sources or no output

A run writes nothing before every source that it selects has been read and compiled. If anything goes
wrong up to there, be it the options, a source, its widgets, or that there is no source at all, then
the files are as they were: only the output folder and folders around it may be new. Once everything
is compiled, the documents are written one after the other, as far as it goes, and all of them if the
run ends normally. A document without an encoding leaves an empty file, and the run ends with it.

This is so on any host whose preparations do no more than make the output folder.
-/
namespace WidgetMarkup.Program

open Build
open CommandLine (Arguments)
open Markup (Element)

/-- The sources that a run selects. -/
def Selects (s : Settings) (a : Arguments) (d : Disk) (files : List Path) : Prop :=
  ∃ pattern, Pattern.ofString (orElseText a.inputPattern s.inputPattern) = .ok pattern ∧
    Pattern.files d pattern a.input = .ok files

/-- Where a run looks for options. -/
def optionsPath (s : Settings) (a : Arguments) : Path :=
  a.input.join (.ofString (orElseText a.optionsFile s.optionsFile))

/-- There are sources, and these are the documents of all that a run selects. -/
structure AllCompiled (platform : Platform) (s : Settings) (a : Arguments) (d : Disk)
    (documents : List (Path × Json)) : Prop where
  selects : Selects s a d (documents.map (·.1))
  ne_nil : documents ≠ []
  isDocument : ∃ l, platform.load d (optionsPath s a) = .ok l ∧
    ∀ e ∈ documents, ∃ r, platform.MakesDocument d l.options e.1 r e.2

/-- Something keeps a run from having all documents. -/
inductive Hindered (platform : Platform) (s : Settings) (a : Arguments) (d : Disk) : Prop
  /-- No source matches. -/
  | noSource : Selects s a d [] → Hindered platform s a d
  /-- The options cannot be loaded. -/
  | options {e : Options.LoadError} : platform.load d (optionsPath s a) = .error e →
      Hindered platform s a d
  /-- A source cannot be read, is no text, or is no markup. -/
  | source {files : List Path} {file : Path} : Selects s a d files → file ∈ files →
      (¬∃ roots, HoldsRoots d file roots) → Hindered platform s a d
  /-- A source cannot be compiled. -/
  | widgets {files : List Path} {file : Path} {roots : List Element} {l : LoadedOptions}
      {e : Failure} : Selects s a d files → file ∈ files → HoldsRoots d file roots →
      platform.load d (optionsPath s a) = .ok l →
      CompileFails platform l.options (Imports.split roots).elements e → Hindered platform s a d

/-- Documents are written one after the other, as far as it goes; and the disk after that. -/
inductive WritesFirst (s : Settings) (output : Path) (documents : List (Path × Json)) (d : Disk)
    (ending : Ending) : Disk → Prop
  | written {written : List (Path × Json)} {d' : Disk} : written <+: documents →
      (ending = .normal → written = documents) →
      Disk.Writes d (written.map fun e => (outputPath s output e.1, jsonBytes s e.2)) d' →
      WritesFirst s output documents d ending d'
  /-- The document after those has no encoding. -/
  | emptied {written : List (Path × Json)} {e : Path × Json} {d' : Disk} :
      written ++ [e] <+: documents → ending = .failure .encoding →
      Disk.Writes d (written.map (fun e => (outputPath s output e.1, jsonBytes s e.2)) ++
        [(outputPath s output e.1, .empty)]) d' →
      WritesFirst s output documents d ending d'

section Sources

variable {platform : Platform} {s : Settings} {a : Arguments} {d : Disk}

theorem Selects.unique {files files' : List Path} (h : Selects s a d files)
    (h' : Selects s a d files') : files = files' := by
  obtain ⟨pattern, hpattern, hfiles⟩ := h
  obtain ⟨pattern', hpattern', hfiles'⟩ := h'
  cases hpattern.symm.trans hpattern'
  cases hfiles.symm.trans hfiles'
  rfl

theorem AllCompiled.exists_document {documents : List (Path × Json)}
    (h : AllCompiled platform s a d documents) {files : List Path} {file : Path}
    (hfiles : Selects s a d files) (hfile : file ∈ files) :
    ∃ l r doc, platform.load d (optionsPath s a) = .ok l ∧
      platform.MakesDocument d l.options file r doc := by
  obtain ⟨l, hload, hdocuments⟩ := h.isDocument
  rw [hfiles.unique h.selects] at hfile
  obtain ⟨e, he, rfl⟩ := List.mem_map.1 hfile
  obtain ⟨r, hdoc⟩ := hdocuments e he
  exact ⟨l, r, e.2, hload, hdoc⟩

/-- With all documents there was nothing in the way. -/
theorem AllCompiled.not_hindered {documents : List (Path × Json)}
    (h : AllCompiled platform s a d documents) : ¬Hindered platform s a d := by
  intro hhindered
  cases hhindered with
  | noSource hnone =>
    have hnil : documents.map (·.1) = [] := h.selects.unique hnone
    exact h.ne_nil (List.map_eq_nil_iff.1 hnil)
  | options hload =>
    obtain ⟨l, hload', -⟩ := h.isDocument
    cases hload.symm.trans hload'
  | source hfiles hfile hroots =>
    obtain ⟨l, r, doc, -, roots, hholds, -⟩ := h.exists_document hfiles hfile
    exact hroots ⟨roots, hholds⟩
  | widgets hfiles hfile hroots hload hfails =>
    obtain ⟨l, r, doc, hload', roots, hholds, hcompiles, -⟩ := h.exists_document hfiles hfile
    cases hload.symm.trans hload'
    cases hroots.unique hholds
    exact hfails.not_compiles hcompiles

end Sources

/-- Preparations that do no more than make the output folder, which is there when they are done. -/
structure MakesOutput (preparations : Run Unit) (output : Path) : Prop where
  leaves : Leaves (Disk.MakesFolders output) preparations
  isFolder {w : World} {d : Disk} : Completes preparations w () d → d.isFolder output = .ok true

section Preparing

theorem does_requireFolder (p : Path) :
    Does (requireFolder p) fun d _ d' => d.isFolder p = .ok true ∧ d' = d := by
  intro w u d'
  simp only [requireFolder, completes_currentDisk_bind, completes_orFail_bind, completes_ite,
    completes_pure, not_completes_refuse, and_false, or_false, true_and]
  constructor
  · rintro ⟨found, hfound, rfl, rfl⟩
    exact ⟨hfound, rfl⟩
  · rintro ⟨hfound, rfl⟩
    exact ⟨true, hfound, rfl, rfl⟩

theorem isFolder_of_prepare {a : Arguments} {w : World} {d : Disk}
    (h : Completes (prepare a) w () d) : d.isFolder a.output = .ok true := by
  simp only [prepare, completes_currentDisk_bind, completes_orFail_bind, completes_ite,
    completes_setDisk_bind] at h
  obtain ⟨found, -, ⟨-, hthere⟩ | ⟨-, made, hmade, hinput⟩⟩ := h
  · obtain ⟨_, _, ⟨hfolder, rfl⟩, -, rfl⟩ :=
      ((does_requireFolder a.output).bind fun _ => does_requireFolder a.input) _ _ _ |>.1 hthere
    exact hfolder
  · obtain ⟨-, rfl⟩ := (does_requireFolder a.input _ _ _).1 hinput
    exact Disk.isFolder_of_makeFolders hmade

theorem keepsDisk_requireFolder (p : Path) : KeepsDisk (requireFolder p) := by
  unfold requireFolder
  refine keepsDisk_bind keepsDisk_currentDisk fun d => ?_
  refine keepsDisk_bind (keepsDisk_orFail _ _) fun found => ?_
  split
  · exact keepsDisk_pure ()
  · exact keepsDisk_refuse _

theorem leaves_prepare (a : Arguments) : Leaves (Disk.MakesFolders a.output) (prepare a) := by
  have hrefl := Disk.MakesFolders.refl a.output
  intro w
  simp only [prepare]
  rw [diskAfter_currentDisk_bind]
  cases hfound : w.disk.pathExists a.output with
  | error e => exact hrefl w.disk
  | ok found =>
    cases found with
    | true =>
      have hkeeps := keepsDisk_bind (keepsDisk_requireFolder a.output) fun _ =>
        keepsDisk_requireFolder a.input
      exact hkeeps.leaves hrefl w
    | false =>
      exact diskAfter_setDisk hrefl (w := w) (g := Failure.disk)
        (fun d hmade => Disk.makesFolders_makeFolders hmade) (keepsDisk_requireFolder a.input)

theorem makesOutput_prepare (a : Arguments) : MakesOutput (prepare a) a.output :=
  ⟨leaves_prepare a, isFolder_of_prepare⟩

end Preparing

section Running

variable {platform : Platform} {s : Settings} {a : Arguments}

/-- Once everything has been read and compiled, the disk is as it was before. -/
theorem allCompiled_of_readingStages {p : Project} {w w' : World}
    (houtput : w.disk.isFolder a.output = .ok true)
    (h : (runStages platform s readingStages (project a)).run w = (.ok p, w')) :
    w'.disk = w.disk ∧ p.outputFolder = some a.output ∧
      AllCompiled platform s a w.disk
        (p.results.map fun e => (e.1, document e.1 ((p.imports.lookup e.1).getD []) e.2)) := by
  obtain ⟨files, d₁, ⟨-, hfiles, hne, hensure⟩, l, hload, parsed, ⟨rfl, hparsed⟩, ⟨compiled,
    ⟨hcompiled, hresults⟩, rfl⟩, hdisk⟩ :=
      (does_readingStages (p := project a) rfl rfl w p w'.disk).1 ⟨w', h, rfl⟩
  cases (Disk.ensureFolders_of_isFolder houtput).symm.trans hensure
  refine ⟨hdisk, rfl, ?_⟩
  have hsources := sources_compiled hcompiled
  refine ⟨?_, ?_, l, hload, ?_⟩
  · rw [List.map_map]
    exact hsources ▸ hfiles
  · intro hnil
    have hresults : (compiled.map fun e => (e.1.1, e.2)) = [] := List.map_eq_nil_iff.1 hnil
    rw [← hsources, hresults] at hne
    exact hne rfl
  · intro e he
    obtain ⟨c, hc, rfl⟩ := List.mem_map.1 he
    exact ⟨_, makesDocument_compiled hcompiled hparsed hresults c hc⟩

/-- The documents of all results are written, or the first of them and the run ends. -/
theorem writesFirst_writeResults {p : Project} (houtput : p.outputFolder = some a.output) (w : World) :
    WritesFirst s a.output
      (p.results.map fun e => (e.1, document e.1 ((p.imports.lookup e.1).getD []) e.2)) w.disk
      (.ofResult ((writeResults platform s p >>= report s).run w).1)
      (diskAfter (writeResults platform s p) w) := by
  rcases hrun : (writeResults platform s p).run w with ⟨r, w'⟩
  cases r with
  | ok p' =>
    obtain ⟨⟨-, hwrites⟩, -⟩ := (does_writeResults houtput w p' w'.disk).1 ⟨w', hrun, rfl⟩
    refine .written List.prefix_rfl (fun _ => rfl) ?_
    rw [List.map_map, diskAfter, hrun]
    exact hwrites
  | error st =>
    rw [run_bind_error hrun]
    obtain ⟨written, ⟨hwritten, hwrites⟩ | ⟨e, hwritten, ⟨w'', hstop⟩, hwrites⟩⟩ :=
      writes_writeResults platform s houtput w
    · refine .written (hwritten.map _) (fun h => absurd h (Ending.ofStop_ne_normal st)) ?_
      rw [List.map_map]
      exact hwrites
    · have hmap := hwritten.map fun e => (e.1, document e.1 ((p.imports.lookup e.1).getD []) e.2)
      rw [List.map_append, List.map_singleton] at hmap
      cases hrun.symm.trans hstop
      refine .emptied hmap rfl ?_
      rw [List.map_map]
      exact hwrites

/-- With the output folder there, a build stops early and has made folders at most, or it has all
documents and has written the first of them, or all. -/
theorem build_cases {w : World} (houtput : w.disk.isFolder a.output = .ok true) :
    ((∃ st w', (build platform s (project a)).run w = (.error st, w')) ∧
      Disk.MakesFolders a.output w.disk (diskAfter (build platform s (project a)) w)) ∨
    ∃ documents, AllCompiled platform s a w.disk documents ∧
      WritesFirst s a.output documents w.disk
        (.ofResult ((build platform s (project a)).run w).1)
        (diskAfter (build platform s (project a)) w) := by
  rw [build_eq]
  rcases hread : (runStages platform s readingStages (project a)).run w with ⟨r, w₁⟩
  cases r with
  | error st =>
    rw [diskAfter_bind_error hread]
    exact Or.inl ⟨⟨st, w₁, run_bind_error hread⟩, leaves_readingStages rfl w⟩
  | ok p =>
    -- reading has left the disk as it was, so what is written goes to the disk that was read from
    obtain ⟨hsame, houtputs, hall⟩ := allCompiled_of_readingStages houtput hread
    rw [diskAfter_bind_ok hread, diskAfter_bind_of_keepsDisk fun p => keepsDisk_report s p, ← hsame]
    rw [run_bind_ok hread]
    exact Or.inr ⟨_, hsame ▸ hall, writesFirst_writeResults houtputs w₁⟩

theorem execute_cases {host : Host} (hprepare : MakesOutput (host.prepare a) a.output) (d : Disk) :
    ((execute host s a d).ending ≠ .normal ∧
      Disk.MakesFolders a.output d (execute host s a d).disk) ∨
    ∃ d₁ documents, Completes (host.prepare a) { disk := d } () d₁ ∧
      Disk.MakesFolders a.output d d₁ ∧ AllCompiled host.toPlatform s a d₁ documents ∧
      WritesFirst s a.output documents d₁ (execute host s a d).ending
        (execute host s a d).disk := by
  have hending : (execute host s a d).ending = .ofResult
      ((do host.prepare a; build host.toPlatform s (project a) : Run Project).run { disk := d }).1 :=
    rfl
  have hdisk : (execute host s a d).disk =
      diskAfter (do host.prepare a; build host.toPlatform s (project a)) { disk := d } := rfl
  have hfolders := hprepare.leaves { disk := d }
  rw [hending, hdisk]
  rcases hrun : (host.prepare a).run { disk := d } with ⟨r, w⟩
  cases r with
  | error st =>
    rw [diskAfter_bind_error hrun, run_bind_error hrun]
    exact Or.inl ⟨Ending.ofStop_ne_normal st, hfolders⟩
  | ok u =>
    -- from here on the output folder is there, and the build goes on from the disk that has it
    have hprepared : Completes (host.prepare a) { disk := d } () w.disk := ⟨w, hrun, rfl⟩
    rw [diskAfter, hrun] at hfolders
    rw [diskAfter_bind_ok hrun, run_bind_ok hrun]
    rcases build_cases (hprepare.isFolder hprepared) with
      ⟨⟨st, w', hstop⟩, hmakes⟩ | ⟨documents, hall, hwrites⟩
    · rw [hstop]
      exact Or.inl ⟨Ending.ofStop_ne_normal st, hfolders.trans hmakes⟩
    · exact Or.inr ⟨w.disk, documents, hprepared, hfolders, hall, hwrites⟩

end Running

/-- Output is all or nothing up to the writing. If something keeps a run from having all documents,
it stops early and the files are as before, with no new entry but folders on the way to the output.
Every run either stops early like that, or every source that is selected has a document and the first
of these documents are written, all of them if the run ends normally. A command line that asks for no
run leaves the disk as it is. -/
theorem run_all_or_nothing (host : Host)
    (hprepare : ∀ a, MakesOutput (host.prepare a) a.output) (defaults s : Settings)
    (args : List String) (d : Disk) :
    (∀ a, CommandLine.read defaults args = .run a →
      (∀ d₁, Completes (host.prepare a) { disk := d } () d₁ → Hindered host.toPlatform s a d₁ →
        (run host defaults s args d).ending ≠ .normal ∧
        (∀ l content, (run host defaults s args d).disk.entry? l = some (.file content) ↔
          d.entry? l = some (.file content)) ∧
        Disk.MakesFolders a.output d (run host defaults s args d).disk) ∧
      (((run host defaults s args d).ending ≠ .normal ∧
          Disk.MakesFolders a.output d (run host defaults s args d).disk) ∨
        ∃ d₁ documents, Completes (host.prepare a) { disk := d } () d₁ ∧
          Disk.MakesFolders a.output d d₁ ∧ AllCompiled host.toPlatform s a d₁ documents ∧
          WritesFirst s a.output documents d₁ (run host defaults s args d).ending
            (run host defaults s args d).disk)) ∧
    ((∀ a, CommandLine.read defaults args ≠ .run a) → (run host defaults s args d).disk = d) := by
  constructor
  · intro a hargs
    have hrun : run host defaults s args d = execute host s a d := by simp only [run, hargs]
    have hcases := execute_cases (s := s) (hprepare a) d
    rw [hrun]
    constructor
    · intro d₁ hprepared hhindered
      rcases hcases with ⟨hending, hfolders⟩ | ⟨d₂, documents, hprepared', -, hall, -⟩
      · exact ⟨hending, hfolders.file_iff, hfolders⟩
      · obtain ⟨w, hw, rfl⟩ := hprepared
        obtain ⟨w', hw', rfl⟩ := hprepared'
        cases hw.symm.trans hw'
        exact absurd hhindered hall.not_hindered
    · exact hcases
  · intro hargs
    unfold run
    split
    · rename_i a hrun
      exact absurd hrun (hargs a)
    all_goals rfl

/-- A page that is no text leaves the site as it was, but for the output folder. -/
theorem run_unreadablePage :
    Hindered {} {} siteArguments (readySite ⟨#[0xff]⟩) ∧
      (run {} {} {} ["in", "out"] (site ⟨#[0xff]⟩)).ending ≠ .normal ∧
      Disk.MakesFolders siteArguments.output (site ⟨#[0xff]⟩)
        (run {} {} {} ["in", "out"] (site ⟨#[0xff]⟩)).disk := by
  have hprepared := (prepares_site ⟨#[0xff]⟩).completes
  have htext : Text.ofFile? ⟨#[0xff]⟩ = none := by decide +kernel
  have hhindered : Hindered {} {} siteArguments (readySite ⟨#[0xff]⟩) := by
    refine .source ⟨htmlPattern, ofString_htmlPattern, files_readySite _⟩
      List.mem_cons_self ?_
    rintro ⟨roots, content, text, hread, hfile, -⟩
    cases (read_readySite _).symm.trans hread
    cases htext.symm.trans hfile
  have hrun := (run_all_or_nothing {} makesOutput_prepare {} {} ["in", "out"]
    (site ⟨#[0xff]⟩)).1 siteArguments read_siteArguments
  have hnothing := hrun.1 _ hprepared hhindered
  exact ⟨hhindered, hnothing.1, hnothing.2.2⟩

end WidgetMarkup.Program
