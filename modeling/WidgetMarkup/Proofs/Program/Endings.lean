import WidgetMarkup.Program
import WidgetMarkup.Proofs.Build.Failing

/-!
# How the program ends

Once both folders are there, a run that is asked for ends normally, exits with status 1, or fails. It
fails for a reason that lies in the files: the sources cannot be looked up, the options cannot be
loaded and it does not show that they are no good, a source is no text or holds a number that is too
long, a document has no path or no encoding, or something is nested deeper than the stack allows. In
every other case the program ends as it should. This is so on any host, however it prepares a run,
loads options or limits the stack.
-/
namespace WidgetMarkup.Program

open Build
open CommandLine (Arguments)

/-- The preparations for a run complete, and both folders are there. -/
structure Prepares (host : Host) (a : Arguments) (d d₁ : Disk) : Prop where
  completes : Completes (host.prepare a) { disk := d } () d₁
  input : d₁.isFolder a.input = .ok true
  output : d₁.isFolder a.output = .ok true

/-- What the program fails with, given the sources that a pattern selects. -/
def Escapes (platform : Platform) (s : Settings) (a : Arguments) (pattern : Pattern) (d : Disk)
    (e : Failure) : Prop :=
  (∃ err, Pattern.files d pattern a.input = .error err ∧ e = .disk err) ∨
  ∃ files, Pattern.files d pattern a.input = .ok files ∧ files ≠ [] ∧
    SourcesFail platform s a.output
      (a.input.join (.ofString (orElseText a.optionsFile s.optionsFile))) files d e

theorem Ending.ofStop_ne_normal (st : Stop) : Ending.ofStop st ≠ .normal := by
  cases st with
  | exit status trace => exact Ending.noConfusion
  | failure e => exact Ending.noConfusion

section Endings

variable {α : Type} {r : Run α} {E : Disk → Failure → Prop}

theorem ofResult_eq_failure_iff (h : FailsWhere r E) (w : World) (e : Failure) :
    Ending.ofResult (r.run w).1 = .failure e ↔ E w.disk e := by
  rw [← h.failure_iff w e]
  rcases hrun : r.run w with ⟨result, w'⟩
  cases result with
  | ok x =>
    constructor
    · intro hnormal
      cases hnormal
    · rintro ⟨w', hstop⟩
      rw [hrun] at hstop
      cases hstop
  | error st =>
    rw [stopped_of_error hrun]
    cases st with
    | failure e' => simp [Ending.ofResult, Ending.ofStop, eq_comm]
    | exit status trace => simp [Ending.ofResult, Ending.ofStop]

/-- A run that does not fail ends normally or exits with status 1. -/
theorem ofResult_provided_iff (h : FailsWhere r E) (w : World) :
    (Ending.ofResult (r.run w).1 = .normal ∨
      ∃ trace, Ending.ofResult (r.run w).1 = .exit 1 trace) ↔ ¬∃ e, E w.disk e := by
  simp only [← ofResult_eq_failure_iff h]
  rcases hrun : r.run w with ⟨result, w'⟩
  cases result with
  | ok x => simp [Ending.ofResult]
  | error st =>
    cases st with
    | failure e => simp [Ending.ofResult, Ending.ofStop]
    | exit status trace =>
      have hstatus := h.status_eq w status trace ⟨w', hrun⟩
      simp [Ending.ofResult, Ending.ofStop, hstatus]

theorem ending_outcome_bind {β : Type} {f : α → Run β} {x : α} {d : Disk} {w : World}
    (verbosity : Int) (h : r.run { disk := d } = (.ok x, w)) :
    (outcome verbosity (r >>= f) d).ending = .ofResult ((f x).run w).1 := by
  have hrun : (r >>= f).run.run { disk := d } = (f x).run.run w := run_bind_ok h
  simp only [outcome, hrun]
  rfl

end Endings

/-- With both folders there, a build fails where the files make it fail. -/
theorem escapes_iff {platform : Platform} {s : Settings} {a : Arguments} {pattern : Pattern}
    {d : Disk}
    (hpattern : Pattern.ofString (orElseText a.inputPattern s.inputPattern) = .ok pattern)
    (hinput : d.isFolder a.input = .ok true) (houtput : d.isFolder a.output = .ok true)
    (e : Failure) :
    (LookupFails (orElseText a.inputPattern s.inputPattern) a.input a.output d e ∨
      ∃ files d₁, (d.isFolder a.input = .ok true ∧
        (∃ pattern, Pattern.ofString (orElseText a.inputPattern s.inputPattern) = .ok pattern ∧
          Pattern.files d pattern a.input = .ok files) ∧
        files ≠ [] ∧ d.ensureFolders a.output = .ok d₁) ∧
      SourcesFail platform s a.output
        (a.input.join (.ofString (orElseText a.optionsFile s.optionsFile))) files d₁ e) ↔
      Escapes platform s a pattern d e := by
  have hensure := Disk.ensureFolders_of_isFolder houtput
  constructor
  · rintro (hlookup | ⟨files, d₁, ⟨-, ⟨pattern', hpattern', hfiles⟩, hne, hensure'⟩, hfail⟩)
    · cases hlookup with
      | input he => cases hinput.symm.trans he
      | pattern _ he => cases hpattern.symm.trans he
      | sources _ hpattern' he =>
        cases hpattern.symm.trans hpattern'
        exact Or.inl ⟨_, he, rfl⟩
      | output _ _ _ _ he => cases hensure.symm.trans he
    · cases hpattern.symm.trans hpattern'
      cases hensure.symm.trans hensure'
      exact Or.inr ⟨files, hfiles, hne, hfail⟩
  · rintro (⟨err, herr, rfl⟩ | ⟨files, hfiles, hne, hfail⟩)
    · exact Or.inl (.sources hinput hpattern herr)
    · exact Or.inr ⟨files, d, ⟨hinput, ⟨pattern, hpattern, hfiles⟩, hne, hensure⟩, hfail⟩

section Running

variable {host : Host} {defaults s : Settings} {args : List String} {a : Arguments}
  {pattern : Pattern} {d d₁ : Disk}

theorem ending_run (hargs : CommandLine.read defaults args = .run a) (h : Prepares host a d d₁) :
    ∃ w, w.disk = d₁ ∧ (run host defaults s args d).ending =
      .ofResult ((build host.toPlatform s (project a)).run w).1 := by
  obtain ⟨w, hprepare, hdisk⟩ := h.completes
  refine ⟨w, hdisk, ?_⟩
  simp only [run, hargs, execute]
  exact ending_outcome_bind a.verbosity hprepare

theorem ending_eq_failure_iff (hargs : CommandLine.read defaults args = .run a)
    (hpattern : Pattern.ofString (orElseText a.inputPattern s.inputPattern) = .ok pattern)
    (h : Prepares host a d d₁) (e : Failure) :
    (run host defaults s args d).ending = .failure e ↔
      Escapes host.toPlatform s a pattern d₁ e := by
  obtain ⟨w, rfl, hending⟩ := ending_run (s := s) hargs h
  rw [hending, ofResult_eq_failure_iff (failsWhere_build rfl rfl) w e]
  exact escapes_iff hpattern h.input h.output e

/-- On any host, once the preparations are done and both folders are there, the program fails exactly
where the files make it fail; otherwise it ends normally or exits with status 1. -/
theorem run_ending (hargs : CommandLine.read defaults args = .run a)
    (hpattern : Pattern.ofString (orElseText a.inputPattern s.inputPattern) = .ok pattern)
    (hprepares : Prepares host a d d₁) :
    (∀ e, (run host defaults s args d).ending = .failure e ↔
      Escapes host.toPlatform s a pattern d₁ e) ∧
    (((run host defaults s args d).ending = .normal ∨
      ∃ trace, (run host defaults s args d).ending = .exit 1 trace) ↔
        ¬∃ e, Escapes host.toPlatform s a pattern d₁ e) := by
  refine ⟨ending_eq_failure_iff hargs hpattern hprepares, ?_⟩
  obtain ⟨w, rfl, hending⟩ := ending_run (s := s) hargs hprepares
  rw [hending, ofResult_provided_iff (failsWhere_build rfl rfl) w]
  exact not_congr (exists_congr (escapes_iff hpattern hprepares.input hprepares.output))

end Running

/-- The output folder is there, or it is missing and can be made; and the disk after that. -/
inductive OutputReady (d : Disk) (output : Path) : Disk → Prop
  | there : d.isFolder output = .ok true → OutputReady d output d
  | made {d₁ : Disk} : d.pathExists output = .ok false → d.makeFolders output = .ok d₁ →
      OutputReady d output d₁

section Preparing

variable {a : Arguments} {d d₁ : Disk}

theorem OutputReady.isFolder (h : OutputReady d a.output d₁) : d₁.isFolder a.output = .ok true := by
  cases h with
  | there hfolder => exact hfolder
  | made _ hmake => exact Disk.isFolder_of_makeFolders hmake

theorem OutputReady.keeps_folder (h : OutputReady d a.output d₁) {p : Path}
    (hp : d.isFolder p = .ok true) : d₁.isFolder p = .ok true := by
  cases h with
  | there _ => exact hp
  | made _ hmake => exact (Disk.makesFolders_makeFolders hmake).extends.isFolder hp

theorem run_currentDisk (w : World) : (currentDisk : Run Disk).run w = (.ok w.disk, w) :=
  rfl

theorem run_requireFolder {p : Path} {w : World} (h : w.disk.isFolder p = .ok true) :
    (requireFolder p).run w = (.ok (), w) := by
  unfold requireFolder
  rw [run_bind_ok (run_currentDisk w), h]
  rfl

theorem run_prepare (hinput : d.isFolder a.input = .ok true)
    (houtput : OutputReady d a.output d₁) :
    (prepare a).run { disk := d } = (.ok (), { disk := d₁ }) := by
  have hinput₁ : (requireFolder a.input).run { disk := d₁ } = (.ok (), { disk := d₁ }) :=
    run_requireFolder (houtput.keeps_folder hinput)
  unfold prepare
  rw [run_bind_ok (run_currentDisk _)]
  cases houtput with
  | there hfolder =>
    have hexists : d.pathExists a.output = .ok true := by
      obtain ⟨l, hl, -⟩ := Disk.isFolder_eq_true_iff.1 hfolder
      simp only [Disk.pathExists, Disk.leadsTo, hl]
    have hfound : (orFail Failure.disk (d.pathExists a.output)).run { disk := d } =
        (.ok true, { disk := d }) := by
      rw [hexists]
      rfl
    rw [run_bind_ok hfound]
    simp only [if_true]
    rw [run_bind_ok (run_requireFolder hfolder), hinput₁]
  | made hmissing hmake =>
    have hfound : (orFail Failure.disk (d.pathExists a.output)).run { disk := d } =
        (.ok false, { disk := d }) := by
      rw [hmissing]
      rfl
    have hmade : (orFail Failure.disk (d.makeFolders a.output)).run { disk := d } =
        (.ok d₁, { disk := d }) := by
      rw [hmake]
      rfl
    rw [run_bind_ok hfound]
    simp only [Bool.false_eq_true, if_false]
    rw [run_bind_ok hmade]
    exact hinput₁

/-- The program's own preparations, which any host may use. -/
theorem prepares_of_outputReady {host : Host} (hhost : host.prepare = prepare)
    (hinput : d.isFolder a.input = .ok true) (houtput : OutputReady d a.output d₁) :
    Prepares host a d d₁ where
  completes := ⟨_, hhost ▸ run_prepare hinput houtput, rfl⟩
  input := houtput.keeps_folder hinput
  output := houtput.isFolder

end Preparing

def sitePage : Path := ⟨"", ["in", "a.html"]⟩

/-- A disk with a page in an input folder. -/
def site (content : ByteArray) : Disk :=
  ({} : Disk).addFile ["in", "a.html"] content

/-- The same with an output folder. -/
def readySite (content : ByteArray) : Disk :=
  (site content).put ["out"] .folder

def siteArguments : Arguments where
  input := ⟨"", ["in"]⟩
  output := ⟨"", ["out"]⟩
  inputPattern := "*.html"
  optionsFile := "pugwidgets.yaml"
  verbosity := 1

def htmlPattern : Pattern :=
  ⟨[.like [.star, .char '.', .char 'h', .char 't', .char 'm', .char 'l']], false⟩

section Site

variable (content : ByteArray)

theorem read_siteArguments : CommandLine.read {} ["in", "out"] = .run siteArguments := by
  decide +kernel

theorem ofString_htmlPattern : Pattern.ofString
    (orElseText siteArguments.inputPattern ({} : Settings).inputPattern) = .ok htmlPattern := by
  decide +kernel

theorem isFolder_site : (site content).isFolder siteArguments.input = .ok true := by
  rfl

theorem outputReady_site : OutputReady (site content) siteArguments.output (readySite content) := by
  refine .made ?_ ?_
  · rfl
  · rfl

theorem files_readySite :
    Pattern.files (readySite content) htmlPattern siteArguments.input = .ok [sitePage] := by
  have hselected : Pattern.selectFrom (readySite content) htmlPattern.foldersOnly
      htmlPattern.levels siteArguments.input = .ok [sitePage] := by with_unfolding_all rfl
  have hfound : [sitePage].filterM (readySite content).isFile = .ok [sitePage] := by rfl
  simp only [Pattern.files, hselected, hfound, bind, Except.bind, List.mergeSort_singleton]

theorem load_readySite : ({} : Platform).load (readySite content) (siteArguments.input.join
    (.ofString (orElseText siteArguments.optionsFile ({} : Settings).optionsFile))) = .ok {} :=
  load_of_missing (by rfl)

theorem read_readySite : (readySite content).read sitePage = .ok content := by
  rfl

end Site

theorem prepares_site (content : ByteArray) :
    Prepares {} siteArguments (site content) (readySite content) :=
  prepares_of_outputReady rfl (isFolder_site content) (outputReady_site content)

theorem not_escapes_emptyPage :
    ¬∃ e, Escapes {} {} siteArguments htmlPattern (readySite ⟨#[]⟩) e := by
  have htext : Text.ofFile? ⟨#[]⟩ = some [] := by decide +kernel
  have hroots : HoldsRoots (readySite ⟨#[]⟩) sitePage [] :=
    ⟨_, _, read_readySite _, htext, by with_unfolding_all rfl⟩
  have hpage : ∀ {before after : List Path} {file : Path}, [sitePage] = before ++ file :: after →
      file = sitePage := by
    intro before after file h
    have hmem : file ∈ [sitePage] := h ▸ List.mem_append_right before List.mem_cons_self
    exact List.mem_singleton.1 hmem
  -- each way to fail is ruled out by what the one page is, how it is read and what it is compiled to
  rintro ⟨e, ⟨err, herr, -⟩ | ⟨files, hfiles, -, hfail⟩⟩
  · cases (files_readySite _).symm.trans herr
  · cases (files_readySite _).symm.trans hfiles
    cases hfail with
    | options hload => cases (load_readySite ⟨#[]⟩).symm.trans hload
    | notText _ hsplit _ hfile =>
      obtain rfl := hpage hsplit
      obtain ⟨content, hread, hnone⟩ := hfile
      cases (read_readySite _).symm.trans hread
      cases htext.symm.trans hnone
    | compiling _ _ hsplit _ hfile hfails =>
      obtain rfl := hpage hsplit
      cases hroots.unique hfile
      cases hfails with
      | stack hfull => cases hfull
      | numeral _ hlong => cases hlong
    | writing hload _ hsplit _ _ hfails =>
      obtain rfl := hpage hsplit
      cases (load_readySite ⟨#[]⟩).symm.trans hload
      cases hfails with
      | stack hfull => cases hfull
      | path _ hnull =>
        have hclean : (outputPath {} siteArguments.output sitePage).text.toList.contains '\x00' =
            false := by decide +kernel
        cases hclean.symm.trans hnull
      | encoding _ hencodes _ => cases hencodes

/-- A page without content is no reason to fail. -/
theorem run_emptyPage :
    Prepares {} siteArguments (site ⟨#[]⟩) (readySite ⟨#[]⟩) ∧
      ((run {} {} {} ["in", "out"] (site ⟨#[]⟩)).ending = .normal ∨
        ∃ trace, (run {} {} {} ["in", "out"] (site ⟨#[]⟩)).ending = .exit 1 trace) :=
  ⟨prepares_site _, (run_ending read_siteArguments ofString_htmlPattern (prepares_site _)).2.2
    not_escapes_emptyPage⟩

/-- A page with a byte that starts no character makes the program fail. -/
theorem run_brokenPage :
    (run {} {} {} ["in", "out"] (site ⟨#[0xff]⟩)).ending = .failure .notText := by
  have htext : Text.ofFile? ⟨#[0xff]⟩ = none := by decide +kernel
  have hescapes : Escapes {} {} siteArguments htmlPattern (readySite ⟨#[0xff]⟩) .notText :=
    Or.inr ⟨_, files_readySite _, by simp, .notText (load_readySite ⟨#[0xff]⟩) (List.nil_append _).symm
      (by simp) ⟨_, read_readySite _, htext⟩⟩
  exact (ending_eq_failure_iff read_siteArguments ofString_htmlPattern (prepares_site _) _).2 hescapes

end WidgetMarkup.Program
