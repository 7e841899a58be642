import WidgetMarkup.Proofs.Build.Documents

/-!
# What a run leaves on the disk

A run leaves a disk behind whatever it comes to: a value, an exit or a failure. Of the stages of a
build, only the first and the one that writes change the disk. The first one makes folders, and the
other writes documents one after the other, as far as it gets. If it stops at a document that has no
encoding, then the file for this one is left empty.
-/
namespace WidgetMarkup.Build

open Markup (Element)

variable {α β : Type}

/-- The disk that a run leaves, whether or not it completes. -/
def diskAfter (x : Run α) (w : World) : Disk :=
  (x.run w).2.disk

/-- A run leaves a disk that is related to the one before, whether or not it completes. -/
def Leaves (R : Disk → Disk → Prop) (x : Run α) : Prop :=
  ∀ w, R w.disk (diskAfter x w)

/-- A run leaves the disk as it is. -/
def KeepsDisk (x : Run α) : Prop :=
  Leaves (fun d d' => d' = d) x

theorem diskAfter_bind_ok {x : Run α} {f : α → Run β} {a : α} {w w₁ : World}
    (h : x.run w = (.ok a, w₁)) : diskAfter (x >>= f) w = diskAfter (f a) w₁ := by
  rw [diskAfter, run_bind_ok h]
  rfl

theorem diskAfter_bind_error {x : Run α} {f : α → Run β} {st : Stop} {w w₁ : World}
    (h : x.run w = (.error st, w₁)) : diskAfter (x >>= f) w = diskAfter x w := by
  rw [diskAfter, run_bind_error h, diskAfter, h]

theorem KeepsDisk.leaves {R : Disk → Disk → Prop} {x : Run α} (hx : KeepsDisk x)
    (hR : ∀ d, R d d) : Leaves R x := by
  intro w
  have hdisk : diskAfter x w = w.disk := hx w
  rw [hdisk]
  exact hR w.disk

/-- What comes before a run and only looks makes no difference. -/
theorem KeepsDisk.bind_leaves {R : Disk → Disk → Prop} {x : Run α} {f : α → Run β}
    (hx : KeepsDisk x) (hR : ∀ d, R d d) (hf : ∀ a, Leaves R (f a)) : Leaves R (x >>= f) := by
  intro w
  have hdisk : diskAfter x w = w.disk := hx w
  rcases hrun : x.run w with ⟨r, w₁⟩
  cases r with
  | error st =>
    rw [diskAfter_bind_error hrun, hdisk]
    exact hR w.disk
  | ok a =>
    have hw₁ : w₁.disk = w.disk := by
      rw [← hdisk, diskAfter, hrun]
    rw [diskAfter_bind_ok hrun, ← hw₁]
    exact hf a w₁

theorem keepsDisk_bind {x : Run α} {f : α → Run β} (hx : KeepsDisk x)
    (hf : ∀ a, KeepsDisk (f a)) : KeepsDisk (x >>= f) :=
  hx.bind_leaves (fun _ => rfl) hf

theorem diskAfter_bind_of_keepsDisk {x : Run α} {f : α → Run β} (hf : ∀ a, KeepsDisk (f a))
    (w : World) : diskAfter (x >>= f) w = diskAfter x w := by
  rcases hrun : x.run w with ⟨r, w₁⟩
  cases r with
  | error st => exact diskAfter_bind_error hrun
  | ok a =>
    have hdisk : diskAfter (f a) w₁ = w₁.disk := hf a w₁
    rw [diskAfter_bind_ok hrun, hdisk, diskAfter, hrun]

theorem keepsDisk_pure (a : α) : KeepsDisk (pure a) :=
  fun _ => rfl

theorem keepsDisk_log (level : Nat) (text : String) : KeepsDisk (log level text) :=
  fun _ => rfl

theorem keepsDisk_currentDisk : KeepsDisk currentDisk :=
  fun _ => rfl

theorem keepsDisk_fail (e : Failure) : KeepsDisk (fail e : Run α) :=
  fun _ => rfl

theorem keepsDisk_refuse (message : String) : KeepsDisk (refuse message : Run α) :=
  fun _ => rfl

theorem keepsDisk_giveUp (s : Settings) (p : Project) (message : String) :
    KeepsDisk (giveUp s p message : Run α) :=
  fun _ => rfl

theorem keepsDisk_logEvents (events : List Compile.Event) : KeepsDisk (logEvents events) :=
  fun _ => rfl

theorem keepsDisk_orFail {ε : Type} (g : ε → Failure) (r : Except ε α) :
    KeepsDisk (orFail g r) := by
  cases r with
  | error e => exact keepsDisk_fail (g e)
  | ok a => exact keepsDisk_pure a

theorem keepsDisk_forEach {f : α → Run β} (hf : ∀ a, KeepsDisk (f a)) (l : List α) :
    KeepsDisk (forEach f l) := by
  induction l with
  | nil => exact keepsDisk_pure []
  | cons a l ih =>
    refine keepsDisk_bind (hf a) fun b => ?_
    exact keepsDisk_bind ih fun rest => keepsDisk_pure _

theorem keepsDisk_loadOptions (platform : Platform) (s : Settings) (p : Project) :
    KeepsDisk (loadOptions platform s p) := by
  unfold loadOptions
  split
  · refine keepsDisk_bind (keepsDisk_log _ _) fun _ => ?_
    refine keepsDisk_bind keepsDisk_currentDisk fun d => ?_
    split
    · refine keepsDisk_bind (keepsDisk_pure _) fun l => ?_
      exact keepsDisk_bind (keepsDisk_log _ _) fun _ => keepsDisk_pure _
    · rw [giveUp_bind]
      exact keepsDisk_giveUp s p _
    · rw [fail_bind]
      exact keepsDisk_fail _
  · exact keepsDisk_fail _

theorem keepsDisk_readSource (s : Settings) (p : Project) (file : Path) :
    KeepsDisk (readSource s p file) := by
  unfold readSource
  refine keepsDisk_bind keepsDisk_currentDisk fun d => ?_
  split
  · refine keepsDisk_bind (keepsDisk_pure _) fun content => ?_
    dsimp only
    split
    · refine keepsDisk_bind (keepsDisk_log _ _) fun _ => ?_
      split
      · refine keepsDisk_bind (keepsDisk_log _ _) fun _ => ?_
        exact keepsDisk_bind (keepsDisk_log _ _) fun _ => keepsDisk_pure _
      · exact keepsDisk_giveUp s p _
      · exact keepsDisk_fail _
    · exact keepsDisk_fail _
  · rw [giveUp_bind]
    exact keepsDisk_giveUp s p _

theorem keepsDisk_readSources (s : Settings) (p : Project) : KeepsDisk (readSources s p) := by
  unfold readSources
  refine keepsDisk_bind (keepsDisk_log _ _) fun _ => ?_
  split
  · exact keepsDisk_pure _
  · exact keepsDisk_fail _
  · exact keepsDisk_bind (keepsDisk_forEach (keepsDisk_readSource s p) _) fun _ => keepsDisk_pure _

theorem keepsDisk_gatherImports (p : Project) : KeepsDisk (gatherImports p) := by
  unfold gatherImports
  refine keepsDisk_bind (keepsDisk_forEach (fun e => ?_) _) fun splits => keepsDisk_pure _
  refine keepsDisk_bind (keepsDisk_log _ _) fun _ => ?_
  exact keepsDisk_bind (keepsDisk_log _ _) fun _ => keepsDisk_pure _

theorem keepsDisk_compileAlone (platform : Platform) (o : Options) (file : Path)
    (elements : List Element) : KeepsDisk (compileAlone platform o file elements) := by
  simp only [compileAlone]
  split
  · exact keepsDisk_bind (keepsDisk_logEvents _) fun _ => keepsDisk_fail _
  · refine keepsDisk_bind (keepsDisk_logEvents _) fun _ => ?_
    refine keepsDisk_bind (keepsDisk_orFail _ _) fun widgets => ?_
    exact keepsDisk_bind (keepsDisk_log _ _) fun _ => keepsDisk_pure _

theorem keepsDisk_compileSources (platform : Platform) (p : Project) :
    KeepsDisk (compileSources platform p) := by
  have hcompile : ∀ e : Path × List Element,
      KeepsDisk (compileAlone platform (p.options.getD {}) e.1 e.2) :=
    fun e => keepsDisk_compileAlone _ _ _ _
  rw [compileSources_eq]
  refine keepsDisk_bind (keepsDisk_log _ _) fun _ => ?_
  exact keepsDisk_bind (keepsDisk_forEach hcompile p.parsed) fun _ => keepsDisk_pure _

theorem keepsDisk_complain (line : String) : KeepsDisk (complain line) :=
  fun _ => rfl

theorem keepsDisk_forM_complain (lines : List String) : KeepsDisk (lines.forM complain) := by
  induction lines with
  | nil => exact keepsDisk_pure ()
  | cons line lines ih => exact keepsDisk_bind (keepsDisk_complain line) fun _ => ih

theorem keepsDisk_report (s : Settings) (p : Project) : KeepsDisk (report s p) := by
  unfold report
  split
  · rw [refuse_bind]
    exact keepsDisk_refuse _
  · refine keepsDisk_bind (keepsDisk_forM_complain _) fun _ => ?_
    refine keepsDisk_bind (keepsDisk_log _ _) fun _ => ?_
    refine keepsDisk_bind (keepsDisk_log _ _) fun _ => ?_
    refine keepsDisk_bind (keepsDisk_log _ _) fun _ => ?_
    refine keepsDisk_bind (keepsDisk_log _ _) fun _ => ?_
    split
    · rw [refuse_bind]
      exact keepsDisk_refuse _
    · exact keepsDisk_pure p

theorem diskAfter_currentDisk_bind (f : Disk → Run α) (w : World) :
    diskAfter (currentDisk >>= f) w = diskAfter (f w.disk) w :=
  rfl

theorem diskAfter_setDisk {R : Disk → Disk → Prop} (hR : ∀ d, R d d) {ε : Type} {g : ε → Failure}
    {r : Except ε Disk} {w : World} (hr : ∀ d, r = .ok d → R w.disk d) {f : Run α}
    (hf : KeepsDisk f) : R w.disk (diskAfter (do setDisk (← orFail g r); f) w) := by
  cases r with
  | error e => exact hR w.disk
  | ok d =>
    have hdisk : diskAfter (do setDisk (← orFail g (.ok d)); f) w = d := hf { w with disk := d }
    rw [hdisk]
    exact hr d rfl

theorem leaves_check {s : Settings} {p : Project} {output : Path}
    (houtput : p.outputFolder = some output) :
    Leaves (Disk.MakesFolders output) (check s p) := by
  have hrefl := Disk.MakesFolders.refl output
  simp only [check, houtput]
  refine (keepsDisk_log _ _).bind_leaves hrefl fun _ => ?_
  refine (keepsDisk_log _ _).bind_leaves hrefl fun _ => ?_
  split
  · refine keepsDisk_currentDisk.bind_leaves hrefl fun d => ?_
    refine (keepsDisk_orFail _ _).bind_leaves hrefl fun found => ?_
    split
    · refine (keepsDisk_orFail _ _).bind_leaves hrefl fun pattern => ?_
      refine keepsDisk_currentDisk.bind_leaves hrefl fun d => ?_
      refine (keepsDisk_orFail _ _).bind_leaves hrefl fun files => ?_
      split
      · rw [refuse_bind]
        exact (keepsDisk_refuse _).leaves hrefl
      · refine (keepsDisk_log _ _).bind_leaves hrefl fun _ => ?_
        intro w
        rw [diskAfter_currentDisk_bind]
        apply diskAfter_setDisk hrefl
        · intro d' hensure
          exact Disk.makesFolders_ensureFolders List.prefix_rfl hensure
        · exact keepsDisk_bind (keepsDisk_log _ _) fun _ => keepsDisk_pure _
    · rw [refuse_bind]
      exact (keepsDisk_refuse _).leaves hrefl
  · exact (keepsDisk_refuse _).leaves hrefl

theorem run_writeFile (s : Settings) (p : Project) (file : Path) (content : ByteArray)
    (w : World) :
    (∃ d, w.disk.write file content = .ok d ∧
      (writeFile s p file content).run w = (.ok (), { w with disk := d })) ∨
    ∃ st w', (writeFile s p file content).run w = (.error st, w') ∧ w'.disk = w.disk := by
  unfold writeFile
  rw [run_bind_ok (rfl : (currentDisk : Run Disk).run w = (.ok w.disk, w))]
  cases w.disk.write file content with
  | ok d => exact Or.inl ⟨d, rfl, rfl⟩
  | error e =>
    right
    cases e with
    | nullCharacter => exact ⟨_, _, rfl, rfl⟩
    | _ => exact ⟨_, _, rfl, rfl⟩

/-- Things are written one after the other, as far as it goes. At the one where it stops, nothing is
written or the file is left empty. -/
theorem writes_forEach {f : α → Run Path} (good : α → Prop) (path : α → Path)
    (content : α → ByteArray) (failure : Stop)
    (hf : ∀ a, Does (f a) fun d file d' =>
      (good a ∧ d.write (path a) (content a) = .ok d') ∧ file = path a)
    (hstop : ∀ a w st w', (f a).run w = (.error st, w') → w'.disk = w.disk ∨
      st = failure ∧ w.disk.write (path a) .empty = .ok w'.disk) (l : List α) (w : World) :
    ∃ written, (written <+: l ∧
        Disk.Writes w.disk (written.map fun a => (path a, content a)) (diskAfter (forEach f l) w)) ∨
      ∃ a, written ++ [a] <+: l ∧ (∃ w', (forEach f l).run w = (.error failure, w')) ∧
        Disk.Writes w.disk (written.map (fun a => (path a, content a)) ++ [(path a, .empty)])
          (diskAfter (forEach f l) w) := by
  induction l generalizing w with
  | nil => exact ⟨[], Or.inl ⟨List.prefix_rfl, .done⟩⟩
  | cons a l ih =>
    rw [forEach]
    rcases hrun : (f a).run w with ⟨r, w₁⟩
    cases r with
    | error st =>
      have hdisk : diskAfter (f a) w = w₁.disk := by rw [diskAfter, hrun]
      rw [diskAfter_bind_error hrun, hdisk]
      rcases hstop a w st w₁ hrun with hsame | ⟨rfl, hempty⟩
      · rw [hsame]
        exact ⟨[], Or.inl ⟨List.nil_prefix, .done⟩⟩
      · exact ⟨[], Or.inr ⟨a, (List.prefix_cons_inj a).2 List.nil_prefix,
          ⟨w₁, run_bind_error hrun⟩, .write hempty .done⟩⟩
    | ok file =>
      have hwrite := ((hf a w file w₁.disk).1 ⟨w₁, hrun, rfl⟩).1.2
      rw [diskAfter_bind_ok hrun, diskAfter_bind_of_keepsDisk fun _ => keepsDisk_pure _,
        run_bind_ok hrun]
      obtain ⟨written, ⟨hwritten, hwrites⟩ | ⟨b, hwritten, ⟨w', hstopped⟩, hwrites⟩⟩ := ih w₁
      · exact ⟨a :: written, Or.inl ⟨(List.prefix_cons_inj a).2 hwritten, .write hwrite hwrites⟩⟩
      · exact ⟨a :: written, Or.inr ⟨b, (List.prefix_cons_inj a).2 hwritten,
          ⟨w', run_bind_error hstopped⟩, .write hwrite hwrites⟩⟩

/-- A document that is not written leaves the disk as it is, or an empty file. -/
theorem disk_of_writeResult_error {platform : Platform} {s : Settings} {p : Project}
    {output : Path} (houtput : p.outputFolder = some output) {source : Path} {r : Result}
    {w w' : World} {st : Stop}
    (h : (writeResult platform s p source r).run w = (.error st, w')) :
    w'.disk = w.disk ∨ st = .failure .encoding ∧
      w.disk.write (outputPath s output source) .empty = .ok w'.disk := by
  rw [writeResult_eq houtput] at h
  split at h
  · cases h
    exact Or.inl rfl
  · split at h
    · rcases run_writeFile s p (outputPath s output source) (jsonBytes s
        (document source ((p.imports.lookup source).getD []) r)) w with
        ⟨d, -, hrun⟩ | ⟨st', w₁, hrun, hdisk⟩
      · rw [run_bind_ok hrun] at h
        cases h
      · rw [run_bind_error hrun] at h
        cases h
        exact Or.inl hdisk
    · rcases run_writeFile s p (outputPath s output source) .empty w with
        ⟨d, hwrite, hrun⟩ | ⟨st', w₁, hrun, hdisk⟩
      · rw [run_bind_ok hrun] at h
        cases h
        exact Or.inr ⟨rfl, hwrite⟩
      · rw [run_bind_error hrun] at h
        cases h
        exact Or.inl hdisk

theorem writes_writeResults (platform : Platform) (s : Settings) {p : Project} {output : Path}
    (houtput : p.outputFolder = some output) (w : World) :
    ∃ written, (written <+: p.results ∧
        Disk.Writes w.disk (written.map fun e => (outputPath s output e.1,
          jsonBytes s (document e.1 ((p.imports.lookup e.1).getD []) e.2)))
          (diskAfter (writeResults platform s p) w)) ∨
      ∃ e, written ++ [e] <+: p.results ∧
        (∃ w', (writeResults platform s p).run w = (.error (.failure .encoding), w')) ∧
        Disk.Writes w.disk (written.map (fun e => (outputPath s output e.1,
          jsonBytes s (document e.1 ((p.imports.lookup e.1).getD []) e.2))) ++
            [(outputPath s output e.1, .empty)])
          (diskAfter (writeResults platform s p) w) := by
  obtain ⟨written, hwrites | ⟨e, hwritten, ⟨w', hstopped⟩, hwrites⟩⟩ := writes_forEach _
    (fun e : Path × Result => outputPath s output e.1)
    (fun e => jsonBytes s (document e.1 ((p.imports.lookup e.1).getD []) e.2))
    (.failure .encoding) (fun e => does_writeResult platform houtput e.1 e.2)
    (fun e w st w' => disk_of_writeResult_error houtput) p.results w
  · refine ⟨written, Or.inl ?_⟩
    unfold writeResults
    rw [diskAfter_bind_of_keepsDisk fun _ => keepsDisk_pure _]
    exact hwrites
  · refine ⟨written, Or.inr ⟨e, hwritten, ⟨w', run_bind_error hstopped⟩, ?_⟩⟩
    unfold writeResults
    rw [diskAfter_bind_of_keepsDisk fun _ => keepsDisk_pure _]
    exact hwrites

/-- The stages before the documents are written. -/
def readingStages : List Stage :=
  [.check, .loadOptions, .readSources, .gatherImports, .compileSources]

theorem build_eq (platform : Platform) (s : Settings) (p : Project) :
    build platform s p =
      runStages platform s readingStages p >>= fun p => writeResults platform s p >>= report s := by
  simp only [build, Stage.all, readingStages, runStages, Stage.run, bind_assoc, bind_pure]

/-- Before the documents are written, only folders on the way to the outputs are made. -/
theorem leaves_readingStages {platform : Platform} {s : Settings} {p : Project} {output : Path}
    (houtput : p.outputFolder = some output) :
    Leaves (Disk.MakesFolders output) (runStages platform s readingStages p) := by
  intro w
  simp only [readingStages, runStages, Stage.run, bind_pure]
  rw [diskAfter_bind_of_keepsDisk fun p => ?_]
  · exact leaves_check houtput w
  · refine keepsDisk_bind (keepsDisk_loadOptions platform s p) fun p => ?_
    refine keepsDisk_bind (keepsDisk_readSources s p) fun p => ?_
    refine keepsDisk_bind (keepsDisk_gatherImports p) fun p => ?_
    exact keepsDisk_compileSources platform p

theorem does_readingStages {platform : Platform} {s : Settings} {p : Project} {input output : Path}
    (hinput : p.inputFolder = some input) (houtput : p.outputFolder = some output) :
    Does (runStages platform s readingStages p) fun d p' d' =>
      ∃ files d₁, (d.isFolder input = .ok true ∧
        (∃ pattern, Pattern.ofString (orElseText p.inputPattern s.inputPattern) = .ok pattern ∧
          Pattern.files d pattern input = .ok files) ∧
        files ≠ [] ∧ d.ensureFolders output = .ok d₁) ∧
      ∃ l, platform.load d₁ (input.join (.ofString (orElseText p.optionsFile s.optionsFile))) =
        .ok l ∧
      ∃ parsed : List (Path × List Element), (parsed.map (·.1) = files ∧
        ∀ e ∈ parsed, HoldsRoots d₁ e.1 e.2) ∧
      (∃ compiled : List ((Path × List Element) × Result),
        (compiled.map (·.1) = parsed.map (fun e => (e.1, (Imports.split e.2).elements)) ∧
        ∀ e ∈ compiled, platform.Compiles l.options e.1.2 e.2) ∧
        p' = { p with
          sources := .found files
          checked := true
          options := some l.options
          encodesText := l.encodesText
          parsed := parsed.map fun e => (e.1, (Imports.split e.2).elements)
          imports := parsed.map fun e => (e.1, (Imports.split e.2).imports)
          results := compiled.map fun e => (e.1.1, e.2) }) ∧ d' = d₁ := by
  simp only [readingStages, runStages, Stage.run, bind_pure]
  refine (does_check hinput houtput).bind_exists fun files => ?_
  refine (does_loadOptions (by exact hinput)).bind_exists_same fun l => ?_
  refine (does_readSources (by rfl)).bind_exists_same fun parsed => ?_
  exact (does_gatherImports _).bind_eq (does_compileSources _ _)

end WidgetMarkup.Build
