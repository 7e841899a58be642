import WidgetMarkup.Build.Basic
import WidgetMarkup.Proofs.Compile.Reuse
import WidgetMarkup.Proofs.Disk.Writing

/-!
# Runs that complete

A run completes if it gives a value instead of stopping early; what matters then is the value and the
disk that it leaves. Neither depends on what was logged or printed before, so a run stands for a
relation between disks. Runs one after the other stand for the composition of their relations.

For every stage of a build one statement says when it completes and what it has done then. Only two
stages touch the disk: the folders are looked up and made at the start, and the documents are written
at the end.
-/
namespace WidgetMarkup.Build

open Compile (Compiler)
open Markup (Element)

variable {α β : Type}

/-- A run completes with a value and leaves a disk. -/
def Completes (x : Run α) (w : World) (a : α) (d : Disk) : Prop :=
  ∃ w', x.run w = (.ok a, w') ∧ w'.disk = d

/-- A run completes exactly where a relation holds between the disk before, the value, and the disk
after it. -/
def Does (x : Run α) (R : Disk → α → Disk → Prop) : Prop :=
  ∀ w a d, Completes x w a d ↔ R w.disk a d

theorem run_bind_ok {x : Run α} {f : α → Run β} {a : α} {w w₁ : World}
    (h : x.run w = (.ok a, w₁)) : (x >>= f).run w = (f a).run w₁ := by
  have hcont : (x >>= f).run w =
      (ExceptT.bindCont f (x.run w).1 : StateM World (Except Stop β)) (x.run w).2 := rfl
  rw [hcont, h]
  rfl

theorem run_bind_error {x : Run α} {f : α → Run β} {e : Stop} {w w₁ : World}
    (h : x.run w = (.error e, w₁)) : (x >>= f).run w = (.error e, w₁) := by
  have hcont : (x >>= f).run w =
      (ExceptT.bindCont f (x.run w).1 : StateM World (Except Stop β)) (x.run w).2 := rfl
  rw [hcont, h]
  rfl

theorem completes_bind {x : Run α} {f : α → Run β} {b : β} {w : World} {d : Disk} :
    Completes (x >>= f) w b d ↔ ∃ a w₁, x.run w = (.ok a, w₁) ∧ Completes (f a) w₁ b d := by
  unfold Completes
  rcases hx : x.run w with ⟨r, w₁⟩
  cases r with
  | error e =>
    rw [run_bind_error hx]
    constructor
    · rintro ⟨w', h, -⟩
      cases h
    · rintro ⟨a, w₂, h, -⟩
      cases h
  | ok a =>
    rw [run_bind_ok hx]
    constructor
    · intro h
      exact ⟨a, w₁, rfl, h⟩
    · rintro ⟨a', w₂, h, hf⟩
      cases h
      exact hf

theorem Does.congr {x : Run α} {R S : Disk → α → Disk → Prop} (hx : Does x R)
    (h : ∀ d a d', R d a d' ↔ S d a d') : Does x S :=
  fun w a d => (hx w a d).trans (h w.disk a d)

/-- A run whose value is made of something that it finds, and what follows. -/
theorem Does.bind_exists {ι : Type} {x : Run α} {f : α → Run β} {g : ι → α}
    {R : Disk → ι → Disk → Prop} {S : ι → Disk → β → Disk → Prop}
    (hx : Does x fun d a d' => ∃ i, R d i d' ∧ a = g i) (hf : ∀ i, Does (f (g i)) (S i)) :
    Does (x >>= f) fun d b d' => ∃ i d₁, R d i d₁ ∧ S i d₁ b d' := by
  intro w b d
  rw [completes_bind]
  constructor
  · rintro ⟨a, w₁, hrun, h⟩
    obtain ⟨i, hR, rfl⟩ := (hx w a w₁.disk).1 ⟨w₁, hrun, rfl⟩
    exact ⟨i, w₁.disk, hR, (hf i w₁ b d).1 h⟩
  · rintro ⟨i, d₁, hR, hS⟩
    obtain ⟨w₁, hrun, rfl⟩ := (hx w (g i) d₁).2 ⟨i, hR, rfl⟩
    exact ⟨g i, w₁, hrun, (hf i w₁ b d).2 hS⟩

theorem Does.bind {x : Run α} {f : α → Run β} {R : Disk → α → Disk → Prop}
    {S : α → Disk → β → Disk → Prop} (hx : Does x R) (hf : ∀ a, Does (f a) (S a)) :
    Does (x >>= f) fun d b d' => ∃ a d₁, R d a d₁ ∧ S a d₁ b d' :=
  (hx.congr fun d a d' => by simp).bind_exists (g := id) hf

theorem Does.bind_exists_same {ι : Type} {x : Run α} {f : α → Run β} {g : ι → α}
    {P : Disk → ι → Prop} {S : ι → Disk → β → Disk → Prop}
    (hx : Does x fun d a d' => (∃ i, P d i ∧ a = g i) ∧ d' = d) (hf : ∀ i, Does (f (g i)) (S i)) :
    Does (x >>= f) fun d b d' => ∃ i, P d i ∧ S i d b d' := by
  have hx' : Does x fun d a d' => ∃ i, (P d i ∧ d' = d) ∧ a = g i :=
    hx.congr fun d a d' => by grind
  exact (hx'.bind_exists hf).congr fun d b d' => by grind

theorem Does.bind_eq {x : Run α} {f : α → Run β} {a : α} {S : Disk → β → Disk → Prop}
    (hx : Does x fun d b d' => b = a ∧ d' = d) (hf : Does (f a) S) : Does (x >>= f) S := by
  have hx' : Does x fun d b d' => (∃ _ : Unit, True ∧ b = a) ∧ d' = d := by simpa using hx
  simpa using hx'.bind_exists_same (S := fun _ => S) fun _ => hf

section Steps

variable {f : α → Run β} {b : β} {w : World} {d : Disk}

-- what follows a run that stops is not reached

theorem fail_bind (e : Failure) (f : α → Run β) : fail e >>= f = fail e :=
  rfl

theorem refuse_bind (message : String) (f : α → Run β) : refuse message >>= f = refuse message :=
  rfl

theorem giveUp_bind (s : Settings) (p : Project) (message : String) (f : α → Run β) :
    giveUp s p message >>= f = giveUp s p message :=
  rfl

theorem completes_pure {a : α} {b : α} :
    Completes (pure a : Run α) w b d ↔ b = a ∧ d = w.disk := by
  constructor
  · rintro ⟨w', h, rfl⟩
    cases h
    exact ⟨rfl, rfl⟩
  · rintro ⟨rfl, rfl⟩
    exact ⟨w, rfl, rfl⟩

theorem not_completes_of_error {x : Run β} {e : Stop} {w' : World} (h : x.run w = (.error e, w')) :
    ¬Completes x w b d := by
  rintro ⟨w₁, hrun, -⟩
  rw [h] at hrun
  cases hrun

theorem not_completes_fail {e : Failure} : ¬Completes (fail e : Run β) w b d :=
  not_completes_of_error rfl

theorem not_completes_refuse {message : String} : ¬Completes (refuse message : Run β) w b d :=
  not_completes_of_error rfl

theorem not_completes_giveUp {s : Settings} {p : Project} {message : String} :
    ¬Completes (giveUp s p message : Run β) w b d :=
  not_completes_of_error rfl

theorem completes_ite {c : Prop} [Decidable c] {x y : Run β} :
    Completes (if c then x else y) w b d ↔ (c ∧ Completes x w b d) ∨ (¬c ∧ Completes y w b d) := by
  split <;> simp [*]

theorem completes_pure_bind {a : α} : Completes (pure a >>= f) w b d ↔ Completes (f a) w b d :=
  Iff.rfl

theorem completes_log_bind {level : Nat} {text : String} {f : Unit → Run β} :
    Completes (log level text >>= f) w b d ↔
      Completes (f ()) { w with log := w.log ++ [⟨level, text⟩] } b d :=
  Iff.rfl

theorem completes_currentDisk_bind {f : Disk → Run β} :
    Completes (currentDisk >>= f) w b d ↔ Completes (f w.disk) w b d :=
  Iff.rfl

theorem completes_setDisk_bind {d₁ : Disk} {f : Unit → Run β} :
    Completes (setDisk d₁ >>= f) w b d ↔ Completes (f ()) { w with disk := d₁ } b d :=
  Iff.rfl

theorem completes_orFail_bind {ε : Type} {g : ε → Failure} {r : Except ε α} :
    Completes (orFail g r >>= f) w b d ↔ ∃ a, r = .ok a ∧ Completes (f a) w b d := by
  cases r with
  | error e => simp [orFail, fail_bind, not_completes_fail]
  | ok a => simp [orFail]

end Steps

theorem does_pure (a : α) : Does (pure a) fun d b d' => b = a ∧ d' = d :=
  fun _ _ _ => completes_pure

theorem Does.log_bind {f : Unit → Run β} {R : Disk → β → Disk → Prop} (hf : Does (f ()) R)
    (level : Nat) (text : String) : Does (log level text >>= f) R :=
  fun w => hf { w with log := w.log ++ [⟨level, text⟩] }

theorem Does.bind_pure {x : Run α} {P : Disk → α → Prop} (hx : Does x fun d a d' => P d a ∧ d' = d)
    (g : α → β) :
    Does (x >>= fun a => pure (g a)) fun d b d' => (∃ a, P d a ∧ b = g a) ∧ d' = d := by
  refine (hx.bind fun a => does_pure (g a)).congr fun d b d' => ?_
  constructor
  · rintro ⟨a, d₁, ⟨ha, rfl⟩, rfl, rfl⟩
    exact ⟨⟨a, ha, rfl⟩, rfl⟩
  · rintro ⟨⟨a, ha, rfl⟩, rfl⟩
    exact ⟨a, d', ⟨ha, rfl⟩, rfl, rfl⟩

/-- Runs for the items of a list that leave the disk as it is. -/
theorem does_forEach {f : α → Run β} {P : Disk → α → β → Prop}
    (hf : ∀ a, Does (f a) fun d b d' => P d a b ∧ d' = d) (l : List α) :
    Does (forEach f l) fun d r d' => (r.map (·.1) = l ∧ ∀ e ∈ r, P d e.1 e.2) ∧ d' = d := by
  induction l with
  | nil =>
    refine (does_pure []).congr fun d r d' => and_congr_left fun _ => ?_
    rw [List.map_eq_nil_iff, and_iff_left_of_imp]
    rintro rfl
    simp
  | cons a l ih =>
    refine ((hf a).bind fun b => ih.bind fun rest => does_pure ((a, b) :: rest)).congr
      fun d r d' => ?_
    constructor
    · rintro ⟨b, d₁, ⟨hb, rfl⟩, rest, d₂, ⟨⟨rfl, hrest⟩, rfl⟩, rfl, rfl⟩
      exact ⟨⟨rfl, List.forall_mem_cons.2 ⟨hb, hrest⟩⟩, rfl⟩
    · rintro ⟨⟨hmap, hall⟩, rfl⟩
      obtain ⟨e, rest, rfl, rfl, rfl⟩ := List.map_eq_cons_iff.1 hmap
      obtain ⟨hb, hrest⟩ := List.forall_mem_cons.1 hall
      exact ⟨e.2, d', ⟨hb, rfl⟩, rest, d', ⟨⟨rfl, hrest⟩, rfl⟩, rfl, rfl⟩

theorem does_forEach_map {f : α → Run β} {g : α → β}
    (hf : ∀ a, Does (f a) fun d b d' => b = g a ∧ d' = d) (l : List α) :
    Does (forEach f l) fun d r d' => r = l.map (fun a => (a, g a)) ∧ d' = d := by
  refine (does_forEach hf l).congr fun d r d' => and_congr_left fun _ => ?_
  constructor
  · rintro ⟨rfl, hall⟩
    rw [List.map_map]
    refine (List.map_id r).symm.trans (List.map_congr_left fun e he => ?_)
    exact Prod.ext rfl (hall e he)
  · rintro rfl
    simp [Function.comp_def]

/-- Runs that write a file for each item of a list, where every item has to be good for it. -/
theorem does_forEach_write {f : α → Run Path} (good : α → Prop) (path : α → Path)
    (content : α → ByteArray) (hf : ∀ a, Does (f a) fun d file d' =>
      (good a ∧ d.write (path a) (content a) = .ok d') ∧ file = path a) (l : List α) :
    Does (forEach f l) fun d r d' =>
      ((∀ a ∈ l, good a) ∧ Disk.Writes d (l.map fun a => (path a, content a)) d') ∧
        r = l.map fun a => (a, path a) := by
  induction l with
  | nil =>
    refine (does_pure []).congr fun d r d' => ?_
    constructor
    · rintro ⟨rfl, rfl⟩
      exact ⟨⟨by simp, .done⟩, rfl⟩
    · rintro ⟨⟨-, ⟨⟩⟩, rfl⟩
      exact ⟨rfl, rfl⟩
  | cons a l ih =>
    refine ((hf a).bind fun file => ih.bind fun rest => does_pure ((a, file) :: rest)).congr
      fun d r d' => ?_
    constructor
    · rintro ⟨_, d₁, ⟨⟨ha, hwrite⟩, rfl⟩, _, _, ⟨⟨hl, hwrites⟩, rfl⟩, rfl, rfl⟩
      exact ⟨⟨List.forall_mem_cons.2 ⟨ha, hl⟩, .write hwrite hwrites⟩, rfl⟩
    · rintro ⟨⟨hgood, hwrites⟩, rfl⟩
      obtain ⟨ha, hl⟩ := List.forall_mem_cons.1 hgood
      cases hwrites with
      | write hwrite hwrites =>
        exact ⟨_, _, ⟨⟨ha, hwrite⟩, rfl⟩, _, d', ⟨⟨hl, hwrites⟩, rfl⟩, rfl, rfl⟩

theorem does_forEach_write_bind {f : α → Run Path} (good : α → Prop) (path : α → Path)
    (content : α → ByteArray) (hf : ∀ a, Does (f a) fun d file d' =>
      (good a ∧ d.write (path a) (content a) = .ok d') ∧ file = path a) (l : List α)
    (g : List Path → β) :
    Does (forEach f l >>= fun r => pure (g (r.map (·.2)))) fun d b d' =>
      ((∀ a ∈ l, good a) ∧ Disk.Writes d (l.map fun a => (path a, content a)) d') ∧
        b = g (l.map path) := by
  refine ((does_forEach_write good path content hf l).bind fun r =>
    does_pure (g (r.map (·.2)))).congr fun d b d' => ?_
  have hpaths : (l.map fun a => (a, path a)).map (·.2) = l.map path := by
    rw [List.map_map, Function.comp_def]
  constructor
  · rintro ⟨_, _, ⟨hwrites, rfl⟩, rfl, rfl⟩
    exact ⟨hwrites, by rw [hpaths]⟩
  · rintro ⟨hwrites, rfl⟩
    exact ⟨_, d', ⟨hwrites, rfl⟩, by rw [hpaths], rfl⟩

theorem exists_folders_of_check {s : Settings} {p p' : Project} {w : World} {d : Disk}
    (h : Completes (check s p) w p' d) :
    ∃ input output, p.inputFolder = some input ∧ p.outputFolder = some output := by
  simp only [check, completes_log_bind] at h
  cases hinput : p.inputFolder with
  | none =>
    rw [hinput] at h
    exact absurd h not_completes_refuse
  | some input =>
    cases houtput : p.outputFolder with
    | none =>
      simp [hinput, houtput, completes_currentDisk_bind, completes_orFail_bind, completes_ite,
        refuse_bind, completes_log_bind, not_completes_refuse] at h
    | some output => exact ⟨input, output, rfl, rfl⟩

theorem does_check {s : Settings} {p : Project} {input output : Path}
    (hinput : p.inputFolder = some input) (houtput : p.outputFolder = some output) :
    Does (check s p) fun d p' d' => ∃ files, (d.isFolder input = .ok true ∧
      (∃ pattern, Pattern.ofString (orElseText p.inputPattern s.inputPattern) = .ok pattern ∧
        Pattern.files d pattern input = .ok files) ∧
      files ≠ [] ∧ d.ensureFolders output = .ok d') ∧
      p' = { p with sources := .found files, checked := true } := by
  intro w p' d'
  simp only [check, hinput, houtput, completes_currentDisk_bind, completes_orFail_bind,
    completes_setDisk_bind, completes_ite, refuse_bind, not_completes_refuse, completes_log_bind,
    completes_pure, and_false, or_false, false_or]
  constructor
  · rintro ⟨_, hfolder, rfl, pattern, hpattern, files, hfiles, hne, d, hensure, rfl, rfl⟩
    exact ⟨files, ⟨hfolder, ⟨pattern, hpattern, hfiles⟩, by simpa using hne, hensure⟩, rfl⟩
  · rintro ⟨files, ⟨hfolder, ⟨pattern, hpattern, hfiles⟩, hne, hensure⟩, rfl⟩
    exact ⟨true, hfolder, rfl, pattern, hpattern, files, hfiles, by simpa using hne, d', hensure,
      rfl, rfl⟩

theorem load_of_missing {d : Disk} {file : Path} (h : d.pathExists file = .ok false) :
    ({} : Platform).load d file = .ok {} := by
  change Options.load d file = .ok {}
  rw [Options.load, h]

theorem does_loadOptions {platform : Platform} {s : Settings} {p : Project} {input : Path}
    (hinput : p.inputFolder = some input) :
    Does (loadOptions platform s p) fun d p' d' => (∃ l,
      platform.load d (input.join (.ofString (orElseText p.optionsFile s.optionsFile))) = .ok l ∧
      p' = { p with options := some l.options, encodesText := l.encodesText }) ∧ d' = d := by
  intro w p' d'
  simp only [loadOptions, hinput, completes_log_bind, completes_currentDisk_bind]
  cases platform.load w.disk
      (input.join (.ofString (orElseText p.optionsFile s.optionsFile))) with
  | ok l => simp only [completes_pure_bind, completes_log_bind, completes_pure, Except.ok.injEq,
      exists_eq_left']
  | error e =>
    cases e with
    | options e => simp [giveUp_bind, not_completes_giveUp]
    | failure e => simp [fail_bind, not_completes_fail]

/-- The roots that a file on a disk holds. -/
def HoldsRoots (d : Disk) (file : Path) (roots : List Element) : Prop :=
  ∃ content text, d.read file = .ok content ∧ Text.ofFile? content = some text ∧
    Markup.readChars text = .ok roots

theorem does_readSource (s : Settings) (p : Project) (file : Path) :
    Does (readSource s p file) fun d roots d' => HoldsRoots d file roots ∧ d' = d := by
  intro w roots d'
  simp only [readSource, completes_currentDisk_bind, HoldsRoots]
  cases hread : w.disk.read file with
  | error e => simp [giveUp_bind, not_completes_giveUp]
  | ok content =>
    simp only [completes_pure_bind]
    cases htext : Text.ofFile? content with
    | none => simp [not_completes_fail, htext]
    | some text =>
      simp only [completes_log_bind]
      cases hroots : Markup.readChars text with
      | ok roots =>
        simp only [completes_log_bind, completes_pure]
        simp [htext, hroots, eq_comm]
      | error e => cases e <;> simp [not_completes_giveUp, not_completes_fail, hroots, htext]

theorem does_readSources {s : Settings} {p : Project} {files : List Path}
    (hfiles : p.sources = .found files) :
    Does (readSources s p) fun d p' d' => (∃ parsed : List (Path × List Element),
      (parsed.map (·.1) = files ∧ ∀ e ∈ parsed, HoldsRoots d e.1 e.2) ∧ p' = { p with parsed }) ∧
        d' = d := by
  unfold readSources
  refine Does.log_bind ?_ _ _
  rw [hfiles]
  exact (does_forEach (does_readSource s p) files).bind_pure _

theorem does_gatherImports (p : Project) :
    Does (gatherImports p) fun d p' d' => p' = { p with
      parsed := p.parsed.map fun e => (e.1, (Imports.split e.2).elements)
      imports := p.parsed.map fun e => (e.1, (Imports.split e.2).imports) } ∧ d' = d := by
  unfold gatherImports
  refine Does.congr (Does.bind_pure (does_forEach_map
    (g := fun (e : Path × List Element) => Imports.split e.2) ?_ _) _) ?_
  · intro e w split d'
    simp only [completes_log_bind]
    exact completes_pure
  · intro d p' d'
    simp only [exists_eq_left, List.map_map]
    rfl

/-- What a list of elements is compiled to. -/
def CompilesTo (o : Options) (elements : List Element) (r : Result) : Prop :=
  (Compile.compile o elements).result = .ok r.widgets ∧
    (Compile.compile o elements).diagnostics = r.diagnostics

/-- The same on a stack that is large enough. -/
def Platform.Compiles (platform : Platform) (o : Options) (elements : List Element) (r : Result) :
    Prop :=
  platform.stackFullAt elements = none ∧ CompilesTo o elements r

/-- Compiles one source as if there were no others. -/
def compileAlone (platform : Platform) (o : Options) (file : Path) (elements : List Element) :
    Run Result := do
  let traced := Compile.compile o elements
  match platform.stackFullAt elements with
  | some n =>
    logEvents (traced.events.take n)
    fail .stack
  | none =>
    logEvents traced.events
    let widgets ← orFail .numeral traced.result
    log 2 (file.name ++ s!": {widgets.length} widgets")
    return ⟨widgets, traced.diagnostics⟩

/-- What a compiler has compiled before makes no difference to a source. -/
theorem compileSource_eq (platform : Platform) (c : Compiler) (file : Path)
    (elements : List Element) :
    compileSource platform c file elements = do
      let r ← compileAlone platform c.options file elements
      return (r, { c with diagnostics := r.diagnostics }) := by
  simp only [compileSource, compileAlone]
  cases platform.stackFullAt elements with
  | some n => simp only [bind_assoc, fail_bind]
  | none => simp only [Compiler.after_compile, bind_assoc, pure_bind]

theorem compileInTurn_eq (platform : Platform) (c : Compiler)
    (sources : List (Path × List Element)) :
    compileInTurn platform c sources = do
      let compiled ← forEach (fun e => compileAlone platform c.options e.1 e.2) sources
      return compiled.map fun e => (e.1.1, e.2) := by
  induction sources generalizing c with
  | nil => simp only [compileInTurn, forEach, pure_bind, List.map_nil]
  | cons e sources ih =>
    -- the compiler that the first source leaves has the same options
    simp only [compileInTurn, forEach, compileSource_eq, ih, bind_assoc, pure_bind, List.map_cons]

theorem completes_logEvents_bind {events : List Compile.Event} {f : Unit → Run β} {w : World}
    {b : β} {d : Disk} : Completes (logEvents events >>= f) w b d ↔
      Completes (f ()) { w with log := w.log ++ events.map showEvent } b d :=
  Iff.rfl

theorem does_compileAlone (platform : Platform) (o : Options) (file : Path)
    (elements : List Element) :
    Does (compileAlone platform o file elements) fun d r d' =>
      platform.Compiles o elements r ∧ d' = d := by
  intro w r d'
  simp only [compileAlone, Platform.Compiles, CompilesTo]
  cases platform.stackFullAt elements with
  | some n => simp [completes_logEvents_bind, not_completes_fail]
  | none =>
    simp only [completes_logEvents_bind, completes_orFail_bind, completes_log_bind, completes_pure]
    constructor
    · rintro ⟨widgets, hwidgets, rfl, rfl⟩
      exact ⟨⟨trivial, hwidgets, rfl⟩, rfl⟩
    · rintro ⟨⟨-, hwidgets, hdiagnostics⟩, rfl⟩
      exact ⟨r.widgets, hwidgets, by rw [hdiagnostics], rfl⟩

theorem compileSources_eq (platform : Platform) (p : Project) :
    compileSources platform p = do
      log 1 "Compiling markup to widgets..."
      let compiled ← forEach (fun e => compileAlone platform (p.options.getD {}) e.1 e.2) p.parsed
      return { p with results := compiled.map fun e => (e.1.1, e.2) } := by
  simp only [compileSources, compileInTurn_eq, bind_assoc, pure_bind]

theorem does_compileSources (platform : Platform) (p : Project) :
    Does (compileSources platform p) fun d p' d' =>
      (∃ compiled : List ((Path × List Element) × Result),
        (compiled.map (·.1) = p.parsed ∧
          ∀ e ∈ compiled, platform.Compiles (p.options.getD {}) e.1.2 e.2) ∧
        p' = { p with results := compiled.map fun e => (e.1.1, e.2) }) ∧ d' = d := by
  have hcompile : ∀ e : Path × List Element,
      Does (compileAlone platform (p.options.getD {}) e.1 e.2)
        fun d r d' => platform.Compiles (p.options.getD {}) e.2 r ∧ d' = d :=
    fun e => does_compileAlone _ _ _ _
  rw [compileSources_eq]
  exact ((does_forEach hcompile p.parsed).bind_pure _).log_bind _ _

/-- Where the document of a source is written. -/
def outputPath (s : Settings) (output source : Path) : Path :=
  output.join (.ofString (s.outputName source))

/-- The bytes that a document is written as. -/
def jsonBytes (s : Settings) (doc : Json) : ByteArray :=
  (Json.render (.ofIndent s.jsonIndent) doc).toUTF8

/-- A result can be written: its document becomes a text, and this has an encoding. -/
def Platform.Renders (platform : Platform) (o : Options) (encodesText : Bool) (doc : Json)
    (r : Result) : Prop :=
  platform.stackFullFor doc = false ∧ r.encodes o encodesText = true

theorem writeResult_eq {platform : Platform} {s : Settings} {p : Project} {output : Path}
    (houtput : p.outputFolder = some output) (source : Path) (r : Result) :
    writeResult platform s p source r =
      (if platform.stackFullFor (document source ((p.imports.lookup source).getD []) r) then
        fail .stack
      else if r.encodes (p.options.getD {}) p.encodesText then do
        writeFile s p (outputPath s output source)
          (jsonBytes s (document source ((p.imports.lookup source).getD []) r))
        log 2 ("Wrote " ++ (outputPath s output source).text)
        return outputPath s output source
      else do
        writeFile s p (outputPath s output source) .empty
        fail .encoding) := by
  simp only [writeResult, houtput, fail_bind, outputPath, jsonBytes]
  cases r.encodes (p.options.getD {}) p.encodesText with
  | false => rfl
  | true => rfl

theorem does_writeFile (s : Settings) (p : Project) (file : Path) (content : ByteArray) :
    Does (writeFile s p file content) fun d _ d' => d.write file content = .ok d' := by
  intro w u d'
  simp only [writeFile, completes_currentDisk_bind]
  cases w.disk.write file content with
  | ok d =>
    have hset : Completes (setDisk d) w u d' ↔ u = () ∧ d' = d :=
      completes_setDisk_bind.trans completes_pure
    rw [hset, Except.ok.injEq, eq_comm (a := d)]
    exact and_iff_right rfl
  | error e => cases e <;> simp [not_completes_fail, not_completes_giveUp]

theorem does_writeResult (platform : Platform) {s : Settings} {p : Project} {output : Path}
    (houtput : p.outputFolder = some output) (source : Path) (r : Result) :
    Does (writeResult platform s p source r) fun d file d' =>
      (platform.Renders (p.options.getD {}) p.encodesText
          (document source ((p.imports.lookup source).getD []) r) r ∧
        d.write (outputPath s output source)
          (jsonBytes s (document source ((p.imports.lookup source).getD []) r)) = .ok d') ∧
      file = outputPath s output source := by
  rw [writeResult_eq houtput]
  generalize document source ((p.imports.lookup source).getD []) r = doc
  intro w file d'
  simp only [Platform.Renders, completes_ite, not_completes_fail, and_false, false_or,
    Bool.not_eq_true]
  generalize outputPath s output source = path
  have hlog : Does (do log 2 ("Wrote " ++ path.text); return path)
      fun d file d' => file = path ∧ d' = d := by
    refine Does.log_bind ?_ _ _
    exact does_pure path
  have hwritten := ((does_writeFile s p path (jsonBytes s doc)).bind fun _ => hlog) w file d'
  have hfailed : ¬Completes (do writeFile s p path .empty; fail .encoding) w file d' := by
    rw [completes_bind]
    rintro ⟨_, _, -, h⟩
    exact not_completes_fail h
  rw [hwritten]
  constructor
  · rintro ⟨hfull, ⟨hencodes, _, d₁, hwrite, rfl, rfl⟩ | ⟨-, h⟩⟩
    · exact ⟨⟨⟨hfull, hencodes⟩, hwrite⟩, rfl⟩
    · exact absurd h hfailed
  · rintro ⟨⟨⟨hfull, hencodes⟩, hwrite⟩, rfl⟩
    exact ⟨hfull, Or.inl ⟨hencodes, (), d', hwrite, rfl, rfl⟩⟩

theorem does_writeResults {platform : Platform} {s : Settings} {p : Project} {output : Path}
    (houtput : p.outputFolder = some output) :
    Does (writeResults platform s p) fun d p' d' =>
      ((∀ e ∈ p.results, platform.Renders (p.options.getD {}) p.encodesText
          (document e.1 ((p.imports.lookup e.1).getD []) e.2) e.2) ∧
        Disk.Writes d (p.results.map fun e => (outputPath s output e.1,
          jsonBytes s (document e.1 ((p.imports.lookup e.1).getD []) e.2))) d') ∧
      p' = { p with outputs := p.results.map fun e => outputPath s output e.1 } := by
  exact does_forEach_write_bind (fun e => platform.Renders (p.options.getD {}) p.encodesText
      (document e.1 ((p.imports.lookup e.1).getD []) e.2) e.2)
    (fun e : Path × Result => outputPath s output e.1)
    (fun e => jsonBytes s (document e.1 ((p.imports.lookup e.1).getD []) e.2))
    (fun e => does_writeResult platform houtput e.1 e.2) p.results fun outputs => { p with outputs }

/-- The stages up to the writing of the documents. -/
def writingStages : List Stage :=
  [.check, .loadOptions, .readSources, .gatherImports, .compileSources, .writeResults]

/-- When the stages up to the writing complete, and what they have done: the sources are looked up on
the first disk, read from the one with the new folders, and compiled, and the documents are written. -/
theorem does_writingStages {platform : Platform} {s : Settings} {p : Project} {input output : Path}
    (hinput : p.inputFolder = some input) (houtput : p.outputFolder = some output) :
    Does (runStages platform s writingStages p) fun d p' d' =>
      ∃ files d₁, (d.isFolder input = .ok true ∧
        (∃ pattern, Pattern.ofString (orElseText p.inputPattern s.inputPattern) = .ok pattern ∧
          Pattern.files d pattern input = .ok files) ∧
        files ≠ [] ∧ d.ensureFolders output = .ok d₁) ∧
      ∃ l, platform.load d₁ (input.join (.ofString (orElseText p.optionsFile s.optionsFile))) =
        .ok l ∧
      ∃ parsed : List (Path × List Element), (parsed.map (·.1) = files ∧
        ∀ e ∈ parsed, HoldsRoots d₁ e.1 e.2) ∧
      ∃ compiled : List ((Path × List Element) × Result),
        (compiled.map (·.1) = parsed.map (fun e => (e.1, (Imports.split e.2).elements)) ∧
        ∀ e ∈ compiled, platform.Compiles l.options e.1.2 e.2) ∧
      ((∀ e ∈ compiled.map fun e => (e.1.1, e.2), platform.Renders l.options l.encodesText
          (document e.1 (((parsed.map fun e =>
            (e.1, (Imports.split e.2).imports)).lookup e.1).getD []) e.2) e.2) ∧
        Disk.Writes d₁ ((compiled.map fun e => (e.1.1, e.2)).map fun e => (outputPath s output e.1,
          jsonBytes s (document e.1 (((parsed.map fun e =>
            (e.1, (Imports.split e.2).imports)).lookup e.1).getD []) e.2))) d') ∧
      p' = { p with
        sources := .found files
        checked := true
        options := some l.options
        encodesText := l.encodesText
        parsed := parsed.map fun e => (e.1, (Imports.split e.2).elements)
        imports := parsed.map fun e => (e.1, (Imports.split e.2).imports)
        results := compiled.map fun e => (e.1.1, e.2)
        outputs := (compiled.map fun e => (e.1.1, e.2)).map fun e => outputPath s output e.1 } := by
  simp only [writingStages, runStages, Stage.run, bind_pure]
  refine (does_check hinput houtput).bind_exists fun files => ?_
  refine (does_loadOptions (by exact hinput)).bind_exists_same fun l => ?_
  refine (does_readSources (by rfl)).bind_exists_same fun parsed => ?_
  refine (does_gatherImports _).bind_eq ?_
  refine (does_compileSources _ _).bind_exists_same fun compiled => ?_
  exact does_writeResults (by exact houtput)

end WidgetMarkup.Build
