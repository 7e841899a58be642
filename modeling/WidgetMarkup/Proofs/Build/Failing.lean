import WidgetMarkup.Proofs.Build.Documents
import WidgetMarkup.Proofs.Disk.Folders
import WidgetMarkup.Proofs.Markup.Faults

/-!
# Runs that fail

A run that does not complete stops: it exits with a status, or it fails in a way that nobody has
provided for. A run fails where its first part does, or where its first part completes and what
follows fails; so the failures of a build are put together from those of its stages, with what the
stages before have done.

Two stages never fail, those that gather the imports and report. Options fail to load as the platform
has it, and a source is no text. A source is not compiled and a document not written if the stack is
full; apart from that, there is a number that is too long, a path that is none, or a document without
an encoding.
-/
namespace WidgetMarkup.Build

open Markup (Element)

variable {α β : Type}

/-- A run stops early. -/
def Stopped (x : Run α) (w : World) (st : Stop) : Prop :=
  ∃ w', x.run w = (.error st, w')

/-- A run fails exactly where a relation holds between the disk and the failure; wherever else it
stops, it exits with status 1. -/
structure FailsWhere (x : Run α) (E : Disk → Failure → Prop) : Prop where
  failure_iff : ∀ w e, Stopped x w (.failure e) ↔ E w.disk e
  status_eq : ∀ w status trace, Stopped x w (.exit status trace) → status = 1

theorem stopped_bind {x : Run α} {f : α → Run β} {w : World} {st : Stop} :
    Stopped (x >>= f) w st ↔
      Stopped x w st ∨ ∃ a w₁, x.run w = (.ok a, w₁) ∧ Stopped (f a) w₁ st := by
  unfold Stopped
  rcases hx : x.run w with ⟨r, w₁⟩
  cases r with
  | error st' =>
    rw [run_bind_error hx]
    constructor
    · rintro ⟨w', h⟩
      cases h
      exact Or.inl ⟨w₁, rfl⟩
    · rintro (⟨w', h⟩ | ⟨a, w₂, h, -⟩)
      · cases h
        exact ⟨w₁, rfl⟩
      · cases h
  | ok a =>
    rw [run_bind_ok hx]
    constructor
    · intro h
      exact Or.inr ⟨a, w₁, rfl, h⟩
    · rintro (⟨w', h⟩ | ⟨a', w₂, h, hf⟩)
      · cases h
      · cases h
        exact hf

theorem FailsWhere.of {x : Run α} {E : Disk → Failure → Prop}
    (hstops : ∀ w st, Stopped x w st →
      (∃ trace, st = .exit 1 trace) ∨ ∃ e, st = .failure e ∧ E w.disk e)
    (hfails : ∀ w e, E w.disk e → Stopped x w (.failure e)) : FailsWhere x E := by
  constructor
  · intro w e
    constructor
    · intro h
      rcases hstops w _ h with ⟨trace, hexit⟩ | ⟨e', hfailure, hE⟩
      · cases hexit
      · cases hfailure
        exact hE
    · exact hfails w e
  · intro w status trace h
    rcases hstops w _ h with ⟨trace', hexit⟩ | ⟨e, hfailure, -⟩
    · cases hexit
      rfl
    · cases hfailure

theorem FailsWhere.congr {x : Run α} {E F : Disk → Failure → Prop} (hx : FailsWhere x E)
    (h : ∀ d e, E d e ↔ F d e) : FailsWhere x F :=
  ⟨fun w e => (hx.failure_iff w e).trans (h w.disk e), hx.status_eq⟩

theorem FailsWhere.bind_exists {ι : Type} {x : Run α} {f : α → Run β} {g : ι → α}
    {R : Disk → ι → Disk → Prop} {E : Disk → Failure → Prop} {F : ι → Disk → Failure → Prop}
    (hx : FailsWhere x E) (hdoes : Does x fun d a d' => ∃ i, R d i d' ∧ a = g i)
    (hf : ∀ i, FailsWhere (f (g i)) (F i)) :
    FailsWhere (x >>= f) fun d e => E d e ∨ ∃ i d₁, R d i d₁ ∧ F i d₁ e := by
  constructor
  · intro w e
    rw [stopped_bind, hx.failure_iff]
    refine or_congr_right ?_
    constructor
    · rintro ⟨a, w₁, hrun, hstop⟩
      obtain ⟨i, hR, rfl⟩ := (hdoes w a w₁.disk).1 ⟨w₁, hrun, rfl⟩
      exact ⟨i, w₁.disk, hR, ((hf i).failure_iff w₁ e).1 hstop⟩
    · rintro ⟨i, d₁, hR, hF⟩
      obtain ⟨w₁, hrun, rfl⟩ := (hdoes w (g i) d₁).2 ⟨i, hR, rfl⟩
      exact ⟨g i, w₁, hrun, ((hf i).failure_iff w₁ e).2 hF⟩
  · intro w status trace hstop
    rcases stopped_bind.1 hstop with hstop | ⟨a, w₁, hrun, hstop⟩
    · exact hx.status_eq w status trace hstop
    · obtain ⟨i, -, rfl⟩ := (hdoes w a w₁.disk).1 ⟨w₁, hrun, rfl⟩
      exact (hf i).status_eq w₁ status trace hstop

theorem FailsWhere.bind_exists_same {ι : Type} {x : Run α} {f : α → Run β} {g : ι → α}
    {P : Disk → ι → Prop} {E : Disk → Failure → Prop} {F : ι → Disk → Failure → Prop}
    (hx : FailsWhere x E) (hdoes : Does x fun d a d' => (∃ i, P d i ∧ a = g i) ∧ d' = d)
    (hf : ∀ i, FailsWhere (f (g i)) (F i)) :
    FailsWhere (x >>= f) fun d e => E d e ∨ ∃ i, P d i ∧ F i d e := by
  have hdoes' : Does x fun d a d' => ∃ i, (P d i ∧ d' = d) ∧ a = g i :=
    hdoes.congr fun d a d' => by grind
  exact (hx.bind_exists hdoes' hf).congr fun d e => by grind

theorem FailsWhere.bind {x : Run α} {f : α → Run β} {R : Disk → α → Disk → Prop}
    {E : Disk → Failure → Prop} {F : α → Disk → Failure → Prop} (hx : FailsWhere x E)
    (hdoes : Does x R) (hf : ∀ a, FailsWhere (f a) (F a)) :
    FailsWhere (x >>= f) fun d e => E d e ∨ ∃ a d₁, R d a d₁ ∧ F a d₁ e :=
  hx.bind_exists (g := id) (hdoes.congr fun d a d' => by simp) hf

theorem FailsWhere.bind_eq {x : Run α} {f : α → Run β} {a : α} {F : Disk → Failure → Prop}
    (hx : FailsWhere x fun _ _ => False) (hdoes : Does x fun d b d' => b = a ∧ d' = d)
    (hf : FailsWhere (f a) F) : FailsWhere (x >>= f) F := by
  have hdoes' : Does x fun d b d' => (∃ _ : Unit, True ∧ b = a) ∧ d' = d := by simpa using hdoes
  simpa using hx.bind_exists_same (F := fun _ => F) hdoes' fun _ => hf

section Steps

variable {f : α → Run β} {w : World} {st : Stop}

theorem stopped_of_error {x : Run β} {st' : Stop} {w' : World} (h : x.run w = (.error st', w')) :
    Stopped x w st ↔ st = st' := by
  unfold Stopped
  rw [h]
  constructor
  · rintro ⟨w₁, hstop⟩
    cases hstop
    rfl
  · rintro rfl
    exact ⟨w', rfl⟩

theorem not_stopped_pure {b : β} : ¬Stopped (pure b : Run β) w st := by
  rintro ⟨w', h⟩
  cases h

theorem stopped_fail {e : Failure} : Stopped (fail e : Run β) w st ↔ st = .failure e :=
  stopped_of_error rfl

theorem stopped_refuse {message : String} :
    Stopped (refuse message : Run β) w st ↔ st = .exit 1 false :=
  stopped_of_error rfl

theorem stopped_giveUp {s : Settings} {p : Project} {message : String} :
    Stopped (giveUp s p message : Run β) w st ↔ st = .exit 1 (3 ≤ p.verbosity || s.debugMode) :=
  stopped_of_error rfl

theorem stopped_ite {c : Prop} [Decidable c] {x y : Run β} :
    Stopped (if c then x else y) w st ↔ (c ∧ Stopped x w st) ∨ (¬c ∧ Stopped y w st) := by
  split <;> simp [*]

theorem stopped_pure_bind {a : α} : Stopped (pure a >>= f) w st ↔ Stopped (f a) w st :=
  Iff.rfl

theorem stopped_log_bind {level : Nat} {text : String} {f : Unit → Run β} :
    Stopped (log level text >>= f) w st ↔
      Stopped (f ()) { w with log := w.log ++ [⟨level, text⟩] } st :=
  Iff.rfl

theorem stopped_currentDisk_bind {f : Disk → Run β} :
    Stopped (currentDisk >>= f) w st ↔ Stopped (f w.disk) w st :=
  Iff.rfl

theorem stopped_setDisk_bind {d : Disk} {f : Unit → Run β} :
    Stopped (setDisk d >>= f) w st ↔ Stopped (f ()) { w with disk := d } st :=
  Iff.rfl

theorem stopped_orFail_bind {ε : Type} {g : ε → Failure} {r : Except ε α} :
    Stopped (orFail g r >>= f) w st ↔
      (∃ e, r = .error e ∧ st = .failure (g e)) ∨ ∃ a, r = .ok a ∧ Stopped (f a) w st := by
  cases r with
  | error e => simp [orFail, fail_bind, stopped_fail]
  | ok a => simp [orFail]

end Steps

theorem FailsWhere.log_bind {f : Unit → Run β} {E : Disk → Failure → Prop}
    (hf : FailsWhere (f ()) E) (level : Nat) (text : String) :
    FailsWhere (log level text >>= f) E :=
  ⟨fun w => hf.failure_iff { w with log := w.log ++ [⟨level, text⟩] },
    fun w => hf.status_eq { w with log := w.log ++ [⟨level, text⟩] }⟩

theorem failsWhere_pure (a : α) : FailsWhere (pure a) fun _ _ => False :=
  ⟨fun _ _ => iff_of_false not_stopped_pure id, fun _ _ _ h => absurd h not_stopped_pure⟩

theorem failsWhere_fail (e : Failure) : FailsWhere (fail e : Run α) fun _ e' => e' = e := by
  refine .of (fun w st hstop => ?_) (fun w e' he => ?_)
  · exact Or.inr ⟨e, stopped_fail.1 hstop, rfl⟩
  · exact stopped_fail.2 (by rw [he])

/-- What follows a run and never fails makes no difference. -/
theorem FailsWhere.bind_never {x : Run α} {f : α → Run β} {E : Disk → Failure → Prop}
    (hx : FailsWhere x E) (hf : ∀ a, FailsWhere (f a) fun _ _ => False) :
    FailsWhere (x >>= f) E := by
  constructor
  · intro w e
    rw [stopped_bind, hx.failure_iff]
    constructor
    · rintro (h | ⟨a, w₁, -, h⟩)
      · exact h
      · exact (((hf a).failure_iff w₁ e).1 h).elim
    · exact Or.inl
  · intro w status trace h
    rcases stopped_bind.1 h with h | ⟨a, w₁, -, h⟩
    · exact hx.status_eq w status trace h
    · exact (hf a).status_eq w₁ status trace h

theorem FailsWhere.bind_pure {x : Run α} {E : Disk → Failure → Prop} (hx : FailsWhere x E)
    (g : α → β) : FailsWhere (x >>= fun a => pure (g a)) E :=
  hx.bind_never fun a => failsWhere_pure (g a)

theorem stopped_forEach_cons {f : α → Run β} {a : α} {l : List α} {w : World} {st : Stop} :
    Stopped (forEach f (a :: l)) w st ↔
      Stopped (f a) w st ∨ ∃ b w₁, (f a).run w = (.ok b, w₁) ∧ Stopped (forEach f l) w₁ st := by
  have hrest : ∀ b w₁, Stopped (do let r ← forEach f l; pure ((a, b) :: r)) w₁ st ↔
      Stopped (forEach f l) w₁ st := by
    intro b w₁
    rw [stopped_bind]
    constructor
    · rintro (h | ⟨r, w₂, -, h⟩)
      · exact h
      · exact absurd h not_stopped_pure
    · exact Or.inl
  rw [forEach, stopped_bind]
  simp only [hrest]

/-- Of runs for the items of a list, one fails, and those before it complete. -/
theorem failsWhere_forEach {f : α → Run β} {S : List α → Disk → List (α × β) → Disk → Prop}
    {E : α → Disk → Failure → Prop} (hdoes : ∀ l, Does (forEach f l) (S l))
    (hf : ∀ a, FailsWhere (f a) (E a)) (l : List α) :
    FailsWhere (forEach f l) fun d e => ∃ before a after, l = before ++ a :: after ∧
      ∃ r d₁, S before d r d₁ ∧ E a d₁ e := by
  induction l with
  | nil => exact (failsWhere_pure []).congr fun d e => by simp
  | cons a l ih =>
    constructor
    · intro w e
      rw [stopped_forEach_cons, (hf a).failure_iff]
      constructor
      · rintro (hE | ⟨b, w₁, hrun, hstop⟩)
        · have hnone : S [] w.disk [] w.disk := (hdoes [] w [] w.disk).1 ⟨w, rfl, rfl⟩
          exact ⟨[], a, l, rfl, [], w.disk, hnone, hE⟩
        · -- a failure further on is seen from the disk that the first item leaves, so the items
          -- before it are run again with the first one in front
          obtain ⟨before, x, after, rfl, r, d₁, hS, hE⟩ := (ih.failure_iff w₁ e).1 hstop
          obtain ⟨w₂, hrest, rfl⟩ := (hdoes before w₁ r d₁).2 hS
          have hall : (forEach f (a :: before)).run w = (.ok ((a, b) :: r), w₂) := by
            rw [forEach, run_bind_ok hrun, run_bind_ok hrest]
            rfl
          exact ⟨a :: before, x, after, rfl, _, _, (hdoes _ w _ _).1 ⟨w₂, hall, rfl⟩, hE⟩
      · rintro ⟨before, x, after, hsplit, r, d₁, hS, hE⟩
        cases before with
        | nil =>
          cases hsplit
          obtain ⟨w₁, hrun, rfl⟩ := (hdoes [] w r d₁).2 hS
          cases hrun
          exact Or.inl hE
        | cons a' before =>
          cases hsplit
          obtain ⟨b, w₁, hrun, hrest⟩ := completes_bind.1 ((hdoes (a :: before) w r d₁).2 hS)
          obtain ⟨r', w₂, hbefore, hpure⟩ := completes_bind.1 hrest
          obtain ⟨-, rfl⟩ := completes_pure.1 hpure
          have hS' := (hdoes before w₁ r' _).1 ⟨w₂, hbefore, rfl⟩
          have hstop := (ih.failure_iff w₁ e).2 ⟨before, x, after, rfl, r', _, hS', hE⟩
          exact Or.inr ⟨b, w₁, hrun, hstop⟩
    · intro w status trace hstop
      rcases stopped_forEach_cons.1 hstop with hstop | ⟨b, w₁, -, hstop⟩
      · exact (hf a).status_eq w status trace hstop
      · exact ih.status_eq w₁ status trace hstop

theorem failsWhere_forEach_same {f : α → Run β} {P : Disk → α → β → Prop}
    {E : α → Disk → Failure → Prop} (hdoes : ∀ a, Does (f a) fun d b d' => P d a b ∧ d' = d)
    (hf : ∀ a, FailsWhere (f a) (E a)) (l : List α) :
    FailsWhere (forEach f l) fun d e => ∃ before a after, l = before ++ a :: after ∧
      (∀ x ∈ before, ∃ b, P d x b) ∧ E a d e := by
  refine (failsWhere_forEach (does_forEach hdoes) hf l).congr fun d e => ?_
  refine exists_congr fun before => exists_congr fun a => exists_congr fun after =>
    and_congr_right fun _ => ?_
  constructor
  · rintro ⟨r, d₁, ⟨⟨rfl, hr⟩, rfl⟩, hE⟩
    refine ⟨?_, hE⟩
    rw [List.forall_mem_map]
    exact fun x hx => ⟨x.2, hr x hx⟩
  · rintro ⟨hbefore, hE⟩
    obtain ⟨r, hmap, hr⟩ := exists_pairs hbefore
    exact ⟨r, d, ⟨⟨hmap, hr⟩, rfl⟩, hE⟩

/-- The input folder, the sources in it or the output folder cannot be looked up. -/
inductive LookupFails (text : String) (input output : Path) (d : Disk) : Failure → Prop
  | input {e : DiskError} : d.isFolder input = .error e → LookupFails text input output d (.disk e)
  | pattern {e : PatternError} : d.isFolder input = .ok true → Pattern.ofString text = .error e →
      LookupFails text input output d (.pattern e)
  | sources {pattern : Pattern} {e : DiskError} : d.isFolder input = .ok true →
      Pattern.ofString text = .ok pattern → Pattern.files d pattern input = .error e →
      LookupFails text input output d (.disk e)
  | output {pattern : Pattern} {files : List Path} {e : DiskError} :
      d.isFolder input = .ok true → Pattern.ofString text = .ok pattern →
      Pattern.files d pattern input = .ok files → files ≠ [] → d.ensureFolders output = .error e →
      LookupFails text input output d (.disk e)

theorem failsWhere_check {s : Settings} {p : Project} {input output : Path}
    (hinput : p.inputFolder = some input) (houtput : p.outputFolder = some output) :
    FailsWhere (check s p)
      (LookupFails (orElseText p.inputPattern s.inputPattern) input output) := by
  refine .of (fun w st hstop => ?_) (fun w e hfails => ?_)
  · simp only [check, hinput, houtput, stopped_currentDisk_bind, stopped_orFail_bind,
      stopped_setDisk_bind, stopped_ite, refuse_bind, stopped_refuse, stopped_log_bind,
      not_stopped_pure, and_false, exists_false, or_false] at hstop
    rcases hstop with ⟨e, he, rfl⟩ | ⟨_, hfolder, ⟨rfl, hstop⟩ | ⟨-, rfl⟩⟩
    · exact Or.inr ⟨_, rfl, .input he⟩
    · rcases hstop with ⟨e, he, rfl⟩ | ⟨pattern, hpattern, ⟨e, he, rfl⟩ | ⟨files, hfiles, hstop⟩⟩
      · exact Or.inr ⟨_, rfl, .pattern hfolder he⟩
      · exact Or.inr ⟨_, rfl, .sources hfolder hpattern he⟩
      · rcases hstop with ⟨-, rfl⟩ | ⟨hne, e, he, rfl⟩
        · exact Or.inl ⟨false, rfl⟩
        · exact Or.inr ⟨_, rfl, .output hfolder hpattern hfiles (by simpa using hne) he⟩
    · exact Or.inl ⟨false, rfl⟩
  · simp only [check, hinput, houtput, stopped_currentDisk_bind, stopped_orFail_bind,
      stopped_setDisk_bind, stopped_ite, refuse_bind, stopped_refuse, stopped_log_bind,
      not_stopped_pure, and_false, exists_false, or_false]
    cases hfails with
    | input he => exact Or.inl ⟨_, he, rfl⟩
    | pattern hfolder he => exact Or.inr ⟨true, hfolder, Or.inl ⟨rfl, Or.inl ⟨_, he, rfl⟩⟩⟩
    | sources hfolder hpattern he =>
      exact Or.inr ⟨true, hfolder, Or.inl ⟨rfl, Or.inr ⟨_, hpattern, Or.inl ⟨_, he, rfl⟩⟩⟩⟩
    | output hfolder hpattern hfiles hne he =>
      exact Or.inr ⟨true, hfolder, Or.inl ⟨rfl, Or.inr ⟨_, hpattern, Or.inr ⟨_, hfiles,
        Or.inr ⟨by simpa using hne, _, he, rfl⟩⟩⟩⟩⟩

theorem failsWhere_loadOptions {platform : Platform} {s : Settings} {p : Project} {input : Path}
    (hinput : p.inputFolder = some input) :
    FailsWhere (loadOptions platform s p) fun d e => ∃ err,
      platform.load d (input.join (.ofString (orElseText p.optionsFile s.optionsFile))) =
        .error (.failure err) ∧ e = .options err := by
  refine .of (fun w st hstop => ?_) (fun w e hfails => ?_)
  · simp only [loadOptions, hinput, stopped_log_bind, stopped_currentDisk_bind] at hstop
    cases hload : platform.load w.disk
        (input.join (.ofString (orElseText p.optionsFile s.optionsFile))) with
    | ok l =>
      simp only [hload, stopped_pure_bind, stopped_log_bind] at hstop
      exact absurd hstop not_stopped_pure
    | error err =>
      cases err with
      | options e =>
        simp only [hload, giveUp_bind, stopped_giveUp] at hstop
        exact Or.inl ⟨_, hstop⟩
      | failure e =>
        simp only [hload, fail_bind, stopped_fail] at hstop
        exact Or.inr ⟨_, hstop, e, rfl, rfl⟩
  · obtain ⟨err, hload, rfl⟩ := hfails
    simp only [loadOptions, hinput, stopped_log_bind, stopped_currentDisk_bind, hload, fail_bind]
    exact stopped_fail.2 rfl

/-- A file is there but holds no text. -/
def HoldsNoText (d : Disk) (file : Path) : Prop :=
  ∃ content, d.read file = .ok content ∧ Text.ofFile? content = none

theorem failsWhere_readSource (s : Settings) (p : Project) (file : Path) :
    FailsWhere (readSource s p file) fun d e => HoldsNoText d file ∧ e = .notText := by
  refine .of (fun w st hstop => ?_) (fun w e hfails => ?_)
  · simp only [readSource, stopped_currentDisk_bind] at hstop
    cases hread : w.disk.read file with
    | error e =>
      simp only [hread, giveUp_bind, stopped_giveUp] at hstop
      exact Or.inl ⟨_, hstop⟩
    | ok content =>
      simp only [hread, stopped_pure_bind] at hstop
      cases htext : Text.ofFile? content with
      | none =>
        rw [htext] at hstop
        exact Or.inr ⟨_, stopped_fail.1 hstop, ⟨content, hread, htext⟩, rfl⟩
      | some text =>
        simp only [htext, stopped_log_bind] at hstop
        cases hroots : Markup.readChars text with
        | ok roots =>
          simp only [hroots, stopped_log_bind] at hstop
          exact absurd hstop not_stopped_pure
        | error e =>
          obtain ⟨f, rfl⟩ := Markup.isFault_readChars hroots
          rw [hroots] at hstop
          exact Or.inl ⟨_, stopped_giveUp.1 hstop⟩
  · obtain ⟨⟨content, hread, htext⟩, rfl⟩ := hfails
    simp only [readSource, stopped_currentDisk_bind, hread, stopped_pure_bind, htext]
    exact stopped_fail.2 rfl

theorem failsWhere_readSources {s : Settings} {p : Project} {files : List Path}
    (hfiles : p.sources = .found files) :
    FailsWhere (readSources s p) fun d e => ∃ before file after, files = before ++ file :: after ∧
      (∀ f ∈ before, ∃ roots, HoldsRoots d f roots) ∧ HoldsNoText d file ∧ e = .notText := by
  unfold readSources
  refine FailsWhere.log_bind ?_ _ _
  rw [hfiles]
  exact (failsWhere_forEach_same (does_readSource s p) (failsWhere_readSource s p) files).bind_pure _

theorem failsWhere_gatherImports (p : Project) : FailsWhere (gatherImports p) fun _ _ => False := by
  unfold gatherImports
  refine ((failsWhere_forEach (E := fun _ _ _ => False) (does_forEach_map
    (g := fun (e : Path × List Element) => Imports.split e.2) ?_) ?_ p.parsed).bind_pure _).congr ?_
  · intro e w split d'
    simp only [completes_log_bind]
    exact completes_pure
  · intro e
    refine FailsWhere.log_bind ?_ _ _
    refine FailsWhere.log_bind ?_ _ _
    exact failsWhere_pure _
  · intro d e
    simp

theorem stopped_logEvents_bind {events : List Compile.Event} {f : Unit → Run β} {w : World}
    {st : Stop} : Stopped (logEvents events >>= f) w st ↔
      Stopped (f ()) { w with log := w.log ++ events.map showEvent } st :=
  Iff.rfl

/-- Elements cannot be compiled. -/
inductive CompileFails (platform : Platform) (o : Options) (elements : List Element) : Failure → Prop
  | stack {n : Nat} : platform.stackFullAt elements = some n →
      CompileFails platform o elements .stack
  | numeral {err : Text.NumeralTooLong} : platform.stackFullAt elements = none →
      (Compile.compile o elements).result = .error err →
      CompileFails platform o elements (.numeral err)

theorem CompileFails.not_compiles {platform : Platform} {o : Options} {elements : List Element}
    {e : Failure} {r : Result} (h : CompileFails platform o elements e) :
    ¬platform.Compiles o elements r := by
  rintro ⟨hstack, hwidgets, -⟩
  cases h with
  | stack hfull => cases hstack.symm.trans hfull
  | numeral _ herr => cases hwidgets.symm.trans herr

theorem failsWhere_compileAlone (platform : Platform) (o : Options) (file : Path)
    (elements : List Element) :
    FailsWhere (compileAlone platform o file elements) fun _ e =>
      CompileFails platform o elements e := by
  simp only [compileAlone]
  cases hstack : platform.stackFullAt elements with
  | some n =>
    refine .of (fun w st hstop => ?_) (fun w e hfails => ?_)
    · rw [stopped_logEvents_bind, stopped_fail] at hstop
      exact Or.inr ⟨_, hstop, .stack hstack⟩
    · cases hfails with
      | stack _ => exact stopped_logEvents_bind.2 (stopped_fail.2 rfl)
      | numeral hnone _ => cases hstack.symm.trans hnone
  | none =>
    refine .of (fun w st hstop => ?_) (fun w e hfails => ?_)
    · simp only [stopped_logEvents_bind, stopped_orFail_bind, stopped_log_bind, not_stopped_pure,
        and_false, exists_false, or_false] at hstop
      obtain ⟨err, herr, rfl⟩ := hstop
      exact Or.inr ⟨_, rfl, .numeral hstack herr⟩
    · cases hfails with
      | stack hfull => cases hstack.symm.trans hfull
      | numeral _ herr =>
        simp only [stopped_logEvents_bind, stopped_orFail_bind]
        exact Or.inl ⟨_, herr, rfl⟩

theorem failsWhere_compileSources (platform : Platform) (p : Project) :
    FailsWhere (compileSources platform p) fun _ e => ∃ before x after,
      p.parsed = before ++ x :: after ∧
      (∀ y ∈ before, ∃ r, platform.Compiles (p.options.getD {}) y.2 r) ∧
      CompileFails platform (p.options.getD {}) x.2 e := by
  have hdoes : ∀ e : Path × List Element,
      Does (compileAlone platform (p.options.getD {}) e.1 e.2)
        fun d r d' => platform.Compiles (p.options.getD {}) e.2 r ∧ d' = d :=
    fun e => does_compileAlone _ _ _ _
  have hfails : ∀ e : Path × List Element,
      FailsWhere (compileAlone platform (p.options.getD {}) e.1 e.2) fun _ f =>
        CompileFails platform (p.options.getD {}) e.2 f :=
    fun e => failsWhere_compileAlone _ _ _ _
  rw [compileSources_eq]
  refine FailsWhere.log_bind ?_ _ _
  exact (failsWhere_forEach_same hdoes hfails p.parsed).bind_pure _

theorem failsWhere_writeFile (s : Settings) (p : Project) (file : Path) (content : ByteArray) :
    FailsWhere (writeFile s p file content) fun _ e =>
      file.text.toList.contains '\x00' = true ∧ e = .disk .nullCharacter := by
  refine .of (fun w st hstop => ?_) (fun w e hfails => ?_)
  · simp only [writeFile, stopped_currentDisk_bind] at hstop
    cases hwrite : w.disk.write file content with
    | ok d =>
      rw [hwrite] at hstop
      exact absurd hstop (stopped_setDisk_bind.trans (iff_of_false not_stopped_pure id)).1
    | error err =>
      rw [hwrite] at hstop
      cases err with
      | nullCharacter =>
        exact Or.inr ⟨_, stopped_fail.1 hstop, Disk.write_eq_nullCharacter_iff.1 hwrite, rfl⟩
      | _ => exact Or.inl ⟨_, stopped_giveUp.1 hstop⟩
  · obtain ⟨hnull, rfl⟩ := hfails
    have hwrite : w.disk.write file content = .error .nullCharacter :=
      Disk.write_eq_nullCharacter_iff.2 hnull
    simp only [writeFile, stopped_currentDisk_bind, hwrite]
    exact stopped_fail.2 rfl

/-- A document cannot be written to a path. -/
inductive WriteFails (platform : Platform) (encodes : Bool) (doc : Json) (path : Path) (d : Disk) :
    Failure → Prop
  | stack : platform.stackFullFor doc = true → WriteFails platform encodes doc path d .stack
  | path : platform.stackFullFor doc = false → path.text.toList.contains '\x00' = true →
      WriteFails platform encodes doc path d (.disk .nullCharacter)
  | encoding : platform.stackFullFor doc = false → encodes = false → d.CanWrite path →
      WriteFails platform encodes doc path d .encoding

theorem WriteFails.of_sameFolders {platform : Platform} {encodes : Bool} {doc : Json} {path : Path}
    {d d' : Disk} {e : Failure} (hsame : Disk.SameFolders d d')
    (h : WriteFails platform encodes doc path d e) : WriteFails platform encodes doc path d' e := by
  cases h with
  | stack hfull => exact .stack hfull
  | path hroom hnull => exact .path hroom hnull
  | encoding hroom hencodes hwrite => exact .encoding hroom hencodes (hsame.canWrite hwrite)

theorem failsWhere_writeResult {platform : Platform} {s : Settings} {p : Project} {output : Path}
    (houtput : p.outputFolder = some output) (source : Path) (r : Result) :
    FailsWhere (writeResult platform s p source r) fun d e =>
      WriteFails platform (r.encodes (p.options.getD {}) p.encodesText)
        (document source ((p.imports.lookup source).getD []) r) (outputPath s output source) d e := by
  rw [writeResult_eq houtput]
  generalize document source ((p.imports.lookup source).getD []) r = doc
  generalize outputPath s output source = path
  cases hfull : platform.stackFullFor doc with
  | true =>
    refine (failsWhere_fail .stack).congr fun d e => ⟨?_, ?_⟩
    · rintro rfl
      exact .stack hfull
    · rintro (_ | hroom | hroom)
      · rfl
      · cases hfull.symm.trans hroom
      · cases hfull.symm.trans hroom
  | false =>
    cases hencodes : r.encodes (p.options.getD {}) p.encodesText with
    | true =>
      have hlog : ∀ _ : Unit, FailsWhere (do log 2 ("Wrote " ++ path.text); return path)
          fun _ _ => False := by
        intro _
        refine FailsWhere.log_bind ?_ _ _
        exact failsWhere_pure path
      refine ((failsWhere_writeFile s p path _).bind_never hlog).congr fun d e => ⟨?_, ?_⟩
      · rintro ⟨hnull, rfl⟩
        exact .path hfull hnull
      · rintro (h | ⟨_, hnull⟩ | ⟨_, h, _⟩)
        · cases hfull.symm.trans h
        · exact ⟨hnull, rfl⟩
        · cases h
    | false =>
      refine ((failsWhere_writeFile s p path .empty).bind (does_writeFile s p path .empty)
        fun _ => failsWhere_fail .encoding).congr fun d e => ⟨?_, ?_⟩
      · rintro (⟨hnull, rfl⟩ | ⟨_, d₁, hwrite, rfl⟩)
        · exact .path hfull hnull
        · obtain ⟨l, htarget, hfolder, -⟩ := Disk.write_eq_ok_iff.1 hwrite
          exact .encoding hfull rfl ⟨l, htarget, hfolder⟩
      · rintro (h | ⟨_, hnull⟩ | ⟨_, _, l, htarget, hfolder⟩)
        · cases hfull.symm.trans h
        · exact Or.inl ⟨hnull, rfl⟩
        · exact Or.inr ⟨(), _, Disk.write_eq_ok_iff.2 ⟨l, htarget, hfolder, rfl⟩, rfl⟩

theorem failsWhere_writeResults {platform : Platform} {s : Settings} {p : Project} {output : Path}
    (houtput : p.outputFolder = some output) :
    FailsWhere (writeResults platform s p) fun d e => ∃ before x after,
      p.results = before ++ x :: after ∧ ∃ d',
        ((∀ y ∈ before, platform.Renders (p.options.getD {}) p.encodesText
            (document y.1 ((p.imports.lookup y.1).getD []) y.2) y.2) ∧
          Disk.Writes d (before.map fun e => (outputPath s output e.1,
            jsonBytes s (document e.1 ((p.imports.lookup e.1).getD []) e.2))) d') ∧
        WriteFails platform (x.2.encodes (p.options.getD {}) p.encodesText)
          (document x.1 ((p.imports.lookup x.1).getD []) x.2) (outputPath s output x.1) d' e := by
  have hdoes := does_forEach_write _ (fun e : Path × Result => outputPath s output e.1)
    (fun e => jsonBytes s (document e.1 ((p.imports.lookup e.1).getD []) e.2))
    (fun e => does_writeResult platform (s := s) houtput e.1 e.2)
  have hfails : ∀ e : Path × Result, FailsWhere (writeResult platform s p e.1 e.2) _ :=
    fun e => failsWhere_writeResult houtput e.1 e.2
  refine ((failsWhere_forEach hdoes hfails p.results).bind_pure _).congr fun d e => ?_
  refine exists_congr fun before => exists_congr fun x => exists_congr fun after =>
    and_congr_right fun _ => ?_
  constructor
  · rintro ⟨r, d', ⟨hwrites, -⟩, hfail⟩
    exact ⟨d', hwrites, hfail⟩
  · rintro ⟨d', hwrites, hfail⟩
    exact ⟨_, d', ⟨hwrites, rfl⟩, hfail⟩

theorem not_stopped_forM_complain (lines : List String) (w : World) (st : Stop) :
    ¬Stopped (lines.forM complain : Run PUnit) w st := by
  have hrun : ∃ w', (lines.forM complain : Run PUnit).run w = (.ok ⟨⟩, w') := by
    induction lines generalizing w with
    | nil => exact ⟨w, rfl⟩
    | cons line lines ih =>
      obtain ⟨w', hw'⟩ := ih { w with errors := w.errors ++ [line] }
      exact ⟨w', hw'⟩
  obtain ⟨w', hw'⟩ := hrun
  rintro ⟨w₁, hstop⟩
  rw [hw'] at hstop
  cases hstop

theorem failsWhere_report (s : Settings) (p : Project) :
    FailsWhere (report s p) fun _ _ => False := by
  refine .of (fun w st hstop => ?_) (fun w e hfails => hfails.elim)
  simp only [report, stopped_ite, refuse_bind, stopped_refuse] at hstop
  rcases hstop with ⟨-, rfl⟩ | ⟨-, hstop⟩
  · exact Or.inl ⟨false, rfl⟩
  · rcases stopped_bind.1 hstop with hstop | ⟨_, w₁, -, hstop⟩
    · exact absurd hstop (not_stopped_forM_complain _ _ _)
    · simp only [stopped_log_bind, stopped_ite, stopped_refuse] at hstop
      rcases hstop with ⟨-, rfl⟩ | ⟨-, hstop⟩
      · exact Or.inl ⟨false, rfl⟩
      · exact absurd hstop not_stopped_pure

/-- What goes wrong once sources have been found, given where options are expected. The options come
first, then the sources one after the other, then the widgets of each of them; and when everything is
compiled, the documents are written one after the other. -/
inductive SourcesFail (platform : Platform) (s : Settings) (output optionsFile : Path)
    (files : List Path) (d : Disk) : Failure → Prop
  | options {err : Options.LoadFailure} : platform.load d optionsFile = .error (.failure err) →
      SourcesFail platform s output optionsFile files d (.options err)
  | notText {l : LoadedOptions} {before after : List Path} {file : Path} :
      platform.load d optionsFile = .ok l → files = before ++ file :: after →
      (∀ f ∈ before, ∃ roots, HoldsRoots d f roots) → HoldsNoText d file →
      SourcesFail platform s output optionsFile files d .notText
  | compiling {l : LoadedOptions} {before after : List Path} {file : Path} {roots : List Element}
      {e : Failure} :
      platform.load d optionsFile = .ok l → (∀ f ∈ files, ∃ roots, HoldsRoots d f roots) →
      files = before ++ file :: after →
      (∀ f ∈ before, ∃ r doc, platform.MakesDocument d l.options f r doc) →
      HoldsRoots d file roots →
      CompileFails platform l.options (Imports.split roots).elements e →
      SourcesFail platform s output optionsFile files d e
  | writing {l : LoadedOptions} {before after : List Path} {file : Path} {r : Result} {doc : Json}
      {e : Failure} :
      platform.load d optionsFile = .ok l →
      (∀ f ∈ files, ∃ r doc, platform.MakesDocument d l.options f r doc) →
      files = before ++ file :: after →
      (∀ f ∈ before, (∃ r doc, platform.MakesDocument d l.options f r doc ∧
        platform.Renders l.options l.encodesText doc r) ∧ d.CanWrite (outputPath s output f)) →
      platform.MakesDocument d l.options file r doc →
      WriteFails platform (r.encodes l.options l.encodesText) doc (outputPath s output file) d e →
      SourcesFail platform s output optionsFile files d e

section Sources

variable {platform : Platform} {s : Settings} {output optionsFile : Path} {files : List Path}
  {d : Disk} {l : LoadedOptions} {parsed : List (Path × List Element)} {e : Failure}

/-- The first source whose widgets cannot be given, found among the sources that have been read. -/
theorem SourcesFail.of_parsed {before after : List (Path × List Element)}
    {x : Path × List Element} (hload : platform.load d optionsFile = .ok l)
    (hmap : parsed.map (·.1) = files) (hparsed : ∀ e ∈ parsed, HoldsRoots d e.1 e.2)
    (hsplit : parsed.map (fun e => (e.1, (Imports.split e.2).elements)) = before ++ x :: after)
    (hbefore : ∀ y ∈ before, ∃ r, platform.Compiles l.options y.2 r)
    (hfail : CompileFails platform l.options x.2 e) :
    SourcesFail platform s output optionsFile files d e := by
  obtain ⟨first, rest, rfl, rfl, hrest⟩ := List.map_eq_append_iff.1 hsplit
  obtain ⟨y, last, rfl, rfl, rfl⟩ := List.map_eq_cons_iff.1 hrest
  rw [List.map_append, List.map_cons] at hmap
  refine .compiling hload ?_ hmap.symm ?_ (hparsed y (by simp)) hfail
  · rw [← hmap, ← List.map_cons, ← List.map_append, List.forall_mem_map]
    exact fun e he => ⟨e.2, hparsed e he⟩
  · rw [List.forall_mem_map] at hbefore ⊢
    intro e he
    obtain ⟨r, hr⟩ := hbefore e he
    exact ⟨r, _, e.2, hparsed e (List.mem_append_left _ he), hr, rfl⟩

/-- The first document that cannot be written, found among those that have been made. -/
theorem SourcesFail.of_compiled {compiled : List ((Path × List Element) × Result)}
    {before after : List (Path × Result)} {x : Path × Result} {d' : Disk} {doc : Path × Result → Json}
    (hload : platform.load d optionsFile = .ok l)
    (hsources : (compiled.map fun e => (e.1.1, e.2)).map (·.1) = files)
    (hdocs : ∀ c ∈ compiled.map fun e => (e.1.1, e.2),
      platform.MakesDocument d l.options c.1 c.2 (doc c))
    (hsplit : compiled.map (fun e => (e.1.1, e.2)) = before ++ x :: after)
    (hbefore : ∀ y ∈ before, platform.Renders l.options l.encodesText (doc y) y.2)
    (hwrites : Disk.Writes d (before.map fun e => (outputPath s output e.1, jsonBytes s (doc e))) d')
    (hfail : WriteFails platform (x.2.encodes l.options l.encodesText) (doc x)
      (outputPath s output x.1) d' e) :
    SourcesFail platform s output optionsFile files d e := by
  rw [hsplit] at hsources hdocs
  have hfiles : files = before.map (·.1) ++ x.1 :: after.map (·.1) := by
    rw [← hsources, List.map_append, List.map_cons]
  have hcan := hwrites.canWrite
  simp only [List.forall_mem_map] at hcan
  refine .writing hload ?_ hfiles ?_ (hdocs x (by simp))
    (hfail.of_sameFolders hwrites.sameFolders.symm)
  · rw [← hsources, List.forall_mem_map]
    exact fun c hc => ⟨_, _, hdocs c hc⟩
  · rw [List.forall_mem_map]
    intro y hy
    exact ⟨⟨_, _, hdocs y (List.mem_append_left _ hy), hbefore y hy⟩, hcan y hy⟩

/-- Sources that are split at one of them have been read so far, and the others are compiled. -/
theorem exists_parsed_split {before after : List Path} {file : Path} {roots : List Element}
    (hroots : ∀ f ∈ files, ∃ roots, HoldsRoots d f roots) (hsplit : files = before ++ file :: after)
    (hbefore : ∀ f ∈ before, ∃ r doc, platform.MakesDocument d l.options f r doc)
    (hfile : HoldsRoots d file roots) :
    ∃ first last, (first ++ (file, roots) :: last).map (·.1) = files ∧
      (∀ e ∈ first ++ (file, roots) :: last, HoldsRoots d e.1 e.2) ∧
      ∀ e ∈ first, ∃ r, platform.Compiles l.options (Imports.split e.2).elements r := by
  obtain ⟨parsed, hmap, hparsed⟩ := exists_pairs hroots
  obtain ⟨first, rest, rfl, hfirst, hrest⟩ := List.map_eq_append_iff.1 (hmap.trans hsplit)
  obtain ⟨y, last, rfl, rfl, -⟩ := List.map_eq_cons_iff.1 hrest
  obtain rfl := hfile.unique (hparsed y (by simp))
  refine ⟨first, last, hmap, hparsed, fun e he => ?_⟩
  obtain ⟨r, doc, roots, hroots, hr, -⟩ := hbefore e.1 (hfirst ▸ List.mem_map_of_mem he)
  obtain rfl := hroots.unique (hparsed e (List.mem_append_left _ he))
  exact ⟨r, hr⟩

/-- Results that are split at a source. -/
theorem exists_results_split {results : List (Path × Result)} {before after : List Path}
    {file : Path} {r : Result} {doc : Json} {documentOf : Path × Result → Json}
    (hmakes : ∀ e ∈ results, platform.MakesDocument d l.options e.1 e.2 (documentOf e))
    (hsources : results.map (·.1) = before ++ file :: after)
    (hdoc : platform.MakesDocument d l.options file r doc) :
    ∃ first last, results = first ++ (file, r) :: last ∧ documentOf (file, r) = doc ∧
      first.map (·.1) = before := by
  obtain ⟨first, rest, rfl, rfl, hrest⟩ := List.map_eq_append_iff.1 hsources
  obtain ⟨⟨_, r'⟩, last, rfl, rfl, -⟩ := List.map_eq_cons_iff.1 hrest
  obtain ⟨rfl, rfl⟩ := hdoc.unique (hmakes _ (by simp))
  exact ⟨first, last, rfl, rfl, rfl⟩

end Sources

/-- The stages after the look-up. -/
def sourceStages : List Stage :=
  [.loadOptions, .readSources, .gatherImports, .compileSources, .writeResults, .report]

theorem failsWhere_sourceStages {platform : Platform} {s : Settings} {p : Project}
    {input output : Path} {files : List Path} (hinput : p.inputFolder = some input)
    (houtput : p.outputFolder = some output) (hfiles : p.sources = .found files) :
    FailsWhere (runStages platform s sourceStages p) (SourcesFail platform s output
      (input.join (.ofString (orElseText p.optionsFile s.optionsFile))) files) := by
  simp only [sourceStages, runStages, Stage.run, bind_pure]
  apply FailsWhere.congr
  · apply (failsWhere_loadOptions hinput).bind_exists_same (does_loadOptions hinput)
    intro l
    apply (failsWhere_readSources (by exact hfiles)).bind_exists_same
      (does_readSources (by exact hfiles))
    intro parsed
    apply (failsWhere_gatherImports _).bind_eq (does_gatherImports _)
    apply (failsWhere_compileSources _ _).bind_exists_same (does_compileSources _ _)
    intro compiled
    exact (failsWhere_writeResults (by exact houtput)).bind_never fun _ => failsWhere_report _ _
  · intro d e
    constructor
    · rintro (⟨err, hload, rfl⟩ | ⟨l, hload, hrest⟩)
      · exact .options hload
      · rcases hrest with ⟨before, file, after, hsplit, hbefore, hfile, rfl⟩ |
          ⟨parsed, ⟨hmap, hparsed⟩, hrest⟩
        · exact .notText hload hsplit hbefore hfile
        · rcases hrest with ⟨before, x, after, hsplit, hbefore, hfail⟩ |
            ⟨compiled, ⟨hcompiled, hresults⟩, hrest⟩
          · exact .of_parsed hload hmap hparsed hsplit hbefore hfail
          · obtain ⟨before, x, after, hsplit, d', ⟨hbefore, hwrites⟩, hfail⟩ := hrest
            exact .of_compiled hload ((sources_compiled hcompiled).trans hmap)
              (makesDocument_compiled hcompiled hparsed hresults) hsplit hbefore hwrites hfail
    · intro h
      cases h with
      | options hload => exact Or.inl ⟨_, hload, rfl⟩
      | notText hload hsplit hbefore hfile =>
        exact Or.inr ⟨_, hload, Or.inl ⟨_, _, _, hsplit, hbefore, hfile, rfl⟩⟩
      | compiling hload hroots hsplit hbefore hfile hfail =>
        obtain ⟨first, last, hmap, hparsed, hfirst⟩ :=
          exists_parsed_split hroots hsplit hbefore hfile
        refine Or.inr ⟨_, hload, Or.inr ⟨_, ⟨hmap, hparsed⟩, Or.inl ⟨_, _, _,
          List.map_append.trans (congrArg _ List.map_cons), ?_, hfail⟩⟩⟩
        rw [List.forall_mem_map]
        exact hfirst
      | writing hload hdocs hsplit hbefore hdoc hfail =>
        obtain ⟨parsed, compiled, hmap, hparsed, hcompiled, hresults⟩ := exists_compiled hdocs
        have hmakes := makesDocument_compiled hcompiled hparsed hresults
        obtain ⟨first, last, hresultsSplit, rfl, rfl⟩ := exists_results_split hmakes
          ((sources_compiled hcompiled).trans (hmap.trans hsplit)) hdoc
        have hfirst := fun e he => hmakes e (hresultsSplit ▸ List.mem_append_left _ he)
        obtain ⟨hrenders, d', hwrites⟩ := exists_written s output hfirst fun e he =>
          hbefore e.1 (List.mem_map_of_mem he)
        exact Or.inr ⟨_, hload, Or.inr ⟨parsed, ⟨hmap, hparsed⟩, Or.inr ⟨compiled,
          ⟨hcompiled, hresults⟩, first, _, last, hresultsSplit, d', ⟨hrenders, hwrites⟩,
          hfail.of_sameFolders hwrites.sameFolders⟩⟩⟩

/-- A build fails in the look-up, or after it with the sources that have been found. -/
theorem failsWhere_build {platform : Platform} {s : Settings} {p : Project} {input output : Path}
    (hinput : p.inputFolder = some input) (houtput : p.outputFolder = some output) :
    FailsWhere (build platform s p) fun d e =>
      LookupFails (orElseText p.inputPattern s.inputPattern) input output d e ∨
      ∃ files d₁, (d.isFolder input = .ok true ∧
        (∃ pattern, Pattern.ofString (orElseText p.inputPattern s.inputPattern) = .ok pattern ∧
          Pattern.files d pattern input = .ok files) ∧
        files ≠ [] ∧ d.ensureFolders output = .ok d₁) ∧
      SourcesFail platform s output
        (input.join (.ofString (orElseText p.optionsFile s.optionsFile))) files d₁ e := by
  refine (failsWhere_check hinput houtput).bind_exists (does_check hinput houtput) fun files => ?_
  exact failsWhere_sourceStages hinput houtput rfl

end WidgetMarkup.Build
