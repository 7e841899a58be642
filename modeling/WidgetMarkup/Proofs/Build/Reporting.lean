import WidgetMarkup.Proofs.Build.Completion

/-!
# Runs that report in different ways

Verbosity, debug mode and strict mode say what a run tells about itself. Two runs that differ in
nothing else go side by side: up to the report they do the same to the world step by step, that is to
the disk, to the log with all its levels, and to the lines that are printed, and they stop at the same
place. Only the trace that comes with an exit may differ. The report itself differs in one line and in
how it ends, and only if a strict run has found diagnostics.
-/
namespace WidgetMarkup

namespace Build

/-- A stop without the trace that comes with it. -/
def Stop.plain : Stop → Stop
  | .exit status _ => .exit status false
  | .failure e => .failure e

section Parallel

variable {α β γ δ : Type}

/-- Two runs come to related values, or they stop in ways that differ in the trace only. -/
inductive SameEnd (R : α → β → Prop) : Except Stop α → Except Stop β → Prop
  | ok {a : α} {b : β} : R a b → SameEnd R (.ok a) (.ok b)
  | error {e e' : Stop} : e'.plain = e.plain → SameEnd R (.error e) (.error e')

/-- Two runs leave the same world and come to the same end, wherever they start. -/
def Parallel (R : α → β → Prop) (x : Run α) (y : Run β) : Prop :=
  ∀ w, (y.run w).2 = (x.run w).2 ∧ SameEnd R (x.run w).1 (y.run w).1

variable {R : α → β → Prop} {S : γ → δ → Prop} {x : Run α} {y : Run β}

theorem Parallel.bind {f : α → Run γ} {g : β → Run δ} (h : Parallel R x y)
    (hfg : ∀ a b, R a b → Parallel S (f a) (g b)) : Parallel S (x >>= f) (y >>= g) := by
  intro w
  obtain ⟨hworld, hend⟩ := h w
  rcases hx : x.run w with ⟨r, w₁⟩
  rcases hy : y.run w with ⟨r', w₂⟩
  rw [hx, hy] at hworld hend
  cases hworld
  cases hend with
  | ok hab =>
    rw [run_bind_ok hx, run_bind_ok hy]
    exact hfg _ _ hab w₁
  | error hstop =>
    rw [run_bind_error hx, run_bind_error hy]
    exact ⟨rfl, .error hstop⟩

theorem Completes.unique {x : Run α} {w : World} {a b : α} {d d' : Disk}
    (h : Completes x w a d) (h' : Completes x w b d') : a = b := by
  obtain ⟨w₁, hrun, -⟩ := h
  obtain ⟨w₂, hrun', -⟩ := h'
  rw [hrun] at hrun'
  cases hrun'
  rfl

end Parallel

section Stages

variable (platform : Platform) (s : Settings) (debug strict : Bool) (p : Project) (v : Int)

end Stages

end Build

end WidgetMarkup
