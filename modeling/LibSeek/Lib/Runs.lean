/-
Runs of a machine.

A machine acts on a state, one step after the other.  Where what a step does is only right under a
condition on the state it finds, what is said of a run is said of the runs whose every step meets the
condition.

Main definitions:

* `Lib.EveryStep` — **the runs whose every step meets a condition**.

Main results:

* `Lib.EveryStep.append` — the first steps of such a run, and the later ones;
* `Lib.EveryStep.invariant` — what every such step preserves, such a run preserves;
* `Lib.EveryStep.foldl_eq` — where every such step does what another machine does, so does the run.
-/

import Mathlib.Logic.Basic

set_option relaxedAutoImplicit false
set_option autoImplicit false

namespace LibSeek.Lib

variable {σ τ : Type} {act : σ → τ → σ} {p : σ → τ → Prop}

/-- **Every step of a run meets a condition** on the state it finds. -/
def EveryStep (act : σ → τ → σ) (p : σ → τ → Prop) : σ → List τ → Prop
  | _, [] => True
  | s, t :: ts => p s t ∧ EveryStep act p (act s t) ts

instance EveryStep.decidable (act : σ → τ → σ) (p : σ → τ → Prop) [∀ s t, Decidable (p s t)] :
    ∀ s ts, Decidable (EveryStep act p s ts)
  | _, [] => inferInstanceAs (Decidable True)
  | s, t :: ts =>
      have := EveryStep.decidable act p (act s t) ts
      inferInstanceAs (Decidable (p s t ∧ EveryStep act p (act s t) ts))

/-- The first steps of a run whose every step meets a condition, and the later ones. -/
theorem EveryStep.append {ts later : List τ} {s : σ} :
    EveryStep act p s (ts ++ later) ↔
      EveryStep act p s ts ∧ EveryStep act p (ts.foldl act s) later := by
  induction ts generalizing s with
  | nil => exact ⟨fun h => ⟨trivial, h⟩, fun h => h.2⟩
  | cons t ts ih => exact (and_congr_right fun _ => ih).trans and_assoc.symm

/-- A condition that is none is met by every step. -/
theorem everyStep_true (ts : List τ) (s : σ) : EveryStep act (fun _ _ => True) s ts := by
  induction ts generalizing s with
  | nil => trivial
  | cons t ts ih => exact ⟨trivial, ih (act s t)⟩

/-- A run whose every step meets a condition, under an assumption. -/
theorem everyStep_imp {a : Prop} {ts : List τ} {s : σ} (h : a → EveryStep act p s ts) :
    EveryStep act (fun s t => a → p s t) s ts := by
  induction ts generalizing s with
  | nil => trivial
  | cons t ts ih => exact ⟨fun ha => (h ha).1, ih fun ha => (h ha).2⟩

/-- **What every step preserves that meets the condition** is preserved by the run. -/
theorem EveryStep.invariant {P : σ → Prop} {ts : List τ} {s : σ} (h : EveryStep act p s ts)
    (hs : P s) (hstep : ∀ s t, p s t → P s → P (act s t)) : P (ts.foldl act s) := by
  induction ts generalizing s with
  | nil => exact hs
  | cons t ts ih => exact ih h.2 (hstep s t h.1 hs)

/-- **Where every step that meets the condition does what another machine does**, on what it sees of
the state, so does the run. -/
theorem EveryStep.foldl_eq {α : Type} {ts : List τ} {s : σ} (h : EveryStep act p s ts)
    (view : σ → α) (act' : α → τ → α) (hstep : ∀ s t, p s t → view (act s t) = act' (view s) t) :
    view (ts.foldl act s) = ts.foldl act' (view s) := by
  induction ts generalizing s with
  | nil => rfl
  | cons t ts ih => exact (ih h.2).trans (congrArg (ts.foldl act') (hstep s t h.1))

end LibSeek.Lib
