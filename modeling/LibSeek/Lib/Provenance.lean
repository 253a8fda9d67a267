/-
Where a kept secret comes from.

A state has an identity and may carry a secret, and an event may supply one.  An event that
supplies no secret keeps the old one only if it leaves the identity as it is.  Then a secret that
is there was supplied by an event after which the identity never changed, whatever else the events
did in between.

Main definitions:

* `Lib.Trail` — a run of events, with the state after each;
* `Lib.Guarded` — an event that keeps a secret only with its identity;
* `Lib.SuppliedSince` — the secret was supplied, and the identity is the same ever since.

Main results:

* `Lib.Trail.suppliedSince` — **a secret that is there was supplied for the identity that is there**;
* `Lib.foldl_brought` — what a run ends with and did not begin with, one of its events brought;
* `Lib.foldl_since` — and one of them brought it for good.
-/

import Mathlib.Data.List.Basic
import Mathlib.Data.List.Induction

set_option relaxedAutoImplicit false
set_option autoImplicit false

namespace LibSeek.Lib

variable {γ ε ι σ : Type*}

/-- The runs of events from a state: the events in order, each with the state after it, and the
state at the end. -/
inductive Trail (step : γ → ε → γ → Prop) (start : γ) : List (ε × γ) → γ → Prop where
  | nil : Trail step start [] start
  | snoc {history : List (ε × γ)} {g g' : γ} {e : ε} (before : Trail step start history g)
      (last : step g e g') : Trail step start (history ++ [(e, g')]) g'

/-- What every step preserves holds at the end of every run. -/
theorem Trail.invariant {step : γ → ε → γ → Prop} {start g : γ} {history : List (ε × γ)}
    {P : γ → Prop} (h : Trail step start history g) (hstart : P start)
    (hstep : ∀ g e g', P g → step g e g' → P g') : P g := by
  induction h with
  | nil => exact hstart
  | snoc _ hlast ih => exact hstep _ _ _ ih hlast

section Secrets

variable (identity : γ → ι) (secret : γ → Option σ) (supplied : ε → Option σ)

/-- An event after which a secret is either the one that it supplied or the old one of the same
identity. -/
def Guarded (g : γ) (e : ε) (g' : γ) : Prop :=
  ∀ k, secret g' = some k → supplied e = some k ∨ (secret g = some k ∧ identity g = identity g')

/-- A secret was supplied by an event that left an identity, and every later event left the same
one. -/
def SuppliedSince (history : List (ε × γ)) (i : ι) (k : σ) : Prop :=
  ∃ earlier event later, history = earlier ++ event :: later ∧ supplied event.1 = some k ∧
    identity event.2 = i ∧ ∀ e ∈ later, identity e.2 = i

variable {identity secret supplied}

/-- An event that leaves the identity as it is changes nothing of where the secret comes from. -/
theorem SuppliedSince.snoc {history : List (ε × γ)} {i : ι} {k : σ} {e : ε × γ}
    (h : SuppliedSince identity supplied history i k) (he : identity e.2 = i) :
    SuppliedSince identity supplied (history ++ [e]) i k := by
  obtain ⟨earlier, event, later, rfl, hsupplied, hevent, hlater⟩ := h
  refine ⟨earlier, event, later ++ [e], ?_, hsupplied, hevent, ?_⟩
  · rw [List.append_assoc, List.cons_append]
  · intro e' he'
    rcases List.mem_append.mp he' with he' | he'
    · exact hlater e' he'
    · rwa [List.mem_singleton.mp he']

/-- **A secret that is there was supplied for the identity that is there**: in a run of guarded
events from a state without a secret. -/
theorem Trail.suppliedSince {step : γ → ε → γ → Prop} {start g : γ} {history : List (ε × γ)}
    (h : Trail step start history g) (hstart : secret start = none)
    (hstep : ∀ g e g', step g e g' → Guarded identity secret supplied g e g') {k : σ}
    (hk : secret g = some k) : SuppliedSince identity supplied history (identity g) k := by
  induction h with
  | nil =>
      rw [hstart] at hk
      cases hk
  | snoc _ hlast ih =>
      rcases hstep _ _ _ hlast k hk with hnew | ⟨hold, hsame⟩
      · exact ⟨_, _, [], rfl, hnew, rfl, fun e he => absurd he List.not_mem_nil⟩
      · rw [← hsame]
        exact (ih hold).snoc hsame.symm

end Secrets

/-! ### The event that brought it -/

/-- **What a run ends with and did not begin with, one of its events brought.** -/
theorem foldl_brought (step : γ → ε → γ) {P : γ → Prop} {start : γ} {events : List ε}
    (hstart : ¬ P start) (h : P (events.foldl step start)) :
    ∃ earlier event later, events = earlier ++ event :: later ∧ ¬ P (earlier.foldl step start) ∧
      P (step (earlier.foldl step start) event) := by
  induction events generalizing start with
  | nil => exact absurd h hstart
  | cons e events ih =>
      by_cases hnow : P (step start e)
      · exact ⟨[], e, events, rfl, hstart, hnow⟩
      · obtain ⟨earlier, event, later, rfl, hbefore, hafter⟩ := ih hnow h
        exact ⟨e :: earlier, event, later, rfl, hbefore, hafter⟩

/-- **What a run ends with and did not begin with, one of its events brought for good**: it held
after that event, and after every later one. -/
theorem foldl_since (step : γ → ε → γ) {P : γ → Prop} {start : γ} {events : List ε}
    (hstart : ¬ P start) (h : P (events.foldl step start)) :
    ∃ earlier event later, events = earlier ++ event :: later ∧ ¬ P (earlier.foldl step start) ∧
      ∀ between, between <+: later → P ((earlier ++ event :: between).foldl step start) := by
  induction events using List.reverseRecOn with
  | nil => exact absurd h hstart
  | append_singleton events last ih =>
      by_cases hbefore : P (events.foldl step start)
      · obtain ⟨earlier, event, later, rfl, hnot, hsince⟩ := ih hbefore
        refine ⟨earlier, event, later ++ [last], by simp, hnot, fun between hbetween => ?_⟩
        rcases List.prefix_concat_iff.mp hbetween with rfl | hbetween
        · rwa [← List.cons_append, ← List.append_assoc]
        · exact hsince between hbetween
      · refine ⟨events, last, [], rfl, hbefore, fun between hbetween => ?_⟩
        rwa [List.prefix_nil.mp hbetween]

end LibSeek.Lib
