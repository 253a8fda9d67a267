/-
Chains of requests.

A client looks at a request, sends it, and either is done or is told to go on with another one; it
goes on a bounded number of times.  What it sends is the chain.  Facts about every request of a
chain, and about every two requests that follow each other, are facts about one hop.

Main definitions:

* `Lib.OnlyRaises` — what a computation can raise;
* `Lib.follow` — the chain of requests that are sent, and what it ends with.

Main results:

* `Lib.length_follow` — a chain is not longer than the bound;
* `Lib.follow_forall`, `Lib.follow_isChain` — **what every hop preserves holds along the chain**;
* `Lib.onlyRaises_follow` — what a chain can end with that is no answer.
-/

import LibSeek.Lib.Transaction
import Mathlib.Data.List.Chain

set_option relaxedAutoImplicit false
set_option autoImplicit false

namespace LibSeek.Lib

/-! ### What can be raised -/

section Errors

variable {ε α β : Type} {P : ε → Prop}

/-- A computation that raises nothing but errors of a kind. -/
def OnlyRaises (P : ε → Prop) (x : Except ε α) : Prop :=
  ∀ e, x = .error e → P e

theorem OnlyRaises.mono {Q : ε → Prop} {x : Except ε α} (h : OnlyRaises P x)
    (hle : ∀ e, P e → Q e) : OnlyRaises Q x :=
  fun e he => hle e (h e he)

theorem onlyRaises_ok (a : α) : OnlyRaises P (.ok a : Except ε α) := by
  intro e he
  cases he

theorem onlyRaises_error {e : ε} (h : P e) : OnlyRaises P (.error e : Except ε α) := by
  intro e' he
  cases he
  exact h

theorem OnlyRaises.bind {x : Except ε α} {f : α → Except ε β} (hx : OnlyRaises P x)
    (hf : ∀ a, OnlyRaises P (f a)) : OnlyRaises P (x >>= f) := by
  intro e he
  cases x with
  | error e' =>
      cases he
      exact hx e rfl
  | ok a => exact hf a e he

/-- What a sequence raises, its first part raises as well. -/
theorem OnlyRaises.of_bind {x : Except ε α} {f : α → Except ε β} (h : OnlyRaises P (x >>= f)) :
    OnlyRaises P x := by
  rintro e rfl
  exact h e rfl

theorem onlyRaises_ensure {p : Prop} [Decidable p] {e : ε} (h : P e) :
    OnlyRaises P (ensure p e) := by
  intro e' he
  rw [← (ensure_eq_error.mp he).2]
  exact h

theorem onlyRaises_orRaise {o : Option α} {e : ε} (h : P e) : OnlyRaises P (orRaise o e) := by
  intro e' he
  rw [← (orRaise_eq_error.mp he).2]
  exact h

theorem onlyRaises_ite {p : Prop} [Decidable p] {x y : Except ε α} (hx : OnlyRaises P x)
    (hy : OnlyRaises P y) : OnlyRaises P (if p then x else y) := by
  by_cases h : p
  · rw [if_pos h]
    exact hx
  · rw [if_neg h]
    exact hy

end Errors

/-! ### Chains -/

variable {σ ρ ε : Type} {vet : ℕ → σ → Except ε Unit} {send : ℕ → σ → Except ε (σ ⊕ ρ)}
  {exhausted : ε}

/-- **The chain of requests that are sent**, from the one with a number on, and what it ends with:
every request is looked at before it is sent. -/
def follow (vet : ℕ → σ → Except ε Unit) (send : ℕ → σ → Except ε (σ ⊕ ρ)) (exhausted : ε) :
    (fuel hop : ℕ) → σ → List σ × Except ε ρ
  | 0, _, _ => ([], .error exhausted)
  | fuel + 1, hop, s =>
      match vet hop s with
      | .error e => ([], .error e)
      | .ok _ =>
          match send hop s with
          | .error e => ([s], .error e)
          | .ok (.inr r) => ([s], .ok r)
          | .ok (.inl s') =>
              let rest := follow vet send exhausted fuel (hop + 1) s'
              (s :: rest.1, rest.2)

/-- A chain is not longer than the bound. -/
theorem length_follow (fuel hop : ℕ) (s : σ) :
    (follow vet send exhausted fuel hop s).1.length ≤ fuel := by
  induction fuel generalizing hop s with
  | zero => exact Nat.le_refl 0
  | succ fuel ih =>
      rw [follow]
      split
      · exact Nat.zero_le _
      · split
        · exact Nat.succ_le_succ (Nat.zero_le _)
        · exact Nat.succ_le_succ (Nat.zero_le _)
        · exact Nat.succ_le_succ (ih _ _)

/-- The first request of a chain is the one that it starts with. -/
theorem head_follow (fuel hop : ℕ) (s : σ) :
    ∀ x ∈ (follow vet send exhausted fuel hop s).1.head?, x = s := by
  cases fuel with
  | zero => exact fun x hx => absurd hx (by simp [follow])
  | succ fuel =>
      intro x hx
      rw [follow] at hx
      split at hx
      · cases hx
      · split at hx <;> exact (Option.some.inj hx).symm

/-- **What every hop preserves holds of every request of a chain**, and every request was looked
at. -/
theorem follow_forall {P : σ → Prop}
    (hstep : ∀ hop s s', P s → vet hop s = .ok () → send hop s = .ok (.inl s') → P s')
    (fuel hop : ℕ) {s : σ} (hs : P s) :
    ∀ x ∈ (follow vet send exhausted fuel hop s).1, P x ∧ ∃ i, vet i x = .ok () := by
  induction fuel generalizing hop s with
  | zero => exact fun x hx => absurd hx List.not_mem_nil
  | succ fuel ih =>
      intro x hx
      rw [follow] at hx
      cases hvet : vet hop s with
      | error e =>
          rw [hvet] at hx
          exact absurd hx List.not_mem_nil
      | ok u =>
          rw [hvet] at hx
          dsimp only at hx
          cases hsend : send hop s with
          | error e =>
              rw [hsend] at hx
              rw [List.mem_singleton.mp hx]
              exact ⟨hs, hop, hvet⟩
          | ok next =>
              rw [hsend] at hx
              cases next with
              | inr r =>
                  rw [List.mem_singleton.mp hx]
                  exact ⟨hs, hop, hvet⟩
              | inl s' =>
                  rcases List.mem_cons.mp hx with rfl | hx
                  · exact ⟨hs, hop, hvet⟩
                  · exact ih (hop + 1) (hstep hop s s' hs hvet hsend) x hx

/-- **What every hop does holds of every two requests that follow each other.** -/
theorem follow_isChain {R : σ → σ → Prop}
    (hstep : ∀ hop s s', vet hop s = .ok () → send hop s = .ok (.inl s') → R s s')
    (fuel hop : ℕ) (s : σ) : (follow vet send exhausted fuel hop s).1.IsChain R := by
  induction fuel generalizing hop s with
  | zero => exact List.IsChain.nil
  | succ fuel ih =>
      rw [follow]
      cases hvet : vet hop s with
      | error e => exact List.IsChain.nil
      | ok u =>
          dsimp only
          cases hsend : send hop s with
          | error e => exact List.IsChain.singleton s
          | ok next =>
              cases next with
              | inr r => exact List.IsChain.singleton s
              | inl s' =>
                  refine List.isChain_cons.mpr ⟨?_, ih (hop + 1) s'⟩
                  intro x hx
                  rw [head_follow fuel (hop + 1) s' x hx]
                  exact hstep hop s s' hvet hsend

/-- What a chain can end with that is no answer: the bound, or what a look at a request or a sending
of it raises. -/
theorem onlyRaises_follow {P : ε → Prop} (hexhausted : P exhausted)
    (hvet : ∀ hop s, OnlyRaises P (vet hop s)) (hsend : ∀ hop s, OnlyRaises P (send hop s))
    (fuel hop : ℕ) (s : σ) : OnlyRaises P (follow vet send exhausted fuel hop s).2 := by
  induction fuel generalizing hop s with
  | zero => exact onlyRaises_error hexhausted
  | succ fuel ih =>
      have hnow := hvet hop s
      have hsent := hsend hop s
      rw [follow]
      cases hlook : vet hop s with
      | error e => exact onlyRaises_error (hnow e hlook)
      | ok u =>
          dsimp only
          cases hreply : send hop s with
          | error e => exact onlyRaises_error (hsent e hreply)
          | ok next =>
              cases next with
              | inr r => exact onlyRaises_ok r
              | inl s' => exact ih (hop + 1) s'

end LibSeek.Lib
