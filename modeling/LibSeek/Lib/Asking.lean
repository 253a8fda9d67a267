/-
Computations that ask the outside.

A client sends one request after another and goes on with the replies.  Nothing is known of the
outside: its reply may depend on all that was asked before.  What such a computation comes to is
therefore told of the transcript of its run, the requests with their replies.

Main definitions:

* `Lib.Asking` — a computation that asks, with its monad, its exceptions and their handler;
* `Lib.Asking.wp` — **the weakest precondition**: what holds of the outcome and of the transcript;
* `Lib.Asking.returns`, `Lib.Asking.sends` — what holds of a value that is returned, and a bound on
  the number of requests.

Main results:

* `Lib.Asking.wp_bind` and its companions — one rule for each way to build a computation;
* `Lib.Asking.wp_run` — what is shown of a computation holds of its run from the start.
-/

import Mathlib.Data.List.Basic

set_option relaxedAutoImplicit false
set_option autoImplicit false

namespace LibSeek.Lib

/-- The requests that were sent, with the replies to them. -/
abbrev Transcript (Q R : Type) : Type :=
  List (Q × R)

/-- The outside: the reply to a request, after what was asked before. -/
abbrev Outside (Q R : Type) : Type :=
  Transcript Q R → Q → R

/-- A computation that asks the outside. -/
def Asking (Q R ε α : Type) : Type :=
  Outside Q R → Transcript Q R → Except ε α × Transcript Q R

namespace Asking

variable {Q R ε α β : Type}

/-! ### Building computations -/

instance : Monad (Asking Q R ε) where
  pure a := fun _ asked => (.ok a, asked)
  bind m f := fun outside asked =>
    match m outside asked with
    | (.ok a, asked) => f a outside asked
    | (.error e, asked) => (.error e, asked)

/-- Raising an exception. -/
def raise (e : ε) : Asking Q R ε α :=
  fun _ asked => (.error e, asked)

/-- The value of a pure computation that may fail. -/
def ofExcept (x : Except ε α) : Asking Q R ε α :=
  fun _ asked => (x, asked)

/-- Sending a request. -/
def ask (q : Q) : Asking Q R ε R :=
  fun outside asked => (.ok (outside asked q), asked ++ [(q, outside asked q)])

/-- Handling an exception. -/
def handle (m : Asking Q R ε α) (f : ε → Asking Q R ε α) : Asking Q R ε α :=
  fun outside asked =>
    match m outside asked with
    | (.ok a, asked) => (.ok a, asked)
    | (.error e, asked) => f e outside asked

/-- The run of a computation: its outcome, and its transcript. -/
def run (m : Asking Q R ε α) (outside : Outside Q R) : Except ε α × Transcript Q R :=
  m outside []

/-! ### Preconditions -/

variable {outside : Outside Q R} {P P' : Except ε α → Transcript Q R → Prop}

/-- **The weakest precondition**: whatever was asked before, the computation adds to the transcript
so that the condition holds of its outcome and of what it added. -/
def wp (outside : Outside Q R) (m : Asking Q R ε α) (P : Except ε α → Transcript Q R → Prop) :
    Prop :=
  ∀ asked, ∃ sent, (m outside asked).2 = asked ++ sent ∧ P (m outside asked).1 sent

theorem wp_run {m : Asking Q R ε α} (h : wp outside m P) :
    P (m.run outside).1 (m.run outside).2 := by
  obtain ⟨sent, hsent, hP⟩ := h []
  rw [run, hsent]
  exact hP

theorem wp_mono {m : Asking Q R ε α} (h : wp outside m P) (hmono : ∀ r sent, P r sent → P' r sent) :
    wp outside m P' := by
  intro asked
  obtain ⟨sent, hsent, hP⟩ := h asked
  exact ⟨sent, hsent, hmono _ _ hP⟩

theorem wp_and {m : Asking Q R ε α} (h : wp outside m P) (h' : wp outside m P') :
    wp outside m fun r sent => P r sent ∧ P' r sent := by
  intro asked
  obtain ⟨sent, hsent, hP⟩ := h asked
  obtain ⟨sent', hsent', hP'⟩ := h' asked
  -- both speak of the same transcript
  have hsame : sent' = sent := List.append_cancel_left (hsent'.symm.trans hsent)
  rw [hsame] at hP'
  exact ⟨sent, hsent, hP, hP'⟩

theorem wp_ofExcept {x : Except ε α} (h : P x []) : wp outside (ofExcept x) P :=
  fun asked => ⟨[], (List.append_nil asked).symm, h⟩

theorem wp_pure {a : α} (h : P (.ok a) []) : wp outside (pure a) P :=
  fun asked => ⟨[], (List.append_nil asked).symm, h⟩

theorem wp_raise {e : ε} (h : P (.error e) []) : wp outside (raise e) P :=
  fun asked => ⟨[], (List.append_nil asked).symm, h⟩

theorem wp_ask {q : Q} {P : Except ε R → Transcript Q R → Prop}
    (h : ∀ asked, P (.ok (outside asked q)) [(q, outside asked q)]) : wp outside (ask q) P :=
  fun asked => ⟨[(q, outside asked q)], rfl, h asked⟩

/-- One computation after another: what the second adds comes after what the first added. -/
theorem wp_bind {m : Asking Q R ε α} {f : α → Asking Q R ε β}
    {P : Except ε β → Transcript Q R → Prop}
    (h : wp outside m fun r sent =>
      match r with
      | .ok a => wp outside (f a) fun r later => P r (sent ++ later)
      | .error e => P (.error e) sent) :
    wp outside (m >>= f) P := by
  intro asked
  obtain ⟨sent, hsent, hP⟩ := h asked
  change ∃ sent', ((match m outside asked with
    | (.ok a, asked) => f a outside asked
    | (.error e, asked) => (.error e, asked)) : Except ε β × Transcript Q R).2 = asked ++ sent' ∧
    P ((match m outside asked with
    | (.ok a, asked) => f a outside asked
    | (.error e, asked) => (.error e, asked)) : Except ε β × Transcript Q R).1 sent'
  rcases hm : m outside asked with ⟨r, after⟩
  rw [hm] at hsent hP
  cases r with
  | error e => exact ⟨sent, hsent, hP⟩
  | ok a =>
      obtain ⟨later, hlater, hP⟩ := hP after
      refine ⟨sent ++ later, ?_, hP⟩
      rw [← List.append_assoc, ← hsent]
      exact hlater

/-- A handler: what it adds comes after what was added before the exception. -/
theorem wp_handle {m : Asking Q R ε α} {f : ε → Asking Q R ε α}
    (h : wp outside m fun r sent =>
      match r with
      | .ok a => P (.ok a) sent
      | .error e => wp outside (f e) fun r later => P r (sent ++ later)) :
    wp outside (m.handle f) P := by
  intro asked
  obtain ⟨sent, hsent, hP⟩ := h asked
  rw [handle]
  rcases hm : m outside asked with ⟨r, after⟩
  rw [hm] at hsent hP
  cases r with
  | ok a => exact ⟨sent, hsent, hP⟩
  | error e =>
      obtain ⟨later, hlater, hP⟩ := hP after
      refine ⟨sent ++ later, ?_, hP⟩
      rw [← List.append_assoc, ← hsent]
      exact hlater

/-! ### What is returned -/

/-- What a computation returns, if it returns, has a property. -/
def returns (outside : Outside Q R) (m : Asking Q R ε α) (good : α → Prop) : Prop :=
  wp outside m fun r _ => ∀ a, r = .ok a → good a

theorem returns_run {m : Asking Q R ε α} {good : α → Prop} (h : returns outside m good) :
    ∀ a, (m.run outside).1 = .ok a → good a :=
  wp_run h

theorem returns_pure {good : α → Prop} {a : α} (h : good a) :
    returns outside (pure a : Asking Q R ε α) good :=
  wp_pure fun _ ha => Except.ok.inj ha ▸ h

theorem returns_raise {good : α → Prop} {e : ε} :
    returns outside (raise e : Asking Q R ε α) good :=
  wp_raise fun _ h => nomatch h

theorem returns_ofExcept {good : α → Prop} {x : Except ε α} (h : ∀ a, x = .ok a → good a) :
    returns outside (ofExcept x : Asking Q R ε α) good :=
  wp_ofExcept h

theorem returns_bind {m : Asking Q R ε α} {f : α → Asking Q R ε β} {good : α → Prop}
    {better : β → Prop} (h : returns outside m good)
    (hf : ∀ a, good a → returns outside (f a) better) : returns outside (m >>= f) better := by
  refine wp_bind (wp_mono h fun r sent hr => ?_)
  cases r with
  | error e => exact fun _ he => nomatch he
  | ok a => exact hf a (hr a rfl)

theorem returns_handle {m : Asking Q R ε α} {f : ε → Asking Q R ε α} {good : α → Prop}
    (h : returns outside m good) (hf : ∀ e, returns outside (f e) good) :
    returns outside (m.handle f) good := by
  refine wp_handle (wp_mono h fun r sent hr => ?_)
  cases r with
  | error e => exact hf e
  | ok a => exact hr

/-! ### How much is asked -/

/-- A computation sends no more than a number of requests. -/
def sends (outside : Outside Q R) (m : Asking Q R ε α) (n : ℕ) : Prop :=
  wp outside m fun _ sent => sent.length ≤ n

theorem sends_pure {a : α} {n : ℕ} : sends outside (pure a : Asking Q R ε α) n :=
  wp_pure (Nat.zero_le n)

theorem sends_raise {e : ε} {n : ℕ} : sends outside (raise e : Asking Q R ε α) n :=
  wp_raise (Nat.zero_le n)

theorem sends_ofExcept {x : Except ε α} {n : ℕ} :
    sends outside (ofExcept x : Asking Q R ε α) n :=
  wp_ofExcept (Nat.zero_le n)

theorem sends_ask {q : Q} : sends outside (ask q : Asking Q R ε R) 1 :=
  wp_ask fun _ => Nat.le_refl 1

theorem sends_mono {m : Asking Q R ε α} {n k : ℕ} (h : sends outside m n) (hle : n ≤ k) :
    sends outside m k :=
  wp_mono h fun _ _ hn => Nat.le_trans hn hle

theorem sends_bind {m : Asking Q R ε α} {f : α → Asking Q R ε β} {n k : ℕ}
    (h : sends outside m n) (hf : ∀ a, sends outside (f a) k) :
    sends outside (m >>= f) (n + k) := by
  refine wp_bind (wp_mono h fun r sent hn => ?_)
  cases r with
  | error e => exact Nat.le_add_right_of_le hn
  | ok a =>
      refine wp_mono (hf a) fun _ later hk => ?_
      rw [List.length_append]
      exact Nat.add_le_add hn hk

/-- A pure computation sends nothing. -/
theorem sends_ofExcept_bind {x : Except ε α} {f : α → Asking Q R ε β} {n : ℕ}
    (h : ∀ a, x = .ok a → sends outside (f a) n) : sends outside (ofExcept x >>= f) n := by
  cases x with
  | error e => exact wp_bind (wp_ofExcept (Nat.zero_le n))
  | ok a => exact wp_bind (wp_ofExcept (h a rfl))

theorem sends_handle {m : Asking Q R ε α} {f : ε → Asking Q R ε α} {n k : ℕ}
    (h : sends outside m n) (hf : ∀ e, sends outside (f e) k) :
    sends outside (m.handle f) (n + k) := by
  refine wp_handle (wp_mono h fun r sent hn => ?_)
  cases r with
  | ok a => exact Nat.le_add_right_of_le hn
  | error e =>
      refine wp_mono (hf e) fun _ later hk => ?_
      rw [List.length_append]
      exact Nat.add_le_add hn hk

end Asking

end LibSeek.Lib
