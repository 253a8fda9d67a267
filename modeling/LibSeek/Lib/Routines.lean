/-
Routines: programs with a memory of their own.

A worker keeps flags and sessions in variables that no other worker sees, and its exception
handlers read them as they were when the exception was raised.  A routine is a program that carries
such a memory along, through its values and through its exceptions.

Main definitions:

* `Lib.Routine` — a routine, with its monad, its exceptions and its handler;
* `Lib.Routine.perform` — one atomic step on the shared state, which may read the memory;
* `Lib.Routine.wp` — **the weakest precondition** of a routine under a discipline;
* `Lib.Prog.exec` — the run of a program on its own, for what the outside supplies at each step.

Main results:

* `Lib.Routine.wp_bind` and its companions — one rule for each way to build a routine;
* `Lib.Config.reachable_exec` — a system reaches what the run of one of its threads reaches.
-/

import LibSeek.Lib.Threads

set_option relaxedAutoImplicit false
set_option autoImplicit false

namespace LibSeek.Lib

open Relation

/-- A routine: from a memory to a program whose outcome is given with the memory it leaves. -/
def Routine (ι σ μ ε α : Type) : Type :=
  μ → Prog ι σ (ε × μ) (α × μ)

namespace Routine

variable {τ ι σ μ ε ε' α β : Type}

/-! ### Building routines -/

instance : Monad (Routine ι σ μ ε) where
  pure a := fun m => .ret (a, m)
  bind r f := fun m => (r m).bind fun out => f out.1 out.2

/-- Raising an exception. -/
def raise (e : ε) : Routine ι σ μ ε α :=
  fun m => .fail (e, m)

/-- Handling an exception, with the memory as it was when the exception was raised. -/
def handle (r : Routine ι σ μ ε α) (h : ε → Routine ι σ μ ε α) : Routine ι σ μ ε α :=
  fun m => (r m).handle fun out => h out.1 out.2

/-- The value of a pure computation that may fail. -/
def ofExcept (x : Except ε α) : Routine ι σ μ ε α :=
  match x with
  | .ok a => pure a
  | .error e => raise e

/-- Raising an exception unless a condition holds. -/
def require (p : Prop) [Decidable p] (e : ε) : Routine ι σ μ ε Unit :=
  if p then pure () else raise e

/-- The memory. -/
def memory : Routine ι σ μ ε μ :=
  fun m => .ret (m, m)

/-- Changing the memory. -/
def remember (f : μ → μ) : Routine ι σ μ ε Unit :=
  fun m => .ret ((), f m)

/-- One atomic step on the shared state. -/
def perform (body : ι → σ → Except ε α × σ) : Routine ι σ μ ε α :=
  fun m => .step (fun i s => (body i s).2) fun i s => ofExcept (body i s).1 m

/-- What the outside supplies at some moment. -/
def supply (f : ι → α) : Routine ι σ μ ε α :=
  perform fun i s => (.ok (f i), s)

/-- A thread that runs a routine from a memory. -/
def thread (r : Routine ι σ μ ε α) (m : μ) : Prog ι σ (ε × μ) Unit :=
  (r m).bind fun _ => .ret ()

/-! ### Weakest preconditions -/

variable (D : Discipline τ σ) (t : τ)

/-- **The weakest precondition** of a routine of the thread `t`, with postconditions that speak of
the memory as well. -/
def wp (r : Routine ι σ μ ε α) (Q : α → μ → σ → Prop) (E : ε → μ → σ → Prop) (m : μ) (s : σ) :
    Prop :=
  (r m).wp D t (fun out s' => Q out.1 out.2 s') (fun out s' => E out.1 out.2 s') s

variable {D t} {Q Q' : α → μ → σ → Prop} {E E' : ε → μ → σ → Prop} {m : μ} {s : σ}

@[simp] theorem wp_pure (a : α) : wp D t (pure a : Routine ι σ μ ε α) Q E m s ↔ Q a m s :=
  Iff.rfl

@[simp] theorem wp_raise (e : ε) : wp D t (raise e : Routine ι σ μ ε α) Q E m s ↔ E e m s :=
  Iff.rfl

@[simp] theorem wp_memory (Q : μ → μ → σ → Prop) :
    wp D t (memory : Routine ι σ μ ε μ) Q E m s ↔ Q m m s :=
  Iff.rfl

@[simp] theorem wp_remember (f : μ → μ) (Q : Unit → μ → σ → Prop) :
    wp D t (remember f : Routine ι σ μ ε Unit) Q E m s ↔ Q () (f m) s :=
  Iff.rfl

/-- **Consequence.** -/
theorem wp_mono {r : Routine ι σ μ ε α} (h : wp D t r Q E m s)
    (hQ : ∀ a m' s', Q a m' s' → Q' a m' s') (hE : ∀ e m' s', E e m' s' → E' e m' s') :
    wp D t r Q' E' m s :=
  Prog.wp_mono h (fun out s' => hQ out.1 out.2 s') fun out s' => hE out.1 out.2 s'

@[simp] theorem wp_bind (r : Routine ι σ μ ε β) (f : β → Routine ι σ μ ε α) :
    wp D t (r >>= f) Q E m s ↔ wp D t r (fun b m' s' => wp D t (f b) Q E m' s') E m s :=
  Prog.wp_bind (r m) fun out => f out.1 out.2

@[simp] theorem wp_handle (r : Routine ι σ μ ε α) (h : ε → Routine ι σ μ ε α) :
    wp D t (handle r h) Q E m s ↔ wp D t r Q (fun e m' s' => wp D t (h e) Q E m' s') m s :=
  Prog.wp_handle (r m) fun out => h out.1 out.2

@[simp] theorem wp_ofExcept (x : Except ε α) :
    wp D t (ofExcept x : Routine ι σ μ ε α) Q E m s ↔
      (∀ a, x = .ok a → Q a m s) ∧ (∀ e, x = .error e → E e m s) := by
  cases x <;> simp [ofExcept]

@[simp] theorem wp_require (p : Prop) [Decidable p] (e : ε) (Q : Unit → μ → σ → Prop) :
    wp D t (require p e : Routine ι σ μ ε Unit) Q E m s ↔
      (p → Q () m s) ∧ (¬ p → E e m s) := by
  by_cases h : p <;> simp [require, h]

@[simp] theorem wp_ite (P : Prop) [Decidable P] (r r' : Routine ι σ μ ε α) :
    wp D t (if P then r else r') Q E m s ↔
      (P → wp D t r Q E m s) ∧ (¬ P → wp D t r' Q E m s) := by
  by_cases h : P <;> simp [h]

/-- The rule of an atomic step: after whatever the others have done, it stays in the thread's
relation, and its outcome satisfies the postconditions. -/
theorem wp_perform {body : ι → σ → Except ε α × σ}
    (h : ∀ s', D.others t s s' → D.inv s' → ∀ i, D.own t s' (body i s').2 ∧
      (∀ a, (body i s').1 = .ok a → Q a m (body i s').2) ∧
      (∀ e, (body i s').1 = .error e → E e m (body i s').2)) :
    wp D t (perform body) Q E m s := by
  intro s' hs' hinv i
  obtain ⟨hown, hout⟩ := h s' hs' hinv i
  exact ⟨hown, (wp_ofExcept _).mpr hout⟩

/-- What the outside supplies leaves the state alone. -/
theorem wp_supply {f : ι → α}
    (h : ∀ s', D.others t s s' → D.inv s' → ∀ i, D.own t s' s' ∧ Q (f i) m s') :
    wp D t (supply f) Q E m s := by
  refine wp_perform fun s' hs' hinv i => ?_
  obtain ⟨hown, hQ⟩ := h s' hs' hinv i
  refine ⟨hown, fun a ha => ?_, fun e he => by cases he⟩
  obtain rfl := Except.ok.inj ha
  exact hQ

/-- A thread keeps to the discipline where its routine has a weakest precondition. -/
theorem keeps_thread {r : Routine ι σ μ ε α} (h : wp D t r Q E m s) : D.Keeps t (r.thread m) s :=
  (Prog.wp_bind (r m) fun _ => .ret ()).mpr
    (Prog.wp_mono h (fun _ _ _ => trivial) fun _ _ _ => trivial)

end Routine

/-! ### Runs of one program -/

namespace Prog

variable {ι σ ε α : Type}

/-- The run of a program on its own, for what the outside supplies at each of its steps. -/
def exec : List ι → Prog ι σ ε α → σ → Prog ι σ ε α × σ
  | i :: is, step effect next, s => (next i s).exec is (effect i s)
  | _, p, s => (p, s)

/-- A run that is continued. -/
theorem exec_append (is is' : List ι) (p : Prog ι σ ε α) (s : σ) :
    p.exec (is ++ is') s = (p.exec is s).1.exec is' (p.exec is s).2 := by
  induction is generalizing p s with
  | nil => cases p <;> rfl
  | cons i is ih =>
      cases p with
      | ret a => cases is' <;> rfl
      | fail e => cases is' <;> rfl
      | step effect next => exact ih (next i s) (effect i s)

end Prog

namespace Config

variable {τ ι σ ε : Type} [DecidableEq τ] {env : σ → σ → Prop}
  {start : τ → Prog ι σ ε Unit → Prop} {s : σ}

/-- **A system reaches what the run of one of its threads reaches.** -/
theorem reachable_exec {t : τ} (is : List ι) {p : Prog ι σ ε Unit} {c : Config τ ι σ ε}
    (hc : Reachable env start s c) (ht : c.threads t = .running p) :
    Reachable env start s
      { state := (p.exec is c.state).2
        threads := Function.update c.threads t (.running (p.exec is c.state).1) } := by
  induction is generalizing p c with
  | nil =>
      rw [show p.exec [] c.state = (p, c.state) by cases p <;> rfl, ← ht, Function.update_eq_self]
      exact hc
  | cons i is ih =>
      cases p with
      | ret a =>
          rw [Prog.exec, ← ht, Function.update_eq_self]
          · exact hc
          · rintro _ _ _ _ _ ⟨⟩
      | fail e =>
          rw [Prog.exec, ← ht, Function.update_eq_self]
          · exact hc
          · rintro _ _ _ _ _ ⟨⟩
      | step effect next =>
          have hnext := ih (hc.tail (Step.run ht i)) (Function.update_self t _ _)
          rw [Function.update_idem] at hnext
          exact hnext

/-- The next step of a thread is a step of the system, unless the thread has come to its end. -/
theorem step_exec {t : τ} (i : ι) {p : Prog ι σ ε Unit} {c : Config τ ι σ ε}
    (ht : c.threads t = .running p) :
    Step env start c
        { state := (p.exec [i] c.state).2
          threads := Function.update c.threads t (.running (p.exec [i] c.state).1) } ∨
      (p.exec [i] c.state).2 = c.state := by
  cases p with
  | ret a => exact Or.inr rfl
  | fail e => exact Or.inr rfl
  | step effect next =>
      refine Or.inl ?_
      have hexec : (Prog.step effect next : Prog ι σ ε Unit).exec [i] c.state =
          (next i c.state, effect i c.state) := by
        rw [Prog.exec]
        cases next i c.state <;> rfl
      rw [hexec]
      exact Step.run ht i

/-- A system reaches what the environment reaches from its state. -/
theorem reachable_env {s' : σ} {c : Config τ ι σ ε} (hc : Reachable env start s c)
    (h : ReflTransGen env c.state s') : Reachable env start s { c with state := s' } := by
  induction h with
  | refl => exact hc
  | tail _ hlast ih => exact ih.tail (Step.env hlast)

/-- A name that has not been given away can be given to a thread. -/
theorem reachable_spawn {t : τ} {p : Prog ι σ ε Unit} {c : Config τ ι σ ε}
    (hc : Reachable env start s c) (ht : c.threads t = .unborn) (hp : start t p) :
    Reachable env start s (c.setThread t (.running p)) :=
  hc.tail (Step.spawn ht hp)

end Config

end LibSeek.Lib
