/-
Programs that run beside each other on one state.

A worker's program is a sequence of atomic steps on a state that it shares with other programs and
with an environment.  Between two of its steps anybody else may have moved the state, and it may
stop at any point and never be resumed.  The programs here are trees: a step turns the state and
what the outside supplies at that moment into a new state and into the rest of the program.

What a program does is specified by rely and guarantee.  Every thread has a relation that its own
steps stay in; what it may rely on is that the others stay in theirs.  The weakest precondition of
a program lets the others move before each of its steps, so that an assertion that is carried
across a step is one that the others leave alone.

Main definitions:

* `Lib.Prog` — a program, with its monad, its exceptions and its handler;
* `Lib.Prog.atomic` — the program of one atomic step;
* `Lib.Config`, `Lib.Config.Step` — the threads of a system and its steps: those of a thread, of
  the environment, the start of a thread, and its crash;
* `Lib.Discipline` — an invariant, the relation of each thread and that of the environment;
* `Lib.Prog.wp` — **the weakest precondition** of a program under a discipline.

Main results:

* `Lib.Prog.wp_bind` and its companions — one rule for each way to build a program;
* `Lib.Prog.wp_others` — a weakest precondition survives the steps of the others;
* `Lib.Discipline.sound` — **soundness**: where every program that is started keeps to the
  discipline, every state that the system reaches satisfies the invariant.
-/

import Mathlib.Logic.Relation
import Mathlib.Logic.Function.Basic

set_option relaxedAutoImplicit false
set_option autoImplicit false

namespace LibSeek.Lib

open Relation

/-- A program on a state `σ`: a value, an exception, or an atomic step, which is given what the
outside supplies (`ι`) and the state. -/
inductive Prog (ι σ ε α : Type) : Type where
  | ret (a : α)
  | fail (e : ε)
  | step (effect : ι → σ → σ) (next : ι → σ → Prog ι σ ε α)

namespace Prog

variable {τ ι σ ε ε' α β : Type}

/-! ### Building programs -/

/-- One program after another. -/
def bind : Prog ι σ ε α → (α → Prog ι σ ε β) → Prog ι σ ε β
  | ret a, f => f a
  | fail e, _ => fail e
  | step effect next, f => step effect fun i s => (next i s).bind f

instance : Monad (Prog ι σ ε) where
  pure := ret
  bind := bind

/-- A program with a handler for its exceptions. -/
def handle : Prog ι σ ε α → (ε → Prog ι σ ε' α) → Prog ι σ ε' α
  | ret a, _ => ret a
  | fail e, h => h e
  | step effect next, h => step effect fun i s => (next i s).handle h

/-- A program whose exceptions are renamed. -/
def mapError (p : Prog ι σ ε α) (f : ε → ε') : Prog ι σ ε' α :=
  p.handle fun e => fail (f e)

/-- The value of a pure computation that may fail. -/
def ofExcept : Except ε α → Prog ι σ ε α
  | .ok a => ret a
  | .error e => fail e

/-- The program of one atomic step, with its outcome. -/
def atomic (body : ι → σ → Except ε α × σ) : Prog ι σ ε α :=
  step (fun i s => (body i s).2) fun i s => ofExcept (body i s).1

end Prog

/-! ### Systems of threads -/

/-- What has become of a thread. -/
inductive Thread (ι σ ε : Type) : Type where
  | unborn
  | running (program : Prog ι σ ε Unit)
  | dead

/-- A system: its state and its threads. -/
structure Config (τ ι σ ε : Type) where
  state : σ
  threads : τ → Thread ι σ ε

namespace Config

variable {τ ι σ ε : Type} [DecidableEq τ]

/-- The system with a thread changed. -/
def setThread (c : Config τ ι σ ε) (t : τ) (th : Thread ι σ ε) : Config τ ι σ ε :=
  { c with threads := Function.update c.threads t th }

/-- **A step of a system**, for the steps `env` of the environment and the programs `start` that a
thread can be started with.  A name is given to one thread only. -/
inductive Step (env : σ → σ → Prop) (start : τ → Prog ι σ ε Unit → Prop) :
    Config τ ι σ ε → Config τ ι σ ε → Prop
  | env {c : Config τ ι σ ε} {s : σ} (h : env c.state s) : Step env start c { c with state := s }
  | spawn {c : Config τ ι σ ε} {t : τ} {p : Prog ι σ ε Unit} (h : c.threads t = .unborn)
      (hp : start t p) : Step env start c (c.setThread t (.running p))
  | run {c : Config τ ι σ ε} {t : τ} {effect : ι → σ → σ} {next : ι → σ → Prog ι σ ε Unit}
      (h : c.threads t = .running (.step effect next)) (i : ι) :
      Step env start c
        { state := effect i c.state
          threads := Function.update c.threads t (.running (next i c.state)) }
  | crash {c : Config τ ι σ ε} {t : τ} {p : Prog ι σ ε Unit} (h : c.threads t = .running p) :
      Step env start c (c.setThread t .dead)

/-- The system before any thread has been started. -/
def initial (s : σ) : Config τ ι σ ε where
  state := s
  threads := fun _ => .unborn

/-- The systems reachable from a state without threads. -/
def Reachable (env : σ → σ → Prop) (start : τ → Prog ι σ ε Unit → Prop) (s : σ)
    (c : Config τ ι σ ε) : Prop :=
  ReflTransGen (Step env start) (initial s) c

end Config

/-! ### Rely and guarantee -/

/-- A discipline: an invariant, what the steps of each thread stay in, what those of the
environment stay in, and what holds of a thread that has not been started. -/
structure Discipline (τ σ : Type) where
  inv : σ → Prop
  own : τ → σ → σ → Prop
  env : σ → σ → Prop
  fresh : τ → σ → Prop
  inv_own : ∀ {t s s'}, inv s → own t s s' → inv s'
  inv_env : ∀ {s s'}, inv s → env s s' → inv s'
  fresh_own : ∀ {t t' s s'}, t' ≠ t → own t' s s' → fresh t s → fresh t s'
  fresh_env : ∀ {t s s'}, env s s' → fresh t s → fresh t s'

namespace Discipline

variable {τ σ : Type} (D : Discipline τ σ)

/-- One step of somebody other than the thread `t`. -/
def other (t : τ) (s s' : σ) : Prop :=
  D.inv s ∧ (D.env s s' ∨ ∃ t', t' ≠ t ∧ D.own t' s s')

/-- What the others may have done between two steps of the thread `t`. -/
def others (t : τ) : σ → σ → Prop :=
  ReflTransGen (D.other t)

/-- What every step of the others preserves, all of them together preserve. -/
theorem others_preserve {t : τ} {P : σ → Prop}
    (hstep : ∀ s s', D.other t s s' → P s → P s') {s s' : σ} (h : D.others t s s') (hs : P s) :
    P s' := by
  induction h with
  | refl => exact hs
  | tail _ hlast ih => exact hstep _ _ hlast ih

end Discipline

namespace Prog

variable {τ ι σ ε ε' α β : Type} (D : Discipline τ σ) (t : τ)

/-- **The weakest precondition** of a program of the thread `t`: its steps stay in the thread's
relation, and it ends in a value and a state that satisfy `Q` or in an exception and a state that
satisfy `E`, whatever the others do before each step. -/
def wp : Prog ι σ ε α → (α → σ → Prop) → (ε → σ → Prop) → σ → Prop
  | ret a, Q, _, s => Q a s
  | fail e, _, E, s => E e s
  | step effect next, Q, E, s =>
      ∀ s', D.others t s s' → D.inv s' → ∀ i,
        D.own t s' (effect i s') ∧ wp (next i s') Q E (effect i s')

variable {D t} {Q Q' : α → σ → Prop} {E E' : ε → σ → Prop} {s : σ}

@[simp] theorem wp_ret (a : α) : (ret a : Prog ι σ ε α).wp D t Q E s ↔ Q a s :=
  Iff.rfl

@[simp] theorem wp_pure (a : α) : (pure a : Prog ι σ ε α).wp D t Q E s ↔ Q a s :=
  Iff.rfl

@[simp] theorem wp_fail (e : ε) : (fail e : Prog ι σ ε α).wp D t Q E s ↔ E e s :=
  Iff.rfl

/-- **Consequence.** -/
theorem wp_mono {p : Prog ι σ ε α} (h : p.wp D t Q E s) (hQ : ∀ a s', Q a s' → Q' a s')
    (hE : ∀ e s', E e s' → E' e s') : p.wp D t Q' E' s := by
  induction p generalizing s with
  | ret a => exact hQ a s h
  | fail e => exact hE e s h
  | step effect next ih =>
      intro s' hs' hinv i
      obtain ⟨hown, hnext⟩ := h s' hs' hinv i
      exact ⟨hown, ih i s' hnext⟩

@[simp] theorem wp_bind (p : Prog ι σ ε β) (f : β → Prog ι σ ε α) :
    (p >>= f).wp D t Q E s ↔ p.wp D t (fun b s' => (f b).wp D t Q E s') E s := by
  change (p.bind f).wp D t Q E s ↔ _
  induction p generalizing s with
  | ret b => exact Iff.rfl
  | fail e => exact Iff.rfl
  | step effect next ih =>
      refine forall_congr' fun s' => forall_congr' fun _ => forall_congr' fun _ =>
        forall_congr' fun i => and_congr_right fun _ => ih i s'

@[simp] theorem wp_handle (p : Prog ι σ ε' α) (h : ε' → Prog ι σ ε α) :
    (p.handle h).wp D t Q E s ↔ p.wp D t Q (fun e s' => (h e).wp D t Q E s') s := by
  induction p generalizing s with
  | ret b => exact Iff.rfl
  | fail e => exact Iff.rfl
  | step effect next ih =>
      refine forall_congr' fun s' => forall_congr' fun _ => forall_congr' fun _ =>
        forall_congr' fun i => and_congr_right fun _ => ih i s'

@[simp] theorem wp_mapError (p : Prog ι σ ε' α) (f : ε' → ε) :
    (p.mapError f).wp D t Q E s ↔ p.wp D t Q (fun e s' => E (f e) s') s :=
  wp_handle p _

@[simp] theorem wp_ofExcept (x : Except ε α) :
    (ofExcept x : Prog ι σ ε α).wp D t Q E s ↔
      (∀ a, x = .ok a → Q a s) ∧ (∀ e, x = .error e → E e s) := by
  cases x <;> simp [ofExcept]

@[simp] theorem wp_ite (P : Prop) [Decidable P] (p p' : Prog ι σ ε α) :
    (if P then p else p').wp D t Q E s ↔ (P → p.wp D t Q E s) ∧ (¬ P → p'.wp D t Q E s) := by
  by_cases h : P <;> simp [h]

/-- The rule of an atomic step: after whatever the others have done, it stays in the thread's
relation, and its outcome satisfies the postconditions. -/
theorem wp_atomic {body : ι → σ → Except ε α × σ}
    (h : ∀ s', D.others t s s' → D.inv s' → ∀ i, D.own t s' (body i s').2 ∧
      (∀ a, (body i s').1 = .ok a → Q a (body i s').2) ∧
      (∀ e, (body i s').1 = .error e → E e (body i s').2)) :
    (atomic body).wp D t Q E s := by
  intro s' hs' hinv i
  obtain ⟨hown, hout⟩ := h s' hs' hinv i
  exact ⟨hown, (wp_ofExcept _).mpr hout⟩

/-- A weakest precondition survives the steps of the others, where its postconditions do. -/
theorem wp_others {p : Prog ι σ ε α} (h : p.wp D t Q E s) {s' : σ} (hs : D.others t s s')
    (hQ : ∀ a, Q a s → Q a s') (hE : ∀ e, E e s → E e s') : p.wp D t Q E s' := by
  cases p with
  | ret a => exact hQ a h
  | fail e => exact hE e h
  | step effect next => exact fun s'' hs'' hinv i => h s'' (hs.trans hs'') hinv i

end Prog

/-! ### Soundness -/

namespace Discipline

variable {τ ι σ ε : Type} [DecidableEq τ] (D : Discipline τ σ)

/-- A program that keeps to the discipline, whatever it ends in. -/
def Keeps (t : τ) (p : Prog ι σ ε Unit) (s : σ) : Prop :=
  p.wp D t (fun _ _ => True) (fun _ _ => True) s

/-- A system in which the invariant holds, the names not given away are fresh and the threads keep
to the discipline. -/
structure Good (c : Config τ ι σ ε) : Prop where
  inv : D.inv c.state
  fresh : ∀ t, c.threads t = .unborn → D.fresh t c.state
  keeps : ∀ t p, c.threads t = .running p → D.Keeps t p c.state

variable {D}

omit [DecidableEq τ] in
theorem Keeps.others {t : τ} {p : Prog ι σ ε Unit} {s s' : σ} (h : D.Keeps t p s)
    (hs : D.others t s s') : D.Keeps t p s' :=
  Prog.wp_others h hs (fun _ _ => trivial) fun _ _ => trivial

/-- One step of a system whose programs keep to the discipline. -/
theorem Good.step {env : σ → σ → Prop} {start : τ → Prog ι σ ε Unit → Prop}
    (henv : ∀ s s', D.inv s → env s s' → D.env s s')
    (hstart : ∀ t p s, start t p → D.inv s → D.fresh t s → D.Keeps t p s)
    {c c' : Config τ ι σ ε} (hc : D.Good c) (h : Config.Step env start c c') : D.Good c' := by
  cases h with
  | env h =>
      have hD := henv _ _ hc.inv h
      exact
        { inv := D.inv_env hc.inv hD
          fresh := fun t ht => D.fresh_env hD (hc.fresh t ht)
          keeps := fun t p hp => (hc.keeps t p hp).others (.single ⟨hc.inv, Or.inl hD⟩) }
  | @spawn t p hun hp =>
      refine ⟨hc.inv, fun t' ht' => ?_, fun t' p' ht' => ?_⟩
      · by_cases htt : t' = t
        · subst htt
          simp [Config.setThread] at ht'
        · exact hc.fresh t' (by simpa [Config.setThread, htt] using ht')
      · by_cases htt : t' = t
        · subst htt
          obtain rfl : p = p' := by simpa [Config.setThread] using ht'
          exact hstart t' p c.state hp hc.inv (hc.fresh t' hun)
        · exact hc.keeps t' p' (by simpa [Config.setThread, htt] using ht')
  | @run t effect next hrun i =>
      obtain ⟨hown, hnext⟩ := hc.keeps t _ hrun c.state .refl hc.inv i
      -- for every other thread the step is one of the others
      refine ⟨D.inv_own hc.inv hown, fun t' ht' => ?_, fun t' p' ht' => ?_⟩
      · by_cases htt : t' = t
        · subst htt
          simp at ht'
        · exact D.fresh_own (Ne.symm htt) hown (hc.fresh t' (by simpa [htt] using ht'))
      · by_cases htt : t' = t
        · subst htt
          obtain rfl : next i c.state = p' := by simpa using ht'
          exact hnext
        · exact (hc.keeps t' p' (by simpa [htt] using ht')).others
            (.single ⟨hc.inv, Or.inr ⟨t, Ne.symm htt, hown⟩⟩)
  | @crash t p hrun =>
      refine ⟨hc.inv, fun t' ht' => ?_, fun t' p' ht' => ?_⟩
      · by_cases htt : t' = t
        · subst htt
          simp [Config.setThread] at ht'
        · exact hc.fresh t' (by simpa [Config.setThread, htt] using ht')
      · by_cases htt : t' = t
        · subst htt
          simp [Config.setThread] at ht'
        · exact hc.keeps t' p' (by simpa [Config.setThread, htt] using ht')

/-- What one step of such a system does to the state: it is one of the environment, or of a thread
that keeps to its relation, or it leaves the state alone. -/
theorem Good.state_step {env : σ → σ → Prop} {start : τ → Prog ι σ ε Unit → Prop}
    {c c' : Config τ ι σ ε} (hc : D.Good c) (h : Config.Step env start c c') :
    env c.state c'.state ∨ (∃ t, D.own t c.state c'.state) ∨ c'.state = c.state := by
  cases h with
  | env h => exact Or.inl h
  | spawn => exact Or.inr (Or.inr rfl)
  | @run t effect next hrun i =>
      exact Or.inr (Or.inl ⟨t, (hc.keeps t _ hrun c.state .refl hc.inv i).1⟩)
  | crash => exact Or.inr (Or.inr rfl)

/-- **Soundness.**  Where the environment and every program that is started keep to the
discipline, so does every system that is reached: in particular its state satisfies the
invariant. -/
theorem sound {env : σ → σ → Prop} {start : τ → Prog ι σ ε Unit → Prop}
    (henv : ∀ s s', D.inv s → env s s' → D.env s s')
    (hstart : ∀ t p s, start t p → D.inv s → D.fresh t s → D.Keeps t p s)
    {s : σ} (hs : D.inv s) (hfresh : ∀ t, D.fresh t s) {c : Config τ ι σ ε}
    (h : Config.Reachable env start s c) : D.Good c := by
  induction h with
  | refl =>
      exact
        { inv := hs
          fresh := fun t _ => hfresh t
          keeps := fun t p hp => by cases hp }
  | tail _ hlast ih => exact ih.step henv hstart hlast

end Discipline

end LibSeek.Lib
