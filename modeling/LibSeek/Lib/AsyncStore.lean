/-
Stores with requests that are answered later.

A store keeps its state in the one thread of a user interface.  A call runs until it has to wait
for an answer, and leaves a task behind that goes on when the answer arrives; an answer may arrive
at any time and in any order, or never.  Every task has a ticket, the number of the event that left
it behind, so that it can be said which calls were made since.

Main definitions:

* `Lib.Turn` — what a store does in one go: its new state, the tasks that it leaves behind, and what
  can be seen of it from outside;
* `Lib.AsyncStore`, `Lib.AsyncEvent`, `Lib.AsyncConfig` — a store, what happens to it, and the store
  with its waiting tasks;
* `Lib.AsyncStore.step`, `Lib.AsyncStore.run` — one event, and a sequence of them;
* `Lib.AsyncStore.Reaches` — what a store reaches with events that all meet a condition;
* `Lib.AsyncStore.Counter` — a counter of a store that some calls advance, and whose value the tasks
  remember.

Main results:

* `Lib.AsyncStore.Reaches.invariant` — **what holds at first and is kept by every event** that meets
  the condition holds of whatever is reached;
* `Lib.AsyncStore.reaches_of_run` — a run that was computed reaches its end;
* `Lib.AsyncStore.Counter.none_since` — **a task that remembers the value of the counter was left
  behind after every call that advances it**.
-/

import Mathlib.Data.List.Basic
import Mathlib.Data.List.Induction
import Mathlib.Tactic.Common

set_option relaxedAutoImplicit false
set_option autoImplicit false

namespace LibSeek.Lib

/-- What a store does in one go. -/
structure Turn (σ task note : Type) where
  state : σ
  tasks : List task := []
  notes : List note := []

/-- A store: its first state, what it does when it is called, and when a task is answered. -/
structure AsyncStore (σ call task note : Type) (answer : task → Type) where
  initial : σ
  invoke : call → σ → Turn σ task note
  settle : (t : task) → answer t → σ → Turn σ task note

/-- What happens to a store: a call, or the answer to a task with its ticket. -/
inductive AsyncEvent (call task : Type) (answer : task → Type) where
  | call (c : call)
  | settle (ticket : ℕ) (t : task) (r : answer t)

/-- A store with its waiting tasks, what has been seen of it, and the number of events so far. -/
structure AsyncConfig (σ task note : Type) where
  state : σ
  pending : List (ℕ × task)
  log : List note
  clock : ℕ

namespace AsyncStore

variable {σ call task note : Type} {answer : task → Type}

/-- The store before anything happens. -/
def start (store : AsyncStore σ call task note answer) : AsyncConfig σ task note where
  state := store.initial
  pending := []
  log := []
  clock := 0

/-- A store after one go, with the tasks that still wait. -/
def after (waiting : List (ℕ × task)) (turn : Turn σ task note) (c : AsyncConfig σ task note) :
    AsyncConfig σ task note where
  state := turn.state
  pending := waiting ++ turn.tasks.map (c.clock, ·)
  log := c.log ++ turn.notes
  clock := c.clock + 1

variable [DecidableEq task]

/-- One event; none where the task does not wait. -/
def step (store : AsyncStore σ call task note answer) (e : AsyncEvent call task answer)
    (c : AsyncConfig σ task note) : Option (AsyncConfig σ task note) :=
  match e with
  | .call operation => some (after c.pending (store.invoke operation c.state) c)
  | .settle ticket t r =>
      if (ticket, t) ∈ c.pending then
        some (after (c.pending.erase (ticket, t)) (store.settle t r c.state) c)
      else none

/-- A sequence of events. -/
def run (store : AsyncStore σ call task note answer) (events : List (AsyncEvent call task answer)) :
    Option (AsyncConfig σ task note) :=
  events.foldlM (fun c e => store.step e c) store.start

variable {store : AsyncStore σ call task note answer}

/-- A call always takes place. -/
theorem step_call (operation : call) (c : AsyncConfig σ task note) :
    store.step (.call operation) c = some (after c.pending (store.invoke operation c.state) c) :=
  rfl

/-- An answer arrives for a task that waits, which then waits no more. -/
theorem step_settle {ticket : ℕ} {t : task} {r : answer t} {c c' : AsyncConfig σ task note}
    (h : store.step (.settle ticket t r) c = some c') :
    (ticket, t) ∈ c.pending ∧
      c' = after (c.pending.erase (ticket, t)) (store.settle t r c.state) c := by
  rw [step] at h
  split_ifs at h with hmem
  exact ⟨hmem, (Option.some.inj h).symm⟩

/-! ### What is reached -/

/-- What a store reaches with events that each meet a condition, which may speak of the events
before and of the store then. -/
inductive Reaches (store : AsyncStore σ call task note answer)
    (condition : List (AsyncEvent call task answer) → AsyncEvent call task answer →
      AsyncConfig σ task note → Prop) :
    List (AsyncEvent call task answer) → AsyncConfig σ task note → Prop where
  | start : Reaches store condition [] store.start
  | step {events : List (AsyncEvent call task answer)} {c c' : AsyncConfig σ task note}
      {e : AsyncEvent call task answer} (hreached : Reaches store condition events c)
      (hcondition : condition events e c) (hstep : store.step e c = some c') :
      Reaches store condition (events ++ [e]) c'

variable {condition : List (AsyncEvent call task answer) → AsyncEvent call task answer →
  AsyncConfig σ task note → Prop}
  {events : List (AsyncEvent call task answer)} {c : AsyncConfig σ task note}

/-- **What holds at first and is kept by every event holds of whatever is reached.** -/
theorem Reaches.invariant
    {P : List (AsyncEvent call task answer) → AsyncConfig σ task note → Prop}
    (hreached : store.Reaches condition events c) (hstart : P [] store.start)
    (hkept : ∀ events e c c', P events c → condition events e c → store.step e c = some c' →
      P (events ++ [e]) c') :
    P events c := by
  induction hreached with
  | start => exact hstart
  | step _ hcondition hstep ih => exact hkept _ _ _ _ ih hcondition hstep

/-- A weaker condition is met as well. -/
theorem Reaches.mono
    {weaker : List (AsyncEvent call task answer) → AsyncEvent call task answer →
      AsyncConfig σ task note → Prop}
    (hreached : store.Reaches condition events c)
    (hweaker : ∀ events e c, condition events e c → weaker events e c) :
    store.Reaches weaker events c := by
  induction hreached with
  | start => exact .start
  | step _ hcondition hstep ih => exact .step ih (hweaker _ _ _ hcondition) hstep

omit [DecidableEq task] in
/-- The tasks that wait after one go waited before, or were left behind by it. -/
theorem mem_after {waiting : List (ℕ × task)} {turn : Turn σ task note}
    {c : AsyncConfig σ task note} {item : ℕ × task} (h : item ∈ (after waiting turn c).pending) :
    item ∈ waiting ∨ item.1 = c.clock ∧ item.2 ∈ turn.tasks := by
  rcases List.mem_append.mp h with h | h
  · exact Or.inl h
  · obtain ⟨t, ht, rfl⟩ := List.mem_map.mp h
    exact Or.inr ⟨rfl, ht⟩

/-- A run that was computed reaches its end. -/
theorem reaches_of_run (h : store.run events = some c) :
    store.Reaches (fun _ _ _ => True) events c := by
  induction events using List.reverseRecOn generalizing c with
  | nil =>
      cases h
      exact .start
  | append_singleton events e ih =>
      rw [run, List.foldlM_append] at h
      obtain ⟨before, hbefore, hlast⟩ := Option.bind_eq_some_iff.mp h
      rw [List.foldlM_cons] at hlast
      obtain ⟨c', hstep, hend⟩ := Option.bind_eq_some_iff.mp hlast
      cases hend
      exact .step (ih hbefore) trivial hstep

/-! ### Counters -/

/-- A counter of a store: no turn takes it back, some calls advance it, and a task remembers no
value that it has not reached. -/
structure Counter (store : AsyncStore σ call task note answer) where
  count : σ → ℕ
  remembered : task → Option ℕ
  advances : call → Prop
  invoke_le : ∀ operation s, count s ≤ count (store.invoke operation s).state
  invoke_lt : ∀ operation s, advances operation → count s < count (store.invoke operation s).state
  invoke_remembered : ∀ operation s, ∀ t ∈ (store.invoke operation s).tasks, ∀ n ∈ remembered t,
    n ≤ count (store.invoke operation s).state
  settle_le : ∀ t r s, count s ≤ count (store.settle t r s).state
  settle_remembered : ∀ t r s, ∀ t' ∈ (store.settle t r s).tasks, ∀ n ∈ remembered t',
    n ≤ count (store.settle t r s).state

/-- An event is a call that advances the counter. -/
def Counter.Advance (counter : store.Counter) (e : AsyncEvent call task answer) : Prop :=
  ∃ operation, e = .call operation ∧ counter.advances operation

/-- What is known of the tasks that wait: none remembers a value to come, and one that remembers the
value of the counter was left behind after every call that advanced it. -/
def Counter.Fresh (counter : store.Counter) (events : List (AsyncEvent call task answer))
    (c : AsyncConfig σ task note) : Prop :=
  c.clock = events.length ∧
    ∀ item ∈ c.pending, item.1 < c.clock ∧ ∀ n ∈ counter.remembered item.2,
      n ≤ counter.count c.state ∧
        (n = counter.count c.state → ∀ e ∈ events.drop (item.1 + 1), ¬ counter.Advance e)

omit [DecidableEq task] in
/-- One event more: the counter does not go back, and goes on where the event advances it. -/
theorem Counter.Fresh.after {counter : store.Counter} {waiting : List (ℕ × task)}
    {turn : Turn σ task note} {e : AsyncEvent call task answer}
    (hfresh : counter.Fresh events c) (hwaiting : ∀ item ∈ waiting, item ∈ c.pending)
    (hle : counter.count c.state ≤ counter.count turn.state)
    (hlt : counter.Advance e → counter.count c.state < counter.count turn.state)
    (hnew : ∀ t ∈ turn.tasks, ∀ n ∈ counter.remembered t, n ≤ counter.count turn.state) :
    counter.Fresh (events ++ [e]) (AsyncStore.after waiting turn c) := by
  obtain ⟨hclock, hpending⟩ := hfresh
  refine ⟨by rw [List.length_append, ← hclock]; rfl, fun item hitem => ?_⟩
  rcases mem_after hitem with hold | ⟨hticket, htask⟩
  · obtain ⟨hlt', hremembered⟩ := hpending item (hwaiting item hold)
    refine ⟨Nat.lt_succ_of_lt hlt', fun n hn => ?_⟩
    obtain ⟨hvalue, hquiet⟩ := hremembered n hn
    refine ⟨Nat.le_trans hvalue hle, fun heq e' he' hadvance => ?_⟩
    have hdrop : (events ++ [e]).drop (item.1 + 1) = events.drop (item.1 + 1) ++ [e] :=
      List.drop_append_of_le_length (by omega)
    rw [hdrop] at he'
    rcases List.mem_append.mp he' with he' | he'
    · exact hquiet (Nat.le_antisymm hvalue (heq ▸ hle)) e' he' hadvance
    · obtain rfl := List.mem_singleton.mp he'
      have := hlt hadvance
      simp only [AsyncStore.after] at heq
      omega
  · refine ⟨hticket ▸ Nat.lt_succ_self _, fun n hn => ⟨hnew item.2 htask n hn, fun _ e' he' => ?_⟩⟩
    have hnone : (events ++ [e]).drop (item.1 + 1) = [] := by
      refine List.drop_eq_nil_of_le (Nat.le_of_eq ?_)
      rw [List.length_append, List.length_singleton, hticket, hclock]
    rw [hnone] at he'
    exact absurd he' List.not_mem_nil

/-- **A task that remembers the value of the counter was left behind after every call that advances
it.** -/
theorem Counter.none_since (counter : store.Counter) (hreached : store.Reaches condition events c) :
    counter.Fresh events c := by
  refine hreached.invariant (P := fun events c => counter.Fresh events c) ?_ ?_
  · exact ⟨rfl, fun item hitem => absurd hitem List.not_mem_nil⟩
  · intro events e c c' hfresh _ hstep
    cases e with
    | call operation =>
        rw [step_call] at hstep
        cases hstep
        refine hfresh.after (fun _ h => h) (counter.invoke_le _ _) ?_ (counter.invoke_remembered _ _)
        rintro ⟨operation', heq, hadvances⟩
        cases heq
        exact counter.invoke_lt _ _ hadvances
    | settle ticket t r =>
        obtain ⟨-, rfl⟩ := step_settle hstep
        refine hfresh.after (fun _ h => List.mem_of_mem_erase h) (counter.settle_le _ _ _) ?_
          (counter.settle_remembered _ _ _)
        rintro ⟨operation', heq, -⟩
        cases heq

end AsyncStore

end LibSeek.Lib
