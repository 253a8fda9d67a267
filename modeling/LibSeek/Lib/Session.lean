/-
Sessions on a store.

A request is served with one session on the store.  The session stages the changes of the units of
work it runs, and commits or rolls them back where the code that serves the request says so; what is
staged when the request ends is thrown away.  Between two of its transactions others may commit.
A session keeps the list of what it has committed, so that one can say what a request that ends in
an exception has left behind.

A session also holds the rows that it has read as objects, and does not read them again: what it
decides, it decides on what it has read, and of what it changes only the columns are written whose
values differ from those that were read.

Main definitions:

* `Lib.Session` — a session: what is committed, what is staged, what it has committed;
* `Lib.InSession` — code that runs in a session;
* `Lib.InSession.service`, `Lib.InSession.commit`, `Lib.InSession.rollback`,
  `Lib.InSession.outside` — its steps;
* `Lib.InSession.Along` — a session that has only moved along a relation;
* `Lib.InSession.FailsCleanly` — **error atomicity**: a run that ends in an exception has only made
  commits of a given kind;
* `Lib.writeBack` — **what is written** of a column of an object that a session holds.

Main results:

* `Lib.InSession.wp_service` and its companions — one rule for each step;
* `Lib.InSession.Along.service`, `Lib.InSession.Along.commit` — the rules of such a session;
* `Lib.InSession.failsCleanly_iff` — error atomicity speaks of the runs.
-/

import LibSeek.Lib.Transaction

set_option relaxedAutoImplicit false
set_option autoImplicit false

namespace LibSeek.Lib

/-- A session on a store. -/
structure Session (σ : Type) where
  /-- What is committed, by this session or by others. -/
  committed : σ
  /-- What the open transaction has made of it. -/
  staged : σ
  /-- The commits of this session: the state before each of them, and after. -/
  commits : List (σ × σ)

namespace Session

variable {σ : Type}

/-- A session that has done nothing yet. -/
def opened (s : σ) : Session σ where
  committed := s
  staged := s
  commits := []

@[simp] theorem opened_staged (s : σ) : (opened s).staged = s :=
  rfl

@[simp] theorem opened_committed (s : σ) : (opened s).committed = s :=
  rfl

@[simp] theorem opened_commits (s : σ) : (opened s).commits = [] :=
  rfl

end Session

/-- Code that runs in a session on a store. -/
abbrev InSession (σ ε α : Type) : Type :=
  Tx (Session σ) ε α

namespace InSession

variable {σ ε α : Type}

/-! ### The steps -/

/-- A unit of work on what is staged. -/
def service (m : Tx σ ε α) : InSession σ ε α :=
  fun t => ((m t.staged).1, { t with staged := (m t.staged).2 })

/-- Committing what is staged. -/
def commit : InSession σ ε Unit :=
  Tx.modify fun t =>
    { t with committed := t.staged, commits := t.commits ++ [(t.committed, t.staged)] }

/-- Throwing away what is staged. -/
def rollback : InSession σ ε Unit :=
  Tx.modify fun t => { t with staged := t.committed }

/-- What others commit while no transaction is open. -/
def outside (others : σ → σ) : InSession σ ε Unit :=
  Tx.modify fun t =>
    { t with committed := others t.committed, staged := others t.committed }

variable {Q : α → Session σ → Prop} {E : ε → Session σ → Prop} {t : Session σ}

theorem wp_service (m : Tx σ ε α) :
    Tx.wp (service m) Q E t ↔
      Tx.wp m (fun a s => Q a { t with staged := s }) (fun e s => E e { t with staged := s })
        t.staged := by
  unfold Tx.wp service
  rcases m t.staged with ⟨_ | a, s⟩ <;> exact Iff.rfl

@[simp] theorem wp_commit (Q : Unit → Session σ → Prop) :
    Tx.wp (commit : InSession σ ε Unit) Q E t ↔
      Q () { t with committed := t.staged, commits := t.commits ++ [(t.committed, t.staged)] } :=
  Iff.rfl

@[simp] theorem wp_rollback (Q : Unit → Session σ → Prop) :
    Tx.wp (rollback : InSession σ ε Unit) Q E t ↔ Q () { t with staged := t.committed } :=
  Iff.rfl

@[simp] theorem wp_outside (others : σ → σ) (Q : Unit → Session σ → Prop) :
    Tx.wp (outside others : InSession σ ε Unit) Q E t ↔
      Q () { t with committed := others t.committed, staged := others t.committed } :=
  Iff.rfl

/-! ### Sessions that move along a relation -/

/-- A session on a store has only moved along a relation: what is committed has come from the store
it was opened on, and what is staged from what is committed. -/
structure Along (R : σ → σ → Prop) (s : σ) (t : Session σ) : Prop where
  committed : R s t.committed
  staged : R t.committed t.staged

section Along

variable {R : σ → σ → Prop} {s : σ} {K : ε → Prop}

theorem Along.opened (hrefl : ∀ s, R s s) (s : σ) : Along R s (Session.opened s) :=
  ⟨hrefl s, hrefl s⟩

/-- The rule of a unit of work: what it stages, and what it stages before an exception that the
session may commit, comes from what was staged. -/
theorem Along.service (ht : Along R s t) (htrans : ∀ {s s' s''}, R s s' → R s' s'' → R s s'')
    {m : Tx σ ε α} {P : α → σ → Prop}
    (h : Tx.wp m (fun a s' => R t.staged s' ∧ P a s') (fun e s' => K e → R t.staged s') t.staged)
    (hQ : ∀ a s', P a s' → Along R s { t with staged := s' } → Q a { t with staged := s' }) :
    Tx.wp (InSession.service m) Q
      (fun e t' => R s t'.committed ∧ (K e → R t'.committed t'.staged)) t := by
  refine (wp_service m).mpr (Tx.wp_mono h (fun a s' h => ?_) fun e s' h => ?_)
  · exact hQ a s' h.2 ⟨ht.committed, htrans ht.staged h.1⟩
  · exact ⟨ht.committed, fun hk => htrans ht.staged (h hk)⟩

/-- What is committed has come from the store the session was opened on. -/
theorem Along.commit (ht : Along R s t) (hrefl : ∀ s, R s s)
    (htrans : ∀ {s s' s''}, R s s' → R s' s'' → R s s'') :
    Along R s
      { t with committed := t.staged, commits := t.commits ++ [(t.committed, t.staged)] } :=
  ⟨htrans ht.committed ht.staged, hrefl t.staged⟩

end Along

/-! ### Error atomicity -/

/-- The run of a request, from a store. -/
def serve (m : InSession σ ε α) (s : σ) : Except ε α × Session σ :=
  m.run (Session.opened s)

/-- **Error atomicity**: a request that ends in an exception has only made commits of a given
kind. -/
def FailsCleanly (R : σ → σ → Prop) (m : InSession σ ε α) (s : σ) : Prop :=
  ∀ e t, m.serve s = (.error e, t) → ∀ c ∈ t.commits, R c.1 c.2

/-- Error atomicity as a weakest precondition. -/
theorem failsCleanly_iff {R : σ → σ → Prop} {m : InSession σ ε α} {s : σ} :
    FailsCleanly R m s ↔
      Tx.wp m (fun _ _ => True) (fun _ t => ∀ c ∈ t.commits, R c.1 c.2) (Session.opened s) := by
  rw [Tx.wp_iff]
  exact ⟨fun h => ⟨fun _ _ _ => trivial, h⟩, fun h => h.2⟩

end InSession

/-! ### Objects that a session holds -/

section Held

variable {α : Type} [DecidableEq α]

/-- **What is written of a column** of an object: `held` is what the session has read, `value` what
it has set, and `row` what the row has by now. -/
def writeBack (held value row : α) : α :=
  if value = held then row else value

/-- What has been read of a row that has not changed is written as it is set. -/
@[simp] theorem writeBack_self (row value : α) : writeBack row value row = value := by
  unfold writeBack
  split
  · exact (‹value = row›).symm
  · rfl

/-- A column that is set to what was read is not written. -/
@[simp] theorem writeBack_unset (held row : α) : writeBack held held row = row :=
  if_pos rfl

/-- A column that is set to something else is written. -/
theorem writeBack_of_ne {held value : α} (h : value ≠ held) (row : α) :
    writeBack held value row = value :=
  if_neg h

/-- A column is written as it is set, or it stays. -/
theorem writeBack_eq_or (held value row : α) :
    writeBack held value row = value ∨ writeBack held value row = row := by
  by_cases h : value = held
  · exact Or.inr (if_pos h)
  · exact Or.inl (writeBack_of_ne h row)

end Held

end LibSeek.Lib
