/-
Transactions over a staged state.

A unit of work reads the rows of a store, stages changes to them and ends in a value or in an
exception.  What has been staged is still there when the exception leaves the body: whether it is
kept or thrown away is decided by whoever owns the transaction, which commits, rolls back, or
commits on some of the exceptions only.  A body is therefore a function from a state to an outcome
*and* a state.

Main definitions:

* `Lib.ensure`, `Lib.orRaise` — pure checks;
* `Lib.Tx` — a transaction body, with its monad;
* `Lib.Tx.raise`, `Lib.Tx.require`, `Lib.Tx.ofOption`, `Lib.Tx.ofExcept` — its ways to fail;
* `Lib.Tx.handle` — an exception handler, which sees the staged state;
* `Lib.Tx.commitIf` — the owner's end: commit a value, commit the exceptions that are to be
  committed, roll back the others;
* `Lib.Tx.wp` — **the weakest precondition** of a body, with one postcondition for values and one
  for exceptions.

Main results:

* `Lib.Tx.wp_bind` and its companions — one rule for each way to build a body;
* `Lib.Tx.wp_iff` — the weakest precondition speaks of the body's runs;
* `Lib.Tx.wp_mono`, `Lib.Tx.wp_and` — consequence and conjunction;
* `Lib.Tx.commitIf_cases`, `Lib.Tx.commitIf_wp`, `Lib.Tx.commit_wp` — what a transaction's end can
  leave behind.
-/

import Mathlib.Logic.Basic

set_option relaxedAutoImplicit false
set_option autoImplicit false

namespace LibSeek.Lib

/-! ### Pure checks -/

section Checks

variable {ε α β : Type}

/-- A check: nothing where the condition holds, an error where it does not. -/
def ensure (p : Prop) [Decidable p] (e : ε) : Except ε Unit :=
  if p then .ok () else .error e

/-- The value of an option, or an error. -/
def orRaise (o : Option α) (e : ε) : Except ε α :=
  match o with
  | some a => .ok a
  | none => .error e

@[simp] theorem ensure_eq_ok {p : Prop} [Decidable p] {e : ε} {u : Unit} :
    ensure p e = .ok u ↔ p := by
  by_cases h : p <;> simp [ensure, h]

@[simp] theorem ensure_eq_error {p : Prop} [Decidable p] {e e' : ε} :
    ensure p e = .error e' ↔ ¬ p ∧ e = e' := by
  by_cases h : p <;> simp [ensure, h]

@[simp] theorem orRaise_eq_ok {o : Option α} {e : ε} {a : α} :
    orRaise o e = .ok a ↔ o = some a := by
  cases o <;> simp [orRaise]

@[simp] theorem orRaise_eq_error {o : Option α} {e e' : ε} :
    orRaise o e = .error e' ↔ o = none ∧ e = e' := by
  cases o <;> simp [orRaise]

/-- What succeeds has a value. -/
theorem exists_eq_ok {x : Except ε α} (h : x.isOk = true) : ∃ a, x = .ok a := by
  cases x with
  | ok a => exact ⟨a, rfl⟩
  | error e => cases h

/-- A sequence of checks ends in a value when each of them does. -/
theorem bind_eq_ok {x : Except ε β} {f : β → Except ε α} {a : α} :
    (x >>= f) = .ok a ↔ ∃ b, x = .ok b ∧ f b = .ok a := by
  constructor
  · intro h
    cases x with
    | error e => cases h
    | ok b => exact ⟨b, rfl, h⟩
  · rintro ⟨b, rfl, h⟩
    exact h

/-- It ends in an error when one of them does, and those before it do not. -/
theorem bind_eq_error {x : Except ε β} {f : β → Except ε α} {e : ε} :
    (x >>= f) = .error e ↔ x = .error e ∨ ∃ b, x = .ok b ∧ f b = .error e := by
  cases x with
  | error e' =>
      constructor
      · intro h
        exact Or.inl (congrArg Except.error (Except.error.inj h))
      · rintro (h | ⟨_, hx, -⟩)
        · rw [Except.error.inj h]
          rfl
        · cases hx
  | ok b =>
      constructor
      · intro h
        exact Or.inr ⟨b, rfl, h⟩
      · rintro (h | ⟨_, hx, h⟩)
        · cases h
        · obtain rfl := Except.ok.inj hx
          exact h

/-- Checks of equivalent conditions come to the same. -/
theorem ensure_congr {p q : Prop} {_ : Decidable p} {_ : Decidable q} (h : p ↔ q) (e : ε) :
    ensure p e = ensure q e := by
  by_cases hp : p
  · simp [ensure, hp, h.mp hp]
  · simp [ensure, hp, mt h.mpr hp]

@[simp] theorem pure_eq_ok {a b : α} : (pure a : Except ε α) = .ok b ↔ a = b :=
  ⟨Except.ok.inj, congrArg Except.ok⟩

end Checks

/-- A transaction body: from the state it begins in to its outcome and the state it has staged. -/
def Tx (σ ε α : Type) : Type :=
  σ → Except ε α × σ

namespace Tx

variable {σ ε ε' α β : Type}

/-- The run of a body from a state. -/
def run (m : Tx σ ε α) (s : σ) : Except ε α × σ :=
  m s

instance : Monad (Tx σ ε) where
  pure a := fun s => (.ok a, s)
  bind m f := fun s =>
    match m s with
    | (.ok a, s') => f a s'
    | (.error e, s') => (.error e, s')

/-- A body of three parts can be cut after the first or after the second. -/
theorem bind_assoc {γ : Type} (m : Tx σ ε α) (f : α → Tx σ ε β) (g : β → Tx σ ε γ) :
    m >>= f >>= g = m >>= fun a => f a >>= g := by
  funext s
  simp only [Bind.bind]
  rcases m s with ⟨_ | _, s'⟩ <;> rfl

/-! ### The steps of a body -/

/-- The state staged so far. -/
def get : Tx σ ε σ :=
  fun s => (.ok s, s)

/-- Reading from the state staged so far. -/
def read (f : σ → α) : Tx σ ε α :=
  fun s => (.ok (f s), s)

/-- Staging a change. -/
def modify (f : σ → σ) : Tx σ ε Unit :=
  fun s => (.ok (), f s)

/-- Raising an exception. -/
def raise (e : ε) : Tx σ ε α :=
  fun s => (.error e, s)

/-- Raising an exception unless a condition holds. -/
def require (p : Prop) [Decidable p] (e : ε) : Tx σ ε Unit :=
  if p then pure () else raise e

/-- The value of an option, or an exception. -/
def ofOption (o : Option α) (e : ε) : Tx σ ε α :=
  match o with
  | some a => pure a
  | none => raise e

/-- The value of a pure computation that may fail. -/
def ofExcept (x : Except ε α) : Tx σ ε α :=
  match x with
  | .ok a => pure a
  | .error e => raise e

/-- Handling an exception; what the body staged before it is still staged. -/
def handle (m : Tx σ ε α) (h : ε → Tx σ ε α) : Tx σ ε α :=
  fun s =>
    match m s with
    | (.ok a, s') => (.ok a, s')
    | (.error e, s') => h e s'

/-- Translating the exceptions of a body. -/
def mapError (m : Tx σ ε α) (f : ε → ε') : Tx σ ε' α :=
  fun s =>
    match m s with
    | (.ok a, s') => (.ok a, s')
    | (.error e, s') => (.error (f e), s')

/-- **The end of a transaction.**  A value commits what has been staged.  An exception for which
`keep` holds, given the state staged when it was raised, commits it as well; every other exception
rolls back to the state the transaction began in. -/
def commitIf (keep : ε → σ → Bool) (m : Tx σ ε α) : σ → Except ε α × σ :=
  fun s =>
    match m s with
    | (.ok a, s') => (.ok a, s')
    | (.error e, s') => (.error e, if keep e s' then s' else s)

/-- A transaction that rolls back on every exception. -/
def commit (m : Tx σ ε α) : σ → Except ε α × σ :=
  commitIf (fun _ _ => false) m

/-- A body that works on a part of the state. -/
def zoom {τ : Type} (part : σ → τ) (put : σ → τ → σ) (m : Tx τ ε α) : Tx σ ε α :=
  fun s => ((m (part s)).1, put s (m (part s)).2)

/-! ### Weakest preconditions -/

/-- **The weakest precondition** of a body: from `s` it ends in a value and a state that satisfy
`Q`, or in an exception and a state that satisfy `E`. -/
def wp (m : Tx σ ε α) (Q : α → σ → Prop) (E : ε → σ → Prop) (s : σ) : Prop :=
  match m s with
  | (.ok a, s') => Q a s'
  | (.error e, s') => E e s'

variable {Q Q' : α → σ → Prop} {E E' : ε → σ → Prop} {s : σ}

@[simp] theorem wp_pure (a : α) : wp (pure a : Tx σ ε α) Q E s ↔ Q a s :=
  Iff.rfl

@[simp] theorem wp_bind (m : Tx σ ε β) (f : β → Tx σ ε α) :
    wp (m >>= f) Q E s ↔ wp m (fun b s' => wp (f b) Q E s') E s := by
  change (match (match m s with
    | (.ok a, s') => f a s'
    | (.error e, s') => (.error e, s')) with
    | (.ok a, s') => Q a s'
    | (.error e, s') => E e s') ↔ _
  unfold wp
  rcases m s with ⟨_ | b, s'⟩ <;> exact Iff.rfl

@[simp] theorem wp_get (Q : σ → σ → Prop) : wp (get : Tx σ ε σ) Q E s ↔ Q s s :=
  Iff.rfl

@[simp] theorem wp_read (f : σ → α) : wp (read f : Tx σ ε α) Q E s ↔ Q (f s) s :=
  Iff.rfl

@[simp] theorem wp_modify (f : σ → σ) (Q : Unit → σ → Prop) :
    wp (modify f : Tx σ ε Unit) Q E s ↔ Q () (f s) :=
  Iff.rfl

@[simp] theorem wp_raise (e : ε) : wp (raise e : Tx σ ε α) Q E s ↔ E e s :=
  Iff.rfl

@[simp] theorem wp_require (p : Prop) [Decidable p] (e : ε) (Q : Unit → σ → Prop) :
    wp (require p e : Tx σ ε Unit) Q E s ↔ (p → Q () s) ∧ (¬ p → E e s) := by
  by_cases h : p <;> simp [require, h]

@[simp] theorem wp_ofOption (o : Option α) (e : ε) :
    wp (ofOption o e : Tx σ ε α) Q E s ↔ (∀ a, o = some a → Q a s) ∧ (o = none → E e s) := by
  cases o <;> simp [ofOption]

@[simp] theorem wp_ofExcept (x : Except ε α) :
    wp (ofExcept x : Tx σ ε α) Q E s ↔
      (∀ a, x = .ok a → Q a s) ∧ (∀ e, x = .error e → E e s) := by
  cases x <;> simp [ofExcept]

@[simp] theorem wp_handle (m : Tx σ ε α) (h : ε → Tx σ ε α) :
    wp (handle m h) Q E s ↔ wp m Q (fun e s' => wp (h e) Q E s') s := by
  unfold wp handle
  rcases m s with ⟨_ | a, s'⟩ <;> exact Iff.rfl

@[simp] theorem wp_zoom {τ : Type} (part : σ → τ) (put : σ → τ → σ) (m : Tx τ ε α) :
    wp (zoom part put m) Q E s ↔
      wp m (fun a t => Q a (put s t)) (fun e t => E e (put s t)) (part s) := by
  unfold wp zoom
  rcases m (part s) with ⟨_ | a, t⟩ <;> exact Iff.rfl

@[simp] theorem wp_mapError (m : Tx σ ε α) (f : ε → ε') (E : ε' → σ → Prop) :
    wp (mapError m f) Q E s ↔ wp m Q (fun e s' => E (f e) s') s := by
  unfold wp mapError
  rcases m s with ⟨_ | a, s'⟩ <;> exact Iff.rfl

@[simp] theorem wp_ite (p : Prop) [Decidable p] (m m' : Tx σ ε α) :
    wp (if p then m else m') Q E s ↔ (p → wp m Q E s) ∧ (¬ p → wp m' Q E s) := by
  by_cases h : p <;> simp [h]

/-- The weakest precondition speaks of the runs of the body. -/
theorem wp_iff {m : Tx σ ε α} :
    wp m Q E s ↔ (∀ a s', m.run s = (.ok a, s') → Q a s') ∧
      (∀ e s', m.run s = (.error e, s') → E e s') := by
  unfold wp run
  rcases m s with ⟨_ | a, s'⟩ <;> simp

/-- What the weakest precondition says of a run that ends in a value. -/
theorem wp.ok {m : Tx σ ε α} (h : wp m Q E s) {a : α} {s' : σ} (hr : m.run s = (.ok a, s')) :
    Q a s' :=
  (wp_iff.mp h).1 a s' hr

/-- What the weakest precondition says of a run that ends in an exception. -/
theorem wp.error {m : Tx σ ε α} (h : wp m Q E s) {e : ε} {s' : σ}
    (hr : m.run s = (.error e, s')) : E e s' :=
  (wp_iff.mp h).2 e s' hr

/-- **Consequence.** -/
theorem wp_mono {m : Tx σ ε α} (h : wp m Q E s) (hQ : ∀ a s', Q a s' → Q' a s')
    (hE : ∀ e s', E e s' → E' e s') : wp m Q' E' s := by
  rw [wp_iff] at h ⊢
  exact ⟨fun a s' hr => hQ a s' (h.1 a s' hr), fun e s' hr => hE e s' (h.2 e s' hr)⟩

/-- **Conjunction.** -/
theorem wp_and {m : Tx σ ε α} (h : wp m Q E s) (h' : wp m Q' E' s) :
    wp m (fun a s' => Q a s' ∧ Q' a s') (fun e s' => E e s' ∧ E' e s') s := by
  rw [wp_iff] at h h' ⊢
  exact ⟨fun a s' hr => ⟨h.1 a s' hr, h'.1 a s' hr⟩, fun e s' hr => ⟨h.2 e s' hr, h'.2 e s' hr⟩⟩

/-- A body that raises nothing ends in a value. -/
theorem wp.exists_ok {m : Tx σ ε α} (h : wp m Q (fun _ _ => False) s) :
    ∃ a s', m.run s = (.ok a, s') ∧ Q a s' := by
  rcases hm : m.run s with ⟨e | a, s'⟩
  · exact False.elim (h.error hm)
  · exact ⟨a, s', rfl, h.ok hm⟩

/-- Every body has the postconditions that say nothing. -/
theorem wp_trivial (m : Tx σ ε α) : wp m (fun _ _ => True) (fun _ _ => True) s :=
  wp_iff.mpr ⟨fun _ _ _ => trivial, fun _ _ _ => trivial⟩

/-! ### The end of a transaction -/

/-- **What a transaction can leave behind**: the staged state of a run that ended in a value, the
staged state of a run whose exception is kept, or the state it began in. -/
theorem commitIf_cases {keep : ε → σ → Bool} {m : Tx σ ε α} {x : Except ε α} {s' : σ}
    (h : commitIf keep m s = (x, s')) :
    (∃ a, x = .ok a ∧ m.run s = (.ok a, s')) ∨
      (∃ e, x = .error e ∧ keep e s' = true ∧ m.run s = (.error e, s')) ∨
      (∃ e, x = .error e ∧ s' = s) := by
  unfold commitIf at h
  cases hm : m s with
  | mk y t =>
      rw [hm] at h
      cases y with
      | ok a =>
          obtain ⟨rfl, rfl⟩ := Prod.mk.inj h
          exact Or.inl ⟨a, rfl, hm⟩
      | error e =>
          obtain ⟨rfl, rfl⟩ := Prod.mk.inj h
          by_cases hk : keep e t = true
          · rw [if_pos hk]
            exact Or.inr (Or.inl ⟨e, rfl, hk, hm⟩)
          · rw [if_neg hk]
            exact Or.inr (Or.inr ⟨e, rfl, rfl⟩)

/-- A transaction that rolls back on every exception leaves the staged state of a run that ended
in a value, or the state it began in. -/
theorem commit_cases {m : Tx σ ε α} {x : Except ε α} {s' : σ} (h : commit m s = (x, s')) :
    (∃ a, x = .ok a ∧ m.run s = (.ok a, s')) ∨ (∃ e, x = .error e ∧ s' = s) := by
  rcases commitIf_cases h with hok | ⟨e, -, hk, -⟩ | herr
  · exact Or.inl hok
  · cases hk
  · exact Or.inr herr

/-- The end of a transaction that rolls back on every exception, from its weakest precondition: what
a value leaves behind, and the exceptions that leave the state as it was. -/
theorem commit_wp {m : Tx σ ε α} (h : wp m Q E s) :
    (∃ a, (commit m s).1 = .ok a ∧ Q a (commit m s).2) ∨
      ∃ e staged, (commit m s).1 = .error e ∧ (commit m s).2 = s ∧ E e staged := by
  unfold commit commitIf
  unfold wp at h
  rcases hm : m s with ⟨_ | a, s'⟩
  · rw [hm] at h
    exact Or.inr ⟨_, s', rfl, by simp, h⟩
  · rw [hm] at h
    exact Or.inl ⟨a, rfl, h⟩

/-- The end of a transaction that rolls back on every exception, as the pair that it returns. -/
theorem commit_wp_eq {m : Tx σ ε α} (h : wp m Q E s) :
    (∃ a s', commit m s = (.ok a, s') ∧ Q a s') ∨
      ∃ e staged, commit m s = (.error e, s) ∧ E e staged := by
  rcases commit_wp h with ⟨a, hvalue, hq⟩ | ⟨e, staged, herror, hsame, he⟩
  · exact Or.inl ⟨a, _, Prod.ext hvalue rfl, hq⟩
  · exact Or.inr ⟨e, staged, Prod.ext herror hsame, he⟩

/-- What the weakest precondition says of a transaction that was committed with a value. -/
theorem wp.commit_ok {m : Tx σ ε α} {a : α} {s' : σ} (h : wp m Q E s)
    (hcommit : commit m s = (.ok a, s')) : Q a s' := by
  rcases commit_cases hcommit with ⟨b, hb, hrun⟩ | ⟨e, he, -⟩
  · cases hb
    exact h.ok hrun
  · cases he

/-- **The rule of a transaction's end**: what holds of the state it began in, of what a value
leaves staged and of what a kept exception leaves staged, holds of the state left behind. -/
theorem commitIf_wp {keep : ε → σ → Bool} {m : Tx σ ε α} {P : σ → Prop} {s : σ}
    (h : wp m (fun _ s' => P s') (fun e s' => keep e s' = true → P s') s) (hs : P s) :
    P (commitIf keep m s).2 := by
  have hcases := commitIf_cases (show commitIf keep m s = (_, (commitIf keep m s).2) from rfl)
  rcases hcases with ⟨a, -, hrun⟩ | ⟨e, -, hkeep, hrun⟩ | ⟨e, -, heq⟩
  · exact h.ok hrun
  · exact h.error hrun hkeep
  · rw [heq]
    exact hs

end Tx

end LibSeek.Lib
