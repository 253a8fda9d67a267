/-
Bodies that move.

Where one relation says what a single change can do to a state, a transaction body is a sequence of
such changes.  Then what every change preserves is preserved by the body, and so by a transaction
that commits it.  Where a caller may commit what was staged before an exception, the body has to
make such changes up to the exception as well.

Main definitions:

* `Lib.Moves` — sequences of changes;
* `Lib.Does` — **a body that makes only such changes**, with what holds of its value;
* `Lib.Throughout` — a body that makes only such changes also where it raises.

Main results:

* `Lib.Does.bind` and its companions — one rule for each way to build a body;
* `Lib.Throughout.bind` and its companions — the same for bodies that raise;
* `Lib.Does.commit`, `Lib.Throughout.commitIf` — what a transaction leaves behind;
* `Lib.Moves.invariant` — what every change preserves.
-/

import LibSeek.Lib.Transaction
import Mathlib.Logic.Relation

set_option relaxedAutoImplicit false
set_option autoImplicit false

namespace LibSeek.Lib

variable {σ ε α β : Type} {step : σ → σ → Prop} {s : σ}

/-- The states that are reached by some changes. -/
abbrev Moves (step : σ → σ → Prop) : σ → σ → Prop :=
  Relation.ReflTransGen step

/-- What every change preserves is preserved by a sequence of them. -/
theorem Moves.invariant {P : σ → Prop} {s s' : σ} (h : Moves step s s') (hs : P s)
    (hstep : ∀ t t', P t → step t t' → P t') : P s' := by
  induction h with
  | refl => exact hs
  | tail _ hlast ih => exact hstep _ _ ih hlast

/-- Changes of one kind are changes of another one. -/
theorem Moves.mono {step' : σ → σ → Prop} {s s' : σ} (h : Moves step s s')
    (hle : ∀ t t', step t t' → step' t t') : Moves step' s s' := by
  induction h with
  | refl => exact Relation.ReflTransGen.refl
  | tail _ hlast ih => exact ih.tail (hle _ _ hlast)

/-- **A body that makes only such changes**, and whose value satisfies a postcondition. -/
def Does (step : σ → σ → Prop) (m : Tx σ ε α) (Q : α → σ → Prop) (s : σ) : Prop :=
  Tx.wp m (fun a s' => Moves step s s' ∧ Q a s') (fun _ _ => True) s

section Rules

variable {Q Q' : α → σ → Prop}

theorem Does.mono {m : Tx σ ε α} (h : Does step m Q s) (hle : ∀ a s', Q a s' → Q' a s') :
    Does step m Q' s :=
  Tx.wp_mono h (fun a s' hq => ⟨hq.1, hle a s' hq.2⟩) fun _ _ => id

theorem Does.moves {step' : σ → σ → Prop} {m : Tx σ ε α} (h : Does step m Q s)
    (hle : ∀ t t', step t t' → step' t t') : Does step' m Q s :=
  Tx.wp_mono h (fun _ _ hq => ⟨hq.1.mono hle, hq.2⟩) fun _ _ => id

theorem does_pure {a : α} (h : Q a s) : Does step (pure a : Tx σ ε α) Q s :=
  (Tx.wp_pure a).mpr ⟨Relation.ReflTransGen.refl, h⟩

/-- **The rule of sequences**: what the rest does, it does after the changes made so far. -/
theorem Does.bind {m : Tx σ ε β} {f : β → Tx σ ε α} {P : β → σ → Prop} (h : Does step m P s)
    (hf : ∀ b s', Moves step s s' → P b s' → Does step (f b) Q s') : Does step (m >>= f) Q s := by
  refine (Tx.wp_bind m f).mpr (Tx.wp_mono h ?_ fun _ _ => id)
  intro b s' hb
  refine Tx.wp_mono (hf b s' hb.1 hb.2) ?_ fun _ _ => id
  exact fun a s'' ha => ⟨hb.1.trans ha.1, ha.2⟩

theorem does_get {f : σ → Tx σ ε α} (h : Does step (f s) Q s) :
    Does step (Tx.get >>= f) Q s :=
  (Tx.wp_bind _ f).mpr ((Tx.wp_get _).mpr h)

theorem does_require {p : Prop} [Decidable p] {e : ε} {f : Unit → Tx σ ε α}
    (h : p → Does step (f ()) Q s) : Does step (Tx.require p e >>= f) Q s :=
  (Tx.wp_bind _ f).mpr ((Tx.wp_require p e _).mpr ⟨h, fun _ => trivial⟩)

theorem does_ofOption {o : Option β} {e : ε} {f : β → Tx σ ε α}
    (h : ∀ b, o = some b → Does step (f b) Q s) : Does step (Tx.ofOption o e >>= f) Q s :=
  (Tx.wp_bind _ f).mpr ((Tx.wp_ofOption o e).mpr ⟨h, fun _ => trivial⟩)

theorem does_ofExcept {x : Except ε β} {f : β → Tx σ ε α}
    (h : ∀ b, x = .ok b → Does step (f b) Q s) : Does step (Tx.ofExcept x >>= f) Q s :=
  (Tx.wp_bind _ f).mpr ((Tx.wp_ofExcept x).mpr ⟨h, fun _ _ => trivial⟩)

/-- A change that is staged. -/
theorem does_modify {f : σ → σ} {R : Unit → σ → Prop} (hstep : step s (f s)) (h : R () (f s)) :
    Does step (Tx.modify f : Tx σ ε Unit) R s :=
  (Tx.wp_modify f _).mpr ⟨Relation.ReflTransGen.single hstep, h⟩

theorem does_ite {p : Prop} [Decidable p] {m m' : Tx σ ε α} (h : p → Does step m Q s)
    (h' : ¬ p → Does step m' Q s) : Does step (if p then m else m') Q s :=
  (Tx.wp_ite p m m').mpr ⟨h, h'⟩

/-- What holds of a body for two reasons holds of it. -/
theorem Does.and {step' : σ → σ → Prop} {m : Tx σ ε α} (h : Does step m Q s)
    (h' : Does step' m Q' s) : Does step m (fun a s' => Q a s' ∧ Q' a s') s :=
  Tx.wp_mono (Tx.wp_and h h') (fun _ _ hq => ⟨hq.1.1, hq.1.2, hq.2.2⟩) fun _ _ _ => trivial

/-- A body that makes the changes that its weakest precondition shows. -/
theorem does_of_wp {m : Tx σ ε α}
    (h : Tx.wp m (fun a s' => Moves step s s' ∧ Q a s') (fun _ _ => True) s) : Does step m Q s :=
  h

end Rules

/-- **What a transaction leaves behind**: what its changes make, or the state it began in. -/
theorem Does.commit {m : Tx σ ε α} {Q : α → σ → Prop} (h : Does step m Q s) :
    Moves step s (Tx.commit m s).2 := by
  rcases Tx.commit_wp h with ⟨a, -, hmoves, -⟩ | ⟨e, staged, -, hsame, -⟩
  · exact hmoves
  · rw [hsame]

/-! ### Bodies that move also where they raise -/

/-- **A body that makes only such changes**, also before it raises, and whose value satisfies a
postcondition. -/
def Throughout (step : σ → σ → Prop) (m : Tx σ ε α) (Q : α → σ → Prop) (s : σ) : Prop :=
  Tx.wp m (fun a s' => Moves step s s' ∧ Q a s') (fun _ s' => Moves step s s') s

section Throughout

variable {Q Q' : α → σ → Prop}

theorem Throughout.mono {m : Tx σ ε α} (h : Throughout step m Q s)
    (hle : ∀ a s', Q a s' → Q' a s') : Throughout step m Q' s :=
  Tx.wp_mono h (fun a s' hq => ⟨hq.1, hle a s' hq.2⟩) fun _ _ => id

theorem throughout_pure {a : α} (h : Q a s) : Throughout step (pure a : Tx σ ε α) Q s :=
  (Tx.wp_pure a).mpr ⟨Relation.ReflTransGen.refl, h⟩

/-- **The rule of sequences.** -/
theorem Throughout.bind {m : Tx σ ε β} {f : β → Tx σ ε α} {P : β → σ → Prop}
    (h : Throughout step m P s) (hf : ∀ b s', P b s' → Throughout step (f b) Q s') :
    Throughout step (m >>= f) Q s := by
  refine (Tx.wp_bind m f).mpr (Tx.wp_mono h ?_ fun _ _ => id)
  intro b s' hb
  exact Tx.wp_mono (hf b s' hb.2) (fun a s'' ha => ⟨hb.1.trans ha.1, ha.2⟩)
    fun _ s'' hs => hb.1.trans hs

theorem throughout_get {f : σ → Tx σ ε α} (h : Throughout step (f s) Q s) :
    Throughout step (Tx.get >>= f) Q s :=
  (Tx.wp_bind _ f).mpr ((Tx.wp_get _).mpr h)

theorem throughout_require {p : Prop} [Decidable p] {e : ε} {f : Unit → Tx σ ε α}
    (h : p → Throughout step (f ()) Q s) : Throughout step (Tx.require p e >>= f) Q s :=
  (Tx.wp_bind _ f).mpr
    ((Tx.wp_require p e _).mpr ⟨h, fun _ => Relation.ReflTransGen.refl⟩)

theorem throughout_ofOption {o : Option β} {e : ε} {f : β → Tx σ ε α}
    (h : ∀ b, o = some b → Throughout step (f b) Q s) :
    Throughout step (Tx.ofOption o e >>= f) Q s :=
  (Tx.wp_bind _ f).mpr
    ((Tx.wp_ofOption o e).mpr ⟨h, fun _ => Relation.ReflTransGen.refl⟩)

theorem throughout_ofExcept {x : Except ε β} {f : β → Tx σ ε α}
    (h : ∀ b, x = .ok b → Throughout step (f b) Q s) :
    Throughout step (Tx.ofExcept x >>= f) Q s :=
  (Tx.wp_bind _ f).mpr
    ((Tx.wp_ofExcept x).mpr ⟨h, fun _ _ => Relation.ReflTransGen.refl⟩)

theorem throughout_raise {e : ε} : Throughout step (Tx.raise e : Tx σ ε α) Q s :=
  (Tx.wp_raise e).mpr Relation.ReflTransGen.refl

/-- Changes that are staged. -/
theorem throughout_modify {f : σ → σ} {R : Unit → σ → Prop} (hmoves : Moves step s (f s))
    (h : R () (f s)) : Throughout step (Tx.modify f : Tx σ ε Unit) R s :=
  (Tx.wp_modify f _).mpr ⟨hmoves, h⟩

theorem throughout_ite {p : Prop} [Decidable p] {m m' : Tx σ ε α}
    (h : p → Throughout step m Q s) (h' : ¬ p → Throughout step m' Q s) :
    Throughout step (if p then m else m') Q s :=
  (Tx.wp_ite p m m').mpr ⟨h, h'⟩

/-- A body that raises is made up for by one that does the same. -/
theorem throughout_handle {m : Tx σ ε α} {f : ε → Tx σ ε α} (h : Throughout step m Q s)
    (hf : ∀ e s', Throughout step (f e) Q s') : Throughout step (Tx.handle m f) Q s :=
  (Tx.wp_handle m f).mpr <| Tx.wp_mono h (fun _ _ => id) fun e s' hs =>
    Tx.wp_mono (hf e s') (fun _ _ ha => ⟨hs.trans ha.1, ha.2⟩) fun _ _ hs' => hs.trans hs'

/-- A body that makes such changes throughout makes them. -/
theorem Throughout.does {m : Tx σ ε α} (h : Throughout step m Q s) : Does step m Q s :=
  Tx.wp_mono h (fun _ _ => id) fun _ _ _ => trivial

/-- **What a transaction leaves behind** that may commit on an exception. -/
theorem Throughout.commitIf {m : Tx σ ε α} {keep : ε → σ → Bool} (h : Throughout step m Q s) :
    Moves step s (Tx.commitIf keep m s).2 :=
  Tx.commitIf_wp (Tx.wp_mono h (fun _ _ hq => hq.1) fun _ _ hs _ => hs) Relation.ReflTransGen.refl

end Throughout

end LibSeek.Lib
