/-
Validations under limits.

A validation may be run twice under different limits.  The two runs agree when the limits matter
only in that some of them must not be exceeded: where one run accepts, the other accepts exactly
when its own limits are met, and with the same result.  This is a property that sequencing
preserves, so that it is shown of a whole validation from its checks.

Main definitions:

* `Lib.Gated` — a validation whose limits only gate it.

Main results:

* `Lib.Gated.bind`, `Lib.Gated.ensure`, `Lib.Gated.const` — how gated validations are built;
* `Lib.Gated.ok_iff` — **what an accepting run says of a run under other limits**.
-/

import LibSeek.Lib.Transaction

set_option relaxedAutoImplicit false
set_option autoImplicit false

namespace LibSeek.Lib

variable {ι ε α β : Type}

/-- A validation whose limits only gate it: where it accepts under some limits, it accepts under
others exactly when those pass the gate, and with the same result. -/
def Gated (validate : ι → Except ε α) (gate : ι → Prop) : Prop :=
  ∀ i r, validate i = .ok r → ∀ j r', validate j = .ok r' ↔ r' = r ∧ gate j

namespace Gated

variable {gate g : ι → Prop}

/-- **What an accepting run says of a run under other limits.** -/
theorem ok_iff {validate : ι → Except ε α} (h : Gated validate gate) {i j : ι} {r : α}
    (hr : validate i = .ok r) : validate j = .ok r ↔ gate j := by
  rw [h i r hr j r]
  exact ⟨fun hj => hj.2, fun hj => ⟨rfl, hj⟩⟩

/-- A gate may be replaced by another one that says the same of every accepting validation. -/
theorem congr {validate : ι → Except ε α} (h : Gated validate gate)
    (hgate : ∀ i r, validate i = .ok r → ∀ j, gate j ↔ g j) : Gated validate g := by
  intro i r hr j r'
  rw [h i r hr j r', hgate i r hr j]

/-- A validation under a limit that is computed from others. -/
theorem comap {κ : Type} {validate : ι → Except ε α} (h : Gated validate gate) (f : κ → ι) :
    Gated (fun k => validate (f k)) fun k => gate (f k) :=
  fun i r hr j r' => h (f i) r hr (f j) r'

/-- A validation whose result is mapped. -/
theorem map {validate : ι → Except ε α} (h : Gated validate gate) (f : α → β) :
    Gated (fun i => (validate i).map f) gate := by
  have hmap {x : Except ε α} {b : β} : x.map f = .ok b ↔ ∃ a, x = .ok a ∧ f a = b := by
    cases x <;> simp [Except.map]
  intro i r hr j r'
  obtain ⟨a, ha, rfl⟩ := hmap.mp hr
  rw [hmap]
  constructor
  · rintro ⟨a', ha', rfl⟩
    obtain ⟨rfl, hgate⟩ := (h i a ha j a').mp ha'
    exact ⟨rfl, hgate⟩
  · rintro ⟨rfl, hgate⟩
    exact ⟨a, (h i a ha j a).mpr ⟨rfl, hgate⟩, rfl⟩

/-- A validation without limits. -/
theorem const (x : Except ε α) : Gated (fun _ : ι => x) fun _ => True := by
  intro i r hr j r'
  simp only [hr, Except.ok.injEq, and_true]
  exact eq_comm

/-- A check of a limit. -/
theorem ensure (p : Prop) [Decidable p] (gate : ι → Prop) [DecidablePred gate] (e : ε) :
    Gated (fun i => Lib.ensure (p ∧ gate i) e) gate := by
  intro i r hr j r'
  have hp : p ∧ gate i := ensure_eq_ok.mp hr
  rw [ensure_eq_ok]
  exact ⟨fun hj => ⟨rfl, hj.2⟩, fun hj => ⟨hp.1, hj.2⟩⟩

/-- **Sequencing**: both gates must be passed. -/
theorem bind {x : ι → Except ε β} {f : β → ι → Except ε α} (hx : Gated x gate)
    (hf : ∀ b i, x i = .ok b → Gated (f b) g) :
    Gated (fun i => x i >>= fun b => f b i) fun i => gate i ∧ g i := by
  intro i r hr j r'
  obtain ⟨b, hb, hfb⟩ := bind_eq_ok.mp hr
  rw [bind_eq_ok]
  constructor
  · rintro ⟨b', hb', hfb'⟩
    obtain ⟨rfl, hgate⟩ := (hx i b hb j b').mp hb'
    obtain ⟨rfl, hgate'⟩ := (hf b' i hb i r hfb j r').mp hfb'
    exact ⟨rfl, hgate, hgate'⟩
  · rintro ⟨rfl, hgate, hgate'⟩
    exact ⟨b, (hx i b hb j b).mpr ⟨rfl, hgate⟩, (hf b i hb i r' hfb j r').mpr ⟨rfl, hgate'⟩⟩

/-- Sequencing after a validation without limits. -/
theorem bind_const {x : Except ε β} {f : β → ι → Except ε α}
    (hf : ∀ b, x = .ok b → Gated (f b) gate) :
    Gated (fun i => x >>= fun b => f b i) gate :=
  ((const x).bind fun b _ hb => hf b hb).congr fun _ _ _ j => by simp

/-- Sequencing before a validation without limits. -/
theorem bind_of_const {x : ι → Except ε β} {f : β → Except ε α} (hx : Gated x gate) :
    Gated (fun i => x i >>= f) gate :=
  (hx.bind (g := fun _ => True) fun b _ _ => const (f b)).congr fun _ _ _ j => by simp

end Gated

end LibSeek.Lib
