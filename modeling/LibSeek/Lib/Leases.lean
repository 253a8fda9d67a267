/-
Leases.

Workers claim the entries of a store.  A claim counts up the number of the entry, leaves a token in
it and gives the worker a ticket, with which it comes back later, or never.  The token is removed
when the entry is released, and it is written over when the entry is claimed again.  A worker is
fenced off by a comparison of its token with that of the entry: if no token is drawn twice, it passes
for the last ticket of an entry only.

Main definitions:

* `Lib.Entry`, `Lib.Ticket`, `Lib.Ledger` — an entry, a ticket, and the store with the tickets;
* `Lib.Ledger.Step` — **what happens to a store**;
* `Lib.Ledger.Sound` — what holds of every store that is reached.

Main results:

* `Lib.Ledger.Step.sound` — every step keeps a ledger sound;
* `Lib.Ledger.Sound.length_tickets` — an entry has as many tickets as its number says;
* `Lib.Ledger.Sound.last` — **the ticket whose token an entry holds is the last one of the entry**.
-/

import Mathlib.Data.List.Nodup
import Mathlib.Data.List.Range
import Mathlib.Logic.Function.Basic

set_option relaxedAutoImplicit false
set_option autoImplicit false

namespace LibSeek.Lib

variable {κ τ : Type} [DecidableEq κ]

/-! ### Ledgers -/

/-- An entry: how often it was claimed, and the token of the claim that holds it. -/
structure Entry (τ : Type) where
  number : ℕ := 0
  holder : Option τ := none

/-- What a worker keeps of a claim. -/
structure Ticket (κ τ : Type) where
  key : κ
  number : ℕ
  token : τ

/-- A store of entries, with all the tickets that were ever given out, the last one first. -/
structure Ledger (κ τ : Type) where
  entries : κ → Option (Entry τ) := fun _ => none
  tickets : List (Ticket κ τ) := []

namespace Ledger

/-- The ledger in which an entry is written. -/
def put (l : Ledger κ τ) (k : κ) (e : Entry τ) : Ledger κ τ :=
  { l with entries := Function.update l.entries k (some e) }

/-- **What happens to a store**: an entry is new, is claimed, or is released. -/
inductive Step : Ledger κ τ → Ledger κ τ → Prop
  | enter {l : Ledger κ τ} {k : κ} (h : l.entries k = none) : Step l (l.put k {})
  | claim {l : Ledger κ τ} {k : κ} {e : Entry τ} (t : τ) (h : l.entries k = some e) :
      Step l { l.put k { number := e.number + 1, holder := some t } with
        tickets := { key := k, number := e.number + 1, token := t } :: l.tickets }
  | release {l : Ledger κ τ} {k : κ} {e : Entry τ} (h : l.entries k = some e) :
      Step l (l.put k { e with holder := none })

/-- The numbers of the tickets of an entry, the last one first. -/
def numbers (l : Ledger κ τ) (k : κ) : List ℕ :=
  (l.tickets.filter fun c => c.key = k).map Ticket.number

/-- What holds of every store that is reached: the tickets of an entry are numbered from one to its
number, and whoever holds it has the last one. -/
structure Sound (l : Ledger κ τ) : Prop where
  numbered : ∀ k e, l.entries k = some e → (l.numbers k).reverse = List.range' 1 e.number
  known : ∀ c ∈ l.tickets, (l.entries c.key).isSome = true
  held : ∀ k e t, l.entries k = some e → e.holder = some t →
    { key := k, number := e.number, token := t } ∈ l.tickets

/-! ### Steps -/

section Steps

variable {l l' : Ledger κ τ}

@[simp] theorem put_entries (k : κ) (e : Entry τ) :
    (l.put k e).entries = Function.update l.entries k (some e) := rfl

@[simp] theorem put_tickets (k : κ) (e : Entry τ) : (l.put k e).tickets = l.tickets := rfl

/-- What is read of a ledger in which an entry is written. -/
theorem update_eq_some {f : κ → Option (Entry τ)} {k k' : κ} {e e' : Entry τ}
    (h : Function.update f k (some e) k' = some e') :
    (k' = k ∧ e' = e) ∨ (k' ≠ k ∧ f k' = some e') := by
  by_cases hk : k' = k
  · subst hk
    rw [Function.update_self] at h
    exact Or.inl ⟨rfl, (Option.some.inj h).symm⟩
  · rw [Function.update_of_ne hk] at h
    exact Or.inr ⟨hk, h⟩

/-- An entry stays one. -/
theorem update_isSome {f : κ → Option (Entry τ)} {k k' : κ} {e : Entry τ}
    (h : (f k').isSome = true) : (Function.update f k (some e) k').isSome = true := by
  by_cases hk : k' = k
  · subst hk
    rw [Function.update_self]
    rfl
  · rwa [Function.update_of_ne hk]

theorem sound_empty : ({} : Ledger κ τ).Sound where
  numbered _ _ h := by cases h
  known _ h := absurd h List.not_mem_nil
  held _ _ _ h := by cases h

/-- An entry that there is not has no tickets. -/
theorem Sound.numbers_of_none (h : l.Sound) {k : κ} (hk : l.entries k = none) :
    l.numbers k = [] := by
  unfold numbers
  rw [List.map_eq_nil_iff, List.filter_eq_nil_iff]
  intro c hc hkey
  have hknown := h.known c hc
  rw [of_decide_eq_true hkey, hk] at hknown
  cases hknown

/-- The numbers of the tickets of an entry that is claimed. -/
theorem numbers_cons (entries : κ → Option (Entry τ)) (c : Ticket κ τ) (k : κ) :
    numbers { entries, tickets := c :: l.tickets } k =
      if c.key = k then c.number :: l.numbers k else l.numbers k := by
  unfold numbers
  rw [List.filter_cons]
  by_cases h : c.key = k <;> simp [h]

/-- **Every step keeps a ledger sound.** -/
theorem Step.sound (hstep : Step l l') (h : l.Sound) : l'.Sound := by
  cases hstep with
  | @enter k hk =>
      refine ⟨fun k' e he => ?_, fun c hc => update_isSome (h.known c hc),
        fun k' e t he ht => ?_⟩
      · change (l.numbers k').reverse = _
        rcases update_eq_some he with ⟨rfl, rfl⟩ | ⟨-, he⟩
        · rw [h.numbers_of_none hk]
          rfl
        · exact h.numbered k' e he
      · rcases update_eq_some he with ⟨-, rfl⟩ | ⟨-, he⟩
        · cases ht
        · exact h.held k' e t he ht
  | @claim k e t hk =>
      refine ⟨fun k' e' he => ?_, fun c hc => ?_, fun k' e' t' he ht => ?_⟩
      -- the new ticket has the next number of its key
      · rw [numbers_cons]
        rcases update_eq_some he with ⟨rfl, rfl⟩ | ⟨hne, he⟩
        · rw [if_pos rfl, List.reverse_cons, h.numbered k' e hk, List.range'_1_concat,
            Nat.add_comm]
        · rw [if_neg fun heq => hne heq.symm]
          exact h.numbered k' e' he
      · rcases List.mem_cons.mp hc with rfl | hc
        · exact update_isSome (Option.isSome_iff_exists.mpr ⟨e, hk⟩)
        · exact update_isSome (h.known c hc)
      · rcases update_eq_some he with ⟨rfl, rfl⟩ | ⟨-, he⟩
        · obtain rfl := Option.some.inj ht
          exact List.mem_cons_self
        · exact List.mem_cons_of_mem _ (h.held k' e' t' he ht)
  | @release k e hk =>
      refine ⟨fun k' e' he => ?_, fun c hc => update_isSome (h.known c hc),
        fun k' e' t he ht => ?_⟩
      · change (l.numbers k').reverse = _
        rcases update_eq_some he with ⟨rfl, rfl⟩ | ⟨-, he⟩
        · exact h.numbered k' e hk
        · exact h.numbered k' e' he
      · rcases update_eq_some he with ⟨-, rfl⟩ | ⟨-, he⟩
        · cases ht
        · exact h.held k' e' t he ht

end Steps

/-! ### What holds of every store -/

section Sound

variable {l : Ledger κ τ} {k : κ} {e : Entry τ}

/-- An entry has as many tickets as its number says. -/
theorem Sound.length_tickets (h : l.Sound) (hk : l.entries k = some e) :
    (l.tickets.filter fun c => c.key = k).length = e.number := by
  have hlength := congrArg List.length (h.numbered k e hk)
  rwa [List.length_reverse, List.length_range', numbers, List.length_map] at hlength

/-- A ticket of an entry has a number up to that of the entry. -/
theorem Sound.number_le (h : l.Sound) (hk : l.entries k = some e) {c : Ticket κ τ}
    (hc : c ∈ l.tickets) (hkey : c.key = k) : c.number ≤ e.number := by
  have hmem : c.number ∈ (l.numbers k).reverse := by
    rw [List.mem_reverse]
    exact List.mem_map_of_mem (List.mem_filter.mpr ⟨hc, decide_eq_true hkey⟩)
  rw [h.numbered k e hk, List.mem_range'_1] at hmem
  omega

/-- Two tickets of an entry have two numbers. -/
theorem Sound.eq_of_number_eq (h : l.Sound) (hk : l.entries k = some e) {c c' : Ticket κ τ}
    (hc : c ∈ l.tickets) (hc' : c' ∈ l.tickets) (hkey : c.key = k) (hkey' : c'.key = k)
    (hnumber : c.number = c'.number) : c = c' := by
  have hnodup : (l.numbers k).Nodup := by
    rw [← List.nodup_reverse, h.numbered k e hk]
    exact List.nodup_range'
  exact List.inj_on_of_nodup_map hnodup (List.mem_filter.mpr ⟨hc, decide_eq_true hkey⟩)
    (List.mem_filter.mpr ⟨hc', decide_eq_true hkey'⟩) hnumber

/-- **The ticket whose token an entry holds is the last one of the entry**, where no token was drawn
twice. -/
theorem Sound.last (h : l.Sound) (hdrawn : (l.tickets.map Ticket.token).Nodup)
    {c : Ticket κ τ} (hc : c ∈ l.tickets) (hk : l.entries c.key = some e)
    (hholder : e.holder = some c.token) :
    c.number = e.number ∧ ∀ c' ∈ l.tickets, c'.key = c.key → c' = c ∨ c'.number < c.number := by
  have hheld := h.held c.key e c.token hk hholder
  have hsame : c = { key := c.key, number := e.number, token := c.token } :=
    List.inj_on_of_nodup_map hdrawn hc hheld rfl
  have hnumber : c.number = e.number := congrArg Ticket.number hsame
  refine ⟨hnumber, fun c' hc' hkey => ?_⟩
  have hle := h.number_le hk hc' hkey
  rw [← hnumber] at hle
  rcases Nat.lt_or_eq_of_le hle with hlt | heq
  · exact Or.inr hlt
  · exact Or.inl (h.eq_of_number_eq hk hc' hc hkey rfl heq)

end Sound

end Ledger

end LibSeek.Lib
