/-
Chains of numbered entries.

A log whose entries are numbered from one, each with the hash of the entry before it, stands for a
sequence: the entry with a number is found at its place, and whatever passes from an entry to the
next one holds of all of them.  How the hashes are computed is not looked at here.

Main definitions:

* `Lib.Links` — what an entry says of its place: its number, its hash, the hash before it;
* `Lib.Links.Linked` — **a list of entries that form a chain**.

Main results:

* `Lib.Links.Linked.number_of_getElem?`, `Lib.Links.Linked.map_number` — the numbers of a chain;
* `Lib.Links.Linked.previous_of_getElem?` — each entry has the hash of the one before it;
* `Lib.Links.Linked.find?_number` — the entry with a number;
* `Lib.Links.Linked.forall_mem` — induction along a chain.
-/

import Mathlib.Data.List.Basic

set_option relaxedAutoImplicit false
set_option autoImplicit false

namespace LibSeek.Lib

/-- What an entry of a chain says of its place in it. -/
structure Links (ρ η : Type) where
  /-- The number of an entry. -/
  number : ρ → ℕ
  /-- The hash of an entry. -/
  hash : ρ → η
  /-- The hash of the entry before it. -/
  previous : ρ → Option η

namespace Links

variable {ρ η : Type} (L : Links ρ η)

/-- **A chain**: its entries are numbered from one, and each has the hash of the one before it. -/
inductive Linked : List ρ → Prop
  | nil : Linked []
  | concat {rs : List ρ} {r : ρ} (h : Linked rs) (hnumber : L.number r = rs.length + 1)
      (hprevious : L.previous r = rs.getLast?.map L.hash) : Linked (rs ++ [r])

variable {L} {rs : List ρ}

/-- A change of the entries that keeps what they say of their places keeps the chain. -/
theorem Linked.map (h : L.Linked rs) {f : ρ → ρ} (hnumber : ∀ r, L.number (f r) = L.number r)
    (hhash : ∀ r, L.hash (f r) = L.hash r) (hprevious : ∀ r, L.previous (f r) = L.previous r) :
    L.Linked (rs.map f) := by
  induction h with
  | nil => exact .nil
  | @concat rs r _ hn hp ih =>
      rw [List.map_append, List.map_singleton]
      refine .concat ih ?_ ?_
      · rw [hnumber, hn, List.length_map]
      · rw [hprevious, hp, List.getLast?_map, Option.map_map]
        exact congrFun (congrArg Option.map (funext fun x => (hhash x).symm)) _

/-- The number of an entry is its place. -/
theorem Linked.number_of_getElem? (h : L.Linked rs) {i : ℕ} {r : ρ} (hr : rs[i]? = some r) :
    L.number r = i + 1 := by
  induction h with
  | nil => cases hr
  | @concat rs last h hnumber _ ih =>
      rcases Nat.lt_trichotomy i rs.length with hi | hi | hi
      · exact ih (by rwa [List.getElem?_append_left hi] at hr)
      · subst hi
        obtain rfl : last = r := by simpa using hr
        exact hnumber
      · rw [List.getElem?_eq_none (by simp; omega)] at hr
        cases hr

/-- **The numbers of a chain**, without gap or repetition. -/
theorem Linked.map_number (h : L.Linked rs) : rs.map L.number = List.range' 1 rs.length := by
  induction h with
  | nil => rfl
  | concat h hnumber _ ih =>
      rw [List.map_append, ih, List.length_append, List.length_singleton, List.range'_concat,
        List.map_singleton, hnumber, Nat.one_mul, Nat.add_comm]

/-- The first entry has no hash before it. -/
theorem Linked.previous_of_getElem?_zero (h : L.Linked rs) {r : ρ} (hr : rs[0]? = some r) :
    L.previous r = none := by
  induction h with
  | nil => cases hr
  | @concat rs last h _ hprevious ih =>
      cases rs with
      | nil =>
          obtain rfl : last = r := by simpa using hr
          exact hprevious
      | cons first rest => exact ih (by simpa using hr)

/-- **Each entry has the hash of the one before it.** -/
theorem Linked.previous_of_getElem? (h : L.Linked rs) {i : ℕ} {p r : ρ} (hp : rs[i]? = some p)
    (hr : rs[i + 1]? = some r) : L.previous r = some (L.hash p) := by
  induction h with
  | nil => cases hr
  | @concat rs last h _ hprevious ih =>
      rcases Nat.lt_trichotomy (i + 1) rs.length with hi | hi | hi
      · rw [List.getElem?_append_left (by omega)] at hp
        rw [List.getElem?_append_left hi] at hr
        exact ih hp hr
      · -- the entry is the last one, and the one before it ends the chain without it
        have hp' : rs.getLast? = some p := by
          rw [List.getLast?_eq_getElem?, ← hp, List.getElem?_append_left (by omega)]
          congr 1
          omega
        rw [hi] at hr
        obtain rfl : last = r := by simpa using hr
        rw [hprevious, hp', Option.map_some]
      · rw [List.getElem?_eq_none (by simp; omega)] at hr
        cases hr

/-- **The entry with a number** stands at its place. -/
theorem Linked.find?_number (h : L.Linked rs) (i : ℕ) :
    rs.find? (fun r => L.number r = i + 1) = rs[i]? := by
  cases hr : rs[i]? with
  | none =>
      refine List.find?_eq_none.mpr fun r hmem => ?_
      obtain ⟨j, hj⟩ := List.mem_iff_getElem?.mp hmem
      have hnumber := h.number_of_getElem? hj
      have hlt : j < rs.length := (List.getElem?_eq_some_iff.mp hj).1
      have hle : rs.length ≤ i := List.getElem?_eq_none_iff.mp hr
      simp only [decide_eq_true_eq]
      omega
  | some r =>
      have hnumber := h.number_of_getElem? hr
      cases hfind : rs.find? (fun r => L.number r = i + 1) with
      | none =>
          have hnone := List.find?_eq_none.mp hfind r (List.mem_of_getElem? hr)
          simp [hnumber] at hnone
      | some x =>
          obtain ⟨j, hj⟩ := List.mem_iff_getElem?.mp (List.mem_of_find?_eq_some hfind)
          have hx : L.number x = i + 1 := by simpa using List.find?_some hfind
          have hx' := h.number_of_getElem? hj
          obtain rfl : j = i := by omega
          rw [← hj, hr]

theorem Linked.find?_number_of_mem (h : L.Linked rs) {r : ρ} (hr : r ∈ rs) :
    rs.find? (fun x => L.number x = L.number r) = some r := by
  obtain ⟨i, hi⟩ := List.mem_iff_getElem?.mp hr
  rw [h.number_of_getElem? hi, h.find?_number i, hi]

/-- The last entry has the number of entries as its number. -/
theorem Linked.number_of_getLast? (h : L.Linked rs) {r : ρ} (hr : rs.getLast? = some r) :
    L.number r = rs.length := by
  rw [List.getLast?_eq_getElem?] at hr
  have hlt : rs.length - 1 < rs.length := (List.getElem?_eq_some_iff.mp hr).1
  rw [h.number_of_getElem? hr]
  omega

theorem Linked.number_ne_zero (h : L.Linked rs) {r : ρ} (hr : r ∈ rs) : L.number r ≠ 0 := by
  obtain ⟨i, hi⟩ := List.mem_iff_getElem?.mp hr
  rw [h.number_of_getElem? hi]
  exact Nat.succ_ne_zero i

/-- No entry has a number above that of the last one. -/
theorem Linked.number_le (h : L.Linked rs) {r : ρ} (hr : r ∈ rs) : L.number r ≤ rs.length := by
  obtain ⟨i, hi⟩ := List.mem_iff_getElem?.mp hr
  have hlt : i < rs.length := (List.getElem?_eq_some_iff.mp hi).1
  rw [h.number_of_getElem? hi]
  omega

/-- **Induction along a chain**: what holds of the first entry, and of each entry when it holds of
the one before it, holds of every entry. -/
theorem Linked.forall_mem (h : L.Linked rs) {P : ρ → Prop}
    (first : ∀ r, r ∈ rs → L.number r = 1 → L.previous r = none → P r)
    (next : ∀ p r, p ∈ rs → r ∈ rs → L.number r = L.number p + 1 →
      L.previous r = some (L.hash p) → P p → P r) : ∀ r ∈ rs, P r := by
  have hplace : ∀ (i : ℕ) (r : ρ), rs[i]? = some r → P r := by
    intro i
    induction i with
    | zero =>
        intro r hr
        exact first r (List.mem_of_getElem? hr) (h.number_of_getElem? hr)
          (h.previous_of_getElem?_zero hr)
    | succ i ih =>
        intro r hr
        have hlt : i < rs.length := by
          have := (List.getElem?_eq_some_iff.mp hr).1
          omega
        have hp : rs[i]? = some rs[i] := List.getElem?_eq_getElem hlt
        refine next rs[i] r (List.mem_of_getElem? hp) (List.mem_of_getElem? hr) ?_
          (h.previous_of_getElem? hp hr) (ih _ hp)
        rw [h.number_of_getElem? hr, h.number_of_getElem? hp]
  intro r hr
  obtain ⟨i, hi⟩ := List.mem_iff_getElem?.mp hr
  exact hplace i r hi

end Links

end LibSeek.Lib
