/-
Tables of keyed rows.

A relational store keeps each of its tables as a set of rows with a primary key.  This module
fixes the finite model used for it: a table is a list of rows, in the order of their insertion,
whose keys are distinct.  The list order is what `ORDER BY` ties are broken by; the distinctness
of the keys is a field of the structure, so that no table with two rows of one key can be built.

Main definitions:

* `Lib.Keyed` — a type of rows with a primary key;
* `Lib.Table` — a table;
* `Lib.Table.get?` — the row of a key;
* `Lib.Table.save` — a row written under its key, over the row of that key or at the end;
* `Lib.Table.UniqueBy` — a column that no two rows share.

Main results:

* `Lib.Table.get?_save` — reading after a write;
* `Lib.Table.mem_save` — the rows after a write;
* `Lib.Table.forall_mem_save` — what every row satisfied and the new row satisfies holds of every
  row after the write;
* `Lib.Table.find?_eq_some_of_unique` — lookups by a column other than the key.
-/

import Mathlib.Data.List.Nodup
import Mathlib.Data.List.MinMax

set_option relaxedAutoImplicit false
set_option autoImplicit false

namespace LibSeek.Lib

universe u v

/-- A type of rows with a primary key. -/
class Keyed (α : Type u) (κ : outParam (Type v)) where
  /-- The primary key of a row. -/
  key : α → κ

open Keyed (key)

/-- A table: rows in the order of their insertion, no two of them with the same key. -/
structure Table (α : Type u) {κ : Type v} [Keyed α κ] where
  rows : List α
  nodup : (rows.map key).Nodup

namespace Table

variable {α : Type u} {κ : Type v} [Keyed α κ]

/-- The table with no row. -/
def empty : Table α :=
  ⟨[], by simp⟩

instance : EmptyCollection (Table α) :=
  ⟨empty⟩

instance : Membership α (Table α) :=
  ⟨fun t r => r ∈ t.rows⟩

@[simp] theorem mem_rows {t : Table α} {r : α} : r ∈ t.rows ↔ r ∈ t :=
  Iff.rfl

@[simp] theorem notMem_empty (r : α) : ¬ r ∈ (∅ : Table α) :=
  List.not_mem_nil

instance [DecidableEq α] : DecidableEq (Table α) :=
  fun t t' => decidable_of_iff (t.rows = t'.rows) <| by
    cases t
    cases t'
    simp

@[ext] theorem ext {t t' : Table α} (h : t.rows = t'.rows) : t = t' := by
  cases t
  cases t'
  simpa using h

/-- Two rows of a table with the same key are the same row. -/
theorem eq_of_key_eq {t : Table α} {r r' : α} (hr : r ∈ t) (hr' : r' ∈ t)
    (h : key r = key r') : r = r' :=
  List.inj_on_of_nodup_map t.nodup hr hr' h

variable [DecidableEq κ]

/-! ### Reading a row -/

/-- The row of a key. -/
def get? (t : Table α) (k : κ) : Option α :=
  t.rows.find? fun r => key r = k

theorem get?_eq_some {t : Table α} {k : κ} {r : α} :
    t.get? k = some r ↔ r ∈ t ∧ key r = k := by
  constructor
  · intro h
    exact ⟨List.mem_of_find?_eq_some h, by simpa using List.find?_some h⟩
  · rintro ⟨hr, rfl⟩
    cases h : t.get? (key r) with
    | none =>
        have hnone := List.find?_eq_none.mp h r hr
        simp at hnone
    | some r' =>
        have hr' := List.mem_of_find?_eq_some h
        have hkey : key r' = key r := by simpa using List.find?_some h
        rw [eq_of_key_eq hr' hr hkey]

theorem mem_of_get?_eq_some {t : Table α} {k : κ} {r : α} (h : t.get? k = some r) : r ∈ t :=
  (get?_eq_some.mp h).1

theorem key_of_get?_eq_some {t : Table α} {k : κ} {r : α} (h : t.get? k = some r) : key r = k :=
  (get?_eq_some.mp h).2

theorem get?_key {t : Table α} {r : α} (h : r ∈ t) : t.get? (key r) = some r :=
  get?_eq_some.mpr ⟨h, rfl⟩

theorem get?_eq_none {t : Table α} {k : κ} : t.get? k = none ↔ ∀ r ∈ t, key r ≠ k := by
  simp [get?, List.find?_eq_none]

/-- A row that is read where some rows are is read where more rows are. -/
theorem get?_mono {t t' : Table α} (h : ∀ r ∈ t, r ∈ t') {k : κ} {r : α}
    (hr : t.get? k = some r) : t'.get? k = some r := by
  obtain ⟨hmem, hkey⟩ := get?_eq_some.mp hr
  exact get?_eq_some.mpr ⟨h r hmem, hkey⟩

@[simp] theorem get?_empty (k : κ) : (∅ : Table α).get? k = none :=
  rfl

/-! ### Writing a row -/

theorem map_key_replace (rows : List α) (r : α) :
    (rows.map fun x => if key x = key r then r else x).map key = rows.map key := by
  rw [List.map_map]
  refine List.map_congr_left fun x _ => ?_
  by_cases h : key x = key r <;> simp [h]

/-- The table in which `r` is the row of its key: the old row of that key is replaced where it
stands, and a row with a new key is added at the end. -/
def save (t : Table α) (r : α) : Table α :=
  if h : key r ∈ t.rows.map key then
    ⟨t.rows.map fun x => if key x = key r then r else x,
      by rw [map_key_replace]; exact t.nodup⟩
  else
    ⟨t.rows ++ [r], by
      rw [List.map_append, List.nodup_append]
      refine ⟨t.nodup, by simp, ?_⟩
      intro a ha b hb hab
      simp only [List.map_cons, List.map_nil, List.mem_singleton] at hb
      exact h (hb ▸ hab ▸ ha)⟩

/-- **The rows after a write**: the row written, and every row with another key. -/
@[simp] theorem mem_save {t : Table α} {r x : α} :
    x ∈ t.save r ↔ x = r ∨ x ∈ t ∧ key x ≠ key r := by
  unfold save
  split
  · rename_i h
    obtain ⟨y, hy, hyr⟩ := List.mem_map.mp h
    change x ∈ List.map _ _ ↔ _
    rw [List.mem_map]
    constructor
    · rintro ⟨z, hz, rfl⟩
      by_cases hk : key z = key r
      · exact Or.inl (by simp [hk])
      · exact Or.inr ⟨by simpa [hk] using hz, by simp [hk]⟩
    · rintro (rfl | ⟨hx, hk⟩)
      · exact ⟨y, hy, by simp [hyr]⟩
      · exact ⟨x, hx, by simp [hk]⟩
  · rename_i h
    change x ∈ t.rows ++ [r] ↔ _
    rw [List.mem_append, List.mem_singleton]
    constructor
    · rintro (hx | rfl)
      · exact Or.inr ⟨hx, fun hk => h (List.mem_map.mpr ⟨x, hx, hk⟩)⟩
      · exact Or.inl rfl
    · rintro (rfl | ⟨hx, -⟩)
      · exact Or.inr rfl
      · exact Or.inl hx

/-- A row with a new key is added at the end. -/
theorem rows_save_of_new {t : Table α} {r : α} (h : t.get? (key r) = none) :
    (t.save r).rows = t.rows ++ [r] := by
  unfold save
  rw [dif_neg]
  intro hmem
  obtain ⟨x, hx, hkey⟩ := List.mem_map.mp hmem
  exact get?_eq_none.mp h x hx hkey

/-- A column that a row keeps when it is written over is kept as a whole. -/
theorem map_rows_save {β : Type v} {t : Table α} {r r' : α} {f : α → β} (hr : r ∈ t)
    (hkey : key r' = key r) (hf : f r' = f r) : (t.save r').rows.map f = t.rows.map f := by
  unfold save
  rw [dif_pos (hkey ▸ List.mem_map_of_mem hr), List.map_map]
  refine List.map_congr_left fun x hx => ?_
  by_cases h : key x = key r'
  · rw [Function.comp_apply, if_pos h, hf, eq_of_key_eq hx hr (h.trans hkey)]
  · rw [Function.comp_apply, if_neg h]

/-- A row that is written as it is changes nothing. -/
theorem save_self {t : Table α} {r : α} (hr : r ∈ t) : t.save r = t := by
  refine Table.ext ?_
  unfold save
  rw [dif_pos (List.mem_map_of_mem hr)]
  refine (List.map_congr_left fun x hx => ?_).trans (List.map_id' t.rows)
  by_cases h : key x = key r
  · rw [if_pos h, eq_of_key_eq hx hr h]
  · exact if_neg h

/-- **Reading after a write.** -/
theorem get?_save (t : Table α) (r : α) (k : κ) :
    (t.save r).get? k = if k = key r then some r else t.get? k := by
  split
  · rename_i h
    exact get?_eq_some.mpr ⟨mem_save.mpr (Or.inl rfl), h.symm⟩
  · rename_i h
    cases hk : t.get? k with
    | none =>
        refine get?_eq_none.mpr fun x hx hxk => ?_
        rcases mem_save.mp hx with rfl | ⟨hx, -⟩
        · exact h hxk.symm
        · exact get?_eq_none.mp hk x hx hxk
    | some x =>
        obtain ⟨hx, rfl⟩ := get?_eq_some.mp hk
        exact get?_eq_some.mpr ⟨mem_save.mpr (Or.inr ⟨hx, h⟩), rfl⟩

@[simp] theorem get?_save_self (t : Table α) (r : α) : (t.save r).get? (key r) = some r := by
  simp [get?_save]

theorem get?_save_of_ne (t : Table α) {r : α} {k : κ} (h : k ≠ key r) :
    (t.save r).get? k = t.get? k := by
  simp [get?_save, h]

theorem mem_save_self (t : Table α) (r : α) : r ∈ t.save r :=
  mem_save.mpr (Or.inl rfl)

theorem mem_save_of_ne {t : Table α} {r x : α} (hx : x ∈ t) (h : key x ≠ key r) :
    x ∈ t.save r :=
  mem_save.mpr (Or.inr ⟨hx, h⟩)

/-- A property of every row survives a write of a row that has it. -/
theorem forall_mem_save {p : α → Prop} {t : Table α} {r : α} (ht : ∀ x ∈ t, p x) (hr : p r) :
    ∀ x ∈ t.save r, p x := by
  intro x hx
  rcases mem_save.mp hx with rfl | ⟨hx, -⟩
  · exact hr
  · exact ht x hx

/-- A key that has a row keeps one through every write. -/
theorem isSome_get?_save {t : Table α} {r : α} {k : κ} (h : (t.get? k).isSome) :
    ((t.save r).get? k).isSome := by
  rw [get?_save]
  split
  · rfl
  · exact h

/-! ### Lookups by another column -/

omit [DecidableEq κ] in
/-- The first row with a property, where one row only has it. -/
theorem find?_eq_some_of_unique {t : Table α} {p : α → Bool} {r : α} (hr : r ∈ t)
    (hp : p r = true) (hunique : ∀ x ∈ t, p x = true → x = r) : t.rows.find? p = some r := by
  cases h : t.rows.find? p with
  | none => exact absurd hp (by simpa using List.find?_eq_none.mp h r hr)
  | some x => rw [hunique x (List.mem_of_find?_eq_some h) (List.find?_some h)]

/-- A lookup after a write of a row that is the first one to be found. -/
theorem find?_save_of_none {t : Table α} {p : α → Bool} {r : α} (h : t.rows.find? p = none)
    (hp : p r = true) : (t.save r).rows.find? p = some r := by
  refine find?_eq_some_of_unique (mem_save_self t r) hp fun x hx hpx => ?_
  rcases mem_save.mp hx with rfl | ⟨hx, -⟩
  · rfl
  · exact absurd hpx (by simpa using List.find?_eq_none.mp h x hx)

/-- What a lookup found is still found after a write of a row with a new key. -/
theorem find?_save_of_some {t : Table α} {p : α → Bool} {r x : α} (hnew : t.get? (key r) = none)
    (h : t.rows.find? p = some x) : (t.save r).rows.find? p = some x := by
  rw [rows_save_of_new hnew, List.find?_append, h, Option.some_or]

/-! ### Unique columns -/

/-- A column that no two rows share. -/
def UniqueBy {β : Type v} (t : Table α) (f : α → β) : Prop :=
  ∀ x ∈ t, ∀ y ∈ t, f x = f y → x = y

section Unique

variable {β : Type v} {t : Table α} {f : α → β} {r r' : α}

omit [DecidableEq κ] in
theorem uniqueBy_empty : UniqueBy (∅ : Table α) f :=
  fun x hx => absurd hx (notMem_empty x)

/-- A unique column stays unique when a row with a new value is written. -/
theorem UniqueBy.save_new (h : t.UniqueBy f) (hnew : ∀ x ∈ t, f x ≠ f r) :
    (t.save r).UniqueBy f := by
  intro x hx y hy hxy
  rcases mem_save.mp hx with hxr | ⟨hx, -⟩ <;> rcases mem_save.mp hy with hyr | ⟨hy, -⟩
  · rw [hxr, hyr]
  · exact absurd (hxr ▸ hxy).symm (hnew y hy)
  · exact absurd (hyr ▸ hxy) (hnew x hx)
  · exact h x hx y hy hxy

/-- A unique column stays unique when a row is written over with its value kept. -/
theorem UniqueBy.save_same (h : t.UniqueBy f) (hr : r ∈ t) (hkey : key r' = key r)
    (hf : f r' = f r) : (t.save r').UniqueBy f := by
  have hold : ∀ x ∈ t.save r', ∃ y ∈ t, key y = key x ∧ f y = f x := by
    intro x hx
    rcases mem_save.mp hx with rfl | ⟨hx, -⟩
    · exact ⟨r, hr, hkey.symm, hf.symm⟩
    · exact ⟨x, hx, rfl, rfl⟩
  intro x hx y hy hxy
  obtain ⟨x', hx', hkx, hfx⟩ := hold x hx
  obtain ⟨y', hy', hky, hfy⟩ := hold y hy
  obtain rfl := h x' hx' y' hy' (hfx.trans (hxy.trans hfy.symm))
  exact eq_of_key_eq hx hy (hkx.symm.trans hky)

end Unique

end Table

end LibSeek.Lib
