/-
Reading numbered pages.

A reader asks for page after page, from the first on.  It stops after a page with fewer items than
a page has, at a page with the same fingerprint as an earlier one, which it throws away, and after
a number of pages.  Which pages it asks for, and which it keeps, is a matter of the pages alone.

Main definitions:

* `Lib.Paging.Short`, `Lib.Paging.Repeats` — the pages at which a reader stops;
* `Lib.Paging.Asked`, `Lib.Paging.Kept` — the pages that it comes to, and those that it keeps;
* `Lib.Paging.walk` — the reader.

Main results:

* `Lib.Paging.mem_walk` — **the reader asks for the pages that it comes to, and keeps those of them
  that repeat no earlier one**.
-/

import Mathlib.Data.List.Basic

set_option relaxedAutoImplicit false
set_option autoImplicit false

namespace LibSeek.Lib.Paging

variable {α β : Type*}

/-! ### The pages at which a reader stops -/

section Pages

variable (pages : ℕ → List α) (print : α → β) (size : ℕ)

/-- A page with fewer items than a page has. -/
def Short (k : ℕ) : Prop :=
  (pages k).length < size

/-- A page with the fingerprint of an earlier one.  An empty page has none. -/
def Repeats (k : ℕ) : Prop :=
  (pages k).map print ≠ [] ∧ ∃ j, 1 ≤ j ∧ j < k ∧ (pages j).map print = (pages k).map print

/-- The reader does not stop before a page. -/
def Asked (k : ℕ) : Prop :=
  ∀ j, 1 ≤ j → j < k → ¬ Short pages size j ∧ ¬ Repeats pages print j

/-- The reader comes to a page and keeps it. -/
def Kept (k : ℕ) : Prop :=
  Asked pages print size k ∧ ¬ Repeats pages print k

variable {pages print size}

theorem asked_one : Asked pages print size 1 := by
  intro j hj hlt
  omega

theorem Asked.mono {j k : ℕ} (h : Asked pages print size k) (hle : j ≤ k) :
    Asked pages print size j :=
  fun i hi hlt => h i hi (Nat.lt_of_lt_of_le hlt hle)

theorem Asked.succ {k : ℕ} (h : Asked pages print size k) (hshort : ¬ Short pages size k)
    (hrepeats : ¬ Repeats pages print k) : Asked pages print size (k + 1) := by
  intro j hj hlt
  rcases Nat.lt_succ_iff_lt_or_eq.mp hlt with hlt | rfl
  · exact h j hj hlt
  · exact ⟨hshort, hrepeats⟩

end Pages

/-! ### The reader -/

variable [DecidableEq β]

/-- **The reader**, from a page on, with the fingerprints that it has seen: the pages that it asks
for, and those of them that it keeps. -/
def walk (pages : ℕ → List α) (print : α → β) (size : ℕ) :
    (fuel : ℕ) → (k : ℕ) → (seen : List (List β)) → List ℕ × List ℕ
  | 0, _, _ => ([], [])
  | fuel + 1, k, seen =>
      let fingerprint := (pages k).map print
      if fingerprint ≠ [] ∧ fingerprint ∈ seen then ([k], [])
      else if (pages k).length < size then ([k], [k])
      else
        let rest := walk pages print size fuel (k + 1) (fingerprint :: seen)
        (k :: rest.1, k :: rest.2)

variable {pages : ℕ → List α} {print : α → β} {size : ℕ}

/-- The reader asks for the page that it begins with. -/
theorem mem_walk_self {fuel k : ℕ} {seen : List (List β)} :
    k ∈ (walk pages print size (fuel + 1) k seen).1 := by
  rw [walk]
  dsimp only
  split
  · exact List.mem_singleton_self k
  · split
    · exact List.mem_singleton_self k
    · exact List.mem_cons_self

/-- **The reader asks for the pages that it comes to, and keeps those of them that repeat no earlier
one**, from a page on that it comes to, when it has seen the fingerprints of the pages before. -/
theorem mem_walk (fuel : ℕ) {k : ℕ} {seen : List (List β)} (hk : 1 ≤ k)
    (hseen : ∀ f, f ∈ seen ↔ ∃ j, 1 ≤ j ∧ j < k ∧ (pages j).map print = f)
    (hasked : Asked pages print size k) (i : ℕ) :
    (i ∈ (walk pages print size fuel k seen).1 ↔
        k ≤ i ∧ i < k + fuel ∧ Asked pages print size i) ∧
      (i ∈ (walk pages print size fuel k seen).2 ↔
        k ≤ i ∧ i < k + fuel ∧ Kept pages print size i) := by
  induction fuel generalizing k seen with
  | zero =>
      rw [walk]
      constructor <;> constructor
      · exact fun h => absurd h List.not_mem_nil
      · intro h
        omega
      · exact fun h => absurd h List.not_mem_nil
      · intro h
        omega
  | succ fuel ih =>
      have hrepeats : ((pages k).map print ≠ [] ∧ (pages k).map print ∈ seen) ↔
          Repeats pages print k := by
        rw [hseen]
        exact Iff.rfl
      -- a page after this one is come to only if the reader does not stop here
      have hafter : ∀ i, k < i → Asked pages print size i →
          ¬ Short pages size k ∧ ¬ Repeats pages print k := fun i hi h => h k hk hi
      rw [walk]
      by_cases hstop : Repeats pages print k
      · rw [if_pos (hrepeats.mpr hstop)]
        constructor
        · rw [List.mem_singleton]
          constructor
          · rintro rfl
            exact ⟨Nat.le_refl _, by omega, hasked⟩
          · rintro ⟨hle, -, hi⟩
            rcases Nat.eq_or_lt_of_le hle with heq | hlt
            · exact heq.symm
            · exact absurd hstop (hafter i hlt hi).2
        · constructor
          · exact fun h => absurd h List.not_mem_nil
          · rintro ⟨hle, -, hi, hnot⟩
            rcases Nat.eq_or_lt_of_le hle with rfl | hlt
            · exact absurd hstop hnot
            · exact absurd hstop (hafter i hlt hi).2
      · rw [if_neg fun h => hstop (hrepeats.mp h)]
        by_cases hshort : (pages k).length < size
        · rw [if_pos hshort]
          have honly : ∀ i, k ≤ i → Asked pages print size i → i = k := by
            intro i hle hi
            rcases Nat.eq_or_lt_of_le hle with heq | hlt
            · exact heq.symm
            · exact absurd hshort (hafter i hlt hi).1
          constructor <;> rw [List.mem_singleton] <;> constructor
          · rintro rfl
            exact ⟨Nat.le_refl _, by omega, hasked⟩
          · rintro ⟨hle, -, hi⟩
            exact honly i hle hi
          · rintro rfl
            exact ⟨Nat.le_refl _, by omega, hasked, hstop⟩
          · rintro ⟨hle, -, hi, -⟩
            exact honly i hle hi
        · rw [if_neg hshort]
          have hseen' : ∀ f, f ∈ (pages k).map print :: seen ↔
              ∃ j, 1 ≤ j ∧ j < k + 1 ∧ (pages j).map print = f := by
            intro f
            rw [List.mem_cons, hseen]
            constructor
            · rintro (rfl | ⟨j, hj, hlt, heq⟩)
              · exact ⟨k, hk, by omega, rfl⟩
              · exact ⟨j, hj, by omega, heq⟩
            · rintro ⟨j, hj, hlt, heq⟩
              rcases Nat.lt_succ_iff_lt_or_eq.mp hlt with hlt | rfl
              · exact Or.inr ⟨j, hj, hlt, heq⟩
              · exact Or.inl heq.symm
          obtain ⟨hask, hkeep⟩ := ih (show 1 ≤ k + 1 by omega) hseen' (hasked.succ hshort hstop)
          dsimp only
          constructor <;> rw [List.mem_cons]
          · rw [hask]
            constructor
            · rintro (rfl | ⟨hle, hlt, hi⟩)
              · exact ⟨Nat.le_refl _, by omega, hasked⟩
              · exact ⟨by omega, by omega, hi⟩
            · rintro ⟨hle, hlt, hi⟩
              rcases Nat.eq_or_lt_of_le hle with heq | hmore
              · exact Or.inl heq.symm
              · exact Or.inr ⟨by omega, by omega, hi⟩
          · rw [hkeep]
            constructor
            · rintro (rfl | ⟨hle, hlt, hi⟩)
              · exact ⟨Nat.le_refl _, by omega, hasked, hstop⟩
              · exact ⟨by omega, by omega, hi⟩
            · rintro ⟨hle, hlt, hi⟩
              rcases Nat.eq_or_lt_of_le hle with heq | hmore
              · exact Or.inl heq.symm
              · exact Or.inr ⟨by omega, by omega, hi⟩

/-- A reader that starts at the first page. -/
theorem mem_walk_one {limit : ℕ} (i : ℕ) :
    (i ∈ (walk pages print size limit 1 []).1 ↔
        1 ≤ i ∧ i ≤ limit ∧ Asked pages print size i) ∧
      (i ∈ (walk pages print size limit 1 []).2 ↔
        1 ≤ i ∧ i ≤ limit ∧ Kept pages print size i) := by
  have hseen : ∀ f : List β, f ∈ ([] : List (List β)) ↔
      ∃ j, 1 ≤ j ∧ j < 1 ∧ (pages j).map print = f := by
    intro f
    constructor
    · exact fun h => absurd h List.not_mem_nil
    · rintro ⟨j, hj, hlt, -⟩
      omega
  have hbound : i < 1 + limit ↔ i ≤ limit := by omega
  obtain ⟨hask, hkeep⟩ := mem_walk limit (Nat.le_refl 1) hseen asked_one i
  rw [hask, hkeep, hbound]
  exact ⟨Iff.rfl, Iff.rfl⟩

end LibSeek.Lib.Paging
