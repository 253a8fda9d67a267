/-
A cursor that goes round a sorted list.

A worker takes at every turn the next elements after its cursor, at most so many at a time, and sets
the cursor to the last of them; where there are none left it begins again.  The turns then cut the
list into batches, of which only the last can be short, and take them one after another, round and
round.

Main definitions:

* `Rotation.window` — the elements after a cursor, up to the size of a batch;
* `Rotation.batch`, `Rotation.next` — the elements of a turn, and the cursor after it;
* `Rotation.cursorAfter`, `Rotation.batchAt` — the cursor after so many turns, and their batches;
* `Rotation.turns` — how many turns a round takes.

Main results:

* `Rotation.batchAt_eq` — **the batch of a turn is the one whose turn it is**;
* `Rotation.perm_flatMap_batchAt` — **the turns of a round, wherever it begins, take every element
  once**.
-/

import Mathlib.Data.List.Rotate
import Mathlib.Data.List.Sort
import Mathlib.Order.Defs.LinearOrder

set_option relaxedAutoImplicit false
set_option autoImplicit false

namespace LibSeek.Lib.Rotation

universe u

variable {κ : Type u} [LinearOrder κ] (xs : List κ) (size : ℕ)

/-! ### Turns -/

/-- The elements after a cursor, or all of them where there is none. -/
def after : Option κ → List κ
  | none => xs
  | some cursor => xs.filter fun x => cursor < x

/-- The elements after a cursor, up to the size of a batch. -/
def window (cursor : Option κ) : List κ :=
  (after xs cursor).take size

/-- The elements of a turn: what is after the cursor, or the first elements where nothing is. -/
def batch (cursor : Option κ) : List κ :=
  if window xs size cursor = [] then window xs size none else window xs size cursor

/-- The cursor after a turn. -/
def next (cursor : Option κ) : Option κ :=
  (batch xs size cursor).getLast?

/-- The cursor after so many turns. -/
def cursorAfter : ℕ → Option κ
  | 0 => none
  | t + 1 => next xs size (cursorAfter t)

/-- The elements of a turn, of which so many were before. -/
def batchAt (t : ℕ) : List κ :=
  batch xs size (cursorAfter xs size t)

/-- How many turns a round takes. -/
def turns : ℕ :=
  (xs.length + size - 1) / size

/-- The batch of a number, of those that a list is cut into. -/
def chunk (i : ℕ) : List κ :=
  (xs.drop (i * size)).take size

variable {xs size}

/-! ### The batches of a round -/

omit [LinearOrder κ] in
theorem flatMap_chunk (n : ℕ) : (List.range n).flatMap (chunk xs size) = xs.take (n * size) := by
  induction n with
  | zero => simp
  | succ n ih =>
      rw [List.range_succ, List.flatMap_append, ih, List.flatMap_singleton, chunk, Nat.succ_mul,
        List.take_add]

omit [LinearOrder κ] in
theorem length_le_turns (hsize : 0 < size) : xs.length ≤ turns xs size * size := by
  have hdiv := Nat.div_add_mod (xs.length + size - 1) size
  have hmod := Nat.mod_lt (xs.length + size - 1) hsize
  rw [turns, Nat.mul_comm]
  omega

omit [LinearOrder κ] in
theorem turns_pos (hsize : 0 < size) (hxs : xs ≠ []) : 0 < turns xs size := by
  have hlength := List.length_pos_of_ne_nil hxs
  exact Nat.div_pos (by omega) hsize

omit [LinearOrder κ] in
/-- A number below the number of turns is the number of a batch that is not empty. -/
theorem mul_lt_length_of_lt (hsize : 0 < size) {i : ℕ} (hi : i < turns xs size) :
    i * size < xs.length := by
  have hle : (i + 1) * size ≤ xs.length + size - 1 := (Nat.le_div_iff_mul_le hsize).mp hi
  rw [Nat.succ_mul] at hle
  omega

/-! ### The cursor within a round -/

/-- After the last of the first elements of a sorted list come the others. -/
theorem after_getLast_take (hsorted : xs.Pairwise (· < ·)) {n : ℕ} (hn : 0 < n)
    (hle : n ≤ xs.length) : after xs (xs.take n).getLast? = xs.drop n := by
  have hlast : (xs.take n).getLast? = some xs[n - 1] := by
    rw [List.getLast?_eq_getElem?, List.length_take, Nat.min_eq_left hle,
      List.getElem?_take_of_lt (by omega), List.getElem?_eq_getElem]
  have hbefore : (xs.take n).filter (fun x => xs[n - 1] < x) = [] := by
    refine List.filter_eq_nil_iff.mpr fun x hx => ?_
    obtain ⟨i, hi, rfl⟩ := List.getElem_of_mem hx
    rw [List.length_take] at hi
    rw [List.getElem_take, decide_eq_true_eq, not_lt]
    rcases Nat.lt_or_ge i (n - 1) with hlt | hge
    · exact (List.pairwise_iff_getElem.mp hsorted i (n - 1) (by omega) (by omega) hlt).le
    · have heq : i = n - 1 := by omega
      simp [heq]
  have hbehind : (xs.drop n).filter (fun x => xs[n - 1] < x) = xs.drop n := by
    refine List.filter_eq_self.mpr fun x hx => ?_
    obtain ⟨i, hi, rfl⟩ := List.getElem_of_mem hx
    rw [List.length_drop] at hi
    rw [List.getElem_drop, decide_eq_true_eq]
    exact List.pairwise_iff_getElem.mp hsorted (n - 1) (n + i) (by omega) (by omega) (by omega)
  calc after xs (xs.take n).getLast?
      = xs.filter fun x => xs[n - 1] < x := by rw [hlast, after]
    _ = (xs.take n).filter (fun x => xs[n - 1] < x) ++
          (xs.drop n).filter (fun x => xs[n - 1] < x) := by
        rw [← List.filter_append, List.take_append_drop]
    _ = xs.drop n := by rw [hbefore, hbehind, List.nil_append]

/-- **The cursor within a round** is the last element of the batches taken so far, and the next
batch is the one after them. -/
theorem batch_getLast_take (hsorted : xs.Pairwise (· < ·)) (hsize : 0 < size) {i : ℕ} (hi : 0 < i)
    (hlt : i < turns xs size) :
    batch xs size (xs.take (i * size)).getLast? = chunk xs size i := by
  have hlength := mul_lt_length_of_lt hsize hlt
  have hwindow : window xs size (xs.take (i * size)).getLast? = chunk xs size i := by
    rw [window, after_getLast_take hsorted (Nat.mul_pos hi hsize) hlength.le, chunk]
  have hne : chunk xs size i ≠ [] := by
    rw [chunk, ne_eq, List.take_eq_nil_iff, List.drop_eq_nil_iff]
    omega
  rw [batch, hwindow, if_neg hne]

theorem window_none : window xs size none = chunk xs size 0 := by
  rw [window, after, chunk, Nat.zero_mul, List.drop_zero]

theorem batch_none : batch xs size none = chunk xs size 0 := by
  rw [batch, ite_self, window_none]

/-- After the last element of the list comes the first batch again. -/
theorem batch_getLast (hsorted : xs.Pairwise (· < ·)) :
    batch xs size xs.getLast? = chunk xs size 0 := by
  cases xs with
  | nil => exact batch_none
  | cons x xs =>
      have hall : after (x :: xs) (x :: xs).getLast? = [] := by
        have hpos : 0 < (x :: xs).length := Nat.succ_pos _
        have htake := after_getLast_take hsorted hpos (Nat.le_refl _)
        rwa [List.take_length, List.drop_length] at htake
      have hwindow : window (x :: xs) size (x :: xs).getLast? = [] := by
        rw [window, hall, List.take_nil]
      rw [batch, if_pos hwindow, window_none]

omit [LinearOrder κ] in
/-- The last element of a batch is the last of the batches taken so far. -/
theorem getLast_chunk (hsize : 0 < size) {i : ℕ} (hi : i < turns xs size) :
    (chunk xs size i).getLast? = (xs.take ((i + 1) * size)).getLast? := by
  have hlength := mul_lt_length_of_lt hsize hi
  have hne : chunk xs size i ≠ [] := by
    rw [chunk, ne_eq, List.take_eq_nil_iff, List.drop_eq_nil_iff]
    omega
  rw [Nat.succ_mul, List.take_add, ← chunk, List.getLast?_append_of_ne_nil _ hne]

/-- The batch after that of a number is the one of the next, round and round. -/
theorem batch_getLast_chunk (hsorted : xs.Pairwise (· < ·)) (hsize : 0 < size) {i : ℕ}
    (hi : i < turns xs size) :
    batch xs size (chunk xs size i).getLast? = chunk xs size ((i + 1) % turns xs size) := by
  rw [getLast_chunk hsize hi]
  rcases Nat.lt_or_ge (i + 1) (turns xs size) with hlt | hge
  · rw [batch_getLast_take hsorted hsize (Nat.succ_pos i) hlt, Nat.mod_eq_of_lt hlt]
  · have hlast : i + 1 = turns xs size := by omega
    rw [hlast, Nat.mod_self, List.take_of_length_le (length_le_turns hsize)]
    exact batch_getLast hsorted

/-- **The batch of a turn is the one whose turn it is.** -/
theorem batchAt_eq (hsorted : xs.Pairwise (· < ·)) (hsize : 0 < size) (t : ℕ) :
    batchAt xs size t = chunk xs size (t % turns xs size) := by
  by_cases hxs : xs = []
  · subst hxs
    have hwindow : ∀ cursor : Option κ, window [] size cursor = [] := by
      intro cursor
      cases cursor <;> simp [window, after]
    rw [batchAt, batch, hwindow, hwindow, ite_self, chunk, List.drop_nil, List.take_nil]
  · have hpos := turns_pos hsize hxs
    induction t with
    | zero => rw [Nat.zero_mod, batchAt, cursorAfter, batch_none]
    | succ t ih =>
        rw [batchAt, cursorAfter, next, ← batchAt, ih,
          batch_getLast_chunk hsorted hsize (Nat.mod_lt t hpos), Nat.mod_add_mod]

/-- **The turns of a round, wherever it begins, take every element once.** -/
theorem perm_flatMap_batchAt (hsorted : xs.Pairwise (· < ·)) (hsize : 0 < size) (start : ℕ) :
    ((List.range (turns xs size)).flatMap fun i => batchAt xs size (start + i)).Perm xs := by
  have hrotate : ((List.range (turns xs size)).map fun i => (start + i) % turns xs size) =
      (List.range (turns xs size)).rotate start := by
    refine List.ext_getElem (by simp) fun i hi _ => ?_
    rw [List.getElem_map, List.getElem_range, List.getElem_rotate, List.getElem_range,
      List.length_range, Nat.add_comm]
  have hturns : ((List.range (turns xs size)).flatMap fun i => batchAt xs size (start + i)) =
      ((List.range (turns xs size)).rotate start).flatMap (chunk xs size) := by
    rw [← hrotate, List.flatMap_map]
    exact List.flatMap_congr fun i _ => batchAt_eq hsorted hsize _
  have hround : (List.range (turns xs size)).flatMap (chunk xs size) = xs := by
    rw [flatMap_chunk, List.take_of_length_le (length_le_turns hsize)]
  rw [hturns]
  exact ((List.rotate_perm _ _).flatMap_right _).trans (List.Perm.of_eq hround)

end LibSeek.Lib.Rotation
