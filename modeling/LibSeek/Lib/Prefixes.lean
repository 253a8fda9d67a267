/-
Prefixes in a sorted list.

Where lists are in lexicographic order, whatever lies between a list and one of its extensions is
an extension as well.  So a list that has an extension anywhere in a sorted sequence has one right
behind it, and a single pass over the neighbours finds every such pair.

Main definitions:

* `Lib.ProperPrefix` — a list is the beginning of a longer one;
* `Lib.InOrder` — the lexicographic order, as the relation that a sort compares by.

Main results:

* `Lib.prefix_of_between` — what lies between a list and one of its extensions extends it;
* `Lib.exists_neighbours_iff` — **two lists of a sorted sequence are in conflict where two
  neighbours are**;
* `Lib.inOrder_insertionSort` — a sequence that was sorted is in order.
-/

import Mathlib.Data.List.Sort

set_option relaxedAutoImplicit false
set_option autoImplicit false

namespace LibSeek.Lib

/-- A list is the beginning of a longer one. -/
def ProperPrefix {α : Type} (parent child : List α) : Prop :=
  parent <+: child ∧ parent.length < child.length

/-- A beginning that is another list is a proper one. -/
theorem properPrefix_of_ne {α : Type} {parent child : List α} (h : parent <+: child)
    (hne : parent ≠ child) : ProperPrefix parent child := by
  refine ⟨h, lt_of_le_of_ne h.length_le fun hlength => hne ?_⟩
  exact h.eq_of_length hlength

variable {α : Type} [LinearOrder α]

/-- One list does not come after another. -/
abbrev InOrder (first second : List α) : Prop := ¬ second < first

/-- A list comes before one that it properly begins. -/
theorem lt_of_properPrefix {first second : List α} (h : ProperPrefix first second) :
    first < second := by
  obtain ⟨⟨rest, rfl⟩, hlength⟩ := h
  induction first with
  | nil =>
      cases rest with
      | nil => exact absurd hlength (lt_irrefl _)
      | cons a rest => exact List.nil_lt_cons a rest
  | cons a first ih =>
      rw [List.cons_append, List.cons_lt_cons_iff]
      refine Or.inr ⟨rfl, ih ?_⟩
      simp only [List.cons_append, List.length_cons] at hlength
      omega

/-- **What lies between a list and one of its extensions extends it.** -/
theorem prefix_of_between {first middle rest : List α} (hlow : InOrder first middle)
    (hhigh : InOrder middle (first ++ rest)) : first <+: middle := by
  induction first generalizing middle with
  | nil => exact List.nil_prefix
  | cons a first ih =>
      cases middle with
      | nil => exact absurd (List.nil_lt_cons a first) hlow
      | cons b middle =>
          rw [InOrder, List.cons_lt_cons_iff, not_or] at hlow
          rw [InOrder, List.cons_append, List.cons_lt_cons_iff, not_or] at hhigh
          have heq : a = b := le_antisymm (not_lt.mp hlow.1) (not_lt.mp hhigh.1)
          subst heq
          have hlow' : InOrder first middle := fun h => hlow.2 ⟨rfl, h⟩
          have hhigh' : InOrder middle (first ++ rest) := fun h => hhigh.2 ⟨rfl, h⟩
          exact List.cons_prefix_cons.mpr ⟨rfl, ih hlow' hhigh'⟩

/-- The first of a sorted sequence and one that it begins make two neighbours of the kind. -/
theorem neighbours_of_head {first child : List α} {rest : List (List α)}
    (hsorted : (first :: rest).Pairwise InOrder) (hchild : child ∈ rest)
    (hproper : ProperPrefix first child) :
    ∃ before parent next after, first :: rest = before ++ parent :: next :: after ∧
      ProperPrefix parent next := by
  induction rest generalizing first with
  | nil => simp at hchild
  | cons second rest ih =>
      rcases List.mem_cons.mp hchild with rfl | hmem
      · exact ⟨[], first, child, rest, rfl, hproper⟩
      · obtain ⟨htail, hparent⟩ := hproper.1
        have hlow : InOrder first second := List.rel_of_pairwise_cons hsorted (by simp)
        have hhigh : InOrder second child :=
          List.rel_of_pairwise_cons (List.pairwise_cons.mp hsorted).2 hmem
        have hbetween : first <+: second := by
          rw [← hparent] at hhigh
          exact prefix_of_between hlow hhigh
        by_cases heq : first = second
        · subst heq
          obtain ⟨before, parent, next, after, hsplit, hfound⟩ :=
            ih (List.pairwise_cons.mp hsorted).2 hmem hproper
          refine ⟨first :: before, parent, next, after, ?_, hfound⟩
          rw [hsplit, List.cons_append]
        · exact ⟨[], first, second, rest, rfl, properPrefix_of_ne hbetween heq⟩

/-- **Two lists of a sorted sequence are in conflict where two neighbours are.** -/
theorem exists_neighbours_iff {lists : List (List α)} (hsorted : lists.Pairwise InOrder) :
    (∃ before parent next after, lists = before ++ parent :: next :: after ∧
      ProperPrefix parent next) ↔
      ∃ parent ∈ lists, ∃ child ∈ lists, ProperPrefix parent child := by
  constructor
  · rintro ⟨before, parent, next, after, rfl, hproper⟩
    exact ⟨parent, by simp, next, by simp, hproper⟩
  · rintro ⟨parent, hparent, child, hchild, hproper⟩
    induction lists with
    | nil => simp at hparent
    | cons first rest ih =>
        have hrest := (List.pairwise_cons.mp hsorted).2
        rcases List.mem_cons.mp hparent with rfl | hparent'
        · rcases List.mem_cons.mp hchild with rfl | hchild'
          · exact absurd hproper.2 (lt_irrefl _)
          · exact neighbours_of_head hsorted hchild' hproper
        · rcases List.mem_cons.mp hchild with rfl | hchild'
          · -- The child cannot come before what begins it.
            have hbefore : InOrder child parent := List.rel_of_pairwise_cons hsorted hparent'
            exact absurd (lt_of_properPrefix hproper) hbefore
          · obtain ⟨before, p, next, after, hsplit, hfound⟩ := ih hrest hparent' hchild'
            refine ⟨first :: before, p, next, after, ?_, hfound⟩
            rw [hsplit, List.cons_append]

/-- A sequence that was sorted is in order. -/
theorem inOrder_insertionSort (lists : List (List α)) :
    (lists.insertionSort fun a b => ¬ b < a).Pairwise InOrder := by
  have htotal : Std.Total (fun a b : List α => ¬ b < a) := ⟨fun a b => List.le_total a b⟩
  have htrans : IsTrans (List α) (fun a b : List α => ¬ b < a) :=
    ⟨fun a b c h h' => List.le_trans h h'⟩
  exact List.pairwise_insertionSort _ lists

end LibSeek.Lib
