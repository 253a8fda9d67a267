/-
Journals: logs whose entries are justified by what was written before them.

A log that is only ever appended to is a record of a system's past.  What an entry may assume of
the entries before it is a relation between the past and the entry; a log in which every entry
satisfies it is a journal.  Laws about orders of events, such as "one is never without the other
before it" or "there is at most one of a kind", are read off a journal.

Main definitions:

* `Lib.Journal` — **a journal**: entries that follow a past, each justified by what precedes it;
* `Lib.Precedes` — two entries in their order.

Main results:

* `Lib.journal_append` — appending justified entries to a journal;
* `Lib.Journal.justified` — what an entry of a journal was justified by;
* `Lib.Journal.pairwise`, `Lib.Journal.unique`, `Lib.Journal.countP_le_one` — where an entry
  excludes others before it, there are no two such entries.
-/

import Mathlib.Data.List.Induction
import Mathlib.Data.List.Pairwise

set_option relaxedAutoImplicit false
set_option autoImplicit false

namespace LibSeek.Lib

variable {ε : Type} {P Q : List ε → ε → Prop} {past log log' : List ε} {ev ev' : ε}

/-! ### Journals -/

/-- **A journal**: each entry is justified by the past and by the entries before it. -/
def Journal (P : List ε → ε → Prop) : List ε → List ε → Prop
  | _, [] => True
  | past, ev :: log => P past ev ∧ Journal P (past ++ [ev]) log

@[simp] theorem journal_nil : Journal P past [] :=
  trivial

@[simp] theorem journal_cons :
    Journal P past (ev :: log) ↔ P past ev ∧ Journal P (past ++ [ev]) log :=
  Iff.rfl

/-- **A journal grows** by entries that its past and its entries justify. -/
theorem journal_append :
    Journal P past (log ++ log') ↔ Journal P past log ∧ Journal P (past ++ log) log' := by
  induction log generalizing past with
  | nil => simp
  | cons ev log ih =>
      rw [List.cons_append, journal_cons, journal_cons, ih, List.append_assoc, and_assoc]
      rfl

/-- **What an entry of a journal was justified by**: all that stands before it. -/
theorem Journal.justified (h : Journal P past log) (hev : ev ∈ log) :
    ∃ before after, log = before ++ ev :: after ∧ P (past ++ before) ev := by
  obtain ⟨before, after, rfl⟩ := List.append_of_mem hev
  exact ⟨before, after, rfl, (journal_append.mp h).2.1⟩

/-- The part of a journal before an entry is a journal. -/
theorem Journal.before (h : Journal P past (log ++ log')) : Journal P past log :=
  (journal_append.mp h).1

/-- What precedes an entry of a journal is a journal, on which it may rely as well. -/
theorem Journal.complete (h : Journal P past log) (hpast : Journal P [] past) :
    Journal (fun past ev => Journal P [] past ∧ P past ev) past log := by
  induction log generalizing past with
  | nil => trivial
  | cons ev log ih =>
      refine ⟨⟨hpast, h.1⟩, ih h.2 (journal_append.mpr ⟨hpast, ?_, trivial⟩)⟩
      rw [List.nil_append]
      exact h.1

/-- Weaker justifications. -/
theorem Journal.mono (h : Journal P past log) (hPQ : ∀ past ev, P past ev → Q past ev) :
    Journal Q past log := by
  induction log generalizing past with
  | nil => trivial
  | cons ev log ih => exact ⟨hPQ _ _ h.1, ih h.2⟩

/-! ### The order of entries -/

/-- An entry that stands before another. -/
def Precedes (ev ev' : ε) (log : List ε) : Prop :=
  ∃ before after, log = before ++ ev' :: after ∧ ev ∈ before

/-- Entries keep their order when the log grows. -/
theorem Precedes.append (h : Precedes ev ev' log) : Precedes ev ev' (log ++ log') := by
  obtain ⟨before, after, rfl, hmem⟩ := h
  exact ⟨before, after ++ log', by simp, hmem⟩

theorem Precedes.left (h : Precedes ev ev' log) : ev ∈ log := by
  obtain ⟨before, after, rfl, hmem⟩ := h
  exact List.mem_append_left _ hmem

/-! ### Entries that exclude others -/

/-- Where an entry excludes others before it, no two entries of a journal exclude each other. -/
theorem Journal.pairwise {R : ε → ε → Prop}
    (hP : ∀ past ev, P past ev → ∀ ev' ∈ past, ¬ R ev' ev) (h : Journal P past log) :
    (past ++ log).Pairwise (fun ev ev' => ¬ R ev ev') ↔ past.Pairwise fun ev ev' => ¬ R ev ev' := by
  induction log generalizing past with
  | nil => rw [List.append_nil]
  | cons ev log ih =>
      have hrest := ih h.2
      rw [List.append_assoc, List.singleton_append] at hrest
      rw [hrest, List.pairwise_append]
      constructor
      · exact fun hp => hp.1
      · intro hp
        refine ⟨hp, List.pairwise_singleton _ _, fun ev' hev' ev'' hev'' => ?_⟩
        obtain rfl := List.mem_singleton.mp hev''
        exact hP past ev'' h.1 ev' hev'

/-- **There is at most one entry of a kind**, where each of them excludes others before it. -/
theorem Journal.unique {R : ε → ε → Prop} (hsymm : ∀ ev ev', R ev ev' → R ev' ev)
    (hP : ∀ past ev, P past ev → ∀ ev' ∈ past, ¬ R ev' ev) (h : Journal P [] log)
    (hev : ev ∈ log) (hev' : ev' ∈ log) (hR : R ev ev') : ev = ev' := by
  have hpairwise : log.Pairwise fun ev ev' => ¬ R ev ev' := by
    simpa using (h.pairwise hP).mpr List.Pairwise.nil
  have : Std.Symm fun ev ev' => ¬ R ev ev' := ⟨fun a b hab hba => hab (hsymm b a hba)⟩
  by_contra hne
  exact hpairwise.forall hev hev' hne hR

/-- **At most one entry satisfies a predicate**, where none that does comes after another. -/
theorem Journal.countP_le_one {p : ε → Bool}
    (hP : ∀ past ev, P past ev → p ev = true → ∀ ev' ∈ past, p ev' = false)
    (h : Journal P [] log) : log.countP p ≤ 1 := by
  induction log using List.reverseRecOn with
  | nil => exact Nat.zero_le _
  | append_singleton log ev ih =>
      obtain ⟨hlog, hev, -⟩ := journal_append.mp h
      rw [List.nil_append] at hev
      rw [List.countP_append, List.countP_singleton]
      cases hp : p ev with
      | false => simpa using ih hlog
      | true =>
          have hnone : log.countP p = 0 :=
            List.countP_eq_zero.mpr fun ev' hev' => by simp [hP log ev hev hp ev' hev']
          simp [hnone]

end LibSeek.Lib
