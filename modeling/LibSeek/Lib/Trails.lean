/-
Trails.

A store keeps rows that have a status, and beside them a trail: whenever a status is written, a mark
is added that names the row, the status it had and the status it has.  Nothing ever reads the trail
back, so that nothing but the discipline of the writers makes it agree with the rows.  This module
says what such an agreement is, gives a rule for each kind of write, and says what can be read off a
trail that is kept along the edges of a lifecycle.

Main definitions:

* `Lib.Mark` — a mark of a trail;
* `Lib.standing` — the status in which a trail leaves a row;
* `Lib.lifecycle` — the edges of a lifecycle;
* `Lib.Unbroken` — a trail in which every mark begins where the trail before it left the row, and
  follows an edge;
* `Lib.Mirrors` — **the rows stand where their trail leaves them**;
* `Lib.Tallies` — a column counts the marks of a kind.

Main results:

* `Lib.Mirrors.write`, `Lib.Mirrors.touch`, `Lib.Mirrors.note`, `Lib.Tallies.write` — one rule for
  each kind of write;
* `Lib.Unbroken.stays` — a row that has come to an end stays there;
* `Lib.Unbroken.entered` — **a status to which no edge leads back is entered once**;
* `Lib.Mirrors.stays` — the same of the rows;
* `Lib.Unbroken.gate` — whoever stands in a region with one gate has passed the gate.
-/

import LibSeek.Lib.Table

set_option relaxedAutoImplicit false
set_option autoImplicit false

namespace LibSeek.Lib

open Keyed (key)

variable {κ S : Type} [DecidableEq κ]

/-! ### Trails -/

/-- A mark of a trail: the row, the status it had, if there was one, and the status it has. -/
structure Mark (κ S : Type) where
  key : κ
  before : Option S
  after : S

/-- The status in which a trail leaves a row. -/
def standing (trail : List (Mark κ S)) (k : κ) : Option S :=
  (trail.filter fun m => m.key = k).getLast?.map Mark.after

@[simp] theorem standing_nil (k : κ) : standing ([] : List (Mark κ S)) k = none := rfl

theorem standing_concat_self (trail : List (Mark κ S)) (m : Mark κ S) :
    standing (trail ++ [m]) m.key = some m.after := by
  simp [standing, List.filter_append]

theorem standing_concat_of_ne (trail : List (Mark κ S)) {m : Mark κ S} {k : κ} (h : m.key ≠ k) :
    standing (trail ++ [m]) k = standing trail k := by
  simp [standing, List.filter_append, h]

/-- A row that a trail leaves nowhere has no mark. -/
theorem key_ne_of_standing {trail : List (Mark κ S)} {k : κ} (h : standing trail k = none) :
    ∀ m ∈ trail, m.key ≠ k := by
  intro m hm hk
  rw [standing, Option.map_eq_none_iff, List.getLast?_eq_none_iff, List.filter_eq_nil_iff] at h
  exact h m hm (decide_eq_true hk)

/-- **A trail that is kept**: every mark begins where the trail before it left the row, and follows
an edge. -/
inductive Unbroken (edge : Option S → S → Prop) : List (Mark κ S) → Prop
  | nil : Unbroken edge []
  | concat {trail : List (Mark κ S)} {m : Mark κ S} (h : Unbroken edge trail)
      (hbefore : m.before = standing trail m.key) (hedge : edge m.before m.after) :
      Unbroken edge (trail ++ [m])

variable {edge : Option S → S → Prop} {trail : List (Mark κ S)}

theorem Unbroken.init {m : Mark κ S} (h : Unbroken edge (trail ++ [m])) : Unbroken edge trail := by
  generalize htrail : trail ++ [m] = whole at h
  cases h with
  | nil => simp at htrail
  | concat h => exact (List.append_inj' htrail rfl).1 ▸ h

/-- The edges of a lifecycle: a row begins in one status, and from each there is a list of those that
may follow. -/
def lifecycle (initial : S) (successors : S → List S) : Option S → S → Prop
  | none, s => s = initial
  | some s, s' => s' ∈ successors s

/-- What stands in front of a mark. -/
theorem Unbroken.split (h : Unbroken edge trail) {earlier later : List (Mark κ S)} {m : Mark κ S}
    (htrail : trail = earlier ++ m :: later) :
    m.before = standing earlier m.key ∧ edge m.before m.after := by
  induction h generalizing later with
  | nil => simp at htrail
  | @concat trail m' _ hbefore hedge ih =>
      rcases List.eq_nil_or_concat later with rfl | ⟨later', last, rfl⟩
      · obtain ⟨rfl, hm⟩ := List.append_inj' htrail rfl
        obtain rfl := List.singleton_inj.mp hm
        exact ⟨hbefore, hedge⟩
      · rw [List.concat_eq_append, ← List.cons_append, ← List.append_assoc] at htrail
        exact ih (List.append_inj' htrail rfl).1

/-- Entering a status, from another one or at the creation of the row. -/
def Enters [DecidableEq S] (s : S) (m : Mark κ S) : Bool :=
  m.after = s && m.before != some s

/-- How often a trail enters a status. -/
def entries [DecidableEq S] (trail : List (Mark κ S)) (s : S) (k : κ) : ℕ :=
  trail.countP fun m => m.key = k && Enters s m

theorem entries_concat [DecidableEq S] (trail : List (Mark κ S)) (m : Mark κ S) (s : S) (k : κ) :
    entries (trail ++ [m]) s k =
      entries trail s k + if m.key = k ∧ Enters s m = true then 1 else 0 := by
  simp [entries, List.countP_append, List.countP_singleton]

/-- **A status to which no edge leads back is entered once**, and whoever has entered it stands
behind it.  What lies behind it is any set that no edge leaves, and that has no edge into the
status but from itself. -/
theorem Unbroken.entered [DecidableEq S] {initial : S} {successors : S → List S}
    (h : Unbroken (lifecycle initial successors) trail) {s : S} (behind : S → Prop)
    (hs : behind s) (hclosed : ∀ a b, behind a → b ∈ successors a → behind b)
    (hback : ∀ a, behind a → s ∈ successors a → a = s) (k : κ) :
    entries trail s k ≤ 1 ∧
      (0 < entries trail s k → ∃ x, standing trail k = some x ∧ behind x) := by
  induction h with
  | nil => exact ⟨Nat.zero_le 1, fun hpos => absurd hpos (lt_irrefl 0)⟩
  | @concat trail m _ hbefore hedge ih =>
      obtain ⟨hle, hbehind⟩ := ih
      rw [entries_concat]
      by_cases hk : m.key = k
      · subst hk
        rw [standing_concat_self]
        simp only [true_and]
        by_cases hpos : 0 < entries trail s m.key
        · -- the row stands behind the status, so that the mark does not enter it
          obtain ⟨x, hx, hxs⟩ := hbehind hpos
          rw [hbefore, hx] at hedge
          have hnot : ¬ Enters s m = true := by
            intro henters
            simp only [Enters, Bool.and_eq_true, decide_eq_true_eq, bne_iff_ne, ne_eq] at henters
            obtain ⟨rfl, hne⟩ := henters
            exact hne (by rw [hbefore, hx, hback x hxs hedge])
          rw [if_neg hnot]
          exact ⟨hle, fun _ => ⟨_, rfl, hclosed x _ hxs hedge⟩⟩
        · rw [Nat.eq_zero_of_not_pos hpos, Nat.zero_add]
          refine ⟨by split <;> simp, fun henters => ⟨_, rfl, ?_⟩⟩
          split at henters
          · rename_i hm
            simp only [Enters, Bool.and_eq_true, decide_eq_true_eq] at hm
            rw [hm.1]
            exact hs
          · exact absurd henters (lt_irrefl 0)
      · rw [standing_concat_of_ne _ hk, if_neg fun hcond => hk hcond.1, Nat.add_zero]
        exact ⟨hle, hbehind⟩

/-- **Whoever stands in a region with one gate has passed the gate.** -/
theorem Unbroken.gate [DecidableEq S] {initial : S} {successors : S → List S}
    (h : Unbroken (lifecycle initial successors) trail) {s : S} (region : S → Prop)
    (hinitial : ¬ region initial)
    (hgate : ∀ a b, b ∈ successors a → region b → ¬ region a → b = s) {k : κ} {x : S}
    (hx : standing trail k = some x) (hregion : region x) : 0 < entries trail s k := by
  induction h generalizing x with
  | nil => cases hx
  | @concat trail m _ hbefore hedge ih =>
      rw [entries_concat]
      by_cases hk : m.key = k
      · subst hk
        rw [standing_concat_self] at hx
        obtain rfl := Option.some.inj hx
        cases hm : m.before with
        | none =>
            -- no row is created in the region
            rw [hm] at hedge
            exact absurd ((show m.after = initial from hedge) ▸ hregion) hinitial
        | some y =>
            rw [hm] at hbefore hedge
            by_cases hy : region y
            · exact Nat.add_pos_left (ih hbefore.symm hy) _
            · obtain rfl := hgate _ _ hedge hregion hy
              have henters : Enters m.after m = true := by
                simp only [Enters, hm, decide_true, Bool.true_and, bne_iff_ne, ne_eq,
                  Option.some.injEq]
                exact fun hsame => hy (hsame ▸ hregion)
              rw [if_pos ⟨rfl, henters⟩]
              exact Nat.succ_pos _
      · rw [standing_concat_of_ne _ hk] at hx
        exact Nat.add_pos_left (ih hx hregion) _

/-- A row that has come to an end stays there. -/
theorem Unbroken.stays {later : List (Mark κ S)} (h : Unbroken edge (trail ++ later)) {s : S}
    (hend : ∀ b, edge (some s) b → b = s) {k : κ} (hs : standing trail k = some s) :
    standing (trail ++ later) k = some s := by
  induction later using List.reverseRecOn with
  | nil => rwa [List.append_nil]
  | append_singleton later m ih =>
      rw [← List.append_assoc] at h ⊢
      obtain ⟨hbefore, hedge⟩ := h.split rfl
      have hrest : Unbroken edge (trail ++ later) := h.init
      by_cases hk : m.key = k
      · subst hk
        rw [hbefore, ih hrest] at hedge
        rw [standing_concat_self, hend _ hedge]
      · rw [standing_concat_of_ne _ hk]
        exact ih hrest

/-! ### Rows and their trail -/

variable {ρ : Type} [Keyed ρ κ] {status : ρ → S} {rows : Table ρ} {r r' : ρ}

/-- **The rows stand where their trail leaves them**, and the trail is kept. -/
structure Mirrors (edge : Option S → S → Prop) (status : ρ → S) (rows : Table ρ)
    (trail : List (Mark κ S)) : Prop where
  unbroken : Unbroken edge trail
  standing : ∀ k, standing trail k = (rows.get? k).map status

theorem mirrors_empty : Mirrors edge status (∅ : Table ρ) [] where
  unbroken := .nil
  standing k := by rw [Table.get?_empty]; rfl

/-- A write under a mark that begins where the row stood. -/
theorem Mirrors.write (h : Mirrors edge status rows trail) {before : Option S}
    (hbefore : (rows.get? (key r)).map status = before) (hedge : edge before (status r)) :
    Mirrors edge status (rows.save r)
      (trail ++ [{ key := key r, before := before, after := status r }]) where
  unbroken := .concat h.unbroken (hbefore.symm.trans (h.standing _).symm) hedge
  standing k := by
    by_cases hk : k = key r
    · subst hk
      rw [Table.get?_save_self]
      exact standing_concat_self trail _
    · rw [Table.get?_save_of_ne _ hk, ← h.standing]
      exact standing_concat_of_ne trail fun heq => hk heq.symm

/-- A row that is written over with the status it had leaves no mark. -/
theorem Mirrors.touch (h : Mirrors edge status rows trail) (hr : r ∈ rows) (hkey : key r' = key r)
    (hsame : status r' = status r) : Mirrors edge status (rows.save r') trail where
  unbroken := h.unbroken
  standing k := by
    rw [h.standing]
    by_cases hk : k = key r'
    · subst hk
      rw [Table.get?_save_self, hkey, Table.get?_key hr, Option.map_some, Option.map_some, hsame]
    · rw [Table.get?_save_of_ne _ hk]

/-- A mark that notes something about a row where it stands. -/
theorem Mirrors.note (h : Mirrors edge status rows trail) (hr : r ∈ rows)
    (hedge : edge (some (status r)) (status r)) :
    Mirrors edge status rows
      (trail ++ [{ key := key r, before := some (status r), after := status r }]) where
  unbroken := .concat h.unbroken (by rw [h.standing, Table.get?_key hr]; rfl) hedge
  standing k := by
    by_cases hk : k = key r
    · subst hk
      rw [Table.get?_key hr]
      exact standing_concat_self trail _
    · rw [← h.standing]
      exact standing_concat_of_ne trail fun heq => hk heq.symm

/-- Where a row stands. -/
theorem Mirrors.standing_of_mem (h : Mirrors edge status rows trail) (hr : r ∈ rows) :
    Lib.standing trail (key r) = some (status r) := by
  rw [h.standing, Table.get?_key hr]
  rfl

/-- A row that has come to an end is still there when more was marked, and stands where it stood. -/
theorem Mirrors.stays {rows' : Table ρ} {trail' : List (Mark κ S)}
    (h : Mirrors edge status rows trail) (h' : Mirrors edge status rows' trail')
    (htrail : trail <+: trail') (hr : r ∈ rows)
    (hend : ∀ b, edge (some (status r)) b → b = status r) :
    ∃ r' ∈ rows', key r' = key r ∧ status r' = status r := by
  obtain ⟨later, rfl⟩ := htrail
  have hstays := h'.unbroken.stays hend (h.standing_of_mem hr)
  rw [h'.standing, Option.map_eq_some_iff] at hstays
  obtain ⟨r', hget, hstatus⟩ := hstays
  obtain ⟨hmem, hkey⟩ := Table.get?_eq_some.mp hget
  exact ⟨r', hmem, hkey, hstatus⟩

/-! ### Counting marks -/

/-- The marks of a row that enter a status. -/
def arrivals [DecidableEq S] (trail : List (Mark κ S)) (s : S) (k : κ) : ℕ :=
  trail.countP fun m => m.key = k && m.after = s

theorem arrivals_concat [DecidableEq S] (trail : List (Mark κ S)) (m : Mark κ S) (s : S) (k : κ) :
    arrivals (trail ++ [m]) s k =
      arrivals trail s k + if m.key = k ∧ m.after = s then 1 else 0 := by
  simp [arrivals, List.countP_append, List.countP_singleton]

/-- **A column counts the marks** that enter a status. -/
def Tallies [DecidableEq S] (s : S) (number : ρ → ℕ) (rows : Table ρ)
    (trail : List (Mark κ S)) : Prop :=
  ∀ r ∈ rows, arrivals trail s (key r) = number r

section Tallies

variable [DecidableEq S] {s : S} {number : ρ → ℕ}

theorem tallies_empty : Tallies s number (∅ : Table ρ) [] :=
  fun _ hr => absurd hr (Table.notMem_empty _)

/-- A write counts its mark; a row that there was not has no other. -/
theorem Tallies.write (h : Tallies s number rows trail) (hm : Mirrors edge status rows trail)
    {before : Option S}
    (hnumber : number r = ((rows.get? (key r)).map number).getD 0 +
      if status r = s then 1 else 0) :
    Tallies s number (rows.save r)
      (trail ++ [{ key := key r, before := before, after := status r }]) := by
  have hold : arrivals trail s (key r) = ((rows.get? (key r)).map number).getD 0 := by
    cases hrow : rows.get? (key r) with
    | none =>
        have hstand : standing trail (key r) = none := by rw [hm.standing, hrow]; rfl
        refine List.countP_eq_zero.mpr fun m hmark hcounted => ?_
        exact key_ne_of_standing hstand m hmark
          (of_decide_eq_true (Bool.and_eq_true_iff.mp hcounted).1)
    | some old =>
        obtain ⟨hmem, hkey⟩ := Table.get?_eq_some.mp hrow
        rw [← hkey, h old hmem]
        rfl
  intro x hx
  rw [arrivals_concat]
  rcases Table.mem_save.mp hx with rfl | ⟨hx, hne⟩
  · rw [hold, hnumber]
    simp
  · rw [if_neg fun hcond => hne hcond.1.symm, Nat.add_zero]
    exact h x hx

/-- A row that is written over without a mark keeps its number. -/
theorem Tallies.touch (h : Tallies s number rows trail) (hr : r ∈ rows) (hkey : key r' = key r)
    (hsame : number r' = number r) : Tallies s number (rows.save r') trail := by
  intro x hx
  rcases Table.mem_save.mp hx with rfl | ⟨hx, -⟩
  · rw [hkey, h r hr, hsame]
  · exact h x hx

end Tallies

end LibSeek.Lib
