/-
Runs with sessions that hold requests.

A session that goes on with a request as it was writes over the row, and so where a request stands may
be lost.  What identifies it is never written, and so whatever is bound to it stays bound: an
execution keeps its request, its intent and its plan, and there is one of each, however stale the
sessions are.  Where they hold the requests as they are, the whole invariant is kept.

Main definitions:

* `ControlPlane.Advances` — databases that come one after the other;
* `ControlPlane.Holds` — a session holds a request that is there;
* `ControlPlane.Served.Sound` — **the invariant of the sessions**.

Main results:

* `ControlPlane.wp_withHeld_advances` — a unit of work on a request that is held leads on;
* `ControlPlane.Served.Sound.act` — and so does every step;
* `ControlPlane.bindings_runSteps` — **what the rows are bound to**, after every list of steps.
-/

import LibSeek.ControlPlane.HeldRequests

set_option relaxedAutoImplicit false
set_option autoImplicit false

namespace LibSeek.ControlPlane

open LibSeek.Core LibSeek.Lib LibSeek.Models LibSeek.Schemas LibSeek.Services LibSeek.Workers

variable [Python] {asRead : Prop} {db db' : Db}

/-! ### Databases that come one after the other -/

/-- A database comes after another one: it has lost nothing, what was bound is bound, and it is sound
if that was, in a run whose sessions hold the requests as they are. -/
structure Advances (asRead : Prop) (db db' : Db) : Prop where
  bindings : Bindings db.toTables → Bindings db'.toTables
  sound : asRead → Invariant db.toTables → Invariant db'.toTables
  keeps : Keeps db.toTables db'.toTables

theorem Advances.refl (db : Db) : Advances asRead db db :=
  ⟨id, fun _ => id, Keeps.refl db.toTables⟩

theorem Advances.trans {db'' : Db} (h : Advances asRead db db') (h' : Advances asRead db' db'') :
    Advances asRead db db'' :=
  ⟨h'.bindings ∘ h.bindings, fun hread => h'.sound hread ∘ h.sound hread, h.keeps.trans h'.keeps⟩

/-- A sequence of changes leads on. -/
theorem advances_of_moves {l : Licence} (h : Moves l db.toTables db'.toTables) :
    Advances asRead db db' :=
  ⟨fun hs => hs.moves h, fun _ hs => hs.moves h, h.keeps⟩

theorem advances_of_effects {l : Licence} (h : Effects l db.toTables db'.toTables) :
    Advances asRead db db' :=
  advances_of_moves h.moves

/-- A request that is written over, and keeps what identifies it, leads on; where the requests are
held as they are, it is not written over. -/
theorem advances_saveApproval {a a' : ApprovalRequest} (ha : a ∈ db.approvals)
    (hfixed : fixedApproval a' = fixedApproval a) (hread : asRead → a' = a) :
    Advances asRead db { db with approvals := db.approvals.save a' } where
  bindings hs := hs.saveApproval ha hfixed
  sound h hs := by
    obtain rfl := hread h
    rw [Table.save_self ha]
    exact hs
  keeps := keeps_saveApproval ha hfixed

/-! ### Requests that are held -/

/-- A session holds a request that is there; in a run whose sessions hold the requests as they are, it
is the row. -/
structure Holds (asRead : Prop) (db : Db) (held : ApprovalRequest) : Prop where
  row : ∃ row ∈ db.approvals, fixedApproval row = fixedApproval held
  mem : asRead → held ∈ db.approvals

omit [Python] in
/-- A session that holds a request holds what others have made of it, but for where it stands. -/
theorem Holds.keeps {held : ApprovalRequest} (h : Holds asRead db held)
    (hk : Keeps db.toTables db'.toTables) :
    ∃ row ∈ db'.approvals, fixedApproval row = fixedApproval held := by
  obtain ⟨row, hrow, hfixed⟩ := h.row
  obtain ⟨row', hrow', hfixed'⟩ := hk.approvals row hrow
  exact ⟨row', hrow', hfixed'.trans hfixed⟩

section Rules

variable {held row : ApprovalRequest}

/-- What a session writes over the row leads on. -/
theorem advances_writeHeld {seen : Db} (hrow : row ∈ db.approvals)
    (hfixed : fixedApproval row = fixedApproval held) (hread : asRead → row = held)
    (h : Advances asRead (seenBy held db) seen) :
    Advances asRead db (writeHeld held row seen) := by
  have hseen : Advances asRead db (seenBy held db) :=
    advances_saveApproval hrow hfixed.symm fun h => (hread h).symm
  have hmem : held ∈ (seenBy held db).approvals := Table.mem_save_self _ _
  obtain ⟨approval, happroval, hsame⟩ := h.keeps.approvals held hmem
  have hget : seen.approvals.get? held.id = some approval :=
    Table.get?_eq_some.mpr ⟨happroval, id_of_fixedApproval hsame⟩
  simp only [writeHeld, hget]
  refine (hseen.trans h).trans
    (advances_saveApproval happroval (fixedApproval_written hfixed hsame) fun h => ?_)
  rw [hread h]
  exact writtenApproval_self (id_of_fixedApproval hsame)

/-- The session holds what it has made of the request. -/
theorem holds_writeHeld {seen : Db} (hfixed : fixedApproval row = fixedApproval held)
    (hread : asRead → row = held) (h : Advances asRead (seenBy held db) seen)
    {approval : ApprovalRequest} (happroval : approval ∈ seen.approvals)
    (hid : approval.id = held.id) : Holds asRead (writeHeld held row seen) approval := by
  have hmem : held ∈ (seenBy held db).approvals := Table.mem_save_self _ _
  obtain ⟨b, hb, hsame⟩ := h.keeps.approvals held hmem
  obtain rfl : b = approval :=
    Table.eq_of_key_eq hb happroval ((id_of_fixedApproval hsame).trans hid.symm)
  have hget : seen.approvals.get? held.id = some b := Table.get?_eq_some.mpr ⟨hb, hid⟩
  simp only [writeHeld, hget]
  refine ⟨⟨_, Table.mem_save_self _ _, fixedApproval_written hfixed hsame⟩, fun h => ?_⟩
  rw [hread h, writtenApproval_self hid]
  exact Table.mem_save_self _ _

/-- What a unit of work on a request that is held has left behind: what it has staged, with the
request written over the row. -/
structure Written (asRead : Prop) (held : ApprovalRequest) (seen db : Db) : Prop where
  rest : db = { seen with approvals := db.approvals }
  holds : ∀ a ∈ seen.approvals, a.id = held.id → Holds asRead db a

variable {α : Type} {work : DbTx α} {P : α → Db → Prop} {K : Exn → Prop}

/-- **A unit of work on a request that is held leads on**, if it does where the request is as it is
held. -/
theorem wp_withHeld_advances (hheld : Holds asRead db held)
    (h : Tx.wp work (fun a seen => Advances asRead (seenBy held db) seen ∧ P a seen)
      (fun e seen => K e → Advances asRead (seenBy held db) seen) (seenBy held db)) :
    Tx.wp (withHeld held work)
      (fun a db' => Advances asRead db db' ∧ ∃ seen, P a seen ∧ Written asRead held seen db')
      (fun e db' => K e → Advances asRead db db') db := by
  obtain ⟨⟨row, hrow, hfixed⟩, hmem⟩ := hheld
  have hread : asRead → row = held := fun h =>
    Table.eq_of_key_eq hrow (hmem h) (id_of_fixedApproval hfixed)
  have hget : db.approvals.get? held.id = some row :=
    Table.get?_eq_some.mpr ⟨hrow, id_of_fixedApproval hfixed⟩
  refine wp_withHeld hget (Tx.wp_mono h (fun a seen h => ?_) fun e seen h hk => ?_)
  · have hadv := advances_writeHeld hrow hfixed hread h.1
    refine ⟨⟨hadv, seen, h.2, ?_, fun b hb hid => ?_⟩, fun _ => hadv⟩
    · unfold writeHeld
      split <;> rfl
    · exact holds_writeHeld hfixed hread h.1 hb hid
  · exact advances_writeHeld hrow hfixed hread (h hk)

end Rules

/-! ### Every order of the steps -/

/-- **The invariant of the sessions**: the rows are bound, and every session holds a request that is
there; the database is sound in a run whose sessions hold the requests as they are. -/
structure Served.Sound (asRead : Prop) (w : Served) : Prop where
  bindings : Bindings w.db.toTables
  sound : asRead → Invariant w.db.toTables
  held : ∀ session, ∀ held ∈ w.held session,
    ∃ row ∈ w.db.approvals, fixedApproval row = fixedApproval held.val

theorem Served.sound_initial : Served.Sound asRead {} where
  bindings := invariant_initial.bindings
  sound _ := invariant_initial
  held _ _ h := by cases h

/-- The database goes on, and the sessions hold what they did. -/
theorem Served.Sound.advances {w : Served} (h : w.Sound asRead) (hadv : Advances asRead w.db db') :
    Served.Sound asRead { w with db := db' } where
  bindings := hadv.bindings h.bindings
  sound hread := hadv.sound hread (h.sound hread)
  held session held hheld := by
    obtain ⟨row, hrow, hfixed⟩ := h.held session held hheld
    obtain ⟨row', hrow', hfixed'⟩ := hadv.keeps.approvals row hrow
    exact ⟨row', hrow', hfixed'.trans hfixed⟩

/-- A session takes up a request that is there. -/
theorem Served.Sound.taken {w : Served} (h : w.Sound asRead) (session : ℕ)
    {held : Option HeldRequest}
    (hheld : ∀ a ∈ held, ∃ row ∈ w.db.approvals, fixedApproval row = fixedApproval a.val) :
    Served.Sound asRead { w with held := Function.update w.held session held } where
  bindings := h.bindings
  sound := h.sound
  held session' a ha := by
    dsimp only at ha ⊢
    by_cases hsession : session' = session
    · subst hsession
      rw [Function.update_self] at ha
      exact hheld a ha
    · rw [Function.update_of_ne hsession] at ha
      exact h.held session' a ha

omit [Python] in
/-- What a session holds is the request that it was given. -/
theorem heldOf_some {a : Option ApprovalRequest} {held : HeldRequest} (h : held ∈ heldOf a) :
    a = some held.val := by
  obtain ⟨b, hb, hif⟩ := Option.bind_eq_some_iff.mp h
  split at hif
  · cases hif
    exact hb
  · cases hif

section Steps

variable [HexDigest]

/-- What a session makes of the request that it holds leads on. -/
theorem wp_withHeld_body {held : ApprovalRequest} (hs : Bindings db.toTables)
    (hheld : Holds asRead db held) (op : Operation) :
    Tx.wp (withHeld held op.body) (fun _ db' => Advances asRead db db')
      (fun e db' => (∃ s, op.keep e s = true) → Advances asRead db db') db := by
  obtain ⟨row, hrow, hfixed⟩ := hheld.row
  have hseen : Bindings (seenBy held db).toTables := hs.saveApproval hrow hfixed.symm
  refine Tx.wp_mono (wp_withHeld_advances (P := fun _ _ => True) hheld
    (Tx.wp_mono (op.wp_moves hseen) (fun _ _ h => ⟨advances_of_moves h, trivial⟩)
      fun _ _ h hkeep => advances_of_moves (h hkeep))) (fun _ _ h => h.1) fun _ _ h => h

/-- **Every step leads on.** -/
theorem Served.Sound.act_advances {w : Served} (h : w.Sound asRead) {step : Step Operation}
    (hread : asRead → w.asRead step) :
    Advances asRead w.db (w.act Operation.commit step).db := by
  cases step with
  | call op => exact advances_of_moves (op.moves h.bindings)
  | hold session approvalId => exact .refl _
  | goOn session op =>
      simp only [Served.act]
      cases hheld : (w.held session).filter fun held => op.request? = some held.val.id with
      | none => exact advances_of_moves (op.moves h.bindings)
      | some held =>
          have hmem := (Option.filter_eq_some_iff.mp hheld).1
          have hholds : Holds asRead w.db held.val :=
            ⟨h.held session held hmem, fun hr => Table.mem_of_get?_eq_some (hread hr held hmem)⟩
          exact Tx.commitIf_wp (P := fun db' : Db => Advances asRead w.db db')
            (Tx.wp_mono (wp_withHeld_body h.bindings hholds op) (fun _ _ h => h)
              fun _ db' h hkeep => h ⟨db', hkeep⟩) (.refl _)

/-- What a call makes of the object of a request is the request. -/
theorem heldAfter_fixed {held : ApprovalRequest} (hs : Bindings db.toTables)
    (hrow : ∃ row ∈ db.approvals, fixedApproval row = fixedApproval held) {op : Operation}
    {after : HeldRequest} (hafter : after ∈ heldAfter held op db) :
    fixedApproval after.val = fixedApproval held := by
  obtain ⟨row, hrow, hfixed⟩ := hrow
  have hseen : Bindings (seenBy held db).toTables := hs.saveApproval hrow hfixed.symm
  have hwp := op.wp_moves hseen
  unfold heldAfter at hafter
  rcases hrun : op.body.run (seenBy held db) with ⟨e | a, seen⟩
  · rw [hrun] at hafter
    cases hafter
  · rw [hrun] at hafter
    obtain ⟨hmem, hid⟩ := Table.get?_eq_some.mp (heldOf_some hafter)
    obtain ⟨b, hb, hsame⟩ := (hwp.ok hrun).keeps.approvals held (Table.mem_save_self _ _)
    obtain rfl : b = after.val :=
      Table.eq_of_key_eq hb hmem ((id_of_fixedApproval hsame).trans hid.symm)
    exact hsame

/-- **Every step keeps the invariant of the sessions.** -/
theorem Served.Sound.act {w : Served} (h : w.Sound asRead) {step : Step Operation}
    (hread : asRead → w.asRead step) : (w.act Operation.commit step).Sound asRead := by
  have hadv := h.act_advances hread
  cases step with
  | call op => exact h.advances hadv
  | hold session approvalId =>
      refine h.taken session fun a ha => ?_
      obtain ⟨hget, -⟩ := Option.filter_eq_some_iff.mp (heldOf_some ha)
      exact ⟨a.val, Table.mem_of_get?_eq_some hget, rfl⟩
  | goOn session op =>
      simp only [Served.act] at hadv ⊢
      cases hheld : (w.held session).filter fun held => op.request? = some held.val.id with
      | none =>
          rw [hheld] at hadv
          exact h.advances hadv
      | some held =>
          rw [hheld] at hadv
          refine (h.advances hadv).taken session fun a ha => ?_
          have hrow := h.held session held (Option.filter_eq_some_iff.mp hheld).1
          obtain ⟨row, hrow', hfixed⟩ := (h.advances hadv).held session held
            (Option.filter_eq_some_iff.mp hheld).1
          exact ⟨row, hrow', hfixed.trans (heldAfter_fixed h.bindings hrow ha).symm⟩

/-- **The rows are bound after every list of steps**, however the sessions hold the requests. -/
theorem bindings_runSteps (steps : List (Step Operation)) :
    Bindings (runSteps steps).toTables := by
  have hall : EveryStep (Served.act Operation.commit) (fun _ _ => True) {} steps :=
    everyStep_true steps _
  have hsound := hall.invariant (P := Served.Sound False) Served.sound_initial
    fun w step _ hw => hw.act fun h => h.elim
  exact hsound.bindings

end Steps

end LibSeek.ControlPlane
