/-
Requests that sessions hold.

A route that asks the downloader for a pre-flight commits before it does, and goes on with the request
afterwards.  Its session holds the request as it was: it locks the row again, but what it decides is
decided on the object that it holds, and it writes the columns that it has set.  So where another
transaction has written the row meanwhile, the route may take a request for pending that is not, let
it expire while it is being executed, or approve it after it has been rejected.

Where the row is as the session holds it, the session does what one does that reads it.

Main definitions:

* `ControlPlane.Step`, `ControlPlane.Served` — calls, and calls on a request that a session holds;
* `ControlPlane.Served.run` — **the database after a list of steps**;
* `ControlPlane.runSteps` — the same where the calls are those of the control plane;
* `ControlPlane.HeldAsRead` — the steps find every request as their sessions hold it.

Main results:

* `ControlPlane.wp_withHeld`, `ControlPlane.wp_withHeld_self` — the rules of a unit of work on a
  request that a session holds;
* `ControlPlane.keeps_saveApproval`, `ControlPlane.Bindings.saveApproval` — what such a unit of work
  keeps in any case;
* `ControlPlane.Served.run_db` — **where the requests are as the sessions hold them**, a list of
  steps is a list of calls.
-/

import LibSeek.ControlPlane.Operations
import LibSeek.Lib.Runs

set_option relaxedAutoImplicit false
set_option autoImplicit false

namespace LibSeek.ControlPlane

open LibSeek.Core LibSeek.Lib LibSeek.Models LibSeek.Schemas LibSeek.Services LibSeek.Workers

/-! ### Units of work on a request that is held -/

section Rules

variable {db : Db} {held row : ApprovalRequest}

/-- What has been read of a row that has not changed is written as it is set. -/
theorem writtenApproval_self {approval : ApprovalRequest} (h : approval.id = held.id) :
    writtenApproval held approval held = approval := by
  simp only [writtenApproval, writeBack_self, ← h]

theorem seenBy_self (h : held ∈ db.approvals) : seenBy held db = db := by
  unfold seenBy
  rw [Table.save_self h]

theorem writeHeld_self : writeHeld held held db = db := by
  unfold writeHeld
  split
  · rfl
  · rename_i approval hget
    obtain ⟨hmem, hid⟩ := Table.get?_eq_some.mp hget
    rw [writtenApproval_self hid, Table.save_self hmem]

variable {α : Type} {work : DbTx α} {Q : α → Db → Prop} {E : Exn → Db → Prop}

/-- A unit of work on a request that is held, on any row. -/
theorem wp_withHeld (hrow : db.approvals.get? held.id = some row)
    (h : Tx.wp work
      (fun a db' => Q a (writeHeld held row db') ∧ E .integrity (writeHeld held row db'))
      (fun e db' => E e (writeHeld held row db')) (seenBy held db)) :
    Tx.wp (withHeld held work) Q E db := by
  simp only [withHeld, Tx.wp_bind, Tx.wp_get, hrow, Tx.wp_modify, Tx.wp_handle, Tx.wp_raise,
    Tx.wp_require, Tx.wp_pure]
  exact Tx.wp_mono h (fun _ _ h => ⟨fun _ => h.1, fun _ => h.2⟩) fun _ _ h => h

/-- **Where the row is as the session holds it**, a unit of work is what it would be. -/
theorem withHeld_self (hheld : held ∈ db.approvals) (hactive : held.status.isActive = true)
    (work : DbTx α) : (withHeld held work).run db = work.run db := by
  have hget : db.approvals.get? held.id = some held := Table.get?_key hheld
  have hwp : Tx.wp (withHeld held work) (fun a db' => work.run db = (.ok a, db'))
      (fun e db' => work.run db = (.error e, db')) db := by
    simp only [withHeld, Tx.wp_bind, Tx.wp_get, hget, Tx.wp_modify, Tx.wp_handle,
      Tx.wp_raise, Tx.wp_require, Tx.wp_pure, seenBy_self hheld, writeHeld_self, hactive]
    refine Tx.wp_iff.mpr ⟨fun a db' hrun => ⟨fun _ => hrun, fun hnot => ?_⟩, fun _ _ hrun => hrun⟩
    exact (hnot fun hinactive => by cases hinactive).elim
  rcases hrun : (withHeld held work).run db with ⟨e | a, db'⟩
  · exact (hwp.error hrun).symm
  · exact (hwp.ok hrun).symm

theorem wp_withHeld_self (hheld : held ∈ db.approvals) (hactive : held.status.isActive = true) :
    Tx.wp (withHeld held work) Q E db ↔ Tx.wp work Q E db := by
  simp only [Tx.wp_iff, withHeld_self hheld hactive]

end Rules

/-! ### What is kept in any case -/

section Kept

variable {db db' : Db} {held row approval : ApprovalRequest}

/-- What identifies a request is never written. -/
theorem fixedApproval_written (hrow : fixedApproval row = fixedApproval held)
    (happroval : fixedApproval approval = fixedApproval held) :
    fixedApproval (writtenApproval held approval row) = fixedApproval approval := by
  simp only [fixedApproval, ApprovalRequest.mk.injEq, true_and, and_true] at hrow happroval
  obtain ⟨hid, hmedia, hcandidate, hsnapshot, hhash, hby, hat, hexpires⟩ := hrow
  obtain ⟨hid', hmedia', hcandidate', hsnapshot', hhash', hby', hat', hexpires'⟩ := happroval
  simp only [fixedApproval, writtenApproval, hid, hmedia, hcandidate, hsnapshot, hhash, hby, hat,
    hexpires, hid', hmedia', hcandidate', hsnapshot', hhash', hby', hat', hexpires', writeBack_unset]

/-- A request that is written over, and keeps what identifies it, loses nothing. -/
theorem keeps_saveApproval {a a' : ApprovalRequest} (ha : a ∈ db.approvals)
    (hfixed : fixedApproval a' = fixedApproval a) :
    Keeps db.toTables { db.toTables with approvals := db.approvals.save a' } where
  approvals _ hb :=
    row_to_mem_save (R := fun x y => fixedApproval y = fixedApproval x) ha
      (id_of_fixedApproval hfixed) hfixed (fun _ => rfl) hb
  plans _ h := h
  intents i hi := ⟨i, hi, rfl⟩
  executions e he := ⟨e, he, rfl⟩
  jobs _ h := h
  decisions _ h := h
  revisions _ h := h
  policies := policies_of_revisions_eq (s := db.toTables) rfl

variable [Python]

/-- Requests that are written over stay bound, if they keep what identifies them. -/
theorem Bindings.saveApproval (hs : Bindings db.toTables) {a a' : ApprovalRequest}
    (ha : a ∈ db.approvals) (hfixed : fixedApproval a' = fixedApproval a) :
    Bindings { db.toTables with approvals := db.approvals.save a' } := by
  refine hs.rewritten (fun b hb => ?_) (keeps_saveApproval ha hfixed)
  rcases Table.mem_save.mp hb with rfl | ⟨hb, -⟩
  · exact ⟨a, ha, id_of_fixedApproval hfixed⟩
  · exact ⟨b, hb, rfl⟩

end Kept

/-! ### Steps -/

/-- A request that a session holds: one that its candidate is taken up by. -/
def HeldRequest : Type :=
  { a : ApprovalRequest // a.status.isActive = true }

/-- The session holds a request, if it is active. -/
def heldOf (a : Option ApprovalRequest) : Option HeldRequest :=
  a.bind fun a => if h : a.status.isActive = true then some ⟨a, h⟩ else none

/-- What happens to the control plane, where `C` are the calls whose transactions read what they go
by. -/
inductive Step (C : Type) where
  | call (c : C)
  /-- The first transaction of a route has found the request pending, and its session holds it. -/
  | hold (session : ℕ) (approvalId : String)
  /-- The session goes on with a call on the request that it holds. -/
  | goOn (session : ℕ) (op : Operation)

/-- The same step among more calls. -/
def Step.map {C D : Type} (f : C → D) : Step C → Step D
  | .call c => .call (f c)
  | .hold session approvalId => .hold session approvalId
  | .goOn session op => .goOn session op

/-- The call that a step makes. -/
def Step.call? {C : Type} (control : Operation → C) : Step C → Option C
  | .call c => some c
  | .hold .. => none
  | .goOn _ op => some (control op)

/-- The calls that some steps make. -/
def callsOf {C : Type} (control : Operation → C) (steps : List (Step C)) : List C :=
  steps.filterMap (Step.call? control)

/-- The database, and the requests that sessions hold. -/
structure Served where
  db : Db := {}
  held : ℕ → Option HeldRequest := fun _ => none

section Steps

variable [Python] [HexDigest] {C : Type}

/-- What a call makes of the object of a request, unless it raises. -/
def heldAfter (held : ApprovalRequest) (op : Operation) (db : Db) : Option HeldRequest :=
  match op.body.run (seenBy held db) with
  | (.ok _, after) => heldOf (after.approvals.get? held.id)
  | (.error _, _) => none

/-- A step, where `commit` says what a call leaves behind.  A session that holds no request, or
another one, reads the row; one that has raised is over. -/
def Served.act (commit : C → Db → Db) (w : Served) : Step C → Served
  | .call c => { w with db := commit c w.db }
  | .hold session approvalId =>
      { w with
        held := Function.update w.held session
          (heldOf ((w.db.approvals.get? approvalId).filter (·.status = .pending))) }
  | .goOn session op =>
      match (w.held session).filter fun held => op.request? = some held.val.id with
      | none => { w with db := op.commit w.db }
      | some held =>
          { db := (Tx.commitIf op.keep (withHeld held.val op.body) w.db).2
            held := Function.update w.held session (heldAfter held.val op w.db) }

/-- **The database after a list of steps**, from the empty one, and the requests held. -/
def Served.run (commit : C → Db → Db) (steps : List (Step C)) : Served :=
  steps.foldl (Served.act commit) {}

omit [Python] [HexDigest] in
/-- **A session goes on with its request as it is**: the row is what the session holds. -/
def Served.asRead (w : Served) : Step C → Prop
  | .goOn session _ => ∀ held ∈ w.held session, w.db.approvals.get? held.val.id = some held.val
  | _ => True

omit [Python] [HexDigest] in
instance (w : Served) : ∀ step : Step C, Decidable (w.asRead step)
  | .call _ => inferInstanceAs (Decidable True)
  | .hold .. => inferInstanceAs (Decidable True)
  | .goOn session _ => inferInstanceAs
      (Decidable (∀ held ∈ w.held session, w.db.approvals.get? held.val.id = some held.val))

/-- **The steps find every request as their sessions hold it.** -/
def HeldAsRead (commit : C → Db → Db) (steps : List (Step C)) : Prop :=
  EveryStep (Served.act commit) Served.asRead {} steps

instance (commit : C → Db → Db) (steps : List (Step C)) : Decidable (HeldAsRead commit steps) := by
  delta HeldAsRead
  infer_instance

variable {commit : C → Db → Db} {control : Operation → C}

/-- A step that goes on with its request as it is does what its call does. -/
theorem Served.act_db (hcontrol : ∀ op, commit (control op) = op.commit) {w : Served}
    {step : Step C} (h : w.asRead step) :
    (w.act commit step).db = (step.call? control).elim w.db fun c => commit c w.db := by
  cases step with
  | call c => rfl
  | hold session approvalId => rfl
  | goOn session op =>
      simp only [Served.act, Step.call?, Option.elim_some, hcontrol]
      cases hheld : (w.held session).filter fun held => op.request? = some held.val.id with
      | none => rfl
      | some held =>
          have hmem := (Option.filter_eq_some_iff.mp hheld).1
          have hrow := Table.mem_of_get?_eq_some (h held hmem)
          have hsame := withHeld_self hrow held.property op.body
          simp only [Operation.commit, Tx.commitIf, Tx.run] at hsame ⊢
          rw [hsame]

/-- **Where the requests are as the sessions hold them**, a list of steps leaves behind what the list
of their calls does. -/
theorem Served.run_db (hcontrol : ∀ op, commit (control op) = op.commit) {steps : List (Step C)}
    (h : HeldAsRead commit steps) :
    (Served.run commit steps).db = (callsOf control steps).foldl (fun db c => commit c db) {} := by
  have hfold := h.foldl_eq Served.db
    (fun db step => (step.call? control).elim db fun c => commit c db)
    fun w step hstep => Served.act_db hcontrol hstep
  refine hfold.trans ?_
  unfold callsOf
  rw [List.foldl_filterMap]
  congr 1
  funext db step
  cases step.call? control <;> rfl

omit [Python] [HexDigest] in
/-- The calls of the first steps of a list, and of the later ones. -/
theorem callsOf_append (steps later : List (Step C)) :
    callsOf control (steps ++ later) = callsOf control steps ++ callsOf control later :=
  List.filterMap_append

theorem HeldAsRead.left {steps later : List (Step C)} (h : HeldAsRead commit (steps ++ later)) :
    HeldAsRead commit steps :=
  (EveryStep.append.mp h).1

/-- The database after a list of steps whose calls are those of the control plane. -/
def runSteps (steps : List (Step Operation)) : Db :=
  (Served.run Operation.commit steps).db

theorem runSteps_eq {steps : List (Step Operation)} (h : HeldAsRead Operation.commit steps) :
    runSteps steps = run (callsOf id steps) :=
  Served.run_db (fun _ => rfl) h

end Steps

end LibSeek.ControlPlane
