/-
A reservation that is made again.

A worker that has reserved a torrent may ask for the reservation once more, under the same lease.
The reservation stores the hash that the plan expects; the second call compares what is stored with
the hash that the torrent itself would be reserved under.

Main definitions:

* `ControlPlane.ExpectsOwnHash` — the plan expects no hash, or the torrent's own.

Main results:

* `ControlPlane.persist_of_submitting` — a call for an execution that is in submission;
* `ControlPlane.wp_persist_submitting` — **a reservation that ends in submission**;
* `ControlPlane.persist_again_iff` — **when a reservation can be made again**;
* `ControlPlane.expected_prefix_refused` — a torrent of the second version that a plan expects by
  its first 40 digits.
-/

import LibSeek.ControlPlane.Invariant
import LibSeek.Services.Decisions

set_option relaxedAutoImplicit false
set_option autoImplicit false

namespace LibSeek.ControlPlane

open LibSeek.Core LibSeek.Lib LibSeek.Models LibSeek.Schemas LibSeek.Services

section Replay

variable [Python] {db db' : Db} {executionId : String} {metadata : ValidatedTorrent}

/-- The plan of an execution that is being validated expects no hash, or the hash that the torrent
itself is reserved under. -/
def ExpectsOwnHash (db : Db) (executionId : String) (metadata : ValidatedTorrent) : Prop :=
  ∀ e ∈ db.executions.get? executionId, e.status = .validating →
    ∀ plan ∈ planOfApproval db.toTables e.approvalId, ∀ expected ∈ plan.expectedInfoHash,
      expected = "" ∨ metadata.selectedHash = some (casefold expected)

/-- A call for an execution that is in submission, under a live lease. -/
theorem persist_of_submitting {e : DownloadExecution} {selectedHash actor leaseToken : String}
    {leaseSeconds : Int} {clock : DateTime × DateTime}
    (hget : db.executions.get? executionId = some e)
    (hverified : verifyDownloadExecution db.toTables e = .ok e) (hstatus : e.status = .submitting)
    (hlease : requireExecutionLease e leaseToken leaseSeconds clock.1 = .ok ())
    (hselected : metadata.selectedHash = some selectedHash) :
    Tx.wp (persistInfoHashBeforeSubmission executionId metadata actor leaseToken leaseSeconds clock)
      (fun e' db' => e' = e ∧ db' = db ∧ sameReservation e selectedHash metadata)
      (fun _ _ => ¬ sameReservation e selectedHash metadata) db := by
  simp only [persistInfoHashBeforeSubmission, getDownloadExecution, Tx.wp_bind, Tx.wp_ofOption,
    Tx.wp_get, wp_liftApp, hselected, hget, Option.some.injEq, forall_eq']
  refine ⟨⟨⟨fun e' he' => ?_, fun error herror => ?_⟩, nofun⟩, nofun⟩
  · obtain rfl : e = e' := Except.ok.inj (hverified.symm.trans he')
    refine ⟨fun _ _ => ?_, fun error herror => ?_⟩
    · rw [if_pos hstatus]
      simp only [Tx.wp_bind, wp_requireApp, Tx.wp_pure]
      exact ⟨fun hsame => ⟨trivial, trivial, hsame⟩, id⟩
    · rw [hlease] at herror
      cases herror
  · rw [hverified] at herror
    cases herror

/-- What a call that ends in submission leaves: a row that verifies, and that a second call finds
reserved under the torrent's own hash where the plan expected no other. -/
structure Staged (db db' : Db) (executionId : String) (metadata : ValidatedTorrent)
    (e : DownloadExecution) : Prop where
  stored : db'.executions.get? executionId = some e
  verified : verifyDownloadExecution db'.toTables e = .ok e
  same : ∀ selectedHash, metadata.selectedHash = some selectedHash →
    (sameReservation e selectedHash metadata ↔ ExpectsOwnHash db executionId metadata)

/-- The hash of a reservation is the torrent's own where the plan expects no other. -/
theorem reservedHash_eq_iff {plan : DownloadPlan} {selectedHash hash : String}
    (h : reservedHash plan metadata selectedHash = .ok hash) :
    hash = selectedHash ↔
      ∀ expected ∈ plan.expectedInfoHash, expected = "" ∨ selectedHash = casefold expected := by
  unfold reservedHash at h
  cases hexpected : plan.expectedInfoHash with
  | none =>
      rw [hexpected] at h
      obtain rfl := Except.ok.inj h
      exact ⟨fun _ _ hnone => absurd hnone nofun, fun _ => rfl⟩
  | some expected =>
      rw [hexpected] at h
      simp only [Option.mem_def, Option.some.injEq, forall_eq']
      by_cases hempty : expected = ""
      · rw [hempty, Option.filter_some_neg (by simp)] at h
        obtain rfl := Except.ok.inj h
        exact ⟨fun _ => Or.inl hempty, fun _ => rfl⟩
      · rw [Option.filter_some_pos (by simpa using hempty)] at h
        obtain ⟨_, -, hhash⟩ := bind_eq_ok.mp h
        rw [← pure_eq_ok.mp hhash]
        exact ⟨fun hsame => Or.inr hsame.symm, fun hsame => (hsame.resolve_left hempty).symm⟩

/-- A row that verified still does once it is reserved. -/
theorem verify_reservedExecution {s s' : Tables} {e : DownloadExecution} {a : ApprovalRequest}
    {hash : String} {now : DateTime} (hverified : verifyDownloadExecution s e = .ok e)
    (hget : s.approvals.get? e.approvalId = some a) (hkeeps : Keeps s s')
    (happrovals : s'.approvals.get? e.approvalId = some { a with status := .executing })
    (hintents : s'.intents = s.intents) (hplans : s'.plans = s.plans)
    (hhash : hash ∈ metadata.identityHashes) :
    verifyDownloadExecution s' (reservedExecution e metadata hash now) =
      .ok (reservedExecution e metadata hash now) := by
  simp only [verifyDownloadExecution, bind_eq_ok, orRaise_eq_ok, pure_eq_ok] at hverified ⊢
  obtain ⟨_, hrow, approval, happroval, intent, hintent, plan, hplan, _, hbinding, _, hautomation,
    -⟩ := hverified
  obtain rfl : a = approval := Option.some.inj (hget.symm.trans happroval)
  refine ⟨(), ?_, _, happrovals, intent, ?_, plan, ?_, (), hbinding, (), ?_, trivial⟩
  · simp only [verifyExecutionRow, bind_eq_ok, ensure_eq_ok] at hrow ⊢
    obtain ⟨_, hdigests, -⟩ := hrow
    refine ⟨(), hdigests, (), ?_, (), ?_, (), ?_, ?_⟩
    · rintro _ ⟨⟩
      exact isInfoHash_of_mem_identityHashes hhash
    · rintro _ ⟨⟩
      exact List.mem_map_of_mem hhash
    · exact fun _ => Option.some_ne_none hash
    · intro _
      exact ⟨⟨_, rfl, metadata.totalSizeBytes_pos⟩, ⟨_, rfl, metadata.fileCount_pos⟩,
        Option.some_ne_none now, Option.some_ne_none now, metadata.infoHash_isSome⟩
  · rw [hintents]
    exact hintent
  · unfold planOfApproval
    rw [hplans]
    exact hplan
  · exact verifyExecutionAutomation_keeps hkeeps hautomation

/-- A reservation of an execution that is being validated. -/
theorem wp_reserveValidating_staged {e : DownloadExecution} {selectedHash actor leaseToken : String}
    {now : DateTime} (hexpected : ∀ p ∈ db.plans, ∀ expected ∈ p.expectedInfoHash,
      isInfoHash expected = true)
    (hget : db.executions.get? executionId = some e)
    (hverified : verifyDownloadExecution db.toTables e = .ok e) (hstatus : e.status = .validating)
    (hlease : e.leaseToken = some leaseToken ∧ e.lockedAt ≠ none)
    (hselected : metadata.selectedHash = some selectedHash) :
    Tx.wp (reserveValidating e metadata selectedHash actor now)
      (fun e' db' => e'.status = .submitting → Staged db db' executionId metadata e')
      (fun _ _ => True) db := by
  obtain ⟨he, hid⟩ := Table.get?_eq_some.mp hget
  -- wherever the reservation ends in a cancellation, there is nothing to show
  have hcancelled : ∀ db₁ : Db, Tx.wp (cancelInvalidatedExecution e actor)
      (fun e' db' => e'.status = .submitting → Staged db db' executionId metadata e')
      (fun _ _ => True) db₁ := by
    intro db₁
    simp only [cancelInvalidatedExecution, saveExecution, addExecutionEvent, Tx.wp_bind,
      Tx.wp_modify, Tx.wp_pure]
    exact fun h => by cases h
  simp only [reserveValidating, Tx.wp_bind, Tx.wp_get]
  cases happroval : db.approvals.get? e.approvalId with
  | none => exact hcancelled db
  | some a =>
      obtain ⟨ha, haid⟩ := Table.get?_eq_some.mp happroval
      simp only [Tx.wp_bind, wp_liftApp, Tx.wp_ite, saveApproval, addExecutionApprovalEvent,
        addApprovalEvent, Tx.wp_modify]
      refine ⟨fun snapshot _ => ⟨fun _ => hcancelled _, fun hvalid => ⟨fun _ => hcancelled db,
        fun happroved => ?_⟩⟩, fun _ _ => trivial⟩
      have hstatus' : a.status = .approved := not_not.mp happroved
      have hexpires : now < a.expiresAt := Int.not_le.mp fun hle => hvalid ⟨hstatus', hle⟩
      simp only [reserveApproved, saveApproval, saveExecution, addExecutionApprovalEvent,
        addApprovalEvent, addExecutionEvent, Tx.wp_bind]
      refine Tx.wp_mono wp_getVerifiedPlan (fun plan db₁ hplan => ?_) fun _ _ _ => trivial
      obtain ⟨rfl, hplan, -⟩ := hplan
      simp only [wp_liftApp, Tx.wp_modify, Tx.wp_pure]
      refine ⟨fun hash hhash _ => ?_, fun _ _ => trivial⟩
      have hreserved : Reserved db₁.toTables e.id metadata now
          { db₁.toTables with
            approvals := db₁.approvals.save { a with status := .executing }
            executions := db₁.executions.save (reservedExecution e metadata hash now) } :=
        .intro he rfl hstatus hlease.2 ha haid hstatus' hexpires hplan hselected hhash
      obtain ⟨hplanRow, -⟩ := planOfApproval_some hplan
      have hmem := reservedHash_mem (hexpected plan hplanRow) hselected hhash
      refine ⟨?_, ?_, ?_⟩
      · rw [← hid]
        exact Table.get?_save_self _ _
      · refine verify_reservedExecution hverified happroval
          (hreserved.effect he hlease.1).keeps ?_ rfl rfl hmem
        rw [← haid]
        exact Table.get?_save_self _ _
      -- asked again, the reservation compares the hash that it has chosen
      · intro selected hsel
        obtain rfl : selectedHash = selected := Option.some.inj (hselected.symm.trans hsel)
        have hplan' : planOfApproval db₁.toTables e.approvalId = some plan := haid ▸ hplan
        have hsame : sameReservation (reservedExecution e metadata hash now) selectedHash metadata ↔
            hash = selectedHash :=
          ⟨fun h => Option.some.inj h.1, fun h => ⟨congrArg some h, rfl, rfl, rfl, rfl⟩⟩
        rw [hsame, reservedHash_eq_iff hhash]
        unfold ExpectsOwnHash
        simp only [hget, hplan', hselected, Option.mem_def, Option.some.injEq, forall_eq', hstatus,
          forall_const]

/-- **A call that ends in submission** leaves an execution that a second call finds reserved. -/
theorem wp_persist_submitting (hexpected : ∀ p ∈ db.plans, ∀ expected ∈ p.expectedInfoHash,
      isInfoHash expected = true) (actor leaseToken : String) (leaseSeconds : Int)
    (clock : DateTime × DateTime) :
    Tx.wp (persistInfoHashBeforeSubmission executionId metadata actor leaseToken leaseSeconds clock)
      (fun e' db' => e'.status = .submitting → Staged db db' executionId metadata e')
      (fun _ _ => True) db := by
  simp only [persistInfoHashBeforeSubmission, getDownloadExecution, Tx.wp_bind, Tx.wp_ofOption,
    Tx.wp_get, wp_liftApp]
  refine ⟨fun selectedHash hselected => ⟨fun e hget => ⟨fun e' hverified => ?_, fun _ _ => trivial⟩,
    fun _ => trivial⟩, fun _ => trivial⟩
  obtain rfl := verifyDownloadExecution_eq hverified
  refine ⟨fun _ hlease => ?_, fun _ _ => trivial⟩
  simp only [Tx.wp_ite, Tx.wp_bind, wp_requireApp, Tx.wp_pure]
  refine ⟨fun hsubmitting => ⟨fun hsame _ => ⟨hget, hverified, ?_⟩, fun _ => trivial⟩,
    fun _ => ⟨fun hvalidating => ?_, fun _ => trivial⟩⟩
  · -- what was reserved before stays reserved, whatever the plan expects
    intro selected hsel
    obtain rfl : selectedHash = selected := Option.some.inj (hselected.symm.trans hsel)
    refine iff_of_true hsame fun other hother hstatus => ?_
    obtain rfl : e' = other := Option.some.inj (hget.symm.trans hother)
    rw [hsubmitting] at hstatus
    cases hstatus
  · exact wp_reserveValidating_staged hexpected hget hverified hvalidating
      (requireExecutionLease_ok hlease) hselected

/-- **When a reservation can be made again**: after a call that ended in submission, a second call
with the same torrent under the same live lease returns the execution as it is, if and only if the
plan expects no hash, or the hash that the torrent itself is reserved under. -/
theorem persist_again_iff {e : DownloadExecution} {actor actor' leaseToken : String}
    {leaseSeconds : Int} {clock clock' : DateTime × DateTime}
    (hexpected : ∀ p ∈ db.plans, ∀ expected ∈ p.expectedInfoHash, isInfoHash expected = true)
    (hfirst : (persistInfoHashBeforeSubmission executionId metadata actor leaseToken leaseSeconds
      clock).run db = (.ok e, db'))
    (hstatus : e.status = .submitting)
    (hlease : requireExecutionLease e leaseToken leaseSeconds clock'.1 = .ok ()) :
    (persistInfoHashBeforeSubmission executionId metadata actor' leaseToken leaseSeconds
        clock').run db' = (.ok e, db') ↔
      ExpectsOwnHash db executionId metadata := by
  have hstaged := (wp_persist_submitting hexpected actor leaseToken leaseSeconds clock).ok hfirst
    hstatus
  obtain ⟨selectedHash, hselected⟩ :=
    Option.ne_none_iff_exists'.mp metadata.selectedHash_ne_none
  have hagain := @persist_of_submitting _ db' executionId metadata e selectedHash actor' leaseToken
    leaseSeconds clock' hstaged.stored hstaged.verified hstatus hlease hselected
  rw [← hstaged.same selectedHash hselected]
  constructor
  · intro hsecond
    obtain ⟨-, -, hsame⟩ := hagain.ok hsecond
    exact hsame
  · intro hsame
    cases hsecond : (persistInfoHashBeforeSubmission executionId metadata actor' leaseToken
        leaseSeconds clock').run db' with
    | mk outcome db₂ =>
        cases outcome with
        | error error => exact absurd hsame (hagain.error hsecond)
        | ok e₂ =>
            obtain ⟨rfl, rfl, -⟩ := hagain.ok hsecond
            rfl

end Replay

/-! ### A torrent that a plan expects by its first digits -/

theorem hnrKnown_isCheckCode : isCheckCode "HNR_KNOWN" = true := by decide

/-- A pre-flight of the sample. -/
def passedPreflight : PreflightResult where
  overallStatus := .pass
  checks :=
    [{ code := "HNR_KNOWN"
       status := .pass
       message := "H&R"
       details := []
       code_valid := hnrKnown_isCheckCode
       message_valid := by decide }]
  checkedAt := 0
  policyFingerprint := .raw ("".pushn '0' 64)
  checks_ne_nil := by simp
  codes_nodup := by decide
  overallStatus_eq := by decide
  fingerprint_wellShaped := by decide +kernel

/-- An execution of the sample that a worker validates. -/
def leasedExecution : DownloadExecution :=
  { @pendingExecution asciiPython passedPreflight with
    status := .validating
    attempts := 1
    lockedAt := some 0
    lockedBy := some "worker"
    leaseToken := some "lease" }

/-- Its database.  The plan expects a hash of 40 digits. -/
def leasedDb : Db where
  toTables :=
    { @executionTables asciiPython passedPreflight with
      executions := (∅ : Table DownloadExecution).save leasedExecution }

theorem expectedHash_isHex : ∀ h ∈ some "aaaaaaaaaaaaaaaaaaaaaaaaaaaaaaaaaaaaaaaa",
    Digest.isHex 40 h = true := by
  decide +kernel

/-- A torrent of the first version with the hash that is expected. -/
def ownTorrent : ValidatedTorrent where
  name := "media"
  totalSizeBytes := 100
  fileCount := 1
  infoHashV1 := some "aaaaaaaaaaaaaaaaaaaaaaaaaaaaaaaaaaaaaaaa"
  infoHashV2 := none
  isPrivate := some true
  metaVersion := 1
  totalSizeBytes_pos := by decide
  fileCount_pos := Nat.one_pos
  infoHashV1_isHex := expectedHash_isHex
  infoHashV2_isHex := noHash_isHex
  infoHash_isSome := Or.inl nofun

/-- A torrent of the second version whose hash begins with the digits that are expected. -/
def prefixTorrent : ValidatedTorrent where
  name := "media"
  totalSizeBytes := 100
  fileCount := 1
  infoHashV1 := none
  infoHashV2 := some "aaaaaaaaaaaaaaaaaaaaaaaaaaaaaaaaaaaaaaaaaaaaaaaaaaaaaaaaaaaaaaaa"
  isPrivate := some true
  metaVersion := 2
  totalSizeBytes_pos := by decide
  fileCount_pos := Nat.one_pos
  infoHashV1_isHex := nofun
  infoHashV2_isHex := by decide +kernel
  infoHash_isSome := Or.inr nofun

/-- The first call for a torrent. -/
def firstReservation (metadata : ValidatedTorrent) : Except Exn DownloadExecution × Db :=
  (@persistInfoHashBeforeSubmission asciiPython (rowId 5).text metadata "worker" "lease" 300
    (1, 1)).run leasedDb

/-- A first call that ends in submission, with a lease that is still live. -/
theorem firstReservation_staged {metadata : ValidatedTorrent}
    (h : (firstReservation metadata).1.toOption.any (fun e => decide (e.status = .submitting ∧
      requireExecutionLease e "lease" 300 2 = .ok ())) = true) :
    ∃ e, firstReservation metadata = (.ok e, (firstReservation metadata).2) ∧
      e.status = .submitting ∧ requireExecutionLease e "lease" 300 2 = .ok () := by
  cases hfirst : (firstReservation metadata).1 with
  | error error =>
      rw [hfirst] at h
      cases h
  | ok e =>
      rw [hfirst] at h
      exact ⟨e, Prod.ext hfirst rfl, of_decide_eq_true h⟩

/-- The plan of the sample expects a hash. -/
theorem leasedDb_expected : ∀ p ∈ leasedDb.plans, ∀ expected ∈ p.expectedInfoHash,
    isInfoHash expected = true := by
  intro p hp expected hexpected
  obtain rfl := List.mem_singleton.mp (Table.mem_rows.mpr hp)
  obtain rfl := Option.some.inj hexpected
  decide +kernel

/-- The torrent with the expected hash has the hash that its plan expects. -/
theorem leasedDb_own : @ExpectsOwnHash asciiPython leasedDb (rowId 5).text ownTorrent := by
  intro e he _ plan hplan expected hexpected
  have hstored : leasedDb.executions.get? (rowId 5).text = some leasedExecution := by
    decide +kernel
  obtain rfl := Option.some.inj (hstored.symm.trans he)
  have hplanned : planOfApproval leasedDb.toTables leasedExecution.approvalId =
      some (@approvedPlan asciiPython passedPreflight) := by decide +kernel
  obtain rfl := Option.some.inj (hplanned.symm.trans hplan)
  obtain rfl := Option.some.inj hexpected
  exact Or.inr (by decide +kernel)

/-- The torrent is reserved once more. -/
theorem persist_again_own : ∃ e,
    (@persistInfoHashBeforeSubmission asciiPython (rowId 5).text ownTorrent "worker" "lease" 300
      (2, 2)).run (firstReservation ownTorrent).2 = (.ok e, (firstReservation ownTorrent).2) := by
  obtain ⟨e, hfirst, hstatus, hlease⟩ := @firstReservation_staged ownTorrent (by decide +kernel)
  exact ⟨e, (@persist_again_iff asciiPython leasedDb _ _ ownTorrent e "worker" "worker" "lease" 300
    (1, 1) (2, 2) leasedDb_expected hfirst hstatus hlease).mpr leasedDb_own⟩

/-- The torrent that is expected by its first digits is reserved, and its second reservation is
refused. -/
theorem expected_prefix_refused :
    ¬ ∀ (runtime : Python) (db db' : Db) (executionId : String) (metadata : ValidatedTorrent)
        (e : DownloadExecution) (actor actor' leaseToken : String) (leaseSeconds : Int)
        (clock clock' : DateTime × DateTime),
      (∀ p ∈ db.plans, ∀ expected ∈ p.expectedInfoHash, isInfoHash expected = true) →
      (@persistInfoHashBeforeSubmission runtime executionId metadata actor leaseToken leaseSeconds
        clock).run db = (.ok e, db') →
      e.status = .submitting →
      requireExecutionLease e leaseToken leaseSeconds clock'.1 = .ok () →
      (@persistInfoHashBeforeSubmission runtime executionId metadata actor' leaseToken leaseSeconds
        clock').run db' = (.ok e, db') := by
  intro h
  obtain ⟨e, hfirst, hstatus, hlease⟩ := @firstReservation_staged prefixTorrent
    (by decide +kernel)
  have hsecond := h asciiPython leasedDb _ (rowId 5).text prefixTorrent e "worker" "worker" "lease"
    300 (1, 1) (2, 2) leasedDb_expected hfirst hstatus hlease
  have hfails : ((@persistInfoHashBeforeSubmission asciiPython (rowId 5).text prefixTorrent "worker"
      "lease" 300 (2, 2)).run (firstReservation prefixTorrent).2).1.isOk = false := by
    decide +kernel
  rw [hsecond] at hfails
  cases hfails

end LibSeek.ControlPlane
