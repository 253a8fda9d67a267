/-
What holds of every row of the control plane.

A request carries a snapshot that verifies; a plan is the one that was built from the snapshot and
the pre-flight of its request; an execution satisfies its `CHECK` constraints.  These are properties
of a row alone, or of a plan with its request, and every step of a row keeps them.

Main definitions:

* `ControlPlane.ApprovalSound`, `ControlPlane.Planned`, `ControlPlane.ExecutionSound` — the rows.

Main results:

* `ControlPlane.verifyDownloadPlan_planOf` — **the plan that an approval builds verifies**;
* `ControlPlane.ApprovalStep.planned` — a plan goes with its request through every step of it;
* `ControlPlane.ExecutionStep.sound` — **every step of an execution keeps the `CHECK`
  constraints**.
-/

import LibSeek.ControlPlane.Rows

set_option relaxedAutoImplicit false
set_option autoImplicit false

namespace LibSeek.ControlPlane

open LibSeek.Core LibSeek.Lib LibSeek.Models LibSeek.Schemas LibSeek.Services LibSeek.Workers

variable [Python]

/-! ### Requests -/

/-- What holds of every request: its snapshot verifies, and its pre-flight, if it has one, is a
pre-flight of that snapshot. -/
structure ApprovalSound (a : ApprovalRequest) : Prop where
  id : ∃ newId : Uuid, a.id = newId.text
  verified : ∃ snapshot, verifySnapshot a = .ok snapshot
  preflight : a.preflightResult = none ∨ ∃ replies snapshot settings now result,
    verifySnapshot a = .ok snapshot ∧
      evaluatePreflight replies snapshot settings now = .ok result ∧
      a.preflightResult = some (.dump result)

theorem NewApproval.sound {a : ApprovalRequest} (h : NewApproval a) : ApprovalSound a :=
  ⟨h.id, h.verified, Or.inl h.preflightResult⟩

/-- The snapshot of a request verifies or not by what identifies the request. -/
theorem verifySnapshot_of_fixed {a a' : ApprovalRequest}
    (h : fixedApproval a' = fixedApproval a) : verifySnapshot a' = verifySnapshot a := by
  change verifySnapshot (fixedApproval a') = verifySnapshot (fixedApproval a)
  rw [h]

theorem ApprovalStep.sound {l : Licence} {a a' : ApprovalRequest} (h : ApprovalStep l a a')
    (ha : ApprovalSound a) : ApprovalSound a' := by
  obtain ⟨hid, hverified, hpreflight⟩ := ha
  cases h with
  | refl => exact ⟨hid, hverified, hpreflight⟩
  | move hmove =>
      cases hmove with
      | expire => exact ⟨hid, hverified, hpreflight⟩
      | reject => exact ⟨hid, hverified, hpreflight⟩
      | revoke => exact ⟨hid, hverified, hpreflight⟩
  | preflight h hl hsnapshot hresult =>
      exact ⟨hid, hverified, Or.inr ⟨_, _, _, _, _, hsnapshot, hresult, rfl⟩⟩
  | reserve => exact ⟨hid, hverified, hpreflight⟩
  | consume => exact ⟨hid, hverified, hpreflight⟩
  | fence => exact ⟨hid, hverified, hpreflight⟩

/-! ### Plans -/

/-- What holds of every plan with its request: the request has been decided and not rejected, and
the plan is the one built from its snapshot and from the pre-flight it still has. -/
structure Planned (a : ApprovalRequest) (p : DownloadPlan) : Prop where
  decided : a.status ≠ .pending ∧ a.status ≠ .rejected
  verified : verifyDownloadPlan p a = .ok p
  built : ∃ snapshot preflight settings category tags newId,
    verifySnapshot a = .ok snapshot ∧
      p = planOf a snapshot preflight settings category tags newId

/-- The tag of the media is among the tags of a plan. -/
theorem buildQbPlanTags_ok {configured tags : List String} {mediaTitle : String}
    (h : buildQbPlanTags configured mediaTitle = .ok tags) :
    ∃ mediaTag, mediaTitleQbTag mediaTitle = .ok mediaTag ∧
      tags.any (fun tag => casefold tag = casefold mediaTag) = true := by
  unfold buildQbPlanTags at h
  cases htags : configuredPlanTags [] configured with
  | error e => simp [htags] at h
  | ok kept =>
      rw [htags] at h
      cases hmedia : mediaTitleQbTag mediaTitle with
      | error e => simp [hmedia] at h
      | ok mediaTag =>
          refine ⟨mediaTag, rfl, ?_⟩
          by_cases hmem : casefold mediaTag ∈ kept.map casefold
          · simp only [hmedia, if_pos hmem] at h
            split at h
            · cases h
            · obtain rfl := Except.ok.inj h
              obtain ⟨tag, htag, heq⟩ := List.mem_map.mp hmem
              exact List.any_eq_true.mpr ⟨tag, htag, decide_eq_true heq⟩
          · simp only [hmedia, if_neg hmem] at h
            split at h
            · cases h
            · obtain rfl := Except.ok.inj h
              simp

/-- A snapshot that verifies passes the checks of its type. -/
theorem valid_of_verifySnapshot {a : ApprovalRequest} {snapshot : ApprovalCandidateSnapshot}
    (h : verifySnapshot a = .ok snapshot) : snapshot.valid = true := by
  simp only [verifySnapshot, bind_eq_ok, orRaise_eq_ok, pure_eq_ok] at h
  obtain ⟨_, -, snapshot', hvalid, _, -, rfl⟩ := h
  exact JsonColumn.valid_of_modelValidate hvalid

/-- What a fresh pre-flight is the stored one of. -/
theorem requireFreshPreflight_ok {a : ApprovalRequest} {settings : Settings} {now : DateTime}
    {preflight : PreflightResult} (h : requireFreshPreflight a settings now = .ok preflight) :
    (∃ stored checkedAt, a.preflightResult = some stored ∧ stored.parse = some preflight ∧
        a.preflightCheckedAt = some checkedAt ∧ checkedAt = preflight.checkedAt ∧
        checkedAt ≤ now ∧
        now - checkedAt ≤ seconds settings.approvalPreflightMaxAgeSeconds) ∧
      checksComplete preflight.checks ∧
      preflightPolicyFingerprint settings = .ok preflight.policyFingerprint ∧
      preflightIsManuallyPassable preflight = true := by
  simp only [requireFreshPreflight, bind_eq_ok, orRaise_eq_ok, ensure_eq_ok, pure_eq_ok,
    validatePreflightResult] at h
  obtain ⟨stored, hstored, checkedAt, hchecked, preflight', hparse, _, hcomplete, _, hstamp, _,
    hage, current, hcurrent, _, hsame, _, hpass, rfl⟩ := h
  exact ⟨⟨stored, checkedAt, hstored, hparse, hchecked, hstamp.1, hstamp.2, hage⟩, hcomplete,
    hsame ▸ hcurrent, hpass⟩

/-- **The plan that an approval builds verifies** against its request, whatever becomes of the
request's status. -/
theorem verifyDownloadPlan_planOf {a : ApprovalRequest} {p : DownloadPlan} {settings : Settings}
    {request : ApprovalApproveRequest} {now : DateTime} (h : Approval settings request now a p) :
    verifyDownloadPlan p { a with status := .approved, decidedAt := some now } = .ok p := by
  obtain ⟨⟨stored, _, hstored, hparse, -⟩, -⟩ := requireFreshPreflight_ok h.preflight_ok
  obtain ⟨mediaTag, hmediaTag, htag⟩ := buildQbPlanTags_ok h.tags_ok
  have hvalid := valid_of_verifySnapshot h.snapshot_ok
  simp only [ApprovalCandidateSnapshot.valid, Bool.and_eq_true] at hvalid
  rw [h.plan_eq]
  simp only [verifyDownloadPlan, bind_eq_ok, ensure_eq_ok, orRaise_eq_ok, pure_eq_ok,
    validatePreflightResult]
  refine ⟨h.snapshot, h.snapshot_ok, (), rfl, (), ⟨rfl, rfl⟩, (), ?_, h.preflight, rfl, stored,
    hstored, h.preflight, hparse, (), ⟨rfl, rfl⟩, mediaTag, hmediaTag, (), htag, trivial⟩
  exact ⟨hvalid.1.1.1.1.1, hvalid.1.1.1.1.2, by simp [planOf]⟩

/-- The new plan of an approval goes with its request. -/
theorem Approval.planned {a : ApprovalRequest} {p : DownloadPlan} {settings : Settings}
    {request : ApprovalApproveRequest} {now : DateTime} (h : Approval settings request now a p) :
    Planned { a with status := .approved, decidedAt := some now } p where
  decided := ⟨by simp, by simp⟩
  verified := verifyDownloadPlan_planOf h
  built := ⟨h.snapshot, h.preflight, settings, h.category, h.tags, h.newId, h.snapshot_ok,
    h.plan_eq⟩

/-- A plan goes with its request through every step of the request. -/
theorem ApprovalStep.planned {l : Licence} {a a' : ApprovalRequest} {p : DownloadPlan}
    (h : ApprovalStep l a a') (hp : Planned a p) : Planned a' p := by
  obtain ⟨hdecided, hverified, hbuilt⟩ := hp
  cases h with
  | refl => exact ⟨hdecided, hverified, hbuilt⟩
  | move hmove =>
      cases hmove with
      | expire => exact ⟨⟨by simp, by simp⟩, hverified, hbuilt⟩
      | reject h => exact absurd h hdecided.1
      | revoke => exact ⟨⟨by simp, by simp⟩, hverified, hbuilt⟩
  | preflight h => exact absurd h hdecided.1
  | reserve => exact ⟨⟨by simp, by simp⟩, hverified, hbuilt⟩
  | consume => exact ⟨⟨by simp, by simp⟩, hverified, hbuilt⟩
  | fence => exact ⟨⟨by simp, by simp⟩, hverified, hbuilt⟩

/-- The hash that a plan expects has the shape of one. -/
theorem Planned.expectedInfoHash {a : ApprovalRequest} {p : DownloadPlan} (h : Planned a p) :
    ∀ expected ∈ p.expectedInfoHash, isInfoHash expected = true := by
  obtain ⟨snapshot, preflight, settings, category, tags, newId, -, rfl⟩ := h.built
  intro expected hexpected
  simp only [planOf, Option.mem_def, Option.map_eq_some_iff] at hexpected
  obtain ⟨hash, -, rfl⟩ := hexpected
  exact hash.isInfoHash

/-! ### Executions -/

/-- What holds of every execution alone: the `CHECK` constraints, and an attempt left to every one
that waits for its claim. -/
structure ExecutionSound (e : DownloadExecution) : Prop where
  checks : e.SatisfiesChecks
  claimable : e.status = .pending ∨ e.status = .retryWait → e.attempts < e.maxAttempts

omit [Python] in
/-- The binding of an origin, as the `CHECK` constraint states it. -/
theorem requireOriginBinding_ok {origin : Origin} {launchMode : Option DownloadLaunchMode}
    {revisionId decisionId : Option String}
    (h : requireOriginBinding origin launchMode revisionId decisionId = .ok ()) :
    (origin = .manual ∧ revisionId = none ∧ decisionId = none) ∨
      (origin = .automation ∧ revisionId ≠ none ∧ decisionId ≠ none ∧
        launchMode = some .addPaused) := by
  cases origin with
  | manual =>
      simp only [requireOriginBinding, ensure_eq_ok] at h
      exact Or.inl ⟨rfl, h⟩
  | automation =>
      simp only [requireOriginBinding, ensure_eq_ok] at h
      exact Or.inr ⟨rfl, h.2.1.1, h.2.2.1, h.1⟩

omit [Python] in
theorem NewExecution.sound {e : DownloadExecution} (h : NewExecution e)
    (horigin : requireOriginBinding e.origin (some e.launchMode) e.automationPolicyRevisionId
      e.automationDecisionId = .ok ()) : ExecutionSound e := by
  obtain ⟨h1, h2, h3, h4, h5, h6, h7⟩ := h.bundle
  obtain ⟨hby, hat, hreason⟩ := h.reconciliation
  have hnot : e.status.isReserved = false := by rw [h.status]; rfl
  refine ⟨?_, fun _ => by rw [h.attempts]; exact h.maxAttempts⟩
  exact
    { attempts := ⟨h.maxAttempts, by rw [h.attempts]; exact Nat.zero_le _⟩
      actualInfoHash_shape := by rw [h1]; rfl
      actualInfoHashV1_shape := by rw [h2]; rfl
      actualInfoHashV2_shape := by rw [h3]; rfl
      actualInfoHash_binding := Or.inl h1
      lease_fields := Or.inl h.lease
      lease_status := by simp [h.status, h.lease.1, DownloadExecutionStatus.isLeased]
      validation_bundle := Or.inl h.bundle
      submission_metadata := Or.inr (by simp [hnot, h1])
      verified_status := by simp [h.status, h.verifiedAt, DownloadExecutionStatus.isVerified]
      reconciliation_fields := by simp [hby, hat]
      reconciliation_status := by simp [h.status]
      reconciliation_reason := fun hne => absurd hreason hne
      automation_binding := by
        rcases requireOriginBinding_ok horigin with hmanual | ⟨hauto, hrev, hdec, hmode⟩
        · exact Or.inl hmanual
        · exact Or.inr ⟨hauto, hrev, hdec, Option.some.inj hmode⟩ }

/-- The hash under which a torrent is reserved is one that the torrent can be known by. -/
theorem reservedHash_mem {plan : DownloadPlan} {metadata : ValidatedTorrent}
    {selectedHash hash : String}
    (hexpected : ∀ expected ∈ plan.expectedInfoHash, isInfoHash expected = true)
    (hselected : metadata.selectedHash = some selectedHash)
    (h : reservedHash plan metadata selectedHash = .ok hash) :
    hash ∈ metadata.identityHashes := by
  unfold reservedHash at h
  cases hfilter : plan.expectedInfoHash.filter (· ≠ "") with
  | none =>
      rw [hfilter] at h
      obtain rfl := Except.ok.inj h
      exact ValidatedTorrent.selectedHash_mem hselected
  | some expected =>
      rw [hfilter] at h
      simp only [bind_eq_ok, ensure_eq_ok, pure_eq_ok] at h
      obtain ⟨_, hmatches, rfl⟩ := h
      have hfold : casefold expected = expected :=
        casefold_of_isInfoHash (hexpected expected (Option.filter_eq_some_iff.mp hfilter).1)
      rw [hfold] at hmatches ⊢
      simpa [ValidatedTorrent.matchesHash, hfold] using hmatches

omit [Python] in
/-- An execution that is not reserved, nor cancelled, has no torrent. -/
theorem SatisfiesChecks.no_torrent {e : DownloadExecution} (h : e.SatisfiesChecks)
    (hcancelled : e.status ≠ .cancelled) (hreserved : e.status.isReserved = false) :
    e.actualInfoHash = none := by
  rcases h.submission_metadata with hc | hiff
  · exact absurd hc hcancelled
  · by_contra hne
    rw [hiff.mpr hne] at hreserved
    cases hreserved

omit [Python] in
/-- The row with its lease given up satisfies the constraints in every state without a lease that
agrees with what is known of the torrent. -/
theorem SatisfiesChecks.released {e : DownloadExecution} (h : e.SatisfiesChecks)
    {status : DownloadExecutionStatus} (hleased : status.isLeased = false)
    (hverified : status.isVerified = false) (hold : e.status.isVerified = false)
    (hpending : status ≠ .reconciliationPending)
    (htorrent : status = .cancelled ∨ (status.isReserved = true ↔ e.actualInfoHash ≠ none))
    (nextRetryAt : Option DateTime) (errorCode errorMessage : Option String) :
    ({ released e with status, nextRetryAt, errorCode, errorMessage } :
      DownloadExecution).SatisfiesChecks :=
  { attempts := h.attempts
    actualInfoHash_shape := h.actualInfoHash_shape
    actualInfoHashV1_shape := h.actualInfoHashV1_shape
    actualInfoHashV2_shape := h.actualInfoHashV2_shape
    actualInfoHash_binding := h.actualInfoHash_binding
    lease_fields := Or.inl ⟨rfl, rfl, rfl⟩
    lease_status := by simp [hleased, Services.released]
    validation_bundle := h.validation_bundle
    submission_metadata := htorrent
    verified_status := by
      have hnone : ¬ e.verifiedAt ≠ none := fun hne => by
        rw [h.verified_status.mpr hne] at hold
        cases hold
      simpa [hverified, Services.released] using hnone
    reconciliation_fields := h.reconciliation_fields
    reconciliation_status := fun hs => absurd hs hpending
    reconciliation_reason := h.reconciliation_reason
    automation_binding := h.automation_binding }

omit [Python] in
theorem ExecutionMove.sound {e e' : DownloadExecution} (hmove : ExecutionMove e e')
    (h : ExecutionSound e) : ExecutionSound e' := by
  obtain ⟨hc, hclaim⟩ := h
  cases hmove with
  | @claim x leaseToken now hstatus hattempts =>
      -- a row that waits has no torrent yet, and it was never verified
      have hnone := SatisfiesChecks.no_torrent hc (by rcases hstatus with hs | hs <;> simp [hs])
        (by rcases hstatus with hs | hs <;> simp [hs, DownloadExecutionStatus.isReserved])
      have hunverified : e.verifiedAt = none := by
        by_contra hne
        have := hc.verified_status.mpr hne
        rcases hstatus with hs | hs <;> simp [hs, DownloadExecutionStatus.isVerified] at this
      refine ⟨?_, fun hs => by simp [claimedExecution] at hs⟩
      exact
        { attempts := ⟨hc.attempts.1, hattempts⟩
          actualInfoHash_shape := hc.actualInfoHash_shape
          actualInfoHashV1_shape := hc.actualInfoHashV1_shape
          actualInfoHashV2_shape := hc.actualInfoHashV2_shape
          actualInfoHash_binding := hc.actualInfoHash_binding
          lease_fields := Or.inr ⟨by simp [claimedExecution], by simp [claimedExecution],
            by simp [claimedExecution]⟩
          lease_status := by simp [claimedExecution, DownloadExecutionStatus.isLeased]
          validation_bundle := hc.validation_bundle
          submission_metadata := Or.inr
            (by simp [claimedExecution, DownloadExecutionStatus.isReserved, hnone])
          verified_status := by
            simp [claimedExecution, DownloadExecutionStatus.isVerified, hunverified]
          reconciliation_fields := hc.reconciliation_fields
          reconciliation_status := fun hs => by simp [claimedExecution] at hs
          reconciliation_reason := hc.reconciliation_reason
          automation_binding := hc.automation_binding }
  | @renew now hleased hlocked =>
      refine ⟨?_, fun hs => hclaim hs⟩
      exact
        { hc with
          lease_fields := by
            rcases hc.lease_fields with ⟨hnone, -, -⟩ | ⟨-, hby, htoken⟩
            · exact absurd hnone hlocked
            · exact Or.inr ⟨Option.some_ne_none now, hby, htoken⟩
          lease_status := ⟨fun _ => Option.some_ne_none now, fun _ => hleased⟩ }
  | @validationEnded x now retry errorCode errorMessage hstatus hretry =>
      have hnone := SatisfiesChecks.no_torrent hc (by simp [hstatus])
        (by simp [hstatus, DownloadExecutionStatus.isReserved])
      have hold : e.status.isVerified = false := by
        simp [hstatus, DownloadExecutionStatus.isVerified]
      -- a row goes back into the queue only with attempts to spare
      cases retry with
      | true =>
          exact ⟨SatisfiesChecks.released hc rfl rfl hold (by simp)
            (Or.inr (by simp [DownloadExecutionStatus.isReserved, hnone])) _ _ _,
            fun _ => hretry rfl⟩
      | false =>
          exact ⟨SatisfiesChecks.released hc rfl rfl hold (by simp)
            (Or.inr (by simp [DownloadExecutionStatus.isReserved, hnone])) _ _ _,
            fun hs => by simp [Workers.validationEnded] at hs⟩
  | @outcomeUnknown errorCode errorMessage hstatus =>
      -- a submission that was begun has reserved its torrent
      have hsome : e.actualInfoHash ≠ none := by
        rcases hc.submission_metadata with hs | hiff
        · simp [hstatus] at hs
        · exact hiff.mp (by simp [hstatus, DownloadExecutionStatus.isReserved])
      exact ⟨SatisfiesChecks.released hc rfl rfl
        (by simp [hstatus, DownloadExecutionStatus.isVerified]) (by simp)
        (Or.inr (by simp [DownloadExecutionStatus.isReserved, hsome])) _ _ _,
        fun hs => by simp at hs⟩
  | @reconciliationRequired errorCode errorMessage hstatus =>
      have hsome : e.actualInfoHash ≠ none := by
        rcases hc.submission_metadata with hs | hiff
        · rcases hstatus with h | h <;> simp [h] at hs
        · refine hiff.mp ?_
          rcases hstatus with h | h <;> simp [h, DownloadExecutionStatus.isReserved]
      exact ⟨SatisfiesChecks.released hc rfl rfl
        (by rcases hstatus with h | h <;> simp [h, DownloadExecutionStatus.isVerified]) (by simp)
        (Or.inr (by simp [DownloadExecutionStatus.isReserved, hsome])) _ _ _,
        fun hs => by simp at hs⟩
  | @reconcile actor now reason hstatus =>
      have hsome : e.actualInfoHash ≠ none := by
        rcases hc.submission_metadata with hs | hiff
        · rcases hstatus with h | h <;> simp [h] at hs
        · refine hiff.mp ?_
          rcases hstatus with h | h <;> simp [h, DownloadExecutionStatus.isReserved]
      have hunlocked : e.lockedAt = none := by
        by_contra hne
        have := hc.lease_status.mpr hne
        rcases hstatus with h | h <;> simp [h, DownloadExecutionStatus.isLeased] at this
      have hunverified : e.verifiedAt = none := by
        by_contra hne
        have := hc.verified_status.mpr hne
        rcases hstatus with h | h <;> simp [h, DownloadExecutionStatus.isVerified] at this
      refine ⟨?_, fun hs => by simp at hs⟩
      exact
        { hc with
          lease_status := by simp [DownloadExecutionStatus.isLeased, hunlocked]
          submission_metadata := Or.inr (by simp [DownloadExecutionStatus.isReserved, hsome])
          verified_status := by simp [DownloadExecutionStatus.isVerified, hunverified]
          reconciliation_fields := by simp
          reconciliation_status := fun _ => ⟨by simp, by simp⟩
          reconciliation_reason := fun _ => ⟨by simp, by simp⟩ }

/-- **Every step of an execution keeps its constraints**, where the plan it is reserved for goes
with a request. -/
theorem ExecutionStep.sound {fencer : Option String} {s : Tables} {e e' : DownloadExecution}
    (hstep : ExecutionStep fencer s e e')
    (hplans : ∀ p ∈ s.plans, ∀ expected ∈ p.expectedInfoHash, isInfoHash expected = true)
    (h : ExecutionSound e) : ExecutionSound e' := by
  cases hstep with
  | refl => exact h
  | move hmove => exact hmove.sound h
  | cancel hmay =>
      -- whichever statuses may be cancelled, none of them is verified
      have hold : e.status.isVerified = false := by
        rcases hmay with hs | ⟨hs, -⟩ <;> simp [hs, DownloadExecutionStatus.isVerified]
      exact ⟨SatisfiesChecks.released h.checks rfl rfl hold (by simp) (Or.inl rfl) _ _ _,
        fun hs => by simp [cancelledExecution] at hs⟩
  | @reserve plan metadata selectedHash hash now hstatus hlocked hplan hselected hhash =>
      have hc := h.checks
      -- the hash that is reserved is one that the torrent is known by
      have hmem := reservedHash_mem (hplans plan (List.mem_of_find?_eq_some hplan)) hselected hhash
      have hunverified : e.verifiedAt = none := by
        by_contra hne
        have := hc.verified_status.mpr hne
        simp [hstatus, DownloadExecutionStatus.isVerified] at this
      refine ⟨?_, fun hs => by simp [reservedExecution] at hs⟩
      exact
        { hc with
          actualInfoHash_shape := by
            have := isInfoHash_of_mem_identityHashes hmem
            simpa [reservedExecution, portableHexCheck, isInfoHash] using this
          actualInfoHashV1_shape := by
            cases hv1 : metadata.infoHashV1 with
            | none => simp [reservedExecution, hv1, portableHexCheck]
            | some v1 =>
                simp [reservedExecution, hv1, portableHexCheck, metadata.infoHashV1_isHex v1 hv1]
          actualInfoHashV2_shape := by
            cases hv2 : metadata.infoHashV2 with
            | none => simp [reservedExecution, hv2, portableHexCheck]
            | some v2 =>
                simp [reservedExecution, hv2, portableHexCheck, metadata.infoHashV2_isHex v2 hv2]
          actualInfoHash_binding := Or.inr (mem_hashSet hmem)
          lease_status := by
            simp [reservedExecution, DownloadExecutionStatus.isLeased, hlocked]
          validation_bundle := Or.inr ⟨by simp [reservedExecution], metadata.infoHash_isSome,
            ⟨_, rfl, metadata.totalSizeBytes_pos⟩, ⟨_, rfl, metadata.fileCount_pos⟩,
            by simp [reservedExecution], by simp [reservedExecution]⟩
          submission_metadata := Or.inr
            (by simp [reservedExecution, DownloadExecutionStatus.isReserved])
          verified_status := by
            simp [reservedExecution, DownloadExecutionStatus.isVerified, hunverified]
          reconciliation_status := fun hs => by simp [reservedExecution] at hs }
  | @finalize outcome now hstatus houtcome =>
      have hc := h.checks
      have hsome : e.actualInfoHash ≠ none := by
        rcases hc.submission_metadata with hs | hiff
        · simp [hstatus] at hs
        · exact hiff.mp (by simp [hstatus, DownloadExecutionStatus.isReserved])
      refine ⟨?_, fun hs => by rcases houtcome with rfl | rfl <;> simp [finalizedExecution] at hs⟩
      exact
        { hc with
          lease_fields := Or.inl ⟨rfl, rfl, rfl⟩
          lease_status := by
            rcases houtcome with rfl | rfl <;>
              simp [finalizedExecution, released, DownloadExecutionStatus.isLeased]
          submission_metadata := Or.inr (by
            rcases houtcome with rfl | rfl <;>
              simp [finalizedExecution, released, DownloadExecutionStatus.isReserved, hsome])
          verified_status := by
            rcases houtcome with rfl | rfl <;>
              simp [finalizedExecution, DownloadExecutionStatus.isVerified]
          reconciliation_status := fun hs => by
            rcases houtcome with rfl | rfl <;> simp [finalizedExecution] at hs }

end LibSeek.ControlPlane
