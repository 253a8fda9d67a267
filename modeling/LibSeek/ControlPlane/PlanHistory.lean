/-
The history of a plan.

A plan is made when a request is approved, and in no other way.  So what the approval checked can be
read back from every plan of a run in which the routes go on with their requests as they are: which
operator acknowledged what, which pre-flight the request carried, when that pre-flight was recorded
and that no other took its place since.  As no pre-flight is ever a plain pass, no request is approved
automatically.

Main definitions:

* `ControlPlane.Carries` — a request carries the result of a pre-flight;
* `ControlPlane.Recorded` — a call of the run recorded it, and it stands since;
* `ControlPlane.Grounds` — **what a plan rests on**.

Main results:

* `ControlPlane.plan_history` — **every plan of a run has its grounds in the run**;
* `ControlPlane.planned_iff_approved` — a plan exists exactly for the requests that went from
  pending to approved;
* `ControlPlane.plan_kept` — what becomes of a plan.
-/

import LibSeek.ControlPlane.AuditRuns
import LibSeek.ControlPlane.RowRuns
import LibSeek.Lib.Provenance

set_option relaxedAutoImplicit false
set_option autoImplicit false

namespace LibSeek.ControlPlane

open LibSeek.Core LibSeek.Lib LibSeek.Models LibSeek.Schemas LibSeek.Services LibSeek.Workers

variable [Python] [HexDigest] {db : Db} {s s' : Tables} {l : Licence}

/-! ### Pre-flights -/

omit [Python] [HexDigest] in
/-- The request of an identifier carries the result of a pre-flight. -/
def Carries (s : Tables) (approvalId : String) (result : PreflightResult) : Prop :=
  ∃ a ∈ s.approvals, a.id = approvalId ∧ a.preflightResult = some (.dump result)

variable {approvalId : String} {result : PreflightResult}

omit [HexDigest] in
/-- A change without the licence for it brings a request no result. -/
theorem Effect.carried (h : Effect l s s') (hl : l.preflight ≠ some approvalId)
    (hcarries : Carries s' approvalId result) : Carries s approvalId result := by
  obtain ⟨a', ha', rfl, hresult⟩ := hcarries
  rcases h.approval_cases ha' with ⟨hnew, -⟩ | ⟨a, ha, hstep⟩
  · rw [hnew.preflightResult] at hresult
    cases hresult
  · rw [hstep.id_eq] at hl ⊢
    exact ⟨a, ha, rfl, (hstep.preflight_eq hl).1 ▸ hresult⟩

omit [HexDigest] in
/-- The approval of a request brings none a result. -/
theorem Approve.carried (h : Approve s s') (hcarries : Carries s' approvalId result) :
    Carries s approvalId result := by
  obtain ⟨a, settings, request, now, plan, ha, -, -, -, rfl⟩ := h
  obtain ⟨a', ha', rfl, hresult⟩ := hcarries
  rcases Table.mem_save.mp ha' with rfl | ⟨ha', -⟩
  · exact ⟨a, ha, rfl, hresult⟩
  · exact ⟨a', ha', rfl, hresult⟩

omit [HexDigest] in
theorem Moves.carried (h : Moves l s s') (hl : l.preflight ≠ some approvalId)
    (hcarries : Carries s' approvalId result) : Carries s approvalId result := by
  by_contra hnot
  refine Moves.preserve (P := fun s => ¬ Carries s approvalId result) ?_ ?_ h hnot hcarries
  · exact fun _ _ heffect hs hs' => hs (heffect.carried hl hs')
  · exact fun _ _ happrove hs hs' => hs (happrove.carried hs')

omit [HexDigest] in
/-- **A pre-flight** saves what the answers come to against the snapshot of the request. -/
theorem wp_preflightRequest_evaluated (approvalId : String) (replies : QbReadReplies)
    (settings : Settings) (actor : String) (evaluatedAt now : DateTime) :
    Tx.wp (preflightRequest approvalId replies settings actor evaluatedAt now)
      (fun result db' => ∃ a ∈ db.approvals, a.id = approvalId ∧
        (∃ snapshot, verifySnapshot a = .ok snapshot ∧
          evaluatePreflight replies snapshot settings evaluatedAt = .ok result) ∧
        db'.approvals = db.approvals.save (preflighted a result))
      (fun _ db' => Effects .none db.toTables db'.toTables) db := by
  simp only [preflightRequest, Tx.wp_bind, wp_liftApp, Tx.wp_pure]
  refine Tx.wp_mono (wp_getApprovalOr404 approvalId) (fun a db' h => ?_) fun _ db' h => h ▸ .refl
  obtain ⟨rfl, ha, rfl, -⟩ := h
  refine ⟨fun snapshot hsnapshot => ⟨fun result hresult => ?_, fun _ _ => .refl⟩,
    fun _ _ => .refl⟩
  refine Tx.wp_mono (wp_savePreflightResult ha hsnapshot hresult actor now) (fun a' db'' h => ?_)
    fun _ _ h => h
  exact ⟨a, ha, rfl, ⟨snapshot, hsnapshot, hresult⟩, h.2.2.2⟩

omit [Python] [HexDigest] in
/-- The licence for the pre-flight of a request is that of one call. -/
theorem Operation.of_preflight {op : Operation} (h : op.licence.preflight = some approvalId) :
    ∃ replies settings actor evaluatedAt now,
      op = .savePreflightResult approvalId replies settings actor evaluatedAt now := by
  cases op with
  | savePreflightResult id replies settings actor evaluatedAt now =>
      obtain rfl := Option.some.inj h
      exact ⟨replies, settings, actor, evaluatedAt, now, rfl⟩
  | _ => cases h

/-- **The call that brings a request the result of a pre-flight** has evaluated it. -/
theorem Operation.carried (hs : Invariant db.toTables) (op : Operation)
    (hafter : Carries (op.commit db).toTables approvalId result)
    (hbefore : ¬ Carries db.toTables approvalId result) :
    ∃ replies settings actor evaluatedAt now,
      op = .savePreflightResult approvalId replies settings actor evaluatedAt now ∧
      ∃ a ∈ db.approvals, a.id = approvalId ∧ ∃ snapshot, verifySnapshot a = .ok snapshot ∧
        evaluatePreflight replies snapshot settings evaluatedAt = .ok result := by
  by_cases hl : op.licence.preflight = some approvalId
  · obtain ⟨replies, settings, actor, evaluatedAt, now, rfl⟩ := Operation.of_preflight hl
    refine ⟨replies, settings, actor, evaluatedAt, now, rfl, ?_⟩
    revert hafter
    refine Tx.commitIf_wp (P := fun db' : Db => Carries db'.toTables approvalId result →
      ∃ a ∈ db.approvals, a.id = approvalId ∧ ∃ snapshot, verifySnapshot a = .ok snapshot ∧
        evaluatePreflight replies snapshot settings evaluatedAt = .ok result)
      ((wp_ignoring _).mpr (Tx.wp_mono (wp_preflightRequest_evaluated ..) (fun r db' h => ?_)
        fun _ db' h _ hcarries => ?_)) fun hcarries => absurd hcarries hbefore
    · obtain ⟨a, ha, haid, hevaluated, hsaved⟩ := h
      rintro ⟨a', ha', hid, hresult⟩
      rw [hsaved] at ha'
      rcases Table.mem_save.mp ha' with rfl | ⟨ha', -⟩
      · obtain rfl := JsonColumn.dump.inj (Option.some.inj hresult)
        exact ⟨a, ha, haid, hevaluated⟩
      · exact absurd ⟨a', ha', hid, hresult⟩ hbefore
    · exact absurd (h.moves.carried (fun h => nomatch h) hcarries) hbefore
  · exact absurd ((op.moves hs.bindings).carried hl hafter) hbefore

/-- **A call of the run recorded the result of a pre-flight** that was evaluated against a
snapshot, and the request carries it since. -/
def Recorded (ops : List Operation) (approvalId : String) (snapshot : ApprovalCandidateSnapshot)
    (result : PreflightResult) : Prop :=
  ∃ earlier replies settings actor evaluatedAt now later,
    ops = earlier ++
      .savePreflightResult approvalId replies settings actor evaluatedAt now :: later ∧
    evaluatePreflight replies snapshot settings evaluatedAt = .ok result ∧
    ∀ between, between <+: later → Carries (run (earlier ++
      .savePreflightResult approvalId replies settings actor evaluatedAt now ::
        between)).toTables approvalId result

/-- The rows of a run are all kept by the rest of it. -/
theorem keeps_run (ops later : List Operation) :
    Keeps (run ops).toTables (run (ops ++ later)).toTables := by
  induction later using List.reverseRecOn with
  | nil =>
      rw [List.append_nil]
      exact .refl _
  | append_singleton later op ih =>
      rw [← List.append_assoc, run_concat]
      exact ih.trans (op.moves (invariant_run _).bindings).keeps

omit [HexDigest] in
/-- The snapshot of a request stays what it is. -/
theorem Keeps.verifySnapshot {a a' : ApprovalRequest} (h : Keeps s s') (ha : a ∈ s.approvals)
    (ha' : a' ∈ s'.approvals) (hid : a'.id = a.id) :
    Services.verifySnapshot a' = Services.verifySnapshot a := by
  obtain ⟨b, hb, hfixed⟩ := h.approvals a ha
  obtain rfl : b = a' := Table.eq_of_key_eq hb ha' ((id_of_fixedApproval hfixed).trans hid.symm)
  exact verifySnapshot_of_fixed hfixed

/-- **What a request of a run carries was recorded in the run.** -/
theorem recorded_run (ops : List Operation) {a : ApprovalRequest}
    (ha : a ∈ (run ops).approvals) {snapshot : ApprovalCandidateSnapshot}
    (hsnapshot : verifySnapshot a = .ok snapshot)
    (hresult : a.preflightResult = some (.dump result)) :
    Recorded ops a.id snapshot result := by
  obtain ⟨earlier, op, later, rfl, hbefore, hsince⟩ := foldl_since
    (fun (db : Db) (op : Operation) => op.commit db)
    (P := fun db => Carries db.toTables a.id result)
    (show ¬ Carries ({} : Db).toTables a.id result from
      fun h => absurd h.choose_spec.1 (Table.notMem_empty _))
    (show Carries (run ops).toTables a.id result from ⟨a, ha, rfl, hresult⟩)
  have hbrought := hsince [] List.nil_prefix
  rw [List.foldl_append] at hbrought
  obtain ⟨replies, settings, actor, evaluatedAt, now, rfl, b, hb, hbid, snapshot', hverified,
    hevaluated⟩ := Operation.carried (invariant_run earlier) op hbrought hbefore
  refine ⟨earlier, replies, settings, actor, evaluatedAt, now, later, rfl, ?_, hsince⟩
  have hsame := (keeps_run earlier _).verifySnapshot hb ha hbid.symm
  rw [hsnapshot, hverified] at hsame
  obtain rfl := Except.ok.inj hsame
  exact hevaluated

/-! ### Approvals -/

section Approvals

variable {a : ApprovalRequest}

omit [HexDigest] in
/-- Whoever is found pending has not expired. -/
theorem wp_requirePendingApproval_unexpired (a : ApprovalRequest) (now : DateTime) :
    Tx.wp (requirePendingApproval a now) (fun _ _ => now < a.expiresAt) (fun _ _ => True) db := by
  simp only [requirePendingApproval, stageExpirationIfNeeded, transition, saveApproval, addEvent,
    addApprovalEvent, Tx.wp_bind, wp_liftApp, Tx.wp_ite, Tx.wp_modify, Tx.wp_pure, wp_requireApp]
  refine ⟨fun _ _ => ⟨fun _ => ⟨fun h => absurd h.2 (by decide), fun _ => trivial⟩,
    fun hnot => ⟨fun _ => ⟨fun hpending => ?_, fun _ => trivial⟩, fun _ => trivial⟩⟩,
    fun _ _ => trivial⟩
  refine lt_of_not_ge fun hge => hnot ⟨Or.inl hpending, ?_⟩
  exact decide_eq_true hge

omit [HexDigest] in
/-- Whoever is approved has not expired. -/
theorem wp_approveRequest_unexpired (a : ApprovalRequest) (request : ApprovalApproveRequest)
    (settings : Settings) (actor : String) (newId : Uuid) (now : DateTime) :
    Tx.wp (approveRequest a request settings actor newId now) (fun _ _ => now < a.expiresAt)
      (fun _ _ => True) db := by
  simp only [approveRequest, Tx.wp_bind]
  refine Tx.wp_mono (wp_requirePendingApproval_unexpired a now) (fun snapshot db' hnow => ?_)
    fun _ _ _ => trivial
  simp only [wp_liftApp, Tx.wp_ofOption, transition, saveApproval, addEvent, addApprovalEvent,
    insertPlan, Tx.wp_bind, Tx.wp_modify, Tx.wp_get, Tx.wp_require, Tx.wp_pure]
  exact ⟨fun _ _ => ⟨fun _ _ => ⟨fun _ _ => ⟨fun _ _ => ⟨fun _ => hnow, fun _ => trivial⟩,
    fun _ _ => trivial⟩, fun _ => trivial⟩, fun _ _ => trivial⟩, fun _ _ => trivial⟩

omit [HexDigest] in
/-- No stored pre-flight is a pass, so that **no request is approved automatically**. -/
theorem wp_approveRequestAutomatically_never (ha : a ∈ db.approvals) (hsound : ApprovalSound a)
    (settings : Settings) (actor : String) (newId : Uuid) (clock : ℕ → DateTime) :
    Tx.wp (approveRequestAutomatically a settings actor newId clock) (fun _ _ => False)
      (fun _ db' => Effects .none db.toTables db'.toTables) db := by
  simp only [approveRequestAutomatically, Tx.wp_bind]
  refine Tx.wp_mono (wp_requirePendingApproval ha (clock 0)) (fun snapshot db' h => ?_)
    fun _ _ h => h
  obtain ⟨rfl, -, -⟩ := h
  simp only [wp_requireApp, Tx.wp_ofOption, wp_liftApp]
  refine ⟨fun _ => ⟨fun stored hstored => ⟨fun preflight hparse => ⟨fun hpass => ?_, fun _ => .refl⟩,
    fun _ _ => .refl⟩, fun _ => .refl⟩, fun _ => .refl⟩
  rcases hsound.preflight with hnone | ⟨replies, snapshot', settings', now, result, -, hresult, hdump⟩
  · rw [hnone] at hstored
    cases hstored
  · rw [hdump] at hstored
    obtain rfl := Option.some.inj hstored
    obtain rfl : result = preflight := Except.ok.inj hparse
    exact absurd hpass (evaluatePreflight_ne_pass hresult)

omit [HexDigest] in
theorem Effects.plans_eq (h : Effects l s s') : s'.plans = s.plans := by
  induction h with
  | refl => rfl
  | tail _ hlast ih => exact hlast.plans_eq.trans ih

/-- The call that made a plan: the approval of its request by an operator. -/
structure MadeBy (s : Tables) (p : DownloadPlan) (request : ApprovalApproveRequest)
    (settings : Settings) (now : DateTime) (a : ApprovalRequest) (s' : Tables) : Prop where
  approved : ApprovedBy s a settings request now p s'
  unexpired : now < a.expiresAt

/-- **The call that makes a plan** is one with which an operator approves its request. -/
theorem Operation.planned (hs : Invariant db.toTables) (op : Operation) {p : DownloadPlan}
    (hafter : p ∈ (op.commit db).plans) (hbefore : p ∉ db.plans) :
    ∃ request settings actor newId now a,
      op = .approveRequest a.id request settings actor newId now ∧
      MadeBy db.toTables p request settings now a (op.commit db).toTables := by
  have hsame : Effects op.licence db.toTables (op.commit db).toTables → False :=
    fun heffects => hbefore (heffects.plans_eq ▸ hafter)
  cases hop : op.approval? with
  | none => exact (hsame (op.effects hs.bindings hop)).elim
  | some decision =>
      cases op with
      | approveRequest approvalId request settings actor newId now =>
          revert hafter hsame
          refine Tx.commitIf_wp (P := fun db' : Db => p ∈ db'.plans →
            (Effects .none db.toTables db'.toTables → False) → ∃ request' settings' actor' newId' now' a,
              Operation.approveRequest approvalId request settings actor newId now =
                .approveRequest a.id request' settings' actor' newId' now' ∧
              MadeBy db.toTables p request' settings' now' a db'.toTables)
            (wp_onApproval (fun a ha haid => ?_) fun _ _ _ hnot => (hnot .refl).elim)
            fun _ hnot => (hnot .refl).elim
          refine Tx.wp_mono (Tx.wp_and (wp_approveRequest ha request settings actor newId now)
            (wp_approveRequest_unexpired a request settings actor newId now)) (fun r db' h hafter _ => ?_)
            fun _ _ h hkeep _ hnot => (hnot (h.1 (keepExpiry_of_commitExpiration hkeep))).elim
          obtain ⟨⟨happroved, -⟩, hnow⟩ := h
          rw [happroved.tables] at hafter
          rcases Table.mem_save.mp hafter with rfl | ⟨hold, -⟩
          · exact ⟨request, settings, actor, newId, now, a, by rw [haid], happroved, hnow⟩
          · exact absurd hold hbefore
      | approveRequestAutomatically approvalId settings actor newId clock =>
          refine (hsame (Tx.commitIf_wp (P := fun db' : Db =>
            Effects .none db.toTables db'.toTables) (wp_onApproval (fun a ha _ => ?_)
            fun _ _ => .refl) .refl)).elim
          exact Tx.wp_mono (wp_approveRequestAutomatically_never ha (hs.approvals a ha) ..)
            (fun _ _ h => h.elim) fun _ _ h _ => h
      | _ => cases hop

end Approvals

/-! ### Grounds -/

/-- **What a plan rests on**: a request that was pending and had not expired, what the operator
acknowledged, and the pre-flight that the request carried, which a call of the run recorded, with all
of its checks, none of which blocks, fresh and for the configuration of the moment. -/
structure Grounds (earlier : List Operation) (p : DownloadPlan) (request : ApprovalApproveRequest)
    (settings : Settings) (now : DateTime) (a : ApprovalRequest)
    (snapshot : ApprovalCandidateSnapshot) (preflight : PreflightResult) : Prop where
  pending : a ∈ (run earlier).approvals ∧ a.status = .pending ∧ now < a.expiresAt
  verified : verifySnapshot a = .ok snapshot
  acknowledged : request.acknowledgesSeeding = true ∧ request.acknowledgesPlanOnly = true ∧
    (request.acknowledgesHnr = true ∨ hnrAcknowledgementRequired snapshot.siteId = false)
  carried : a.preflightResult = some (.dump preflight)
  recorded : Recorded earlier a.id snapshot preflight
  complete : (preflight.checks.map PreflightCheck.code).Perm PREFLIGHT_CHECK_CODES
  passed : preflight.overallStatus = .warning ∧
    ∀ c ∈ preflight.checks, c.status = .pass ∨ c.status = .warning
  fresh : preflight.checkedAt ≤ now ∧
    now - preflight.checkedAt ≤ seconds settings.approvalPreflightMaxAgeSeconds
  current : preflightPolicyFingerprint settings = .ok preflight.policyFingerprint
  built : ∃ category tags newId,
    buildQbPlanTags settings.qbPlanTags snapshot.mediaTitle = .ok tags ∧
      p = planOf a snapshot preflight settings category tags newId

omit [Python] [HexDigest] in
/-- A good overall status means that every check was good. -/
theorem passed_of_passable {preflight : PreflightResult}
    (h : preflightIsManuallyPassable preflight = true) :
    ∀ c ∈ preflight.checks, c.status = .pass ∨ c.status = .warning := by
  intro c hc
  rw [preflightIsManuallyPassable, preflight.overallStatus_eq, overallStatus] at h
  have hblocked : ¬ preflight.checks.any (·.status = .blocked) = true := fun hany => by
    rw [if_pos hany] at h
    revert h
    decide
  have hunknown : ¬ preflight.checks.any (·.status = .unknown) = true := fun hany => by
    rw [if_neg hblocked, if_pos hany] at h
    revert h
    decide
  rw [List.any_eq_true] at hblocked hunknown
  cases hstatus : c.status with
  | pass => exact Or.inl rfl
  | warning => exact Or.inr rfl
  | blocked => exact absurd ⟨c, hc, decide_eq_true hstatus⟩ hblocked
  | unknown => exact absurd ⟨c, hc, decide_eq_true hstatus⟩ hunknown

/-- What an approval checked are grounds for its plan. -/
theorem grounds_of_approval {earlier : List Operation} {p : DownloadPlan}
    {request : ApprovalApproveRequest} {settings : Settings} {now : DateTime} {a : ApprovalRequest}
    (ha : a ∈ (run earlier).approvals) (happroval : Approval settings request now a p)
    (hnow : now < a.expiresAt) :
    Grounds earlier p request settings now a happroval.snapshot happroval.preflight := by
  obtain ⟨⟨stored, checkedAt, hstored, hparse, -, rfl, hle, hage⟩, hcomplete, hcurrent, hpass⟩ :=
    requireFreshPreflight_ok happroval.preflight_ok
  rcases ((invariant_run earlier).approvals a ha).preflight with hnone | ⟨replies, snapshot, settings',
    evaluatedAt, result, -, hevaluated, hdump⟩
  · rw [hnone] at hstored
    cases hstored
  obtain rfl := Option.some.inj (hdump.symm.trans hstored)
  obtain rfl : result = happroval.preflight := Option.some.inj hparse
  have hwarning : happroval.preflight.overallStatus = .warning := by
    have hne := evaluatePreflight_ne_pass hevaluated
    simpa [preflightIsManuallyPassable, hne] using hpass
  have hacknowledged := happroval.acknowledged
  rw [validateManualApprovalAcknowledgements, ensure_eq_ok] at hacknowledged
  exact
    { pending := ⟨ha, happroval.pending, hnow⟩
      verified := happroval.snapshot_ok
      acknowledged := hacknowledged
      carried := hdump
      recorded := recorded_run earlier ha happroval.snapshot_ok hdump
      complete := (List.perm_ext_iff_of_nodup happroval.preflight.codes_nodup (by decide)).mpr
        fun c => ⟨hcomplete.2.1 c, hcomplete.2.2 c⟩
      passed := ⟨hwarning, passed_of_passable hpass⟩
      fresh := ⟨hle, hage⟩
      current := hcurrent
      built := ⟨happroval.category, happroval.tags, happroval.newId, happroval.tags_ok,
        happroval.plan_eq⟩ }

/-- A plan of a run was made by one of its calls. -/
theorem planned_run (ops : List Operation) {p : DownloadPlan} (hp : p ∈ (run ops).plans) :
    ∃ earlier request settings actor newId now a later,
      ops = earlier ++ .approveRequest a.id request settings actor newId now :: later ∧
      MadeBy (run earlier).toTables p request settings now a
        (run (earlier ++ [.approveRequest a.id request settings actor newId now])).toTables := by
  obtain ⟨earlier, op, later, rfl, hbefore, hafter⟩ := foldl_brought
    (fun (db : Db) (op : Operation) => op.commit db) (P := fun db => p ∈ db.plans)
    (show p ∉ ({} : Db).plans from Table.notMem_empty _) hp
  obtain ⟨request, settings, actor, newId, now, a, rfl, hmade⟩ :=
    Operation.planned (invariant_run earlier) op hafter hbefore
  refine ⟨earlier, request, settings, actor, newId, now, a, later, rfl, ?_⟩
  rw [run_concat]
  exact hmade

/-- **Every plan of a run has its grounds in the calls of the run**, whatever these are, on whatever
requests and with whatever answers of the downloader, where the steps find the requests as their
sessions hold them. -/
theorem plan_history (steps : List (Step Operation)) (hread : HeldAsRead Operation.commit steps)
    {p : DownloadPlan} (hp : p ∈ (runSteps steps).plans) :
    ∃ earlier request settings actor newId now a later snapshot preflight,
      callsOf id steps =
        earlier ++ .approveRequest p.approvalId request settings actor newId now :: later ∧
      a.id = p.approvalId ∧ Grounds earlier p request settings now a snapshot preflight := by
  rw [runSteps_eq hread] at hp
  obtain ⟨earlier, request, settings, actor, newId, now, a, later, hcalls, happroved, hnow⟩ :=
    planned_run _ hp
  obtain ⟨hmem, ⟨happroval⟩, -, -, -⟩ := happroved
  have hid : a.id = p.approvalId := by
    rw [happroval.plan_eq]
    rfl
  exact ⟨earlier, request, settings, actor, newId, now, a, later, _, _, hid ▸ hcalls, hid,
    grounds_of_approval hmem happroval hnow⟩

omit [Python] [HexDigest] in
theorem planned_sample :
    ∃ p, p ∈ (@runSteps asciiPython zeroHexDigest confirmedSteps).plans := by
  have hany : (@runSteps asciiPython zeroHexDigest confirmedSteps).plans.rows.any
      (fun _ => true) = true := by decide +kernel
  obtain ⟨p, hp, -⟩ := List.any_eq_true.mp hany
  exact ⟨p, Table.mem_rows.mp hp⟩

omit [Python] [HexDigest] in
/-- The plan of a route that goes on with its request as it is has its grounds in the run. -/
theorem plan_history_sample :
    ∃ p earlier request settings actor newId now a later snapshot preflight,
      callsOf id confirmedSteps =
        earlier ++ .approveRequest p.approvalId request settings actor newId now :: later ∧
      a.id = p.approvalId ∧
      @Grounds asciiPython zeroHexDigest earlier p request settings now a snapshot preflight := by
  obtain ⟨p, hp⟩ := planned_sample
  exact ⟨p, @plan_history asciiPython zeroHexDigest confirmedSteps (by decide +kernel) p hp⟩

omit [Python] [HexDigest] in
/-- The status of the request of an identifier. -/
def statusOf (db : Db) (approvalId : String) : Option ApprovalStatus :=
  (db.approvals.get? approvalId).map ApprovalRequest.status

/-- The call that made a plan found its request pending and left it approved. -/
theorem approved_run {ops : List Operation} {p : DownloadPlan} (hp : p ∈ (run ops).plans) :
    ∃ earlier op later, ops = earlier ++ op :: later ∧
      statusOf (run earlier) p.approvalId = some .pending ∧
      statusOf (run (earlier ++ [op])) p.approvalId = some .approved := by
  obtain ⟨earlier, request, settings, actor, newId, now, a, later, rfl, happroved, -⟩ :=
    planned_run ops hp
  obtain ⟨hmem, ⟨happroval⟩, -, -, htables⟩ := happroved
  have hid : a.id = p.approvalId := by
    rw [happroval.plan_eq]
    rfl
  refine ⟨earlier, _, later, rfl, ?_, ?_⟩
  · rw [statusOf, Table.get?_eq_some.mpr ⟨hmem, hid⟩, Option.map_some, happroval.pending]
  · rw [statusOf, htables, Table.get?_eq_some.mpr ⟨Table.mem_save_self _ _, hid⟩]
    rfl

/-- A request that was approved has a plan for ever after. -/
theorem planned_of_approved {ops later : List Operation} {approvalId : String}
    (h : statusOf (run ops) approvalId = some .approved) :
    ∃ p ∈ (run (ops ++ later)).plans, p.approvalId = approvalId := by
  obtain ⟨a, hget, hstatus⟩ := Option.map_eq_some_iff.mp h
  obtain ⟨ha, rfl⟩ := Table.get?_eq_some.mp hget
  obtain ⟨p, hp, hid⟩ := (invariant_run ops).decided a ha (by rw [hstatus]; rfl)
  exact ⟨p, (keeps_run ops later).plans p hp, hid⟩

/-- **A plan exists exactly for the requests that went from pending to approved**, in every run whose
steps find the requests as their sessions hold them. -/
theorem planned_iff_approved (steps : List (Step Operation))
    (hread : HeldAsRead Operation.commit steps) (approvalId : String) :
    (∃ p ∈ (runSteps steps).plans, p.approvalId = approvalId) ↔
      ∃ earlier step later, steps = earlier ++ step :: later ∧
        statusOf (runSteps earlier) approvalId = some .pending ∧
        statusOf (runSteps (earlier ++ [step])) approvalId = some .approved := by
  constructor
  · rintro ⟨p, hp, rfl⟩
    rw [runSteps_eq hread] at hp
    obtain ⟨earlier, op, later, hcalls, hbefore, hafter⟩ := approved_run hp
    obtain ⟨first, rest, rfl, rfl, hrest⟩ := List.filterMap_eq_append_iff.mp hcalls
    obtain ⟨silent, step, last, rfl, hsilent, hop, -⟩ := List.filterMap_eq_cons_iff.mp hrest
    -- the steps in between make no call
    have hnone : callsOf id (first ++ silent) = callsOf id first := by
      rw [callsOf_append]
      exact (congrArg _ (List.filterMap_eq_nil_iff.mpr hsilent)).trans (List.append_nil _)
    have hone : callsOf id (first ++ silent ++ [step]) = callsOf id first ++ [op] := by
      rw [callsOf_append, hnone]
      exact congrArg _ (List.filterMap_cons_some hop)
    rw [← List.append_assoc] at hread ⊢
    refine ⟨first ++ silent, step, last, rfl, ?_, ?_⟩
    · rw [runSteps_eq hread.left, hnone]
      exact hbefore
    · rw [List.append_cons] at hread
      rw [runSteps_eq hread.left, hone]
      exact hafter
  · rintro ⟨earlier, step, later, rfl, -, hafter⟩
    rw [List.append_cons] at hread ⊢
    rw [runSteps_eq hread.left] at hafter
    rw [runSteps_eq hread, callsOf_append]
    exact planned_of_approved hafter

omit [Python] [HexDigest] in
/-- The request that has a plan went from pending to approved. -/
theorem planned_iff_approved_sample :
    ∃ earlier step later, confirmedSteps = earlier ++ step :: later ∧
      statusOf (@runSteps asciiPython zeroHexDigest earlier) (rowId 1).text = some .pending ∧
      statusOf (@runSteps asciiPython zeroHexDigest (earlier ++ [step])) (rowId 1).text =
        some .approved := by
  have hany : (@runSteps asciiPython zeroHexDigest confirmedSteps).plans.rows.any
      (fun p => p.approvalId = (rowId 1).text) = true := by decide +kernel
  obtain ⟨p, hp, hid⟩ := List.any_eq_true.mp hany
  exact (@planned_iff_approved asciiPython zeroHexDigest confirmedSteps (by decide +kernel)
    (rowId 1).text).mp ⟨p, Table.mem_rows.mp hp, of_decide_eq_true hid⟩

/-- **What becomes of a plan**: no later call changes it or takes it back, it verifies against its
request wherever that stands, and there is never another one of the request, in every run whose steps
find the requests as their sessions hold them. -/
theorem plan_kept (steps later : List (Step Operation))
    (hread : HeldAsRead Operation.commit (steps ++ later)) {p : DownloadPlan}
    (hp : p ∈ (runSteps steps).plans) :
    p ∈ (runSteps (steps ++ later)).plans ∧
      (∃ a ∈ (runSteps (steps ++ later)).approvals, a.id = p.approvalId ∧ a.status ≠ .pending ∧
        a.status ≠ .rejected ∧ verifyDownloadPlan p a = .ok p) ∧
      ∀ q ∈ (runSteps (steps ++ later)).plans, q.approvalId = p.approvalId → q = p := by
  rw [runSteps_eq hread.left] at hp
  rw [runSteps_eq hread, callsOf_append]
  have hinvariant := invariant_run (callsOf id steps ++ callsOf id later)
  have hkept := (keeps_run (callsOf id steps) (callsOf id later)).plans p hp
  obtain ⟨a, ha, hid, hplanned⟩ := hinvariant.planned p hkept
  exact ⟨hkept, ⟨a, ha, hid, hplanned.decided.1, hplanned.decided.2, hplanned.verified⟩,
    fun q hq hsame => hinvariant.plan_unique q hq p hkept hsame⟩

omit [Python] [HexDigest] in
/-- A plan outlives the revocation of its request. -/
theorem plan_kept_sample :
    ∃ p, p ∈ (@runSteps asciiPython zeroHexDigest
      (confirmedSteps ++ [.call (.revokeRequest (rowId 1).text none "admin" 7)])).plans := by
  obtain ⟨p, hp⟩ := planned_sample
  exact ⟨p, (@plan_kept asciiPython zeroHexDigest confirmedSteps
    [.call (.revokeRequest (rowId 1).text none "admin" 7)] (by decide +kernel) p hp).1⟩

end LibSeek.ControlPlane
