/-
The operations on approvals are changes of the protocol.

For each operation: what it stages is a sequence of changes of the protocol, also where it raises.
The one operation that can raise between two writes which belong together is the approval, which
writes the request before it writes the plan; the exceptions it raises there are none of those that
a caller commits.

Main definitions:

* `ControlPlane.keepExpiry` — the exceptions whose staging a caller commits;
* `ControlPlane.Kept` — what is asked of the state in which an operation raises.

Main results:

* `ControlPlane.wp_createApprovalRequest`, `ControlPlane.wp_getOrCreatePendingApprovalRequest`,
  `ControlPlane.wp_savePreflightResult`, `ControlPlane.wp_approveRequest`,
  `ControlPlane.wp_rejectRequest`, `ControlPlane.wp_revokeRequest` — one for each operation.
-/

import LibSeek.ControlPlane.Protocol

set_option relaxedAutoImplicit false
set_option autoImplicit false

namespace LibSeek.ControlPlane

open LibSeek.Core LibSeek.Lib LibSeek.Models LibSeek.Schemas LibSeek.Services

/-- The exceptions whose staging a caller commits: those that report an expiry. -/
def keepExpiry (e : Exn) : Bool :=
  e.errorCode? = some "APPROVAL_EXPIRED" || e.errorCode? = some "EXECUTION_INTENT_EXPIRED"

/-- What is asked of a state in which an operation raises: to be reached in the given way, where
the caller commits it. -/
def Kept (R : Tables → Prop) (e : Exn) (db : Db) : Prop :=
  keepExpiry e = true → R db.toTables

theorem Kept.of_not {R : Tables → Prop} {e : Exn} {db : Db} (h : keepExpiry e = false) :
    Kept R e db :=
  fun hkeep => by rw [h] at hkeep; cases hkeep

theorem Kept.mono {R R' : Tables → Prop} {e : Exn} {db : Db} (h : Kept R e db)
    (hR : ∀ s, R s → R' s) : Kept R' e db :=
  fun hkeep => hR _ (h hkeep)

/-- The exceptions that report something else. -/
theorem keepExpiry_app {e : AppError} (h : e.errorCode ≠ "APPROVAL_EXPIRED")
    (h' : e.errorCode ≠ "EXECUTION_INTENT_EXPIRED") : keepExpiry (.app e) = false := by
  simp [keepExpiry, Exn.errorCode?, h, h']

section

variable [Python] {db : Db} {a : ApprovalRequest}

/-! ### Pending requests -/

/-- The row in hand stays the row of its identifier while it is not expired. -/
theorem wp_stageExpirationIfNeeded (ha : a ∈ db.approvals) (now : DateTime)
    {E : Exn → Db → Prop} :
    Tx.wp (stageExpirationIfNeeded a now)
      (fun r db' => (r = (a, false) ∧ db' = db) ∨
        (r.2 = true ∧ Effects .none db.toTables db'.toTables)) E db := by
  unfold stageExpirationIfNeeded
  simp only [Tx.wp_ite, Tx.wp_bind, Tx.wp_pure]
  refine ⟨fun h => ?_, fun _ => Or.inl ⟨trivial, trivial⟩⟩
  exact Or.inr ⟨trivial, (Effect.approval ha (.expire h.1 (of_decide_eq_true h.2))).single⟩

theorem wp_requirePendingApproval (ha : a ∈ db.approvals) (now : DateTime) :
    Tx.wp (requirePendingApproval a now)
      (fun snapshot db' => db' = db ∧ verifySnapshot a = .ok snapshot ∧ a.status = .pending)
      (fun _ db' => Effects .none db.toTables db'.toTables) db := by
  simp only [requirePendingApproval, Tx.wp_bind, wp_liftApp]
  refine ⟨fun snapshot hsnap => ?_, fun e _ => .refl⟩
  refine Tx.wp_mono (wp_stageExpirationIfNeeded ha now) (fun r db' hr => ?_) fun _ _ h => h
  simp only [wp_requireApp, Tx.wp_pure]
  rcases hr with ⟨rfl, rfl⟩ | ⟨hr, heff⟩
  · exact ⟨fun _ => ⟨fun hp => ⟨rfl, hsnap, hp⟩, fun _ => .refl⟩, fun _ => .refl⟩
  · exact ⟨fun h => by simp [hr] at h, fun _ => heff⟩

/-- `get_approval_or_404` reads a row and changes nothing. -/
theorem wp_getApprovalOr404 (approvalId : String) :
    Tx.wp (getApprovalOr404 approvalId)
      (fun a db' => db' = db ∧ a ∈ db.approvals ∧ a.id = approvalId ∧
        ∃ snapshot, verifySnapshot a = .ok snapshot)
      (fun _ db' => db' = db) db := by
  simp only [getApprovalOr404, Tx.wp_bind, Tx.wp_get, Tx.wp_ofOption, wp_liftApp, Tx.wp_pure]
  refine ⟨fun a ha => ?_, fun _ => trivial⟩
  obtain ⟨hmem, hid⟩ := Table.get?_eq_some.mp ha
  exact ⟨fun snapshot hsnap => ⟨trivial, hmem, hid, snapshot, hsnap⟩, fun _ _ => trivial⟩

/-! ### Creation -/

omit [Python] in
theorem activeApproval_some {s : Tables} {candidateId : String}
    (h : activeApproval s candidateId = some a) :
    a ∈ s.approvals ∧ a.torrentCandidateId = candidateId ∧ a.status.isActive = true := by
  have hprop := List.find?_some h
  simp only [decide_eq_true_eq] at hprop
  exact ⟨List.mem_of_find?_eq_some h, hprop⟩

/-- What the snapshot of a new request says of the request. -/
theorem candidateSnapshotOf_some {candidateId : String} {media : Services.MediaItem}
    {record : Services.TorrentCandidateRecord} {candidate : TorrentCandidate}
    {requestedAt expiresAt : DateTime} {snapshot : ApprovalCandidateSnapshot}
    (h : candidateSnapshotOf candidateId media record candidate requestedAt expiresAt =
      some snapshot) :
    snapshot.valid = true ∧ snapshot.mediaItemId = media.id ∧
      snapshot.torrentCandidateId = candidateId ∧ snapshot.requestedAt = requestedAt ∧
      snapshot.expiresAt = expiresAt := by
  simp only [candidateSnapshotOf, Option.bind_eq_bind, Option.bind_eq_some_iff,
    Option.ite_none_right_eq_some, Option.some.injEq] at h
  obtain ⟨infoHash, -, season, -, hvalid, rfl⟩ := h
  exact ⟨hvalid, rfl, rfl, rfl, rfl⟩

theorem wp_expireActiveApproval {candidateId : String} (now : DateTime) :
    Tx.wp (expireActiveApproval (activeApproval db.toTables candidateId) now)
      (fun _ db' => Effects .none db.toTables db'.toTables)
      (fun _ db' => Effects .none db.toTables db'.toTables) db := by
  cases h : activeApproval db.toTables candidateId with
  | none => exact .refl
  | some existing =>
      obtain ⟨hmem, -, hactive⟩ := activeApproval_some h
      simp only [expireActiveApproval, Tx.wp_bind, wp_requireApp, Tx.wp_pure]
      refine ⟨fun hne => ⟨fun hexp => ?_, fun _ => .refl⟩, fun _ => .refl⟩
      have hstatus : existing.status = .pending ∨ existing.status = .approved := by
        cases hs : existing.status <;> simp_all [ApprovalStatus.isActive]
      exact (Effect.approval hmem (.expire hstatus (of_decide_eq_true hexp))).single

/-- The row of a new request is a new request. -/
theorem verifySnapshot_dump {snapshot : ApprovalCandidateSnapshot}
    (hstored : a.candidateSnapshot = .dump snapshot)
    (hhash : a.snapshotHash = snapshotHash a.candidateSnapshot) (hvalid : snapshot.valid = true)
    (hbinding : snapshot.mediaItemId = a.mediaItemId ∧
      snapshot.torrentCandidateId = a.torrentCandidateId ∧
      snapshot.requestedAt = a.requestedAt ∧ snapshot.expiresAt = a.expiresAt) :
    verifySnapshot a = .ok snapshot := by
  simp only [verifySnapshot, bind_eq_ok, ensure_eq_ok, orRaise_eq_ok, pure_eq_ok]
  exact ⟨(), hhash.symm, snapshot, by rw [hstored, JsonColumn.modelValidate_dump hvalid], (),
    hbinding, rfl⟩

theorem wp_createApprovalRequest (candidateId : String) (rows : CandidateRows)
    (request : ApprovalCreateRequest) (settings : Settings) (actor : String) (newId : Uuid)
    (now : DateTime) :
    Tx.wp (createApprovalRequest candidateId rows request settings actor newId now)
      (fun a db' => Effects .none db.toTables db'.toTables ∧ a ∈ db'.approvals)
      (fun _ db' => Effects .none db.toTables db'.toTables) db := by
  simp only [createApprovalRequest, Tx.wp_bind, Tx.wp_ofOption, Tx.wp_get]
  refine ⟨fun record _ => ⟨fun media _ => ?_, fun _ => .refl⟩, fun _ => .refl⟩
  refine Tx.wp_mono (wp_expireActiveApproval now) (fun _ db' hexp => ?_) fun _ _ h => h
  simp only [wp_requireApp, insertApproval, saveApproval, addEvent, addApprovalEvent,
    Tx.wp_bind, Tx.wp_get, Tx.wp_require, Tx.wp_modify, Tx.wp_pure]
  refine ⟨fun _ => ⟨fun candidate _ => ⟨fun snapshot hsnap => ⟨fun hnew => ?_, fun _ => hexp⟩,
    fun _ => hexp⟩, fun _ => hexp⟩, fun _ => hexp⟩
  obtain ⟨hvalid, hbinding⟩ := candidateSnapshotOf_some hsnap
  refine ⟨hexp.tail (.newApproval ?_ hnew.1 hnew.2), Table.mem_save_self _ _⟩
  exact
    { id := ⟨newId, rfl⟩
      status := rfl
      preflightResult := rfl
      preflightCheckedAt := rfl
      verified := ⟨snapshot, verifySnapshot_dump rfl rfl hvalid hbinding⟩ }

/-- A request found to be reusable is the active request of its candidate. -/
theorem pendingApprovalIsReusable_some {approval : Option ApprovalRequest}
    {request : ApprovalCreateRequest} {now : DateTime}
    (h : pendingApprovalIsReusable approval request now = .ok (some a)) : approval = some a := by
  cases approval with
  | none => cases h
  | some existing =>
      simp only [pendingApprovalIsReusable] at h
      split at h
      · cases h
      · simp only [bind_eq_ok, pure_eq_ok] at h
        obtain ⟨_, -, _, -, h⟩ := h
        exact h

theorem wp_getOrCreatePendingApprovalRequest (candidateId : String) (rows : CandidateRows)
    (request : ApprovalCreateRequest) (settings : Settings) (actor : String) (newId : Uuid)
    (clock : ℕ → DateTime) :
    Tx.wp
      (getOrCreatePendingApprovalRequest candidateId rows request settings actor newId clock)
      (fun r db' => Effects .none db.toTables db'.toTables ∧ r.1 ∈ db'.approvals)
      (fun _ db' => Effects .none db.toTables db'.toTables) db := by
  simp only [getOrCreatePendingApprovalRequest, Tx.wp_bind, Tx.wp_get, wp_liftApp]
  refine ⟨fun reusable hreusable => ?_, fun _ _ => .refl⟩
  cases reusable with
  | some existing =>
      have hactive := pendingApprovalIsReusable_some hreusable
      exact ⟨.refl, (activeApproval_some hactive).1⟩
  | none =>
      simp only [Tx.wp_handle, Tx.wp_bind, Tx.wp_pure]
      refine Tx.wp_mono (wp_createApprovalRequest ..) (fun _ _ h => h) fun e db' heff => ?_
      simp only [Tx.wp_require, Tx.wp_get, wp_liftApp]
      refine ⟨fun _ => ⟨fun winner hwinner => ?_, fun _ _ => heff⟩, fun _ => heff⟩
      cases winner with
      | none => exact heff
      | some winner =>
          have hactive := pendingApprovalIsReusable_some hwinner
          exact ⟨heff, (activeApproval_some (Option.filter_eq_some_iff.mp hactive).1).1⟩

/-! ### Pre-flight and decision -/

/-- A pre-flight is saved in the row of its request, while the request is pending. -/
theorem wp_savePreflightResult (ha : a ∈ db.approvals) {replies : QbReadReplies}
    {snapshot : ApprovalCandidateSnapshot} {settings : Settings} {evaluatedAt : DateTime}
    {result : PreflightResult} (hsnap : verifySnapshot a = .ok snapshot)
    (hresult : evaluatePreflight replies snapshot settings evaluatedAt = .ok result)
    (actor : String) (now : DateTime) :
    Tx.wp (savePreflightResult a result actor now)
      (fun a' db' => Effects { preflight := a.id } db.toTables db'.toTables ∧
        a' = preflighted a result ∧ a'.status = .pending ∧
        db'.approvals = db.approvals.save (preflighted a result))
      (fun _ db' => Effects .none db.toTables db'.toTables) db := by
  simp only [savePreflightResult, Tx.wp_bind]
  refine Tx.wp_mono (wp_requirePendingApproval ha now) (fun _ db' h => ?_) fun _ _ h => h
  obtain ⟨rfl, -, hpending⟩ := h
  exact ⟨(Effect.preflight ha hpending rfl hsnap hresult).single, rfl, hpending, rfl⟩

/-- The errors of the loop over the configured tags. -/
theorem configuredPlanTags_error {tags configured : List String} {e : AppError}
    (h : configuredPlanTags tags configured = .error e) : e.errorCode = "QB_PLAN_TAGS_INVALID" := by
  induction configured generalizing tags with
  | nil => cases h
  | cons rawTag rest ih =>
      simp only [configuredPlanTags] at h
      split at h
      · obtain rfl := Except.error.inj h
        rfl
      · split at h
        · exact ih h
        · exact ih h

/-- The errors of the tags of a plan are not those of an expiry. -/
theorem buildQbPlanTags_error {configured : List String} {mediaTitle : String} {e : AppError}
    (h : buildQbPlanTags configured mediaTitle = .error e) : keepExpiry (.app e) = false := by
  have hcode : e.errorCode = "QB_PLAN_TAGS_INVALID" ∨
      e.errorCode = "QB_MEDIA_TITLE_TAG_INVALID" := by
    unfold buildQbPlanTags at h
    cases htags : configuredPlanTags [] configured with
    | error e' =>
        rw [htags] at h
        obtain rfl := Except.error.inj h
        exact Or.inl (configuredPlanTags_error htags)
    | ok tags =>
        rw [htags] at h
        cases hmedia : mediaTitleQbTag mediaTitle with
        | error e' =>
            rw [hmedia] at h
            obtain rfl := Except.error.inj h
            simp only [mediaTitleQbTag] at hmedia
            split at hmedia
            · obtain rfl := Except.error.inj hmedia
              exact Or.inr rfl
            · cases hmedia
        | ok mediaTag =>
            simp only [hmedia] at h
            by_cases hlength : (if casefold mediaTag ∈ tags.map casefold then tags
                else tags ++ [mediaTag]).length > QB_TAG_MAX_COUNT
            · rw [if_pos hlength] at h
              obtain rfl := Except.error.inj h
              exact Or.inl rfl
            · rw [if_neg hlength] at h
              cases h
  rcases hcode with hcode | hcode
  · exact keepExpiry_app (by rw [hcode]; decide) (by rw [hcode]; decide)
  · exact keepExpiry_app (by rw [hcode]; decide) (by rw [hcode]; decide)

/-- An approval that ends in a value is the one change of the protocol that builds a plan; one that
ends in an expiry is another. -/
theorem wp_approveRequest (ha : a ∈ db.approvals) (request : ApprovalApproveRequest)
    (settings : Settings) (actor : String) (newId : Uuid) (now : DateTime) :
    Tx.wp (approveRequest a request settings actor newId now)
      (fun r db' => ApprovedBy db.toTables a settings request now r.2 db'.toTables ∧
        r.1 = { a with status := .approved, decidedAt := some now })
      (Kept (Effects .none db.toTables)) db := by
  simp only [approveRequest, Tx.wp_bind]
  refine Tx.wp_mono (wp_requirePendingApproval ha now) (fun snapshot db' h => ?_)
    fun _ _ h _ => h
  obtain ⟨rfl, hsnap, hpending⟩ := h
  simp only [wp_liftApp, Tx.wp_ofOption, transition, saveApproval, addEvent, addApprovalEvent,
    insertPlan, Tx.wp_bind, Tx.wp_modify, Tx.wp_get, Tx.wp_require, Tx.wp_pure]
  refine ⟨fun _ hack => ⟨fun preflight hpre => ⟨fun category hcategory => ⟨fun tags htags =>
    ⟨fun hplan => ?_, fun _ => .of_not rfl⟩, fun e he => .of_not (buildQbPlanTags_error he)⟩,
    fun _ _ => .refl⟩, fun _ _ _ => .refl⟩, fun _ _ _ => .refl⟩
  have happroval : Approval settings request now a
      (planOf a snapshot preflight settings category tags newId) :=
    { snapshot, preflight, category, tags, newId, pending := hpending, snapshot_ok := hsnap
      acknowledged := hack, preflight_ok := hpre, tags_ok := htags, plan_eq := rfl }
  exact ⟨⟨ha, ⟨happroval⟩, hplan.1, hplan.2, rfl⟩, rfl⟩

theorem wp_rejectRequest (ha : a ∈ db.approvals) (reason : Option String) (actor : String)
    (now : DateTime) :
    Tx.wp (rejectRequest a reason actor now)
      (fun _ db' => Effects .none db.toTables db'.toTables)
      (fun _ db' => Effects .none db.toTables db'.toTables) db := by
  simp only [rejectRequest, Tx.wp_bind]
  refine Tx.wp_mono (wp_requirePendingApproval ha now) (fun _ db' h => ?_) fun _ _ h => h
  obtain ⟨rfl, -, hpending⟩ := h
  exact (Effect.approval ha (.reject hpending)).single

theorem wp_revokeRequest (ha : a ∈ db.approvals) (reason : Option String) (actor : String)
    (now : DateTime) :
    Tx.wp (revokeRequest a reason actor now)
      (fun _ db' => Effects .none db.toTables db'.toTables)
      (fun _ db' => Effects .none db.toTables db'.toTables) db := by
  simp only [revokeRequest, Tx.wp_bind, wp_liftApp]
  refine ⟨fun snapshot hsnap => ?_, fun _ _ => .refl⟩
  refine Tx.wp_mono (wp_stageExpirationIfNeeded ha now) (fun r db' hr => ?_) fun _ _ h => h
  simp only [wp_requireApp]
  rcases hr with ⟨rfl, rfl⟩ | ⟨hr, heff⟩
  · refine ⟨fun _ => ⟨fun _ => ⟨fun happroved => ?_, fun _ => .refl⟩, fun _ => .refl⟩,
      fun _ => .refl⟩
    exact (Effect.approval ha (.revoke happroved)).single
  · exact ⟨fun h => by simp [hr] at h, fun _ => heff⟩

/-- A revocation leaves alone every request that is executing. -/
theorem wp_revokeRequest_executing (ha : a ∈ db.approvals) {b : ApprovalRequest}
    (hb : b ∈ db.approvals) (hstatus : b.status = .executing) (reason : Option String)
    (actor : String) (now : DateTime) :
    Tx.wp (revokeRequest a reason actor now) (fun _ db' => b ∈ db'.approvals)
      (fun _ db' => b ∈ db'.approvals) db := by
  have hsave : ∀ {a' : ApprovalRequest}, a'.id = a.id → a.status ≠ .executing →
      b ∈ db.approvals.save a' := by
    intro a' hid hne
    refine Table.mem_save_of_ne hb fun hkey => hne ?_
    obtain rfl := Table.eq_of_key_eq hb ha (hkey.trans hid)
    exact hstatus
  simp only [revokeRequest, stageExpirationIfNeeded, transition, saveApproval, addEvent,
    addApprovalEvent, Tx.wp_bind, wp_liftApp, Tx.wp_ite, Tx.wp_modify, Tx.wp_pure, wp_requireApp]
  refine ⟨fun _ _ => ⟨fun hexpired => ?_, fun _ => ⟨fun _ => ⟨fun _ => ⟨fun happroved => ?_,
    fun _ => hb⟩, fun _ => hb⟩, fun _ => hb⟩⟩, fun _ _ => hb⟩
  · have hne : a.status ≠ .executing := by
      rcases hexpired.1 with h | h <;> rw [h] <;> decide
    exact ⟨fun h => absurd h.2 (by decide), fun _ => hsave rfl hne⟩
  · exact hsave rfl (by rw [happroved]; decide)

end

end LibSeek.ControlPlane
