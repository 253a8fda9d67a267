/-
What is submitted is what was approved.

Between the approval of a plan and the request that adds its torrent the executor reads the plan,
searches the site again, fetches the torrent and reserves the execution, in transactions between
which anything may happen.  What it sends is nevertheless the plan: the rows that the approval fixed
never change, and everything else that the request rests on stands in the log.

Main definitions:

* `Executor.AsApproved` — **what ties a request that adds a torrent to the approval**.

Main results:

* `Executor.Evolves.keeps` — what the approval fixed is never lost;
* `Executor.submitted_as_approved` — **every request that is sent is what was approved**.
-/

import LibSeek.Executor.Runs

set_option relaxedAutoImplicit false
set_option autoImplicit false

namespace LibSeek.Executor

open LibSeek.Core LibSeek.Lib LibSeek.Models LibSeek.Schemas LibSeek.Services LibSeek.Workers
open LibSeek.Adapters LibSeek.ControlPlane

variable [Python] [TorrentCodec] {claim : ExecutionClaim} {form : QbAddForm} {torrent : Bytes}

/-! ### Rows -/

omit [TorrentCodec] in
/-- **What the approval fixed is never lost**, whatever happens to the tables. -/
theorem Evolves.keeps {s s' : Tables} (h : Evolves s s') : Keeps s s' := by
  induction h with
  | refl => exact .refl s
  | tail _ hlast ih =>
      obtain ⟨l, hmoves⟩ := hlast
      exact ih.trans hmoves.keeps

omit [Python] [TorrentCodec] in
theorem planOfApproval_mem {s : Tables} {approvalId : String} {plan : DownloadPlan}
    (h : planOfApproval s approvalId = some plan) : plan ∈ s.plans ∧ plan.approvalId = approvalId :=
  ⟨List.mem_of_find?_eq_some h, by simpa using List.find?_some h⟩

omit [Python] [TorrentCodec] in
/-- The row that an execution has become. -/
theorem fixed_of_keeps {s s' : Tables} (h : Keeps s s') {e e' : DownloadExecution}
    (he : e ∈ s.executions) (he' : e' ∈ s'.executions) (hid : e'.id = e.id) :
    fixedExecution e' = fixedExecution e := by
  obtain ⟨e'', he'', hfixed⟩ := h.executions e he
  obtain rfl := Table.eq_of_key_eq he'' he' ((id_of_fixedExecution hfixed).trans hid.symm)
  exact hfixed

omit [Python] [TorrentCodec] in
/-- What of an execution does not change, as far as a submission rests on it. -/
theorem fixedExecution_fields {e e' : DownloadExecution}
    (h : fixedExecution e' = fixedExecution e) :
    e'.approvalId = e.approvalId ∧ e'.qbTargetFingerprint = e.qbTargetFingerprint ∧
      e'.launchMode = e.launchMode := by
  have happroval : (fixedExecution e').approvalId = (fixedExecution e).approvalId := by rw [h]
  have htarget : (fixedExecution e').qbTargetFingerprint = (fixedExecution e).qbTargetFingerprint := by
    rw [h]
  have hmode : (fixedExecution e').launchMode = (fixedExecution e).launchMode := by rw [h]
  exact ⟨happroval, htarget, hmode⟩

/-! ### Checks -/

/-- A candidate that was found again as the approved one: its site and its identifier, and a title
that is the approved one up to case and blanks. -/
structure Matches (binding : ExecutionBinding) (candidate : TorrentCandidate) : Prop where
  siteId : candidate.siteId = binding.plan.siteId
  torrentId : candidate.torrentId = binding.snapshot.torrentId
  title : normalizedTitle candidate.releaseTitle = normalizedTitle binding.plan.releaseTitle
  tmdb : ¬ tmdbBindingMismatch binding candidate
  hnr : ¬ hnrBindingDrift binding candidate

omit [TorrentCodec] in
/-- The candidate that was found again is the approved one. -/
theorem requireExactCandidate_ok {binding : ExecutionBinding} {candidates : List TorrentCandidate}
    {candidate : TorrentCandidate} (h : requireExactCandidate binding candidates = .ok candidate) :
    candidate ∈ candidates ∧ Matches binding candidate := by
  unfold requireExactCandidate at h
  cases hmatching : matchingCandidates binding candidates with
  | nil =>
      simp only [hmatching, bind_eq_ok] at h
      obtain ⟨_, h, -⟩ := h
      cases h
  | cons c rest =>
      cases rest with
      | cons _ _ =>
          simp only [hmatching, bind_eq_ok] at h
          obtain ⟨_, h, -⟩ := h
          cases h
      | nil =>
          simp only [hmatching, bind_eq_ok, ensure_eq_ok, pure_eq_ok] at h
          obtain ⟨_, hc, _, htitle, _, htmdb, _, hhnr, rfl⟩ := h
          cases hc
          have hmem : c ∈ matchingCandidates binding candidates := by
            rw [hmatching]
            exact List.mem_singleton_self _
          obtain ⟨hmem, hsame⟩ := List.mem_filter.mp hmem
          obtain ⟨hsite, htorrent⟩ := of_decide_eq_true hsame
          exact ⟨hmem, hsite, htorrent, htitle, htmdb, hhnr⟩

omit [TorrentCodec] in
/-- The size of the torrent is the one that was approved. -/
theorem requireTorrentCandidateConsistency_size {binding : ExecutionBinding}
    {candidate : TorrentCandidate} {metadata : ValidatedTorrent}
    (h : requireTorrentCandidateConsistency binding candidate metadata = .ok ()) :
    ∀ expected ∈ binding.plan.estimatedSizeBytes, (metadata.totalSizeBytes : ℤ) = expected := by
  simp only [requireTorrentCandidateConsistency, bind_eq_ok, ensure_eq_ok] at h
  obtain ⟨_, -, _, hsize, -⟩ := h
  exact hsize

omit [Python] [TorrentCodec] in
/-- Where the downloader has no such torrent, none that it has shown shares a hash with it. -/
theorem findUniqueObservation_none {metadata : ValidatedTorrent} {observations : List QbTorrent}
    (h : findUniqueObservation metadata observations = .ok none) :
    ∀ q ∈ observations, ∀ hash ∈ q.identityHashes, hash ∉ metadata.identityHashes := by
  unfold findUniqueObservation at h
  split at h
  · rename_i heq
    intro q hq hash hhash hmem
    have hnot := List.filter_eq_nil_iff.mp heq q hq
    exact hnot (decide_eq_true ⟨hash, hhash, hmem⟩)
  · cases h
  · cases h

omit [TorrentCodec] in
theorem requiredSavePath_ok {x : DownloadExecutor} {savePath : String}
    (h : requiredSavePath x = .ok savePath) : x.settings.qbTargetSavePath = some savePath := by
  unfold requiredSavePath at h
  split at h
  · rename_i value heq
    split_ifs at h
    cases h
    exact heq
  · cases h

/-! ### Submissions -/

/-- **What ties a request that adds a torrent to the approval**: the execution, the plan of its
approval and the candidate of its snapshot, the fields of the form, the torrent that was fetched for
the candidate and validated, that the downloader had no such torrent, and that the approval was
approved and had not expired when the execution was reserved for it. -/
structure AsApproved (w : World) (claim : ExecutionClaim) (form : QbAddForm) (torrent : Bytes)
    (e : DownloadExecution) (plan : DownloadPlan) (snapshot : ApprovalCandidateSnapshot)
    (metadata : ValidatedTorrent) : Prop where
  execution : e ∈ w.db.executions ∧ e.id = claim.executionId
  planned : planOfApproval w.db.toTables e.approvalId = some plan
  approval : ∃ a ∈ w.db.approvals, a.id = e.approvalId ∧ verifySnapshot a = .ok snapshot
  category : form.category = plan.category
  tags : form.tags = String.ofList ([','].intercalate (plan.tags.map String.toList))
  target : ∃ d, e.qbTargetFingerprint = .sha256 d ∧ form.savepath = d.savePath
  policy : ∃ d, plan.preflightPolicyFingerprint = .sha256 d ∧
    d.targetSavePath = some form.savepath
  paused : form.stateValue = "true" ↔ e.launchMode = .addPaused
  fetched : plan.siteId = snapshot.siteId ∧
    .fetched claim plan.siteId snapshot.torrentId torrent ∈ w.log
  validated : ∃ maxTorrentBytes maxFiles,
    validateTorrent torrent plan.expectedInfoHash maxTorrentBytes maxFiles = .ok metadata
  hash : ∀ expected ∈ plan.expectedInfoHash, metadata.matchesHash expected = true
  size : ∀ expected ∈ plan.estimatedSizeBytes, (metadata.totalSizeBytes : ℤ) = expected
  absent : ∃ torrents, .observed claim metadata.identityHashes torrents ∈ w.log ∧
    ∀ q ∈ torrents, ∀ hash ∈ q.identityHashes, hash ∉ metadata.identityHashes
  reserved : ∃ x clock before, .reserved x claim metadata clock before .submitting ∈ w.log ∧
    ∃ a ∈ before.approvals, a.id = e.approvalId ∧ a.status = .approved ∧ clock.2.2 < a.expiresAt

omit [Python] [TorrentCodec] in
/-- The paused flag of the form. -/
theorem stateValue_form {binding : ExecutionBinding} {expectedInfoHash savePath : String}
    {field : QbAddStateField} :
    ((addArguments binding torrent expectedInfoHash savePath).form field).stateValue = "true" ↔
      binding.launchMode = .addPaused := by
  cases h : binding.launchMode <;> simp [addArguments, QbittorrentAdapter.AddArguments.form, h]

omit [TorrentCodec] in
/-- The approval of an execution that has just been reserved. -/
theorem approved_of_reserved {s s' : Tables} {executionId : String} {metadata : ValidatedTorrent}
    {now : DateTime} (h : Reserved s executionId metadata now s') :
    ∃ e ∈ s.executions, e.id = executionId ∧ ∃ a ∈ s.approvals, a.id = e.approvalId ∧
      a.status = .approved ∧ now < a.expiresAt := by
  obtain ⟨he, hid, -, -, ha, haid, hstatus, hexpires, -, -, -⟩ := h
  exact ⟨_, he, hid, _, ha, haid, hstatus, hexpires⟩

/-- The reservation behind a submission, as it is told by the row of the execution. -/
theorem Sound.reserved_approved {w : World} (hs : Sound w) {metadata : ValidatedTorrent}
    {x : DownloadExecutor} {clock : DateTime × DateTime × DateTime} {before : Db}
    (hmem : .reserved x claim metadata clock before .submitting ∈ w.log) {e : DownloadExecution}
    (he : e ∈ w.db.executions) (hid : e.id = claim.executionId) :
    ∃ a ∈ before.approvals, a.id = e.approvalId ∧ a.status = .approved ∧
      clock.2.2 < a.expiresAt := by
  obtain ⟨_, _, -, -, hcommit, -⟩ := hs.journal.justified hmem
  obtain ⟨-, ⟨hne, -⟩ | ⟨-, hreserved, -⟩⟩ :=
    (wp_reserveSubmission metadata clock).commit_ok (Prod.ext hcommit rfl)
  · cases hne
  · have hkeeps : Keeps before.toTables w.db.toTables := (hs.past _ hmem before rfl).keeps
    obtain ⟨e₁, he₁, hid₁, a, ha, haid, hstatus, hexpires⟩ := approved_of_reserved hreserved
    obtain ⟨happroval, -, -⟩ :=
      fixedExecution_fields (fixed_of_keeps hkeeps he₁ he (hid.trans hid₁.symm))
    exact ⟨a, ha, haid.trans happroval.symm, hstatus, hexpires⟩

/-- **Every request that is sent is what was approved.** -/
theorem Sound.submitted {w : World} (hs : Sound w)
    (hsent : .sent claim (.addTorrent form torrent) ∈ w.log) :
    ∃ e plan snapshot metadata, AsApproved w claim form torrent e plan snapshot metadata := by
  obtain ⟨past, after, hlog, -, -, x, before, binding, candidate, metadata, hsub⟩ :=
    hs.journal.justified hsent
  rw [List.nil_append] at hsub
  have hin : ∀ {ev : Workers.Event}, ev ∈ past → ev ∈ w.log := fun h => by
    rw [hlog]
    exact List.mem_append_left _ h
  -- the binding was loaded from rows that are still there
  obtain ⟨_, _, -, hinv, hcommit⟩ := hs.journal.justified (hin hsub.bound)
  obtain ⟨-, e₀, a₀, hbinds⟩ := wp_loadBinding.commit_ok (Prod.ext hcommit rfl)
  have hkeeps : Keeps before.toTables w.db.toTables := (hs.past _ (hin hsub.bound) before rfl).keeps
  obtain ⟨e, he, hfixed⟩ := hkeeps.executions e₀ hbinds.execution
  obtain ⟨a, ha, hfixedA⟩ := hkeeps.approvals a₀ hbinds.approval
  obtain ⟨happroval, hfingerprint, hmode⟩ := fixedExecution_fields hfixed
  have hid : e.id = claim.executionId := (id_of_fixedExecution hfixed).trans hbinds.id
  obtain ⟨hplan, hplanId⟩ := planOfApproval_mem hbinds.plan
  obtain ⟨expectedInfoHash, savePath, field, hpath, rfl⟩ := hsub.form
  obtain ⟨request, candidates, -, hexact⟩ := hsub.searched
  obtain ⟨torrents, hobserved, hnone⟩ := hsub.absent
  obtain ⟨x', clock, before', hreserved⟩ := hsub.reserved
  obtain ⟨d, hd, hdpath, -⟩ := qbTargetFingerprint_ok hbinds.target
  obtain ⟨baseUrl, hpolicy⟩ := requirePreflightPolicyCurrent_ok hbinds.policy
  have hpath' := requiredSavePath_ok hpath
  refine ⟨e, binding.plan, binding.snapshot, metadata,
    { execution := ⟨he, hid⟩
      planned := ?_
      approval := ⟨a, ha, ?_, ?_⟩
      category := rfl
      tags := rfl
      target := ⟨d, hfingerprint.trans hd, Option.some.inj (hpath'.symm.trans hdpath)⟩
      policy := ⟨_, hpolicy, hpath'⟩
      paused := ?_
      fetched := ⟨hbinds.siteId, ?_⟩
      validated := ⟨_, _, hsub.validated⟩
      hash := fun expected hexpected => ?_
      size := requireTorrentCandidateConsistency_size hsub.consistent
      absent := ⟨torrents, hin hobserved, findUniqueObservation_none hnone⟩
      reserved := ⟨x', clock, before', hin hreserved, ?_⟩ }⟩
  · rw [happroval, ← hbinds.approvalId, ← hplanId]
    exact hs.tables.planOfApproval_eq (hkeeps.plans _ hplan)
  · rw [id_of_fixedApproval hfixedA, hbinds.approvalId, happroval]
  · rw [verifySnapshot_of_fixed hfixedA, hbinds.snapshot]
  · rw [stateValue_form, hbinds.launchMode, hmode]
  · rw [← (requireExactCandidate_ok hexact).2.torrentId]
    exact hin hsub.fetched
  · exact ((validateTorrent_eq_ok.mp hsub.validated).2 expected hexpected).2
  · exact hs.reserved_approved (hin hreserved) he hid

/-- **Every request that is sent is what was approved**, in every run. -/
theorem submitted_as_approved [HexDigest] {c : System} (h : Reachable c)
    (hsent : .sent claim (.addTorrent form torrent) ∈ c.state.log) :
    ∃ e plan snapshot metadata,
      AsApproved c.state claim form torrent e plan snapshot metadata :=
  (sound_reachable h).submitted hsent

omit [Python] [TorrentCodec] in
/-- The request of the sample is what was approved. -/
theorem submitted_as_approved_sample : ∃ claim form torrent e plan snapshot metadata,
    @AsApproved asciiPython versionCodec (sampleSystem sampleMoments).state claim form torrent e plan
      snapshot metadata := by
  obtain ⟨claim, form, torrent, -, hsent⟩ := sample_sent
  obtain ⟨e, plan, snapshot, metadata, happroved⟩ :=
    @submitted_as_approved asciiPython versionCodec _ _ _ zeroHexDigest _ (reachable_sample _) hsent
  exact ⟨claim, form, torrent, e, plan, snapshot, metadata, happroved⟩

end LibSeek.Executor
