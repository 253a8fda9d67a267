/-
The verdicts of a pre-flight.

The overall status of a pre-flight folds the statuses of its twelve checks.  Each check is read
back here as a condition on what it reads, so that the overall status can be: nothing the
downloader answers makes the check on possible duplicates pass, since it looks at a sample of the
torrents only, and so the overall status is a warning at best.  The second half compares two
settings: whatever a pre-flight or an approval reads of the settings is in the policy whose digest
is the fingerprint.

Main definitions:

* `Services.CleanCandidate` — the conditions under which every check but one passes.

Main results:

* `Services.evaluatePreflight_overall` — **the overall statuses that a pre-flight can have**, and
  what follows for the automatic approval;
* `Services.evaluatePreflight_fingerprint` — **settings with one fingerprint give one verdict and
  one plan**.
-/

import LibSeek.Core.Ascii
import LibSeek.Services.Automation

set_option relaxedAutoImplicit false
set_option autoImplicit false

namespace LibSeek.Services

open LibSeek.Core LibSeek.Lib LibSeek.Models LibSeek.Schemas

/-! ### The fold of the statuses -/

/-- A check with a status is one that has it. -/
theorem any_status {checks : List PreflightCheck} {c : PreflightCheck} (hc : c ∈ checks) :
    checks.any (·.status = c.status) = true :=
  List.any_eq_true.mpr ⟨c, hc, by simp⟩

/-- The overall status is `PASS` when every check passes. -/
theorem overallStatus_eq_pass {checks : List PreflightCheck} :
    overallStatus checks = .pass ↔ ∀ c ∈ checks, c.status = .pass := by
  constructor
  · intro h c hc
    have hany := any_status hc
    unfold overallStatus at h
    split_ifs at h with hblocked hunknown hwarning
    cases hs : c.status with
    | pass => rfl
    | blocked => exact absurd (hs ▸ hany) hblocked
    | unknown => exact absurd (hs ▸ hany) hunknown
    | warning => exact absurd (hs ▸ hany) hwarning
  · intro h
    have hnone (s : PreflightStatus) (hs : s ≠ .pass) :
        checks.any (·.status = s) = false := by
      rw [List.any_eq_false]
      intro c hc
      rw [h c hc]
      simpa using hs.symm
    simp [overallStatus, hnone]

/-- The overall status is `WARNING` when no check is worse than a warning and one is a warning. -/
theorem overallStatus_eq_warning {checks : List PreflightCheck}
    (hpassable : ∀ c ∈ checks, c.status = .pass ∨ c.status = .warning)
    (hwarning : ∃ c ∈ checks, c.status = .warning) : overallStatus checks = .warning := by
  have hnone (s : PreflightStatus) (hs : s ≠ .pass ∧ s ≠ .warning) :
      checks.any (·.status = s) = false := by
    rw [List.any_eq_false]
    intro c hc
    rcases hpassable c hc with h | h
    · rw [h]
      simpa using hs.1.symm
    · rw [h]
      simpa using hs.2.symm
  have hany : checks.any (·.status = .warning) = true := by
    obtain ⟨c, hc, hs⟩ := hwarning
    exact List.any_eq_true.mpr ⟨c, hc, by simp [hs]⟩
  unfold overallStatus
  rw [hnone .blocked (by decide), hnone .unknown (by decide), hany]
  rfl

/-! ### The checks that pass -/

section Passing

theorem status_versionCheck_eq_pass {code passed failed : String} {reply : Except AppError String}
    {hcode : isCheckCode code = true}
    {hpassed : 1 ≤ passed.toList.length ∧ passed.toList.length ≤ 500}
    {hfailed : 1 ≤ failed.toList.length ∧ failed.toList.length ≤ 500} :
    (versionCheck code passed failed reply hcode hpassed hfailed).status = .pass ↔
      ∃ v, reply = .ok v := by
  cases reply with
  | ok v => simp [versionCheck]
  | error e => simp [versionCheck]

/-- Whether a version matches one of the rules against it. -/
def versionForbidden (rules : List String) (version : String) : Bool :=
  rules.any fun rule => fnmatchcase (withoutLeadingV version) (withoutLeadingV rule)

theorem status_avistazVersionCheck (version : String) (settings : Settings) :
    (avistazVersionCheck (some version) settings).status =
      if settings.avistazForbiddenQbVersions = [] then .unknown
      else if versionForbidden settings.avistazForbiddenQbVersions version then .blocked
      else .pass := by
  simp only [avistazVersionCheck]
  split
  · rfl
  · change (if versionForbidden settings.avistazForbiddenQbVersions version = true then _
      else _ : PreflightCheck).status = _
    split
    · rfl
    · rfl

theorem status_avistazVersionCheck_eq_pass {version : Option String} {settings : Settings} :
    (avistazVersionCheck version settings).status = .pass ↔
      ∃ v, version = some v ∧ settings.avistazForbiddenQbVersions ≠ [] ∧
        versionForbidden settings.avistazForbiddenQbVersions v = false := by
  cases version with
  | none => simp [avistazVersionCheck]
  | some v =>
      rw [status_avistazVersionCheck]
      by_cases hrules : settings.avistazForbiddenQbVersions = []
      · simp [hrules]
      · by_cases hforbidden : versionForbidden settings.avistazForbiddenQbVersions v = true
        · simp [hrules, hforbidden]
        · simp [hrules, hforbidden]

theorem filter_ne_empty_eq_some {value : Option String} {s : String} :
    value.filter (· ≠ "") = some s ↔ value = some s ∧ s ≠ "" := by
  simp [Option.filter_eq_some_iff]

theorem status_categoryCheck_eq_pass {categories : Option (List String)}
    {targetCategory : Option String} :
    (categoryCheck categories targetCategory).status = .pass ↔
      ∃ target, (targetCategory = some target ∧ target ≠ "") ∧
        ∃ cs, categories = some cs ∧ target ∈ cs := by
  simp only [← filter_ne_empty_eq_some]
  unfold categoryCheck
  cases targetCategory.filter (· ≠ "") with
  | none => simp
  | some target =>
      cases categories with
      | none => simp
      | some cs =>
          by_cases hmem : target ∈ cs
          · simp [hmem]
          · simp [hmem]

theorem status_sizeLimitCheck_eq_pass {size : Option ℕ} {limit : Option Int} :
    (sizeLimitCheck size limit).status = .pass ↔
      ∃ l, limit = some l ∧ ∃ n, size = some n ∧ (n : Int) ≤ l := by
  unfold sizeLimitCheck
  cases limit with
  | none => simp
  | some l =>
      cases size with
      | none => simp
      | some n =>
          by_cases hlt : (n : Int) > l
          · simp [hlt]
          · simp [hlt, Int.not_lt.mp hlt]

theorem status_activeSeedingCheck_eq_pass {hasActiveSeeding : Option Bool}
    {errorCode : Option String} :
    (activeSeedingCheck hasActiveSeeding errorCode).status = .pass ↔
      hasActiveSeeding = some true := by
  unfold activeSeedingCheck
  split
  · simp
  · simp
  · simp

theorem status_candidateSeedersCheck_eq_pass {seeders : Option ℕ} :
    (candidateSeedersCheck seeders).status = .pass ↔ ∃ n, seeders = some n ∧ n ≠ 0 := by
  unfold candidateSeedersCheck
  cases seeders with
  | none => simp
  | some n =>
      by_cases hzero : n = 0
      · simp [hzero]
      · simp [hzero]

variable [Python]

theorem status_infoHashCheck_eq_pass {torrents : Option (List QbTorrent)}
    {infoHash : Option InfoHash} {errorCode : Option String} :
    (infoHashCheck torrents infoHash errorCode).status = .pass ↔
      ∃ h, infoHash = some h ∧ ∃ ts, torrents = some ts ∧
        ∀ t ∈ ts, casefold h.text ∉ t.identityHashes := by
  unfold infoHashCheck
  cases infoHash with
  | none => simp
  | some h =>
      cases torrents with
      | none => simp
      | some ts =>
          by_cases hany : ts.any (fun t => casefold h.text ∈ t.identityHashes) = true
          · simp only [if_pos hany, status_check]
            simpa using hany
          · simp only [if_neg hany, status_check]
            simpa using hany

/-- **The check on possible duplicates never passes**: it is a warning, or unknown where the
sample could not be read. -/
theorem status_duplicateReleaseCheck {torrents : Option (List QbTorrent)}
    {snapshot : ApprovalCandidateSnapshot} {sampleLimit : ℕ} {errorCode : Option String} :
    (duplicateReleaseCheck torrents snapshot sampleLimit errorCode).status =
      if snapshot.sizeBytes ≠ none ∧ torrents = none then .unknown else .warning := by
  unfold duplicateReleaseCheck
  cases snapshot.sizeBytes with
  | none => simp
  | some size =>
      cases torrents with
      | none => simp
      | some ts =>
          simp only
          split
          · simp
          · simp

theorem status_savePathCheck_eq_pass {settings : Settings} :
    (savePathCheck settings).status = .pass ↔
      ∃ target, (settings.qbTargetSavePath = some target ∧ target ≠ "") ∧
        settings.qbAllowedSavePaths ≠ [] ∧
        isAllowedSavePath target settings.qbAllowedSavePaths = true := by
  simp only [← filter_ne_empty_eq_some]
  unfold savePathCheck
  cases settings.qbTargetSavePath.filter (· ≠ "") with
  | none => simp
  | some target =>
      by_cases hroots : settings.qbAllowedSavePaths = []
      · simp [hroots]
      · by_cases hallowed : isAllowedSavePath target settings.qbAllowedSavePaths = true
        · simp [hroots, hallowed]
        · simp [hroots, hallowed]

theorem status_hnrCheck_eq_pass {siteId : String} {hitAndRun : Option Bool} :
    (hnrCheck siteId hitAndRun).status = .pass ↔
      (effectiveHnrRule siteId hitAndRun).known = true := by
  unfold hnrCheck EffectiveHnrRule.known
  simp only
  split
  · rename_i hnone
    simp [hnone]
  · rename_i applies hsome hsource
    simp [hsome]
  · rename_i applies hsome hother
    simp [hsome]

end Passing

/-! ### The overall status -/

section Overall

variable [Python]

/-- The conditions under which every check but the one on possible duplicates passes. -/
structure CleanCandidate (replies : QbReadReplies) (snapshot : ApprovalCandidateSnapshot)
    (settings : Settings) : Prop where
  connection : replies.authenticate = .ok ()
  webApiVersion : ∃ v, replies.getWebApiVersion = .ok v
  version : ∃ v, replies.getVersion = .ok v ∧ settings.avistazForbiddenQbVersions ≠ [] ∧
    versionForbidden settings.avistazForbiddenQbVersions v = false
  category : ∃ target, (settings.qbTargetCategory = some target ∧ target ≠ "") ∧
    ∃ cs, replies.getCategories = .ok cs ∧ target ∈ cs
  infoHash : ∃ h, snapshot.infoHash = some h ∧ ∃ ts, replies.findTorrentsByHashes = .ok ts ∧
    ∀ t ∈ ts, casefold h.text ∉ t.identityHashes
  savePath : ∃ target, (settings.qbTargetSavePath = some target ∧ target ≠ "") ∧
    settings.qbAllowedSavePaths ≠ [] ∧
    isAllowedSavePath target settings.qbAllowedSavePaths = true
  size : ∃ l, settings.maxCandidateSizeBytes = some l ∧
    ∃ n, snapshot.sizeBytes = some n ∧ (n : Int) ≤ l
  activeSeeding : replies.hasActiveSeeding = .ok true
  seeders : ∃ n, snapshot.seeders = some n ∧ n ≠ 0
  hnr : (effectiveHnrRule snapshot.siteId snapshot.hitAndRun).known = true

/-- No torrent of the recent sample has the name and the size of the candidate. -/
def NoRecentDuplicate (replies : QbReadReplies) (snapshot : ApprovalCandidateSnapshot) : Prop :=
  ∃ size, snapshot.sizeBytes = some size ∧ ∃ ts, replies.listRecentTorrents = .ok ts ∧
    ∀ t ∈ ts, ¬ (strip (casefold t.name) = strip (casefold snapshot.releaseTitle) ∧ t.size = size)

omit [Python] in
theorem value?_eq_some {α : Type} {reply : Except AppError α} {a : α} :
    value? reply = some a ↔ reply = .ok a := by
  cases reply <;> simp [value?, Except.toOption]

/-- The check on possible duplicates, among the checks of a pre-flight. -/
def duplicateReleaseOf (replies : QbReadReplies) (snapshot : ApprovalCandidateSnapshot) :
    PreflightCheck :=
  duplicateReleaseCheck (observe replies snapshot).recentTorrents snapshot
    PREFLIGHT_RECENT_TORRENT_LIMIT (observe replies snapshot).recentLookupError

theorem duplicateReleaseOf_mem (replies : QbReadReplies) (snapshot : ApprovalCandidateSnapshot)
    (settings : Settings) :
    duplicateReleaseOf replies snapshot ∈ preflightChecks replies snapshot settings := by
  simp [preflightChecks, duplicateReleaseOf]

/-- **Every check but the one on possible duplicates passes when the candidate is clean.** -/
theorem cleanCandidate_iff {replies : QbReadReplies} {snapshot : ApprovalCandidateSnapshot}
    {settings : Settings} :
    (∀ c ∈ preflightChecks replies snapshot settings,
        c.code ≠ "POSSIBLE_DUPLICATE_RELEASE" → c.status = .pass) ↔
      CleanCandidate replies snapshot settings := by
  cases hauth : replies.authenticate with
  | error e =>
      -- without a connection the first check blocks
      constructor
      · intro h
        have hconnection := h (check "QB_CONNECTION" .blocked "qBittorrent 只读连接失败"
          [("error_code", .str e.errorCode)])
          (by simp [preflightChecks, connectionChecks, hauth]) (by simp)
        cases hconnection
      · intro h
        rw [h.connection] at hauth
        cases hauth
  | ok u =>
      simp only [preflightChecks, connectionChecks, observe, hauth, List.mem_append,
        List.mem_cons, List.not_mem_nil, or_false, or_imp, forall_and,
        forall_eq, code_check, status_check, code_versionCheck, code_avistazVersionCheck,
        code_categoryCheck, code_infoHashCheck, code_duplicateReleaseCheck, code_savePathCheck,
        code_sizeLimitCheck, code_activeSeedingCheck, code_candidateSeedersCheck, code_hnrCheck,
        status_versionCheck_eq_pass, status_avistazVersionCheck_eq_pass,
        status_categoryCheck_eq_pass, status_infoHashCheck_eq_pass, status_savePathCheck_eq_pass,
        status_sizeLimitCheck_eq_pass, status_activeSeedingCheck_eq_pass,
        status_candidateSeedersCheck_eq_pass, status_hnrCheck_eq_pass, value?_eq_some]
      have hlookup : (∃ h, snapshot.infoHash = some h ∧
            ∃ ts, (snapshot.infoHash.bind fun _ => value? replies.findTorrentsByHashes) = some ts ∧
              ∀ t ∈ ts, casefold h.text ∉ t.identityHashes) ↔
          ∃ h, snapshot.infoHash = some h ∧ ∃ ts, replies.findTorrentsByHashes = .ok ts ∧
            ∀ t ∈ ts, casefold h.text ∉ t.identityHashes := by
        cases snapshot.infoHash with
        | none => simp
        | some h => simp [value?_eq_some]
      rw [hlookup]
      simp only [ne_eq, String.reduceEq, not_false_eq_true, not_true_eq_false, forall_const,
        false_imp_iff, true_and]
      constructor
      · rintro ⟨⟨-, hweb⟩, hversion, hcategory, hhash, hpath, hsize, hseeding, hseeders, hhnr⟩
        exact ⟨hauth, hweb, hversion, hcategory, hhash, hpath, hsize, hseeding, hseeders, hhnr⟩
      · intro h
        obtain ⟨v, hv, -⟩ := h.version
        exact ⟨⟨⟨v, hv⟩, h.webApiVersion⟩, h.version, h.category, h.infoHash, h.savePath, h.size,
          h.activeSeeding, h.seeders, h.hnr⟩

/-- A pre-flight under settings with a fingerprint ends in a result. -/
theorem evaluatePreflight_isOk {settings : Settings} {d : Digest PolicyDocument}
    (h : preflightPolicyFingerprint settings = .ok d) (replies : QbReadReplies)
    (snapshot : ApprovalCandidateSnapshot) (now : DateTime) :
    ∃ result, evaluatePreflight replies snapshot settings now = .ok result := by
  unfold evaluatePreflight
  split
  · rename_i e he
    rw [h] at he
    cases he
  · exact ⟨_, rfl⟩

/-- The overall status of a pre-flight is not `PASS`. -/
theorem overallStatus_preflightChecks_ne_pass (replies : QbReadReplies)
    (snapshot : ApprovalCandidateSnapshot) (settings : Settings) :
    overallStatus (preflightChecks replies snapshot settings) ≠ .pass := by
  intro hpass
  have hdup : (duplicateReleaseOf replies snapshot).status = .pass :=
    overallStatus_eq_pass.mp hpass _ (duplicateReleaseOf_mem replies snapshot settings)
  rw [duplicateReleaseOf, status_duplicateReleaseCheck] at hdup
  split at hdup
  · cases hdup
  · cases hdup

/-- What the sample says of a candidate whose size is known. -/
theorem status_duplicateReleaseOf {replies : QbReadReplies}
    {snapshot : ApprovalCandidateSnapshot} (hauth : replies.authenticate = .ok ())
    (hsize : snapshot.sizeBytes ≠ none) :
    (duplicateReleaseOf replies snapshot).status =
      match replies.listRecentTorrents with
      | .ok _ => .warning
      | .error _ => .unknown := by
  rw [duplicateReleaseOf, status_duplicateReleaseCheck]
  simp only [observe, hauth]
  cases hs : snapshot.sizeBytes with
  | none => exact absurd hs hsize
  | some size =>
      cases replies.listRecentTorrents with
      | ok ts => simp [value?, Except.toOption]
      | error e => simp [value?, Except.toOption]

/-- The checks of a clean candidate: each passes, or is the one on possible duplicates. -/
theorem CleanCandidate.pass_or {replies : QbReadReplies} {snapshot : ApprovalCandidateSnapshot}
    {settings : Settings} (h : CleanCandidate replies snapshot settings) {c : PreflightCheck}
    (hc : c ∈ preflightChecks replies snapshot settings) :
    c.status = .pass ∨ c = duplicateReleaseOf replies snapshot := by
  by_cases hcode : c.code = "POSSIBLE_DUPLICATE_RELEASE"
  · right
    -- the codes of a pre-flight tell its checks apart
    have hnodup := codes_preflightChecks_nodup replies snapshot settings
    refine List.inj_on_of_nodup_map hnodup hc
      (duplicateReleaseOf_mem replies snapshot settings) ?_
    rw [hcode, duplicateReleaseOf, code_duplicateReleaseCheck]
  · exact Or.inl (cleanCandidate_iff.mpr h c hc hcode)

/-- The overall status of a clean candidate is that of the check on possible duplicates. -/
theorem CleanCandidate.overallStatus {replies : QbReadReplies}
    {snapshot : ApprovalCandidateSnapshot} {settings : Settings}
    (h : CleanCandidate replies snapshot settings) :
    Schemas.overallStatus (preflightChecks replies snapshot settings) =
      match replies.listRecentTorrents with
      | .ok _ => .warning
      | .error _ => .unknown := by
  obtain ⟨l, -, n, hn, -⟩ := h.size
  have hsized : snapshot.sizeBytes ≠ none := by simp [hn]
  have hdup := status_duplicateReleaseOf h.connection hsized
  have hmem := duplicateReleaseOf_mem replies snapshot settings
  cases hrecent : replies.listRecentTorrents with
  | ok ts =>
      rw [hrecent] at hdup
      refine overallStatus_eq_warning (fun c hc => ?_) ⟨_, hmem, hdup⟩
      rcases h.pass_or hc with hpass | rfl
      · exact Or.inl hpass
      · exact Or.inr hdup
  | error e =>
      rw [hrecent] at hdup
      have hblocked : (preflightChecks replies snapshot settings).any (·.status = .blocked) =
          false := by
        rw [List.any_eq_false]
        intro c hc
        rcases h.pass_or hc with hpass | rfl
        · simp [hpass]
        · simp [hdup]
      have hunknown : (preflightChecks replies snapshot settings).any (·.status = .unknown) =
          true := List.any_eq_true.mpr ⟨_, hmem, by simp [hdup]⟩
      simp [Schemas.overallStatus, hblocked, hunknown]

/-! ### The automatic approval -/

/-- A request whose pre-flight did not pass is not approved automatically. -/
theorem approveRequestAutomatically_ne_ok {approval : ApprovalRequest} {result : PreflightResult}
    (hstored : approval.preflightResult = some (.dump result))
    (hnotPass : result.overallStatus ≠ .pass) (settings : Settings) (actor : String)
    (newId : Uuid) (clock : ℕ → DateTime) (db db' : Db) (r : ApprovalRequest × DownloadPlan) :
    (approveRequestAutomatically approval settings actor newId clock).run db ≠ (.ok r, db') := by
  have hwp : Tx.wp (approveRequestAutomatically approval settings actor newId clock)
      (fun _ _ => False) (fun _ _ => True) db := by
    unfold approveRequestAutomatically
    rw [Tx.wp_bind]
    refine Tx.wp_mono (Tx.wp_trivial _) (fun snapshot s _ => ?_) (fun _ _ _ => trivial)
    simp only [Tx.wp_bind, wp_requireApp, Tx.wp_ofOption, hstored, Option.some.injEq,
      forall_eq', reduceCtorEq, false_imp_iff, and_true, wp_liftApp]
    refine ⟨fun _ => ⟨fun preflight hpreflight => ⟨fun hpass => ?_, fun _ => trivial⟩,
      fun _ _ => trivial⟩, fun _ => trivial⟩
    -- the pre-flight read back is the one that was stored
    have hsame : result = preflight := by simpa [validatePreflightResult, orRaise] using hpreflight
    exact absurd (hsame ▸ hpass) hnotPass
  intro hrun
  exact hwp.ok hrun

/-- A request whose pre-flight did not pass is not judged eligible. -/
theorem judgeApproval_ne_eligible [HexDigest] {approval : ApprovalRequest}
    {result : PreflightResult} (hstored : approval.preflightResult = some (.dump result))
    (hnotPass : result.overallStatus ≠ .pass) (revision : AutomationPolicyRevision)
    (settings : Settings) (env : AutomationEnvironment) (evidence : List (String × Json)) :
    judgeApproval revision approval settings env ≠ .ok (.eligible evidence) := by
  intro h
  unfold judgeApproval at h
  simp only [hstored] at h
  split at h
  · cases h
  · split at h
    · cases h
    · split at h
      · cases h
      · split at h
        · cases h
        · obtain ⟨snapshot, -, h⟩ := bind_eq_ok.mp h
          split at h
          · cases h
          · split at h
            · rename_i stored _ hdump _
              obtain rfl := Option.some.inj hdump
              obtain ⟨preflight, hpreflight, h⟩ := bind_eq_ok.mp h
              have hsame : result = preflight := by
                simpa [validatePreflightResult, orRaise] using hpreflight
              rw [if_pos (hsame ▸ hnotPass)] at h
              cases h
            · cases h

/-- A pre-flight does not pass. -/
theorem evaluatePreflight_ne_pass {replies : QbReadReplies} {snapshot : ApprovalCandidateSnapshot}
    {settings : Settings} {now : DateTime} {result : PreflightResult}
    (h : evaluatePreflight replies snapshot settings now = .ok result) :
    result.overallStatus ≠ .pass := by
  obtain ⟨hchecks, -⟩ := evaluatePreflight_ok h
  rw [result.overallStatus_eq, hchecks]
  exact overallStatus_preflightChecks_ne_pass replies snapshot settings

/-- **The overall statuses of a pre-flight.**  It is never `PASS`, since the check on possible
duplicates is a warning at best.  Every other check passes exactly for a clean candidate, which
then gets a warning wherever the sample could be read, and may be approved by an operator; but no
candidate is approved automatically on such a result. -/
theorem evaluatePreflight_overall [HexDigest] {replies : QbReadReplies}
    {snapshot : ApprovalCandidateSnapshot} {settings : Settings} {now : DateTime}
    {result : PreflightResult}
    (h : evaluatePreflight replies snapshot settings now = .ok result) :
    result.overallStatus ≠ .pass ∧
      ((∀ c ∈ result.checks, c.code ≠ "POSSIBLE_DUPLICATE_RELEASE" → c.status = .pass) ↔
        CleanCandidate replies snapshot settings) ∧
      (CleanCandidate replies snapshot settings →
        (result.overallStatus = .warning ↔ ∃ ts, replies.listRecentTorrents = .ok ts) ∧
          (preflightIsManuallyPassable result = true ↔
            ∃ ts, replies.listRecentTorrents = .ok ts)) ∧
      (∀ (approval : ApprovalRequest), approval.preflightResult = some (.dump result) →
        (∀ revision settings' env evidence,
          judgeApproval revision approval settings' env ≠ .ok (.eligible evidence)) ∧
        ∀ settings' actor newId clock db db' r,
          (approveRequestAutomatically approval settings' actor newId clock).run db ≠
            (.ok r, db')) := by
  obtain ⟨hchecks, -⟩ := evaluatePreflight_ok h
  have hoverall := result.overallStatus_eq
  rw [hchecks] at hoverall
  -- the check for a duplicate release never passes, so that the whole never does
  have hnotPass : result.overallStatus ≠ .pass := evaluatePreflight_ne_pass h
  refine ⟨hnotPass, ?_, fun hclean => ?_, fun approval hstored => ⟨?_, ?_⟩⟩
  · rw [hchecks]
    exact cleanCandidate_iff
  · have hstatus := hoverall.trans hclean.overallStatus
    cases hrecent : replies.listRecentTorrents with
    | ok ts =>
        rw [hrecent] at hstatus
        simp [preflightIsManuallyPassable, hstatus]
    | error e =>
        rw [hrecent] at hstatus
        simp [preflightIsManuallyPassable, hstatus]
  · exact fun revision settings' env evidence =>
      judgeApproval_ne_eligible hstored hnotPass revision settings' env evidence
  · exact fun settings' actor newId clock db db' r =>
      approveRequestAutomatically_ne_ok hstored hnotPass settings' actor newId clock db db' r

end Overall

/-! ### Two settings with one fingerprint -/

section Fingerprint

variable [Python]

/-- What the checks and the plan read of the settings is the same. -/
structure SamePolicy (s s' : Settings) : Prop where
  fingerprint : preflightPolicyFingerprint s = preflightPolicyFingerprint s'
  targetCategory : s.qbTargetCategory = s'.qbTargetCategory
  targetSavePath : s.qbTargetSavePath = s'.qbTargetSavePath
  allowedSavePaths : s.qbAllowedSavePaths.Perm s'.qbAllowedSavePaths
  savePathRef : s.qbSavePathRef = s'.qbSavePathRef
  planTags : s.qbPlanTags = s'.qbPlanTags
  maxCandidateSizeBytes : s.maxCandidateSizeBytes = s'.maxCandidateSizeBytes
  forbiddenQbVersions : s.avistazForbiddenQbVersions.Perm s'.avistazForbiddenQbVersions
  preflightMaxAge : s.approvalPreflightMaxAgeSeconds = s'.approvalPreflightMaxAgeSeconds

omit [Python] in
/-- Lists that are sorted to one list hold the same texts. -/
theorem perm_of_sorted_eq {l l' : List String} (h : sorted l = sorted l') : l.Perm l' := by
  have hl : (sorted l).Perm l := List.perm_insertionSort _ l
  have hl' : (sorted l').Perm l' := List.perm_insertionSort _ l'
  exact hl.symm.trans (h ▸ hl')

/-- **Settings with one fingerprint agree on all that a verdict or a plan depends on.** -/
theorem samePolicy_of_fingerprint {s s' : Settings} {d : Digest PolicyDocument}
    (h : preflightPolicyFingerprint s = .ok d) (h' : preflightPolicyFingerprint s' = .ok d) :
    SamePolicy s s' := by
  obtain ⟨baseUrl, hd⟩ := preflightPolicyFingerprint_ok h
  obtain ⟨baseUrl', hd'⟩ := preflightPolicyFingerprint_ok h'
  have hdoc : policyDocument s baseUrl = policyDocument s' baseUrl' :=
    Digest.sha256_inj.mp (hd.symm.trans hd')
  exact
    { fingerprint := h.trans h'.symm
      targetCategory := congrArg PolicyDocument.targetCategory hdoc
      targetSavePath := congrArg PolicyDocument.targetSavePath hdoc
      allowedSavePaths := perm_of_sorted_eq (congrArg PolicyDocument.allowedSavePaths hdoc)
      savePathRef := congrArg PolicyDocument.savePathRef hdoc
      planTags := congrArg PolicyDocument.planTags hdoc
      maxCandidateSizeBytes := congrArg PolicyDocument.maxCandidateSizeBytes hdoc
      forbiddenQbVersions :=
        perm_of_sorted_eq (congrArg PolicyDocument.avistazForbiddenQbVersions hdoc)
      preflightMaxAge := congrArg PolicyDocument.preflightMaxAgeSeconds hdoc }

omit [Python] in
/-- Whether some item has a property does not depend on the order of the items. -/
theorem any_eq_of_perm {α : Type} {l l' : List α} (h : l.Perm l') (p : α → Bool) :
    l.any p = l'.any p := by
  rw [Bool.eq_iff_iff, List.any_eq_true, List.any_eq_true]
  constructor
  · rintro ⟨x, hx, hp⟩
    exact ⟨x, h.mem_iff.mp hx, hp⟩
  · rintro ⟨x, hx, hp⟩
    exact ⟨x, h.mem_iff.mpr hx, hp⟩

omit [Python] in
theorem eq_nil_iff_of_perm {α : Type} {l l' : List α} (h : l.Perm l') : l = [] ↔ l' = [] := by
  constructor
  · rintro rfl
    exact h.symm.eq_nil
  · rintro rfl
    exact h.eq_nil

variable {s s' : Settings}

theorem SamePolicy.avistazVersionCheck (h : SamePolicy s s') (version : Option String) :
    avistazVersionCheck version s = avistazVersionCheck version s' := by
  unfold Services.avistazVersionCheck
  cases version with
  | none => rfl
  | some v =>
      simp only [eq_nil_iff_of_perm h.forbiddenQbVersions, any_eq_of_perm h.forbiddenQbVersions]

theorem SamePolicy.savePathCheck (h : SamePolicy s s') :
    savePathCheck s = savePathCheck s' := by
  have hallowed (target : String) : isAllowedSavePath target s.qbAllowedSavePaths =
      isAllowedSavePath target s'.qbAllowedSavePaths := by
    simp only [isAllowedSavePath, any_eq_of_perm h.allowedSavePaths]
  unfold Services.savePathCheck
  simp only [h.targetSavePath, h.savePathRef, hallowed, eq_nil_iff_of_perm h.allowedSavePaths]

/-- The checks are the same. -/
theorem SamePolicy.preflightChecks (h : SamePolicy s s') (replies : QbReadReplies)
    (snapshot : ApprovalCandidateSnapshot) :
    preflightChecks replies snapshot s = preflightChecks replies snapshot s' := by
  unfold Services.preflightChecks
  simp only [h.avistazVersionCheck, h.savePathCheck, h.targetCategory, h.maxCandidateSizeBytes]

/-- The pre-flights are the same. -/
theorem SamePolicy.evaluatePreflight (h : SamePolicy s s') (replies : QbReadReplies)
    (snapshot : ApprovalCandidateSnapshot) (now : DateTime) :
    evaluatePreflight replies snapshot s now = evaluatePreflight replies snapshot s' now := by
  have hchecks := h.preflightChecks replies snapshot
  unfold Services.evaluatePreflight
  split
  · rename_i e he
    split
    · rename_i e' he'
      exact congrArg Except.error (Except.error.inj (he.symm.trans (h.fingerprint.trans he')))
    · rename_i d' hd'
      cases (he.symm.trans (h.fingerprint.trans hd'))
  · rename_i d hd
    split
    · rename_i e' he'
      cases (hd.symm.trans (h.fingerprint.trans he'))
    · rename_i d' hd'
      have hsame : d = d' := Except.ok.inj (hd.symm.trans (h.fingerprint.trans hd'))
      simp only [hchecks, hsame]

/-- The approval of a request does the same. -/
theorem SamePolicy.approveRequest (h : SamePolicy s s') (approval : ApprovalRequest)
    (request : ApprovalApproveRequest) (actor : String) (newId : Uuid) (now : DateTime) :
    approveRequest approval request s actor newId now =
      approveRequest approval request s' actor newId now := by
  have hfresh : requireFreshPreflight approval s now = requireFreshPreflight approval s' now := by
    unfold requireFreshPreflight
    simp only [h.preflightMaxAge, h.fingerprint]
  have hplan (snapshot : ApprovalCandidateSnapshot) (preflight : PreflightResult)
      (category : String) (tags : List String) :
      planOf approval snapshot preflight s category tags newId =
        planOf approval snapshot preflight s' category tags newId := by
    unfold planOf
    simp only [h.savePathRef]
  unfold Services.approveRequest
  simp only [hfresh, hplan, h.targetCategory, h.planTags]

/-- The policy is found current when its fingerprint is that of the settings. -/
theorem requirePreflightPolicyCurrent_eq_ok {d : Digest PolicyDocument} :
    requirePreflightPolicyCurrent d s = .ok () ↔ preflightPolicyFingerprint s = .ok d := by
  unfold requirePreflightPolicyCurrent
  cases preflightPolicyFingerprint s with
  | error e => simp
  | ok current =>
      simp only [Except.ok.injEq]
      by_cases heq : d = current
      · simp [heq]
      · simp [heq, Ne.symm heq]

/-- **The fingerprint covers every setting that alters a verdict or a plan.**  Settings with one
fingerprint give the same checks and the same overall status on the same answers, and the approval
of a request does the same under both, building the same plan; where two settings differ in any of
this, the second are refused as no longer the policy of the first. -/
theorem evaluatePreflight_fingerprint {d : Digest PolicyDocument}
    (h : preflightPolicyFingerprint s = .ok d) :
    (preflightPolicyFingerprint s' = .ok d →
      (∀ replies snapshot now, ∃ r, evaluatePreflight replies snapshot s now = .ok r ∧
        ∃ r', evaluatePreflight replies snapshot s' now = .ok r' ∧
          r.checks = r'.checks ∧ r.overallStatus = r'.overallStatus) ∧
      ∀ approval request actor newId now,
        approveRequest approval request s actor newId now =
          approveRequest approval request s' actor newId now) ∧
    ((∃ replies snapshot now, evaluatePreflight replies snapshot s now ≠
        evaluatePreflight replies snapshot s' now) ∨
      (∃ approval request actor newId now, approveRequest approval request s actor newId now ≠
        approveRequest approval request s' actor newId now) →
      ∃ e, requirePreflightPolicyCurrent d s' = .error e) := by
  refine ⟨fun h' => ?_, fun hdiffers => ?_⟩
  · have hsame := samePolicy_of_fingerprint h h'
    refine ⟨fun replies snapshot now => ?_, hsame.approveRequest⟩
    obtain ⟨r, hr⟩ := evaluatePreflight_isOk h replies snapshot now
    refine ⟨r, hr, r, ?_, rfl, rfl⟩
    rw [← hsame.evaluatePreflight]
    exact hr
  · cases hcurrent : requirePreflightPolicyCurrent d s' with
    | error e => exact ⟨e, rfl⟩
    | ok u =>
        have hsame := samePolicy_of_fingerprint h (requirePreflightPolicyCurrent_eq_ok.mp hcurrent)
        exfalso
        rcases hdiffers with ⟨replies, snapshot, now, hne⟩ | ⟨approval, request, actor, id, now, hne⟩
        · exact hne (hsame.evaluatePreflight replies snapshot now)
        · exact hne (hsame.approveRequest approval request actor id now)

end Fingerprint

/-! ### A clean candidate -/

/-- Settings under which a candidate can be clean. -/
def cleanSettings : Settings :=
  { qbBaseUrlValue := some (some "https://qb.local")
    qbAllowedHosts := ["qb.local"]
    qbTargetCategory := some "movies"
    qbTargetSavePath := some "/downloads/movies"
    qbAllowedSavePaths := ["/downloads"]
    avistazForbiddenQbVersions := ["4.0.*"]
    maxCandidateSizeBytes := some 1000 }

/-- A downloader without torrents that answers every read. -/
def cleanReplies : QbReadReplies where
  authenticate := .ok ()
  getVersion := .ok "v5.0.0"
  getWebApiVersion := .ok "2.11.2"
  findTorrentsByHashes := .ok []
  listRecentTorrents := .ok []
  hasActiveSeeding := .ok true
  getCategories := .ok ["movies"]

theorem cleanHash_isInfoHash : isInfoHash "aaaaaaaaaaaaaaaaaaaaaaaaaaaaaaaaaaaaaaaa" = true := by
  decide

/-- A candidate with nothing left open. -/
def cleanSnapshot : ApprovalCandidateSnapshot where
  mediaItemId := "media-1"
  mediaTitle := "Media"
  mediaType := .movie
  tmdbId := some 1
  year := some 2020
  torrentCandidateId := "candidate-1"
  siteId := "avistaz"
  torrentId := "1"
  torrentRef := "avistaz:torrent:1"
  releaseTitle := "Media 2020"
  sizeBytes := some 100
  infoHash := some ⟨"aaaaaaaaaaaaaaaaaaaaaaaaaaaaaaaaaaaaaaaa", cleanHash_isInfoHash⟩
  season := none
  episodes := none
  resolution := none
  source := none
  subtitles := none
  seeders := some 5
  promotion := { downloadFactor := none, uploadFactor := none }
  hitAndRun := none
  matchScore := 1
  matchReasons := []
  warnings := []
  requestedAt := 0
  expiresAt := 3600000000

/-- The clean settings have a fingerprint. -/
theorem preflightPolicyFingerprint_clean :
    @preflightPolicyFingerprint asciiPython cleanSettings =
      .ok (.sha256 (@policyDocument asciiPython cleanSettings "https://qb.local")) := by
  have hurl : @normalizedQbBaseUrlForPolicy asciiPython cleanSettings =
      .ok "https://qb.local" := by decide +kernel
  unfold preflightPolicyFingerprint
  rw [hurl]

/-- The clean candidate is clean, -/
theorem cleanCandidate_clean :
    @CleanCandidate asciiPython cleanReplies cleanSnapshot cleanSettings :=
  letI := asciiPython
  { connection := rfl
    webApiVersion := ⟨_, rfl⟩
    version := ⟨_, rfl, by decide, by decide⟩
    category := ⟨"movies", ⟨rfl, by decide⟩, ["movies"], rfl, by decide⟩
    infoHash := ⟨_, rfl, [], rfl, List.forall_mem_nil _⟩
    savePath := ⟨"/downloads/movies", ⟨rfl, by decide⟩, by decide, by decide⟩
    size := ⟨1000, rfl, 100, rfl, by decide⟩
    activeSeeding := rfl
    seeders := ⟨5, rfl, by decide⟩
    hnr := by decide }

/-- and no torrent of the sample is like it, -/
theorem noRecentDuplicate_clean :
    @NoRecentDuplicate asciiPython cleanReplies cleanSnapshot :=
  ⟨100, rfl, [], rfl, List.forall_mem_nil _⟩

/-- **but its pre-flight is a warning.** -/
theorem evaluatePreflight_clean :
    ∃ result, @evaluatePreflight asciiPython cleanReplies cleanSnapshot cleanSettings 0 =
        .ok result ∧
      @CleanCandidate asciiPython cleanReplies cleanSnapshot cleanSettings ∧
      @NoRecentDuplicate asciiPython cleanReplies cleanSnapshot ∧
      result.overallStatus = .warning := by
  obtain ⟨result, hresult⟩ := @evaluatePreflight_isOk asciiPython _ _
    preflightPolicyFingerprint_clean cleanReplies cleanSnapshot 0
  obtain ⟨hchecks, -⟩ := @evaluatePreflight_ok asciiPython _ _ _ _ _ hresult
  refine ⟨result, hresult, cleanCandidate_clean, noRecentDuplicate_clean, ?_⟩
  rw [result.overallStatus_eq, hchecks]
  exact @CleanCandidate.overallStatus asciiPython _ _ _ cleanCandidate_clean

/-- The digests of a run on fixed inputs, which only the evidence of a decision shows. -/
@[reducible] def zeroHexDigest : HexDigest where
  snapshot _ := "0000000000000000000000000000000000000000000000000000000000000000"
  policy _ := "0000000000000000000000000000000000000000000000000000000000000000"
  snapshot_isHex _ := by decide

/-- The clean candidate may be approved by an operator only. -/
theorem evaluatePreflight_overall_clean :
    ∃ result, @evaluatePreflight asciiPython cleanReplies cleanSnapshot cleanSettings 0 =
        .ok result ∧
      result.overallStatus ≠ .pass ∧ preflightIsManuallyPassable result = true := by
  obtain ⟨result, hresult⟩ := @evaluatePreflight_isOk asciiPython _ _
    preflightPolicyFingerprint_clean cleanReplies cleanSnapshot 0
  have hoverall := @evaluatePreflight_overall asciiPython zeroHexDigest _ _ _ _ _ hresult
  refine ⟨result, hresult, hoverall.1, ?_⟩
  exact (hoverall.2.2.1 cleanCandidate_clean).2.mpr ⟨[], rfl⟩

/-- The clean settings, with the address and the hosts written in another way. -/
def respelledSettings : Settings :=
  { cleanSettings with
    qbBaseUrlValue := some (some "https://QB.local:443/")
    qbAllowedHosts := [" QB.local", "qb.LOCAL"] }

/-- The other spelling changes neither the fingerprint nor a verdict. -/
theorem evaluatePreflight_fingerprint_clean :
    (@preflightPolicyFingerprint asciiPython cleanSettings =
        @preflightPolicyFingerprint asciiPython respelledSettings) ∧
      ∃ r, @evaluatePreflight asciiPython cleanReplies cleanSnapshot cleanSettings 0 = .ok r ∧
        ∃ r', @evaluatePreflight asciiPython cleanReplies cleanSnapshot respelledSettings 0 =
          .ok r' ∧ r.checks = r'.checks ∧ r.overallStatus = r'.overallStatus := by
  have hurl : @normalizedQbBaseUrlForPolicy asciiPython respelledSettings =
      .ok "https://qb.local" := by decide +kernel
  have hrespelled : @preflightPolicyFingerprint asciiPython respelledSettings =
      .ok (.sha256 (@policyDocument asciiPython cleanSettings "https://qb.local")) := by
    have hhosts : @normalizedHosts asciiPython respelledSettings =
        @normalizedHosts asciiPython cleanSettings := by decide +kernel
    unfold preflightPolicyFingerprint policyDocument
    rw [hurl, hhosts]
    rfl
  exact ⟨preflightPolicyFingerprint_clean.trans hrespelled.symm,
    (((@evaluatePreflight_fingerprint asciiPython _ _ _ preflightPolicyFingerprint_clean).1
      hrespelled).1 cleanReplies cleanSnapshot 0)⟩

end LibSeek.Services
