/-
Automatic identities.

Where the policy says so, the identity of a media item is confirmed without an operator if its
matches are clear enough.  Each judgement is recorded as a decision.  After a confirmation of any
kind, a search is queued on the first site that can be searched, unless the policy disables it.

Main definitions:

* `Services.scoreMetadataMatch` — the score of a record;
* `Services.evaluateIdentityCandidates` — whether the matches are clear enough;
* `Services.maybeAutomateTorrentSearchAfterIdentity` — the search after a confirmation;
* `Services.maybeAutomateIdentity` — the judgement on an identity.
-/

import LibSeek.Services.Workflow
import LibSeek.Services.Automation

set_option relaxedAutoImplicit false
set_option autoImplicit false

namespace LibSeek.Services

open LibSeek.Core LibSeek.Lib LibSeek.Models LibSeek.Schemas

/-! ### Scores -/

/-- `MetadataMatchScore`. -/
structure MetadataMatchScore where
  score : Rat
  reasons : List String
  conflicts : List String

section Scores

variable [WorkflowRuntime]

/-- `score_metadata_match`, in exact numbers. -/
def scoreMetadataMatch (media : Models.MediaItem) (candidate : MetadataRecord)
    (expectedTmdbId : Option Int) : MetadataMatchScore :=
  let tmdbExact : Bool := expectedTmdbId = some candidate.tmdbId
  let typeMatch : Bool := candidate.mediaType = media.mediaType
  let yearsKnown : Bool := media.year.isSome && candidate.year.isSome
  let yearMatch : Bool := yearsKnown && media.year == candidate.year
  let titleValues := [candidate.chineseTitle, candidate.englishTitle, candidate.originalTitle] ++
    candidate.aliases.map some
  let sourceTitle := normalizedIdentityTitle (some media.title)
  let titleExact : Bool := sourceTitle ≠ "" &&
    titleValues.any fun value => sourceTitle = normalizedIdentityTitle value
  let part (held : Bool) (points : Rat) : Rat := if held then points else 0
  { score := min 1 (part tmdbExact (1 / 2) + part typeMatch (1 / 5) + part yearMatch (3 / 20) +
      part titleExact (3 / 20))
    reasons :=
      (if tmdbExact then ["TMDB_ID_EXACT"] else []) ++
        (if typeMatch then ["MEDIA_TYPE_MATCH"] else []) ++
        (if yearMatch then ["YEAR_MATCH"] else []) ++ if titleExact then ["TITLE_EXACT"] else []
    conflicts :=
      (if typeMatch then [] else ["MEDIA_TYPE_CONFLICT"]) ++
        if yearsKnown && !yearMatch then ["YEAR_CONFLICT"] else [] }

end Scores

/-! ### Eligibility -/

/-- `EligibilityResult`. -/
structure EligibilityResult where
  eligible : Bool
  reasonCodes : List String
  evidence : List (String × Json)
  selectedId : Option String := none

/-- A number of the eligibility rules; the lookup raises where there is none. -/
def ruleNumber (revision : AutomationPolicyRevision) (name : String) : Except Exn Rat :=
  let rec get : JsonObject → Option Json
    | .nil => none
    | .cons key value members => if key = name then some value else get members
  match get revision.eligibilityRules with
  | some (.num value) => .ok value
  | _ => .error (.other "KeyError")

/-- A list of texts in the evidence. -/
def textList (values : List String) : Json :=
  .list (values.foldr (fun value items => .cons (.str value) items) .nil)

section Eligibility

variable [WorkflowRuntime]

/-- `_metadata_title_exact`. -/
def metadataTitleExact (media : Models.MediaItem) (candidate : MetadataRecord) : Bool :=
  (sourceTitles media).any fun title => (candidateTitles candidate).contains title

/-- The reasons that speak against the first match, given that it is a valid record. -/
def identityReasons (media : Models.MediaItem) (top : MetadataMatch) (candidate : MetadataRecord) :
    List String :=
  let reason (held : Bool) (code : String) : List String := if held then [code] else []
  let titleExact := metadataTitleExact media candidate
  let required :=
    if media.tmdbId.isSome then ["MEDIA_TYPE_MATCH", "TMDB_ID_EXACT"]
    else ["MEDIA_TYPE_MATCH", "TITLE_EXACT", "YEAR_MATCH"]
  reason (candidate.mediaType ≠ media.mediaType) "IDENTITY_MEDIA_TYPE_MISMATCH" ++
    (if media.tmdbId.isSome then
      reason (some candidate.tmdbId ≠ media.tmdbId) "IDENTITY_TMDB_ID_MISMATCH"
    else
      reason (top.matchReasons.contains "TITLE_EXACT" && !titleExact)
          "IDENTITY_TITLE_EVIDENCE_MISMATCH" ++
        reason (!titleExact) "IDENTITY_TITLE_NOT_EXACT" ++
        if media.year = none ∨ candidate.year = none then ["IDENTITY_YEAR_UNKNOWN"]
        else reason (media.year ≠ candidate.year) "IDENTITY_YEAR_MISMATCH") ++
    reason (!required.all fun code => top.matchReasons.contains code)
      "IDENTITY_REQUIRED_EVIDENCE_MISSING"

/-- `evaluate_identity_candidates`, of matches in the order of their ranks and in exact numbers. -/
def evaluateIdentityCandidates (media : Models.MediaItem) (ranked : List MetadataMatch)
    (revision : AutomationPolicyRevision) (resolutionJobId : String)
    (inputFingerprintMatches : Bool) : Except Exn EligibilityResult := do
  let evidence : List (String × Json) :=
    [("resolution_job_id", .str resolutionJobId), ("candidate_count", .num ranked.length),
      ("input_fingerprint_matches", .bool inputFingerprintMatches),
      ("source_has_tmdb_id", .bool media.tmdbId.isSome)]
  let stale := if inputFingerprintMatches then [] else ["IDENTITY_INPUT_STALE"]
  match ranked with
  | [] => return { eligible := false, reasonCodes := stale ++ ["IDENTITY_CANDIDATES_EMPTY"], evidence }
  | top :: others => do
      let runnerScore := (others.head?.map MetadataMatch.score).getD 0
      let margin := top.score - runnerScore
      let evidence := evidence ++
        [("selected_metadata_match_id", .str top.id), ("top_score", .num top.score),
          ("runner_score", .num runnerScore), ("score_margin", .num margin),
          ("match_reasons", textList top.matchReasons), ("conflicts", textList top.conflicts)]
      let minScore ← ruleNumber revision "identity_min_score"
      let minMargin ← ruleNumber revision "identity_min_margin"
      let reasons := stale ++
        (if ranked.any (fun one => one.resolutionJobId ≠ some resolutionJobId) then
          ["IDENTITY_RESOLUTION_JOB_MISMATCH"] else []) ++
        (if top.score < minScore then ["IDENTITY_SCORE_TOO_LOW"] else []) ++
        (if margin < minMargin then ["IDENTITY_MARGIN_TOO_SMALL"] else []) ++
        if top.conflicts ≠ [] then ["IDENTITY_CONFLICTS_PRESENT"] else []
      match top.candidateSnapshot.parse with
      | none =>
          return { eligible := false
                   reasonCodes := (reasons ++ ["IDENTITY_CANDIDATE_INVALID"]).eraseDups
                   evidence
                   selectedId := some top.id }
      | some candidate =>
          let evidence := evidence ++
            if media.tmdbId.isSome then []
            else [("title_exact_verified", .bool (metadataTitleExact media candidate))]
          let all := (reasons ++ identityReasons media top candidate).eraseDups
          return { eligible := all == [], reasonCodes := all, evidence, selectedId := some top.id }

end Eligibility

/-! ### Decisions -/

variable [WorkflowRuntime]

/-- What the caller of `build_automation_decision` says of a decision on an identity. -/
structure IdentityDecisionSpec where
  outcome : DecisionOutcome
  mediaItemId : String
  metadataMatchId : Option String := none
  reasonCodes : List String
  evidence : List (String × Json)

omit [WorkflowRuntime] in
/-- The arguments of a decision on an identity. -/
def IdentityDecisionSpec.arguments (spec : IdentityDecisionSpec) : DecisionArguments where
  stage := .identity
  action := "CONFIRM_IDENTITY"
  outcome := spec.outcome
  mediaItemId := spec.mediaItemId
  metadataMatchId := spec.metadataMatchId
  reasonCodes := spec.reasonCodes
  evidence := .ofList spec.evidence

/-- `build_automation_decision`, for a decision on an identity. -/
def buildIdentityDecision (revision : AutomationPolicyRevision) (spec : IdentityDecisionSpec)
    (newId : Uuid) : AutomationDecision :=
  decisionRow revision spec.arguments newId

/-- What the rest of the system supplies to the automation of an identity: the readings of the
clock, the identifiers drawn, and the first site on which media of a type can be searched. -/
structure IdentityEnvironment where
  clock : ℕ → DateTime
  newId : ℕ → Uuid
  searchableSite : MediaType → Option String

/-! ### The search after a confirmation -/

omit [WorkflowRuntime] in
/-- `{key: value for … if key not in {…}}`: the payload without its automation binding. -/
def JobPayload.withoutAutomation (payload : JobPayload) : JobPayload :=
  { payload with automationPolicyRevisionId := none, automationDecisionId := none }

omit [WorkflowRuntime] in
/-- The search that is queued on a site, whose job is bound to no decision. -/
def searchAfterIdentity (media : Models.MediaItem) (siteId : String) (settings : WorkflowSettings)
    (env : IdentityEnvironment) : WorkflowTx (Option Job) := do
  let (_, job, _) ← enqueueTorrentSearch media.id { siteId } settings (env.newId 5, env.newId 6)
    (env.clock 3) media
  let unbound := { job with payload := JobPayload.withoutAutomation job.payload }
  saveQueuedJob unbound
  return some unbound

omit [WorkflowRuntime] in
/-- `maybe_automate_torrent_search_after_identity`. -/
def maybeAutomateTorrentSearchAfterIdentity (media : Models.MediaItem)
    (settings : WorkflowSettings) (env : IdentityEnvironment) : WorkflowTx (Option Job) := do
  let (_, revision) ← inControl (getCurrentPolicy (env.newId 4) (env.clock 2))
  if stageMode revision .torrentSelection = .disabled then return none
  else
    match env.searchableSite media.mediaType with
    | none => return none
    | some siteId => searchAfterIdentity media siteId settings env

/-! ### The judgement -/

/-- A judgement that is recorded, and after which nothing is confirmed. -/
def declineIdentity (revision : AutomationPolicyRevision) (spec : IdentityDecisionSpec)
    (env : IdentityEnvironment) : WorkflowTx (Option IdentityReview) := do
  let _ ← inControl (addDecisionOnce (buildIdentityDecision revision spec (env.newId 1)))
  return none

/-- The last part of `maybe_automate_identity`: the decision is recorded, the identity is
confirmed, and a search is queued. -/
def confirmEligible (revision : AutomationPolicyRevision) (mediaId matchId : String)
    (evidence : List (String × Json)) (settings : WorkflowSettings) (env : IdentityEnvironment) :
    WorkflowTx (Option IdentityReview) := do
  let (_, created) ← inControl (addDecisionOnce (buildIdentityDecision revision
    { outcome := .actionCreated, mediaItemId := mediaId, metadataMatchId := some matchId
      reasonCodes := ["IDENTITY_ELIGIBLE"], evidence } (env.newId 1)))
  if created = false then return none
  else do
    let (review, media) ← confirmIdentity mediaId matchId (automationActor revision)
      "IDENTITY_CONFIRMED_AUTOMATICALLY" (env.newId 2) (env.clock 1)
    let _ ← maybeAutomateTorrentSearchAfterIdentity media settings env
    return some review

/-- The matches that a resolution brought, in the order of their ranks. -/
def matchesOfJob (db : WorkflowDb) (mediaId jobId : String) : List MetadataMatch :=
  (db.metadataMatches.rows.filter fun one =>
    one.mediaId = mediaId ∧ one.resolutionJobId = some jobId).insertionSort
      fun a b => a.rank < b.rank ∨ a.rank = b.rank ∧ a.id ≤ b.id

/-- `maybe_automate_identity`. -/
def maybeAutomateIdentity (job : Job) (media : Models.MediaItem) (settings : WorkflowSettings)
    (env : IdentityEnvironment) : WorkflowTx (Option IdentityReview) := do
  let (_, revision) ← inControl (getCurrentPolicy (env.newId 0) (env.clock 0))
  let db ← Tx.get
  let stored := matchesOfJob db media.id job.id
  let evidence : List (String × Json) :=
    [("resolution_job_id", .str job.id), ("candidate_count", .num stored.length),
      ("input_fingerprint_present", .bool job.payload.inputFingerprint.isSome)]
  match modeOutcome revision .identity job.createdAt settings.enableAutomationEngine with
  | some (outcome, reasons) =>
      declineIdentity revision
        { outcome, mediaItemId := media.id, reasonCodes := reasons, evidence } env
  | none => do
      let eligibility ← Tx.ofExcept (evaluateIdentityCandidates media stored revision job.id
        (job.payload.inputFingerprint == some (metadataResolutionInputFingerprint media)))
      match eligibility.eligible, eligibility.selectedId with
      | true, some matchId =>
          confirmEligible revision media.id matchId eligibility.evidence settings env
      | _, selectedId =>
          declineIdentity revision
            { outcome := .manualRequired, mediaItemId := media.id, metadataMatchId := selectedId
              reasonCodes := eligibility.reasonCodes, evidence := eligibility.evidence } env

end LibSeek.Services
