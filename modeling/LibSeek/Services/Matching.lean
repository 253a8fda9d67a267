/-
The scores of torrent candidates.

A candidate is scored against the confirmed identity of a media item, its missing episodes and some
preferences.  Each aspect adds points, reasons and warnings; the automatic selection reads the score,
the reasons and the warnings of the candidates that a search stored.  Numbers are exact here.

Main definitions:

* `Services.episodeOfCode`, `Services.requiredEpisodeMap` — the missing episodes;
* `Services.scoreTorrentCandidate` — the score of a candidate;
* `Services.evaluateTorrentCandidates` — the automatic selection;
* `Services.ClaimsCoverage`, `Services.TreatsAsCovering` — what a score says of the episodes of a
  candidate, and what the automatic selection takes it to have.

Main results:

* `Services.episodeOfCode_code` — no code that is derived is overlooked;
* `Services.claimsCoverage_iff` — **what the score looks at**: the season of the candidate only;
* `Services.treatsAsCovering_iff` — **what the automatic selection looks at**: the score.
-/

import LibSeek.Services.IdentityAutomation

set_option relaxedAutoImplicit false
set_option autoImplicit false

namespace LibSeek.Services

open LibSeek.Core LibSeek.Lib LibSeek.Models LibSeek.Schemas

variable [WorkflowRuntime]

/-! ### Missing episodes -/

/-- What `S(\d{2})E(\d{2,3})` matches in a code: the season and the episode. -/
def episodeOfCode (value : String) : Option (Int × Int) :=
  match value.toList with
  | 'S' :: tens :: ones :: 'E' :: digits =>
      if digits.length < 2 then none
      else
        match boundedNumber [tens, ones] 2, boundedNumber digits 3 with
        | some season, some episode => some (season, episode)
        | _, _ => none
  | _ => none

/-- `_required_episode_map`: the dictionary of sets, as the pairs in it. -/
def requiredEpisodeMap (values : Option (List String)) : List (Int × Int) :=
  (values.getD []).filterMap episodeOfCode

omit [WorkflowRuntime] in
/-- The digits of a small number. -/
theorem toList_twoDigits : ∀ n < 100, (twoDigits n).toList =
    [Nat.digitChar (n / 10), Nat.digitChar (n % 10)] := by
  decide +kernel

omit [WorkflowRuntime] in
theorem toList_twoDigits_long : ∀ n < 1000, 100 ≤ n → (twoDigits n).toList =
    [Nat.digitChar (n / 100), Nat.digitChar (n / 10 % 10), Nat.digitChar (n % 10)] := by
  decide +kernel

/-- No code that `derive_missing_episode_codes` or `normalize_episode_codes` writes is overlooked,
where the runtime knows the digits. -/
theorem episodeOfCode_code
    (hdecimal : ∀ digit < 10, NextFindRuntime.decimal (Nat.digitChar digit) = some digit)
    {season episode : ℕ} (hseason : season < 100) (hepisode : episode < 1000) :
    episodeOfCode ("S" ++ twoDigits season ++ "E" ++ twoDigits episode) =
      some ((season : Int), (episode : Int)) := by
  have htwo : ∀ most n, 2 ≤ most → n < 100 →
      boundedNumber [Nat.digitChar (n / 10), Nat.digitChar (n % 10)] most = some n := by
    intro most n hmost hn
    unfold boundedNumber
    rw [if_neg (by simp; omega)]
    simp only [List.mapM_cons, List.mapM_nil, hdecimal (n / 10) (by omega),
      hdecimal (n % 10) (by omega), Option.bind_eq_bind, Option.bind_some, Option.pure_def,
      Option.map_some, List.foldl_cons, List.foldl_nil]
    congr 1
    omega
  have hthree : ∀ n < 1000, boundedNumber
      [Nat.digitChar (n / 100), Nat.digitChar (n / 10 % 10), Nat.digitChar (n % 10)] 3 = some n := by
    intro n hn
    unfold boundedNumber
    rw [if_neg (by simp)]
    simp only [List.mapM_cons, List.mapM_nil, hdecimal (n / 100) (by omega),
      hdecimal (n / 10 % 10) (by omega), hdecimal (n % 10) (by omega), Option.bind_eq_bind,
      Option.bind_some, Option.pure_def, Option.map_some, List.foldl_cons, List.foldl_nil]
    congr 1
    omega
  unfold episodeOfCode
  simp only [String.toList_append, toList_twoDigits season hseason]
  by_cases hshort : episode < 100
  · rw [toList_twoDigits episode hshort]
    simp [htwo 2 season (by omega) hseason, htwo 3 episode (by omega) hshort]
  · rw [toList_twoDigits_long episode hepisode (by omega)]
    simp [htwo 2 season (by omega) hseason, hthree episode hepisode]

omit [WorkflowRuntime] in
/-- The keys of the dictionary. -/
def targetSeasons (required : List (Int × Int)) : List Int :=
  required.map Prod.fst

omit [WorkflowRuntime] in
/-- The set at a key of the dictionary. -/
def requiredEpisodes (required : List (Int × Int)) (season : Int) : List Int :=
  (required.filter fun pair => pair.1 = season).map Prod.snd

/-! ### Scores -/

/-- `MatchPreferences`. -/
structure MatchPreferences where
  resolutions : List String := []
  sources : List String := []
  audio : List String := []
  subtitles : List String := []
  maxSizeBytes : Option Int := none
  possibleDuplicate : Bool := false

/-- What an aspect adds to a score. -/
structure MatchPart where
  points : Rat := 0
  reasons : List String := []
  warnings : List String := []

/-- `_preferred`. -/
def preferred (value : Option String) (options : List String) : Bool :=
  let normalized := (casefold (value.getD "")).toList
  value.any (· ≠ "") && options.any fun option => (casefold option).toList <:+: normalized

/-- `_list_preferred`. -/
def listPreferred (values : Option (List String)) (options : List String) : Bool :=
  (values.getD []).any fun value => preferred (some value) options

/-- The external identifiers. -/
def identifierPart (metadata : MetadataRecord) (candidate : TorrentCandidate) : MatchPart :=
  match candidate.tmdbId with
  | some tmdbId =>
      if tmdbId = metadata.tmdbId then { points := 32 / 100, reasons := ["TMDB_ID_EXACT"] }
      else { warnings := ["ID_MISMATCH"] }
  | none =>
      match candidate.imdbId.filter (· ≠ ""), metadata.imdbId.filter (· ≠ "") with
      | some imdbId, some known =>
          if casefold imdbId = casefold known then
            { points := 28 / 100, reasons := ["IMDB_ID_EXACT"] }
          else { warnings := ["ID_MISMATCH"] }
      | _, _ => {}

/-- The media type. -/
def typePart (metadata : MetadataRecord) (candidate : TorrentCandidate) : MatchPart :=
  if candidate.mediaType = metadata.mediaType then
    { points := 14 / 100, reasons := ["MEDIA_TYPE_MATCH"] }
  else { warnings := ["ID_MISMATCH"] }

/-- The episodes of the season of a candidate, where episodes of that season are missing. -/
def seasonPart (candidate : TorrentCandidate) (needed : List Int) : MatchPart :=
  match candidate.episodes with
  | none =>
      if candidate.collectionType = some "season" then
        { points := 11 / 100
          reasons := ["SEASON_EXACT", "SEASON_PACK_COVERS_TARGET_SEASON"]
          warnings := ["EPISODE_COVERAGE_UNKNOWN"] }
      else { points := 7 / 100, reasons := ["SEASON_EXACT"] }
  | some [] => { points := 7 / 100, reasons := ["SEASON_EXACT"] }
  | some offered =>
      if offered ⊆ needed ∧ needed ⊆ offered then
        { points := 16 / 100, reasons := ["SEASON_EXACT", "EPISODE_COVERAGE_EXACT"] }
      else if needed ⊆ offered then
        { points := 14 / 100
          reasons := ["SEASON_EXACT", "EPISODE_COVERAGE_COMPLETE"]
          warnings := ["EPISODE_OVERLAP"] }
      else
        { points := 7 / 100
          reasons := ["SEASON_EXACT"]
          warnings := "PARTIAL_PACK" ::
            if offered.any (fun episode => episode ∈ needed) = true then ["EPISODE_OVERLAP"]
            else [] }

/-- The episodes. -/
def episodePart (metadata : MetadataRecord) (candidate : TorrentCandidate)
    (missingEpisodes : Option (List String)) : MatchPart :=
  let required := requiredEpisodeMap missingEpisodes
  if metadata.mediaType = .tv ∧ required ≠ [] then
    match candidate.season.filter (· ∈ targetSeasons required) with
    | some season => seasonPart candidate (requiredEpisodes required season)
    | none => { warnings := ["PARTIAL_PACK"] }
  else {}

/-- The year. -/
def yearPart (metadata : MetadataRecord) (candidate : TorrentCandidate) : MatchPart :=
  match candidate.year, metadata.year with
  | some year, some known =>
      if year = known then { points := 1 / 10, reasons := ["YEAR_MATCH"] }
      else { warnings := ["YEAR_MISMATCH"] }
  | _, _ => {}

/-- Something that is preferred. -/
def preferencePart (held : Bool) (points : Rat) (reason : String) : MatchPart :=
  if held then { points, reasons := [reason] } else {}

/-- The seeders. -/
def seedersPart (candidate : TorrentCandidate) : MatchPart :=
  match candidate.seeders.filter (0 < ·) with
  | some seeders =>
      { points := min (4 / 100) (1 / 100 + (seeders : Rat) / 1000), reasons := ["ACTIVE_SEEDERS"] }
  | none => { warnings := ["NO_SEEDERS"] }

/-- The size. -/
def sizePart (candidate : TorrentCandidate) (maxSizeBytes : Option Int) : MatchPart :=
  match maxSizeBytes, candidate.sizeBytes with
  | some most, some size =>
      if (size : Int) > most then { warnings := ["OVERSIZED"] }
      else { points := 2 / 100, reasons := ["SIZE_WITHIN_LIMIT"] }
  | _, _ => {}

/-- What the aspects of a candidate add, in the order in which they are looked at. -/
def matchParts (metadata : MetadataRecord) (candidate : TorrentCandidate)
    (missingEpisodes : Option (List String)) (preferences : MatchPreferences) : List MatchPart :=
  [identifierPart metadata candidate,
    typePart metadata candidate,
    episodePart metadata candidate missingEpisodes,
    yearPart metadata candidate,
    preferencePart (preferred candidate.resolution preferences.resolutions) (7 / 100)
      "PREFERRED_RESOLUTION",
    preferencePart (preferred candidate.source preferences.sources) (4 / 100) "PREFERRED_SOURCE",
    preferencePart (listPreferred candidate.audio preferences.audio) (3 / 100) "PREFERRED_AUDIO",
    preferencePart (listPreferred candidate.subtitles preferences.subtitles) (4 / 100)
      "PREFERRED_SUBTITLE",
    seedersPart candidate,
    preferencePart (candidate.downloadFactor.any (· < 1)) (3 / 100) "PROMOTION_ACTIVE",
    sizePart candidate preferences.maxSizeBytes,
    if (effectiveHnrRule candidate.siteId candidate.hitAndRun).known then {}
    else { warnings := ["HNR_UNKNOWN"] },
    if preferences.possibleDuplicate then { warnings := ["POSSIBLE_DUPLICATE"] } else {}]

omit [WorkflowRuntime] in
/-- `round(score, 4)`: a tie goes to the even number. -/
def roundScore (score : Rat) : Rat :=
  let scaled := score * 10000
  let rest := scaled - scaled.floor
  let rounded :=
    if rest < 1 / 2 ∨ rest = 1 / 2 ∧ scaled.floor % 2 = 0 then scaled.floor else scaled.floor + 1
  (rounded : Rat) / 10000

/-- `score_torrent_candidate`, in exact numbers. -/
def scoreTorrentCandidate (metadata : MetadataRecord) (candidate : TorrentCandidate)
    (missingEpisodes : Option (List String)) (preferences : MatchPreferences) : ScoredCandidate :=
  let parts := matchParts metadata candidate missingEpisodes preferences
  { candidate :=
      { candidate with matchScore := some (min 1 (roundScore (parts.map MatchPart.points).sum)) }
    matchReasons := (parts.flatMap MatchPart.reasons).eraseDups
    warnings := (parts.flatMap MatchPart.warnings).eraseDups }

/-! ### The automatic selection -/

omit [WorkflowRuntime] in
/-- The candidates in the order of their scores. -/
def rankedCandidates (candidates : List Models.TorrentCandidateRecord) :
    List Models.TorrentCandidateRecord :=
  candidates.insertionSort fun a b =>
    b.matchScore < a.matchScore ∨ b.matchScore = a.matchScore ∧ a.id ≤ b.id

/-- A reason that holds. -/
def reasonIf (held : Bool) (code : String) : List String :=
  if held then [code] else []

/-- Whether two external identifiers are there and equal, whatever their case. -/
def imdbExact (candidate : TorrentCandidate) (confirmedIdentity : Option MetadataRecord) : Bool :=
  match candidate.imdbId.filter (· ≠ ""),
    (confirmedIdentity.bind MetadataRecord.imdbId).filter (· ≠ "") with
  | some imdbId, some known => casefold imdbId = casefold known
  | _, _ => false

omit [WorkflowRuntime] in
/-- The reasons that the size of a candidate has against it. -/
def sizeReasons (candidate : TorrentCandidate) (maxSizeBytes : Option Int) : List String :=
  match candidate.sizeBytes.filter (0 < ·) with
  | none => ["TORRENT_SIZE_UNKNOWN"]
  | some size =>
      reasonIf (maxSizeBytes.any fun most => most < (size : Int)) "TORRENT_SIZE_LIMIT_EXCEEDED"

omit [WorkflowRuntime] in
/-- The reasons that the episodes of the first candidate have against it. -/
def episodeReasons (media : Models.MediaItem) (top : Models.TorrentCandidateRecord) :
    List String :=
  if media.mediaType = .tv then
    if media.missingEpisodes.getD [] = [] then ["TV_MISSING_EPISODES_UNKNOWN"]
    else
      reasonIf (!(top.matchReasons.contains "EPISODE_COVERAGE_EXACT" ||
        top.matchReasons.contains "EPISODE_COVERAGE_COMPLETE")) "TV_EPISODE_COVERAGE_UNSAFE"
  else []

/-- The reasons that the first candidate itself has against it. -/
def torrentReasons (media : Models.MediaItem) (top : Models.TorrentCandidateRecord)
    (siteId : String) (maxSizeBytes : Option Int) (confirmedIdentity : Option MetadataRecord)
    (minSeeders : Int) : List String :=
  let candidate := top.candidateSnapshot
  let tmdbExact : Bool := media.tmdbId.isSome && candidate.tmdbId == media.tmdbId
  let reasonTmdbExact := top.matchReasons.contains "TMDB_ID_EXACT"
  let reasonImdbExact := top.matchReasons.contains "IMDB_ID_EXACT"
  reasonIf (casefold candidate.siteId ≠ "avistaz" || candidate.siteId ≠ siteId)
      "TORRENT_SITE_BINDING_MISMATCH" ++
    reasonIf (candidate.mediaType ≠ media.mediaType) "TORRENT_MEDIA_TYPE_MISMATCH" ++
    reasonIf (reasonTmdbExact && !tmdbExact ||
        reasonImdbExact && !imdbExact candidate confirmedIdentity)
      "TORRENT_EXTERNAL_ID_EVIDENCE_MISMATCH" ++
    reasonIf (reasonImdbExact && !reasonTmdbExact) "TORRENT_IMDB_ONLY_REQUIRES_MANUAL" ++
    reasonIf (!(reasonTmdbExact && tmdbExact)) "TORRENT_EXTERNAL_ID_NOT_EXACT" ++
    reasonIf (media.year.isSome && candidate.year ≠ media.year) "TORRENT_YEAR_NOT_EXACT" ++
    reasonIf (!(effectiveHnrRule candidate.siteId candidate.hitAndRun).known) "HNR_UNKNOWN" ++
    reasonIf ((candidate.infoHash.bind infoHashIsValid).isNone) "TORRENT_INFO_HASH_UNKNOWN" ++
    sizeReasons candidate maxSizeBytes ++
    reasonIf (!candidate.seeders.any fun seeders => minSeeders ≤ seeders)
      "TORRENT_SEEDERS_INSUFFICIENT" ++
    episodeReasons media top

/-- `evaluate_torrent_candidates`, in exact numbers.  A snapshot is that of a valid candidate. -/
def evaluateTorrentCandidates (media : Models.MediaItem)
    (candidates : List Models.TorrentCandidateRecord) (revision : AutomationPolicyRevision)
    (searchJobId siteId : String) (maxSizeBytes : Option Int)
    (confirmedIdentity : Option MetadataRecord) : Except Exn EligibilityResult := do
  let ranked := rankedCandidates candidates
  let evidence : List (String × Json) :=
    [("search_job_id", .str searchJobId), ("site_id", .str siteId),
      ("candidate_count", .num ranked.length),
      ("confirmed_identity_present", .bool confirmedIdentity.isSome)]
  let site := reasonIf (casefold siteId ≠ "avistaz") "TORRENT_SITE_NOT_AUTOMATABLE"
  match ranked with
  | [] => return { eligible := false, reasonCodes := site ++ ["TORRENT_CANDIDATES_EMPTY"], evidence }
  | top :: others => do
      let runnerScore := (others.head?.map Models.TorrentCandidateRecord.matchScore).getD 0
      let margin := top.matchScore - runnerScore
      let candidate := top.candidateSnapshot
      let tmdbExact : Bool := media.tmdbId.isSome && candidate.tmdbId == media.tmdbId
      let evidence := evidence ++
        [("selected_torrent_candidate_id", .str top.id), ("top_score", .num top.matchScore),
          ("runner_score", .num runnerScore), ("score_margin", .num margin),
          ("match_reasons", textList top.matchReasons), ("warnings", textList top.warnings),
          ("tmdb_id_exact_verified", .bool tmdbExact),
          ("imdb_id_exact_verified", .bool (imdbExact candidate confirmedIdentity))]
      let minScore ← ruleNumber revision "torrent_min_score"
      let minMargin ← ruleNumber revision "torrent_min_margin"
      let minSeeders ← ruleNumber revision "torrent_min_seeders"
      let blocking := top.warnings.filter fun warning =>
        !(casefold top.siteId = "avistaz" && warning = "HNR_UNKNOWN")
      let all := (site ++
        reasonIf (top.matchScore < minScore) "TORRENT_SCORE_TOO_LOW" ++
        reasonIf (margin < minMargin) "TORRENT_MARGIN_TOO_SMALL" ++
        reasonIf (blocking ≠ []) "TORRENT_WARNINGS_PRESENT" ++
        torrentReasons media top siteId maxSizeBytes confirmedIdentity
          (minSeeders.num.tdiv minSeeders.den)).eraseDups
      return { eligible := all == [], reasonCodes := all, evidence, selectedId := some top.id }

/-! ### What is claimed of the episodes -/

section Coverage

omit [WorkflowRuntime] in
/-- The reasons that claim a coverage. -/
def coverageReasons : List String :=
  ["EPISODE_COVERAGE_EXACT", "EPISODE_COVERAGE_COMPLETE"]

omit [WorkflowRuntime] in
/-- The score of a candidate says that it has the missing episodes. -/
def ClaimsCoverage (reasons : List String) : Prop :=
  ∃ reason ∈ reasons, reason ∈ coverageReasons

instance (reasons : List String) : Decidable (ClaimsCoverage reasons) := by
  unfold ClaimsCoverage
  infer_instance

omit [WorkflowRuntime] in
/-- The automatic selection takes its candidate to have the missing episodes. -/
def TreatsAsCovering (result : EligibilityResult) : Prop :=
  "TV_MISSING_EPISODES_UNKNOWN" ∉ result.reasonCodes ∧
    "TV_EPISODE_COVERAGE_UNSAFE" ∉ result.reasonCodes

omit [WorkflowRuntime] in
theorem mem_requiredEpisodes {required : List (Int × Int)} {season episode : Int} :
    episode ∈ requiredEpisodes required season ↔ (season, episode) ∈ required := by
  unfold requiredEpisodes
  rw [List.mem_map]
  constructor
  · rintro ⟨⟨other, value⟩, hpair, rfl⟩
    obtain ⟨hmem, hseason⟩ := List.mem_filter.mp hpair
    obtain rfl : other = season := of_decide_eq_true hseason
    exact hmem
  · intro hmem
    exact ⟨(season, episode), List.mem_filter.mpr ⟨hmem, decide_eq_true rfl⟩, rfl⟩

omit [WorkflowRuntime] in
/-- The coverage that is claimed of the season of a candidate. -/
theorem claimsCoverage_seasonPart {candidate : TorrentCandidate} {needed : List Int}
    (hneeded : needed ≠ []) :
    ClaimsCoverage (seasonPart candidate needed).reasons ↔
      needed ⊆ candidate.episodes.getD [] := by
  have hnone : ¬ needed ⊆ [] := fun h => hneeded (List.subset_nil.mp h)
  unfold ClaimsCoverage seasonPart
  cases hepisodes : candidate.episodes with
  | none =>
      rw [Option.getD_none, iff_false_right hnone]
      by_cases hpack : candidate.collectionType = some "season" <;>
        simp [hpack, coverageReasons]
  | some offered =>
      rw [Option.getD_some]
      cases offered with
      | nil =>
          rw [iff_false_right hnone]
          simp [coverageReasons]
      | cons one others =>
          by_cases hsubset : needed ⊆ one :: others
          · by_cases hexact : one :: others ⊆ needed <;> simp [hsubset, hexact, coverageReasons]
          · simp [hsubset, coverageReasons]

omit [WorkflowRuntime] in
theorem mem_targetSeasons {required : List (Int × Int)} {season : Int} :
    season ∈ targetSeasons required ↔ ∃ episode, (season, episode) ∈ required := by
  unfold targetSeasons
  rw [List.mem_map]
  constructor
  · rintro ⟨⟨other, episode⟩, hmem, rfl⟩
    exact ⟨episode, hmem⟩
  · rintro ⟨episode, hmem⟩
    exact ⟨(season, episode), hmem, rfl⟩

omit [WorkflowRuntime] in
/-- Nothing is claimed without a reason. -/
theorem not_claimsCoverage_nil : ¬ ClaimsCoverage [] := by
  rintro ⟨reason, hreason, -⟩
  exact List.not_mem_nil hreason

/-- The coverage that is claimed of the episodes. -/
theorem claimsCoverage_episodePart {metadata : MetadataRecord} {candidate : TorrentCandidate}
    {missingEpisodes : Option (List String)} (htv : metadata.mediaType = .tv) :
    ClaimsCoverage (episodePart metadata candidate missingEpisodes).reasons ↔
      ∃ season ∈ candidate.season, season ∈ targetSeasons (requiredEpisodeMap missingEpisodes) ∧
        requiredEpisodes (requiredEpisodeMap missingEpisodes) season ⊆
          candidate.episodes.getD [] := by
  unfold episodePart
  by_cases hrequired : requiredEpisodeMap missingEpisodes = []
  · have htargets : targetSeasons (requiredEpisodeMap missingEpisodes) = [] := by
      rw [hrequired]
      rfl
    rw [if_neg fun h => h.2 hrequired, htargets, iff_false_left not_claimsCoverage_nil]
    rintro ⟨season, -, hseason, -⟩
    exact List.not_mem_nil hseason
  · rw [if_pos ⟨htv, hrequired⟩]
    cases hfilter : candidate.season.filter
        (· ∈ targetSeasons (requiredEpisodeMap missingEpisodes)) with
    | none =>
        rw [iff_false_left not_claimsCoverage_nil]
        rintro ⟨season, hseason, htarget, -⟩
        rw [Option.filter_eq_none_iff] at hfilter
        exact hfilter season hseason (decide_eq_true htarget)
    | some season =>
        obtain ⟨hseason, htarget⟩ := Option.filter_eq_some_iff.mp hfilter
        have htarget' := of_decide_eq_true htarget
        obtain ⟨episode, hepisode⟩ := mem_targetSeasons.mp htarget'
        have hneeded : requiredEpisodes (requiredEpisodeMap missingEpisodes) season ≠ [] :=
          List.ne_nil_of_mem (mem_requiredEpisodes.mpr hepisode)
        refine (claimsCoverage_seasonPart hneeded).trans ?_
        constructor
        · intro hsubset
          exact ⟨season, hseason, htarget', hsubset⟩
        · rintro ⟨other, hother, -, hsubset⟩
          obtain rfl : season = other := Option.some.inj (hseason.symm.trans hother)
          exact hsubset

omit [WorkflowRuntime] in
/-- An aspect that is preferred or not claims no coverage. -/
theorem not_claims_preferencePart {held : Bool} {points : Rat} {reason : String}
    (hreason : reason ∉ coverageReasons) :
    ¬ ClaimsCoverage (preferencePart held points reason).reasons := by
  unfold preferencePart ClaimsCoverage
  cases held <;> simp [hreason]

theorem not_claims_identifierPart (metadata : MetadataRecord) (candidate : TorrentCandidate) :
    ¬ ClaimsCoverage (identifierPart metadata candidate).reasons := by
  unfold identifierPart ClaimsCoverage
  repeat' split
  all_goals simp [coverageReasons]

omit [WorkflowRuntime] in
theorem not_claims_typePart (metadata : MetadataRecord) (candidate : TorrentCandidate) :
    ¬ ClaimsCoverage (typePart metadata candidate).reasons := by
  unfold typePart ClaimsCoverage
  split <;> simp [coverageReasons]

omit [WorkflowRuntime] in
theorem not_claims_yearPart (metadata : MetadataRecord) (candidate : TorrentCandidate) :
    ¬ ClaimsCoverage (yearPart metadata candidate).reasons := by
  unfold yearPart ClaimsCoverage
  repeat' split
  all_goals simp [coverageReasons]

omit [WorkflowRuntime] in
theorem not_claims_seedersPart (candidate : TorrentCandidate) :
    ¬ ClaimsCoverage (seedersPart candidate).reasons := by
  unfold seedersPart ClaimsCoverage
  split <;> simp [coverageReasons]

omit [WorkflowRuntime] in
theorem not_claims_sizePart (candidate : TorrentCandidate) (maxSizeBytes : Option Int) :
    ¬ ClaimsCoverage (sizePart candidate maxSizeBytes).reasons := by
  unfold sizePart ClaimsCoverage
  repeat' split
  all_goals simp [coverageReasons]

/-- Only the aspect of the episodes claims a coverage. -/
theorem claimsCoverage_of_part {metadata : MetadataRecord} {candidate : TorrentCandidate}
    {missingEpisodes : Option (List String)} {preferences : MatchPreferences} {part : MatchPart}
    (hpart : part ∈ matchParts metadata candidate missingEpisodes preferences)
    (hclaims : ClaimsCoverage part.reasons) :
    part = episodePart metadata candidate missingEpisodes := by
  have hwarns : ∀ (held : Bool) (warnings : List String), ¬ ClaimsCoverage
      (if held then ({} : MatchPart) else { warnings }).reasons := by
    intro held warnings
    cases held <;> exact not_claimsCoverage_nil
  have hwarns' : ∀ (held : Bool) (warnings : List String), ¬ ClaimsCoverage
      (if held then ({ warnings } : MatchPart) else {}).reasons := by
    intro held warnings
    cases held <;> exact not_claimsCoverage_nil
  unfold matchParts at hpart
  simp only [List.mem_cons, List.not_mem_nil, or_false] at hpart
  rcases hpart with rfl | rfl | rfl | rfl | rfl | rfl | rfl | rfl | rfl | rfl | rfl | rfl | rfl
  · exact absurd hclaims (not_claims_identifierPart metadata candidate)
  · exact absurd hclaims (not_claims_typePart metadata candidate)
  · rfl
  · exact absurd hclaims (not_claims_yearPart metadata candidate)
  · exact absurd hclaims (not_claims_preferencePart (by simp [coverageReasons]))
  · exact absurd hclaims (not_claims_preferencePart (by simp [coverageReasons]))
  · exact absurd hclaims (not_claims_preferencePart (by simp [coverageReasons]))
  · exact absurd hclaims (not_claims_preferencePart (by simp [coverageReasons]))
  · exact absurd hclaims (not_claims_seedersPart candidate)
  · exact absurd hclaims (not_claims_preferencePart (by simp [coverageReasons]))
  · exact absurd hclaims (not_claims_sizePart candidate preferences.maxSizeBytes)
  · exact absurd hclaims (hwarns _ _)
  · exact absurd hclaims (hwarns' _ _)

/-- **What the score looks at**: a coverage is claimed if and only if the candidate has the episodes
that are missing of its own season, and there are some. -/
theorem claimsCoverage_iff {metadata : MetadataRecord} {candidate : TorrentCandidate}
    {missingEpisodes : Option (List String)} {preferences : MatchPreferences}
    (htv : metadata.mediaType = .tv) :
    ClaimsCoverage
        (scoreTorrentCandidate metadata candidate missingEpisodes preferences).matchReasons ↔
      ∃ season ∈ candidate.season, season ∈ targetSeasons (requiredEpisodeMap missingEpisodes) ∧
        requiredEpisodes (requiredEpisodeMap missingEpisodes) season ⊆
          candidate.episodes.getD [] := by
  refine Iff.trans ⟨?_, ?_⟩ (claimsCoverage_episodePart htv)
  · rintro ⟨reason, hreason, hcoverage⟩
    obtain ⟨part, hpart, hmem⟩ := List.mem_flatMap.mp (List.mem_eraseDups.mp hreason)
    rw [← claimsCoverage_of_part hpart ⟨reason, hmem, hcoverage⟩]
    exact ⟨reason, hmem, hcoverage⟩
  · rintro ⟨reason, hreason, hcoverage⟩
    refine ⟨reason, List.mem_eraseDups.mpr (List.mem_flatMap.mpr ⟨_, ?_, hreason⟩), hcoverage⟩
    exact List.mem_cons_of_mem _ (List.mem_cons_of_mem _ List.mem_cons_self)

omit [WorkflowRuntime] in
theorem mem_reasonIf {held : Bool} {code reason : String} :
    reason ∈ reasonIf held code ↔ held = true ∧ reason = code := by
  unfold reasonIf
  cases held <;> simp

/-- The codes that speak of the episodes. -/
def episodeCodes : List String :=
  ["TV_MISSING_EPISODES_UNKNOWN", "TV_EPISODE_COVERAGE_UNSAFE"]

omit [WorkflowRuntime] in
theorem not_mem_reasonIf {code : String} (hcode : code ∈ episodeCodes) (held : Bool)
    (other : String) (hother : other ∉ episodeCodes) : code ∉ reasonIf held other := by
  intro hmem
  obtain ⟨-, rfl⟩ := mem_reasonIf.mp hmem
  exact hother hcode

omit [WorkflowRuntime] in
theorem not_mem_sizeReasons {code : String} (hcode : code ∈ episodeCodes)
    (candidate : TorrentCandidate) (maxSizeBytes : Option Int) :
    code ∉ sizeReasons candidate maxSizeBytes := by
  unfold episodeCodes at hcode
  unfold sizeReasons
  split
  · rintro hmem
    obtain rfl := List.mem_singleton.mp hmem
    simp at hcode
  · rintro hmem
    obtain ⟨-, rfl⟩ := mem_reasonIf.mp hmem
    simp at hcode

/-- Only the episodes have these codes against a candidate. -/
theorem mem_torrentReasons {code : String} (hcode : code ∈ episodeCodes)
    {media : Models.MediaItem} {top : Models.TorrentCandidateRecord} {siteId : String}
    {maxSizeBytes : Option Int} {confirmedIdentity : Option MetadataRecord} {minSeeders : Int} :
    code ∈ torrentReasons media top siteId maxSizeBytes confirmedIdentity minSeeders ↔
      code ∈ episodeReasons media top := by
  have hother : ∀ (held : Bool) (other : String), other ∉ episodeCodes →
      code ∉ reasonIf held other := not_mem_reasonIf hcode
  have hsize := not_mem_sizeReasons hcode top.candidateSnapshot maxSizeBytes
  simp [torrentReasons, hother, hsize, episodeCodes]

omit [WorkflowRuntime] in
theorem claimsCoverage_iff_contains {reasons : List String} :
    ClaimsCoverage reasons ↔ (reasons.contains "EPISODE_COVERAGE_EXACT" ||
      reasons.contains "EPISODE_COVERAGE_COMPLETE") = true := by
  unfold ClaimsCoverage coverageReasons
  rw [Bool.or_eq_true, List.contains_iff_mem, List.contains_iff_mem]
  constructor
  · rintro ⟨reason, hmem, hreason⟩
    rcases List.mem_cons.mp hreason with rfl | hreason
    · exact Or.inl hmem
    · exact Or.inr (List.mem_singleton.mp hreason ▸ hmem)
  · rintro (hmem | hmem)
    · exact ⟨_, hmem, List.mem_cons_self⟩
    · exact ⟨_, hmem, List.mem_cons_of_mem _ List.mem_cons_self⟩

/-- **What the automatic selection looks at**: that episodes are missing, and what the score of its
first candidate claims. -/
theorem treatsAsCovering_iff {media : Models.MediaItem}
    {candidates : List Models.TorrentCandidateRecord} {revision : AutomationPolicyRevision}
    {searchJobId siteId : String} {maxSizeBytes : Option Int}
    {confirmedIdentity : Option MetadataRecord} {result : EligibilityResult}
    {top : Models.TorrentCandidateRecord} (htv : media.mediaType = .tv)
    (hresult : evaluateTorrentCandidates media candidates revision searchJobId siteId maxSizeBytes
      confirmedIdentity = .ok result)
    (htop : (rankedCandidates candidates).head? = some top) :
    TreatsAsCovering result ↔
      media.missingEpisodes.getD [] ≠ [] ∧ ClaimsCoverage top.matchReasons := by
  obtain ⟨others, hranked⟩ := List.head?_eq_some_iff.mp htop
  unfold evaluateTorrentCandidates at hresult
  rw [hranked] at hresult
  obtain ⟨minScore, -, hresult⟩ := bind_eq_ok.mp hresult
  obtain ⟨minMargin, -, hresult⟩ := bind_eq_ok.mp hresult
  obtain ⟨minSeeders, -, hresult⟩ := bind_eq_ok.mp hresult
  have hcodes : ∀ code ∈ episodeCodes,
      (code ∈ result.reasonCodes ↔ code ∈ episodeReasons media top) := by
    intro code hcode
    rw [← pure_eq_ok.mp hresult]
    have hother := not_mem_reasonIf hcode
    simp [hother, mem_torrentReasons hcode, episodeCodes]
  have hunknown := hcodes "TV_MISSING_EPISODES_UNKNOWN" (by simp [episodeCodes])
  have hunsafe := hcodes "TV_EPISODE_COVERAGE_UNSAFE" (by simp [episodeCodes])
  unfold TreatsAsCovering
  rw [hunknown, hunsafe]
  unfold episodeReasons
  rw [if_pos htv]
  by_cases hmissing : media.missingEpisodes.getD [] = []
  · simp [hmissing]
  · rw [if_neg hmissing, mem_reasonIf, mem_reasonIf, claimsCoverage_iff_contains,
      Bool.not_eq_true']
    cases top.matchReasons.contains "EPISODE_COVERAGE_EXACT" ||
      top.matchReasons.contains "EPISODE_COVERAGE_COMPLETE" <;> simp [hmissing]

end Coverage

end LibSeek.Services
