/-
The episodes that a chosen torrent covers.

A series may miss episodes of several seasons.  A torrent has episodes of one season, and its score
compares these with what is missing of that season; the other seasons are not looked at, neither by
the score nor by the automatic selection.

Main definitions:

* `Workflow.Missing`, `Workflow.Contains` — the episodes that a media item misses, and those that a
  candidate has;
* `Workflow.OneSeasonCovered` — the condition for a claimed coverage to be one.

Main results:

* `Workflow.coverage_sound_iff` — **when a coverage that is claimed is a coverage**;
* `Workflow.second_season_uncovered` — a series that misses episodes of two seasons.
-/

import LibSeek.Services.Matching
import LibSeek.Workflow.SearchResults

set_option relaxedAutoImplicit false
set_option autoImplicit false

namespace LibSeek.Workflow

open LibSeek.Core LibSeek.Lib LibSeek.Models LibSeek.Schemas LibSeek.Services LibSeek.Workers

section Coverage

variable [WorkflowRuntime]

/-- An episode that a media item misses. -/
def Missing (media : Models.MediaItem) (season episode : Int) : Prop :=
  (season, episode) ∈ requiredEpisodeMap media.missingEpisodes

omit [WorkflowRuntime] in
/-- An episode that a candidate has. -/
def Contains (candidate : TorrentCandidate) (season episode : Int) : Prop :=
  candidate.season = some season ∧ episode ∈ candidate.episodes.getD []

/-- Where a candidate has all the episodes that are missing of its season, no other season misses
one. -/
def OneSeasonCovered (media : Models.MediaItem) (candidate : TorrentCandidate) : Prop :=
  let required := requiredEpisodeMap media.missingEpisodes
  ∀ season ∈ candidate.season, season ∈ targetSeasons required →
    requiredEpisodes required season ⊆ candidate.episodes.getD [] →
    ∀ other ∈ targetSeasons required, other = season

instance (media : Models.MediaItem) (candidate : TorrentCandidate) :
    Decidable (OneSeasonCovered media candidate) := by
  unfold OneSeasonCovered
  infer_instance

/-- **When a coverage that is claimed is a coverage**: for a media item of television and a
candidate that is scored against its missing episodes, what the score or the automatic selection
says of the coverage is right if and only if, where the candidate has all the episodes that are
missing of its season, no other season misses one. -/
theorem coverage_sound_iff {metadata : MetadataRecord} {media : Models.MediaItem}
    {preferences : MatchPreferences} {candidates : List Models.TorrentCandidateRecord}
    {revision : AutomationPolicyRevision} {searchJobId siteId : String} {maxSizeBytes : Option Int}
    {confirmedIdentity : Option MetadataRecord} {result : EligibilityResult}
    {top : Models.TorrentCandidateRecord} (candidate : TorrentCandidate)
    (hmetadata : metadata.mediaType = .tv) (hmedia : media.mediaType = .tv)
    (hresult : evaluateTorrentCandidates media candidates revision searchJobId siteId maxSizeBytes
      confirmedIdentity = .ok result)
    (htop : (rankedCandidates candidates).head? = some top)
    (hscored : top.matchReasons =
      (scoreTorrentCandidate metadata candidate media.missingEpisodes preferences).matchReasons) :
    (ClaimsCoverage
          (scoreTorrentCandidate metadata candidate media.missingEpisodes preferences).matchReasons ∨
        TreatsAsCovering result →
      ∀ season episode, Missing media season episode → Contains candidate season episode) ↔
    OneSeasonCovered media candidate := by
  rw [treatsAsCovering_iff hmedia hresult htop, hscored, or_iff_left_of_imp fun h => h.2,
    claimsCoverage_iff hmetadata]
  constructor
  · intro hsound season hseason htarget hsubset other hother
    obtain ⟨episode, hepisode⟩ := mem_targetSeasons.mp hother
    obtain ⟨hsame, -⟩ := hsound ⟨season, hseason, htarget, hsubset⟩ other episode hepisode
    exact Option.some.inj (hsame.symm.trans hseason)
  · rintro hone ⟨season, hseason, htarget, hsubset⟩ other episode hmissing
    obtain rfl : other = season :=
      hone season hseason htarget hsubset other (mem_targetSeasons.mpr ⟨episode, hmissing⟩)
    exact ⟨hseason, hsubset (mem_requiredEpisodes.mpr hmissing)⟩

end Coverage

/-! ### A series that misses episodes of two seasons -/

/-- A series that misses some episodes. -/
def sampleSeries (missingEpisodes : List String) : Models.MediaItem where
  id := (sampleUuid 3).text
  source := "nextfind"
  sourceItemId := "series-43"
  mediaType := .tv
  tmdbId := some 43
  title := "Strict Test Series"
  year := some 2026
  missingEpisodes := some missingEpisodes
  identityConfidence := .high
  metadataStatus := .resolved
  discoveredAt := 0
  updatedAt := 0

/-- The confirmed identity of the series. -/
def seriesRecord : MetadataRecord :=
  { knownRecord with mediaType := .tv, title := "Strict Test Series" }

/-- The first episode of the first season. -/
def sampleEpisode : TorrentCandidate :=
  { (sampleResult "70" (sampleUuid 5)).candidate with
    releaseTitle := "Strict Test Series 2026 S01E01 1080p WEB-DL"
    mediaType := .tv
    year := some 2026
    season := some 1
    episodes := some [1]
    resolution := some "1080p"
    source := some "WEB-DL"
    sizeBytes := some 1000
    seeders := some 40
    infoHash := some "aaaaaaaaaaaaaaaaaaaaaaaaaaaaaaaaaaaaaaaa" }

/-- What the operator prefers. -/
def samplePreferences : MatchPreferences where
  resolutions := ["1080p"]
  sources := ["WEB-DL"]

/-- The run of the search for the series. -/
def seriesSearch : TorrentSearchRun where
  id := (sampleUuid 8).text
  mediaId := (sampleUuid 3).text
  siteId := "avistaz"
  status := .torrentReview
  sanitizedRequest := .dump { siteId := "avistaz" }
  createdAt := 0

/-- The stored row of the episode, scored against what a series misses. -/
def sampleEpisodeRecord (missingEpisodes : List String) : Models.TorrentCandidateRecord :=
  candidateRecord seriesSearch (sampleUuid 5) 7
    (@scoreTorrentCandidate asciiWorkflow seriesRecord sampleEpisode (some missingEpisodes)
      samplePreferences)

/-- What the automatic selection says of the episode. -/
def sampleSelection (missingEpisodes : List String) : Except Exn EligibilityResult :=
  @evaluateTorrentCandidates asciiWorkflow (sampleSeries missingEpisodes)
    [sampleEpisodeRecord missingEpisodes] (newDefaultPolicy (sampleUuid 0) 0) (sampleUuid 9).text
    "avistaz" none none

/-- The series misses one episode: the episode is claimed to cover it, and does. -/
theorem coverage_sound_one_season :
    ClaimsCoverage (sampleEpisodeRecord ["S01E01"]).matchReasons ∧
      ∀ season episode, @Missing asciiWorkflow (sampleSeries ["S01E01"]) season episode →
        Contains sampleEpisode season episode := by
  have hclaims : ClaimsCoverage (sampleEpisodeRecord ["S01E01"]).matchReasons := by
    decide +kernel
  have hok : (sampleSelection ["S01E01"]).isOk = true := by decide +kernel
  obtain ⟨result, hresult⟩ := exists_eq_ok hok
  have hone : @OneSeasonCovered asciiWorkflow (sampleSeries ["S01E01"]) sampleEpisode := by
    decide +kernel
  refine ⟨hclaims, ?_⟩
  exact (@coverage_sound_iff asciiWorkflow seriesRecord (sampleSeries ["S01E01"])
    samplePreferences [sampleEpisodeRecord ["S01E01"]] (newDefaultPolicy (sampleUuid 0) 0)
    (sampleUuid 9).text "avistaz" none none result (sampleEpisodeRecord ["S01E01"]) sampleEpisode
    rfl rfl hresult rfl rfl).mpr hone (Or.inl hclaims)

/-- The series misses an episode of the second season too: the automatic selection takes the episode
to cover it. -/
theorem second_season_uncovered :
    ¬ ∀ (runtime : WorkflowRuntime) (metadata : MetadataRecord) (media : Models.MediaItem)
        (candidate : TorrentCandidate) (preferences : MatchPreferences)
        (candidates : List Models.TorrentCandidateRecord) (revision : AutomationPolicyRevision)
        (searchJobId siteId : String) (maxSizeBytes : Option Int)
        (confirmedIdentity : Option MetadataRecord) (result : EligibilityResult)
        (top : Models.TorrentCandidateRecord),
      metadata.mediaType = .tv → media.mediaType = .tv →
      @evaluateTorrentCandidates runtime media candidates revision searchJobId siteId maxSizeBytes
        confirmedIdentity = .ok result →
      (rankedCandidates candidates).head? = some top →
      top.matchReasons = (@scoreTorrentCandidate runtime metadata candidate media.missingEpisodes
        preferences).matchReasons →
      ClaimsCoverage (@scoreTorrentCandidate runtime metadata candidate media.missingEpisodes
          preferences).matchReasons ∨ TreatsAsCovering result →
        ∀ season episode, @Missing runtime media season episode →
          Contains candidate season episode := by
  intro h
  have hok : (sampleSelection ["S01E01", "S02E01"]).isOk = true := by decide +kernel
  obtain ⟨result, hresult⟩ := exists_eq_ok hok
  have hclaims : ClaimsCoverage (sampleEpisodeRecord ["S01E01", "S02E01"]).matchReasons := by
    decide +kernel
  have hmissing : @Missing asciiWorkflow (sampleSeries ["S01E01", "S02E01"]) 2 1 := by
    unfold Missing
    decide +kernel
  obtain ⟨hseason, -⟩ := h asciiWorkflow seriesRecord (sampleSeries ["S01E01", "S02E01"])
    sampleEpisode samplePreferences [sampleEpisodeRecord ["S01E01", "S02E01"]]
    (newDefaultPolicy (sampleUuid 0) 0) (sampleUuid 9).text "avistaz" none none result
    (sampleEpisodeRecord ["S01E01", "S02E01"]) rfl rfl hresult rfl rfl (Or.inl hclaims) 2 1 hmissing
  exact absurd hseason (by decide)

-- nothing speaks against the episode, so that it is downloaded
example : (sampleSelection ["S01E01", "S02E01"]).toOption.any (fun result => result.eligible) =
    true := by
  decide +kernel

end LibSeek.Workflow
