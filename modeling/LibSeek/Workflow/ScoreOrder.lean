/-
The order of the scores.

The architecture ranks the external identifiers and the coverage of the missing episodes above the
activity of a torrent, its promotion and its size.  A score is a sum of points for each aspect; for
the identifiers the points outweigh all the others together, for the coverage they do not.

Main definitions:

* `Workflow.Within` — points are some thousandths, up to a bound;
* `Workflow.activityPoints` — what seeders, promotion and size add to a score;
* `Workflow.MatchesIdentifier`, `Workflow.CoversAll`, `Workflow.CoversPart` — the criteria of a
  candidate that are compared;
* `Workflow.coveragePoints` — what a full coverage adds over a partial one.

Main results:

* `Workflow.matchScore_eq` — a score is the sum of the points of its aspects, with no rounding and
  no cap;
* `Workflow.score_range`, `Workflow.identifier_dominates` — a score is between 0 and 1, and a match
  of an external identifier outweighs everything else;
* `Workflow.score_order` — **the order of the scores**: a full coverage outweighs the activity of a
  candidate that covers a part exactly where the difference of their activity is less than the
  points of the coverage.
-/

import LibSeek.Workflow.EpisodeCoverage
import Mathlib.Algebra.Order.Field.Basic
import Mathlib.Algebra.Order.Ring.Rat
import Mathlib.Tactic.Linarith
import Mathlib.Tactic.NormNum
import Mathlib.Tactic.Positivity
import Mathlib.Tactic.Ring

set_option relaxedAutoImplicit false
set_option autoImplicit false

namespace LibSeek.Workflow

open LibSeek.Core LibSeek.Lib LibSeek.Models LibSeek.Schemas LibSeek.Services

/-! ### Points -/

/-- Points are a number of thousandths, and no more than a bound. -/
def Within (most : ℕ) (points : Rat) : Prop :=
  ∃ n : ℕ, n ≤ most ∧ points = (n : Rat) / 1000

/-- No points are within every bound. -/
theorem Within.zero (most : ℕ) : Within most 0 := ⟨0, Nat.zero_le _, by norm_num⟩

/-- Two aspects together. -/
theorem Within.add {m n : ℕ} {x y : Rat} (hx : Within m x) (hy : Within n y) :
    Within (m + n) (x + y) := by
  obtain ⟨i, hi, rfl⟩ := hx
  obtain ⟨j, hj, rfl⟩ := hy
  refine ⟨i + j, by omega, ?_⟩
  push_cast
  ring

/-- Points are not negative. -/
theorem Within.nonneg {m : ℕ} {x : Rat} (hx : Within m x) : 0 ≤ x := by
  obtain ⟨i, -, rfl⟩ := hx
  positivity

/-- Points are at most the bound, in thousandths. -/
theorem Within.le {m : ℕ} {x : Rat} (hx : Within m x) : x ≤ (m : Rat) / 1000 := by
  obtain ⟨i, hi, rfl⟩ := hx
  have hcast : (i : Rat) ≤ m := by exact_mod_cast hi
  linarith

/-- Thousandths are not rounded. -/
theorem roundScore_of_within {m : ℕ} {x : Rat} (hx : Within m x) : roundScore x = x := by
  obtain ⟨i, -, rfl⟩ := hx
  have hscaled : (i : Rat) / 1000 * 10000 = ((10 * i : ℤ) : Rat) := by
    push_cast
    ring
  have hfloor : ((i : Rat) / 1000 * 10000).floor = 10 * i := by
    rw [hscaled]
    exact Rat.floor_intCast _
  rw [roundScore, hfloor, hscaled, if_pos (Or.inl (by simp))]
  push_cast
  ring

/-! ### Aspects -/

section Aspects

variable [WorkflowRuntime]

theorem within_identifierPart (metadata : MetadataRecord) (candidate : TorrentCandidate) :
    Within 320 (identifierPart metadata candidate).points := by
  unfold identifierPart
  split
  · split_ifs
    · exact ⟨320, le_rfl, by norm_num⟩
    · exact Within.zero _
  · split
    · split_ifs
      · exact ⟨280, by norm_num, by norm_num⟩
      · exact Within.zero _
    · exact Within.zero _

omit [WorkflowRuntime] in
theorem within_typePart (metadata : MetadataRecord) (candidate : TorrentCandidate) :
    Within 140 (typePart metadata candidate).points := by
  unfold typePart
  split_ifs
  · exact ⟨140, le_rfl, by norm_num⟩
  · exact Within.zero _

omit [WorkflowRuntime] in
theorem within_yearPart (metadata : MetadataRecord) (candidate : TorrentCandidate) :
    Within 100 (yearPart metadata candidate).points := by
  unfold yearPart
  split
  · split_ifs
    · exact ⟨100, le_rfl, by norm_num⟩
    · exact Within.zero _
  · exact Within.zero _

omit [WorkflowRuntime] in
theorem within_preferencePart (held : Bool) (n : ℕ) (reason : String) :
    Within (10 * n) (preferencePart held ((n : Rat) / 100) reason).points := by
  cases held with
  | false => exact Within.zero _
  | true =>
      refine ⟨10 * n, le_rfl, ?_⟩
      simp only [preferencePart, if_true]
      push_cast
      ring

omit [WorkflowRuntime] in
theorem within_seedersPart (candidate : TorrentCandidate) :
    Within 40 (seedersPart candidate).points := by
  unfold seedersPart
  split
  · next seeders _ =>
      refine ⟨min 40 (10 + seeders), Nat.min_le_left _ _, ?_⟩
      have hmost : (4 / 100 : Rat) = ((40 : ℕ) : Rat) / 1000 := by norm_num
      have hsome : (1 / 100 + (seeders : Rat) / 1000) = ((10 + seeders : ℕ) : Rat) / 1000 := by
        push_cast
        ring
      rw [Nat.cast_min, ← min_div_div_right (by norm_num : (0 : Rat) ≤ 1000), ← hmost, ← hsome]
  · exact Within.zero _

omit [WorkflowRuntime] in
theorem within_sizePart (candidate : TorrentCandidate) (maxSizeBytes : Option Int) :
    Within 20 (sizePart candidate maxSizeBytes).points := by
  unfold sizePart
  split
  · split_ifs
    · exact Within.zero _
    · exact ⟨20, le_rfl, by norm_num⟩
  · exact Within.zero _

omit [WorkflowRuntime] in
/-- The season that is missed is worth seven hundredths, and its episodes up to nine. -/
theorem seasonPart_points (candidate : TorrentCandidate) (needed : List Int) :
    ∃ x : Rat, Within 90 x ∧ (seasonPart candidate needed).points = 70 / 1000 + x := by
  unfold seasonPart
  split
  · split_ifs
    · exact ⟨40 / 1000, ⟨40, by norm_num, by norm_num⟩, by norm_num⟩
    · exact ⟨0, Within.zero _, by norm_num⟩
  · exact ⟨0, Within.zero _, by norm_num⟩
  · split_ifs
    · exact ⟨90 / 1000, ⟨90, by norm_num, by norm_num⟩, by norm_num⟩
    · exact ⟨70 / 1000, ⟨70, by norm_num, by norm_num⟩, by norm_num⟩
    · exact ⟨0, Within.zero _, by norm_num⟩
    · exact ⟨0, Within.zero _, by norm_num⟩

/-- The points for the episodes are those for the season and up to nine hundredths. -/
theorem episodePart_points (metadata : MetadataRecord) (candidate : TorrentCandidate)
    (missingEpisodes : Option (List String)) :
    ∃ x : Rat, Within 90 x ∧
      (episodePart metadata candidate missingEpisodes).points =
        (if metadata.mediaType = .tv ∧ (candidate.season.filter
            (· ∈ targetSeasons (requiredEpisodeMap missingEpisodes))).isSome then
          70 / 1000 else 0) + x := by
  unfold episodePart
  by_cases htv : metadata.mediaType = .tv
  · by_cases hrequired : requiredEpisodeMap missingEpisodes = []
    · refine ⟨0, Within.zero _, ?_⟩
      simp [hrequired, targetSeasons]
    · simp only [htv, ne_eq, hrequired, not_false_eq_true, and_self, if_true, true_and]
      cases hseason : candidate.season.filter
          (· ∈ targetSeasons (requiredEpisodeMap missingEpisodes)) with
      | none => exact ⟨0, Within.zero _, by simp⟩
      | some season =>
          obtain ⟨x, hx, hpoints⟩ := seasonPart_points candidate
            (requiredEpisodes (requiredEpisodeMap missingEpisodes) season)
          exact ⟨x, hx, by simp [hpoints]⟩
  · exact ⟨0, Within.zero _, by simp [htv]⟩

/-! ### Scores -/

omit [WorkflowRuntime] in
/-- What the seeders, the promotion and the size of a candidate add to its score. -/
def activityPoints (candidate : TorrentCandidate) (preferences : MatchPreferences) : Rat :=
  (seedersPart candidate).points +
    (preferencePart (candidate.downloadFactor.any (· < 1)) (3 / 100) "PROMOTION_ACTIVE").points +
    (sizePart candidate preferences.maxSizeBytes).points

/-- What the preferences that a candidate meets add to its score. -/
def preferencePoints (candidate : TorrentCandidate) (preferences : MatchPreferences) : Rat :=
  (preferencePart (preferred candidate.resolution preferences.resolutions) (7 / 100)
      "PREFERRED_RESOLUTION").points +
    (preferencePart (preferred candidate.source preferences.sources) (4 / 100)
      "PREFERRED_SOURCE").points +
    (preferencePart (listPreferred candidate.audio preferences.audio) (3 / 100)
      "PREFERRED_AUDIO").points +
    (preferencePart (listPreferred candidate.subtitles preferences.subtitles) (4 / 100)
      "PREFERRED_SUBTITLE").points

omit [WorkflowRuntime] in
/-- The activity is worth up to nine hundredths. -/
theorem within_activityPoints (candidate : TorrentCandidate) (preferences : MatchPreferences) :
    Within 90 (activityPoints candidate preferences) :=
  ((within_seedersPart candidate).add (within_preferencePart _ 3 _)).add (within_sizePart _ _)

theorem within_preferencePoints (candidate : TorrentCandidate) (preferences : MatchPreferences) :
    Within 180 (preferencePoints candidate preferences) :=
  (((within_preferencePart _ 7 _).add (within_preferencePart _ 4 _)).add
    (within_preferencePart _ 3 _)).add (within_preferencePart _ 4 _)

theorem within_episodePart (metadata : MetadataRecord) (candidate : TorrentCandidate)
    (missingEpisodes : Option (List String)) :
    Within 160 (episodePart metadata candidate missingEpisodes).points := by
  obtain ⟨x, hx, hpoints⟩ := episodePart_points metadata candidate missingEpisodes
  rw [hpoints]
  split_ifs
  · have hseason : Within 70 (70 / 1000) := ⟨70, le_rfl, by norm_num⟩
    exact hseason.add hx
  · obtain ⟨n, hn, rfl⟩ := hx
    exact ⟨n, by omega, by ring⟩

/-- The points of all aspects of a candidate. -/
def totalPoints (metadata : MetadataRecord) (candidate : TorrentCandidate)
    (missingEpisodes : Option (List String)) (preferences : MatchPreferences) : Rat :=
  (identifierPart metadata candidate).points + (typePart metadata candidate).points +
    (episodePart metadata candidate missingEpisodes).points + (yearPart metadata candidate).points +
    preferencePoints candidate preferences + activityPoints candidate preferences

/-- All aspects together are worth up to ninety-nine hundredths. -/
theorem within_totalPoints (metadata : MetadataRecord) (candidate : TorrentCandidate)
    (missingEpisodes : Option (List String)) (preferences : MatchPreferences) :
    Within 990 (totalPoints metadata candidate missingEpisodes preferences) :=
  (((((within_identifierPart metadata candidate).add (within_typePart metadata candidate)).add
    (within_episodePart metadata candidate missingEpisodes)).add
    (within_yearPart metadata candidate)).add (within_preferencePoints candidate preferences)).add
    (within_activityPoints candidate preferences)

/-- The score of a candidate. -/
def scoreOf (metadata : MetadataRecord) (candidate : TorrentCandidate)
    (missingEpisodes : Option (List String)) (preferences : MatchPreferences) : Option Rat :=
  (scoreTorrentCandidate metadata candidate missingEpisodes preferences).candidate.matchScore

/-- **A score is the sum of the points**: it is neither rounded nor capped. -/
theorem scoreOf_eq (metadata : MetadataRecord) (candidate : TorrentCandidate)
    (missingEpisodes : Option (List String)) (preferences : MatchPreferences) :
    scoreOf metadata candidate missingEpisodes preferences =
      some (totalPoints metadata candidate missingEpisodes preferences) := by
  have hsum : ((matchParts metadata candidate missingEpisodes preferences).map
      MatchPart.points).sum = totalPoints metadata candidate missingEpisodes preferences := by
    have hknown : ∀ (held : Bool) (warnings : List String),
        (if held then ({} : MatchPart) else { warnings }).points = 0 := by
      intro held warnings
      cases held <;> rfl
    have hduplicate : ∀ (held : Bool) (warnings : List String),
        (if held then ({ warnings } : MatchPart) else {}).points = 0 := by
      intro held warnings
      cases held <;> rfl
    simp only [matchParts, List.map_cons, List.map_nil, List.sum_cons, List.sum_nil, hknown,
      hduplicate, totalPoints, preferencePoints, activityPoints]
    ring
  have hwithin := within_totalPoints metadata candidate missingEpisodes preferences
  have hcap : totalPoints metadata candidate missingEpisodes preferences ≤ 1 :=
    hwithin.le.trans (by norm_num)
  rw [scoreOf, scoreTorrentCandidate]
  simp only [hsum, roundScore_of_within hwithin, min_eq_right hcap]

/-! ### The order -/

/-- Two candidates have the same media type, year and season, and meet the same preferences. -/
structure SameCriteria (preferences : MatchPreferences) (a b : TorrentCandidate) : Prop where
  mediaType : a.mediaType = b.mediaType
  year : a.year = b.year
  season : a.season = b.season
  resolution : preferred a.resolution preferences.resolutions =
    preferred b.resolution preferences.resolutions
  source : preferred a.source preferences.sources = preferred b.source preferences.sources
  audio : listPreferred a.audio preferences.audio = listPreferred b.audio preferences.audio
  subtitles : listPreferred a.subtitles preferences.subtitles =
    listPreferred b.subtitles preferences.subtitles

/-- A candidate matches an external identifier: that of TMDB, or, where it has none, that of
IMDb. -/
def MatchesIdentifier (metadata : MetadataRecord) (candidate : TorrentCandidate) : Prop :=
  candidate.tmdbId = some metadata.tmdbId ∨
    candidate.tmdbId = none ∧
      ∃ imdbId known, candidate.imdbId.filter (· ≠ "") = some imdbId ∧
        metadata.imdbId.filter (· ≠ "") = some known ∧ casefold imdbId = casefold known

/-- The episodes that are required of the season of a candidate. -/
structure Required (metadata : MetadataRecord) (missingEpisodes : Option (List String))
    (candidate : TorrentCandidate) (needed : List Int) : Prop where
  series : metadata.mediaType = .tv
  season : ∃ season, candidate.season = some season ∧
    season ∈ targetSeasons (requiredEpisodeMap missingEpisodes) ∧
    needed = requiredEpisodes (requiredEpisodeMap missingEpisodes) season

omit [WorkflowRuntime] in
/-- A candidate offers all the episodes that are required, exactly or with others. -/
def CoversAll (candidate : TorrentCandidate) (needed : List Int) : Prop :=
  ∃ offered, candidate.episodes = some offered ∧ needed ⊆ offered

omit [WorkflowRuntime] in
/-- A candidate offers some episodes, but not all that are required. -/
def CoversPart (candidate : TorrentCandidate) (needed : List Int) : Prop :=
  ∃ offered, candidate.episodes = some offered ∧ offered ≠ [] ∧ ¬ needed ⊆ offered

omit [WorkflowRuntime] in
/-- What a candidate that covers all adds for it: nine hundredths where it offers exactly what is
required, and seven where it offers others as well. -/
def coveragePoints (candidate : TorrentCandidate) (needed : List Int) : Rat :=
  if candidate.episodes.getD [] ⊆ needed then 9 / 100 else 7 / 100

/-- The points of a matching identifier. -/
theorem identifierPart_of_matches {metadata : MetadataRecord} {candidate : TorrentCandidate}
    (h : MatchesIdentifier metadata candidate) :
    28 / 100 ≤ (identifierPart metadata candidate).points := by
  rcases h with h | ⟨hnone, imdbId, known, himdb, hknown, hequal⟩
  · simp only [identifierPart, h, if_true]
    norm_num
  · simp only [identifierPart, hnone, himdb, hknown, hequal, if_true]
    exact le_rfl

/-- No points without one. -/
theorem identifierPart_of_not_matches {metadata : MetadataRecord} {candidate : TorrentCandidate}
    (h : ¬ MatchesIdentifier metadata candidate) :
    (identifierPart metadata candidate).points = 0 := by
  unfold identifierPart
  split
  · next tmdbId htmdb =>
      rw [if_neg]
      rintro rfl
      exact h (Or.inl htmdb)
  · next hnone =>
      split
      · next imdbId known himdb hknown =>
          rw [if_neg]
          intro hequal
          exact h (Or.inr ⟨hnone, imdbId, known, himdb, hknown, hequal⟩)
      · rfl

/-- The points for the season of a candidate whose episodes are required. -/
theorem episodePart_of_required {metadata : MetadataRecord} {candidate : TorrentCandidate}
    {missingEpisodes : Option (List String)} {needed : List Int}
    (h : Required metadata missingEpisodes candidate needed) :
    episodePart metadata candidate missingEpisodes = seasonPart candidate needed ∧
      needed ≠ [] := by
  obtain ⟨season, hseason, htarget, rfl⟩ := h.season
  obtain ⟨episode, hepisode⟩ := mem_targetSeasons.mp htarget
  have hrequired : requiredEpisodeMap missingEpisodes ≠ [] := List.ne_nil_of_mem hepisode
  have hfilter : candidate.season.filter
      (· ∈ targetSeasons (requiredEpisodeMap missingEpisodes)) = some season := by
    rw [hseason, Option.filter_some, if_pos (decide_eq_true htarget)]
  refine ⟨?_, List.ne_nil_of_mem (mem_requiredEpisodes.mpr hepisode)⟩
  simp only [episodePart, h.series, ne_eq, hrequired, not_false_eq_true, and_self, if_true, hfilter]

omit [WorkflowRuntime] in
/-- The points of a full coverage. -/
theorem seasonPart_of_coversAll {candidate : TorrentCandidate} {needed : List Int}
    (hneeded : needed ≠ []) (h : CoversAll candidate needed) :
    (seasonPart candidate needed).points = 7 / 100 + coveragePoints candidate needed := by
  obtain ⟨offered, hepisodes, hsubset⟩ := h
  cases offered with
  | nil => exact absurd (List.subset_nil.mp hsubset) hneeded
  | cons one others =>
      simp only [seasonPart, hepisodes, coveragePoints, Option.getD_some, hsubset, and_true,
        if_true]
      split_ifs <;> norm_num

omit [WorkflowRuntime] in
/-- The points of a partial coverage. -/
theorem seasonPart_of_coversPart {candidate : TorrentCandidate} {needed : List Int}
    (h : CoversPart candidate needed) : (seasonPart candidate needed).points = 7 / 100 := by
  obtain ⟨offered, hepisodes, hsome, hsubset⟩ := h
  cases offered with
  | nil => exact absurd rfl hsome
  | cons one others => simp [seasonPart, hepisodes, hsubset]

/-- The points that do not depend on what two candidates with the same criteria differ in. -/
theorem SameCriteria.points {preferences : MatchPreferences} {a b : TorrentCandidate}
    (h : SameCriteria preferences a b) (metadata : MetadataRecord) :
    (typePart metadata a).points = (typePart metadata b).points ∧
      (yearPart metadata a).points = (yearPart metadata b).points ∧
      preferencePoints a preferences = preferencePoints b preferences := by
  refine ⟨?_, ?_, ?_⟩
  · rw [typePart, typePart, h.mediaType]
  · rw [yearPart, yearPart, h.year]
  · rw [preferencePoints, preferencePoints, h.resolution, h.source, h.audio, h.subtitles]

/-- **A score is between 0 and 1.** -/
theorem score_range (metadata : MetadataRecord) (candidate : TorrentCandidate)
    (missingEpisodes : Option (List String)) (preferences : MatchPreferences) :
    ∃ score ∈ scoreOf metadata candidate missingEpisodes preferences, 0 ≤ score ∧ score ≤ 1 := by
  have hwithin := within_totalPoints metadata candidate missingEpisodes preferences
  exact ⟨_, scoreOf_eq .., hwithin.nonneg, hwithin.le.trans (by norm_num)⟩

/-- **A match of an external identifier outweighs everything else**: the coverage of the episodes,
the activity, the promotion and the size. -/
theorem identifier_dominates {metadata : MetadataRecord} {a b : TorrentCandidate}
    {missingEpisodes : Option (List String)} {preferences : MatchPreferences}
    (hsame : SameCriteria preferences a b) (ha : MatchesIdentifier metadata a)
    (hb : ¬ MatchesIdentifier metadata b) :
    totalPoints metadata b missingEpisodes preferences <
      totalPoints metadata a missingEpisodes preferences := by
  obtain ⟨htype, hyear, hpreferences⟩ := hsame.points metadata
  obtain ⟨x, hx, hepisodes⟩ := episodePart_points metadata a missingEpisodes
  obtain ⟨y, hy, hepisodes'⟩ := episodePart_points metadata b missingEpisodes
  rw [hsame.season] at hepisodes
  have hida := identifierPart_of_matches ha
  have hidb := identifierPart_of_not_matches hb
  have hactivitya := (within_activityPoints a preferences).nonneg
  have hactivityb := (within_activityPoints b preferences).le
  have hxnonneg := hx.nonneg
  have hyle := hy.le
  push_cast at hactivityb hyle
  unfold totalPoints
  rw [htype, hyear, hpreferences, hepisodes, hepisodes', hidb]
  linarith

/-- A full coverage outweighs a partial one where the activity does not make up for it. -/
theorem coverage_dominates_iff {metadata : MetadataRecord} {a b : TorrentCandidate}
    {missingEpisodes : Option (List String)} {preferences : MatchPreferences} {needed : List Int}
    (hsame : SameCriteria preferences a b)
    (hidentifier : (identifierPart metadata a).points = (identifierPart metadata b).points)
    (hneeded : Required metadata missingEpisodes a needed) (ha : CoversAll a needed)
    (hb : CoversPart b needed) :
    totalPoints metadata b missingEpisodes preferences <
        totalPoints metadata a missingEpisodes preferences ↔
      activityPoints b preferences < activityPoints a preferences + coveragePoints a needed := by
  obtain ⟨htype, hyear, hpreferences⟩ := hsame.points metadata
  have hneededb : Required metadata missingEpisodes b needed :=
    ⟨hneeded.series, by rw [← hsame.season]; exact hneeded.season⟩
  obtain ⟨hpart, hsome⟩ := episodePart_of_required hneeded
  obtain ⟨hpart', -⟩ := episodePart_of_required hneededb
  unfold totalPoints
  rw [htype, hyear, hpreferences, hidentifier, hpart, hpart', seasonPart_of_coversAll hsome ha,
    seasonPart_of_coversPart hb]
  constructor <;> intro h <;> linarith

/-- The first of two candidates scores strictly lower. -/
def ScoresLower (metadata : MetadataRecord) (missingEpisodes : Option (List String))
    (preferences : MatchPreferences) (b a : TorrentCandidate) : Prop :=
  ∃ low ∈ scoreOf metadata b missingEpisodes preferences,
    ∃ high ∈ scoreOf metadata a missingEpisodes preferences, low < high

/-- A candidate scores lower where its points are fewer. -/
theorem scoresLower_iff {metadata : MetadataRecord} {missingEpisodes : Option (List String)}
    {preferences : MatchPreferences} {b a : TorrentCandidate} :
    ScoresLower metadata missingEpisodes preferences b a ↔
      totalPoints metadata b missingEpisodes preferences <
        totalPoints metadata a missingEpisodes preferences := by
  rw [ScoresLower, scoreOf_eq, scoreOf_eq]
  simp only [Option.mem_some_iff, exists_eq_left']

/-- **The order of the scores.**  A score is between 0 and 1.  Of two candidates with the same media
type, year, season and preferences, one that matches an external identifier scores higher than one
that does not.  One that covers all the required episodes scores higher than one that covers a part
of them, with the same points for the identifiers, exactly where the points for the activity,
promotion and size of the other are not ahead by as many as the coverage adds. -/
theorem score_order :
    (∀ (metadata : MetadataRecord) (candidate : TorrentCandidate)
        (missingEpisodes : Option (List String)) (preferences : MatchPreferences),
      ∃ score ∈ scoreOf metadata candidate missingEpisodes preferences, 0 ≤ score ∧ score ≤ 1) ∧
      (∀ (metadata : MetadataRecord) (missingEpisodes : Option (List String))
          (preferences : MatchPreferences) (a b : TorrentCandidate),
        SameCriteria preferences a b → MatchesIdentifier metadata a →
          ¬ MatchesIdentifier metadata b → ScoresLower metadata missingEpisodes preferences b a) ∧
      ∀ (metadata : MetadataRecord) (missingEpisodes : Option (List String))
          (preferences : MatchPreferences) (a b : TorrentCandidate) (needed : List Int),
        SameCriteria preferences a b →
          (identifierPart metadata a).points = (identifierPart metadata b).points →
          Required metadata missingEpisodes a needed → CoversAll a needed → CoversPart b needed →
            (ScoresLower metadata missingEpisodes preferences b a ↔
              activityPoints b preferences <
                activityPoints a preferences + coveragePoints a needed) := by
  refine ⟨score_range, ?_, ?_⟩
  · intro metadata missingEpisodes preferences a b hsame ha hb
    exact scoresLower_iff.mpr (identifier_dominates hsame ha hb)
  · intro metadata missingEpisodes preferences a b needed hsame hidentifier hneeded ha hb
    exact scoresLower_iff.trans (coverage_dominates_iff hsame hidentifier hneeded ha hb)

end Aspects

/-- The first episode, with the identifier of another series. -/
def foreignEpisode : TorrentCandidate :=
  { sampleEpisode with tmdbId := some (seriesRecord.tmdbId + 1) }

/-- A torrent of the first two episodes. -/
def bothEpisodes : TorrentCandidate :=
  { sampleEpisode with episodes := some [1, 2] }

/-- The series misses two episodes: the torrent with one of them scores higher than that of another
series, and lower than the torrent with both. -/
theorem score_order_sample :
    @ScoresLower asciiWorkflow seriesRecord (some ["S01E01", "S01E02"]) samplePreferences
        foreignEpisode sampleEpisode ∧
      @ScoresLower asciiWorkflow seriesRecord (some ["S01E01", "S01E02"]) samplePreferences
        sampleEpisode bothEpisodes := by
  let _ := asciiWorkflow
  obtain ⟨-, hidentifier, hcoverage⟩ := @score_order asciiWorkflow
  constructor
  · refine hidentifier _ _ _ _ _ ⟨rfl, rfl, rfl, rfl, rfl, rfl, rfl⟩ (Or.inl rfl) ?_
    rintro (h | ⟨h, -⟩)
    · exact absurd h (by decide)
    · cases h
  · have hneeded : @Required asciiWorkflow seriesRecord (some ["S01E01", "S01E02"]) bothEpisodes
        [1, 2] := ⟨rfl, 1, rfl, by decide +kernel, by decide +kernel⟩
    have hiff := hcoverage seriesRecord (some ["S01E01", "S01E02"]) samplePreferences bothEpisodes
      sampleEpisode [1, 2] ⟨rfl, rfl, rfl, rfl, rfl, rfl, rfl⟩ rfl hneeded
      ⟨[1, 2], rfl, by decide⟩ ⟨[1], rfl, by decide, by decide⟩
    -- both are equally active, so the coverage decides
    have hsame : activityPoints bothEpisodes samplePreferences =
        activityPoints sampleEpisode samplePreferences := rfl
    have hcovered : coveragePoints bothEpisodes [1, 2] = 9 / 100 := by decide +kernel
    rw [hiff, hsame, hcovered]
    exact lt_add_of_pos_right _ (by norm_num)

/-! ### A partial coverage that scores higher -/

/-- A torrent of three episodes of the first season that nobody offers any more. -/
def quietSeason : TorrentCandidate :=
  { sampleEpisode with episodes := some [1, 2, 3], seeders := some 0, sizeBytes := none }

/-- A torrent of the first episode that many offer, and that is free. -/
def busyEpisode : TorrentCandidate :=
  { sampleEpisode with downloadFactor := some 0 }

/-- What the operator prefers, with a limit of the size. -/
def limitedPreferences : MatchPreferences :=
  { samplePreferences with maxSizeBytes := some 5000 }

/-- The series misses two episodes: the torrent with one of them scores higher than the torrent with
both. -/
theorem busy_episode_not_lower :
    ¬ ∀ (runtime : WorkflowRuntime) (metadata : MetadataRecord)
        (missingEpisodes : Option (List String)) (preferences : MatchPreferences)
        (a b : TorrentCandidate) (needed : List Int),
      @SameCriteria runtime preferences a b →
        (@identifierPart runtime metadata a).points = (@identifierPart runtime metadata b).points →
        @Required runtime metadata missingEpisodes a needed → CoversAll a needed →
        CoversPart b needed → @ScoresLower runtime metadata missingEpisodes preferences b a := by
  intro h
  let _ := asciiWorkflow
  have hneeded : @Required asciiWorkflow seriesRecord (some ["S01E01", "S01E02"]) quietSeason
      [1, 2] := ⟨rfl, 1, rfl, by decide +kernel, by decide +kernel⟩
  obtain ⟨low, hlow, high, hhigh, hless⟩ := h asciiWorkflow seriesRecord
    (some ["S01E01", "S01E02"]) limitedPreferences quietSeason busyEpisode [1, 2]
    ⟨rfl, rfl, rfl, rfl, rfl, rfl, rfl⟩ rfl hneeded
    ⟨[1, 2, 3], rfl, by decide⟩ ⟨[1], rfl, by decide, by decide⟩
  have hone : @scoreOf asciiWorkflow seriesRecord busyEpisode (some ["S01E01", "S01E02"])
      limitedPreferences = some (83 / 100) := by
    decide +kernel
  have hboth : @scoreOf asciiWorkflow seriesRecord quietSeason (some ["S01E01", "S01E02"])
      limitedPreferences = some (81 / 100) := by
    decide +kernel
  rw [hone, Option.mem_some_iff] at hlow
  rw [hboth, Option.mem_some_iff] at hhigh
  rw [← hlow, ← hhigh] at hless
  norm_num at hless

end LibSeek.Workflow
