/-
The documents of the identity workflow.

A metadata provider answers with records; the titles of a record and of a media item are compared in
a normal form, and the episodes that are missing are those that were aired and are not there.

Main definitions:

* `Schemas.MetadataRecord`, `Schemas.TorrentSearchCreateRequest` — the documents;
* `Schemas.WorkflowRuntime` — the runtime with what the workflow consults;
* `Schemas.normalizedIdentityTitle` — the normal form of a title;
* `Schemas.deriveMissingEpisodeCodes` — the episodes that are missing.
-/

import LibSeek.Schemas.Discovery

set_option relaxedAutoImplicit false
set_option autoImplicit false

namespace LibSeek.Schemas

open LibSeek.Core LibSeek.Lib LibSeek.Models

/-! ### Documents -/

/-- The episodes of the seasons. -/
abbrev EpisodeMatrix := List (String × List Int)

/-- `MetadataRecord`, with the fields that are read. -/
structure MetadataRecord where
  tmdbId : Int
  imdbId : Option String := none
  mediaType : MediaType
  title : String
  chineseTitle : Option String := none
  englishTitle : Option String := none
  originalTitle : Option String := none
  countryCodes : Option (List String) := none
  aliases : List String := []
  year : Option Int := none
  episodeMatrix : Option EpisodeMatrix := none
  deriving DecidableEq, Repr

structure TorrentSearchCreateRequest where
  siteId : String
  preferredResolutions : List String := []
  preferredSources : List String := []
  preferredAudio : List String := []
  preferredSubtitles : List String := []
  maxSizeBytes : Option Int := none
  deriving DecidableEq, Repr

/-! ### Normal forms -/

/-- The runtime with what the workflow consults besides: `unicodedata.normalize("NFKC", …)`. -/
class WorkflowRuntime extends NextFindRuntime where
  nfkc : String → String

section Normal

variable [WorkflowRuntime]

/-- `_normalized_identity_title`, and `_normalized_title` of the matching. -/
def normalizedIdentityTitle (value : Option String) : String :=
  String.ofList ((casefold (WorkflowRuntime.nfkc (value.getD ""))).toList.filter Python.isalnum)

/-- `_season_number` of the key of a matrix. -/
def seasonNumber (key : String) : Option ℕ :=
  match stripList key.toList with
  | [] => none
  | c :: rest => if isSeasonMark c then boundedNumber rest 2 else boundedNumber (c :: rest) 2

/-- `_episode_number` of a number. -/
def episodeNumber (n : Int) : Option ℕ :=
  if 1 ≤ n ∧ n ≤ 999 then some n.toNat else none

/-- The pairs of a season and an episode of `normalize_episode_matrix`; nothing where it raises. -/
def matrixPairs (matrix : EpisodeMatrix) : Option (List (ℕ × ℕ)) := do
  let seasons ← matrix.mapM fun entry => do
    let season ← seasonNumber entry.1
    let episodes ← entry.2.mapM episodeNumber
    some (episodes.map fun episode => (season, episode))
  some seasons.flatten

/-- `derive_missing_episode_codes`. -/
def deriveMissingEpisodeCodes (airedMatrix localMatrix : Option EpisodeMatrix)
    (upstreamMissing : Option (List String)) : Option (List String) :=
  match localMatrix.bind matrixPairs, airedMatrix.bind matrixPairs with
  | some localPairs, some airedPairs =>
      let missing := airedPairs.dedup.filter fun pair => !localPairs.contains pair
      let sorted := missing.insertionSort fun a b => toLex a ≤ toLex b
      some (sorted.map fun pair => "S" ++ twoDigits pair.1 ++ "E" ++ twoDigits pair.2)
  | _, _ => upstreamMissing.bind normalizeEpisodeCodes

end Normal

end LibSeek.Schemas
