/-
What the downloader and the sites answer.

Main definitions:

* `Schemas.QbTorrent`, `Schemas.QbTorrent.identityHashes` — a torrent of the downloader, and the
  hashes it can be known by;
* `Schemas.TorrentCandidate`, `Schemas.TorrentSearchRequest` — a candidate that a site offers, and
  the request it answers;
* `Schemas.ScoredCandidate` — a candidate with its score.
-/

import LibSeek.Schemas.Approvals

set_option relaxedAutoImplicit false
set_option autoImplicit false

namespace LibSeek.Schemas

open LibSeek.Core LibSeek.Lib

theorem noHash_isHex : ∀ h ∈ (none : Option String), Digest.isHex 64 h = true := nofun

/-- `QbTorrent`.  The validators turn every hash to lower case. -/
structure QbTorrent where
  hash : InfoHash
  infohashV1 : Option String
  infohashV2 : Option String
  name : String
  size : ℕ
  progress : Rat
  ratio : Rat
  state : String
  addedOn : Int
  completionOn : Int
  downloaded : ℕ
  uploaded : ℕ
  dlspeed : ℕ
  upspeed : ℕ
  category : String
  savePath : String
  progress_bounds : 0 ≤ progress ∧ progress ≤ 1
  ratio_bound : -1 ≤ ratio
  infohashV1_isHex : ∀ h ∈ infohashV1, Digest.isHex 40 h = true
  infohashV2_isHex : ∀ h ∈ infohashV2, Digest.isHex 64 h = true
  deriving DecidableEq

/-- The hashes a pair of info hashes can be known by: each of them, and the first 40 digits of the
second. -/
def hashSet (v1 v2 : Option String) : List String :=
  v1.toList ++ v2.toList ++ (v2.map (takeStr · 40)).toList

/-- `QbTorrent.identity_hashes`. -/
def QbTorrent.identityHashes (t : QbTorrent) : List String :=
  t.hash.text :: hashSet t.infohashV1 t.infohashV2

/-- `TorrentCandidate`, with the fields that the modelled services read. -/
structure TorrentCandidate where
  siteId : String
  torrentId : String
  releaseTitle : String
  detailsRef : String
  mediaType : MediaType
  tmdbId : Option Int
  imdbId : Option String
  year : Option Int
  season : Option Int
  episodes : Option (List Int)
  collectionType : Option String
  resolution : Option String
  source : Option String
  audio : Option (List String)
  subtitles : Option (List String)
  sizeBytes : Option ℕ
  seeders : Option ℕ
  downloadFactor : Option Rat
  uploadFactor : Option Rat
  hitAndRun : Option Bool
  infoHash : Option String
  matchScore : Option Rat
  deriving DecidableEq, Repr

/-- A candidate of a search, with its score. -/
structure ScoredCandidate where
  candidate : TorrentCandidate
  matchReasons : List String
  warnings : List String

/-- `PtSearchMode`: the ways in which a site can be searched. -/
inductive PtSearchMode where
  | tmdbId | imdbId | text
  deriving DecidableEq, Repr

/-- `TorrentSearchRequest`, with the fields that the executor sets. -/
structure TorrentSearchRequest where
  tmdb : Option Int := none
  search : Option String := none
  type : Option MediaType := none
  limit : ℕ := 50
  deriving DecidableEq, Repr

end LibSeek.Schemas
