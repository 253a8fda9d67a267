/-
The media of the library.

A media item is found by a discovery, gets an identity, and is searched for; downloads and imports
refer to it.

Main definitions:

* `Models.IdentityConfidence`, `Models.MetadataStatus`, `Models.WorkflowStatus` — the enumerations;
* `Models.MediaItem` — the row of a media item.
-/

import LibSeek.Core.Settings
import LibSeek.Lib.Table

set_option relaxedAutoImplicit false
set_option autoImplicit false

namespace LibSeek.Models

open LibSeek.Core LibSeek.Lib

inductive IdentityConfidence where
  | high | needsConfirmation
  deriving DecidableEq, Repr

inductive MetadataStatus where
  | resolved | needsConfirmation | unresolved
  deriving DecidableEq, Repr

inductive WorkflowStatus where
  | discovered | metadataPending | identityReview | identityConfirmed | ptSearchPending
  | ptSearching | torrentReview | noCandidate | searchFailed
  deriving DecidableEq, Repr

structure MediaItem where
  id : String
  source : String
  sourceItemId : String
  mediaType : MediaType
  tmdbId : Option Int
  title : String
  originalTitle : Option String := none
  year : Option Int := none
  countryCodes : Option (List String) := none
  posterPath : Option String := none
  rawType : Option String := none
  localEpisodes : Option Int := none
  localEpisodeMatrix : Option (List (String × List Int)) := none
  totalEpisodes : Option Int := none
  airedEpisodes : Option Int := none
  missingEpisodes : Option (List String) := none
  discoveryStatus : String := "MISSING"
  identityConfidence : IdentityConfidence
  metadataStatus : MetadataStatus
  workflowStatus : WorkflowStatus := .discovered
  discoveredAt : DateTime
  updatedAt : DateTime
  deriving DecidableEq, Repr

instance : Keyed MediaItem String := ⟨MediaItem.id⟩

@[simp] theorem key_mediaItem (m : MediaItem) : Keyed.key m = m.id := rfl

end LibSeek.Models
