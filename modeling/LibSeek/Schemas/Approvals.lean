/-
The documents of an approval.

An approval request stores a snapshot of the candidate it is about, the result of the latest
pre-flight, and, once approved, a download plan with a destination for the media.  Each of these
is a validated document: its type's validator rejects an instance that breaks the type's rules.
The rules that do not depend on the Unicode database are fields of the structures here, so that no
instance that breaks them exists; those that do are the Boolean `ApprovalCandidateSnapshot.valid`.

Main definitions:

* `Schemas.InfoHash` — a 40 or 64 digit hash, in lower case;
* `Schemas.validateInternalTorrentRef` — the shape of a torrent reference;
* `Schemas.ApprovalCandidateSnapshot` — the snapshot of a candidate;
* `Schemas.PreflightCheck`, `Schemas.PreflightResult` — a check, and the result of a pre-flight;
* `Schemas.PolicyDocument` — the document whose digest is the pre-flight policy fingerprint;
* `Schemas.effectiveHnrRule` — the seeding rule of a site.
-/

import LibSeek.Core.Settings
import Mathlib.Data.Rat.Defs

set_option relaxedAutoImplicit false
set_option autoImplicit false

namespace LibSeek.Schemas

open LibSeek.Core LibSeek.Lib

/-! ### Shapes -/

/-- A torrent info hash: 40 or 64 lower-case hexadecimal digits. -/
structure InfoHash where
  text : String
  isInfoHash : isInfoHash text = true
  deriving DecidableEq, Repr

/-- The validator of `info_hash`: 40 or 64 hexadecimal digits of either case, turned to lower
case. -/
def infoHashIsValid (value : String) : Option InfoHash :=
  if h : isInfoHash (lowerHex value) = true then some ⟨lowerHex value, h⟩ else none

/-- The characters that `[a-z]` accepts when case is ignored: the letters of the Latin alphabet,
and the four other characters with the case of one of them. -/
def isLetterIgnoreCase (c : Char) : Bool :=
  c.isAlpha || c == 'İ' || c == 'ı' || c == 'ſ' || c == 'K'

/-- One of the first two parts of a torrent reference: `[a-z0-9][a-z0-9_-]{0,49}`. -/
def isReferenceName : List Char → Bool
  | [] => false
  | c :: cs =>
      (isLetterIgnoreCase c || c.isDigit) && cs.length ≤ 49 &&
        cs.all fun c => isLetterIgnoreCase c || c.isDigit || c == '_' || c == '-'

/-- The last part of a torrent reference: `[A-Za-z0-9._~-]{1,128}`. -/
def isReferenceId (cs : List Char) : Bool :=
  1 ≤ cs.length && cs.length ≤ 128 &&
    cs.all fun c =>
      isLetterIgnoreCase c || c.isDigit || c == '.' || c == '_' || c == '~' || c == '-'

/-- `validate_internal_torrent_ref`: at most 180 characters, in three parts set off by colons. -/
def validateInternalTorrentRef (value : String) : Bool :=
  value.toList.length ≤ 180 &&
    match value.toList.splitOn ':' with
    | [site, kind, id] => isReferenceName site && isReferenceName kind && isReferenceId id
    | _ => false

/-- Whether a torrent reference begins with the name of its site and a colon, up to case. -/
def torrentRefMatchesSite [Python] (torrentRef siteId : String) : Bool :=
  startswith (casefold torrentRef) (casefold siteId ++ ":")

/-! ### The seeding rule of a site -/

def AVISTAZ_DEFAULT_HNR_DAYS : Int := 7

inductive HnrRuleSource where
  | siteDefault | candidateMetadata | unknown
  deriving DecidableEq, Repr

/-- The text of a source in the details of a check. -/
def HnrRuleSource.value : HnrRuleSource → String
  | siteDefault => "SITE_DEFAULT"
  | candidateMetadata => "CANDIDATE_METADATA"
  | unknown => "UNKNOWN"

structure EffectiveHnrRule where
  applies : Option Bool
  source : HnrRuleSource
  minimumSeedingDays : Option Int := none
  deriving DecidableEq, Repr

/-- `EffectiveHnrRule.known`. -/
def EffectiveHnrRule.known (r : EffectiveHnrRule) : Bool :=
  r.applies.isSome

/-- `effective_hnr_rule`. -/
def effectiveHnrRule [Python] (siteId : String) (hitAndRun : Option Bool) : EffectiveHnrRule :=
  if casefold siteId = "avistaz" then
    { applies := some true
      source := .siteDefault
      minimumSeedingDays := some AVISTAZ_DEFAULT_HNR_DAYS }
  else
    match hitAndRun with
    | none => { applies := none, source := .unknown }
    | some applies => { applies := some applies, source := .candidateMetadata }

/-- `hnr_acknowledgement_required`. -/
def hnrAcknowledgementRequired [Python] (siteId : String) : Bool :=
  casefold siteId != "avistaz"

/-! ### The snapshot of a candidate -/

/-- `PromotionSnapshot`. -/
structure PromotionSnapshot where
  downloadFactor : Option Rat
  uploadFactor : Option Rat
  deriving DecidableEq, Repr

/-- `ApprovalCandidateSnapshot`, without the checks that need the Unicode database. -/
structure ApprovalCandidateSnapshot where
  mediaItemId : String
  mediaTitle : String
  mediaType : MediaType
  tmdbId : Option Int
  year : Option Int
  torrentCandidateId : String
  siteId : String
  torrentId : String
  torrentRef : String
  releaseTitle : String
  sizeBytes : Option ℕ
  infoHash : Option InfoHash
  season : Option ℕ
  episodes : Option (List Int)
  resolution : Option String
  source : Option String
  subtitles : Option (List String)
  seeders : Option ℕ
  promotion : PromotionSnapshot
  hitAndRun : Option Bool
  matchScore : Rat
  matchReasons : List String
  warnings : List String
  requestedAt : DateTime
  expiresAt : DateTime
  deriving DecidableEq, Repr

/-- The validators of a snapshot: the reference is an internal one and names the snapshot's site,
the factors are not negative and the score lies between 0 and 1. -/
def ApprovalCandidateSnapshot.valid [Python] (s : ApprovalCandidateSnapshot) : Bool :=
  validateInternalTorrentRef s.torrentRef &&
    torrentRefMatchesSite s.torrentRef s.siteId &&
    s.promotion.downloadFactor.all (0 ≤ ·) &&
    s.promotion.uploadFactor.all (0 ≤ ·) &&
    0 ≤ s.matchScore && s.matchScore ≤ 1

/-! ### Requests -/

theorem noMinutes_bounds : ∀ m ∈ (none : Option Int), 5 ≤ m ∧ m ≤ 10080 := by simp

/-- `ApprovalCreateRequest`. -/
structure ApprovalCreateRequest where
  expiresInMinutes : Option Int := none
  bounds : ∀ m ∈ expiresInMinutes, 5 ≤ m ∧ m ≤ 10080 := by
    first | exact LibSeek.Schemas.noMinutes_bounds | simp

/-- `ApprovalApproveRequest`. -/
structure ApprovalApproveRequest where
  acknowledgesHnr : Bool := false
  acknowledgesSeeding : Bool
  acknowledgesPlanOnly : Bool
  deriving DecidableEq, Repr

/-! ### Pre-flight -/

/-- The code of a check: `^[A-Z][A-Z0-9_]{1,79}$`. -/
def isCheckCode (code : String) : Bool :=
  match code.toList with
  | [] => false
  | c :: cs =>
      c.isUpper && 1 ≤ cs.length && cs.length ≤ 79 &&
        cs.all fun c => c.isUpper || c.isDigit || c == '_'

/-- `PreflightCheck`. -/
structure PreflightCheck where
  code : String
  status : PreflightStatus
  message : String
  details : List (String × Scalar)
  code_valid : isCheckCode code = true
  message_valid : 1 ≤ message.toList.length ∧ message.toList.length ≤ 500
  deriving DecidableEq

/-- The overall status of a list of checks: the first of `BLOCKED`, `UNKNOWN`, `WARNING` and
`PASS` that one of them has. -/
def overallStatus (checks : List PreflightCheck) : PreflightStatus :=
  if checks.any (·.status = .blocked) then .blocked
  else if checks.any (·.status = .unknown) then .unknown
  else if checks.any (·.status = .warning) then .warning
  else .pass

/-- The rules on hit-and-run in the pre-flight policy. -/
structure PtSiteHnrPolicy where
  applies : Bool
  minimumSeedingDays : Int
  deriving DecidableEq, Repr

/-- The policy whose digest is the pre-flight policy fingerprint. -/
structure PolicyDocument where
  version : ℕ
  downloader : String
  baseUrl : String
  targetInstanceRef : String
  allowedHosts : List String
  allowInsecureHttp : Bool
  targetCategory : Option String
  targetSavePath : Option String
  allowedSavePaths : List String
  savePathRef : String
  planTags : List String
  maxCandidateSizeBytes : Option Int
  duplicateReleaseRecentLimit : ℕ
  avistazForbiddenQbVersions : List String
  avistazHnr : PtSiteHnrPolicy
  preflightMaxAgeSeconds : Int
  deriving DecidableEq, Repr

/-- `PreflightResult`: at least one check, no two with one code, and the overall status that the
checks give. -/
structure PreflightResult where
  overallStatus : PreflightStatus
  checks : List PreflightCheck
  checkedAt : DateTime
  policyFingerprint : Digest PolicyDocument
  checks_ne_nil : checks ≠ []
  codes_nodup : (checks.map PreflightCheck.code).Nodup
  overallStatus_eq : overallStatus = Schemas.overallStatus checks
  fingerprint_wellShaped : policyFingerprint.wellShaped = true
  deriving DecidableEq

/-- `MediaDestinationPlan`, whose mode is always `PLAN_ONLY_NO_FILE_OPERATION`. -/
structure MediaDestinationPlan where
  mediaItemId : String
  mediaType : MediaType
  tmdbId : Option Int
  season : Option ℕ
  episodes : Option (List Int)
  deriving DecidableEq, Repr

end LibSeek.Schemas
