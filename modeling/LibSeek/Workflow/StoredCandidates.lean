/-
Approvals of the candidates that are stored.

A candidate of a site has passed the checks of its own schema before it is scored and stored.  When
an approval is created for it, the stored row is checked again by the schema of the snapshot, and
that schema asks more of two fields: the info hash, of which the first asks nothing, is to have 40 or
64 hexadecimal digits, and the season is not to be negative.  What the first schema asks of the other
fields implies what the second does.

Main definitions:

* `Workflow.isSiteId`, `Workflow.isTorrentId`, `Workflow.isDetailsRef` — the patterns of the schema
  of a candidate;
* `Workflow.TorrentCandidateValid` — **the checks of the schema of a candidate**;
* `Workflow.storedRow` — what is read again of the row of a candidate;
* `Workflow.Contained` — a creation succeeds, or raises an error of the services.

Main results:

* `Workflow.infoHashIsValid_isSome` — when the info hash is accepted;
* `Workflow.candidateSnapshotOf_isSome_iff` — when the snapshot of a stored candidate is accepted;
* `Workflow.createApprovalRequest_contained_iff` — **when nothing but an error of the services
  leaves a creation**.
-/

import LibSeek.ControlPlane.ApprovalSteps
import LibSeek.Workflow.ScoreOrder

set_option relaxedAutoImplicit false
set_option autoImplicit false

namespace LibSeek.Workflow

open LibSeek.Core LibSeek.Lib LibSeek.Models LibSeek.Schemas LibSeek.Services LibSeek.Workers

/-! ### The schema of a candidate -/

/-- `[a-z0-9]`. -/
def isLowerAlnum (c : Char) : Bool :=
  c.isLower || c.isDigit

/-- `[A-Za-z0-9]`. -/
def isAsciiAlnum (c : Char) : Bool :=
  c.isAlpha || c.isDigit

/-- `SiteId`: `[a-z0-9](?:[a-z0-9-]{0,22}[a-z0-9])?`. -/
def isSiteId (value : String) : Bool :=
  1 ≤ value.toList.length && value.toList.length ≤ 24 &&
    value.toList.all (fun c => isLowerAlnum c || c == '-') &&
    value.toList.head?.all isLowerAlnum && value.toList.getLast?.all isLowerAlnum

/-- `[A-Za-z0-9][A-Za-z0-9._~-]{0,127}`, of a list of characters. -/
def isTorrentIdList : List Char → Bool
  | [] => false
  | c :: cs =>
      isAsciiAlnum c && cs.length ≤ 127 &&
        cs.all fun c => isAsciiAlnum c || c == '.' || c == '_' || c == '~' || c == '-'

/-- The pattern of `torrent_id`. -/
def isTorrentId (value : String) : Bool :=
  isTorrentIdList value.toList

/-- `[a-z0-9][a-z0-9-]{0,23}`. -/
def isRefSite : List Char → Bool
  | [] => false
  | c :: cs => isLowerAlnum c && cs.length ≤ 23 && cs.all fun c => isLowerAlnum c || c == '-'

/-- `[a-z0-9][a-z0-9_-]{0,49}`. -/
def isRefKind : List Char → Bool
  | [] => false
  | c :: cs =>
      isLowerAlnum c && cs.length ≤ 49 && cs.all fun c => isLowerAlnum c || c == '_' || c == '-'

/-- The pattern of `details_ref`, with its lengths. -/
def isDetailsRef (value : String) : Bool :=
  5 ≤ value.toList.length && value.toList.length ≤ 180 &&
    match value.toList.splitOn ':' with
    | [site, kind, id] => isRefSite site && isRefKind kind && isTorrentIdList id
    | _ => false

/-- **The checks of `TorrentCandidate`** on the fields that are kept of it; that the sizes and the
counts are not negative is in their types. -/
structure TorrentCandidateValid (candidate : TorrentCandidate) : Prop where
  siteId : isSiteId candidate.siteId = true
  torrentId : isTorrentId candidate.torrentId = true
  detailsRef : isDetailsRef candidate.detailsRef = true
  details_ref_must_match_site : startswith candidate.detailsRef (candidate.siteId ++ ":") = true
  year : ∀ year ∈ candidate.year, 1870 ≤ year ∧ year ≤ 2200
  downloadFactor : ∀ factor ∈ candidate.downloadFactor, 0 ≤ factor
  uploadFactor : ∀ factor ∈ candidate.uploadFactor, 0 ≤ factor
  matchScore : ∀ score ∈ candidate.matchScore, 0 ≤ score ∧ score ≤ 1

instance (candidate : TorrentCandidate) : Decidable (TorrentCandidateValid candidate) :=
  decidable_of_iff
    (isSiteId candidate.siteId = true ∧ isTorrentId candidate.torrentId = true ∧
      isDetailsRef candidate.detailsRef = true ∧
      startswith candidate.detailsRef (candidate.siteId ++ ":") = true ∧
      (∀ year ∈ candidate.year, 1870 ≤ year ∧ year ≤ 2200) ∧
      (∀ factor ∈ candidate.downloadFactor, 0 ≤ factor) ∧
      (∀ factor ∈ candidate.uploadFactor, 0 ≤ factor) ∧
      ∀ score ∈ candidate.matchScore, 0 ≤ score ∧ score ≤ 1)
    ⟨fun ⟨h₁, h₂, h₃, h₄, h₅, h₆, h₇, h₈⟩ => ⟨h₁, h₂, h₃, h₄, h₅, h₆, h₇, h₈⟩,
      fun h => ⟨h.siteId, h.torrentId, h.detailsRef, h.details_ref_must_match_site, h.year,
        h.downloadFactor, h.uploadFactor, h.matchScore⟩⟩

/-! ### What the schema of the snapshot asks -/

/-- `[0-9a-fA-F]`. -/
def isHexDigit (c : Char) : Bool :=
  ('0' ≤ c && c ≤ '9') || ('a' ≤ c && c ≤ 'f') || ('A' ≤ c && c ≤ 'F')

/-- `[0-9a-fA-F]{40}(?:[0-9a-fA-F]{24})?`. -/
def isHash (value : String) : Bool :=
  (value.toList.length = 40 || value.toList.length = 64) && value.toList.all isHexDigit

/-- The code of the lower case of a character. -/
theorem toNat_toLower (c : Char) :
    c.toLower.toNat = if 65 ≤ c.toNat ∧ c.toNat ≤ 90 then c.toNat + 32 else c.toNat := by
  unfold Char.toLower
  by_cases h : 65 ≤ c.toNat ∧ c.toNat ≤ 90
  · have hupper : c.val ≥ 'A'.val ∧ c.val ≤ 'Z'.val := h
    rw [dif_pos hupper, if_pos h]
    have hsum : (c.val + ('a'.val - 'A'.val)).toNat = c.val.toNat + 32 := by
      have hle : c.val.toNat ≤ 90 := h.2
      have hgap : ('a'.val - 'A'.val).toNat = 32 := rfl
      rw [UInt32.toNat_add]
      omega
    exact hsum
  · have hupper : ¬ (c.val ≥ 'A'.val ∧ c.val ≤ 'Z'.val) := h
    rw [dif_neg hupper, if_neg h]

/-- A character is a digit of either case where its lower case is a small one. -/
theorem isHexDigit_iff (c : Char) :
    (('0' ≤ c.toLower && c.toLower ≤ '9') || ('a' ≤ c.toLower && c.toLower ≤ 'f')) =
      isHexDigit c := by
  rw [Bool.eq_iff_iff, isHexDigit]
  have h := toNat_toLower c
  simp only [Char.toNat] at h
  have h0 : '0'.val.toNat = 48 := rfl
  have h9 : '9'.val.toNat = 57 := rfl
  have ha : 'a'.val.toNat = 97 := rfl
  have hf : 'f'.val.toNat = 102 := rfl
  have hA : 'A'.val.toNat = 65 := rfl
  have hF : 'F'.val.toNat = 70 := rfl
  simp only [Bool.or_eq_true, Bool.and_eq_true, decide_eq_true_eq, Char.le_def,
    UInt32.le_iff_toNat_le]
  split at h <;> omega

/-- A text has a number of small digits once it is in lower case. -/
theorem isHex_lowerHex (n : ℕ) (value : String) :
    Digest.isHex n (lowerHex value) =
      (value.toList.length == n && value.toList.all isHexDigit) := by
  rw [Digest.isHex, lowerHex, String.toList_ofList, List.length_map, List.all_map]
  congr 2
  funext c
  exact isHexDigit_iff c

/-- **When the info hash is accepted.** -/
theorem infoHashIsValid_isSome (value : String) :
    (infoHashIsValid value).isSome = isHash value := by
  have hshape : isInfoHash (lowerHex value) = isHash value := by
    rw [isInfoHash, isHex_lowerHex, isHex_lowerHex, isHash]
    cases value.toList.all isHexDigit <;> simp [Bool.beq_eq_decide_eq]
  unfold infoHashIsValid
  split
  · next h => rw [← hshape, h]; rfl
  · next h => rw [← hshape, Bool.eq_false_iff.mpr h]; rfl

/-- The hash of the snapshot, where there is one or none. -/
theorem snapshotInfoHash_isSome_iff (value : Option String) :
    (∃ hash, snapshotInfoHash value = some hash) ↔ ∀ text ∈ value, isHash text = true := by
  cases value with
  | none => simp [snapshotInfoHash]
  | some text =>
      rw [← Option.isSome_iff_exists, snapshotInfoHash, Option.isSome_map, infoHashIsValid_isSome]
      simp

/-- The season of the snapshot, where there is one or none. -/
theorem snapshotSeason_isSome_iff (value : Option Int) :
    (∃ season, snapshotSeason value = some season) ↔ ∀ n ∈ value, 0 ≤ n := by
  cases value with
  | none => simp [snapshotSeason]
  | some n =>
      by_cases hn : 0 ≤ n
      · simp [snapshotSeason, hn]
      · simp [snapshotSeason, hn]

/-! ### What it asks and the schema of a candidate has checked -/

theorem isLetterIgnoreCase_of_isAlpha {c : Char} (h : c.isAlpha = true) :
    isLetterIgnoreCase c = true := by
  simp [isLetterIgnoreCase, h]

theorem letter_or_digit_of_isAsciiAlnum {c : Char} (h : isAsciiAlnum c = true) :
    isLetterIgnoreCase c = true ∨ c.isDigit = true :=
  (Bool.or_eq_true_iff.mp h).imp isLetterIgnoreCase_of_isAlpha id

theorem isAsciiAlnum_of_isLowerAlnum {c : Char} (h : isLowerAlnum c = true) :
    isAsciiAlnum c = true := by
  rcases Bool.or_eq_true_iff.mp h with hlower | hdigit
  · simp [isAsciiAlnum, Char.isAlpha, hlower]
  · simp [isAsciiAlnum, hdigit]

/-- The kind of a reference is a name of one. -/
theorem isReferenceName_of_isRefKind {cs : List Char} (h : isRefKind cs = true) :
    isReferenceName cs = true := by
  cases cs with
  | nil => exact h
  | cons c cs =>
      simp only [isRefKind, Bool.and_eq_true, decide_eq_true_eq, List.all_eq_true] at h
      obtain ⟨⟨hhead, hlength⟩, htail⟩ := h
      have hchar : ∀ d, isLowerAlnum d = true → isLetterIgnoreCase d = true ∨ d.isDigit = true :=
        fun d hd => letter_or_digit_of_isAsciiAlnum (isAsciiAlnum_of_isLowerAlnum hd)
      simp only [isReferenceName, Bool.and_eq_true, Bool.or_eq_true, decide_eq_true_eq,
        List.all_eq_true]
      refine ⟨⟨hchar c hhead, hlength⟩, fun d hd => ?_⟩
      have hd' := htail d hd
      simp only [Bool.or_eq_true] at hd'
      rcases hd' with (halnum | hlow) | hdash
      · exact Or.inl (Or.inl (hchar d halnum))
      · exact Or.inl (Or.inr hlow)
      · exact Or.inr hdash

/-- The site of a reference is a name of one. -/
theorem isReferenceName_of_isRefSite {cs : List Char} (h : isRefSite cs = true) :
    isReferenceName cs = true := by
  refine isReferenceName_of_isRefKind ?_
  cases cs with
  | nil => exact h
  | cons c cs =>
      simp only [isRefSite, Bool.and_eq_true, decide_eq_true_eq, List.all_eq_true] at h
      obtain ⟨⟨hhead, hlength⟩, htail⟩ := h
      simp only [isRefKind, Bool.and_eq_true, decide_eq_true_eq, List.all_eq_true]
      refine ⟨⟨hhead, by omega⟩, fun d hd => ?_⟩
      have hd' := htail d hd
      simp only [Bool.or_eq_true] at hd' ⊢
      exact hd'.imp Or.inl id

/-- The identifier of a reference. -/
theorem isReferenceId_of_isTorrentIdList {cs : List Char} (h : isTorrentIdList cs = true) :
    isReferenceId cs = true := by
  cases cs with
  | nil => cases h
  | cons c cs =>
      simp only [isTorrentIdList, Bool.and_eq_true, decide_eq_true_eq, List.all_eq_true] at h
      obtain ⟨⟨hhead, hlength⟩, htail⟩ := h
      simp only [isReferenceId, Bool.and_eq_true, decide_eq_true_eq, List.all_eq_true,
        List.length_cons, Bool.or_eq_true]
      refine ⟨⟨by omega, by omega⟩, fun d hd => ?_⟩
      have hd' : isAsciiAlnum d = true ∨ d = '.' ∨ d = '_' ∨ d = '~' ∨ d = '-' := by
        rcases List.mem_cons.mp hd with rfl | hd
        · exact Or.inl hhead
        · simpa [or_assoc] using htail d hd
      rcases hd' with halnum | rfl | rfl | rfl | rfl
      · rcases letter_or_digit_of_isAsciiAlnum halnum with hletter | hdigit
        · simp [hletter]
        · simp [hdigit]
      all_goals decide

/-- **A reference of a candidate is an internal one.** -/
theorem validateInternalTorrentRef_of_isDetailsRef {value : String}
    (h : isDetailsRef value = true) : validateInternalTorrentRef value = true := by
  simp only [isDetailsRef, Bool.and_eq_true, decide_eq_true_eq] at h
  obtain ⟨⟨-, hlength⟩, hparts⟩ := h
  simp only [validateInternalTorrentRef, Bool.and_eq_true, decide_eq_true_eq]
  refine ⟨hlength, ?_⟩
  obtain ⟨site, kind, id, hsplit⟩ : ∃ site kind id, value.toList.splitOn ':' = [site, kind, id] := by
    split at hparts
    · next site kind id hsplit => exact ⟨site, kind, id, hsplit⟩
    · cases hparts
  rw [hsplit] at hparts ⊢
  simp only [Bool.and_eq_true] at hparts ⊢
  exact ⟨⟨isReferenceName_of_isRefSite hparts.1.1, isReferenceName_of_isRefKind hparts.1.2⟩,
    isReferenceId_of_isTorrentIdList hparts.2⟩

/-- A text that begins with another does so once both are case folded. -/
theorem startswith_casefold [Python] {s p : String} (h : startswith s p = true) :
    startswith (casefold s) (casefold p) = true := by
  obtain ⟨rest, hrest⟩ := List.isPrefixOf_iff_prefix.mp h
  refine List.isPrefixOf_iff_prefix.mpr ⟨rest.flatMap Python.casefoldChar, ?_⟩
  simp only [casefold, String.toList_ofList]
  rw [← List.flatMap_append, hrest]

/-- **A reference that names its site** still does up to case. -/
theorem torrentRefMatchesSite_of_startswith [Python] (hcolon : Python.casefoldChar ':' = [':'])
    {torrentRef siteId : String} (h : startswith torrentRef (siteId ++ ":") = true) :
    torrentRefMatchesSite torrentRef siteId = true := by
  have hfold : casefold (siteId ++ ":") = casefold siteId ++ ":" := by
    have hlist : (siteId ++ ":").toList = siteId.toList ++ [':'] := String.toList_append
    rw [casefold, casefold, hlist, List.flatMap_append, List.flatMap_singleton, hcolon,
      String.ofList_append]
  rw [torrentRefMatchesSite, ← hfold]
  exact startswith_casefold h

/-! ### The snapshot of a stored candidate -/

/-- **When the snapshot of a candidate is accepted**: of a candidate that has passed its own schema,
with a score between 0 and 1, where its info hash is one and its season is not negative. -/
theorem candidateSnapshotOf_isSome_iff [Python] (hcolon : Python.casefoldChar ':' = [':'])
    (candidateId : String) (media : Services.MediaItem) {record : Services.TorrentCandidateRecord}
    {candidate : TorrentCandidate} (hvalid : TorrentCandidateValid candidate)
    (hscore : 0 ≤ record.matchScore ∧ record.matchScore ≤ 1) (requestedAt expiresAt : DateTime) :
    (∃ snapshot, candidateSnapshotOf candidateId media record candidate requestedAt expiresAt =
        some snapshot) ↔
      (∀ text ∈ candidate.infoHash, isHash text = true) ∧ ∀ n ∈ candidate.season, 0 ≤ n := by
  have hscored : ∀ score, (candidate.matchScore.filter (· ≠ 0)).getD record.matchScore = score →
      0 ≤ score ∧ score ≤ 1 := by
    rintro _ rfl
    cases hfilter : candidate.matchScore.filter (· ≠ 0) with
    | none => exact hscore
    | some score => exact hvalid.matchScore score (Option.filter_eq_some_iff.mp hfilter).1
  have hfactor : ∀ factor : Option Rat, (∀ q ∈ factor, 0 ≤ q) →
      factor.all (fun q => decide (0 ≤ q)) = true := by
    intro factor hnonneg
    cases factor with
    | none => rfl
    | some q => exact decide_eq_true (hnonneg q rfl)
  rw [← snapshotInfoHash_isSome_iff, ← snapshotSeason_isSome_iff]
  constructor
  · rintro ⟨snapshot, hsnapshot⟩
    simp only [candidateSnapshotOf, Option.bind_eq_bind, Option.bind_eq_some_iff] at hsnapshot
    obtain ⟨infoHash, hinfo, season, hseason, -⟩ := hsnapshot
    exact ⟨⟨infoHash, hinfo⟩, season, hseason⟩
  · rintro ⟨⟨infoHash, hinfo⟩, season, hseason⟩
    simp only [candidateSnapshotOf, hinfo, hseason, Option.bind_eq_bind, Option.bind_some]
    refine ⟨_, if_pos ?_⟩
    simp only [ApprovalCandidateSnapshot.valid, Bool.and_eq_true, decide_eq_true_eq]
    exact ⟨⟨⟨⟨⟨validateInternalTorrentRef_of_isDetailsRef hvalid.detailsRef,
      torrentRefMatchesSite_of_startswith hcolon hvalid.details_ref_must_match_site⟩,
      hfactor _ hvalid.downloadFactor⟩, hfactor _ hvalid.uploadFactor⟩, (hscored _ rfl).1⟩,
      (hscored _ rfl).2⟩

/-- What is read again of a stored row: the candidate, once its schema accepts it. -/
def storedRow (record : Models.TorrentCandidateRecord) : Services.TorrentCandidateRecord where
  candidateSnapshot :=
    if TorrentCandidateValid record.candidateSnapshot then some record.candidateSnapshot else none
  matchScore := record.matchScore
  matchReasons := record.matchReasons
  warnings := record.warnings

/-! ### The creation of an approval -/

/-- **A creation succeeds, or raises an error of the services.** -/
def Contained {α : Type} (creation : DbTx α) (db : Db) : Prop :=
  Tx.wp creation (fun _ _ => True) (fun e _ => ∃ error, e = .app error) db

/-- What the database promises of a new identifier, and by the index of the active requests. -/
structure Promised (db : Db) (candidateId : String) (newId : Uuid) : Prop where
  fresh : db.approvals.get? newId.text = none
  active : ∀ a ∈ db.approvals, ∀ b ∈ db.approvals, a.torrentCandidateId = candidateId →
    b.torrentCandidateId = candidateId → a.status.isActive = true → b.status.isActive = true →
      a.id = b.id

/-- No request of the candidate is active. -/
theorem activeApproval_eq_none {s : Tables} {candidateId : String}
    (h : ∀ a ∈ s.approvals, a.torrentCandidateId = candidateId → a.status.isActive = false) :
    activeApproval s candidateId = none := by
  refine List.find?_eq_none.mpr fun a ha hactive => ?_
  obtain ⟨hcandidate, hstatus⟩ := of_decide_eq_true hactive
  rw [h a (Table.mem_rows.mp ha) hcandidate] at hstatus
  cases hstatus

/-- **The way past an active request**: an error of the services, or none is active any more. -/
theorem wp_expireActiveApproval_promised {db : Db} {candidateId : String} {newId : Uuid}
    (h : Promised db candidateId newId) (now : DateTime) :
    Tx.wp (expireActiveApproval (activeApproval db.toTables candidateId) now)
      (fun _ db' => db'.approvals.get? newId.text = none ∧
        activeApproval db'.toTables candidateId = none)
      (fun e _ => ∃ error, e = .app error) db := by
  cases hactive : activeApproval db.toTables candidateId with
  | none => exact ⟨h.fresh, hactive⟩
  | some existing =>
      obtain ⟨hmem, hcandidate, hstatus⟩ := ControlPlane.activeApproval_some hactive
      simp only [expireActiveApproval, transition, saveApproval, addEvent, addApprovalEvent,
        Tx.wp_bind, wp_requireApp, Tx.wp_modify, Tx.wp_pure]
      refine ⟨fun _ => ⟨fun _ => ⟨?_, ?_⟩, fun _ => ⟨_, rfl⟩⟩, fun _ => ⟨_, rfl⟩⟩
      · have hother : newId.text ≠ existing.id :=
          fun heq => Table.get?_eq_none.mp h.fresh existing hmem heq.symm
        exact (Table.get?_save_of_ne _ hother).trans h.fresh
      · refine activeApproval_eq_none fun a ha hsame => ?_
        rcases Table.mem_save.mp ha with rfl | ⟨hold, hne⟩
        · rfl
        · refine Bool.eq_false_iff.mpr fun ha => hne ?_
          exact h.active a hold existing hmem hsame hcandidate ha hstatus

section Creation

variable [WorkflowRuntime]

/-- A score leaves what the schema has checked as it is. -/
theorem valid_scoreTorrentCandidate (metadata : MetadataRecord) {candidate : TorrentCandidate}
    (hvalid : TorrentCandidateValid candidate) (missingEpisodes : Option (List String))
    (preferences : MatchPreferences) :
    TorrentCandidateValid
      (scoreTorrentCandidate metadata candidate missingEpisodes preferences).candidate := by
  obtain ⟨score, hscore, hrange⟩ := score_range metadata candidate missingEpisodes preferences
  exact
    { siteId := hvalid.siteId
      torrentId := hvalid.torrentId
      detailsRef := hvalid.detailsRef
      details_ref_must_match_site := hvalid.details_ref_must_match_site
      year := hvalid.year
      downloadFactor := hvalid.downloadFactor
      uploadFactor := hvalid.uploadFactor
      matchScore := fun other hother => Option.mem_unique hscore hother ▸ hrange }

/-- The row of a scored candidate: its score is between 0 and 1. -/
theorem candidateRecord_score (metadata : MetadataRecord) (candidate : TorrentCandidate)
    (missingEpisodes : Option (List String)) (preferences : MatchPreferences)
    (run : Models.TorrentSearchRun) (rowId : Uuid) (storedAt : DateTime) :
    let record := candidateRecord run rowId storedAt
      (scoreTorrentCandidate metadata candidate missingEpisodes preferences)
    0 ≤ record.matchScore ∧ record.matchScore ≤ 1 := by
  obtain ⟨score, hscore, hrange⟩ := score_range metadata candidate missingEpisodes preferences
  have hstored : (scoreTorrentCandidate metadata candidate missingEpisodes
      preferences).candidate.matchScore = some score := hscore
  simp only [candidateRecord, hstored, Option.getD_some]
  exact hrange

/-- **When nothing but an error of the services leaves a creation**, whatever the request, the
settings and the other rows: for a candidate of a site that was scored and stored, where its info
hash has 40 or 64 hexadecimal digits and its season is not negative. -/
theorem createApprovalRequest_contained_iff (hcolon : Python.casefoldChar ':' = [':'])
    (metadata : MetadataRecord) (missingEpisodes : Option (List String))
    (preferences : MatchPreferences) (run : Models.TorrentSearchRun) (rowId : Uuid)
    (storedAt : DateTime) {candidate : TorrentCandidate}
    (hvalid : TorrentCandidateValid candidate) :
    let record := candidateRecord run rowId storedAt
      (scoreTorrentCandidate metadata candidate missingEpisodes preferences)
    (∀ (media : Option Services.MediaItem) (request : ApprovalCreateRequest) (settings : Settings)
        (actor : String) (newId : Uuid) (now : DateTime) (db : Db), Promised db record.id newId →
      Contained (createApprovalRequest record.id ⟨some (storedRow record), media⟩ request settings
        actor newId now) db) ↔
      (∀ text ∈ candidate.infoHash, isHash text = true) ∧ ∀ n ∈ candidate.season, 0 ≤ n := by
  intro record
  have hscored : TorrentCandidateValid record.candidateSnapshot :=
    valid_scoreTorrentCandidate metadata hvalid missingEpisodes preferences
  have hrow : (storedRow record).candidateSnapshot = some record.candidateSnapshot :=
    if_pos hscored
  have hscore : 0 ≤ (storedRow record).matchScore ∧ (storedRow record).matchScore ≤ 1 :=
    candidateRecord_score metadata candidate missingEpisodes preferences run rowId storedAt
  have hiff := fun media requestedAt expiresAt =>
    candidateSnapshotOf_isSome_iff hcolon record.id media hscored hscore requestedAt expiresAt
  constructor
  · intro h
    -- Nothing but the snapshot can go wrong where there is no other request.
    have hempty := h (some ⟨"media-1", "Media", .movie, none, none⟩) {} {} "operator"
      rowId 0 {} ⟨rfl, fun a ha => absurd ha (Table.notMem_empty a)⟩
    refine (hiff ⟨"media-1", "Media", .movie, none, none⟩ 0 (0 + minutes 60)).mp ?_
    by_contra hnone
    have hfails : candidateSnapshotOf record.id ⟨"media-1", "Media", .movie, none, none⟩
        (storedRow record) record.candidateSnapshot 0 (0 + minutes 60) = none := by
      rw [← Option.not_isSome_iff_eq_none, Option.isSome_iff_exists]
      exact hnone
    have hinactive : activeApproval ({} : Db).toTables record.id = none := rfl
    simp only [Contained, createApprovalRequest, Tx.wp_bind, Tx.wp_ofOption, Tx.wp_get, hinactive,
      expireActiveApproval, Tx.wp_pure, wp_requireApp] at hempty
    have hchecked := ((hempty.1 _ rfl).1 _ rfl).1 (by decide)
    obtain ⟨error, herror⟩ := (hchecked.1 _ hrow).2 hfails
    cases herror
  · intro hfields media request settings actor newId now db hpromised
    simp only [Contained, createApprovalRequest, Tx.wp_bind, Tx.wp_ofOption, Tx.wp_get]
    refine ⟨fun row hstored => ⟨fun item _ => ?_, fun _ => ⟨_, rfl⟩⟩, fun _ => ⟨_, rfl⟩⟩
    cases hstored
    refine Tx.wp_mono (wp_expireActiveApproval_promised hpromised now) ?_ fun _ _ h => h
    rintro _ db' hfree
    simp only [wp_requireApp, insertApproval, saveApproval, addEvent, addApprovalEvent, Tx.wp_bind,
      Tx.wp_get, Tx.wp_require, Tx.wp_modify, Tx.wp_pure]
    refine ⟨fun _ => ⟨fun stored hread => ⟨fun _ _ => ⟨fun _ => trivial, fun hnot => ?_⟩,
      fun hfails => ?_⟩, fun hmissing => ?_⟩, fun _ => ⟨_, rfl⟩⟩
    · exact absurd hfree hnot
    · rw [hrow] at hread
      obtain rfl := Option.some.inj hread
      obtain ⟨snapshot, hsnapshot⟩ := (hiff item now
        (now + minutes (orDefault request.expiresInMinutes settings.approvalDefaultTtlMinutes))).mpr
          hfields
      rw [hfails] at hsnapshot
      cases hsnapshot
    · rw [hrow] at hmissing
      cases hmissing

end Creation

/-! ### A candidate without a hash -/

/-- An episode as a site lists it, with the text that it has in the place of the info hash. -/
def listedEpisode (infoHash : String) : TorrentCandidate :=
  { sampleEpisode with
    torrentId := "70"
    detailsRef := "avistaz:details:5f70bf18a086007016e948b04aed3b82"
    infoHash := some infoHash }

/-- The row of the episode once it is scored. -/
def listedRow (infoHash : String) : Models.TorrentCandidateRecord :=
  candidateRecord seriesSearch (sampleUuid 1) 0
    (@scoreTorrentCandidate asciiWorkflow seriesRecord (listedEpisode infoHash) none
      samplePreferences)

/-- An approval is created for it. -/
def createListed (infoHash : String) : DbTx ApprovalRequest :=
  @createApprovalRequest asciiWorkflow.toPython (listedRow infoHash).id
    ⟨some (storedRow (listedRow infoHash)), some ⟨"media-1", "Media", .tv, some 43, none⟩⟩ {} {}
    "operator" (sampleUuid 2) 0

/-- Nothing but an error of the services leaves the creation for an episode with a hash. -/
theorem createApprovalRequest_contained_hashed :
    Contained (createListed "0123456789abcdef0123456789ABCDEF01234567") {} := by
  let _ := asciiWorkflow
  have hvalid : TorrentCandidateValid (listedEpisode "0123456789abcdef0123456789ABCDEF01234567") :=
    by decide +kernel
  refine (createApprovalRequest_contained_iff rfl seriesRecord none samplePreferences seriesSearch
    (sampleUuid 1) 0 hvalid).mpr ⟨?_, ?_⟩ _ _ _ _ _ _ _ ⟨rfl, ?_⟩
  · decide +kernel
  · decide +kernel
  · intro a ha
    exact absurd ha (Table.notMem_empty a)

/-- The site writes that the hash is not available, and a validation error leaves the creation. -/
theorem unhashed_candidate_escapes :
    TorrentCandidateValid (listedEpisode "n/a") ∧ ¬ Contained (createListed "n/a") {} := by
  refine ⟨by decide +kernel, fun h => ?_⟩
  have hrun : ((createListed "n/a").run {}).1 = .error (.other "ValidationError") := by
    decide +kernel
  obtain ⟨error, herror⟩ := h.error (Prod.ext hrun rfl)
  cases herror

end LibSeek.Workflow
