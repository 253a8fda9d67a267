/-
The documents of a media import.

An import request proposes which files of a finished download are to be put where in a library; a
trusted inspection of the file systems reports what is there.  The proposal, the inspection, the
summary of the download and the result of a pre-flight are documents that are stored with their
digests and validated whenever they are read.

Main definitions:

* `Schemas.UnicodeData` — the parts of the Unicode database that the validators consult;
* `Schemas.validateNormalizedRelativePath`, `Schemas.uniquePaths` — the rules of paths;
* `Schemas.MediaImportSourceManifest`, `Schemas.MediaImportTargetMapping` — the proposal;
* `Schemas.MediaImportInspectionSnapshot` — the inspection;
* `Schemas.MediaImportJobSummarySnapshot`, `Schemas.MediaImportPreflightResult` — the summary of
  the download, and the result of a pre-flight.
-/

import LibSeek.Core.Ascii
import LibSeek.Core.Security
import LibSeek.Core.Settings
import Mathlib.Data.List.Sort

set_option relaxedAutoImplicit false
set_option autoImplicit false

namespace LibSeek.Schemas

open LibSeek.Core LibSeek.Lib

/-! ### Enumerations -/

inductive MediaImportStatus where
  | preflightRequired | reviewRequired | approvedPlanOnly | rejected | revoked
  deriving DecidableEq, Repr

inductive MediaImportOperation where
  | hardlink | copy
  deriving DecidableEq, Repr

/-! ### Texts and paths -/

def MAX_MEDIA_IMPORT_FILES : ℕ := 20000
def MAX_MEDIA_IMPORT_PATH_LENGTH : ℕ := 4096
def MAX_MEDIA_IMPORT_AGGREGATE_PATH_BYTES : ℕ := 4 * 1024 * 1024
def MAX_MEDIA_IMPORT_REASON_LENGTH : ℕ := 500
def MEDIA_IMPORT_PLAN_MODE : String := "PLAN_ONLY_NO_FILE_OPERATION"

/-- The runtime with what the validators of paths consult of the Unicode database. -/
class UnicodeData extends Python where
  /-- `unicodedata.normalize("NFC", …)`. -/
  nfc : String → String
  /-- `unicodedata.normalize("NFKC", …)`. -/
  nfkc : String → String
  /-- Whether the category of a code point is `Cc` or `Cf`. -/
  isControlOrFormat : Char → Bool

/-- The Unicode database, for texts of printable ASCII characters. -/
@[reducible] def asciiUnicode : UnicodeData where
  toPython := asciiPython
  nfc value := value
  nfkc value := value
  isControlOrFormat c := c.toNat < 32 || c.toNat = 127

/-- The names of devices, which no segment of a path may have before its first dot. -/
def windowsReserved : List String :=
  ["con", "prn", "aux", "nul"] ++
    (["1", "2", "3", "4", "5", "6", "7", "8", "9"].flatMap fun n => ["com" ++ n, "lpt" ++ n])

/-- `validate_internal_root_ref`: `^[A-Za-z0-9][A-Za-z0-9._:-]{0,179}$`. -/
def validateInternalRootRef (value : String) : Bool :=
  match value.toList with
  | [] => false
  | c :: cs =>
      c.isAlphanum && cs.length ≤ 179 &&
        cs.all fun c => c.isAlphanum || c == '.' || c == '_' || c == ':' || c == '-'

/-- Whether a path begins with a drive letter and a colon. -/
def hasDrive (value : String) : Bool :=
  match value.toList with
  | letter :: ':' :: _ => letter.isAlpha
  | _ => false

/-- The segments of a path. -/
def segments (value : String) : List String :=
  (value.toList.splitOn '/').map String.ofList

section Paths

variable [UnicodeData]

/-- The rules of a segment of a path. -/
def validSegment (part : String) : Bool :=
  part ≠ "" && part ≠ "." && part ≠ ".." && part.toList.getLast? ≠ some ' ' &&
    part.toList.getLast? ≠ some '.' && !containsChar part ':' &&
    casefold (String.ofList (part.toList.takeWhile (· ≠ '.'))) ∉ windowsReserved

/-- `validate_normalized_relative_path`. -/
def validateNormalizedRelativePath (value : String) : Bool :=
  value ≠ "" && value.toList.length ≤ MAX_MEDIA_IMPORT_PATH_LENGTH && strip value = value &&
    UnicodeData.nfc value = value && !startswith value "/" && !startswith value "\\" &&
    !hasDrive value && !containsChar value '\\' &&
    !value.toList.any UnicodeData.isControlOrFormat && (segments value).all validSegment

/-- `path_collision_key`. -/
def pathCollisionKey (value : String) : String :=
  casefold (UnicodeData.nfkc value)

/-- Whether a list of segments begins with another, shorter one. -/
def isProperPrefix (parent child : List String) : Bool :=
  parent.length < child.length && parent.isPrefixOf child

/-- Whether a path of a list is a directory of the next one. -/
def prefixCollision : List (List String) → Bool
  | parent :: child :: rest => isProperPrefix parent child || prefixCollision (child :: rest)
  | _ => false

/-- `_validate_unique_paths`. -/
def uniquePaths (paths : List String) (rejectPrefixCollisions : Bool) : Bool :=
  let keys := paths.map pathCollisionKey
  paths.Nodup && keys.Nodup &&
    (!rejectPrefixCollisions ||
      !prefixCollision ((keys.map segments).insertionSort fun a b => ¬ b < a))

omit [UnicodeData] in
/-- `_validate_aggregate_path_bytes`. -/
def aggregatePathBytes (paths : List String) : Bool :=
  (paths.map String.utf8ByteSize).sum ≤ MAX_MEDIA_IMPORT_AGGREGATE_PATH_BYTES

/-- A list of paths that is accepted as the files below one root. -/
def validPaths (paths : List String) : Bool :=
  1 ≤ paths.length && paths.length ≤ MAX_MEDIA_IMPORT_FILES &&
    paths.all validateNormalizedRelativePath && aggregatePathBytes paths && uniquePaths paths true

theorem nodup_of_validPaths {paths : List String} (h : validPaths paths = true) :
    paths.Nodup := by
  simp only [validPaths, uniquePaths, Bool.and_eq_true, decide_eq_true_eq] at h
  exact h.2.1.1

/-- `normalize_media_import_reason`; nothing where it raises `ValueError`. -/
def normalizeMediaImportReason (value : Option String) : Option (Option String) :=
  match value with
  | none => some none
  | some text =>
      if text.toList.any UnicodeData.isControlOrFormat then none
      else if strip text = "" then some none
      else
        let sanitized := sanitizePublicText (strip text)
        if MAX_MEDIA_IMPORT_REASON_LENGTH < sanitized.toList.length then none
        else some (some sanitized)

/-! ### The proposal -/

omit [UnicodeData] in
structure MediaImportManifestFile where
  relativePath : String
  sizeBytes : ℕ
  deriving DecidableEq, Repr

omit [UnicodeData] in
structure MediaImportSourceManifest where
  sourceRootRef : String
  files : List MediaImportManifestFile
  deriving DecidableEq, Repr

/-- The validators of a source manifest. -/
def MediaImportSourceManifest.valid (m : MediaImportSourceManifest) : Bool :=
  validateInternalRootRef m.sourceRootRef &&
    validPaths (m.files.map MediaImportManifestFile.relativePath)

omit [UnicodeData] in
structure MediaImportTargetEntry where
  sourceRelativePath : String
  targetRelativePath : String
  deriving DecidableEq, Repr

omit [UnicodeData] in
/-- `MediaImportTargetMapping`, whose files are always retained at the source and never
overwritten at the target. -/
structure MediaImportTargetMapping where
  targetRootRef : String
  files : List MediaImportTargetEntry
  deriving DecidableEq, Repr

/-- The validators of a target mapping. -/
def MediaImportTargetMapping.valid (m : MediaImportTargetMapping) : Bool :=
  validateInternalRootRef m.targetRootRef && 1 ≤ m.files.length &&
    m.files.length ≤ MAX_MEDIA_IMPORT_FILES &&
    m.files.all (fun f => validateNormalizedRelativePath f.sourceRelativePath &&
      validateNormalizedRelativePath f.targetRelativePath) &&
    aggregatePathBytes (m.files.flatMap fun f => [f.sourceRelativePath, f.targetRelativePath]) &&
    uniquePaths (m.files.map MediaImportTargetEntry.sourceRelativePath) false &&
    uniquePaths (m.files.map MediaImportTargetEntry.targetRelativePath) true

/-- `MediaImportCreateRequest`. -/
structure MediaImportCreateRequest where
  downloadJobId : String
  proposedOperation : MediaImportOperation
  sourceManifest : MediaImportSourceManifest
  targetMapping : MediaImportTargetMapping
  downloadJobId_length : 1 ≤ downloadJobId.toList.length ∧ downloadJobId.toList.length ≤ 36
  sourceManifest_valid : sourceManifest.valid = true
  targetMapping_valid : targetMapping.valid = true

/-! ### The summary of the download -/

omit [UnicodeData] in
structure MediaImportJobSummarySnapshot where
  downloadJobId : String
  mediaItemId : String
  executionId : String
  approvalId : String
  jobStatus : DownloadJobStatus
  progress : Rat
  infoHashV1 : Option String
  infoHashV2 : Option String
  sizeBytes : ℕ
  fileCount : ℕ
  completedAt : Option DateTime
  hnrStatus : HnrStatus
  mediaType : MediaType
  tmdbId : Option Int
  mediaTitle : String
  mediaYear : Option Int
  executionStatus : DownloadExecutionStatus
  actualInfoHashV1 : Option String
  actualInfoHashV2 : Option String
  actualSizeBytes : ℕ
  actualFileCount : ℕ
  verifiedAt : DateTime
  deriving DecidableEq, Repr

omit [UnicodeData] in
/-- The validators of a summary. -/
def MediaImportJobSummarySnapshot.valid (s : MediaImportJobSummarySnapshot) : Bool :=
  0 ≤ s.progress && s.progress ≤ 1 && s.infoHashV1.all (Digest.isHex 40) &&
    s.infoHashV2.all (Digest.isHex 64) && 1 ≤ s.sizeBytes && 1 ≤ s.fileCount &&
    s.tmdbId.all (1 ≤ ·) && 1 ≤ s.mediaTitle.toList.length &&
    s.mediaTitle.toList.length ≤ 500 && s.mediaYear.all (fun y => 1870 ≤ y && y ≤ 2200) &&
    s.actualInfoHashV1.all (Digest.isHex 40) && s.actualInfoHashV2.all (Digest.isHex 64) &&
    1 ≤ s.actualSizeBytes && 1 ≤ s.actualFileCount &&
    (s.infoHashV1.isSome || s.infoHashV2.isSome) &&
    (s.actualInfoHashV1.isSome || s.actualInfoHashV2.isSome)

/-! ### The inspection -/

omit [UnicodeData] in
structure MediaImportInspectedSourceFile where
  relativePath : String
  sizeBytes : ℕ
  «exists» : Bool
  isRegularFile : Bool
  isSymlink : Bool
  complete : Bool
  deriving DecidableEq, Repr

omit [UnicodeData] in
structure MediaImportInspectedTargetFile where
  relativePath : String
  «exists» : Bool
  deriving DecidableEq, Repr

omit [UnicodeData] in
structure MediaImportInspectionSnapshot where
  downloadJobId : String
  sourceRootRef : String
  targetRootRef : String
  infoHashV1 : Option String
  infoHashV2 : Option String
  sourceFiles : List MediaImportInspectedSourceFile
  targetFiles : List MediaImportInspectedTargetFile
  sameFilesystem : Option Bool
  availableBytes : Option ℕ
  inspectedAt : DateTime
  deriving DecidableEq, Repr

/-- The validators of an inspection. -/
def MediaImportInspectionSnapshot.valid (s : MediaImportInspectionSnapshot) : Bool :=
  1 ≤ s.downloadJobId.toList.length && s.downloadJobId.toList.length ≤ 36 &&
    validateInternalRootRef s.sourceRootRef && validateInternalRootRef s.targetRootRef &&
    s.infoHashV1.all (Digest.isHex 40) && s.infoHashV2.all (Digest.isHex 64) &&
    validPaths (s.sourceFiles.map MediaImportInspectedSourceFile.relativePath) &&
    validPaths (s.targetFiles.map MediaImportInspectedTargetFile.relativePath) &&
    (s.infoHashV1.isSome || s.infoHashV2.isSome)

end Paths

/-! ### The result of a pre-flight -/

structure MediaImportPreflightCheck where
  code : String
  status : PreflightStatus
  message : String
  deriving DecidableEq, Repr

/-- The document whose digest is the fingerprint of the configuration. -/
structure MediaImportConfigDocument where
  schemaVersion : ℕ
  planMode : String
  allowedOperations : List String
  targetRootRefs : List String
  sourceRetention : Bool
  overwriteAllowed : Bool
  preflightMaxAgeSeconds : Int
  deriving DecidableEq, Repr

structure MediaImportPreflightResult where
  overallStatus : PreflightStatus
  checkedAt : DateTime
  configFingerprint : Digest MediaImportConfigDocument
  checks : List MediaImportPreflightCheck
  deriving DecidableEq, Repr

/-- The pattern of the code of a check: `^[A-Z0-9_]{3,80}$`. -/
def isImportCheckCode (code : String) : Bool :=
  3 ≤ code.toList.length && code.toList.length ≤ 80 &&
    code.toList.all fun c => c.isUpper || c.isDigit || c == '_'

/-- The validators of a result. -/
def MediaImportPreflightResult.valid (r : MediaImportPreflightResult) : Bool :=
  r.configFingerprint.wellShaped && 1 ≤ r.checks.length && r.checks.length ≤ 50 &&
    r.checks.all fun c =>
      isImportCheckCode c.code && 1 ≤ c.message.toList.length && c.message.toList.length ≤ 300

/-! ### Decisions -/

/-- `MediaImportApproveRequest`. -/
structure MediaImportApproveRequest where
  acknowledgesPlanOnly : Bool := false
  acknowledgesSourceRetention : Bool := false
  acknowledgesNoOverwrite : Bool := false
  acknowledgesHnr : Bool := false
  deriving DecidableEq, Repr

/-- `MediaImportDecisionAcknowledgements`, in which all but the last acknowledgement are given. -/
structure MediaImportDecisionAcknowledgements where
  acknowledgesHnr : Bool
  deriving DecidableEq, Repr

/-- The settings of the media imports, with the bounds that their validation imposes. -/
structure MediaImportSettings where
  enableMediaImportControlPlane : Bool := false
  mediaImportTargetRootRefs : List String := []
  mediaImportPreflightMaxAgeSeconds : Int := 300
  maxAge_bounds : 30 ≤ mediaImportPreflightMaxAgeSeconds ∧
    mediaImportPreflightMaxAgeSeconds ≤ 3600 := by
      first | exact LibSeek.Core.defaultSeconds_bounds | decide

end LibSeek.Schemas
