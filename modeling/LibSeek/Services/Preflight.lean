/-
Pre-flight.

Before a request is approved, the downloader is read and twelve checks are made: on the
connection, on the versions, on the target category and path, on duplicates, and on the candidate
itself.  A check that cannot be made on what the site said of the candidate is *deferred*: it is a
warning, and its details say what it waits for.  The result carries the digest of the policy it
was made under, so that a change of the policy can be seen later.

Main definitions:

* `Services.preflightPolicyFingerprint`, `Services.requirePreflightPolicyCurrent` — the policy of
  the settings, and the comparison with an earlier one;
* `Services.sizeLimitCheck`, `Services.candidateSeedersCheck`, … — the checks;
* `Services.evaluatePreflight` — **the pre-flight**.

Main results:

* `Services.preflightPolicyFingerprint_ok` — what a fingerprint that could be computed is the
  digest of;
* `Services.codes_preflightChecks` — the twelve codes, in the order of the checks.
-/

import LibSeek.Core.Paths
import LibSeek.Schemas.Qbittorrent
import Mathlib.Data.List.Dedup
import Mathlib.Data.List.Sort
import Mathlib.Order.Basic
import Mathlib.Data.String.Basic

set_option relaxedAutoImplicit false
set_option autoImplicit false

namespace LibSeek.Services

open LibSeek.Core LibSeek.Lib LibSeek.Schemas

variable [Python]

def PREFLIGHT_CHECK_CODES : List String :=
  ["QB_CONNECTION", "QB_APP_VERSION", "QB_WEB_API_VERSION", "AVISTAZ_QB_VERSION_RULE",
    "TARGET_CATEGORY", "DUPLICATE_INFO_HASH", "POSSIBLE_DUPLICATE_RELEASE", "SAVE_PATH_ALLOWED",
    "SIZE_LIMIT", "ACTIVE_SEEDING", "CANDIDATE_SEEDERS", "HNR_KNOWN"]

def PREFLIGHT_RECENT_TORRENT_LIMIT : ℕ := 200

/-- `sorted` on texts. -/
def sorted (l : List String) : List String :=
  l.insertionSort (· ≤ ·)

/-! ### The policy fingerprint -/

/-- The error for an address of the downloader that the policy does not allow. -/
def targetConfigInvalid : AppError :=
  conflict "PREFLIGHT_TARGET_CONFIG_INVALID" "qBittorrent 预检目标地址不符合安全配置"

/-- The hosts allowed, stripped and case-folded. -/
def normalizedHosts (settings : Settings) : List String :=
  ((settings.qbAllowedHosts.filter fun h => !isBlank h).map fun h => casefold (strip h)).dedup

/-- The schemes allowed. -/
def allowedSchemes (settings : Settings) : List String :=
  if settings.qbAllowInsecureHttp then ["https", "http"] else ["https"]

/-- `_normalized_qb_base_url_for_policy`. -/
def normalizedQbBaseUrlForPolicy (settings : Settings) : Except AppError String :=
  match settings.qbBaseUrlValue with
  | none =>
      .error (conflict "PREFLIGHT_TARGET_CONFIG_UNAVAILABLE" "qBittorrent 预检目标配置无法读取")
  | some none =>
      .error (conflict "PREFLIGHT_TARGET_CONFIG_UNAVAILABLE" "qBittorrent 预检目标尚未配置")
  | some (some configuredUrl) =>
      if configuredUrl = "" then
        .error (conflict "PREFLIGHT_TARGET_CONFIG_UNAVAILABLE" "qBittorrent 预检目标尚未配置")
      else
        let rawUrl := strip configuredUrl
        match Python.urlsplit rawUrl with
        | none => .error targetConfigInvalid
        | some parsed =>
            match parsed.port with
            | none => .error targetConfigInvalid
            | some port =>
                let scheme := casefold parsed.scheme
                let host := casefold (parsed.hostname.getD "")
                if configuredUrl ≠ rawUrl ∨
                    rawUrl.toList.any (fun c => c.toNat < 33 || c.toNat == 127) ∨
                    scheme ∉ allowedSchemes settings ∨ host = "" ∨
                    host ∉ normalizedHosts settings ∨ parsed.username ≠ none ∨
                    parsed.password ≠ none ∨ parsed.query ≠ "" ∨ parsed.fragment ≠ "" then
                  .error targetConfigInvalid
                else
                  let defaultPort :=
                    (scheme = "https" ∧ port = some 443) ∨ (scheme = "http" ∧ port = some 80)
                  let normalizedHost := if containsChar host ':' then "[" ++ host ++ "]" else host
                  let normalizedPort :=
                    match port with
                    | none => ""
                    | some p => if defaultPort then "" else ":" ++ toString p
                  .ok (scheme ++ "://" ++ normalizedHost ++ normalizedPort ++
                    rstripSlash parsed.path)

/-- The policy of the settings, for a normalised address of the downloader. -/
def policyDocument (settings : Settings) (baseUrl : String) : PolicyDocument where
  version := 5
  downloader := "qbittorrent"
  baseUrl := baseUrl
  targetInstanceRef := settings.qbTargetInstanceRef
  allowedHosts := sorted (normalizedHosts settings)
  allowInsecureHttp := settings.qbAllowInsecureHttp
  targetCategory := settings.qbTargetCategory
  targetSavePath := settings.qbTargetSavePath
  allowedSavePaths := sorted settings.qbAllowedSavePaths
  savePathRef := settings.qbSavePathRef
  planTags := settings.qbPlanTags
  maxCandidateSizeBytes := settings.maxCandidateSizeBytes
  duplicateReleaseRecentLimit := PREFLIGHT_RECENT_TORRENT_LIMIT
  avistazForbiddenQbVersions := sorted settings.avistazForbiddenQbVersions
  avistazHnr := { applies := true, minimumSeedingDays := AVISTAZ_DEFAULT_HNR_DAYS }
  preflightMaxAgeSeconds := settings.approvalPreflightMaxAgeSeconds

/-- `preflight_policy_fingerprint`. -/
def preflightPolicyFingerprint (settings : Settings) :
    Except AppError (Digest PolicyDocument) :=
  match normalizedQbBaseUrlForPolicy settings with
  | .error e => .error e
  | .ok baseUrl => .ok (.sha256 (policyDocument settings baseUrl))

/-- A fingerprint that could be computed is the digest of the policy of the settings. -/
theorem preflightPolicyFingerprint_ok {settings : Settings} {d : Digest PolicyDocument}
    (h : preflightPolicyFingerprint settings = .ok d) :
    ∃ baseUrl, d = .sha256 (policyDocument settings baseUrl) := by
  unfold preflightPolicyFingerprint at h
  cases hb : normalizedQbBaseUrlForPolicy settings with
  | error e => simp [hb] at h
  | ok baseUrl =>
      rw [hb] at h
      exact ⟨baseUrl, (Except.ok.inj h).symm⟩

/-- `require_preflight_policy_current`. -/
def requirePreflightPolicyCurrent (expectedFingerprint : Digest PolicyDocument)
    (settings : Settings) : Except AppError Unit :=
  match preflightPolicyFingerprint settings with
  | .error e => .error e
  | .ok currentFingerprint =>
      if expectedFingerprint = currentFingerprint then .ok ()
      else .error (conflict "PREFLIGHT_CONFIG_CHANGED"
        "qBittorrent 预检目标配置已变化，请重新预检并批准")

/-- **A policy found current is the policy of the settings.** -/
theorem requirePreflightPolicyCurrent_ok {fingerprint : Digest PolicyDocument}
    {settings : Settings} (h : requirePreflightPolicyCurrent fingerprint settings = .ok ()) :
    ∃ baseUrl, fingerprint = .sha256 (policyDocument settings baseUrl) := by
  unfold requirePreflightPolicyCurrent at h
  cases hf : preflightPolicyFingerprint settings with
  | error e => simp [hf] at h
  | ok current =>
      by_cases heq : fingerprint = current
      · exact heq ▸ preflightPolicyFingerprint_ok hf
      · simp [hf, heq] at h

/-! ### The checks -/

/-- `_check`. -/
def check (code : String) (status : PreflightStatus) (message : String)
    (details : List (String × Scalar) := [])
    (hcode : isCheckCode code = true := by decide +kernel)
    (hmessage : 1 ≤ message.toList.length ∧ message.toList.length ≤ 500 := by decide +kernel) :
    PreflightCheck :=
  ⟨code, status, message, details, hcode, hmessage⟩

/-- The details of a check that failed with an error of the downloader. -/
def errorDetails (errorCode : Option String) : List (String × Scalar) :=
  match errorCode with
  | none => []
  | some c => [("error_code", .str c)]

/-- `version.removeprefix("v")`. -/
def withoutLeadingV (s : String) : String :=
  match s.toList with
  | 'v' :: cs => String.ofList cs
  | _ => s

/-- `_avistaz_version_check`. -/
def avistazVersionCheck (version : Option String) (settings : Settings) : PreflightCheck :=
  match version with
  | none =>
      check "AVISTAZ_QB_VERSION_RULE" .unknown "无法根据 AvistaZ 规则判断 qBittorrent 版本"
  | some version =>
      if settings.avistazForbiddenQbVersions = [] then
        check "AVISTAZ_QB_VERSION_RULE" .unknown "尚未配置 AvistaZ 禁止版本规则"
          [("version", .str version)]
      else if settings.avistazForbiddenQbVersions.any fun rule =>
          fnmatchcase (withoutLeadingV version) (withoutLeadingV rule) then
        check "AVISTAZ_QB_VERSION_RULE" .blocked "当前 qBittorrent 版本命中 AvistaZ 禁止规则"
          [("version", .str version)]
      else
        check "AVISTAZ_QB_VERSION_RULE" .pass "当前 qBittorrent 版本未命中 AvistaZ 禁止规则"
          [("version", .str version)]

/-- `_category_check`. -/
def categoryCheck (categories : Option (List String)) (targetCategory : Option String) :
    PreflightCheck :=
  match targetCategory.filter (· ≠ ""), categories with
  | none, _ => check "TARGET_CATEGORY" .unknown "尚未配置目标分类"
  | some _, none => check "TARGET_CATEGORY" .unknown "无法读取 qBittorrent 分类"
  | some target, some categories =>
      if target ∉ categories then
        check "TARGET_CATEGORY" .warning
          "qBittorrent 中尚不存在目标分类，下载提交时将自动创建"
          [("category", .str target), ("will_create_on_submit", .bool true)]
      else
        check "TARGET_CATEGORY" .pass "qBittorrent 目标分类存在"
          [("category", .str target)]

/-- `_info_hash_check`. -/
def infoHashCheck (torrents : Option (List QbTorrent)) (infoHash : Option InfoHash)
    (errorCode : Option String) : PreflightCheck :=
  match infoHash with
  | none =>
      check "DUPLICATE_INFO_HASH" .warning "候选未提供 info_hash，将在写入前从种子文件校验"
        [("deferred_validation", .str "TORRENT_FILE"), ("duplicate_check_deferred", .bool true)]
  | some infoHash =>
      match torrents with
      | none =>
          check "DUPLICATE_INFO_HASH" .unknown "无法按 info_hash 查询 qBittorrent 任务"
            (errorDetails errorCode)
      | some torrents =>
          if torrents.any fun t => casefold infoHash.text ∈ t.identityHashes then
            check "DUPLICATE_INFO_HASH" .blocked "qBittorrent 已存在相同 info_hash"
          else
            check "DUPLICATE_INFO_HASH" .pass "未发现相同 info_hash"

/-- `_duplicate_release_check`. -/
def duplicateReleaseCheck (torrents : Option (List QbTorrent))
    (snapshot : ApprovalCandidateSnapshot) (sampleLimit : ℕ) (errorCode : Option String) :
    PreflightCheck :=
  match snapshot.sizeBytes with
  | none =>
      check "POSSIBLE_DUPLICATE_RELEASE" .warning "候选大小未知，将在写入前从种子文件校验"
        [("deferred_validation", .str "TORRENT_FILE"), ("duplicate_check_deferred", .bool true)]
  | some size =>
      match torrents with
      | none =>
          check "POSSIBLE_DUPLICATE_RELEASE" .unknown
            "无法读取近期 qBittorrent 任务以判断疑似重复" (errorDetails errorCode)
      | some torrents =>
          if torrents.any fun t =>
              strip (casefold t.name) = strip (casefold snapshot.releaseTitle) ∧ t.size = size then
            check "POSSIBLE_DUPLICATE_RELEASE" .warning "存在相同发布名和大小的疑似重复任务"
              [("sample_limit", .int sampleLimit), ("sample_count", .int torrents.length)]
          else
            check "POSSIBLE_DUPLICATE_RELEASE" .warning
              "近期任务样本中未发现相同发布名和大小的任务，未扫描完整任务库"
              [("sample_limit", .int sampleLimit), ("sample_count", .int torrents.length)]

/-- `is_allowed_save_path`. -/
def isAllowedSavePath (target : String) (roots : List String) : Bool :=
  let pathClass := purePathOf target
  let targetPath := pathClass target
  targetPath.isAbsolute && !targetPath.names.contains ".." &&
    roots.any fun root =>
      let rootPath := pathClass root
      rootPath.isAbsolute && !rootPath.names.contains ".." && targetPath.isAtOrBelow rootPath

/-- `_save_path_check`. -/
def savePathCheck (settings : Settings) : PreflightCheck :=
  match settings.qbTargetSavePath.filter (· ≠ "") with
  | none => check "SAVE_PATH_ALLOWED" .unknown "目标保存路径或允许路径未配置"
  | some target =>
      if settings.qbAllowedSavePaths = [] then
        check "SAVE_PATH_ALLOWED" .unknown "目标保存路径或允许路径未配置"
      else if isAllowedSavePath target settings.qbAllowedSavePaths then
        check "SAVE_PATH_ALLOWED" .pass "目标保存路径属于允许路径"
          [("save_path_ref", .str settings.qbSavePathRef)]
      else
        check "SAVE_PATH_ALLOWED" .blocked "目标保存路径不属于允许路径"
          [("save_path_ref", .str settings.qbSavePathRef)]

/-- `_size_limit_check`. -/
def sizeLimitCheck (size : Option ℕ) (limit : Option Int) : PreflightCheck :=
  match limit, size with
  | none, _ => check "SIZE_LIMIT" .unknown "尚未配置用户下载大小限制"
  | some limit, none =>
      check "SIZE_LIMIT" .warning "候选下载大小未知，将在写入前从种子文件校验"
        [("limit_bytes", .int limit), ("deferred_validation", .str "TORRENT_FILE")]
  | some limit, some size =>
      if (size : Int) > limit then
        check "SIZE_LIMIT" .blocked "候选大小超过用户限制"
          [("size_bytes", .int size), ("limit_bytes", .int limit)]
      else
        check "SIZE_LIMIT" .pass "候选大小未超过用户限制"
          [("size_bytes", .int size), ("limit_bytes", .int limit)]

/-- `_active_seeding_check`. -/
def activeSeedingCheck (hasActiveSeeding : Option Bool) (errorCode : Option String) :
    PreflightCheck :=
  match hasActiveSeeding with
  | none => check "ACTIVE_SEEDING" .unknown "无法确认当前是否存在活跃做种任务"
      (errorDetails errorCode)
  | some false => check "ACTIVE_SEEDING" .warning "当前没有活跃做种任务" [("count", .int 0)]
  | some true => check "ACTIVE_SEEDING" .pass "当前存在活跃做种任务" [("count_at_least", .int 1)]

/-- `_candidate_seeders_check`. -/
def candidateSeedersCheck (seeders : Option ℕ) : PreflightCheck :=
  match seeders with
  | none =>
      check "CANDIDATE_SEEDERS" .warning "候选做种数未知，将在下载执行前重新读取站点候选"
        [("deferred_validation", .str "PT_RESEARCH")]
  | some seeders =>
      if seeders = 0 then
        check "CANDIDATE_SEEDERS" .blocked "候选当前没有做种者"
      else
        check "CANDIDATE_SEEDERS" .pass "候选当前有做种者" [("seeders", .int seeders)]

/-- `_hnr_check`. -/
def hnrCheck (siteId : String) (hitAndRun : Option Bool) : PreflightCheck :=
  let rule := effectiveHnrRule siteId hitAndRun
  match rule.applies, rule.source with
  | none, _ => check "HNR_KNOWN" .unknown "候选 H&R 规则未知"
  | some applies, .siteDefault =>
      check "HNR_KNOWN" .pass "AvistaZ 使用站点默认 H&R 规则（7 天）"
        ([("hit_and_run", .bool applies), ("source", .str rule.source.value)] ++
          (rule.minimumSeedingDays.map fun d => ("minimum_seeding_days", Scalar.int d)).toList)
  | some applies, _ =>
      check "HNR_KNOWN" .pass "候选 H&R 信息已知"
        [("hit_and_run", .bool applies), ("source", .str rule.source.value)]

/-! ### The pre-flight -/

/-- What the downloader answers to the reads of a pre-flight. -/
structure QbReadReplies where
  authenticate : Except AppError Unit
  getVersion : Except AppError String
  getWebApiVersion : Except AppError String
  findTorrentsByHashes : Except AppError (List QbTorrent)
  listRecentTorrents : Except AppError (List QbTorrent)
  hasActiveSeeding : Except AppError Bool
  getCategories : Except AppError (List String)

/-- The value of a read, if it succeeded. -/
def value? {α : Type} (reply : Except AppError α) : Option α :=
  reply.toOption

/-- The code of the error of a read, if it failed. -/
def errorCode? {α : Type} : Except AppError α → Option String
  | .ok _ => none
  | .error e => some e.errorCode

/-- The check of a version that was to be read. -/
def versionCheck (code passed failed : String) (reply : Except AppError String)
    (hcode : isCheckCode code = true := by decide +kernel)
    (hpassed : 1 ≤ passed.toList.length ∧ passed.toList.length ≤ 500 := by decide +kernel)
    (hfailed : 1 ≤ failed.toList.length ∧ failed.toList.length ≤ 500 := by decide +kernel) :
    PreflightCheck :=
  match reply with
  | .ok version => check code .pass passed [("version", .str version)] hcode hpassed
  | .error e => check code .unknown failed [("error_code", .str e.errorCode)] hcode hfailed

/-- The checks on the connection and, where it works, on the versions. -/
def connectionChecks (replies : QbReadReplies) : List PreflightCheck :=
  match replies.authenticate with
  | .error e =>
      [check "QB_CONNECTION" .blocked "qBittorrent 只读连接失败"
        [("error_code", .str e.errorCode)]]
  | .ok () =>
      [check "QB_CONNECTION" .pass "qBittorrent 只读连接正常",
        versionCheck "QB_APP_VERSION" "已读取 qBittorrent 应用版本"
          "无法确认 qBittorrent 应用版本" replies.getVersion,
        versionCheck "QB_WEB_API_VERSION" "已读取 qBittorrent Web API 版本"
          "无法确认 qBittorrent Web API 版本" replies.getWebApiVersion]

/-- What a pre-flight has read of the downloader when it comes to its checks. -/
structure QbObservations where
  applicationVersion : Option String := none
  hashMatches : Option (List QbTorrent) := none
  hashLookupError : Option String := none
  recentTorrents : Option (List QbTorrent) := none
  recentLookupError : Option String := none
  hasActiveSeeding : Option Bool := none
  activeSeedingError : Option String := none
  categories : Option (List String) := none

/-- The reads of a pre-flight: none after a failed connection; the hash is looked up and the
recent torrents are listed only where the snapshot has something to compare with them. -/
def observe (replies : QbReadReplies) (snapshot : ApprovalCandidateSnapshot) : QbObservations :=
  match replies.authenticate with
  | .error _ => {}
  | .ok () =>
      { applicationVersion := value? replies.getVersion
        hashMatches := snapshot.infoHash.bind fun _ => value? replies.findTorrentsByHashes
        hashLookupError := snapshot.infoHash.bind fun _ => errorCode? replies.findTorrentsByHashes
        recentTorrents := snapshot.sizeBytes.bind fun _ => value? replies.listRecentTorrents
        recentLookupError := snapshot.sizeBytes.bind fun _ => errorCode? replies.listRecentTorrents
        hasActiveSeeding := value? replies.hasActiveSeeding
        activeSeedingError := errorCode? replies.hasActiveSeeding
        categories := value? replies.getCategories }

/-- The checks of a pre-flight, in their order. -/
def preflightChecks (replies : QbReadReplies) (snapshot : ApprovalCandidateSnapshot)
    (settings : Settings) : List PreflightCheck :=
  let seen := observe replies snapshot
  connectionChecks replies ++
    [avistazVersionCheck seen.applicationVersion settings,
      categoryCheck seen.categories settings.qbTargetCategory,
      infoHashCheck seen.hashMatches snapshot.infoHash seen.hashLookupError,
      duplicateReleaseCheck seen.recentTorrents snapshot PREFLIGHT_RECENT_TORRENT_LIMIT
        seen.recentLookupError,
      savePathCheck settings,
      sizeLimitCheck snapshot.sizeBytes settings.maxCandidateSizeBytes,
      activeSeedingCheck seen.hasActiveSeeding seen.activeSeedingError,
      candidateSeedersCheck snapshot.seeders,
      hnrCheck snapshot.siteId snapshot.hitAndRun]

/-! ### The codes of the checks -/

omit [Python] in
@[simp] theorem code_check (code : String) (status : PreflightStatus) (message : String)
    (details : List (String × Scalar)) (hcode : isCheckCode code = true)
    (hmessage : 1 ≤ message.toList.length ∧ message.toList.length ≤ 500) :
    (check code status message details hcode hmessage).code = code :=
  rfl

omit [Python] in
@[simp] theorem status_check (code : String) (status : PreflightStatus) (message : String)
    (details : List (String × Scalar)) (hcode : isCheckCode code = true)
    (hmessage : 1 ≤ message.toList.length ∧ message.toList.length ≤ 500) :
    (check code status message details hcode hmessage).status = status :=
  rfl

omit [Python] in
@[simp] theorem code_avistazVersionCheck (version : Option String) (settings : Settings) :
    (avistazVersionCheck version settings).code = "AVISTAZ_QB_VERSION_RULE" := by
  unfold avistazVersionCheck
  split
  · rfl
  · split
    · rfl
    · split <;> rfl

omit [Python] in
@[simp] theorem code_categoryCheck (categories : Option (List String)) (target : Option String) :
    (categoryCheck categories target).code = "TARGET_CATEGORY" := by
  unfold categoryCheck
  split
  · rfl
  · rfl
  · split <;> rfl

@[simp] theorem code_infoHashCheck (torrents : Option (List QbTorrent))
    (infoHash : Option InfoHash) (errorCode : Option String) :
    (infoHashCheck torrents infoHash errorCode).code = "DUPLICATE_INFO_HASH" := by
  unfold infoHashCheck
  split
  · rfl
  · split
    · rfl
    · split <;> rfl

@[simp] theorem code_duplicateReleaseCheck (torrents : Option (List QbTorrent))
    (snapshot : ApprovalCandidateSnapshot) (sampleLimit : ℕ) (errorCode : Option String) :
    (duplicateReleaseCheck torrents snapshot sampleLimit errorCode).code =
      "POSSIBLE_DUPLICATE_RELEASE" := by
  unfold duplicateReleaseCheck
  split
  · rfl
  · split
    · rfl
    · split <;> rfl

@[simp] theorem code_savePathCheck (settings : Settings) :
    (savePathCheck settings).code = "SAVE_PATH_ALLOWED" := by
  unfold savePathCheck
  split
  · rfl
  · split
    · rfl
    · split <;> rfl

omit [Python] in
@[simp] theorem code_sizeLimitCheck (size : Option ℕ) (limit : Option Int) :
    (sizeLimitCheck size limit).code = "SIZE_LIMIT" := by
  unfold sizeLimitCheck
  split
  · rfl
  · rfl
  · split <;> rfl

omit [Python] in
@[simp] theorem code_activeSeedingCheck (hasActiveSeeding : Option Bool)
    (errorCode : Option String) :
    (activeSeedingCheck hasActiveSeeding errorCode).code = "ACTIVE_SEEDING" := by
  unfold activeSeedingCheck
  split <;> rfl

omit [Python] in
@[simp] theorem code_candidateSeedersCheck (seeders : Option ℕ) :
    (candidateSeedersCheck seeders).code = "CANDIDATE_SEEDERS" := by
  unfold candidateSeedersCheck
  split
  · rfl
  · split <;> rfl

@[simp] theorem code_hnrCheck (siteId : String) (hitAndRun : Option Bool) :
    (hnrCheck siteId hitAndRun).code = "HNR_KNOWN" := by
  unfold hnrCheck
  simp only
  split <;> rfl

omit [Python] in
@[simp] theorem code_versionCheck (code passed failed : String) (reply : Except AppError String)
    (hcode : isCheckCode code = true)
    (hpassed : 1 ≤ passed.toList.length ∧ passed.toList.length ≤ 500)
    (hfailed : 1 ≤ failed.toList.length ∧ failed.toList.length ≤ 500) :
    (versionCheck code passed failed reply hcode hpassed hfailed).code = code := by
  unfold versionCheck
  split <;> rfl

/-- **The codes of a pre-flight whose connection works are the twelve codes, in their order.** -/
theorem codes_preflightChecks {replies : QbReadReplies} (h : replies.authenticate = .ok ())
    (snapshot : ApprovalCandidateSnapshot) (settings : Settings) :
    (preflightChecks replies snapshot settings).map PreflightCheck.code =
      PREFLIGHT_CHECK_CODES := by
  simp [preflightChecks, connectionChecks, h, PREFLIGHT_CHECK_CODES]

/-- No two checks of a pre-flight have one code, also where the connection failed and the two
versions were not read. -/
theorem codes_preflightChecks_nodup (replies : QbReadReplies)
    (snapshot : ApprovalCandidateSnapshot) (settings : Settings) :
    ((preflightChecks replies snapshot settings).map PreflightCheck.code).Nodup := by
  cases h : replies.authenticate with
  | error e => simp [preflightChecks, connectionChecks, h]
  | ok u =>
      rw [codes_preflightChecks h]
      decide

omit [Python] in
theorem connectionChecks_ne_nil (replies : QbReadReplies) : connectionChecks replies ≠ [] := by
  unfold connectionChecks
  split <;> simp

theorem preflightChecks_ne_nil (replies : QbReadReplies) (snapshot : ApprovalCandidateSnapshot)
    (settings : Settings) : preflightChecks replies snapshot settings ≠ [] := by
  simp [preflightChecks, connectionChecks_ne_nil]

/-- **`evaluate_preflight`**, on the answers of the downloader. -/
def evaluatePreflight (replies : QbReadReplies) (snapshot : ApprovalCandidateSnapshot)
    (settings : Settings) (now : DateTime) : Except AppError PreflightResult :=
  match hf : preflightPolicyFingerprint settings with
  | .error e => .error e
  | .ok policyFingerprint =>
      .ok
        { overallStatus := overallStatus (preflightChecks replies snapshot settings)
          checks := preflightChecks replies snapshot settings
          checkedAt := now
          policyFingerprint := policyFingerprint
          checks_ne_nil := preflightChecks_ne_nil replies snapshot settings
          codes_nodup := codes_preflightChecks_nodup replies snapshot settings
          overallStatus_eq := rfl
          fingerprint_wellShaped := by
            obtain ⟨baseUrl, rfl⟩ := preflightPolicyFingerprint_ok hf
            rfl }

/-- What a pre-flight that ended in a result has computed. -/
theorem evaluatePreflight_ok {replies : QbReadReplies} {snapshot : ApprovalCandidateSnapshot}
    {settings : Settings} {now : DateTime} {result : PreflightResult}
    (h : evaluatePreflight replies snapshot settings now = .ok result) :
    result.checks = preflightChecks replies snapshot settings ∧
      preflightPolicyFingerprint settings = .ok result.policyFingerprint := by
  unfold evaluatePreflight at h
  split at h
  · cases h
  · rename_i policyFingerprint hf
    cases h
    exact ⟨rfl, hf⟩

end LibSeek.Services
