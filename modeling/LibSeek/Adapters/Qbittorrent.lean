/-
The adapter of qBittorrent.

The adapter that the executor uses may read from qBittorrent, create a category and add a torrent.
Every request runs the guard that the executor has installed, and then the guard of the request
itself, before it is sent once.

Main definitions:

* `Adapters.findTorrentsByHashBatch` — the lookup of some hashes, which is halved as often as it
  must be;
* `Adapters.QbittorrentAdapter` — an adapter, with the guard installed in it;
* `Adapters.QbittorrentAdapter.request` — `_request`: the checks, the guards and the sending;
* `Adapters.QbittorrentAdapter.authenticate`, `findTorrentsByHashes`, `ensureCategory` — what the
  executor asks of it;
* `Adapters.QbittorrentAdapter.addTorrent` — **the request that adds a torrent**.
-/

import LibSeek.Services.TorrentLimits
import LibSeek.Workers.World

set_option relaxedAutoImplicit false
set_option autoImplicit false

namespace LibSeek.Adapters

open LibSeek.Core LibSeek.Lib LibSeek.Models LibSeek.Schemas LibSeek.Services LibSeek.Workers

variable [Python]

/-! ### Guards -/

/-- `{**details, key: value}`. -/
def withDetail (details : List (String × Scalar)) (key : String) (value : Scalar) :
    List (String × Scalar) :=
  details.filter (·.1 ≠ key) ++ [(key, value)]

/-- The error of a guard: no request was sent. -/
def guardError (guardFailed : AppError) : Exn → AppError
  | .app e => { e with details := withDetail e.details "external_request_performed" (.bool false) }
  | _ =>
      { guardFailed with
        details := withDetail guardFailed.details "external_request_performed" (.bool false) }

/-- `_run_before_send_guard`, of an adapter that reports other exceptions by `guardFailed`. -/
def runBeforeSendGuard (guardFailed : AppError) (guard : Work Unit) : Work Unit :=
  guard.handle fun e => Routine.raise (.app (guardError guardFailed e))

/-! ### Hashes -/

/-- `_normalize_hash`. -/
def normalizeHash (value : String) : Except AppError String := do
  ensure (isInfoHash (lowerHex value) = true)
    { errorCode := "QB_INFO_HASH_INVALID", message := "info_hash 格式无效", statusCode := 422 }
  return lowerHex value

/-- The hashes that are asked for: those given and the first 40 digits of the long ones, sorted. -/
def orderedHashes (hashes : List String) : Except AppError (List String) := do
  let normalized ← hashes.mapM normalizeHash
  let long := normalized.filter (·.toList.length = 64)
  return ((normalized ++ long.map (takeStr · 40)).dedup.insertionSort (· ≤ ·))

/-- The torrents of a page by their hash, each in the place of an earlier one of the same hash. -/
def collectTorrents (torrents page : List QbTorrent) : List QbTorrent :=
  page.foldl
    (fun torrents t =>
      if torrents.any (·.hash = t.hash) then torrents.map fun u => if u.hash = t.hash then t else u
      else torrents ++ [t])
    torrents

/-- `_HASH_QUERY_BATCH_SIZE`. -/
def HASH_QUERY_BATCH_SIZE : ℕ := 75

/-- Some hashes to ask for, one at least. -/
abbrev HashBatch : Type :=
  { hashes : List String // hashes ≠ [] }

/-- The first half of a batch of two hashes or more. -/
def HashBatch.first (batch : HashBatch) (h : batch.val.length ≠ 1) : HashBatch :=
  ⟨batch.val.take (batch.val.length / 2), by
    have hpos : 0 < batch.val.length := List.length_pos_iff.mpr batch.property
    apply List.length_pos_iff.mp
    rw [List.length_take]
    omega⟩

/-- The second half of a batch. -/
def HashBatch.second (batch : HashBatch) : HashBatch :=
  ⟨batch.val.drop (batch.val.length / 2), by
    have hpos : 0 < batch.val.length := List.length_pos_iff.mpr batch.property
    apply List.length_pos_iff.mp
    rw [List.length_drop]
    omega⟩

/-- The batches of some hashes. -/
def hashBatches (hashes : List String) : List HashBatch :=
  if h : hashes = [] then []
  else
    ⟨hashes.take HASH_QUERY_BATCH_SIZE, by
      rw [Ne, List.take_eq_nil_iff, not_or]
      exact ⟨by decide, h⟩⟩ :: hashBatches (hashes.drop HASH_QUERY_BATCH_SIZE)
  termination_by hashes.length
  decreasing_by
    have hpos : 0 < hashes.length := List.length_pos_iff.mpr h
    have hsize : HASH_QUERY_BATCH_SIZE = 75 := rfl
    rw [List.length_drop]
    omega

section Computations

variable {M : Type → Type} [Monad M] {α : Type}

/-- `_find_torrents_by_hash_batch`, for the request of an adapter, which leaves out a reply that is
too large where the batch can be halved, and for its checks on the page. -/
def findTorrentsByHashBatch (ask : List String → M (Option α))
    (accept : List String → α → M (List QbTorrent)) (batch : HashBatch) : M (List QbTorrent) := do
  let payload ← ask batch.val
  match payload with
  | some payload => accept batch.val payload
  | none =>
      -- the request is not given up for one hash, so both halves are shorter
      if h : batch.val.length = 1 then return []
      else do
        let first ← findTorrentsByHashBatch ask accept (batch.first h)
        let second ← findTorrentsByHashBatch ask accept batch.second
        return first ++ second
  termination_by batch.val.length
  decreasing_by
    all_goals
      have _hpos : 0 < batch.val.length := List.length_pos_iff.mpr batch.property
    · change (batch.val.take (batch.val.length / 2)).length < batch.val.length
      rw [List.length_take]
      omega
    · change (batch.val.drop (batch.val.length / 2)).length < batch.val.length
      rw [List.length_drop]
      omega

/-- The loop of `find_torrents_by_hashes` over the batches. -/
def findBatches (find : HashBatch → M (List QbTorrent)) :
    List HashBatch → List QbTorrent → M (List QbTorrent)
  | [], torrents => pure torrents
  | batch :: batches, torrents => do
      let page ← find batch
      findBatches find batches (collectTorrents torrents page)

end Computations

/-! ### Requests -/

/-- `QbittorrentAdapter`, with the guard that is installed in it, for a claim. -/
structure QbittorrentAdapter where
  enableWrite : Bool
  beforeRequest : Work Unit
  claim : ExecutionClaim

def qbWriteDisabled : AppError :=
  { errorCode := "QB_WRITE_DISABLED", message := "qBittorrent 写入能力默认关闭", statusCode := 403 }

def qbNotAuthenticated : AppError :=
  { errorCode := "QB_NOT_AUTHENTICATED", message := "qBittorrent SID 会话不存在"
    statusCode := 401 }

def qbResponseInvalid (message : String) : AppError :=
  { errorCode := "QB_RESPONSE_INVALID", message, statusCode := 502 }

def qbGuardFailed : AppError :=
  conflict "QB_REQUEST_GUARD_FAILED" "qBittorrent 请求围栏校验失败"

/-- `_clear_session`. -/
def clearSession : Work Unit :=
  Routine.remember fun m => { m with authenticated := false, addStateField := none }

namespace QbittorrentAdapter

/-- The sending of a request, whose outcome the outside supplies. -/
def send (qb : QbittorrentAdapter) (request : QbRequest) : Work HttpOutcome :=
  record (fun i => .ok i.http) fun _ => [.sent qb.claim request]

/-- The response of a request that was sent, or the exception for what came back. -/
def response : HttpOutcome → Work QbResponse
  | .timeout =>
      Routine.raise (.app
        { errorCode := "QB_TIMEOUT", message := "qBittorrent 只读请求超时", statusCode := 504
          retryable := true })
  | .networkError =>
      Routine.raise (.app
        { errorCode := "QB_NETWORK_ERROR", message := "无法连接 qBittorrent", statusCode := 502
          retryable := true })
  | .tooLarge =>
      Routine.raise (.app
        { errorCode := "QB_RESPONSE_TOO_LARGE", message := "qBittorrent 响应体超过安全限制"
          statusCode := 502 })
  | .failed name => Routine.raise (.other name)
  | .answered r =>
      if r.statusCode = 401 ∨ r.statusCode = 403 then do
        clearSession
        Routine.raise (.app
          { errorCode := "QB_AUTH_FAILED", message := "qBittorrent 登录或 SID 会话无效"
            statusCode := 401 })
      else if 200 ≤ r.statusCode ∧ r.statusCode < 300 then pure r
      else
        Routine.raise (.app
          { errorCode := "QB_HTTP_ERROR", message := "qBittorrent 返回了非 2xx 响应"
            statusCode := 502, details := [("status_code", .int r.statusCode)] })

/-- The guards of a request: the one that is installed, and that of the request. -/
def runGuards (qb : QbittorrentAdapter) (beforeSend : Work Unit) : Work Unit := do
  runBeforeSendGuard qbGuardFailed qb.beforeRequest
  runBeforeSendGuard qbGuardFailed beforeSend

/-- `_request`. -/
def request (qb : QbittorrentAdapter) (req : QbRequest) (requireAuth : Bool)
    (beforeSend : Work Unit) : Work QbResponse := do
  Routine.require (req.isWrite = true → qb.enableWrite = true) (.app qbWriteDisabled)
  let m ← Routine.memory
  Routine.require (requireAuth = true → m.authenticated = true) (.app qbNotAuthenticated)
  qb.runGuards beforeSend
  let outcome ← qb.send req
  response outcome

/-- A request to read. -/
def read (qb : QbittorrentAdapter) (req : QbRequest) : Work QbResponse :=
  qb.request req true (pure ())

/-! ### Sessions -/

/-- The checks of `authenticate` on the response to the login. -/
def acceptLogin (r : QbResponse) : Work Unit := do
  Routine.require (r.isHtml = false) (.app (qbResponseInvalid "qBittorrent 登录返回了 HTML 页面"))
  Routine.require (strip r.text = "Ok.")
    (.app { errorCode := "QB_AUTH_FAILED", message := "qBittorrent 登录失败", statusCode := 401 })
  Routine.require (r.setsSid = true) (.app (qbResponseInvalid "qBittorrent 登录未返回 SID"))
  Routine.remember fun m => { m with authenticated := true }

/-- `authenticate`. -/
def authenticate (qb : QbittorrentAdapter) : Work Unit := do
  clearSession
  let login : Work Unit := do
    let r ← qb.request .login false (pure ())
    acceptLogin r
  login.handle fun e => do
    clearSession
    Routine.raise e

/-! ### Torrents -/

/-- The request of `_find_torrents_by_hash_batch`: nothing if its answer is too large and the batch
can be halved. -/
def askHashBatch (qb : QbittorrentAdapter) (hashes : List String) :
    Work (Option (Except AppError (List QbTorrent))) :=
  Routine.handle
    (do
      let r ← qb.read (.torrentsInfo hashes)
      Routine.require (r.isHtml = false) (.app (qbResponseInvalid "qBittorrent 返回了 HTML 页面"))
      return some r.torrents)
    fun e =>
      if e.errorCode? ≠ some "QB_RESPONSE_TOO_LARGE" ∨ hashes.length = 1 then Routine.raise e
      else return none

/-- The checks of `_find_torrents_by_hash_batch` on a page. -/
def acceptPage (hashes : List String) (payload : Except AppError (List QbTorrent)) :
    Work (List QbTorrent) := do
  let page ← Routine.ofExcept (payload.mapError .app)
  Routine.require (page.length ≤ hashes.length ∧ ∀ t ∈ page, ∃ h ∈ t.identityHashes, h ∈ hashes)
    (.app
      { errorCode := "QB_TORRENT_HASH_QUERY_INVALID"
        message := "qBittorrent 未遵守 info_hash 查询条件", statusCode := 502 })
  return page

/-- `_find_torrents_by_hash_batch`. -/
def findTorrentsByHashBatch (qb : QbittorrentAdapter) : HashBatch → Work (List QbTorrent) :=
  Adapters.findTorrentsByHashBatch qb.askHashBatch acceptPage

/-- `find_torrents_by_hashes`. -/
def findTorrentsByHashes (qb : QbittorrentAdapter) (hashes : List String) :
    Work (List QbTorrent) := do
  let ordered ← Routine.ofExcept ((orderedHashes hashes).mapError .app)
  let torrents ← findBatches qb.findTorrentsByHashBatch (hashBatches ordered) []
  record (fun _ => .ok torrents) fun torrents => [.observed qb.claim hashes torrents]

/-! ### Categories -/

/-- What is said of the members of a list is decided along the list, not over all characters. -/
local instance (priority := 2000) decidableMembers (cs : List Char) (p : Char → Prop)
    [DecidablePred p] : Decidable (∀ c ∈ cs, p c) :=
  List.decidableBAll p cs

/-- `_validate_target`. -/
def validateTarget (savePath category : String) (tags : List String) : Except AppError Unit := do
  ensure (isBlank savePath = false ∧ isBlank category = false ∧
      ∀ value ∈ savePath :: category :: tags, isBlank value = false ∧
        ∀ marker ∈ ['\x00', '\r', '\n'], containsChar value marker = false)
    (conflict "QB_TARGET_INVALID" "qBittorrent 下载目标配置无效")
  ensure (tags.length ≤ 20 ∧
      ∀ tag ∈ tags, containsChar tag ',' = false ∧ tag.toList.length ≤ 100)
    (conflict "QB_TARGET_INVALID" "qBittorrent 标签配置无效")

/-- `get_categories`: their names. -/
def getCategories (qb : QbittorrentAdapter) : Work (List String) := do
  let r ← qb.read .categories
  Routine.require (r.isHtml = false) (.app (qbResponseInvalid "qBittorrent 返回了 HTML 页面"))
  Routine.ofExcept (r.categories.mapError .app)

/-- The first part of the creation of a category: the request, and the error to be reported should
the category not be there afterwards. -/
def createCategory (qb : QbittorrentAdapter) (category savePath : String)
    (writeGuard : Work Unit) : Work (Option AppError) :=
  Routine.handle
    (do
      let r ← qb.request (.createCategory category savePath) true writeGuard
      return if r.isHtml = true ∨ strip r.text ≠ "Ok." then
          some (qbResponseInvalid "qBittorrent 创建分类返回了无效响应")
        else none)
    fun e =>
      match e with
      | .app error =>
          if error.details.lookup "external_request_performed" = some (.bool false) ∨
              error.errorCode = "QB_AUTH_FAILED" then
            Routine.raise e
          else pure (some error)
      | _ => Routine.raise e

/-- The error where it is not known whether a category was created. -/
def categoryOutcomeUnknown (category : String) : AppError :=
  { errorCode := "QB_CATEGORY_CREATE_OUTCOME_UNKNOWN"
    message := "无法确认 qBittorrent 目标分类是否创建成功"
    statusCode := 502
    retryable := true
    details := [("category", .str category), ("category_write_may_have_occurred", .bool true)] }

/-- The error where a category is not there after its creation. -/
def categoryCreateFailed (category : String) (createError : Option AppError) : AppError :=
  { errorCode := "QB_CATEGORY_CREATE_FAILED"
    message := "qBittorrent 目标分类创建失败"
    statusCode := 502
    retryable := true
    details := ("category", .str category) ::
      (createError.toList.map fun e => ("cause_error_code", .str e.errorCode)) }

/-- `ensure_category`, with `_ensure_category`. -/
def ensureCategory (qb : QbittorrentAdapter) (category savePath : String)
    (writeGuard : Work Unit) : Work Unit := do
  Routine.require (qb.enableWrite = true) (.app qbWriteDisabled)
  let m ← Routine.memory
  Routine.require (m.authenticated = true) (.app qbNotAuthenticated)
  Routine.ofExcept ((validateTarget savePath category []).mapError .app)
  let categories ← qb.getCategories
  if category ∈ categories then return ()
  else do
    let createError ← qb.createCategory category savePath writeGuard
    let created ← Routine.handle qb.getCategories fun e =>
      match e with
      | .app _ => Routine.raise (.app (categoryOutcomeUnknown category))
      | _ => Routine.raise e
    Routine.require (category ∈ created) (.app (categoryCreateFailed category createError))

/-! ### Adding a torrent -/

/-- A number as the version of the interface writes it. -/
def versionPart (cs : List Char) : Option ℕ :=
  if cs ≠ [] ∧ cs.all (fun c => '0' ≤ c && c ≤ '9') ∧ (cs.head? = some '0' → cs = ['0']) then
    some (cs.foldl (fun n c => 10 * n + (c.toNat - 48)) 0)
  else none

/-- `_WEB_API_VERSION`. -/
def webApiVersion (s : String) : Option (ℕ × ℕ × ℕ) :=
  match s.toList.splitOn '.' with
  | [major, minor, patch] => do
      let major ← versionPart major
      let minor ← versionPart minor
      let patch ← versionPart patch
      return (major, minor, patch)
  | _ => none

/-- `get_web_api_version`. -/
def getWebApiVersion (qb : QbittorrentAdapter) : Work String := do
  let r ← qb.read .webApiVersion
  Routine.require (r.isHtml = false) (.app (qbResponseInvalid "qBittorrent Web API 版本返回了 HTML"))
  let value := strip r.text
  Routine.require (value ≠ "" ∧ value.toList.length ≤ 64 ∧
      ∀ c ∈ ['<', '>', '\r', '\n'], containsChar value c = false)
    (.app (qbResponseInvalid "qBittorrent Web API 版本格式无效"))
  return value

/-- The flag that an interface of a version has; it was renamed in version 2.11.0. -/
def addStateFieldOf (rawVersion : String) : Except AppError QbAddStateField := do
  let version ← orRaise (webApiVersion rawVersion)
    { errorCode := "QB_WEB_API_VERSION_INVALID"
      message := "qBittorrent Web API 版本格式无效，无法安全选择添加参数", statusCode := 502 }
  ensure (version.1 = 2)
    (conflict "QB_WEB_API_VERSION_UNSUPPORTED"
      "qBittorrent Web API 版本不受支持，已拒绝添加请求")
  return if 11 ≤ version.2.1 then .stopped else .paused

/-- `_get_add_state_field`. -/
def getAddStateField (qb : QbittorrentAdapter) : Work QbAddStateField := do
  let m ← Routine.memory
  match m.addStateField with
  | some field => return field
  | none => do
      let rawVersion ← qb.getWebApiVersion
      let field ← Routine.ofExcept ((addStateFieldOf rawVersion).mapError .app)
      Routine.remember fun m => { m with addStateField := some field }
      return field

/-- `_unknown_outcome`. -/
def unknownOutcome : AppError :=
  { errorCode := "QB_ADD_OUTCOME_UNKNOWN"
    message := "qBittorrent 添加请求结果不确定，必须按 info hash 对账"
    statusCode := 502
    details := [("external_write_may_have_occurred", .bool true)] }

/-- What is to be added: `add_torrent` has these as its arguments. -/
structure AddArguments where
  torrent : Bytes
  expectedInfoHash : String
  savePath : String
  category : String
  tags : List String
  startImmediately : Bool

/-- The form of the request. -/
def AddArguments.form (a : AddArguments) (field : QbAddStateField) : QbAddForm where
  savepath := a.savePath
  category := a.category
  tags := String.ofList ([','].intercalate (a.tags.map String.toList))
  stateField := field
  stateValue := if a.startImmediately then "false" else "true"

/-- `QbAddResult`. -/
structure QbAddResult where
  infoHash : String
  alreadyPresent : Bool
  deriving DecidableEq, Repr

/-- The exception of the request that adds a torrent, as it is reported: after a request that may
have been sent the outcome is not known. -/
def addError : Exn → Exn
  | .app e =>
      if e.details.lookup "external_request_performed" = some (.bool false) then .app e
      else .app unknownOutcome
  | e => e

/-- The request that adds a torrent, and the check of its response. -/
def postTorrent (qb : QbittorrentAdapter) (form : QbAddForm) (torrent : Bytes)
    (writeGuard : Work Unit) : Work Unit := do
  let r ← (qb.request (.addTorrent form torrent) true writeGuard).handle fun e =>
    Routine.raise (addError e)
  Routine.require (r.isHtml = false ∧ strip r.text = "Ok.") (.app unknownOutcome)

variable [TorrentCodec]

/-- **`add_torrent`**, for a category that has been prepared. -/
def addTorrent (qb : QbittorrentAdapter) (a : AddArguments) (writeGuard : Work Unit) :
    Work QbAddResult := do
  Routine.require (qb.enableWrite = true) (.app qbWriteDisabled)
  let m ← Routine.memory
  Routine.require (m.authenticated = true) (.app qbNotAuthenticated)
  Routine.require (isInfoHash (lowerHex a.expectedInfoHash) = true)
    (.app (conflict "QB_EXPECTED_INFO_HASH_REQUIRED" "提交前必须提供已校验并持久化的 info hash"))
  Routine.ofExcept ((validateTarget a.savePath a.category a.tags).mapError .app)
  let metadata ← Routine.ofExcept (adapterValidation a.torrent a.expectedInfoHash)
  let existing ← qb.findTorrentsByHashes metadata.identityHashes
  if ∃ t ∈ existing, ∃ h ∈ t.identityHashes, h ∈ metadata.identityHashes then
    return { infoHash := casefold a.expectedInfoHash, alreadyPresent := true }
  else do
    let field ← qb.getAddStateField
    qb.postTorrent (a.form field) a.torrent writeGuard
    return { infoHash := casefold a.expectedInfoHash, alreadyPresent := false }

end QbittorrentAdapter

end LibSeek.Adapters
