/-
The adapter that only reads from qBittorrent.

It asks for the torrents in three ways: all of them, page by page; those with given hashes, batch by
batch; and those that seed, as few of them as tell whether one is active.  A reply that is too large
makes it ask for less.

Main definitions:

* `Adapters.TorrentsParams`, `Adapters.TorrentsOutcome` — a request for torrents, and what comes
  back;
* `Adapters.QbittorrentReadOnlyAdapter.readTorrents` — a request, and the decoding of its reply;
* `Adapters.QbittorrentReadOnlyAdapter.listTorrents` — **all torrents**;
* `Adapters.QbittorrentReadOnlyAdapter.findTorrentsByHashes` — **the torrents with given hashes**;
* `Adapters.QbittorrentReadOnlyAdapter.hasActiveSeeding` — **whether a torrent seeds actively**.
-/

import LibSeek.Adapters.Qbittorrent
import LibSeek.Lib.Asking

set_option relaxedAutoImplicit false
set_option autoImplicit false

namespace LibSeek.Adapters

open LibSeek.Core LibSeek.Lib LibSeek.Schemas

variable [Python]

/-! ### Requests and replies -/

/-- The parameters of `/api/v2/torrents/info`. -/
structure TorrentsParams where
  filter : Option String := none
  hashes : List String := []
  sort : Option String := none
  reverse : Bool := false
  limit : ℕ
  offset : ℕ := 0
  deriving DecidableEq, Repr

/-- A member of a reply, as its validation leaves it: a torrent, or the fields that are invalid. -/
abbrev Item : Type :=
  Except (List String) QbTorrent

/-- What the decoder makes of a body: a `ValueError`, a `RecursionError`, a list, or another
value. -/
inductive JsonBody where
  | invalid
  | nested
  | list (items : List Item)
  | other

/-- A reply, of which the adapter reads no more than it accepts. -/
structure TorrentsReply where
  statusCode : ℕ := 200
  contentLength : ℕ := 0
  isHtml : Bool := false
  body : JsonBody

/-- What comes back of a request: the guard refuses it, it fails, the client raises something that
is no `HTTPError` (`InvalidURL`, for a `Location` of which it cannot make a request), or it is
answered. -/
inductive TorrentsOutcome where
  | refused (e : Exn)
  | timeout
  | networkError
  | raised (name : String)
  | answered (reply : TorrentsReply)

/-- A computation that asks qBittorrent for torrents. -/
abbrev Reading (α : Type) : Type :=
  Asking TorrentsParams TorrentsOutcome Exn α

/-! ### Errors -/

def qbTimeout : AppError :=
  { errorCode := "QB_TIMEOUT", message := "qBittorrent 只读请求超时", statusCode := 504
    retryable := true }

def qbNetworkError : AppError :=
  { errorCode := "QB_NETWORK_ERROR", message := "无法连接 qBittorrent", statusCode := 502
    retryable := true }

def qbResponseTooLarge : AppError :=
  { errorCode := "QB_RESPONSE_TOO_LARGE", message := "qBittorrent 响应体超过安全限制"
    statusCode := 502 }

def qbAuthFailed : AppError :=
  { errorCode := "QB_AUTH_FAILED", message := "qBittorrent 登录或 SID 会话无效"
    statusCode := 401 }

def qbHttpError (statusCode : ℕ) : AppError :=
  { errorCode := "QB_HTTP_ERROR", message := "qBittorrent 返回了非 2xx 响应", statusCode := 502
    details := [("status_code", .int statusCode)] }

/-- `_validation_error`: the invalid fields, sorted, and no more than 20 of them. -/
def qbValidationError (message : String) (fields : List String) : AppError :=
  { errorCode := "QB_RESPONSE_INVALID", message, statusCode := 502
    details := [("invalid_fields", .list ((fields.dedup.insertionSort (· ≤ ·)).take 20))] }

/-- `_unstable_torrent_list`. -/
def unstableTorrentList : AppError :=
  { errorCode := "QB_TORRENT_LIST_CHANGED"
    message := "qBittorrent 任务列表在分页读取期间发生变化，请重试"
    statusCode := 409
    retryable := true }

/-! ### Reading -/

/-- `QbittorrentReadOnlyAdapter`, with what it keeps during a call: a reply that ends its session
ends the call, too. -/
structure QbittorrentReadOnlyAdapter where
  authenticated : Bool
  maxResponseBytes : ℕ

namespace QbittorrentReadOnlyAdapter

/-- The checks of `_request` on a reply. -/
def checkReply (qb : QbittorrentReadOnlyAdapter) (reply : TorrentsReply) :
    Except AppError TorrentsReply := do
  ensure (reply.contentLength ≤ qb.maxResponseBytes) qbResponseTooLarge
  ensure (¬ (reply.statusCode = 401 ∨ reply.statusCode = 403)) qbAuthFailed
  ensure (200 ≤ reply.statusCode ∧ reply.statusCode < 300) (qbHttpError reply.statusCode)
  return reply

/-- The end of `_request`: the reply, or the exception for what came back.  Only an `HTTPError` of
the client is handled. -/
def receive (qb : QbittorrentReadOnlyAdapter) : TorrentsOutcome → Except Exn TorrentsReply
  | .refused e => .error (.app (guardError qbGuardFailed e))
  | .timeout => .error (.app qbTimeout)
  | .networkError => .error (.app qbNetworkError)
  | .raised name => .error (.other name)
  | .answered reply => (qb.checkReply reply).mapError Exn.app

/-- `_json`, of a list.  A `RecursionError` is no `ValueError`, and is not handled. -/
def json (reply : TorrentsReply) : Except Exn (List Item) := do
  ensure (reply.isHtml = false) (Exn.app (qbResponseInvalid "qBittorrent 返回了 HTML 页面"))
  match reply.body with
  | .invalid => .error (.app (qbResponseInvalid "qBittorrent 响应不是有效 JSON"))
  | .nested => .error (.other "RecursionError")
  | .other => .error (.app (qbResponseInvalid "qBittorrent JSON 结构无效"))
  | .list items => .ok items

/-- What a request for torrents comes to. -/
def decode (qb : QbittorrentReadOnlyAdapter) (outcome : TorrentsOutcome) :
    Except Exn (List Item) := do
  let reply ← qb.receive outcome
  json reply

omit [Python] in
/-- The decoding of a reply in order. -/
theorem decode_served (qb : QbittorrentReadOnlyAdapter) (contentLength : ℕ) (items : List Item) :
    qb.decode (.answered { contentLength, body := .list items }) =
      if contentLength ≤ qb.maxResponseBytes then .ok items
      else .error (.app qbResponseTooLarge) := by
  rw [decode, receive, checkReply]
  by_cases hlength : contentLength ≤ qb.maxResponseBytes
  · rw [if_pos hlength]
    simp only [ensure, if_pos hlength]
    rfl
  · rw [if_neg hlength]
    simp only [ensure, if_neg hlength]
    rfl

/-- A request for torrents, `_json(await _request(…), list)`. -/
def readTorrents (qb : QbittorrentReadOnlyAdapter) (params : TorrentsParams) :
    Reading (List Item) := do
  Asking.ofExcept (ensure (qb.authenticated = true) (Exn.app qbNotAuthenticated))
  let outcome ← Asking.ask params
  Asking.ofExcept (qb.decode outcome)

omit [Python] in
/-- A request whose reply is in order returns its members, if it returns. -/
theorem returns_served {qb : QbittorrentReadOnlyAdapter}
    {outside : Outside TorrentsParams TorrentsOutcome} {params : TorrentsParams}
    {contentLength : ℕ} {items : List Item}
    (h : ∀ asked, outside asked params = .answered { contentLength, body := .list items }) :
    Asking.returns outside (qb.readTorrents params) (· = items) := by
  rw [readTorrents]
  have hchecked : Asking.returns outside
      (Asking.ofExcept (ensure (qb.authenticated = true) (Exn.app qbNotAuthenticated)))
      fun _ => True := Asking.returns_ofExcept fun _ _ => trivial
  refine Asking.returns_bind hchecked fun _ _ => ?_
  refine Asking.wp_bind (Asking.wp_ask fun asked => Asking.wp_ofExcept ?_)
  intro read hread
  rw [h asked, decode_served] at hread
  split at hread
  · exact (Except.ok.inj hread).symm
  · exact nomatch hread

/-- `_parse_torrents`. -/
def parseTorrents (payload : List Item) : Except AppError (List QbTorrent) :=
  payload.mapM fun item => item.mapError (qbValidationError "qBittorrent 种子字段校验失败")

/-- The rest of a page after the last torrent of the page before, which it has to begin with. -/
def afterBoundary (changed : AppError) (boundaryHash : Option String) (page : List QbTorrent) :
    Except AppError (List QbTorrent) :=
  match boundaryHash with
  | none => .ok page
  | some boundary => do
      ensure (page.head?.map (·.hash.text) = some boundary) changed
      return page.tail

/-! ### All torrents -/

/-- `_TORRENT_PAGE_SIZE`. -/
def TORRENT_PAGE_SIZE : ℕ := 500

/-- `_TORRENT_MIN_PAGE_SIZE`. -/
def TORRENT_MIN_PAGE_SIZE : ℕ := 2

/-- `_TORRENT_MAX_ITEMS`. -/
def TORRENT_MAX_ITEMS : ℕ := 100000

/-- The size of a page, which is never below the least. -/
abbrev PageSize : Type :=
  { size : ℕ // TORRENT_MIN_PAGE_SIZE ≤ size }

/-- The torrents with those of a page: the checks of `_list_torrents_paginated`. -/
def addPage (pageSize : ℕ) (torrents : List QbTorrent) (boundaryHash : Option String)
    (payload : List Item) : Except AppError (List QbTorrent) := do
  ensure (payload.length ≤ pageSize)
    { errorCode := "QB_TORRENT_PAGINATION_INVALID"
      message := "qBittorrent 未遵守任务列表分页大小限制", statusCode := 502 }
  let page ← parseTorrents payload
  ensure ((page.map (·.hash.text)).IsChain (· < ·)) unstableTorrentList
  let page ← afterBoundary unstableTorrentList boundaryHash page
  ensure (∀ first ∈ page.head?, ∀ last ∈ torrents.getLast?, last.hash.text < first.hash.text)
    unstableTorrentList
  ensure (torrents.length + page.length ≤ TORRENT_MAX_ITEMS)
    { errorCode := "QB_TORRENT_LIST_LIMIT_EXCEEDED"
      message := "qBittorrent 任务数量超过安全处理上限", statusCode := 502 }
  return torrents ++ page

omit [Python] in
theorem mapError_eq_ok {ε ε' α : Type} {x : Except ε α} {f : ε → ε'} {a : α} :
    x.mapError f = .ok a ↔ x = .ok a := by
  cases x <;> simp [Except.mapError]

omit [Python] in
theorem parseTorrents_eq_ok {payload : List Item} {page : List QbTorrent} :
    parseTorrents payload = .ok page ↔ payload = page.map Except.ok := by
  induction payload generalizing page with
  | nil =>
      rw [parseTorrents, List.mapM_nil, pure_eq_ok]
      constructor
      · rintro rfl
        rfl
      · intro h
        exact (List.map_eq_nil_iff.mp h.symm).symm
  | cons item payload ih =>
      rw [parseTorrents, List.mapM_cons, bind_eq_ok]
      constructor
      · rintro ⟨torrent, hitem, h⟩
        obtain ⟨rest, hrest, h⟩ := bind_eq_ok.mp h
        cases pure_eq_ok.mp h
        rw [List.map_cons, ← ih.mp hrest, mapError_eq_ok.mp hitem]
      · intro h
        obtain ⟨torrent, rest, rfl, hitem, hrest⟩ := List.map_eq_cons_iff.mp h.symm
        refine ⟨torrent, by rw [← hitem]; rfl, ?_⟩
        exact bind_eq_ok.mpr ⟨rest, ih.mpr hrest.symm, rfl⟩

omit [Python] in
theorem afterBoundary_eq_ok {changed : AppError} {boundaryHash : Option String}
    {page rest : List QbTorrent} :
    afterBoundary changed boundaryHash page = .ok rest ↔
      (boundaryHash = none ∧ rest = page) ∨
        ∃ first, page = first :: rest ∧ boundaryHash = some first.hash.text := by
  cases boundaryHash with
  | none =>
      rw [afterBoundary, Except.ok.injEq]
      simp [eq_comm]
  | some boundary =>
      rw [afterBoundary]
      cases page with
      | nil =>
          constructor
          · intro h
            obtain ⟨_, hsame, -⟩ := bind_eq_ok.mp h
            cases ensure_eq_ok.mp hsame
          · rintro (⟨h, -⟩ | ⟨_, h, -⟩) <;> cases h
      | cons first page =>
          simp only [bind_eq_ok, ensure_eq_ok, pure_eq_ok, List.head?_cons, Option.map_some,
            List.tail_cons, List.cons.injEq, reduceCtorEq, false_and, false_or, Option.some.injEq]
          constructor
          · rintro ⟨_, hsame, rfl⟩
            exact ⟨first, ⟨rfl, rfl⟩, hsame.symm⟩
          · rintro ⟨_, ⟨rfl, rfl⟩, hsame⟩
            exact ⟨(), hsame.symm, rfl⟩

omit [Python] in
/-- What a page that is accepted adds: its torrents, without the one that was read before. -/
theorem addPage_eq_ok {pageSize : ℕ} {torrents all : List QbTorrent} {boundaryHash : Option String}
    {payload : List Item} (h : addPage pageSize torrents boundaryHash payload = .ok all) :
    ∃ page rest, payload = page.map Except.ok ∧ page.length ≤ pageSize ∧
      (page.map (·.hash.text)).IsChain (· < ·) ∧
      afterBoundary unstableTorrentList boundaryHash page = .ok rest ∧
      (∀ first ∈ rest.head?, ∀ last ∈ torrents.getLast?, last.hash.text < first.hash.text) ∧
      torrents.length + rest.length ≤ TORRENT_MAX_ITEMS ∧ all = torrents ++ rest := by
  simp only [addPage, bind_eq_ok, ensure_eq_ok, pure_eq_ok] at h
  obtain ⟨_, hsize, page, hpage, _, hchain, rest, hrest, _, hfirst, _, hmax, hall⟩ := h
  obtain rfl := parseTorrents_eq_ok.mp hpage
  rw [List.length_map] at hsize
  subst hall
  exact ⟨page, rest, rfl, hsize, hchain, hrest, hfirst, hmax, rfl⟩

omit [Python] in
/-- A full page adds a torrent. -/
theorem length_addPage {pageSize : PageSize} {torrents all : List QbTorrent}
    {boundaryHash : Option String} {payload : List Item}
    (h : addPage pageSize torrents boundaryHash payload = .ok all)
    (hfull : ¬ payload.length < pageSize) :
    torrents.length < all.length ∧ all.length ≤ TORRENT_MAX_ITEMS := by
  obtain ⟨page, rest, rfl, -, -, hrest, -, hmax, rfl⟩ := addPage_eq_ok h
  have hleast : 2 ≤ pageSize.val := pageSize.property
  rw [List.length_map] at hfull
  rw [List.length_append]
  rcases afterBoundary_eq_ok.mp hrest with ⟨-, rfl⟩ | ⟨first, rfl, -⟩
  · omega
  · rw [List.length_cons] at hfull
    omega

/-- `_list_torrents_paginated`, from some torrents on.  A page that is not the last adds a torrent,
and there are no more of them than the most. -/
def listTorrentsPaginated (qb : QbittorrentReadOnlyAdapter) (pageSize : PageSize)
    (torrents : List QbTorrent) (boundaryHash : Option String) : Reading (List QbTorrent) := do
  let payload ← qb.readTorrents
    { sort := some "hash", limit := pageSize, offset := torrents.length - 1 }
  match _hall : addPage pageSize torrents boundaryHash payload with
  | .error e => Asking.raise (.app e)
  | .ok all =>
      if _hlast : payload.length < pageSize then return all
      else
        match all.getLast? with
        | none => Asking.raise (.app unstableTorrentList)
        | some last => qb.listTorrentsPaginated pageSize all (some last.hash.text)
  termination_by TORRENT_MAX_ITEMS - torrents.length
  decreasing_by
    have hmore := length_addPage _hall _hlast
    omega

omit [Python] in
/-- The next smaller size of a page. -/
def PageSize.halve (pageSize : PageSize) : PageSize :=
  ⟨max TORRENT_MIN_PAGE_SIZE (pageSize / 2), Nat.le_max_left _ _⟩

/-- The loop of `list_torrents`, from a size of a page on. -/
def listTorrentsFrom (qb : QbittorrentReadOnlyAdapter) (pageSize : PageSize) :
    Reading (List QbTorrent) :=
  Asking.handle (qb.listTorrentsPaginated pageSize [] none) fun e =>
    if e.errorCode? ≠ some "QB_RESPONSE_TOO_LARGE" ∨ pageSize ≤ TORRENT_MIN_PAGE_SIZE then
      Asking.raise e
    else qb.listTorrentsFrom pageSize.halve
  termination_by pageSize.val
  decreasing_by
    have _hlarge : ¬ (pageSize : ℕ) ≤ TORRENT_MIN_PAGE_SIZE := (not_or.mp ‹_›).2
    have hleast : TORRENT_MIN_PAGE_SIZE = 2 := rfl
    change max TORRENT_MIN_PAGE_SIZE (pageSize.val / 2) < pageSize.val
    omega

/-- `list_torrents`. -/
def listTorrents (qb : QbittorrentReadOnlyAdapter) : Reading (List QbTorrent) :=
  qb.listTorrentsFrom ⟨TORRENT_PAGE_SIZE, by decide⟩

/-! ### Torrents with given hashes -/

/-- The checks of `_find_torrents_by_hash_batch` on a page. -/
def acceptHashPage (hashes : List String) (payload : List Item) :
    Except AppError (List QbTorrent) := do
  let page ← parseTorrents payload
  ensure (page.length ≤ hashes.length ∧ ∀ t ∈ page, ∃ h ∈ t.identityHashes, h ∈ hashes)
    { errorCode := "QB_TORRENT_HASH_QUERY_INVALID"
      message := "qBittorrent 未遵守 info_hash 查询条件", statusCode := 502 }
  return page

/-- The request of `_find_torrents_by_hash_batch`: nothing if its reply is too large and the batch
can be halved. -/
def askHashBatch (qb : QbittorrentReadOnlyAdapter) (hashes : List String) :
    Reading (Option (List Item)) :=
  Asking.handle
    (do
      let payload ← qb.readTorrents { hashes, limit := hashes.length + 1 }
      return some payload)
    fun e =>
      if e.errorCode? ≠ some "QB_RESPONSE_TOO_LARGE" ∨ hashes.length = 1 then Asking.raise e
      else return none

/-- `_find_torrents_by_hash_batch`. -/
def findTorrentsByHashBatch (qb : QbittorrentReadOnlyAdapter) :
    HashBatch → Reading (List QbTorrent) :=
  Adapters.findTorrentsByHashBatch qb.askHashBatch fun hashes payload =>
    Asking.ofExcept ((acceptHashPage hashes payload).mapError Exn.app)

/-- `find_torrents_by_hashes`. -/
def findTorrentsByHashes (qb : QbittorrentReadOnlyAdapter) (hashes : List String) :
    Reading (List QbTorrent) := do
  let ordered ← Asking.ofExcept ((orderedHashes hashes).mapError Exn.app)
  findBatches qb.findTorrentsByHashBatch (hashBatches ordered) []

/-! ### Active seeding -/

/-- `_FORCED_UP_PAGE_SIZE`. -/
def FORCED_UP_PAGE_SIZE : ℕ := 100

/-- `_FORCED_UP_MAX_ITEMS`. -/
def FORCED_UP_MAX_ITEMS : ℕ := 500

def qbActiveSeedingQueryInvalid (message : String) : AppError :=
  { errorCode := "QB_ACTIVE_SEEDING_QUERY_INVALID", message, statusCode := 502 }

def qbActiveSeedingQueryChanged : AppError :=
  { errorCode := "QB_ACTIVE_SEEDING_QUERY_CHANGED"
    message := "qBittorrent 做种任务在探测期间发生变化，请重试"
    statusCode := 409
    retryable := true }

def qbActiveSeedingQueryLimit : AppError :=
  { errorCode := "QB_ACTIVE_SEEDING_QUERY_LIMIT", message := "活跃做种检查达到有界扫描上限"
    statusCode := 502 }

/-- `_is_active_seeding`. -/
def isActiveSeeding (t : QbTorrent) : Bool :=
  t.progress = 1 ∧ (0 < t.upspeed ∨ casefold t.state ∈ ["uploading", "forcedup"])

/-- The checks of `_torrent_probe` on the reply, all torrents being complete. -/
def acceptProbe (payload : List Item) : Except AppError (Option QbTorrent) := do
  ensure (payload.length ≤ 1)
    (qbActiveSeedingQueryInvalid "qBittorrent 未遵守活跃做种探测数量限制")
  let page ← parseTorrents payload
  ensure (∀ t ∈ page.head?, t.progress = 1)
    (qbActiveSeedingQueryInvalid "qBittorrent 未遵守做种任务筛选条件")
  return page.head?

/-- `_torrent_probe`: the first of the seeding torrents in an order that is reversed. -/
def torrentProbe (qb : QbittorrentReadOnlyAdapter) (sort : String) : Reading (Option QbTorrent) := do
  let payload ← qb.readTorrents
    { filter := some "seeding", sort := some sort, reverse := true, limit := 1 }
  Asking.ofExcept ((acceptProbe payload).mapError Exn.app)

/-- The loop of `_has_forced_up_seeding` over a page, after the state of the torrent before: an
answer, or the last state. -/
def scanForcedUp : List QbTorrent → Option String → Except AppError (Bool ⊕ Option String)
  | [], previousState => .ok (.inr previousState)
  | torrent :: torrents, previousState => do
      let state := casefold torrent.state
      ensure (∀ previous ∈ previousState, previous ≤ state)
        (qbActiveSeedingQueryInvalid "qBittorrent 未遵守做种任务状态排序条件")
      ensure (torrent.progress = 1)
        (qbActiveSeedingQueryInvalid "qBittorrent 未遵守做种任务筛选条件")
      if isActiveSeeding torrent = true then return .inl true
      else if "forcedup" < state then return .inl false
      else scanForcedUp torrents (some state)

/-- The limit of a request of `_has_forced_up_seeding`. -/
def forcedUpLimit (inspected : ℕ) (boundaryHash : Option String) : ℕ :=
  min FORCED_UP_PAGE_SIZE (FORCED_UP_MAX_ITEMS - inspected + boundaryHash.toList.length)

/-- The checks of `_has_forced_up_seeding` on a page: its torrents that were not read before. -/
def acceptForcedUpPage (requestLimit : ℕ) (boundaryHash : Option String) (payload : List Item) :
    Except AppError (List QbTorrent) := do
  ensure (payload.length ≤ requestLimit)
    (qbActiveSeedingQueryInvalid "qBittorrent 未遵守活跃做种探测数量限制")
  let torrents ← parseTorrents payload
  afterBoundary qbActiveSeedingQueryChanged boundaryHash torrents

/-- `_has_forced_up_seeding`, after a number of torrents. -/
def hasForcedUpSeeding (qb : QbittorrentReadOnlyAdapter) (inspected : ℕ)
    (boundaryHash : Option String) (previousState : Option String) : Reading Bool :=
  if _hmore : inspected < FORCED_UP_MAX_ITEMS then do
    let requestLimit := forcedUpLimit inspected boundaryHash
    let payload ← qb.readTorrents
      { filter := some "seeding", sort := some "state", limit := requestLimit
        offset := inspected - boundaryHash.toList.length }
    let torrents ← Asking.ofExcept
      ((acceptForcedUpPage requestLimit boundaryHash payload).mapError Exn.app)
    let scanned ← Asking.ofExcept ((scanForcedUp torrents previousState).mapError Exn.app)
    match scanned with
    | .inl answer => return answer
    | .inr state =>
        if payload.length < requestLimit then return false
        else
          match _hlast : torrents.getLast? with
          | none => Asking.raise (.app qbActiveSeedingQueryChanged)
          | some last =>
              qb.hasForcedUpSeeding (inspected + torrents.length) (some last.hash.text) state
  else Asking.raise (.app qbActiveSeedingQueryLimit)
  termination_by FORCED_UP_MAX_ITEMS - inspected
  decreasing_by
    have hpos : 0 < torrents.length :=
      List.length_pos_iff.mpr (List.ne_nil_of_mem (List.mem_of_getLast? _hlast))
    omega

/-- `has_active_seeding`. -/
def hasActiveSeeding (qb : QbittorrentReadOnlyAdapter) : Reading Bool := do
  let fastest ← qb.torrentProbe "upspeed"
  if fastest.any isActiveSeeding = true then return true
  else do
    let lastState ← qb.torrentProbe "state"
    if lastState.any isActiveSeeding = true then return true
    else qb.hasForcedUpSeeding 0 none none

end QbittorrentReadOnlyAdapter

end LibSeek.Adapters
