/-
The reader of the media source.

The adapter asks for the missing media of each type, page after page.  A page is a stream of lines
of JSON; a line that cannot be read, and a row that is no valid item, are left out with a warning.
The page comes in chunks.  The adapter counts the bytes of a chunk, appends it to its buffer, and
consumes the lines that are ended there.  Where the decoder raises an exception that the adapter does
not handle, for a number with too many digits or a nesting that is too deep, it is the exception of
the page.  Whether there is another page is told by the metadata of the page, if it has any, and else
by the number of items.

Main definitions:

* `Adapters.NextFindAdapter` — the limits of the adapter;
* `Adapters.normalize` — an item of a row;
* `Adapters.consumeLine`, `Adapters.parseChunks` — a line, and a page of a response;
* `Adapters.readDiscoverPage` — a page, with the retries;
* `Adapters.listMissingMedia` — the discovery.
-/

import LibSeek.Lib.Framing
import LibSeek.Lib.Table
import LibSeek.Schemas.Discovery

set_option relaxedAutoImplicit false
set_option autoImplicit false

namespace LibSeek.Adapters

open LibSeek.Core LibSeek.Lib LibSeek.Lib.Framing LibSeek.Models LibSeek.Schemas

/-! ### The adapter and its source -/

/-- The parameters of the adapter. -/
structure NextFindAdapter where
  maxResponseBytes : ℕ := 10 * 1024 * 1024
  maxLineBytes : ℕ := 1024 * 1024
  discoverPageSizeArgument : Int := 500
  streamRetryAttemptsArgument : Int := 3

/-- `self.discover_page_size`. -/
def NextFindAdapter.discoverPageSize (adapter : NextFindAdapter) : ℕ :=
  (max 1 (min adapter.discoverPageSizeArgument 500)).toNat

/-- `self.stream_retry_attempts`. -/
def NextFindAdapter.streamRetryAttempts (adapter : NextFindAdapter) : ℕ :=
  (max 1 adapter.streamRetryAttemptsArgument).toNat

/-- A page is never of size zero. -/
theorem NextFindAdapter.discoverPageSize_pos (adapter : NextFindAdapter) :
    0 < adapter.discoverPageSize := by
  rw [discoverPageSize]
  omega

theorem NextFindAdapter.streamRetryAttempts_pos (adapter : NextFindAdapter) :
    0 < adapter.streamRetryAttempts := by
  rw [streamRetryAttempts]
  omega

/-- `_MISSING_MEDIA_TYPES`. -/
inductive MissingMediaType where
  | movies | series
  deriving DecidableEq, Repr

/-- The parameters of a request for a page, besides those that are always the same. -/
structure DiscoverParams where
  type : MissingMediaType
  page : ℕ
  pageSize : ℕ
  cursor : Option String
  deriving DecidableEq, Repr

/-- What comes of a request: an error of the connection, or a response with its status, the type of
its content and the chunks of its body, which may break off. -/
inductive DiscoverReply where
  | raised (error : AppError)
  | answered (status : ℕ) (contentType : String) (chunks : List (List UInt8))
      (broken : Option AppError)

/-- The media source: the outcome of the login before the pages of each type and of one before a
request is repeated, and the outcome of each attempt at a page. -/
structure DiscoverSource where
  authenticate : MissingMediaType → Except AppError Unit
  reauthenticate : DiscoverParams → Except AppError Unit
  discover : DiscoverParams → (attempt : ℕ) → DiscoverReply

/-! ### Items -/

section Items

variable [NextFindRuntime]

/-- `_positive_int`. -/
def positiveInt (value : Option SourceValue) : Option Int := do
  let result ←
    match ← value with
    | .int n => some n
    | .str text => NextFindRuntime.int text
  if 0 < result then some result else none

/-- `_media_type`; nothing where it raises. -/
def mediaTypeOf (rawType : Option String) : Option MediaType :=
  let normalized := String.ofList (UrlText.lower (strip (rawType.getD "")).toList)
  if normalized ∈ ["movie", "film", "电影"] then some .movie
  else if normalized ∈ ["tv", "series", "电视剧", "剧集"] then some .tv
  else none

omit [NextFindRuntime] in
/-- The value of a media type. -/
def mediaTypeValue : MediaType → String
  | .movie => "movie"
  | .tv => "tv"

/-- The identifier of an item at its source. -/
def sourceItemIdOf (raw : NextFindRawItem) (mediaType : MediaType) (tmdbId : Option Int) : String :=
  let sourceValue := if raw.sourceItemId.any SourceValue.truth then raw.sourceItemId else raw.id
  match sourceValue, tmdbId with
  | some value, _ => "nextfind:" ++ value.text
  | none, some tmdbId => "nextfind:tmdb:" ++ toString tmdbId
  | none, none =>
      let year := if raw.year.any SourceValue.truth then (raw.year.map SourceValue.text).getD "" else ""
      let identity := mediaTypeValue mediaType ++ "|" ++ strip raw.title ++ "|" ++
        raw.originalTitle.getD "" ++ "|" ++ year
      "nextfind:temporary:" ++ NextFindRuntime.sha256Hex24 identity

/-- `_normalize`; nothing where it raises. -/
def normalize (raw : NextFindRawItem) (now : DateTime) : Option MediaItemData := do
  let mediaType ← mediaTypeOf raw.type
  let tmdbId := (positiveInt raw.id).orElse fun _ => positiveInt raw.tmdbId
  let item : MediaItemData :=
    { source := "nextfind"
      sourceItemId := sourceItemIdOf raw mediaType tmdbId
      mediaType := mediaType
      tmdbId := tmdbId
      title := strip raw.title
      originalTitle := raw.originalTitle
      countryCodes := raw.countryCodes
      year := positiveInt raw.year
      posterPath := raw.poster
      rawType := raw.type
      localEpisodes := raw.localEpisodes
      localEpisodeMatrix := raw.localEpisodeMatrix
      totalEpisodes := raw.totalEpisodes
      airedEpisodes := raw.airedEpisodes
      missingEpisodes := raw.missingEpisodes
      identityConfidence := if tmdbId.isSome then .high else .needsConfirmation
      metadataStatus := if tmdbId.isSome then .resolved else .needsConfirmation
      discoveredAt := now
      updatedAt := now }
  item.modelValidate

/-- The item of a row; nothing where the row is not valid. -/
def itemOf (now : DateTime) (row : Members) : Option MediaItemData := do
  let raw ← NextFindRuntime.modelValidate row
  normalize raw now

end Items

/-! ### The metadata of a page -/

/-- `NextFindPaginationState`. -/
structure PaginationState where
  currentPage : Option Int := none
  totalPages : Option Int := none
  nextCursor : Option String := none
  status : Option String := none
  deriving DecidableEq, Repr

/-- What the lines of a page say of its metadata. -/
structure Observation where
  currentPages : List Int := []
  totalPages : List Int := []
  nextCursors : List (Option String) := []
  statuses : List String := []
  invalidFields : List String := []
  deriving DecidableEq, Repr

/-- What two parts of a page say together. -/
def Observation.append (o o' : Observation) : Observation where
  currentPages := o.currentPages ++ o'.currentPages
  totalPages := o.totalPages ++ o'.totalPages
  nextCursors := o.nextCursors ++ o'.nextCursors
  statuses := o.statuses ++ o'.statuses
  invalidFields := o.invalidFields ++ o'.invalidFields

/-- The keys under which a payload may have its metadata. -/
def ENVELOPE_KEYS : List String :=
  ["meta", "pagination", "page_info", "pageInfo"]

/-- `_DISCOVER_DATA_KEYS`. -/
def DISCOVER_DATA_KEYS : List String :=
  ["data", "items", "list"]

/-- `_DISCOVER_CONTROL_KEYS`. -/
def DISCOVER_CONTROL_KEYS : List String :=
  ["type", "status", "current_page", "total_pages", "page_size", "total_results", "next_cursor"]

/-- The value of the first of two keys, the second of which counts only in a nested envelope. -/
def envelopeValue (nested : Bool) (envelope : Members) (key nestedKey : String) : Option Payload :=
  match envelope.get? key with
  | some value => some value
  | none => if nested then envelope.get? nestedKey else none

section Metadata

variable [Python]

/-- What an envelope says. -/
def observeEnvelope (nested : Bool) (envelope : Members) : Observation :=
  let currentPage : Observation :=
    match envelopeValue nested envelope "current_page" "page" with
    | none => {}
    | some (.int value) =>
        if 0 < value then { currentPages := [value] } else { invalidFields := ["current_page"] }
    | some _ => { invalidFields := ["current_page"] }
  let totalPages : Observation :=
    match envelope.get? "total_pages" with
    | none => {}
    | some (.int value) =>
        if 0 < value then { totalPages := [value] } else { invalidFields := ["total_pages"] }
    | some _ => { invalidFields := ["total_pages"] }
  let nextCursor : Observation :=
    match envelopeValue nested envelope "next_cursor" "cursor" with
    | none => {}
    | some .null => { nextCursors := [none] }
    | some (.str value) =>
        if value ≠ "" then { nextCursors := [some value] } else { invalidFields := ["next_cursor"] }
    | some (.int value) => { nextCursors := [some (toString value)] }
    | some _ => { invalidFields := ["next_cursor"] }
  let status : Observation :=
    match envelope.get? "status" with
    | none => {}
    | some (.str value) =>
        if strip value ≠ "" then { statuses := [strip value] } else { invalidFields := ["status"] }
    | some _ => { invalidFields := ["status"] }
  ((currentPage.append totalPages).append nextCursor).append status

/-- `observe_pagination`. -/
def observePagination : Payload → Observation
  | .dict payload =>
      let nested := ENVELOPE_KEYS.filterMap fun key =>
        match Members.get? payload key with
        | some (.dict envelope) => some envelope
        | _ => none
      nested.foldl (fun o envelope => o.append (observeEnvelope true envelope))
        (observeEnvelope false payload)
  | _ => {}

end Metadata

/-- A warning about a page as a whole. -/
def pageWarning (errorCode message : String) : DiscoveryWarning :=
  { errorCode, message }

/-- The one value of a list that has different values in it or not. -/
def onlyValue {α : Type} [DecidableEq α] (values : List α) : Option α :=
  match values.dedup with
  | [value] => some value
  | _ => none

/-- Whether a list has different values in it. -/
def conflicting {α : Type} [DecidableEq α] (values : List α) : Bool :=
  1 < values.dedup.length

/-- The metadata of a page that was asked for by its number, from what its lines say. -/
def paginationState (o : Observation) (expectedPage : ℕ) : List DiscoveryWarning × PaginationState :=
  let conflictingPages := conflicting o.currentPages || conflicting o.totalPages
  let invalidWarning :=
    if o.invalidFields ≠ [] then
      [pageWarning "PAGINATION_METADATA_INVALID" "NextFind 部分分页元数据无效，已忽略无效字段"]
    else []
  let conflictWarning :=
    if conflictingPages || conflicting o.nextCursors then
      [pageWarning "PAGINATION_METADATA_CONFLICT" "NextFind 部分分页元数据不一致，已忽略冲突字段"]
    else []
  let unusable := "current_page" ∈ o.invalidFields || "total_pages" ∈ o.invalidFields ||
    conflictingPages
  let currentPage := if unusable then none else onlyValue o.currentPages
  let totalPages := if unusable then none else onlyValue o.totalPages
  let nextCursor :=
    if unusable || "next_cursor" ∈ o.invalidFields then none
    else (onlyValue o.nextCursors).join
  let relationConflict := currentPage.any (fun page => page ≠ (expectedPage : Int)) ||
    currentPage.any (fun page => totalPages.any (· < page))
  let relationWarning :=
    if relationConflict then
      [pageWarning "PAGINATION_METADATA_CONFLICT" "NextFind 分页页码关系不一致，已回退到安全的条数判断"]
    else []
  let currentPage := if relationConflict then none else currentPage
  let totalPages := if relationConflict then none else totalPages
  let nextCursor := if relationConflict then none else nextCursor
  let pastLast := nextCursor.isSome && totalPages.any (fun total => total ≤ (expectedPage : Int))
  let lastWarning :=
    if pastLast then
      [pageWarning "PAGINATION_METADATA_CONFLICT" "NextFind 终页仍返回游标，已按终页安全停止"]
    else []
  (invalidWarning ++ conflictWarning ++ relationWarning ++ lastWarning,
    { currentPage
      totalPages
      nextCursor := if pastLast then none else nextCursor
      status := o.statuses.getLast? })

/-! ### The lines of a page -/

/-- `_is_discover_control_segment`. -/
def isDiscoverControlSegment : Payload → Bool
  | .dict payload =>
      payload ≠ [] && !payload.any (fun member => member.1 ∈ DISCOVER_DATA_KEYS) &&
        payload.all fun member => member.1 ∈ DISCOVER_CONTROL_KEYS ++ ENVELOPE_KEYS
  | _ => false

/-- The dictionaries of a list. -/
def dictionaries (items : List Payload) : List Members :=
  items.filterMap fun item =>
    match item with
    | .dict members => some members
    | _ => none

/-- `_unwrap_payload`. -/
def unwrapPayload : Payload → List Members
  | .list items => dictionaries items
  | .dict payload =>
      match (Members.get? payload "data").getD
          ((Members.get? payload "items").getD (.dict payload)) with
      | .list items => dictionaries items
      | .dict data => [data]
      | _ => []
  | _ => []

/-- Whether `bytes.strip` takes a byte away. -/
def isByteSpace (byte : UInt8) : Bool :=
  byte = 32 || (9 ≤ byte && byte ≤ 13)

/-- What is left of a line at its end: its carriage returns are not part of it. -/
def rstripReturns (line : List UInt8) : List UInt8 :=
  (line.reverse.dropWhile (· = 13)).reverse

/-- The lines of a body.  What follows the last line break is a line if there is anything. -/
def linesOf (body : List UInt8) : List (List UInt8) :=
  let pieces := body.splitOn 10
  let lines := if pieces.getLast? = some [] then pieces.dropLast else pieces
  lines.map rstripReturns

/-- What is read of a page. -/
structure Parsed where
  records : List MediaItemData := []
  warnings : List DiscoveryWarning := []
  observed : Observation := {}

/-- What a page comes to. -/
abbrev Page := List MediaItemData × List DiscoveryWarning × PaginationState

/-- The error of a page that is too large. -/
def responseTooLarge : AppError :=
  { errorCode := "UPSTREAM_RESPONSE_TOO_LARGE", message := "NextFind 响应体超过安全限制" }

/-- What two parts of a page hold together. -/
def Parsed.append (p p' : Parsed) : Parsed where
  records := p.records ++ p'.records
  warnings := p.warnings ++ p'.warnings
  observed := p.observed.append p'.observed

section Lines

variable [NextFindRuntime] (adapter : NextFindAdapter) (now : DateTime)

/-- A row of a line. -/
def consumeRow (lineNumber : ℕ) (row : Members) : Parsed :=
  match itemOf now row with
  | some item => { records := [item] }
  | none =>
      { warnings :=
          [{ lineNumber := some lineNumber, errorCode := "ITEM_VALIDATION_ERROR"
             message := "已隔离字段不完整的数据项" }] }

/-- `consume`, where `json.loads` raises nothing but what is caught. -/
def consume (lineNumber : ℕ) (line : List UInt8) : Parsed :=
  if line.all isByteSpace then {}
  else if adapter.maxLineBytes < line.length then
    { warnings :=
        [{ lineNumber := some lineNumber, errorCode := "NDJSON_LINE_TOO_LARGE"
           message := "已隔离超出大小限制的数据行" }] }
  else
    match NextFindRuntime.loads line with
    | none =>
        { warnings :=
            [{ lineNumber := some lineNumber, errorCode := "NDJSON_BAD_LINE"
               message := "已隔离损坏的数据行" }] }
    | some payload =>
        let observed : Parsed := { observed := observePagination payload }
        if isDiscoverControlSegment payload then observed
        else (unwrapPayload payload).foldl
          (fun parsed row => parsed.append (consumeRow now lineNumber row)) observed

/-- The lines of a page, from the one with a number on. -/
def consumeAll : (lineNumber : ℕ) → List (List UInt8) → Parsed
  | _, [] => {}
  | lineNumber, line :: lines =>
      (consume adapter now lineNumber line).append (consumeAll (lineNumber + 1) lines)

/-- `_parse_stream` of the bytes that come in, where no line raises. -/
def parseStream (body : List UInt8) (broken : Option AppError) (expectedPage : ℕ) :
    Except AppError Page :=
  if adapter.maxResponseBytes < body.length then .error responseTooLarge
  else
    match broken with
    | some error => .error error
    | none =>
        let parsed := consumeAll adapter now 1 (linesOf body)
        let state := paginationState parsed.observed expectedPage
        .ok (parsed.records, parsed.warnings ++ state.1, state.2)

end Lines

/-! ### The lines of a page, one after the other -/

/-- The runtime with what its decoder raises besides the errors that the adapter handles. -/
class StreamRuntime extends NextFindRuntime where
  /-- The exception of `json.loads`, if it raises one that is neither a `JSONDecodeError` nor a
  `UnicodeDecodeError`. -/
  loadsRaises : List UInt8 → Option String
  /-- Where it raises, it returns nothing. -/
  loads_raises : ∀ line, loadsRaises line ≠ none → loads line = none

/-- What has been read of a page: how many lines, and what they say. -/
structure Consumed where
  lineNumber : ℕ := 0
  parsed : Parsed := {}

section Discovery

variable [StreamRuntime] (adapter : NextFindAdapter) (now : DateTime)

/-- The exception that a line raises, if it is decoded. -/
def lineRaises (line : List UInt8) : Option String :=
  if line.all isByteSpace || adapter.maxLineBytes < line.length then none
  else StreamRuntime.loadsRaises line

/-- `consume`, of a line that its returns are stripped off. -/
def consumeLine (consumed : Consumed) (rawLine : List UInt8) : Except Exn Consumed :=
  let line := rstripReturns rawLine
  let lineNumber := consumed.lineNumber + 1
  match lineRaises adapter line with
  | some exception => .error (.other exception)
  | none => .ok { lineNumber, parsed := consumed.parsed.append (consume adapter now lineNumber line) }

/-- The end of `_parse_stream`: what is in the buffer is a line, and the metadata is judged. -/
def finishPage (expectedPage : ℕ) (reader : Reader UInt8 Consumed) : Except Exn Page := do
  let consumed ←
    if reader.buffer = [] then pure reader.state
    else consumeLine adapter now reader.state reader.buffer
  let state := paginationState consumed.parsed.observed expectedPage
  return (consumed.parsed.records, consumed.parsed.warnings ++ state.1, state.2)

/-- What comes after the chunks: the error of a connection that broke off, or the end. -/
def endPage (broken : Option AppError) (expectedPage : ℕ) (reader : Reader UInt8 Consumed) :
    Except Exn Page :=
  match broken with
  | some error => .error (.app error)
  | none => finishPage adapter now expectedPage reader

/-- **`_parse_stream`, of the chunks that come in.** -/
def parseChunks (chunks : List (List UInt8)) (broken : Option AppError) (expectedPage : ℕ) :
    Except Exn Page :=
  readWithin 10 (consumeLine adapter now) adapter.maxResponseBytes (.app responseTooLarge) {} chunks
    >>= endPage adapter now broken expectedPage

/-! ### A page -/

omit [StreamRuntime] in
/-- `_raise_for_status`, of a response that is no answer to a login. -/
def raiseForStatus (status : ℕ) : Except AppError Unit :=
  if 200 ≤ status ∧ status < 300 then .ok ()
  else if status = 401 then
    .error { errorCode := "AUTH_EXPIRED", message := "NextFind 登录已失效", statusCode := 401 }
  else if status = 403 then
    .error { errorCode := "AUTH_FORBIDDEN", message := "NextFind 拒绝了当前会话", statusCode := 403 }
  else if status = 429 then
    .error
      { errorCode := "UPSTREAM_RATE_LIMITED", message := "NextFind 请求过于频繁，请稍后重试"
        statusCode := 429, retryable := true }
  else if 500 ≤ status then
    .error
      { errorCode := "UPSTREAM_UNAVAILABLE", message := "NextFind 服务暂时不可用"
        statusCode := 502, retryable := true }
  else
    .error
      { errorCode := "UPSTREAM_HTTP_ERROR", message := "NextFind 返回了无法处理的状态"
        statusCode := 502 }

/-- `_require_json_content`. -/
def requireJsonContent (contentType : String) : Except AppError Unit :=
  if "json".toList <:+: UrlText.lower contentType.toList then .ok ()
  else
    .error
      { errorCode := "UPSTREAM_NON_JSON", message := "NextFind 返回了非 JSON 响应", statusCode := 502 }

/-- What an attempt at a page comes to. -/
inductive PageAttempt where
  | read (items : List MediaItemData) (warnings : List DiscoveryWarning) (state : PaginationState)
  | gone
  | failed (error : AppError) (whileReading : Bool)
  | raised (exception : Exn)

/-- An attempt at a page; `later` says that a missing page means a session that was lost. -/
def attemptPage (reply : DiscoverReply) (page : ℕ) (later : Bool) : PageAttempt :=
  match reply with
  | .raised error => .failed error false
  | .answered status contentType chunks broken =>
      if status = 404 ∧ later then .gone
      else
        match raiseForStatus status, requireJsonContent contentType with
        | .error error, _ => .failed error false
        | .ok _, .error error => .failed error false
        | .ok _, .ok _ =>
            match parseChunks adapter now chunks broken page with
            | .ok (items, warnings, state) => .read items warnings state
            | .error (.app error) => .failed error true
            | .error exception => .raised exception

omit [StreamRuntime] in
/-- Whether an error is one after which a page is tried again. -/
def isRetried (error : AppError) : Bool :=
  error.retryable &&
    (error.errorCode = "UPSTREAM_TIMEOUT" || error.errorCode = "UPSTREAM_NETWORK_ERROR")

/-- `_read_discover_page`, with the attempts that remain: there is one more of them after the
session was lost, which happens once, so that the fuel is one more than the attempts. -/
def readDiscoverPage (source : DiscoverSource) (params : DiscoverParams) :
    (fuel remaining attempt : ℕ) → (streamFailed reauthenticated : Bool) →
    Except Exn (List MediaItemData × List DiscoveryWarning × PaginationState)
  | 0, _, _, _, _ => .error (.other "RuntimeError")
  | fuel + 1, remaining, attempt, streamFailed, reauthenticated =>
      match attemptPage adapter now (source.discover params attempt) params.page
        (1 < params.page || streamFailed) with
      | .read items warnings state => .ok (items, warnings, state)
      | .gone =>
          if reauthenticated then
            .error (.app
              { errorCode := "UPSTREAM_PAGINATION_UNSTABLE"
                message := "NextFind 分页状态暂时不稳定，请稍后重试"
                statusCode := 502, retryable := true })
          else
            match source.reauthenticate params with
            | .error error => .error (.app error)
            | .ok _ => readDiscoverPage source params fuel remaining (attempt + 1) streamFailed true
      | .failed error whileReading =>
          if isRetried error ∧ 1 < remaining then
            readDiscoverPage source params fuel (remaining - 1) (attempt + 1)
              (streamFailed || whileReading) reauthenticated
          else .error (.app error)
      | .raised exception => .error exception

/-! ### The discovery -/

omit [StreamRuntime] in
/-- `_merge_discovered_item`. -/
def mergeDiscoveredItem (merged : Table MediaItemData) (item : MediaItemData) :
    Table MediaItemData :=
  match merged.get? item.key with
  | some previous =>
      if previous.countryCodes ≠ none ∧ item.countryCodes = none then
        merged.save { item with countryCodes := previous.countryCodes }
      else merged.save item
  | none => merged.save item

/-- What was listed of the media of one type, and the requests that it took. -/
structure Listing where
  merged : Table MediaItemData := ∅
  warnings : List DiscoveryWarning := []
  requests : List DiscoverParams := []

/-- The loop of `_list_missing_media_type`. -/
def listPages (source : DiscoverSource) (mediaType : MissingMediaType) :
    (fuel page : ℕ) → (cursor : Option String) → (seenCursors : List String) →
    (seenPages : List (List String)) → Listing → Except Exn Listing
  | 0, _, _, _, _, listing =>
      .ok { listing with
        warnings := listing.warnings ++
          [pageWarning "PAGINATION_LIMIT_REACHED" "发现页数达到安全上限，已停止继续读取"] }
  | fuel + 1, page, cursor, seenCursors, seenPages, listing =>
      let params : DiscoverParams :=
        { type := mediaType, page, pageSize := adapter.discoverPageSize, cursor }
      match readDiscoverPage adapter now source params (adapter.streamRetryAttempts + 1)
        adapter.streamRetryAttempts 1 false false with
      | .error e => .error e
      | .ok (items, warnings, pagination) =>
          let asked : Listing :=
            { listing with
              warnings := listing.warnings ++ warnings
              requests := listing.requests ++ [params] }
          let fingerprint := items.map MediaItemData.sourceItemId
          if fingerprint ≠ [] ∧ fingerprint ∈ seenPages then
            .ok { asked with
              warnings := asked.warnings ++
                [pageWarning "PAGINATION_LOOP_ISOLATED" "检测到重复分页，已安全停止继续读取"] }
          else
            let seenPages := fingerprint :: seenPages
            let kept : Listing := { asked with merged := items.foldl mergeDiscoveredItem asked.merged }
            match pagination.nextCursor with
            | some nextCursor =>
                if nextCursor ∈ seenCursors then
                  .ok { kept with
                    warnings := kept.warnings ++
                      [pageWarning "CURSOR_LOOP_ISOLATED" "检测到重复游标，已安全停止继续读取"] }
                else
                  listPages source mediaType fuel (page + 1) (some nextCursor)
                    (nextCursor :: seenCursors) seenPages kept
            | none =>
                match pagination.totalPages with
                | some totalPages =>
                    if totalPages ≤ page then .ok kept
                    else listPages source mediaType fuel (page + 1) none seenCursors seenPages kept
                | none =>
                    if items.length < adapter.discoverPageSize then .ok kept
                    else listPages source mediaType fuel (page + 1) none seenCursors seenPages kept

/-- The most pages of one type that are asked for. -/
def DISCOVER_PAGE_LIMIT : ℕ := 1000

/-- `_list_missing_media_type`. -/
def listMissingMediaType (source : DiscoverSource) (mediaType : MissingMediaType) :
    Except Exn Listing :=
  listPages adapter now source mediaType DISCOVER_PAGE_LIMIT 1 none [] [] {}

/-- What is listed of one more type, after a login. -/
def listMore (source : DiscoverSource) (mediaType : MissingMediaType) (listing : Listing) :
    Except Exn Listing := do
  (source.authenticate mediaType).mapError Exn.app
  let more ← listMissingMediaType adapter now source mediaType
  return {
    merged := more.merged.rows.foldl mergeDiscoveredItem listing.merged
    warnings := listing.warnings ++ more.warnings
    requests := listing.requests ++ more.requests }

/-- `list_missing_media`, of an adapter that is not logged in yet. -/
def listMissingMedia (source : DiscoverSource) : Except Exn Listing := do
  let movies ← listMore adapter now source .movies {}
  listMore adapter now source .series movies

end Discovery

end LibSeek.Adapters
