/-
The guarded clients of the web.

Three clients follow the redirects of a server by hand: the client of the metadata services and
downloaders, the client of NextFind, and the session of the NexusPHP sites.  What a server answers
is taken as given, on every hop anew; what they send is a chain of requests.

Main definitions:

* `Adapters.HttpRequest`, `Adapters.HttpReply` — what is sent, and what comes back;
* `Adapters.SafeAsyncHttpClient.request` — the client of the metadata services;
* `Adapters.NextFindSession.openResponse` — the client of NextFind;
* `Adapters.SameOriginNexusSession.request` — the session of the NexusPHP sites;
* `Adapters.SafeAsyncHttpClient.Confined`, `Adapters.NextFindSession.Confined`,
  `Adapters.SameOriginNexusSession.Confined` — **where credentials and bodies go**.

Main results:

* `Adapters.redirects_confined` — **the clients keep credentials and bodies where they belong**;
* `Adapters.openResponse_cookie_moves` — a cookie of another host is sent to that host.
-/

import LibSeek.Core.ExternalUrl
import LibSeek.Lib.Json

set_option relaxedAutoImplicit false
set_option autoImplicit false

namespace LibSeek.Adapters

open LibSeek.Core LibSeek.Lib

/-! ### Requests and replies -/

/-- A response, as far as it arrived: the body may break off. -/
structure HttpResponse where
  statusCode : ℕ
  location : Option String := none
  setCookie : List String := []
  contentType : String := ""
  retryAfter : Option String := none
  content : List UInt8 := []
  brokenOff : Option Exn := none

/-- `httpx.Response.is_redirect`. -/
def HttpResponse.isRedirect (response : HttpResponse) : Bool :=
  300 ≤ response.statusCode && response.statusCode ≤ 399

/-- `httpx.TimeoutException`. -/
def timeoutException : Exn :=
  .other "TimeoutException"

/-- What becomes of a request that is sent.  A redirect may raise already there: `httpx` builds the
request that would follow it, and not every address is one that it can build a request for. -/
inductive HttpReply where
  | timeout
  | networkError
  | invalidRedirect
  | answered (response : HttpResponse)

/-- The cookies of a client of `httpx`: what is sent to an address, and what is kept of a
response.  Where there are no cookies, none is sent. -/
class HttpxCookies (Jar : Type) where
  header : Jar → String → Option String
  extract : Jar → String → HttpResponse → Jar
  isEmpty : Jar → Bool
  header_isEmpty : ∀ jar url, isEmpty jar = true → header jar url = none

/-- A request that is sent, with the cookies of the client at that time. -/
structure HttpRequest (Jar : Type) where
  method : String
  url : String
  params : List (String × String) := []
  jsonBody : Option Json := none
  headers : List (String × String) := []
  jar : Jar

/-- `SafeHttpResult`. -/
structure SafeHttpResult where
  statusCode : ℕ
  contentType : String
  content : List UInt8
  retryAfter : Option String

/-- `SafeHttpResult`, of a response that was read to its end. -/
def SafeHttpResult.ofResponse (response : HttpResponse) : SafeHttpResult where
  statusCode := response.statusCode
  contentType := response.contentType
  content := response.content
  retryAfter := response.retryAfter

section Clients

variable {Jar : Type} [HttpxCookies Jar]

/-- The request after a redirect: its parameters are dropped, and on some statuses its method and
its body too. -/
def HttpRequest.redirected (request : HttpRequest Jar) (response : HttpResponse) (url : String) :
    HttpRequest Jar where
  method := if response.statusCode ∈ [301, 302, 303] then "GET" else request.method
  url := url
  jsonBody := if response.statusCode ∈ [301, 302, 303] then none else request.jsonBody
  headers := request.headers
  jar := HttpxCookies.extract request.jar request.url response

/-- A request without a body is gone on with without one. -/
theorem jsonBody_redirected {request : HttpRequest Jar} (h : request.jsonBody = none)
    (response : HttpResponse) (url : String) :
    (request.redirected response url).jsonBody = none := by
  show (if response.statusCode ∈ [301, 302, 303] then none else request.jsonBody) = none
  rw [h, ite_self]

section Authorization

variable [Python]

omit [HttpxCookies Jar] in
/-- A request to which its caller gave credentials. -/
def HttpRequest.hasAuthorization (request : HttpRequest Jar) : Bool :=
  request.headers.any fun header => casefold header.1 = "authorization"

/-- A request that carries credentials, cookies or a body. -/
def HttpRequest.carries (request : HttpRequest Jar) : Bool :=
  request.hasAuthorization || (HttpxCookies.header request.jar request.url).isSome ||
    request.jsonBody.isSome

end Authorization

/-- The address that a response names. -/
def locationOf (response : HttpResponse) (error : AppError) : Except Exn String :=
  orRaise (response.location.filter (· ≠ "")) (.app error)

variable [HttpRuntime]

/-! ### The client of the metadata services -/

/-- `SafeAsyncHttpClient`, with the check of its `__init__`. -/
structure SafeAsyncHttpClient where
  baseUrl : String
  allowedHosts : List String
  maxResponseBytes : ℕ
  base_valid : validateExternalUrl baseUrl allowedHosts = .ok ()

/-- What stands before a request is sent: the allowed hosts, what `httpx` accepts, and the guard of
the caller. -/
def SafeAsyncHttpClient.vet (client : SafeAsyncHttpClient) (beforeSend : ℕ → Except Exn Unit)
    (hop : ℕ) (request : HttpRequest Jar) : Except Exn Unit := do
  validateExternalUrl request.url client.allowedHosts
  requireHttpxUrl request.url
  beforeSend hop

/-- The redirects that are followed. -/
def SafeAsyncHttpClient.redirect (client : SafeAsyncHttpClient) (request : HttpRequest Jar)
    (response : HttpResponse) : Except Exn (HttpRequest Jar) := do
  let location ← locationOf response
    { errorCode := "UPSTREAM_INVALID_REDIRECT", message := "上游返回了无效跳转" }
  let redirectUrl ← urljoin request.url location
  validateExternalUrl redirectUrl client.allowedHosts
  refuseCrossOrigin safeOrigin (request.jsonBody.isSome || request.hasAuthorization) redirectUrl
    request.url "携带认证信息的外部请求拒绝跨源跳转"
  return request.redirected response redirectUrl

/-- The body of a response, up to the limit. -/
def SafeAsyncHttpClient.readContent (client : SafeAsyncHttpClient) (response : HttpResponse) :
    Except Exn SafeHttpResult :=
  if client.maxResponseBytes < response.content.length then
    .error (.app { errorCode := "UPSTREAM_RESPONSE_TOO_LARGE", message := "上游响应体超过安全限制"
                   statusCode := 502 })
  else
    match response.brokenOff with
    | none => .ok (SafeHttpResult.ofResponse response)
    | some e =>
        if e = timeoutException then
          .error (.app { errorCode := "UPSTREAM_TIMEOUT", message := "外部只读请求响应读取超时"
                         statusCode := 504, retryable := true })
        else
          .error (.app { errorCode := "UPSTREAM_NETWORK_ERROR"
                         message := "外部只读请求响应读取中断", statusCode := 502
                         retryable := true })

/-- What becomes of a request that is sent. -/
def SafeAsyncHttpClient.send (client : SafeAsyncHttpClient) (upstream : ℕ → HttpReply) (hop : ℕ)
    (request : HttpRequest Jar) : Except Exn (HttpRequest Jar ⊕ SafeHttpResult) :=
  match upstream hop with
  | .timeout =>
      .error (.app { errorCode := "UPSTREAM_TIMEOUT", message := "外部只读请求超时"
                     statusCode := 504, retryable := true })
  | .networkError =>
      .error (.app { errorCode := "UPSTREAM_NETWORK_ERROR", message := "外部只读网络请求失败"
                     statusCode := 502, retryable := true })
  | .invalidRedirect => .error invalidUrl
  | .answered response =>
      if response.isRedirect = true then Sum.inl <$> client.redirect request response
      else Sum.inr <$> client.readContent response

/-- `SafeAsyncHttpClient.request`: the requests that are sent, and what it ends with. -/
def SafeAsyncHttpClient.request (client : SafeAsyncHttpClient) (upstream : ℕ → HttpReply)
    (beforeSend : ℕ → Except Exn Unit) (method path : String) (params : List (String × String))
    (jsonBody : Option Json) (headers : List (String × String)) (jar : Jar) :
    List (HttpRequest Jar) × Except Exn SafeHttpResult :=
  match urljoin (client.baseUrl ++ "/") (lstripSlash path) with
  | .error e => ([], .error e)
  | .ok url =>
      follow (client.vet beforeSend) (client.send upstream)
        (.app { errorCode := "UPSTREAM_TOO_MANY_REDIRECTS", message := "上游跳转次数过多"
                statusCode := 502 })
        4 0 { method, url, params, jsonBody, headers, jar }

/-- `AvistaZAdapter._remember_download_url`: the address that is kept of what the site names. -/
def SafeAsyncHttpClient.rememberDownloadUrl (client : SafeAsyncHttpClient) (rawUrl : String) :
    Except Exn String := do
  let resolved ← urljoin (client.baseUrl ++ "/") rawUrl
  validateExternalUrl resolved client.allowedHosts
  let origin ← urlOrigin resolved
  let own ← urlOrigin client.baseUrl
  ensure (origin = own)
    (.app { errorCode := "AVISTAZ_DOWNLOAD_ORIGIN_NOT_ALLOWED"
            message := "AvistaZ 种子下载地址与认证站点不同源", statusCode := 502 })
  return resolved

/-- What the adapters ask a client for: a path, or an address that was compared with its own. -/
def SafeAsyncHttpClient.IsAsked (client : SafeAsyncHttpClient) (path : String) : Prop :=
  isPlainPath (lstripSlash path) = true ∨ ∃ rawUrl, client.rememberDownloadUrl rawUrl = .ok path

/-! ### The client of NextFind -/

/-- `NextFindAdapter`, as far as it sends requests, with the check of its `__init__`: whether it has
logged in is known throughout one of them. -/
structure NextFindSession where
  baseUrl : String
  allowedHosts : List String
  authenticated : Bool
  base_valid : validateExternalUrl baseUrl allowedHosts = .ok ()

/-- What stands before a request is sent. -/
def NextFindSession.vet (session : NextFindSession) (_hop : ℕ) (request : HttpRequest Jar) :
    Except Exn Unit := do
  validateExternalUrl request.url session.allowedHosts
  requireHttpxUrl request.url

/-- The redirects that are followed: the cookies of the response count too. -/
def NextFindSession.redirect (session : NextFindSession) (request : HttpRequest Jar)
    (response : HttpResponse) : Except Exn (HttpRequest Jar) := do
  let location ← locationOf response
    { errorCode := "UPSTREAM_INVALID_REDIRECT", message := "NextFind 返回了无效跳转" }
  let redirectUrl ← urljoin request.url location
  validateExternalUrl redirectUrl session.allowedHosts
  refuseCrossOrigin nextFindOrigin
    (request.jsonBody.isSome || session.authenticated ||
      !HttpxCookies.isEmpty (HttpxCookies.extract request.jar request.url response))
    redirectUrl request.url "NextFind 请求拒绝跨源跳转"
  return request.redirected response redirectUrl

/-- What becomes of a request that is sent. -/
def NextFindSession.send (session : NextFindSession) (upstream : ℕ → HttpReply)
    (allowRedirects : Bool) (hop : ℕ) (request : HttpRequest Jar) :
    Except Exn (HttpRequest Jar ⊕ HttpResponse) :=
  match upstream hop with
  | .timeout =>
      .error (.app { errorCode := "UPSTREAM_TIMEOUT", message := "NextFind 请求超时"
                     statusCode := 504, retryable := true })
  | .networkError =>
      .error (.app { errorCode := "UPSTREAM_NETWORK_ERROR", message := "NextFind 网络请求失败"
                     statusCode := 502, retryable := true })
  | .invalidRedirect => .error invalidUrl
  | .answered response =>
      if (!response.isRedirect || !allowRedirects) = true then .ok (.inr response)
      else Sum.inl <$> session.redirect request response

/-- `NextFindAdapter._open_response`: the requests that are sent, and what it ends with. -/
def NextFindSession.openResponse (session : NextFindSession) (upstream : ℕ → HttpReply)
    (method path : String) (params : List (String × String)) (jsonBody : Option Json)
    (allowRedirects : Bool) (jar : Jar) : List (HttpRequest Jar) × Except Exn HttpResponse :=
  match urljoin (session.baseUrl ++ "/") (lstripSlash path) with
  | .error e => ([], .error e)
  | .ok url =>
      follow session.vet (session.send upstream allowRedirects)
        (.app { errorCode := "UPSTREAM_TOO_MANY_REDIRECTS", message := "NextFind 跳转次数过多" })
        4 0 { method, url, params, jsonBody, jar }

/-! ### The session of the NexusPHP sites -/

/-- `SameOriginNexusSession`, with the origin of its own address. -/
structure SameOriginNexusSession where
  baseUrl : String
  origin : UrlOrigin
  allowedHosts : List String
  maxResponseBytes : ℕ
  origin_eq : urlOrigin baseUrl = .ok origin

/-- The errors of a host that may not be asked. -/
def hostNotAllowed (message : String) (statusCode : ℕ) : Exn :=
  .app { errorCode := "NEXUSPHP_HOST_NOT_ALLOWED", message, statusCode }

/-- The session at the origin of an address. -/
def SameOriginNexusSession.ofBase (baseUrl : String) (allowedHosts : List String)
    (maxResponseBytes : ℕ) : Except Exn SameOriginNexusSession :=
  match h : urlOrigin baseUrl with
  | .error e => .error e
  | .ok origin => .ok { baseUrl, origin, allowedHosts, maxResponseBytes, origin_eq := h }

/-- `SameOriginNexusSession.__init__`. -/
def SameOriginNexusSession.init (baseUrl : String) (allowedHosts : List String)
    (maxResponseBytes : ℕ) : Except Exn SameOriginNexusSession := do
  let normalizedAllowedHosts ← orRaise (allowedHosts.mapM normalizePublicDnsHost)
    (hostNotAllowed "NexusPHP 目标主机不符合安全边界" 400)
  let parsed ← orRaise (Python.urlsplit baseUrl)
    (hostNotAllowed "NexusPHP 目标主机不符合安全边界" 400)
  let baseHost ← orRaise (normalizePublicDnsHost (parsed.hostname.getD ""))
    (hostNotAllowed "NexusPHP 目标主机不符合安全边界" 400)
  ensure (baseHost ∈ normalizedAllowedHosts)
    (hostNotAllowed "NexusPHP 目标主机不在显式白名单中" 400)
  SameOriginNexusSession.ofBase (rstripSlash baseUrl) normalizedAllowedHosts maxResponseBytes

/-- The origin and the host of a target, whose errors are those of an invalid redirect. -/
def nexusTarget (resolved : String) : Except Exn (UrlOrigin × String) :=
  match urlOrigin resolved, (Python.urlsplit resolved).bind
      (fun parsed => normalizePublicDnsHost (parsed.hostname.getD "")) with
  | .ok origin, some host => .ok (origin, host)
  | _, _ =>
      .error (.app { errorCode := "NEXUSPHP_INVALID_REDIRECT"
                     message := "NexusPHP 返回了无效跳转地址", statusCode := 502 })

/-- `SameOriginNexusSession._same_origin_url`. -/
def SameOriginNexusSession.sameOriginUrl (session : SameOriginNexusSession)
    (currentUrl target : String) : Except Exn String := do
  let resolved ← urljoin currentUrl target
  let parsed ← orRaise (Python.urlsplit resolved) valueError
  let (targetOrigin, targetHost) ← nexusTarget resolved
  ensure (casefold parsed.scheme = "https" ∧ parsed.username = none ∧ parsed.password = none ∧
      targetOrigin = session.origin)
    (.app { errorCode := "NEXUSPHP_CROSS_ORIGIN_REDIRECT", message := "NexusPHP 请求拒绝跨源跳转"
            statusCode := 502 })
  ensure (targetHost ∈ session.allowedHosts)
    (hostNotAllowed "NexusPHP 目标主机不在显式白名单中" 502)
  return resolved

/-- The answers of a resolver: the addresses of a host, or nothing where it fails. -/
abbrev AddressResolver :=
  String → ℕ → Option (List String)

/-- `SameOriginNexusSession._validate_resolved_target`. -/
def validateResolvedTarget (resolve : AddressResolver) (value : String) : Except Exn Unit := do
  let parsed ← orRaise (Python.urlsplit value) valueError
  let port ← orRaise parsed.port valueError
  let addresses ← orRaise
    ((resolve (parsed.hostname.getD "") (portOr 443 port)).bind
      (List.mapM HttpRuntime.ipAddress))
    (.app { errorCode := "NEXUSPHP_HOST_RESOLUTION_FAILED", message := "NexusPHP 目标主机解析失败"
            statusCode := 502, retryable := true })
  ensure (addresses ≠ [] ∧ addresses.all id = true)
    (.app { errorCode := "NEXUSPHP_HOST_ADDRESS_NOT_ALLOWED"
            message := "NexusPHP 目标主机解析到了非公网地址", statusCode := 400 })

/-- `{**details, "external_request_performed": False}`. -/
def notPerformed (details : List (String × Scalar)) : List (String × Scalar) :=
  if details.any (fun entry => entry.1 = "external_request_performed") then
    details.map fun entry =>
      if entry.1 = "external_request_performed" then (entry.1, .bool false) else entry
  else details ++ [("external_request_performed", .bool false)]

/-- `SameOriginNexusSession._run_before_send_guard`. -/
def SameOriginNexusSession.runBeforeSendGuard : Except Exn Unit → Except Exn Unit
  | .ok _ => .ok ()
  | .error (.app e) => .error (.app { e with details := notPerformed e.details })
  | .error _ =>
      .error (.app { errorCode := "NEXUSPHP_REQUEST_GUARD_FAILED"
                     message := "NexusPHP 请求围栏校验失败", statusCode := 409
                     details := [("external_request_performed", .bool false)] })

/-- What stands before a request is sent: the addresses of the host, what `httpx` accepts, and the
guard of the caller. -/
def SameOriginNexusSession.vet (resolve : ℕ → AddressResolver)
    (beforeSend : ℕ → Except Exn Unit) (hop : ℕ) (request : HttpRequest Jar) :
    Except Exn Unit := do
  validateResolvedTarget (resolve hop) request.url
  requireHttpxUrl request.url
  SameOriginNexusSession.runBeforeSendGuard (beforeSend hop)

/-- The redirects that are followed. -/
def SameOriginNexusSession.redirect (session : SameOriginNexusSession) (request : HttpRequest Jar)
    (response : HttpResponse) : Except Exn (HttpRequest Jar) := do
  let location ← locationOf response
    { errorCode := "NEXUSPHP_INVALID_REDIRECT", message := "NexusPHP 返回了无效跳转"
      statusCode := 502 }
  let redirectUrl ← session.sameOriginUrl request.url location
  return request.redirected response redirectUrl

/-- The body of a response, up to the limit: what breaks off is not caught. -/
def SameOriginNexusSession.readContent (session : SameOriginNexusSession)
    (response : HttpResponse) : Except Exn SafeHttpResult :=
  if session.maxResponseBytes < response.content.length then
    .error (.app { errorCode := "NEXUSPHP_RESPONSE_TOO_LARGE", message := "NexusPHP 响应超过安全上限"
                   statusCode := 502 })
  else
    match response.brokenOff with
    | none => .ok (SafeHttpResult.ofResponse response)
    | some e => .error e

/-- What becomes of a request that is sent. -/
def SameOriginNexusSession.send (session : SameOriginNexusSession) (upstream : ℕ → HttpReply)
    (hop : ℕ) (request : HttpRequest Jar) : Except Exn (HttpRequest Jar ⊕ SafeHttpResult) :=
  match upstream hop with
  | .timeout =>
      .error (.app { errorCode := "NEXUSPHP_TIMEOUT", message := "NexusPHP 只读请求超时"
                     statusCode := 504, retryable := true })
  | .networkError =>
      .error (.app { errorCode := "NEXUSPHP_NETWORK_ERROR", message := "NexusPHP 只读网络请求失败"
                     statusCode := 502, retryable := true })
  | .invalidRedirect => .error invalidUrl
  | .answered response =>
      if response.isRedirect = true then Sum.inl <$> session.redirect request response
      else Sum.inr <$> session.readContent response

/-- `SameOriginNexusSession.request`: the requests that are sent, and what it ends with. -/
def SameOriginNexusSession.request (session : SameOriginNexusSession)
    (resolve : ℕ → AddressResolver) (upstream : ℕ → HttpReply) (beforeSend : ℕ → Except Exn Unit)
    (method path : String) (params headers : List (String × String)) (jar : Jar) :
    List (HttpRequest Jar) × Except Exn SafeHttpResult :=
  match session.sameOriginUrl (session.baseUrl ++ "/") (lstripSlash path) with
  | .error e => ([], .error e)
  | .ok url =>
      follow (SameOriginNexusSession.vet resolve beforeSend) (session.send upstream)
        (.app { errorCode := "NEXUSPHP_TOO_MANY_REDIRECTS", message := "NexusPHP 跳转次数过多"
                statusCode := 502 })
        4 0 { method, url, params, headers, jar }

/-! ### What a hop keeps -/

omit [HttpxCookies Jar] [HttpRuntime] in
/-- Going on is not an answer. -/
theorem inl_map_eq_ok {ρ α : Type} {x : Except Exn α} {a : α}
    (h : (Sum.inl <$> x : Except Exn (α ⊕ ρ)) = .ok (.inl a)) : x = .ok a := by
  cases x with
  | error e => cases h
  | ok b =>
      cases h
      rfl

omit [HttpxCookies Jar] [HttpRuntime] in
/-- An answer is not going on. -/
theorem inr_map_ne_ok {ρ α : Type} {x : Except Exn ρ} {a : α} :
    (Sum.inr <$> x : Except Exn (α ⊕ ρ)) ≠ .ok (.inl a) := by
  intro h
  cases x with
  | error e => cases h
  | ok b => cases h

omit [HttpxCookies Jar] [HttpRuntime] in
theorem onlyRaises_map {P : Exn → Prop} {α β : Type} {f : α → β} {x : Except Exn α}
    (h : OnlyRaises P x) : OnlyRaises P (f <$> x) := by
  intro e he
  cases x with
  | error e' =>
      cases he
      exact h e rfl
  | ok a => cases he

omit [HttpxCookies Jar] [HttpRuntime] in
theorem onlyRaises_locationOf (response : HttpResponse) (error : AppError) :
    OnlyRaises IsUrlError (locationOf response error) :=
  onlyRaises_orRaise (isUrlError_app error)

section Safe

variable {client : SafeAsyncHttpClient} {request request' : HttpRequest Jar}

/-- What the client goes on with: an allowed address, at the same origin if there is something to
protect. -/
theorem SafeAsyncHttpClient.redirect_eq_ok {response : HttpResponse}
    (h : client.redirect request response = .ok request') :
    ∃ url, request' = request.redirected response url ∧
      (AtOrigin safeOrigin request.url url ∨
        (request.jsonBody.isSome || request.hasAuthorization) = false) := by
  simp only [redirect, bind_eq_ok] at h
  obtain ⟨location, -, url, -, ⟨⟩, -, ⟨⟩, hsame, hdone⟩ := h
  cases hdone
  exact ⟨url, rfl, refuseCrossOrigin_eq_ok hsame⟩

/-- The client goes on after a redirect only. -/
theorem SafeAsyncHttpClient.send_eq_inl {upstream : ℕ → HttpReply} {hop : ℕ}
    (h : client.send upstream hop request = .ok (.inl request')) :
    ∃ response, client.redirect request response = .ok request' := by
  rw [send] at h
  split at h
  · cases h
  · cases h
  · cases h
  · rename_i response _
    split at h
    · exact ⟨response, inl_map_eq_ok h⟩
    · exact absurd h inr_map_ne_ok

/-- A request that is gone on with carries nothing that the one before did not carry. -/
theorem SafeAsyncHttpClient.protected_of_redirected {response : HttpResponse} {url : String}
    (h : ((request.redirected response url).jsonBody.isSome ||
      (request.redirected response url).hasAuthorization) = true) :
    (request.jsonBody.isSome || request.hasAuthorization) = true := by
  cases hbody : request.jsonBody with
  | some body => rfl
  | none =>
      rw [jsonBody_redirected hbody] at h
      exact h

theorem SafeAsyncHttpClient.onlyRaises_redirect (response : HttpResponse) :
    OnlyRaises IsUrlError (client.redirect request response) := by
  refine (onlyRaises_locationOf response _).bind fun location => ?_
  refine (onlyRaises_urljoin _ _).bind fun url => ?_
  refine (onlyRaises_validateExternalUrl _ _).bind fun _ => ?_
  refine (onlyRaises_refuseCrossOrigin onlyRaises_safeOrigin _ _ _).bind fun _ => ?_
  exact onlyRaises_ok _

omit [HttpxCookies Jar] in
theorem SafeAsyncHttpClient.onlyRaises_readContent (response : HttpResponse) :
    OnlyRaises IsUrlError (client.readContent response) := by
  rw [readContent]
  refine onlyRaises_ite (onlyRaises_error (isUrlError_app _)) ?_
  split
  · exact onlyRaises_ok _
  · split
    · exact onlyRaises_error (isUrlError_app _)
    · exact onlyRaises_error (isUrlError_app _)

theorem SafeAsyncHttpClient.onlyRaises_send (upstream : ℕ → HttpReply) (hop : ℕ) :
    OnlyRaises IsUrlError (client.send upstream hop request) := by
  rw [send]
  split
  · exact onlyRaises_error (isUrlError_app _)
  · exact onlyRaises_error (isUrlError_app _)
  · exact onlyRaises_error isUrlError_invalidUrl
  · refine onlyRaises_ite ?_ ?_
    · exact onlyRaises_map (onlyRaises_redirect _)
    · exact onlyRaises_map (onlyRaises_readContent _)

end Safe

section NextFind

variable {session : NextFindSession} {request request' : HttpRequest Jar}

/-- What NextFind goes on with: the same origin, or a request that carries nothing. -/
theorem NextFindSession.redirect_eq_ok {response : HttpResponse}
    (h : session.redirect request response = .ok request') :
    AtOrigin nextFindOrigin request.url request'.url ∨
      session.authenticated = false ∧ request.jsonBody = none ∧ request'.jsonBody = none ∧
        HttpxCookies.isEmpty request'.jar = true := by
  simp only [redirect, bind_eq_ok] at h
  obtain ⟨location, -, url, -, ⟨⟩, -, ⟨⟩, hsame, hdone⟩ := h
  cases hdone
  refine (refuseCrossOrigin_eq_ok hsame).imp_right fun hfree => ?_
  simp only [Bool.or_eq_false_iff, Bool.not_eq_false', Option.isSome_eq_false_iff,
    Option.isNone_iff_eq_none] at hfree
  exact ⟨hfree.1.2, hfree.1.1, jsonBody_redirected hfree.1.1 response url, hfree.2⟩

/-- NextFind goes on after a redirect only. -/
theorem NextFindSession.send_eq_inl {upstream : ℕ → HttpReply} {allowRedirects : Bool} {hop : ℕ}
    (h : session.send upstream allowRedirects hop request = .ok (.inl request')) :
    ∃ response, session.redirect request response = .ok request' := by
  rw [send] at h
  split at h
  · cases h
  · cases h
  · cases h
  · rename_i response _
    split at h
    · cases h
    · exact ⟨response, inl_map_eq_ok h⟩

theorem NextFindSession.onlyRaises_send (upstream : ℕ → HttpReply) (allowRedirects : Bool)
    (hop : ℕ) : OnlyRaises IsUrlError (session.send upstream allowRedirects hop request) := by
  rw [send]
  split
  · exact onlyRaises_error (isUrlError_app _)
  · exact onlyRaises_error (isUrlError_app _)
  · exact onlyRaises_error isUrlError_invalidUrl
  · refine onlyRaises_ite (onlyRaises_ok _) (onlyRaises_map ?_)
    refine (onlyRaises_locationOf _ _).bind fun location => ?_
    refine (onlyRaises_urljoin _ _).bind fun url => ?_
    refine (onlyRaises_validateExternalUrl _ _).bind fun _ => ?_
    refine (onlyRaises_refuseCrossOrigin onlyRaises_nextFindOrigin _ _ _).bind fun _ => ?_
    exact onlyRaises_ok _

end NextFind

section Nexus

variable {session : SameOriginNexusSession} {request request' : HttpRequest Jar}

/-- An address that a session may ask: over `https`, at its own origin, of an allowed host, without
user information. -/
structure SameOriginNexusSession.IsTarget (session : SameOriginNexusSession) (url : String) :
    Prop where
  origin : urlOrigin url = .ok session.origin
  https : session.origin.scheme = "https"
  host : ∃ parsed host, Python.urlsplit url = some parsed ∧
    normalizePublicDnsHost (parsed.hostname.getD "") = some host ∧ host ∈ session.allowedHosts ∧
    parsed.username = none ∧ parsed.password = none

omit [HttpxCookies Jar] in
/-- The origin and the host of a target. -/
theorem nexusTarget_eq_ok {resolved : String} {target : UrlOrigin × String}
    (h : nexusTarget resolved = .ok target) :
    urlOrigin resolved = .ok target.1 ∧ (Python.urlsplit resolved).bind
      (fun parsed => normalizePublicDnsHost (parsed.hostname.getD "")) = some target.2 := by
  rw [nexusTarget] at h
  split at h
  · rename_i origin host horigin hhost
    have htarget := Except.ok.inj h
    rw [← htarget]
    exact ⟨horigin, hhost⟩
  · cases h

omit [HttpxCookies Jar] in
/-- The target of a redirect, and of the first request. -/
theorem SameOriginNexusSession.sameOriginUrl_eq_ok {currentUrl target url : String}
    (h : session.sameOriginUrl currentUrl target = .ok url) : session.IsTarget url := by
  simp only [sameOriginUrl, bind_eq_ok, orRaise_eq_ok, ensure_eq_ok] at h
  obtain ⟨resolved, -, parsed, hparsed, target, htarget, ⟨⟩, hsafe, ⟨⟩, hallowed, hdone⟩ := h
  cases hdone
  obtain ⟨hscheme, huser, hpassword, htargetOrigin⟩ := hsafe
  obtain ⟨horigin, hhost⟩ := nexusTarget_eq_ok htarget
  rw [hparsed, Option.bind_some] at hhost
  rw [htargetOrigin] at horigin
  refine ⟨horigin, ?_, parsed, target.2, hparsed, hhost, hallowed, huser, hpassword⟩
  -- the scheme of the origin is the one that was looked at
  simp only [urlOrigin, hparsed, bind_eq_ok, orRaise_eq_ok] at horigin
  obtain ⟨_, hsame, port, -, hbuilt⟩ := horigin
  cases hsame
  rw [← Except.ok.inj hbuilt]
  exact hscheme

/-- The session goes on with a target of its own. -/
theorem SameOriginNexusSession.send_eq_inl {upstream : ℕ → HttpReply} {hop : ℕ}
    (h : session.send upstream hop request = .ok (.inl request')) :
    session.IsTarget request'.url := by
  rw [send] at h
  split at h
  · cases h
  · cases h
  · cases h
  · split at h
    · have hredirect := inl_map_eq_ok h
      simp only [redirect, bind_eq_ok] at hredirect
      obtain ⟨location, -, url, hurl, hdone⟩ := hredirect
      cases hdone
      exact sameOriginUrl_eq_ok hurl
    · exact absurd h inr_map_ne_ok

omit [HttpxCookies Jar] in
theorem SameOriginNexusSession.onlyRaises_sameOriginUrl (currentUrl target : String) :
    OnlyRaises IsUrlError (session.sameOriginUrl currentUrl target) := by
  refine (onlyRaises_urljoin _ _).bind fun resolved => ?_
  refine (onlyRaises_orRaise isUrlError_valueError).bind fun parsed => ?_
  have htarget : OnlyRaises IsUrlError (nexusTarget resolved) := by
    rw [nexusTarget]
    split
    · exact onlyRaises_ok _
    · exact onlyRaises_error (isUrlError_app _)
  refine htarget.bind fun target => ?_
  refine (onlyRaises_ensure (isUrlError_app _)).bind fun _ => ?_
  exact (onlyRaises_ensure (isUrlError_app _)).bind fun _ => onlyRaises_ok _

omit [HttpxCookies Jar] in
theorem SameOriginNexusSession.onlyRaises_vet (resolve : ℕ → AddressResolver)
    (beforeSend : ℕ → Except Exn Unit) (hop : ℕ) :
    OnlyRaises IsUrlError (SameOriginNexusSession.vet resolve beforeSend hop request) := by
  have htarget : OnlyRaises IsUrlError (validateResolvedTarget (resolve hop) request.url) := by
    refine (onlyRaises_orRaise isUrlError_valueError).bind fun parsed => ?_
    refine (onlyRaises_orRaise isUrlError_valueError).bind fun port => ?_
    refine (onlyRaises_orRaise (isUrlError_app _)).bind fun addresses => ?_
    exact onlyRaises_ensure (isUrlError_app _)
  refine htarget.bind fun _ => (onlyRaises_requireHttpxUrl _).bind fun _ => ?_
  -- whatever the guard raises is an error of the program
  rw [runBeforeSendGuard.eq_def]
  split
  · exact onlyRaises_ok _
  · exact onlyRaises_error (isUrlError_app _)
  · exact onlyRaises_error (isUrlError_app _)

end Nexus

/-! ### The first address -/

omit [HttpxCookies Jar] in
/-- A path is joined to what the address of a client names. -/
theorem siteOf_joined {baseUrl path first : String} {allowedHosts : List String}
    (hbase : validateExternalUrl baseUrl allowedHosts = .ok ()) (hpath : isPlainPath path = true)
    (hurl : urljoin (baseUrl ++ "/") path = .ok first) : siteOf first = siteOf baseUrl := by
  obtain ⟨host, port, hsite⟩ := siteOf_of_valid hbase
  have hslash := HttpRuntime.siteOf_slash baseUrl host port hsite
  rw [urljoin, orRaise_eq_ok] at hurl
  have hjoined := HttpRuntime.urljoin_path (baseUrl ++ "/") path first host port
    (hslash.trans hsite) hpath hurl
  exact hjoined.trans hslash

omit [HttpxCookies Jar] in
/-- **What a client is asked for is at its own origin.** -/
theorem SafeAsyncHttpClient.origin_first {client : SafeAsyncHttpClient} {path first : String}
    (hpath : client.IsAsked path)
    (hurl : urljoin (client.baseUrl ++ "/") (lstripSlash path) = .ok first) :
    safeOrigin first = safeOrigin client.baseUrl := by
  rcases hpath with hplain | ⟨rawUrl, hremembered⟩
  · exact safeOrigin_congr (siteOf_joined client.base_valid hplain hurl)
  · simp only [rememberDownloadUrl, bind_eq_ok, ensure_eq_ok] at hremembered
    obtain ⟨resolved, -, ⟨⟩, hvalid, origin, horigin, own, hown, ⟨⟩, hsame, hdone⟩ := hremembered
    obtain rfl : resolved = path := Except.ok.inj hdone
    obtain ⟨host, port, hsite⟩ := siteOf_of_valid hvalid
    obtain ⟨ownHost, ownPort, hownSite⟩ := siteOf_of_valid client.base_valid
    rw [HttpRuntime.siteOf_letter resolved host port hsite, urljoin, orRaise_eq_ok] at hurl
    rw [safeOrigin_congr (HttpRuntime.urljoin_url _ resolved first host port hsite hurl)]
    exact safeOrigin_of_urlOrigin hsite hownSite (by rw [horigin, hown, hsame])

/-! ### Confinement -/

/-- **What is known of every chain of the client of the metadata services**: it is short, it goes to
allowed addresses, a body or credentials of the caller stay at the origin of the client, and it ends
with a response or an error. -/
structure SafeAsyncHttpClient.Confined (client : SafeAsyncHttpClient)
    (beforeSend : ℕ → Except Exn Unit)
    (outcome : List (HttpRequest Jar) × Except Exn SafeHttpResult) : Prop where
  bounded : outcome.1.length ≤ 4
  allowed : ∀ request ∈ outcome.1, IsAllowed request.url client.allowedHosts
  confined : ∀ request ∈ outcome.1,
    (request.jsonBody.isSome || request.hasAuthorization) = true →
      safeOrigin request.url = safeOrigin client.baseUrl
  ends : OnlyRaises (fun e => IsUrlError e ∨ ∃ hop, beforeSend hop = .error e) outcome.2

/-- **The client of the metadata services confines what it protects.** -/
theorem SafeAsyncHttpClient.confined_request (client : SafeAsyncHttpClient)
    (upstream : ℕ → HttpReply) (beforeSend : ℕ → Except Exn Unit) (method path : String)
    (params : List (String × String)) (jsonBody : Option Json) (headers : List (String × String))
    (jar : Jar) (hpath : client.IsAsked path) :
    client.Confined beforeSend
      (client.request upstream beforeSend method path params jsonBody headers jar) := by
  rw [request]
  cases hurl : urljoin (client.baseUrl ++ "/") (lstripSlash path) with
  | error e =>
      exact {
        bounded := Nat.zero_le 4
        allowed := fun r hr => absurd hr List.not_mem_nil
        confined := fun r hr => absurd hr List.not_mem_nil
        ends := onlyRaises_error (Or.inl (onlyRaises_urljoin _ _ e hurl)) }
  | ok first =>
      dsimp only
      -- along the chain, what is to be protected is at the first origin
      have hchain := @follow_forall _ _ _ (client.vet beforeSend) (client.send upstream)
        (.app { errorCode := "UPSTREAM_TOO_MANY_REDIRECTS"
                message := "上游跳转次数过多", statusCode := 502 })
        (fun r : HttpRequest Jar => (r.jsonBody.isSome || r.hasAuthorization) = true →
          AtOrigin safeOrigin first r.url)
        (fun hop r r' hr _ hsend hprotected => by
          obtain ⟨response, hredirect⟩ := send_eq_inl hsend
          obtain ⟨url, rfl, hsame⟩ := redirect_eq_ok hredirect
          have hbefore := protected_of_redirected hprotected
          rcases hsame with hsame | hfree
          · exact (hr hbefore).trans hsame
          · rw [hbefore] at hfree
            cases hfree)
        4 0 (s := { method, url := first, params, jsonBody, headers, jar }) (fun _ => Or.inl rfl)
      refine ⟨length_follow 4 0 _, ?_, ?_, ?_⟩
      · intro r hr
        obtain ⟨-, hop, hvet⟩ := hchain r hr
        simp only [vet, bind_eq_ok] at hvet
        obtain ⟨⟨⟩, hallowed, -⟩ := hvet
        exact validateExternalUrl_eq_ok hallowed
      · intro r hr hprotected
        exact ((hchain r hr).1 hprotected).eq.trans (origin_first hpath hurl)
      · refine onlyRaises_follow (P := fun e => IsUrlError e ∨ ∃ hop, beforeSend hop = .error e)
          (Or.inl (isUrlError_app _)) ?_ ?_ 4 0 _
        · intro hop r
          refine ((onlyRaises_validateExternalUrl _ _).mono fun _ => Or.inl).bind fun _ => ?_
          refine ((onlyRaises_requireHttpxUrl _).mono fun _ => Or.inl).bind fun _ => ?_
          exact fun e he => Or.inr ⟨hop, he⟩
        · intro hop r
          exact (onlyRaises_send upstream hop).mono fun _ => Or.inl

/-- **What is known of every chain of NextFind**: it is short, it goes to allowed addresses, a body
stays at the origin of the session and so does everything once NextFind has logged in; another origin
than that of the request before is only asked without a body and without cookies. -/
structure NextFindSession.Confined (session : NextFindSession)
    (outcome : List (HttpRequest Jar) × Except Exn HttpResponse) : Prop where
  bounded : outcome.1.length ≤ 4
  allowed : ∀ request ∈ outcome.1, IsAllowed request.url session.allowedHosts
  confined : ∀ request ∈ outcome.1,
    (request.jsonBody.isSome || session.authenticated) = true →
      nextFindOrigin request.url = nextFindOrigin session.baseUrl
  bare : ∀ request ∈ outcome.1, request.headers = []
  moves : outcome.1.IsChain fun request next =>
    AtOrigin nextFindOrigin request.url next.url ∨
      next.jsonBody = none ∧ HttpxCookies.header next.jar next.url = none
  ends : OnlyRaises IsUrlError outcome.2

/-- NextFind gives its requests no headers of its own. -/
theorem NextFindSession.headers_redirect {session : NextFindSession}
    {request request' : HttpRequest Jar} {response : HttpResponse}
    (h : session.redirect request response = .ok request') :
    request'.headers = request.headers := by
  simp only [redirect, bind_eq_ok] at h
  obtain ⟨location, -, url, -, ⟨⟩, -, ⟨⟩, -, hdone⟩ := h
  cases hdone
  rfl

/-- A request with a body was gone on with at the origin of the one before. -/
theorem NextFindSession.body_redirect {session : NextFindSession}
    {request request' : HttpRequest Jar} {response : HttpResponse}
    (h : session.redirect request response = .ok request')
    (hbody : request'.jsonBody.isSome = true) : request.jsonBody.isSome = true := by
  simp only [redirect, bind_eq_ok] at h
  obtain ⟨location, -, url, -, ⟨⟩, -, ⟨⟩, -, hdone⟩ := h
  cases hdone
  cases hbefore : request.jsonBody with
  | some body => rfl
  | none =>
      rw [jsonBody_redirected hbefore] at hbody
      cases hbody

/-- **NextFind confines what it protects.** -/
theorem NextFindSession.confined_openResponse (session : NextFindSession)
    (upstream : ℕ → HttpReply) (method path : String) (params : List (String × String))
    (jsonBody : Option Json) (allowRedirects : Bool) (jar : Jar)
    (hpath : isPlainPath (lstripSlash path) = true) :
    session.Confined
      (session.openResponse upstream method path params jsonBody allowRedirects jar) := by
  rw [openResponse]
  cases hurl : urljoin (session.baseUrl ++ "/") (lstripSlash path) with
  | error e =>
      exact {
        bounded := Nat.zero_le 4
        allowed := fun r hr => absurd hr List.not_mem_nil
        confined := fun r hr => absurd hr List.not_mem_nil
        bare := fun r hr => absurd hr List.not_mem_nil
        moves := List.IsChain.nil
        ends := onlyRaises_error (onlyRaises_urljoin _ _ e hurl) }
  | ok first =>
      dsimp only
      -- along the chain, what is protected stays where the first request went
      have hchain := @follow_forall _ _ _ session.vet (session.send upstream allowRedirects)
        (.app { errorCode := "UPSTREAM_TOO_MANY_REDIRECTS", message := "NextFind 跳转次数过多" })
        (fun r : HttpRequest Jar => r.headers = [] ∧
          ((r.jsonBody.isSome || session.authenticated) = true →
            AtOrigin nextFindOrigin first r.url))
        (fun hop r r' hr _ hsend => by
          obtain ⟨response, hredirect⟩ := send_eq_inl hsend
          refine ⟨(headers_redirect hredirect).trans hr.1, fun hprotected => ?_⟩
          have hbefore : (r.jsonBody.isSome || session.authenticated) = true := by
            rcases Bool.or_eq_true_iff.mp hprotected with hbody | hlogin
            · rw [body_redirect hredirect hbody, Bool.true_or]
            · rw [hlogin, Bool.or_true]
          rcases redirect_eq_ok hredirect with hsame | ⟨hlogin, hbody, -⟩
          · exact (hr.2 hbefore).trans hsame
          · rw [hbody, hlogin] at hbefore
            cases hbefore)
        4 0 (s := { method, url := first, params, jsonBody, jar }) ⟨rfl, fun _ => Or.inl rfl⟩
      refine ⟨length_follow 4 0 _, ?_, ?_, fun r hr => (hchain r hr).1.1, ?_, ?_⟩
      · intro r hr
        obtain ⟨-, hop, hvet⟩ := hchain r hr
        simp only [vet, bind_eq_ok] at hvet
        obtain ⟨⟨⟩, hallowed, -⟩ := hvet
        exact validateExternalUrl_eq_ok hallowed
      · intro r hr hprotected
        exact ((hchain r hr).1.2 hprotected).eq.trans
          (nextFindOrigin_congr (siteOf_joined session.base_valid hpath hurl))
      · refine follow_isChain (fun hop r r' _ hsend => ?_) 4 0 _
        obtain ⟨response, hredirect⟩ := send_eq_inl hsend
        refine (redirect_eq_ok hredirect).imp_right fun hfree => ?_
        exact ⟨hfree.2.2.1, HttpxCookies.header_isEmpty _ _ hfree.2.2.2⟩
      · refine onlyRaises_follow (isUrlError_app _) ?_ ?_ 4 0 _
        · intro hop r
          exact (onlyRaises_validateExternalUrl _ _).bind fun _ => onlyRaises_requireHttpxUrl _
        · intro hop r
          exact onlyRaises_send upstream allowRedirects hop

/-- **What is known of every chain of a NexusPHP session**: it is short, everything goes to the origin
of the session, and it ends with a response or an error, unless a body breaks off. -/
structure SameOriginNexusSession.Confined (session : SameOriginNexusSession)
    (upstream : ℕ → HttpReply) (outcome : List (HttpRequest Jar) × Except Exn SafeHttpResult) :
    Prop where
  bounded : outcome.1.length ≤ 4
  targets : ∀ request ∈ outcome.1, session.IsTarget request.url
  ends : OnlyRaises (fun e => IsUrlError e ∨
    ∃ hop response, upstream hop = .answered response ∧ response.brokenOff = some e) outcome.2

/-- What a hop of a session can raise. -/
theorem SameOriginNexusSession.onlyRaises_send {session : SameOriginNexusSession}
    {request : HttpRequest Jar} (upstream : ℕ → HttpReply) (hop : ℕ) :
    OnlyRaises (fun e => IsUrlError e ∨
      ∃ hop response, upstream hop = .answered response ∧ response.brokenOff = some e)
      (session.send upstream hop request) := by
  rw [send]
  cases hreply : upstream hop with
  | timeout => exact onlyRaises_error (Or.inl (isUrlError_app _))
  | networkError => exact onlyRaises_error (Or.inl (isUrlError_app _))
  | invalidRedirect => exact onlyRaises_error (Or.inl isUrlError_invalidUrl)
  | answered response =>
      refine onlyRaises_ite (onlyRaises_map ?_) (onlyRaises_map ?_)
      · refine OnlyRaises.mono ?_ fun _ => Or.inl
        refine (onlyRaises_locationOf _ _).bind fun location => ?_
        exact (onlyRaises_sameOriginUrl _ _).bind fun url => onlyRaises_ok _
      · rw [readContent]
        refine onlyRaises_ite (onlyRaises_error (Or.inl (isUrlError_app _))) ?_
        cases hbroken : response.brokenOff with
        | none => exact onlyRaises_ok _
        | some e => exact onlyRaises_error (Or.inr ⟨hop, response, hreply, hbroken⟩)

/-- **A session stays at its origin.** -/
theorem SameOriginNexusSession.confined_request (session : SameOriginNexusSession)
    (resolve : ℕ → AddressResolver) (upstream : ℕ → HttpReply) (beforeSend : ℕ → Except Exn Unit)
    (method path : String) (params headers : List (String × String)) (jar : Jar) :
    session.Confined upstream
      (session.request resolve upstream beforeSend method path params headers jar) := by
  rw [request]
  cases hurl : session.sameOriginUrl (session.baseUrl ++ "/") (lstripSlash path) with
  | error e =>
      exact {
        bounded := Nat.zero_le 4
        targets := fun r hr => absurd hr List.not_mem_nil
        ends := onlyRaises_error (Or.inl (onlyRaises_sameOriginUrl _ _ e hurl)) }
  | ok first =>
      dsimp only
      refine ⟨length_follow 4 0 _, ?_, ?_⟩
      · intro r hr
        exact (follow_forall (P := fun r : HttpRequest Jar => session.IsTarget r.url)
          (fun hop r r' _ _ hsend => send_eq_inl hsend) 4 0 (sameOriginUrl_eq_ok hurl) r hr).1
      · refine onlyRaises_follow (P := fun e => IsUrlError e ∨
          ∃ hop response, upstream hop = .answered response ∧ response.brokenOff = some e)
          (Or.inl (isUrlError_app _)) ?_ ?_ 4 0 _
        · exact fun hop r => (onlyRaises_vet resolve beforeSend hop).mono fun _ => Or.inl
        · exact fun hop r => onlyRaises_send upstream hop

variable (Jar) in
/-- **The clients keep credentials and bodies where they belong**, whatever the servers answer. -/
theorem redirects_confined :
    (∀ (client : SafeAsyncHttpClient) (upstream : ℕ → HttpReply)
      (beforeSend : ℕ → Except Exn Unit) (method path : String) (params : List (String × String))
      (jsonBody : Option Json) (headers : List (String × String)) (jar : Jar),
      client.IsAsked path → client.Confined beforeSend
        (client.request upstream beforeSend method path params jsonBody headers jar)) ∧
    (∀ (session : NextFindSession) (upstream : ℕ → HttpReply) (method path : String)
      (params : List (String × String)) (jsonBody : Option Json) (allowRedirects : Bool)
      (jar : Jar),
      isPlainPath (lstripSlash path) = true → session.Confined
        (session.openResponse upstream method path params jsonBody allowRedirects jar)) ∧
    (∀ (session : SameOriginNexusSession) (resolve : ℕ → AddressResolver)
      (upstream : ℕ → HttpReply) (beforeSend : ℕ → Except Exn Unit) (method path : String)
      (params headers : List (String × String)) (jar : Jar),
      session.Confined upstream
        (session.request resolve upstream beforeSend method path params headers jar)) :=
  ⟨SafeAsyncHttpClient.confined_request, NextFindSession.confined_openResponse,
    SameOriginNexusSession.confined_request⟩

end Clients

/-! ### A cookie of another host -/

/-- Cookies that belong to one host: its name, and what it has set. -/
abbrev HostCookies := List (String × String)

/-- The host of an address without a port. -/
def sampleHost (url : String) : String :=
  String.ofList ((url.toList.drop 8).takeWhile (· ≠ '/'))

/-- Every host gets back what it has set. -/
@[reducible] def hostCookies : HttpxCookies HostCookies where
  header jar url := (jar.find? fun cookie => cookie.1 = sampleHost url).map Prod.snd
  extract jar url response := jar ++ response.setCookie.map fun cookie => (sampleHost url, cookie)
  isEmpty jar := jar.isEmpty
  header_isEmpty jar url h := by
    rw [List.isEmpty_iff.mp h]
    rfl

/-- Some references with what they are joined to, and what comes of it. -/
def sampleJoins : List ((String × String) × String) :=
  [(("https://a.example/", "api/admin/login"), "https://a.example/api/admin/login"),
    (("https://a.example/", "https://a.example/next"), "https://a.example/next"),
    (("https://a.example/api/admin/login", "https://a.example/next"), "https://a.example/next"),
    (("https://a.example/next", "https://b.example/"), "https://b.example/"),
    (("https://b.example/", "https://b.example/in"), "https://b.example/in")]

/-- What comes of a reference, if it is one of these. -/
def sampleJoin (base ref : String) : Option String :=
  (sampleJoins.find? fun entry => entry.1 = (base, ref)).map Prod.snd

theorem mem_sampleJoins {base ref url : String} (h : sampleJoin base ref = some url) :
    ((base, ref), url) ∈ sampleJoins := by
  obtain ⟨entry, hfound, rfl⟩ := Option.map_eq_some_iff.mp h
  have hkey : entry.1 = (base, ref) := by
    have hfind := List.find?_some hfound
    exact of_decide_eq_true hfind
  rw [← hkey]
  exact List.mem_of_find?_eq_some hfound

theorem sampleJoin_path (base path url host : String) (port : Option (Option ℕ))
    (_ : @siteOf asciiPython base = some ("https", some host, port))
    (hpath : isPlainPath path = true) (h : sampleJoin base path = some url) :
    @siteOf asciiPython url = @siteOf asciiPython base := by
  have hall : ∀ entry ∈ sampleJoins, isPlainPath entry.1.2 = true →
      @siteOf asciiPython entry.2 = @siteOf asciiPython entry.1.1 := by
    decide +kernel
  exact hall _ (mem_sampleJoins h) hpath

theorem sampleJoin_url (base ref url host : String) (port : Option (Option ℕ))
    (href : @siteOf asciiPython ref = some ("https", some host, port))
    (h : sampleJoin base ref = some url) :
    @siteOf asciiPython url = @siteOf asciiPython ref := by
  have hall : ∀ entry ∈ sampleJoins,
      (@siteOf asciiPython entry.1.2).any (fun site => site.1 = "https") = true →
        @siteOf asciiPython entry.2 = @siteOf asciiPython entry.1.2 := by
    decide +kernel
  refine hall _ (mem_sampleJoins h) ?_
  rw [href]
  rfl

/-- The runtime, for these references. -/
@[reducible] def sampleHttpRuntime : HttpRuntime where
  toUrlText := asciiUrlText
  urljoin := sampleJoin
  isHttpxUrl _ := true
  ipAddress _ := none
  isdigit c := '0' ≤ c && c ≤ '9'
  lower_nil := rfl
  siteOf_slash := ascii_siteOf_slash
  siteOf_letter := ascii_siteOf_letter
  urljoin_path := sampleJoin_path
  urljoin_url := sampleJoin_url

theorem sample_base_valid :
    @validateExternalUrl sampleHttpRuntime "https://a.example" ["a.example", "b.example"] =
      .ok () := by
  decide +kernel

/-- NextFind at one host, where another one is allowed too. -/
def sampleSession : @NextFindSession sampleHttpRuntime :=
  let _ := sampleHttpRuntime
  { baseUrl := "https://a.example"
    allowedHosts := ["a.example", "b.example"]
    authenticated := false
    base_valid := sample_base_valid }

/-- The other client at the same host. -/
def sampleClient : @SafeAsyncHttpClient sampleHttpRuntime :=
  let _ := sampleHttpRuntime
  { baseUrl := "https://a.example"
    allowedHosts := ["a.example", "b.example"]
    maxResponseBytes := 1024
    base_valid := sample_base_valid }

/-- The login is sent on, first with another method and then to the other host, which sets a cookie
and sends the request on to itself. -/
def sampleUpstream : ℕ → HttpReply
  | 0 => .answered { statusCode := 303, location := some "https://a.example/next" }
  | 1 => .answered { statusCode := 302, location := some "https://b.example/" }
  | 2 => .answered { statusCode := 302, location := some "https://b.example/in"
                     setCookie := ["id=1"] }
  | _ => .answered { statusCode := 200 }

/-- The login of NextFind, and what is asked of the other client: a path, and an address that was
compared with its own. -/
theorem redirects_confined_sample :
    @NextFindSession.Confined HostCookies hostCookies sampleHttpRuntime sampleSession
        (@NextFindSession.openResponse HostCookies hostCookies sampleHttpRuntime sampleSession
          sampleUpstream "POST" "/api/admin/login" [] none true []) ∧
      ∀ path ∈ ["/api/admin/login", "https://a.example/next"],
        @SafeAsyncHttpClient.Confined HostCookies sampleHttpRuntime sampleClient (fun _ => .ok ())
          (@SafeAsyncHttpClient.request HostCookies hostCookies sampleHttpRuntime sampleClient
            sampleUpstream (fun _ => .ok ()) "GET" path [] none [("Authorization", "Bearer t")]
            []) := by
  let _ := hostCookies
  let _ := sampleHttpRuntime
  have hconfined := redirects_confined HostCookies
  refine ⟨hconfined.2.1 _ _ _ _ _ _ _ _ (by decide +kernel), fun path hpath => ?_⟩
  refine hconfined.1 _ _ _ _ _ _ _ _ _ ?_
  rcases List.mem_cons.mp hpath with rfl | hpath
  · exact Or.inl (by decide +kernel)
  · rw [List.mem_singleton.mp hpath]
    exact Or.inr ⟨"https://a.example/next", by decide +kernel⟩

/-- **A cookie of another host is sent to that host**: not everything that is carried goes to the
origin of the session. -/
theorem openResponse_cookie_moves :
    ¬ ∀ request ∈ (@NextFindSession.openResponse HostCookies hostCookies sampleHttpRuntime
        sampleSession sampleUpstream "POST" "/api/admin/login" []
        (some (.object (.ofList [("username", .str "u"), ("password", .str "p")]))) true []).1,
      @HttpRequest.carries HostCookies hostCookies sampleHttpRuntime.toPython request = true →
        @nextFindOrigin sampleHttpRuntime request.url =
          @nextFindOrigin sampleHttpRuntime "https://a.example" := by
  let _ := hostCookies
  let _ := sampleHttpRuntime
  intro hclaim
  have hsent : ((sampleSession.openResponse sampleUpstream "POST" "/api/admin/login" []
      (some (.object (.ofList [("username", .str "u"), ("password", .str "p")]))) true
      ([] : HostCookies)).1.any
      fun request => request.carries && request.url == "https://b.example/in") = true := by
    decide +kernel
  obtain ⟨request, hmem, hrequest⟩ := List.any_eq_true.mp hsent
  obtain ⟨hcarries, hurl⟩ := Bool.and_eq_true_iff.mp hrequest
  have hplace := hclaim request hmem hcarries
  rw [beq_iff_eq.mp hurl] at hplace
  have hhosts : (nextFindOrigin "https://b.example/in").toOption.map (·.host) ≠
      (nextFindOrigin "https://a.example").toOption.map (·.host) := by
    decide +kernel
  exact hhosts (by rw [hplace])

end LibSeek.Adapters
