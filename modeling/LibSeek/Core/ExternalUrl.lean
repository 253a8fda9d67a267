/-
The addresses that may be asked.

Before anything is sent to an address, its host is looked up in a list of allowed hosts, and an
address that a server names is compared with the one that named it by its origin: the scheme, the
host and the port.

Main definitions:

* `Core.siteOf`, `Core.isPlainPath` — what an address names, and the paths that the adapters ask for;
* `Core.HttpRuntime` — the runtime with what the clients of the web consult;
* `Core.validateExternalUrl` — the rule of the allowed hosts;
* `Core.safeOrigin`, `Core.urlOrigin`, `Core.nextFindOrigin` — the origins, as the clients compare
  them;
* `Core.AtOrigin` — the addresses at the origin of another one;
* `Core.normalizePublicDnsHost` — the rule of the names of public hosts.

Main results:

* `Core.validateExternalUrl_eq_ok` — what is known of an address that is allowed;
* `Core.safeOrigin_congr`, `Core.nextFindOrigin_congr` — addresses that name the same have one origin;
* `Core.refuseCrossOrigin_eq_ok` — what is known of an address that is gone on with.
-/

import LibSeek.Core.Url
import LibSeek.Lib.Hops

set_option relaxedAutoImplicit false
set_option autoImplicit false

namespace LibSeek.Core

open LibSeek.Lib

/-! ### The runtime -/

/-- `value.lstrip("/")`. -/
def lstripSlash (value : String) : String :=
  String.ofList (value.toList.dropWhile (· = '/'))

/-- The scheme, the host and the port that an address names. -/
def siteOf [Python] (url : String) : Option (String × Option String × Option (Option ℕ)) :=
  (Python.urlsplit url).map fun parsed => (parsed.scheme, parsed.hostname, parsed.port)

/-- A path that the adapters ask for: Latin letters, digits, slashes and a few marks, with no slash at
its front. -/
def isPlainPath (path : String) : Bool :=
  path.toList.all (fun c => c.isAlphanum || c == '/' || c == '_' || c == '-' || c == '.') &&
    path.toList.head? != some '/'

/-- The runtime with what the clients of the web consult: `urllib.parse.urljoin`, which may raise
`ValueError`, the addresses that `httpx` can parse, the numeric addresses with whether they are
global, and the digits of the Unicode database. -/
class HttpRuntime extends UrlText where
  urljoin : String → String → Option String
  isHttpxUrl : String → Bool
  ipAddress : String → Option Bool
  isdigit : Char → Bool
  /-- `str.lower` of an empty text. -/
  lower_nil : lower [] = []
  /-- A slash at the end of an address belongs to its path. -/
  siteOf_slash : ∀ base host port, siteOf base = some ("https", some host, port) →
    siteOf (base ++ "/") = siteOf base
  /-- An address with a scheme begins with a letter. -/
  siteOf_letter : ∀ url host port, siteOf url = some ("https", some host, port) →
    lstripSlash url = url
  /-- A path is joined to what an address names. -/
  urljoin_path : ∀ base path url host port, siteOf base = some ("https", some host, port) →
    isPlainPath path = true → urljoin base path = some url → siteOf url = siteOf base
  /-- An address that is joined to another one stays what it is. -/
  urljoin_url : ∀ base ref url host port, siteOf ref = some ("https", some host, port) →
    urljoin base ref = some url → siteOf url = siteOf ref

/-- An origin: the scheme, the host and the port. -/
structure UrlOrigin where
  scheme : String
  host : String
  port : ℕ
  deriving DecidableEq, Repr

/-- The exception of the parsers of addresses. -/
def valueError : Exn :=
  .other "ValueError"

/-- The exception of the parser of addresses of `httpx`. -/
def invalidUrl : Exn :=
  .other "InvalidURL"

/-- An error of the program, or an exception of the parsers of addresses. -/
def IsUrlError (e : Exn) : Prop :=
  (∃ error, e = .app error) ∨ e = valueError ∨ e = invalidUrl

theorem isUrlError_app (error : AppError) : IsUrlError (.app error) :=
  Or.inl ⟨error, rfl⟩

theorem isUrlError_valueError : IsUrlError valueError :=
  Or.inr (Or.inl rfl)

theorem isUrlError_invalidUrl : IsUrlError invalidUrl :=
  Or.inr (Or.inr rfl)

section Urls

variable [HttpRuntime]

/-- `urllib.parse.urljoin`. -/
def urljoin (base url : String) : Except Exn String :=
  orRaise (HttpRuntime.urljoin base url) valueError

/-- The addresses that `httpx` builds a request for. -/
def requireHttpxUrl (url : String) : Except Exn Unit :=
  ensure (HttpRuntime.isHttpxUrl url = true) invalidUrl

/-- The lower case of the name of a host. -/
def lowerHost (hostname : Option String) : String :=
  String.ofList (UrlText.lower (hostname.getD "").toList)

/-- The truth value of what may be absent. -/
def truth (value : Option String) : Bool :=
  value.getD "" ≠ ""

/-- `validate_external_url`. -/
def validateExternalUrl (url : String) (allowedHosts : List String) : Except Exn Unit := do
  let parsed ← orRaise (Python.urlsplit url) valueError
  ensure (parsed.scheme = "https" ∧ lowerHost parsed.hostname ≠ "" ∧
      lowerHost parsed.hostname ∈ allowedHosts)
    (.app { errorCode := "EXTERNAL_HOST_NOT_ALLOWED", message := "外部地址不在允许访问的白名单中"
            statusCode := 400 })
  ensure (truth parsed.username = false ∧ truth parsed.password = false)
    (.app { errorCode := "INVALID_EXTERNAL_URL", message := "外部地址格式无效", statusCode := 400 })

/-- An address that is allowed: over `https`, to an allowed host, without user information. -/
def IsAllowed (url : String) (allowedHosts : List String) : Prop :=
  ∃ parsed, Python.urlsplit url = some parsed ∧ parsed.scheme = "https" ∧
    lowerHost parsed.hostname ∈ allowedHosts ∧ truth parsed.username = false ∧
    truth parsed.password = false

/-- **What is known of an address that is allowed.** -/
theorem validateExternalUrl_eq_ok {url : String} {allowedHosts : List String}
    (h : validateExternalUrl url allowedHosts = .ok ()) : IsAllowed url allowedHosts := by
  simp only [validateExternalUrl, bind_eq_ok, orRaise_eq_ok, ensure_eq_ok] at h
  obtain ⟨parsed, hparsed, -, ⟨hscheme, -, hhost⟩, huser⟩ := h
  exact ⟨parsed, hparsed, hscheme, hhost, huser⟩

/-- What an allowed address names. -/
theorem siteOf_of_valid {url : String} {allowedHosts : List String}
    (h : validateExternalUrl url allowedHosts = .ok ()) :
    ∃ host port, siteOf url = some ("https", some host, port) := by
  simp only [validateExternalUrl, bind_eq_ok, orRaise_eq_ok, ensure_eq_ok] at h
  obtain ⟨parsed, hparsed, -, ⟨hscheme, hfilled, -⟩, -⟩ := h
  cases hhost : parsed.hostname with
  | none =>
      rw [hhost] at hfilled
      exact absurd (congrArg String.ofList HttpRuntime.lower_nil) hfilled
  | some host =>
      refine ⟨host, parsed.port, ?_⟩
      rw [siteOf, hparsed, Option.map_some, hscheme, hhost]

theorem onlyRaises_validateExternalUrl (url : String) (allowedHosts : List String) :
    OnlyRaises IsUrlError (validateExternalUrl url allowedHosts) := by
  refine (onlyRaises_orRaise isUrlError_valueError).bind fun parsed => ?_
  refine (onlyRaises_ensure (isUrlError_app _)).bind fun _ => ?_
  exact onlyRaises_ensure (isUrlError_app _)

/-! ### Origins -/

/-- The port of an address, or that of its scheme. -/
def portOr (default : ℕ) : Option ℕ → ℕ
  | some 0 => default
  | some port => port
  | none => default

/-- `SafeAsyncHttpClient._origin`. -/
def safeOrigin (url : String) : Except Exn UrlOrigin := do
  let parsed ← orRaise (Python.urlsplit url) valueError
  let port ← orRaise parsed.port valueError
  let default := if casefold parsed.scheme = "https" then 443 else 80
  return {
    scheme := casefold parsed.scheme
    host := casefold (parsed.hostname.getD "")
    port := portOr default port }

/-- `url_origin`. -/
def urlOrigin (url : String) : Except Exn UrlOrigin := do
  let parsed ← orRaise (Python.urlsplit url) valueError
  let port ← orRaise parsed.port valueError
  return {
    scheme := casefold parsed.scheme
    host := casefold (parsed.hostname.getD "")
    port := portOr 443 port }

/-- `NextFindAdapter._origin`. -/
def nextFindOrigin (url : String) : Except Exn UrlOrigin := do
  let parsed ← orRaise (Python.urlsplit url) valueError
  let port ← orRaise parsed.port
    (.app { errorCode := "INVALID_EXTERNAL_URL", message := "NextFind 地址格式无效"
            statusCode := 400 })
  return {
    scheme := String.ofList (UrlText.lower parsed.scheme.toList)
    host := lowerHost parsed.hostname
    port := portOr 443 port }

/-- Addresses that name the same are parsed alike, as far as that goes. -/
theorem siteOf_eq_iff {url url' : String} (h : siteOf url = siteOf url') :
    (Python.urlsplit url = none ∧ Python.urlsplit url' = none) ∨
      ∃ parsed parsed', Python.urlsplit url = some parsed ∧ Python.urlsplit url' = some parsed' ∧
        parsed.scheme = parsed'.scheme ∧ parsed.hostname = parsed'.hostname ∧
        parsed.port = parsed'.port := by
  unfold siteOf at h
  cases hparsed : Python.urlsplit url with
  | none =>
      rw [hparsed] at h
      exact Or.inl ⟨rfl, Option.map_eq_none_iff.mp h.symm⟩
  | some parsed =>
      rw [hparsed] at h
      obtain ⟨parsed', hparsed', hsame⟩ := Option.map_eq_some_iff.mp h.symm
      obtain ⟨hscheme, hrest⟩ := Prod.mk.inj hsame
      obtain ⟨hhost, hport⟩ := Prod.mk.inj hrest
      exact Or.inr ⟨parsed, parsed', rfl, hparsed', hscheme.symm, hhost.symm, hport.symm⟩

/-- **Addresses that name the same have one origin.** -/
theorem safeOrigin_congr {url url' : String} (h : siteOf url = siteOf url') :
    safeOrigin url = safeOrigin url' := by
  unfold safeOrigin
  rcases siteOf_eq_iff h with ⟨hnone, hnone'⟩ | ⟨p, p', hp, hp', hscheme, hhost, hport⟩
  · rw [hnone, hnone']
  · rw [hp, hp']
    simp only [orRaise, bind, Except.bind, hscheme, hhost, hport]

theorem nextFindOrigin_congr {url url' : String} (h : siteOf url = siteOf url') :
    nextFindOrigin url = nextFindOrigin url' := by
  unfold nextFindOrigin
  rcases siteOf_eq_iff h with ⟨hnone, hnone'⟩ | ⟨p, p', hp, hp', hscheme, hhost, hport⟩
  · rw [hnone, hnone']
  · rw [hp, hp']
    simp only [orRaise, bind, Except.bind, hscheme, hhost, hport]

/-- Over `https`, the two ways of comparing origins are one. -/
theorem safeOrigin_of_urlOrigin {url url' host host' : String}
    {port port' : Option (Option ℕ)} (hurl : siteOf url = some ("https", some host, port))
    (hurl' : siteOf url' = some ("https", some host', port'))
    (h : urlOrigin url = urlOrigin url') : safeOrigin url = safeOrigin url' := by
  have heq : ∀ {url host port}, siteOf url = some ("https", some host, port) →
      safeOrigin url = urlOrigin url := by
    intro url host port hsite
    obtain ⟨parsed, hparsed, hsame⟩ := Option.map_eq_some_iff.mp hsite
    have hscheme : parsed.scheme = "https" := (Prod.mk.inj hsame).1
    have hfold : casefold parsed.scheme = "https" := by
      rw [hscheme]
      exact casefold_eq_self (by simp)
    simp only [safeOrigin, urlOrigin, hparsed, orRaise, bind, Except.bind, hfold, if_true]
  rw [heq hurl, heq hurl', h]

theorem onlyRaises_urljoin (base url : String) : OnlyRaises IsUrlError (urljoin base url) :=
  onlyRaises_orRaise isUrlError_valueError

theorem onlyRaises_requireHttpxUrl (url : String) : OnlyRaises IsUrlError (requireHttpxUrl url) :=
  onlyRaises_ensure isUrlError_invalidUrl

/-- The address of the first request, or one with the same origin. -/
def AtOrigin (origin : String → Except Exn UrlOrigin) (first url : String) : Prop :=
  url = first ∨ ∃ o, origin first = .ok o ∧ origin url = .ok o

omit [HttpRuntime] in
theorem AtOrigin.eq {origin : String → Except Exn UrlOrigin} {first url : String}
    (h : AtOrigin origin first url) : origin url = origin first := by
  rcases h with rfl | ⟨o, hfirst, hurl⟩
  · rfl
  · rw [hfirst, hurl]

omit [HttpRuntime] in
/-- Two steps at the same origin. -/
theorem AtOrigin.trans {origin : String → Except Exn UrlOrigin} {first url url' : String}
    (h : AtOrigin origin first url) (h' : AtOrigin origin url url') :
    AtOrigin origin first url' := by
  rcases h with rfl | ⟨o, hfirst, hurl⟩
  · exact h'
  · rcases h' with rfl | ⟨o', hurl', hnext⟩
    · exact Or.inr ⟨o, hfirst, hurl⟩
    · rw [hurl] at hurl'
      cases hurl'
      exact Or.inr ⟨o, hfirst, hnext⟩

/-- What stands between two origins: nothing, unless a request must stay at its own. -/
def refuseCrossOrigin (origin : String → Except Exn UrlOrigin) (needed : Bool)
    (redirectUrl currentUrl message : String) : Except Exn Unit :=
  if needed = true then do
    let redirectOrigin ← origin redirectUrl
    let currentOrigin ← origin currentUrl
    ensure (redirectOrigin = currentOrigin)
      (.app { errorCode := "UPSTREAM_CROSS_ORIGIN_REDIRECT", message := message
              statusCode := 502 })
  else .ok ()

omit [HttpRuntime] in
theorem refuseCrossOrigin_eq_ok {origin : String → Except Exn UrlOrigin} {needed : Bool}
    {redirectUrl currentUrl message : String}
    (h : refuseCrossOrigin origin needed redirectUrl currentUrl message = .ok ()) :
    AtOrigin origin currentUrl redirectUrl ∨ needed = false := by
  cases needed with
  | false => exact Or.inr rfl
  | true =>
      rw [refuseCrossOrigin, if_pos rfl] at h
      simp only [bind_eq_ok, ensure_eq_ok] at h
      obtain ⟨o, hredirect, o', hcurrent, rfl⟩ := h
      exact Or.inl (Or.inr ⟨o, hcurrent, hredirect⟩)

omit [HttpRuntime] in
theorem onlyRaises_refuseCrossOrigin {origin : String → Except Exn UrlOrigin} {needed : Bool}
    (horigin : ∀ url, OnlyRaises IsUrlError (origin url)) (redirectUrl currentUrl message : String) :
    OnlyRaises IsUrlError (refuseCrossOrigin origin needed redirectUrl currentUrl message) := by
  refine onlyRaises_ite ?_ (onlyRaises_ok ())
  refine (horigin redirectUrl).bind fun o => (horigin currentUrl).bind fun o' => ?_
  exact onlyRaises_ensure (isUrlError_app _)

theorem onlyRaises_safeOrigin (url : String) : OnlyRaises IsUrlError (safeOrigin url) := by
  refine (onlyRaises_orRaise isUrlError_valueError).bind fun parsed => ?_
  refine (onlyRaises_orRaise isUrlError_valueError).bind fun port => ?_
  exact onlyRaises_ok _

theorem onlyRaises_nextFindOrigin (url : String) :
    OnlyRaises IsUrlError (nextFindOrigin url) := by
  refine (onlyRaises_orRaise isUrlError_valueError).bind fun parsed => ?_
  refine (onlyRaises_orRaise (isUrlError_app _)).bind fun port => ?_
  exact onlyRaises_ok _

/-! ### Names of public hosts -/

/-- `_DNS_LABEL`: `^[a-z0-9](?:[a-z0-9-]{0,61}[a-z0-9])?$`. -/
def isDnsLabel (label : List Char) : Bool :=
  let inner (c : Char) : Bool := ('a' ≤ c && c ≤ 'z') || ('0' ≤ c && c ≤ '9')
  label ≠ [] && label.length ≤ 63 && label.all (fun c => inner c || c == '-') &&
    label.head?.all inner && label.getLast?.all inner

/-- `_LOCAL_HOST_SUFFIXES`. -/
def LOCAL_HOST_SUFFIXES : List String :=
  [".localhost", ".local", ".internal", ".home.arpa"]

/-- `normalize_public_dns_host`; nothing where it raises `ValueError`. -/
def normalizePublicDnsHost (value : String) : Option String :=
  let host := casefold (strip value)
  let labels := host.toList.splitOn '.'
  if host = "" ∨ host ≠ casefold value ∨ host.toList.getLast? = some '.' then none
  else if (HttpRuntime.ipAddress host).isSome then none
  else if 253 < host.toList.length ∨ labels.length < 2 ∨
      labels.all (fun label => label ≠ [] && label.all HttpRuntime.isdigit) = true ∨
      labels.any (fun label => !isDnsLabel label) = true ∨ host = "localhost" ∨
      LOCAL_HOST_SUFFIXES.any (fun suffix => suffix.toList.isSuffixOf host.toList) = true then
    none
  else some host

end Urls

/-! ### Addresses of ASCII characters -/

/-- What the parser on ASCII sees of an address with a scheme and a host. -/
theorem siteOf_ascii {s : String} {rest : List Char}
    (h : s.toList.dropWhile (· ≠ ':') = ':' :: '/' :: '/' :: rest) :
    @siteOf asciiPython s =
      let netloc := rest.takeWhile fun c => c ≠ '/' && c ≠ '?' && c ≠ '#'
      let hostinfo := if netloc.contains '@' then (partitionAt '@' netloc).2 else netloc
      let host := hostinfo.takeWhile (· ≠ ':')
      some (String.ofList ((s.toList.takeWhile (· ≠ ':')).map Char.toLower),
        if host = [] then none else some (String.ofList (host.map Char.toLower)),
        asciiPort (hostinfo.dropWhile (· ≠ ':'))) := by
  change (asciiUrlsplit s).map _ = _
  simp only [asciiUrlsplit, List.span_eq_takeWhile_dropWhile, h, Option.map_some]

/-- An address over `https` has a scheme and a host that are cut off. -/
theorem ascii_of_siteOf {s host : String} {port : Option (Option ℕ)}
    (h : @siteOf asciiPython s = some ("https", some host, port)) :
    ∃ rest, s.toList.dropWhile (· ≠ ':') = ':' :: '/' :: '/' :: rest := by
  change (asciiUrlsplit s).map _ = _ at h
  simp only [asciiUrlsplit, List.span_eq_takeWhile_dropWhile] at h
  split at h
  · rename_i rest hrest
    exact ⟨rest, hrest⟩
  · simp at h

/-- A slash at the end is not part of what is cut off before it. -/
theorem takeWhile_concat_slash {p : Char → Bool} (hp : p '/' = false) (cs : List Char) :
    (cs ++ ['/']).takeWhile p = cs.takeWhile p := by
  induction cs with
  | nil => simp [hp]
  | cons c cs ih =>
      rw [List.cons_append, List.takeWhile_cons, List.takeWhile_cons, ih]

theorem ascii_siteOf_slash (base host : String) (port : Option (Option ℕ))
    (h : @siteOf asciiPython base = some ("https", some host, port)) :
    @siteOf asciiPython (base ++ "/") = @siteOf asciiPython base := by
  obtain ⟨rest, hrest⟩ := ascii_of_siteOf h
  obtain ⟨htake, hdrop⟩ := cut_append hrest ['/']
  have hlist : (base ++ "/").toList = base.toList ++ ['/'] := String.toList_append
  rw [← hlist] at htake hdrop
  have hslash : (base ++ "/").toList.dropWhile (· ≠ ':') =
      ':' :: '/' :: '/' :: (rest ++ ['/']) := hdrop
  rw [siteOf_ascii hrest, siteOf_ascii hslash, htake, takeWhile_concat_slash (by decide)]

theorem ascii_siteOf_letter (url host : String) (port : Option (Option ℕ))
    (h : @siteOf asciiPython url = some ("https", some host, port)) : lstripSlash url = url := by
  obtain ⟨rest, hrest⟩ := ascii_of_siteOf h
  rw [siteOf_ascii hrest] at h
  have hscheme := congrArg String.toList (Prod.mk.inj (Option.some.inj h)).1
  rw [String.toList_ofList] at hscheme
  unfold lstripSlash
  cases hurl : url.toList with
  | nil => rw [List.dropWhile_nil, ← hurl, String.ofList_toList]
  | cons c cs =>
      rw [hurl] at hscheme hrest
      by_cases hc : c = '/'
      · rw [hc, List.takeWhile_cons_of_pos (by decide)] at hscheme
        exact absurd (List.cons.inj hscheme).1 (by decide)
      · rw [List.dropWhile_cons_of_neg (by simpa using hc), ← hurl, String.ofList_toList]

end LibSeek.Core
