/-
The runtime configuration.

An administrator saves the addresses and the credentials of the services in a file beside the
database.  A save gives groups of fields; a field that it leaves out keeps its value, and a secret
that it leaves out or gives as the empty text is kept only if the identity of the service stays
the same.  The file is replaced as a whole and parsed anew on every read.

Main definitions:

* `Core.RuntimePtSite`, `Core.RuntimeConfiguration` — the configuration;
* `Core.mergeConfiguration` — a save on a configuration;
* `Core.configurationPayload`, `Core.configurationFromPayload` — writing it and reading it;
* `Core.RuntimeConfiguration.settingsOverrides` — the settings that it puts in force;
* `Core.saveConfiguration`, `Core.configuration` — the store.
-/

import LibSeek.Core.Url
import LibSeek.Lib.Json
import LibSeek.Lib.Transaction

set_option relaxedAutoImplicit false
set_option autoImplicit false

namespace LibSeek.Core

open Lib (Json JsonObject)

/-! ### The configuration -/

/-- The architectures of a site. -/
inductive PtArchitecture where
  | avistaz | nexusphp
  deriving DecidableEq, Repr

/-- The text of an architecture. -/
def PtArchitecture.value : PtArchitecture → String
  | avistaz => "avistaz"
  | nexusphp => "nexusphp"

structure RuntimePtSite where
  architecture : PtArchitecture
  baseUrl : String
  siteId : String
  displayName : String
  username : Option String := none
  password : Option String := none
  pid : Option String := none
  cookie : Option String := none
  passkey : Option String := none
  deriving DecidableEq, Repr

/-- Whether a text is there and not empty. -/
def truthy (value : Option String) : Bool :=
  value.getD "" ≠ ""

/-- `RuntimePtSite.configured`. -/
def RuntimePtSite.configured (s : RuntimePtSite) : Bool :=
  match s.architecture with
  | .avistaz => s.baseUrl ≠ "" && truthy s.username && truthy s.password && truthy s.pid
  | .nexusphp => s.siteId ≠ "" && s.displayName ≠ "" && s.baseUrl ≠ "" && truthy s.cookie

/-- `RuntimePtSite.runtime_supported`. -/
def RuntimePtSite.runtimeSupported (s : RuntimePtSite) : Bool :=
  s.architecture = .avistaz

structure RuntimeConfiguration where
  nextfindBaseUrl : Option String := none
  nextfindUsername : Option String := none
  nextfindPassword : Option String := none
  tmdbToken : Option String := none
  ptSiteArchitecture : Option PtArchitecture := none
  avistazSite : Option RuntimePtSite := none
  nexusphpSite : Option RuntimePtSite := none
  qbUrl : Option String := none
  qbUsername : Option String := none
  qbPassword : Option String := none
  qbSavePath : Option String := none
  qbCategory : Option String := none
  qbAllowInsecureHttp : Option Bool := none
  deriving DecidableEq, Repr

/-- `RuntimeConfiguration.pt_site`. -/
def RuntimeConfiguration.ptSite (c : RuntimeConfiguration) : Option RuntimePtSite :=
  match c.ptSiteArchitecture with
  | some .avistaz => c.avistazSite
  | some .nexusphp => c.nexusphpSite
  | none => none

/-- An error of the store. -/
inductive RuntimeConfigError where
  | error (message : String)
  | validation (message : String)
  deriving DecidableEq, Repr

/-! ### The checks of a field

Nothing stands for a `ValueError` or a `TypeError`, which the callers treat alike. -/

/-- A control character of ASCII. -/
def isControl (c : Char) : Bool :=
  c.toNat < 32 || c.toNat == 127

/-- The value of a member of an object. -/
def member (values : JsonObject) (key : String) : Option Json :=
  match values with
  | .nil => none
  | .cons key' value rest => if key' = key then some value else member rest key

/-- `mapping.get(key)`, which answers the null for an absent key. -/
def memberOrNull (values : JsonObject) (key : String) : Json :=
  (member values key).getD .null

/-- `_mapping`. -/
def mapping : Json → Option JsonObject
  | .object members => some members
  | _ => none

section Checks

variable [Python]

/-- The text that the checks of public fields and of stored fields accept: no white space around
it, at most so many characters, and no control characters. -/
def isPlain (maximum : ℕ) (value : String) : Bool :=
  strip value = value && value.toList.length ≤ maximum && !value.toList.any isControl

/-- `_single_line`. -/
def singleLine (maximum : ℕ) : Json → Option String
  | .str value => if isPlain maximum value && value ≠ "" then some value else none
  | _ => none

/-- `_optional_public_update`. -/
def optionalPublicUpdate (values : JsonObject) (key : String) (current : Option String)
    (maximum : ℕ) : Option (Option String) :=
  match member values key with
  | none => some current
  | some (.str value) => if isPlain maximum value then some (some value) else none
  | some _ => none

/-- `_required_public`. -/
def requiredPublic (values : JsonObject) (key : String) (maximum : ℕ) : Option String :=
  match memberOrNull values key with
  | .str value =>
      if value = "" then none
      else
        match optionalPublicUpdate values key none maximum with
        | some (some validated) => if validated = "" then none else some validated
        | _ => none
  | _ => none

/-- `_optional_secret_update`. -/
def optionalSecretUpdate (values : JsonObject) (key : String) (current : Option String) :
    Option (Option String) :=
  match member values key with
  | none => some current
  | some value =>
      if value = .null ∨ value = .str "" then some current
      else (singleLine 8192 value).map some

/-- `_stored_optional_string`. -/
def storedOptionalString (value : Json) (maximum : ℕ) : Option (Option String) :=
  match value with
  | .null => some none
  | .str text => if isPlain maximum text then some (some text) else none
  | _ => none

/-- `_stored_required_string`. -/
def storedRequiredString (value : Json) (maximum : ℕ) : Option String :=
  match storedOptionalString value maximum with
  | some (some stored) => if stored = "" then none else some stored
  | _ => none

end Checks

/-! ### Origins -/

/-- A character that a site identifier may begin and end with: `[a-z0-9]`. -/
def isSiteIdEnd (c : Char) : Bool :=
  ('a' ≤ c && c ≤ 'z') || ('0' ≤ c && c ≤ '9')

/-- `_validate_site_id`: `[a-z0-9](?:[a-z0-9-]{0,22}[a-z0-9])?`. -/
def validateSiteId (value : String) : Bool :=
  match value.toList with
  | [] => false
  | c :: cs =>
      isSiteIdEnd c && cs.length ≤ 23 && cs.dropLast.all (fun d => isSiteIdEnd d || d == '-') &&
        cs.getLast?.all isSiteIdEnd

section Configuration

variable [UrlText]

/-- The conditions of `_validate_https_origin` on the parts of an address. -/
def isHttpsOrigin (parsed : SplitResult) (port : Option ℕ) : Bool :=
  casefold parsed.scheme = "https" && truthy parsed.hostname && parsed.username = none &&
    parsed.password = none && parsed.query = "" && parsed.fragment = "" &&
    (parsed.path = "" || parsed.path = "/") && port.all fun p => 1 ≤ p && p ≤ 65535

/-- `_validate_https_origin`: the address without its trailing slashes. -/
def validateHttpsOrigin (value : String) : Option String := do
  let parsed ← urlsplit value
  let port ← parsed.port
  if isHttpsOrigin parsed port then some (rstripSlash value) else none

/-- `_url_host`. -/
def urlHost (value : String) : Option String := do
  let validated ← validateHttpsOrigin value
  let parsed ← urlsplit validated
  match parsed.hostname with
  | some host => if host = "" then none else some (casefold host)
  | none => none

/-- `_validate_qb_url`. -/
def validateQbUrl (value : Option String) (allowInsecureHttp : Bool) : Bool :=
  match value with
  | none => true
  | some url =>
      url = "" ||
        match urlsplit url with
        | none => false
        | some parsed =>
            (parsed.scheme = "https" || (allowInsecureHttp && parsed.scheme = "http")) &&
              truthy parsed.hostname && !truthy parsed.username && !truthy parsed.password &&
              parsed.query = "" && parsed.fragment = ""

/-! ### Merging a save -/

/-- The groups of a save. -/
abbrev Updates := List (String × JsonObject)

/-- `updates.get(group, {})`. -/
def Updates.group (updates : Updates) (name : String) : JsonObject :=
  (updates.lookup name).getD .nil

/-- The site of an update for AvistaZ. -/
def mergeAvistaz (current : Option RuntimePtSite) (update : JsonObject) :
    Option RuntimePtSite := do
  let baseUrl ← validateHttpsOrigin (← requiredPublic update "base_url" 2048)
  let username ← requiredPublic update "username" 120
  let kept := current.filter fun site => site.baseUrl = baseUrl && site.username = some username
  let password ← optionalSecretUpdate update "password" (kept.bind (·.password))
  let pid ← optionalSecretUpdate update "pid" (kept.bind (·.pid))
  some
    { architecture := .avistaz, baseUrl, siteId := "avistaz", displayName := "AvistaZ",
      username := some username, password, pid }

/-- The site of an update for NexusPHP. -/
def mergeNexusphp (current : Option RuntimePtSite) (update : JsonObject) :
    Option RuntimePtSite := do
  let siteId ← requiredPublic update "site_id" 24
  if !validateSiteId siteId then none
  let displayName ← requiredPublic update "display_name" 100
  let baseUrl ← validateHttpsOrigin (← requiredPublic update "base_url" 2048)
  let kept := current.filter fun site => site.siteId = siteId && site.baseUrl = baseUrl
  let cookie ← optionalSecretUpdate update "cookie" (kept.bind (·.cookie))
  let passkey ← optionalSecretUpdate update "passkey" (kept.bind (·.passkey))
  some { architecture := .nexusphp, baseUrl, siteId, displayName, cookie, passkey }

/-- `_merge_pt_sites`: the architecture in force and the two sites. -/
def mergePtSites (current : RuntimeConfiguration) (update : Option JsonObject) :
    Option (Option PtArchitecture × Option RuntimePtSite × Option RuntimePtSite) :=
  match update with
  | none => some (current.ptSiteArchitecture, current.avistazSite, current.nexusphpSite)
  | some update =>
      match memberOrNull update "architecture" with
      | .str "avistaz" =>
          (mergeAvistaz current.avistazSite update).map fun site =>
            (some .avistaz, some site, current.nexusphpSite)
      | .str "nexusphp" =>
          (mergeNexusphp current.nexusphpSite update).map fun site =>
            (some .nexusphp, current.avistazSite, some site)
      | _ => none

/-- The address, the user and the password of NextFind after a save. -/
def mergeNextfind (current : RuntimeConfiguration) (nextfind : JsonObject) :
    Option (Option String × Option String × Option String) := do
  let given ← optionalPublicUpdate nextfind "base_url" current.nextfindBaseUrl 2048
  let baseUrl ← given.mapM validateHttpsOrigin
  let username ← optionalPublicUpdate nextfind "username" current.nextfindUsername 120
  let same := baseUrl = current.nextfindBaseUrl ∧ username = current.nextfindUsername
  let password ← optionalSecretUpdate nextfind "password"
    (if same then current.nextfindPassword else none)
  some (baseUrl, username, password)

/-- The address, the user and the password of qBittorrent after a save. -/
def mergeQb (current : RuntimeConfiguration) (qb : JsonObject) :
    Option (Option String × Option String × Option String) := do
  let url ← optionalPublicUpdate qb "url" current.qbUrl 2048
  let username ← optionalPublicUpdate qb "username" current.qbUsername 120
  let same := url = current.qbUrl ∧ username = current.qbUsername
  let password ← optionalSecretUpdate qb "password" (if same then current.qbPassword else none)
  some (url, username, password)

/-- The permission of plain HTTP after a save. -/
def mergeAllow (current : RuntimeConfiguration) (qb : JsonObject) : Option (Option Bool) :=
  match member qb "allow_insecure_http" with
  | none => some current.qbAllowInsecureHttp
  | some .null => some none
  | some (.bool allow) => some (some allow)
  | some _ => none

/-- The fields of `_merge_configuration`. -/
def mergeFields (current : RuntimeConfiguration) (updates : Updates) :
    Option RuntimeConfiguration := do
  let tmdb := updates.group "tmdb"
  let qb := updates.group "qbittorrent"
  let (nextfindBaseUrl, nextfindUsername, nextfindPassword) ←
    mergeNextfind current (updates.group "nextfind")
  let tmdbToken ← optionalSecretUpdate tmdb "token" current.tmdbToken
  let (ptSiteArchitecture, avistazSite, nexusphpSite) ←
    mergePtSites current (updates.lookup "pt_site")
  let (qbUrl, qbUsername, qbPassword) ← mergeQb current qb
  let qbSavePath ← optionalPublicUpdate qb "save_path" current.qbSavePath 4096
  let qbCategory ← optionalPublicUpdate qb "category" current.qbCategory 300
  let qbAllowInsecureHttp ← mergeAllow current qb
  if !validateQbUrl qbUrl (qbAllowInsecureHttp.getD false) then none
  some
    { nextfindBaseUrl, nextfindUsername, nextfindPassword, tmdbToken, ptSiteArchitecture,
      avistazSite, nexusphpSite, qbUrl, qbUsername, qbPassword, qbSavePath, qbCategory,
      qbAllowInsecureHttp }

/-- `_merge_configuration`. -/
def mergeConfiguration (current : RuntimeConfiguration) (updates : Updates) :
    Except RuntimeConfigError RuntimeConfiguration :=
  if updates.any fun group => group.1 ∉ ["nextfind", "tmdb", "pt_site", "qbittorrent"] then
    .error (.error "runtime integration update is invalid")
  else
    Lib.orRaise (mergeFields current updates) (.validation "runtime integration update is invalid")

/-- A text, or the null where there is none. -/
def textOrNull : Option String → Json
  | none => .null
  | some text => .str text

/-- A truth value, or the null where there is none. -/
def boolOrNull : Option Bool → Json
  | none => .null
  | some value => .bool value

/-! ### Writing and reading -/

/-- `_pt_site_payload`. -/
def ptSitePayload : Option RuntimePtSite → Json
  | none => .null
  | some site =>
      .object (.ofList
        [("architecture", .str site.architecture.value),
          ("base_url", .str site.baseUrl),
          ("site_id", .str site.siteId),
          ("display_name", .str site.displayName),
          ("username", textOrNull site.username),
          ("password", textOrNull site.password),
          ("pid", textOrNull site.pid),
          ("cookie", textOrNull site.cookie),
          ("passkey", textOrNull site.passkey)])

/-- `_configuration_payload`. -/
def configurationPayload (c : RuntimeConfiguration) : JsonObject :=
  .ofList
    [("version", .num 2),
      ("nextfind", .object (.ofList
        [("base_url", textOrNull c.nextfindBaseUrl),
          ("username", textOrNull c.nextfindUsername),
          ("password", textOrNull c.nextfindPassword)])),
      ("tmdb", .object (.ofList [("token", textOrNull c.tmdbToken)])),
      ("pt_sites", .object (.ofList
        [("active_architecture", textOrNull (c.ptSiteArchitecture.map PtArchitecture.value)),
          ("avistaz", ptSitePayload c.avistazSite),
          ("nexusphp", ptSitePayload c.nexusphpSite)])),
      ("qbittorrent", .object (.ofList
        [("url", textOrNull c.qbUrl),
          ("username", textOrNull c.qbUsername),
          ("password", textOrNull c.qbPassword),
          ("save_path", textOrNull c.qbSavePath),
          ("category", textOrNull c.qbCategory),
          ("allow_insecure_http", boolOrNull c.qbAllowInsecureHttp)]))]

/-- The settings that the store and `settings_overrides` read or put in force.  Each secret is what
`_read_secret` returns for it. -/
structure IntegrationSettings where
  nextfindBaseUrl : String := "https://nextfind.example"
  nextfindUsername : Option String := none
  nextfindPassword : Option String := none
  nextfindAllowedHosts : List String := []
  tmdbAccessToken : Option String := none
  ptSiteArchitecture : Option PtArchitecture := some .avistaz
  ptSiteId : String := "avistaz"
  ptSiteDisplayName : String := "AvistaZ"
  ptSiteRuntimeConfigured : Option Bool := none
  ptSiteRuntimeSupported : Bool := true
  avistazBaseUrl : String := "https://avistaz.to"
  avistazUsername : Option String := none
  avistazPassword : Option String := none
  avistazPid : Option String := none
  avistazAllowedHosts : List String := []
  qbBaseUrl : Option String := none
  qbUsername : Option String := none
  qbPassword : Option String := none
  qbTargetSavePath : Option String := none
  qbAllowedSavePaths : List String := []
  qbTargetCategory : Option String := none
  qbAllowInsecureHttp : Bool := false
  deriving DecidableEq, Repr

/-- `_v1_avistaz_site`. -/
def v1AvistazSite (payload : JsonObject) (settings : IntegrationSettings) :
    Option (Option RuntimePtSite) := do
  let avistaz ← mapping (memberOrNull payload "avistaz")
  let username ← storedOptionalString (memberOrNull avistaz "username") 120
  let password ← storedOptionalString (memberOrNull avistaz "password") 8192
  let pid ← storedOptionalString (memberOrNull avistaz "pid") 8192
  if username = none ∧ password = none ∧ pid = none then some none
  else
    (validateHttpsOrigin settings.avistazBaseUrl).map fun baseUrl => some
      { architecture := .avistaz, baseUrl, siteId := "avistaz", displayName := "AvistaZ",
        username, password, pid }

/-- The fields of a stored site. -/
def storedSiteFields (site : JsonObject) (architecture : PtArchitecture) :
    Option RuntimePtSite := do
  let baseUrl ← validateHttpsOrigin (← storedRequiredString (memberOrNull site "base_url") 2048)
  let siteId ← storedRequiredString (memberOrNull site "site_id") 24
  if !validateSiteId siteId then none
  let displayName ← storedRequiredString (memberOrNull site "display_name") 100
  let username ← storedOptionalString (memberOrNull site "username") 120
  let password ← storedOptionalString (memberOrNull site "password") 8192
  let pid ← storedOptionalString (memberOrNull site "pid") 8192
  let cookie ← storedOptionalString (memberOrNull site "cookie") 8192
  let passkey ← storedOptionalString (memberOrNull site "passkey") 8192
  some { architecture, baseUrl, siteId, displayName, username, password, pid, cookie, passkey }

/-- `_stored_pt_site`. -/
def storedPtSite (value : Json) (architecture : PtArchitecture) :
    Option (Option RuntimePtSite) :=
  match value with
  | .null => some none
  | .object site =>
      if memberOrNull site "architecture" = .str architecture.value then
        (storedSiteFields site architecture).map some
      else none
  | _ => none

/-- The architecture in force of a stored configuration. -/
def storedArchitecture : Json → Option (Option PtArchitecture)
  | .null => some none
  | .str "avistaz" => some (some .avistaz)
  | .str "nexusphp" => some (some .nexusphp)
  | _ => none

/-- The architecture in force and the two sites of a stored configuration of version 2. -/
def storedPtSites (payload : JsonObject) :
    Option (Option PtArchitecture × Option RuntimePtSite × Option RuntimePtSite) := do
  let ptSites ← mapping (memberOrNull payload "pt_sites")
  let active ← storedArchitecture (memberOrNull ptSites "active_architecture")
  let avistazSite ← storedPtSite (memberOrNull ptSites "avistaz") .avistaz
  let nexusphpSite ← storedPtSite (memberOrNull ptSites "nexusphp") .nexusphp
  if (active = some .avistaz ∧ avistazSite = none) ∨
      (active = some .nexusphp ∧ nexusphpSite = none) then none
  else some (active, avistazSite, nexusphpSite)

/-- The sites of a stored configuration of either version. -/
def storedSitesOf (payload : JsonObject) (version : ℕ) (settings : IntegrationSettings) :
    Option (Option PtArchitecture × Option RuntimePtSite × Option RuntimePtSite) :=
  if version = 1 then
    (v1AvistazSite payload settings).map fun site => (site.map fun _ => .avistaz, site, none)
  else storedPtSites payload

/-- The stored address of NextFind, for which the first version has the one of the settings. -/
def storedNextfindBaseUrl (nextfind : JsonObject) (version : ℕ) (settings : IntegrationSettings) :
    Option (Option String) := do
  let stored ← storedOptionalString (memberOrNull nextfind "base_url") 2048
  let address := if version = 1 ∧ stored = none then some settings.nextfindBaseUrl else stored
  address.mapM validateHttpsOrigin

/-- The stored permission of plain HTTP. -/
def storedAllow : Json → Option (Option Bool)
  | .null => some none
  | .bool allow => some (some allow)
  | _ => none

/-- `_configuration_from_payload`. -/
def configurationFromPayload (payload : JsonObject) (version : ℕ)
    (settings : IntegrationSettings) : Option RuntimeConfiguration := do
  let nextfind ← mapping (memberOrNull payload "nextfind")
  let tmdb ← mapping (memberOrNull payload "tmdb")
  let qb ← mapping (memberOrNull payload "qbittorrent")
  let qbAllowInsecureHttp ← storedAllow (memberOrNull qb "allow_insecure_http")
  let nextfindBaseUrl ← storedNextfindBaseUrl nextfind version settings
  let qbUrl ← storedOptionalString (memberOrNull qb "url") 2048
  if !validateQbUrl qbUrl (qbAllowInsecureHttp.getD false) then none
  let (ptSiteArchitecture, avistazSite, nexusphpSite) ← storedSitesOf payload version settings
  let nextfindUsername ← storedOptionalString (memberOrNull nextfind "username") 120
  let nextfindPassword ← storedOptionalString (memberOrNull nextfind "password") 8192
  let tmdbToken ← storedOptionalString (memberOrNull tmdb "token") 8192
  let qbUsername ← storedOptionalString (memberOrNull qb "username") 120
  let qbPassword ← storedOptionalString (memberOrNull qb "password") 8192
  let qbSavePath ← storedOptionalString (memberOrNull qb "save_path") 4096
  let qbCategory ← storedOptionalString (memberOrNull qb "category") 300
  some
    { nextfindBaseUrl, nextfindUsername, nextfindPassword, tmdbToken, ptSiteArchitecture,
      avistazSite, nexusphpSite, qbUrl, qbUsername, qbPassword, qbSavePath, qbCategory,
      qbAllowInsecureHttp }

/-! ### The settings in force -/

/-- The NextFind settings that `settings_overrides` puts in force: with an address or a user of its
own, the configuration replaces the user and the password of the environment, even by nothing. -/
def overrideNextfind (c : RuntimeConfiguration) (base : IntegrationSettings) :
    Option IntegrationSettings := do
  let hosts ← c.nextfindBaseUrl.mapM urlHost
  let located :=
    { base with
      nextfindBaseUrl := c.nextfindBaseUrl.getD base.nextfindBaseUrl
      nextfindAllowedHosts := (hosts.map ([·])).getD base.nextfindAllowedHosts }
  if c.nextfindBaseUrl ≠ none ∨ c.nextfindUsername ≠ none then
    some
      { located with
        nextfindUsername := c.nextfindUsername
        nextfindPassword := c.nextfindPassword }
  else some located

/-- The site settings that `settings_overrides` puts in force.  A site of another architecture
takes the AvistaZ credentials of the environment away. -/
def overridePtSite (c : RuntimeConfiguration) (base : IntegrationSettings) :
    Option IntegrationSettings :=
  match c.ptSite with
  | none => some base
  | some site =>
      let described :=
        { base with
          ptSiteArchitecture := some site.architecture
          ptSiteId := site.siteId
          ptSiteDisplayName := site.displayName
          ptSiteRuntimeConfigured := some site.configured
          ptSiteRuntimeSupported := site.runtimeSupported }
      match site.architecture with
      | .avistaz =>
          (urlHost site.baseUrl).map fun host =>
            { described with
              avistazBaseUrl := site.baseUrl
              avistazAllowedHosts := [host]
              avistazUsername := site.username
              avistazPassword := site.password
              avistazPid := site.pid }
      | .nexusphp =>
          some
            { described with
              avistazUsername := none
              avistazPassword := none
              avistazPid := none }

/-- A text that is not empty. -/
def nonempty? (value : String) : Option String :=
  if value = "" then none else some value

/-- The qBittorrent settings that `settings_overrides` puts in force. -/
def overrideQb (c : RuntimeConfiguration) (base : IntegrationSettings) : IntegrationSettings :=
  let identified := c.qbUrl.isSome || c.qbUsername.isSome
  { base with
    qbBaseUrl := if c.qbUrl.isSome then c.qbUrl else base.qbBaseUrl
    qbUsername := if identified then c.qbUsername else base.qbUsername
    qbPassword := if identified then c.qbPassword else base.qbPassword
    qbTargetSavePath := (c.qbSavePath.map nonempty?).getD base.qbTargetSavePath
    qbAllowedSavePaths :=
      (c.qbSavePath.map fun path => (nonempty? path).toList).getD base.qbAllowedSavePaths
    qbTargetCategory := (c.qbCategory.map nonempty?).getD base.qbTargetCategory
    qbAllowInsecureHttp := c.qbAllowInsecureHttp.getD base.qbAllowInsecureHttp }

/-- `RuntimeConfiguration.settings_overrides`, on the settings of the environment. -/
def RuntimeConfiguration.settingsOverrides (c : RuntimeConfiguration)
    (base : IntegrationSettings) : Option IntegrationSettings := do
  let nextfind ← overrideNextfind c base
  let tmdb := { nextfind with tmdbAccessToken := c.tmdbToken.or nextfind.tmdbAccessToken }
  let ptSite ← overridePtSite c tmdb
  some (overrideQb c ptSite)

/-! ### The store -/

/-- The supported versions of a stored configuration; the truth value is equal to the number 1. -/
def supportedVersion : Json → Option ℕ
  | .num 1 => some 1
  | .bool true => some 1
  | .num 2 => some 2
  | _ => none

/-- `RuntimeConfigStore.configuration`, from the document of the file if there is a file. -/
def configuration (settings : IntegrationSettings) (file : Option Json) :
    Except RuntimeConfigError RuntimeConfiguration :=
  match file with
  | none => .ok {}
  | some document =>
      Lib.orRaise
        (do
          let payload ← mapping document
          let version ← supportedVersion (memberOrNull payload "version")
          configurationFromPayload payload version settings)
        (.error "runtime integration configuration is invalid")

/-- How the file system answers a save: it may fail before the file is replaced, which it also
does where the document is too large, or in the work that follows. -/
inductive WriteOutcome where
  | written | failedBefore | failedAfter
  deriving DecidableEq, Repr

/-- A save: the groups of fields, and how the file system answers. -/
structure Save where
  updates : Updates
  outcome : WriteOutcome
  deriving Repr

/-- `RuntimeConfigStore.save_configuration`: the answer, and the document of the file. -/
def saveConfiguration (settings : IntegrationSettings) (save : Save) (file : Option Json) :
    Except RuntimeConfigError RuntimeConfiguration × Option Json :=
  match configuration settings file with
  | .error e => (.error e, file)
  | .ok current =>
      match mergeConfiguration current save.updates with
      | .error e => (.error e, file)
      | .ok updated =>
          let payload := some (Json.object (configurationPayload updated))
          match save.outcome with
          | .written => (.ok updated, payload)
          | .failedBefore =>
              (.error (.error "runtime integration configuration is unavailable"), file)
          | .failedAfter =>
              (.error (.error "runtime integration configuration is unavailable"), payload)

end Configuration

end LibSeek.Core
