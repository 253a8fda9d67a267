/-
What the stored configuration keeps.

Two questions about the file of the runtime configuration.  Where does a secret in it come from: a
save that supplied it for the identity that the file still has, through whatever saves came in
between.  And is what is written what is read: it is, unless an address with white space before its
trailing slashes was saved, which is accepted, written without the slashes and refused ever after.

Main definitions:

* `Core.SecretField` — the secrets of services with an identity;
* `Core.IsStored`, `Core.OriginsStripped` — what every saved configuration satisfies, and what
  reading it back asks besides;
* `Core.PlainOrigins` — the saves whose addresses have no such white space.

Main results:

* `Core.configurationFromPayload_payload` — reading back a saved configuration;
* `Core.mergeFields_guarded` — a save keeps a secret only with its identity;
* `Core.stored_configuration` — **the secrets of a run of saves, and the round trip**.
-/

import LibSeek.Core.RuntimeConfig
import LibSeek.Lib.Provenance

set_option relaxedAutoImplicit false
set_option autoImplicit false

namespace LibSeek.Core

open Lib (Json JsonObject)

section Stored

variable [Python]

/-! ### Texts -/

/-- A text of at most so many characters without control characters. -/
def IsLine (maximum : ℕ) (value : String) : Prop :=
  value.toList.length ≤ maximum ∧ value.toList.any isControl = false

theorem isPlain_iff {maximum : ℕ} {value : String} :
    isPlain maximum value = true ↔ strip value = value ∧ IsLine maximum value := by
  simp only [isPlain, IsLine, Bool.and_eq_true, decide_eq_true_eq, Bool.not_eq_true', and_assoc]

omit [Python] in
/-- A text without its trailing slashes is still a line. -/
theorem IsLine.rstripSlash {maximum : ℕ} {value : String} (h : IsLine maximum value) :
    IsLine maximum (rstripSlash value) := by
  have hall : ∀ c ∈ (Core.rstripSlash value).toList, c ∈ value.toList := by
    intro c hc
    rw [Core.rstripSlash, String.toList_ofList, List.mem_reverse] at hc
    exact List.mem_reverse.mp ((List.dropWhile_sublist _).mem hc)
  refine ⟨?_, ?_⟩
  · have hlength := (List.dropWhile_sublist (· == '/') (l := value.toList.reverse)).length_le
    rw [List.length_reverse] at hlength
    rw [Core.rstripSlash, String.toList_ofList, List.length_reverse]
    exact hlength.trans h.1
  · rw [List.any_eq_false] at *
    exact fun c hc => List.any_eq_false.mp h.2 c (hall c hc)

/-- Every field that is there is plain. -/
def AllPlain (maximum : ℕ) (value : Option String) : Prop :=
  ∀ text, value = some text → isPlain maximum text = true

theorem allPlain_none (maximum : ℕ) : AllPlain maximum none := by
  intro text h
  cases h

theorem allPlain_some {maximum : ℕ} {text : String} (h : isPlain maximum text = true) :
    AllPlain maximum (some text) := by
  rintro _ ⟨⟩
  exact h

theorem singleLine_eq_some {maximum : ℕ} {value : Json} {text : String}
    (h : singleLine maximum value = some text) :
    value = .str text ∧ isPlain maximum text = true ∧ text ≠ "" := by
  cases value with
  | str value =>
      simp only [singleLine, Bool.and_eq_true, decide_eq_true_eq, Option.ite_none_right_eq_some,
        Option.some_inj] at h
      obtain ⟨⟨hplain, hne⟩, rfl⟩ := h
      exact ⟨rfl, hplain, hne⟩
  | _ => cases h

/-- A public field after an update is the one that the update gives, or the one that was there. -/
theorem optionalPublicUpdate_cases {values : JsonObject} {key : String}
    {current result : Option String} {maximum : ℕ}
    (h : optionalPublicUpdate values key current maximum = some result) :
    (member values key = none ∧ result = current) ∨
      ∃ text, member values key = some (.str text) ∧ result = some text ∧
        isPlain maximum text = true := by
  rw [optionalPublicUpdate] at h
  split at h
  case h_1 hmember =>
      cases h
      exact Or.inl ⟨hmember, rfl⟩
  case h_2 text hmember =>
      split at h
      case isTrue hplain =>
          cases h
          exact Or.inr ⟨text, hmember, rfl, hplain⟩
      · cases h
  · cases h

theorem optionalPublicUpdate_plain {values : JsonObject} {key : String}
    {current result : Option String} {maximum : ℕ}
    (h : optionalPublicUpdate values key current maximum = some result)
    (hcurrent : AllPlain maximum current) : AllPlain maximum result := by
  rcases optionalPublicUpdate_cases h with ⟨-, rfl⟩ | ⟨text, -, rfl, hplain⟩
  · exact hcurrent
  · exact allPlain_some hplain

/-- A required field is a member of the update, and it is plain and not empty. -/
theorem requiredPublic_eq_some {values : JsonObject} {key text : String} {maximum : ℕ}
    (h : requiredPublic values key maximum = some text) :
    member values key = some (.str text) ∧ isPlain maximum text = true ∧ text ≠ "" := by
  rw [requiredPublic, memberOrNull] at h
  cases hmember : member values key with
  | none =>
      rw [hmember] at h
      cases h
  | some value =>
      cases value with
      | str value =>
          simp only [hmember, Option.getD_some, optionalPublicUpdate] at h
          by_cases hempty : value = ""
          · rw [if_pos hempty] at h
            cases h
          · rw [if_neg hempty] at h
            by_cases hplain : isPlain maximum value = true
            · simp only [hplain, if_true, if_neg hempty, Option.some_inj] at h
              subst h
              exact ⟨rfl, hplain, hempty⟩
            · simp [hplain] at h
      | _ =>
          rw [hmember] at h
          cases h

/-- A secret after an update is the one that the update supplies, or the one that was kept. -/
theorem optionalSecretUpdate_cases {values : JsonObject} {key : String}
    {current result : Option String} (h : optionalSecretUpdate values key current = some result) :
    result = current ∨ ∃ text, result = some text ∧ member values key = some (.str text) ∧
      isPlain 8192 text = true := by
  rw [optionalSecretUpdate] at h
  split at h
  · cases h
    exact Or.inl rfl
  · rename_i value hmember
    split at h
    · cases h
      exact Or.inl rfl
    · obtain ⟨text, hsingle, rfl⟩ := Option.map_eq_some_iff.mp h
      obtain ⟨rfl, hplain, -⟩ := singleLine_eq_some hsingle
      exact Or.inr ⟨text, rfl, hmember, hplain⟩

theorem optionalSecretUpdate_plain {values : JsonObject} {key : String}
    {current result : Option String} (h : optionalSecretUpdate values key current = some result)
    (hcurrent : AllPlain 8192 current) : AllPlain 8192 result := by
  rcases optionalSecretUpdate_cases h with rfl | ⟨text, rfl, -, hplain⟩
  · exact hcurrent
  · exact allPlain_some hplain

/-- Reading back a plain field. -/
theorem storedOptionalString_textOrNull {maximum : ℕ} {value : Option String}
    (h : AllPlain maximum value) :
    storedOptionalString (textOrNull value) maximum = some value := by
  cases value with
  | none => rfl
  | some text => simp only [textOrNull, storedOptionalString, h text rfl, if_true]

end Stored

section Configuration

variable [UrlText]

/-! ### Origins -/

theorem scheme_ne_empty {r : SplitResult} {port : Option ℕ} (h : isHttpsOrigin r port = true) :
    r.scheme ≠ "" := by
  intro hscheme
  simp only [isHttpsOrigin, Bool.and_eq_true, decide_eq_true_eq] at h
  have hhttps := h.1.1.1.1.1.1.1
  have hempty : casefold "" = "" := casefold_eq_self fun c hc => absurd hc List.not_mem_nil
  rw [hscheme, hempty] at hhttps
  exact absurd hhttps (by decide)

theorem validateHttpsOrigin_of {value : String} {parsed : SplitResult} {port : Option ℕ}
    (hparsed : urlsplit value = some parsed) (hport : parsed.port = some port)
    (hok : isHttpsOrigin parsed port = true) :
    validateHttpsOrigin value = some (rstripSlash value) := by
  rw [validateHttpsOrigin, hparsed]
  simp only [Option.bind_eq_bind, Option.bind_some, hport, hok, if_true]

/-- A validated address has no trailing slashes, and it is still valid without them. -/
theorem validateHttpsOrigin_eq_some {value origin : String}
    (h : validateHttpsOrigin value = some origin) :
    origin = rstripSlash value ∧ validateHttpsOrigin origin = some origin := by
  obtain ⟨parsed, hparsed, h⟩ := Option.bind_eq_some_iff.mp h
  obtain ⟨port, hport, h⟩ := Option.bind_eq_some_iff.mp h
  obtain ⟨hok, h⟩ := Option.ite_none_right_eq_some.mp h
  obtain rfl := Option.some_inj.mp h
  refine ⟨rfl, ?_⟩
  have hscheme := scheme_ne_empty hok
  have hok' := hok
  simp only [isHttpsOrigin, Bool.and_eq_true, Bool.or_eq_true, decide_eq_true_eq] at hok'
  obtain ⟨⟨⟨⟨⟨⟨⟨-, hhost⟩, -⟩, -⟩, hquery⟩, hfragment⟩, hpath⟩, -⟩ := hok'
  have hhost' : parsed.hostname ≠ none := by
    intro hnone
    rw [hnone] at hhost
    cases hhost
  obtain ⟨path, hpath', hsplit⟩ :=
    urlsplit_rstripSlash hparsed hscheme hhost' hpath hquery hfragment
  have hok'' : isHttpsOrigin { parsed with path := path } port = true := by
    rw [isHttpsOrigin] at hok ⊢
    rcases hpath' with rfl | rfl
    · simpa [hpath] using! hok
    · simpa [hpath] using! hok
  rw [validateHttpsOrigin_of hsplit hport hok'', rstripSlash_rstripSlash]

/-- The empty text is no address. -/
theorem validateHttpsOrigin_ne_empty {origin : String}
    (h : validateHttpsOrigin origin = some origin) : origin ≠ "" := by
  rintro rfl
  obtain ⟨parsed, hparsed, h⟩ := Option.bind_eq_some_iff.mp h
  obtain ⟨port, -, h⟩ := Option.bind_eq_some_iff.mp h
  obtain ⟨hok, -⟩ := Option.ite_none_right_eq_some.mp h
  rw [urlsplit] at hparsed
  split at hparsed
  · cases hparsed
  · cases hparsed
    exact scheme_ne_empty hok rfl

/-! ### What is stored -/

/-- What every saved site of an architecture satisfies. -/
structure IsStoredSite (architecture : PtArchitecture) (site : RuntimePtSite) : Prop where
  architecture : site.architecture = architecture
  baseUrl : validateHttpsOrigin site.baseUrl = some site.baseUrl
  baseUrl_line : IsLine 2048 site.baseUrl
  siteId : isPlain 24 site.siteId = true ∧ site.siteId ≠ "" ∧ validateSiteId site.siteId = true
  displayName : isPlain 100 site.displayName = true ∧ site.displayName ≠ ""
  username : AllPlain 120 site.username
  password : AllPlain 8192 site.password
  pid : AllPlain 8192 site.pid
  cookie : AllPlain 8192 site.cookie
  passkey : AllPlain 8192 site.passkey

/-- What every saved configuration satisfies: each field is one that its check accepts, but for
white space at the ends of the addresses. -/
structure IsStored (c : RuntimeConfiguration) : Prop where
  nextfindBaseUrl : ∀ url, c.nextfindBaseUrl = some url →
    validateHttpsOrigin url = some url ∧ IsLine 2048 url
  nextfindUsername : AllPlain 120 c.nextfindUsername
  nextfindPassword : AllPlain 8192 c.nextfindPassword
  tmdbToken : AllPlain 8192 c.tmdbToken
  avistazSite : ∀ site, c.avistazSite = some site → IsStoredSite .avistaz site
  nexusphpSite : ∀ site, c.nexusphpSite = some site → IsStoredSite .nexusphp site
  active : ¬ ((c.ptSiteArchitecture = some .avistaz ∧ c.avistazSite = none) ∨
    (c.ptSiteArchitecture = some .nexusphp ∧ c.nexusphpSite = none))
  qbUrl : AllPlain 2048 c.qbUrl
  qbUrl_valid : validateQbUrl c.qbUrl (c.qbAllowInsecureHttp.getD false) = true
  qbUsername : AllPlain 120 c.qbUsername
  qbPassword : AllPlain 8192 c.qbPassword
  qbSavePath : AllPlain 4096 c.qbSavePath
  qbCategory : AllPlain 300 c.qbCategory

/-- No stored address has white space at its ends. -/
structure OriginsStripped (c : RuntimeConfiguration) : Prop where
  nextfind : ∀ url, c.nextfindBaseUrl = some url → strip url = url
  avistaz : ∀ site, c.avistazSite = some site → strip site.baseUrl = site.baseUrl
  nexusphp : ∀ site, c.nexusphpSite = some site → strip site.baseUrl = site.baseUrl

/-! ### Reading back -/

/-- The stored address of NextFind is read back exactly if it is stripped. -/
theorem storedNextfindBaseUrl_payload {url result : Option String} {username password : Json}
    {settings : IntegrationSettings}
    (h : ∀ text, url = some text → validateHttpsOrigin text = some text ∧ IsLine 2048 text) :
    storedNextfindBaseUrl (.ofList [("base_url", textOrNull url), ("username", username),
        ("password", password)]) 2 settings = some result ↔
      result = url ∧ ∀ text, url = some text → strip text = text := by
  cases url with
  | none =>
      simp [storedNextfindBaseUrl, memberOrNull, member, JsonObject.ofList, textOrNull,
        storedOptionalString, eq_comm]
  | some text =>
      obtain ⟨hvalid, hline⟩ := h text rfl
      by_cases hstrip : strip text = text
      · have hplain := isPlain_iff.mpr ⟨hstrip, hline⟩
        simp [storedNextfindBaseUrl, memberOrNull, member, JsonObject.ofList, textOrNull,
          storedOptionalString, hplain, hvalid, hstrip, eq_comm]
      · have hplain : ¬ isPlain 2048 text = true := fun h => hstrip (isPlain_iff.mp h).1
        simp [storedNextfindBaseUrl, memberOrNull, member, JsonObject.ofList, textOrNull,
          storedOptionalString, hplain, hstrip]

theorem storedRequiredString_str {maximum : ℕ} {text : String} (h : isPlain maximum text = true)
    (hne : text ≠ "") : storedRequiredString (.str text) maximum = some text := by
  simp only [storedRequiredString, storedOptionalString, h, if_true, if_neg hne]

theorem storedRequiredString_of_not_stripped {maximum : ℕ} {text : String}
    (h : strip text ≠ text) : storedRequiredString (.str text) maximum = none := by
  have hplain : ¬ isPlain maximum text = true := fun hplain => h (isPlain_iff.mp hplain).1
  simp only [storedRequiredString, storedOptionalString, if_neg hplain]

/-- A stored site is read back exactly if its address is stripped. -/
theorem storedPtSite_payload {architecture : PtArchitecture} {site result : Option RuntimePtSite}
    (h : ∀ s, site = some s → IsStoredSite architecture s) :
    storedPtSite (ptSitePayload site) architecture = some result ↔
      result = site ∧ ∀ s, site = some s → strip s.baseUrl = s.baseUrl := by
  cases site with
  | none => simp [storedPtSite, ptSitePayload, eq_comm]
  | some s =>
      have hs := h s rfl
      by_cases hstrip : strip s.baseUrl = s.baseUrl
      · have hplain := isPlain_iff.mpr ⟨hstrip, hs.baseUrl_line⟩
        have hbase := storedRequiredString_str hplain (validateHttpsOrigin_ne_empty hs.baseUrl)
        have hsiteId := storedRequiredString_str hs.siteId.1 hs.siteId.2.1
        have hname := storedRequiredString_str hs.displayName.1 hs.displayName.2
        have hread : storedPtSite (ptSitePayload (some s)) architecture = some (some s) := by
          simp [storedPtSite, ptSitePayload, storedSiteFields, memberOrNull, member,
            JsonObject.ofList, hbase, hsiteId, hname, hs.baseUrl, hs.siteId.2.2,
            storedOptionalString_textOrNull hs.username,
            storedOptionalString_textOrNull hs.password, storedOptionalString_textOrNull hs.pid,
            storedOptionalString_textOrNull hs.cookie, storedOptionalString_textOrNull hs.passkey,
            hs.architecture]
          rw [← hs.architecture]
        rw [hread, Option.some_inj, eq_comm]
        simp [hstrip]
      · have hbase : storedRequiredString (.str s.baseUrl) 2048 = none :=
          storedRequiredString_of_not_stripped hstrip
        simp [storedPtSite, ptSitePayload, storedSiteFields, memberOrNull, member,
          JsonObject.ofList, hbase, hstrip]

omit [UrlText] in
/-- The architecture in force is read back. -/
theorem storedArchitecture_payload (architecture : Option PtArchitecture) :
    storedArchitecture (textOrNull (architecture.map PtArchitecture.value)) =
      some architecture := by
  cases architecture with
  | none => rfl
  | some architecture => cases architecture <;> rfl

/-- The sites of a saved configuration are read back exactly if their addresses are stripped. -/
theorem storedPtSites_payload {c : RuntimeConfiguration} (h : IsStored c)
    {result : Option PtArchitecture × Option RuntimePtSite × Option RuntimePtSite} :
    storedPtSites (configurationPayload c) = some result ↔
      result = (c.ptSiteArchitecture, c.avistazSite, c.nexusphpSite) ∧
        (∀ s, c.avistazSite = some s → strip s.baseUrl = s.baseUrl) ∧
        ∀ s, c.nexusphpSite = some s → strip s.baseUrl = s.baseUrl := by
  have hmapping : mapping (memberOrNull (configurationPayload c) "pt_sites") = some (.ofList
      [("active_architecture", textOrNull (c.ptSiteArchitecture.map PtArchitecture.value)),
        ("avistaz", ptSitePayload c.avistazSite), ("nexusphp", ptSitePayload c.nexusphpSite)]) := by
    simp [configurationPayload, memberOrNull, member, JsonObject.ofList, mapping]
  have hread :
      storedPtSites (configurationPayload c) =
        (storedPtSite (ptSitePayload c.avistazSite) .avistaz).bind fun avistazSite =>
          (storedPtSite (ptSitePayload c.nexusphpSite) .nexusphp).bind fun nexusphpSite =>
            if (c.ptSiteArchitecture = some .avistaz ∧ avistazSite = none) ∨
                (c.ptSiteArchitecture = some .nexusphp ∧ nexusphpSite = none) then none
            else some (c.ptSiteArchitecture, avistazSite, nexusphpSite) := by
    rw [storedPtSites, hmapping]
    simp [memberOrNull, member, JsonObject.ofList, storedArchitecture_payload]
  rw [hread]
  constructor
  · intro hresult
    obtain ⟨avistazSite, havistaz, hresult⟩ := Option.bind_eq_some_iff.mp hresult
    obtain ⟨nexusphpSite, hnexusphp, hresult⟩ := Option.bind_eq_some_iff.mp hresult
    obtain ⟨rfl, hstrip⟩ := (storedPtSite_payload h.avistazSite).mp havistaz
    obtain ⟨rfl, hstrip'⟩ := (storedPtSite_payload h.nexusphpSite).mp hnexusphp
    rw [if_neg h.active, Option.some_inj] at hresult
    exact ⟨hresult.symm, hstrip, hstrip'⟩
  · rintro ⟨rfl, hstrip, hstrip'⟩
    rw [(storedPtSite_payload h.avistazSite).mpr ⟨rfl, hstrip⟩,
      (storedPtSite_payload h.nexusphpSite).mpr ⟨rfl, hstrip'⟩, Option.bind_some, Option.bind_some,
      if_neg h.active]

/-- **Reading back a saved configuration**: what is read is what was written, and it is read
exactly if no stored address has white space at its ends. -/
theorem configurationFromPayload_payload {c result : RuntimeConfiguration} (h : IsStored c)
    (settings : IntegrationSettings) :
    configurationFromPayload (configurationPayload c) 2 settings = some result ↔
      result = c ∧ OriginsStripped c := by
  have hread : configurationFromPayload (configurationPayload c) 2 settings =
      (storedNextfindBaseUrl (.ofList [("base_url", textOrNull c.nextfindBaseUrl),
        ("username", textOrNull c.nextfindUsername),
        ("password", textOrNull c.nextfindPassword)]) 2 settings).bind fun nextfindBaseUrl =>
      (storedPtSites (configurationPayload c)).bind fun sites => some
        { c with
          nextfindBaseUrl := nextfindBaseUrl
          ptSiteArchitecture := sites.1
          avistazSite := sites.2.1
          nexusphpSite := sites.2.2 } := by
    have hallow : storedAllow (boolOrNull c.qbAllowInsecureHttp) = some c.qbAllowInsecureHttp := by
      cases c.qbAllowInsecureHttp <;> rfl
    generalize hsites : storedPtSites (configurationPayload c) = sites
    rw [configurationFromPayload, storedSitesOf, if_neg (by decide), hsites]
    simp [configurationPayload, memberOrNull, member, JsonObject.ofList, mapping, hallow,
      storedOptionalString_textOrNull h.nextfindUsername,
      storedOptionalString_textOrNull h.nextfindPassword,
      storedOptionalString_textOrNull h.tmdbToken, storedOptionalString_textOrNull h.qbUrl,
      storedOptionalString_textOrNull h.qbUsername, storedOptionalString_textOrNull h.qbPassword,
      storedOptionalString_textOrNull h.qbSavePath, storedOptionalString_textOrNull h.qbCategory,
      h.qbUrl_valid]
  rw [hread]
  constructor
  · intro hresult
    obtain ⟨url, hurl, hresult⟩ := Option.bind_eq_some_iff.mp hresult
    obtain ⟨sites, hsites, hresult⟩ := Option.bind_eq_some_iff.mp hresult
    obtain ⟨rfl, hnextfind⟩ := (storedNextfindBaseUrl_payload h.nextfindBaseUrl).mp hurl
    obtain ⟨rfl, havistaz, hnexusphp⟩ := (storedPtSites_payload h).mp hsites
    exact ⟨(Option.some_inj.mp hresult).symm, hnextfind, havistaz, hnexusphp⟩
  · rintro ⟨rfl, hnextfind, havistaz, hnexusphp⟩
    rw [(storedNextfindBaseUrl_payload h.nextfindBaseUrl).mpr ⟨rfl, hnextfind⟩,
      (storedPtSites_payload h).mpr ⟨rfl, havistaz, hnexusphp⟩, Option.bind_some,
      Option.bind_some]

/-! ### Saving -/

/-- What the fields of a merged configuration are. -/
theorem mergeFields_spec {current c : RuntimeConfiguration} {updates : Updates}
    (h : mergeFields current updates = some c) :
    mergeNextfind current (updates.group "nextfind") =
        some (c.nextfindBaseUrl, c.nextfindUsername, c.nextfindPassword) ∧
      optionalSecretUpdate (updates.group "tmdb") "token" current.tmdbToken = some c.tmdbToken ∧
      mergePtSites current (updates.lookup "pt_site") =
        some (c.ptSiteArchitecture, c.avistazSite, c.nexusphpSite) ∧
      mergeQb current (updates.group "qbittorrent") =
        some (c.qbUrl, c.qbUsername, c.qbPassword) ∧
      optionalPublicUpdate (updates.group "qbittorrent") "save_path" current.qbSavePath 4096 =
        some c.qbSavePath ∧
      optionalPublicUpdate (updates.group "qbittorrent") "category" current.qbCategory 300 =
        some c.qbCategory ∧
      validateQbUrl c.qbUrl (c.qbAllowInsecureHttp.getD false) = true := by
  obtain ⟨⟨baseUrl, username, password⟩, hnextfind, h⟩ := Option.bind_eq_some_iff.mp h
  obtain ⟨token, htmdb, h⟩ := Option.bind_eq_some_iff.mp h
  obtain ⟨⟨architecture, avistazSite, nexusphpSite⟩, hsites, h⟩ := Option.bind_eq_some_iff.mp h
  obtain ⟨⟨url, qbUsername, qbPassword⟩, hqb, h⟩ := Option.bind_eq_some_iff.mp h
  obtain ⟨savePath, hsavePath, h⟩ := Option.bind_eq_some_iff.mp h
  obtain ⟨category, hcategory, h⟩ := Option.bind_eq_some_iff.mp h
  obtain ⟨allow, -, h⟩ := Option.bind_eq_some_iff.mp h
  split at h
  · cases h
  · rename_i hvalid
    cases h
    exact ⟨hnextfind, htmdb, hsites, hqb, hsavePath, hcategory, by simpa using hvalid⟩

/-- What a merged NextFind login is. -/
theorem mergeNextfind_spec {current : RuntimeConfiguration} {nextfind : JsonObject}
    {baseUrl username password : Option String}
    (h : mergeNextfind current nextfind = some (baseUrl, username, password)) :
    (∃ given, optionalPublicUpdate nextfind "base_url" current.nextfindBaseUrl 2048 = some given ∧
        given.mapM validateHttpsOrigin = some baseUrl) ∧
      optionalPublicUpdate nextfind "username" current.nextfindUsername 120 = some username ∧
      optionalSecretUpdate nextfind "password"
        (if baseUrl = current.nextfindBaseUrl ∧ username = current.nextfindUsername then
          current.nextfindPassword else none) = some password := by
  obtain ⟨given, hgiven, h⟩ := Option.bind_eq_some_iff.mp h
  obtain ⟨baseUrl', hbase, h⟩ := Option.bind_eq_some_iff.mp h
  obtain ⟨username', husername, h⟩ := Option.bind_eq_some_iff.mp h
  obtain ⟨password', hpassword, h⟩ := Option.bind_eq_some_iff.mp h
  cases h
  exact ⟨⟨given, hgiven, hbase⟩, husername, hpassword⟩

/-- What a merged qBittorrent login is. -/
theorem mergeQb_spec {current : RuntimeConfiguration} {qb : JsonObject}
    {url username password : Option String}
    (h : mergeQb current qb = some (url, username, password)) :
    optionalPublicUpdate qb "url" current.qbUrl 2048 = some url ∧
      optionalPublicUpdate qb "username" current.qbUsername 120 = some username ∧
      optionalSecretUpdate qb "password"
        (if url = current.qbUrl ∧ username = current.qbUsername then current.qbPassword
          else none) = some password := by
  obtain ⟨url', hurl, h⟩ := Option.bind_eq_some_iff.mp h
  obtain ⟨username', husername, h⟩ := Option.bind_eq_some_iff.mp h
  obtain ⟨password', hpassword, h⟩ := Option.bind_eq_some_iff.mp h
  cases h
  exact ⟨hurl, husername, hpassword⟩

/-- What a merged AvistaZ site is. -/
theorem mergeAvistaz_spec {current : Option RuntimePtSite} {update : JsonObject}
    {site : RuntimePtSite} (h : mergeAvistaz current update = some site) :
    ∃ given username, requiredPublic update "base_url" 2048 = some given ∧
      validateHttpsOrigin given = some site.baseUrl ∧
      requiredPublic update "username" 120 = some username ∧ site.username = some username ∧
      site.architecture = .avistaz ∧ site.siteId = "avistaz" ∧ site.displayName = "AvistaZ" ∧
      site.cookie = none ∧ site.passkey = none ∧
      ∃ kept : Option RuntimePtSite,
        kept = current.filter (fun s => s.baseUrl = site.baseUrl && s.username = site.username) ∧
        optionalSecretUpdate update "password" (kept.bind (·.password)) = some site.password ∧
        optionalSecretUpdate update "pid" (kept.bind (·.pid)) = some site.pid := by
  obtain ⟨given, hgiven, h⟩ := Option.bind_eq_some_iff.mp h
  obtain ⟨baseUrl, hbase, h⟩ := Option.bind_eq_some_iff.mp h
  obtain ⟨username, husername, h⟩ := Option.bind_eq_some_iff.mp h
  obtain ⟨password, hpassword, h⟩ := Option.bind_eq_some_iff.mp h
  obtain ⟨pid, hpid, h⟩ := Option.bind_eq_some_iff.mp h
  cases h
  exact ⟨given, username, hgiven, hbase, husername, rfl, rfl, rfl, rfl, rfl, rfl, _, rfl,
    hpassword, hpid⟩

/-- What a merged NexusPHP site is. -/
theorem mergeNexusphp_spec {current : Option RuntimePtSite} {update : JsonObject}
    {site : RuntimePtSite} (h : mergeNexusphp current update = some site) :
    ∃ given, requiredPublic update "base_url" 2048 = some given ∧
      validateHttpsOrigin given = some site.baseUrl ∧
      requiredPublic update "site_id" 24 = some site.siteId ∧
      validateSiteId site.siteId = true ∧
      requiredPublic update "display_name" 100 = some site.displayName ∧
      site.architecture = .nexusphp ∧ site.username = none ∧ site.password = none ∧
      site.pid = none ∧
      ∃ kept : Option RuntimePtSite,
        kept = current.filter (fun s => s.siteId = site.siteId && s.baseUrl = site.baseUrl) ∧
        optionalSecretUpdate update "cookie" (kept.bind (·.cookie)) = some site.cookie ∧
        optionalSecretUpdate update "passkey" (kept.bind (·.passkey)) = some site.passkey := by
  obtain ⟨siteId, hsiteId, h⟩ := Option.bind_eq_some_iff.mp h
  split at h
  · cases h
  rename_i hvalid
  obtain ⟨-, -, h⟩ := Option.bind_eq_some_iff.mp h
  obtain ⟨displayName, hname, h⟩ := Option.bind_eq_some_iff.mp h
  obtain ⟨given, hgiven, h⟩ := Option.bind_eq_some_iff.mp h
  obtain ⟨baseUrl, hbase, h⟩ := Option.bind_eq_some_iff.mp h
  obtain ⟨cookie, hcookie, h⟩ := Option.bind_eq_some_iff.mp h
  obtain ⟨passkey, hpasskey, h⟩ := Option.bind_eq_some_iff.mp h
  cases h
  exact ⟨given, hgiven, hbase, hsiteId, by simpa using hvalid, hname, rfl, rfl, rfl, rfl, _, rfl,
    hcookie, hpasskey⟩

/-- The three forms of an update of the sites. -/
theorem mergePtSites_cases {current : RuntimeConfiguration} {update : Option JsonObject}
    {architecture : Option PtArchitecture} {avistazSite nexusphpSite : Option RuntimePtSite}
    (h : mergePtSites current update = some (architecture, avistazSite, nexusphpSite)) :
    (update = none ∧ architecture = current.ptSiteArchitecture ∧
        avistazSite = current.avistazSite ∧ nexusphpSite = current.nexusphpSite) ∨
      (∃ members site, update = some members ∧
        memberOrNull members "architecture" = .str "avistaz" ∧
        mergeAvistaz current.avistazSite members = some site ∧ architecture = some .avistaz ∧
        avistazSite = some site ∧ nexusphpSite = current.nexusphpSite) ∨
      ∃ members site, update = some members ∧
        memberOrNull members "architecture" = .str "nexusphp" ∧
        mergeNexusphp current.nexusphpSite members = some site ∧ architecture = some .nexusphp ∧
        avistazSite = current.avistazSite ∧ nexusphpSite = some site := by
  cases update with
  | none =>
      cases h
      exact Or.inl ⟨rfl, rfl, rfl, rfl⟩
  | some members =>
      rw [mergePtSites] at h
      split at h
      case h_1 harchitecture =>
          obtain ⟨site, hsite, h⟩ := Option.map_eq_some_iff.mp h
          cases h
          exact Or.inr (Or.inl ⟨members, site, rfl, harchitecture, hsite, rfl, rfl, rfl⟩)
      case h_2 harchitecture =>
          obtain ⟨site, hsite, h⟩ := Option.map_eq_some_iff.mp h
          cases h
          exact Or.inr (Or.inr ⟨members, site, rfl, harchitecture, hsite, rfl, rfl, rfl⟩)
      · cases h

/-- A text of letters is plain. -/
theorem isPlain_letters {maximum : ℕ} {text : String} (h : text.toList.all Char.isAlpha = true)
    (hlength : text.toList.length ≤ maximum) : isPlain maximum text = true := by
  have hspace : ∀ c ∈ text.toList, Python.isspace c = false := fun c hc =>
    UrlText.isspace_letter c (List.all_eq_true.mp h c hc)
  have hdrop : ∀ cs : List Char, (∀ c ∈ cs, Python.isspace c = false) →
      cs.dropWhile Python.isspace = cs := by
    intro cs hcs
    cases cs with
    | nil => rfl
    | cons c cs => rw [List.dropWhile_cons_of_neg (by simp [hcs c List.mem_cons_self])]
  refine isPlain_iff.mpr ⟨?_, hlength, ?_⟩
  · rw [strip, stripList, hdrop _ hspace,
      hdrop _ fun c hc => hspace c (List.mem_reverse.mp hc), List.reverse_reverse,
      String.ofList_toList]
  · rw [List.any_eq_false]
    intro c hc
    have hbounds : (65 ≤ c.toNat ∧ c.toNat ≤ 90) ∨ (97 ≤ c.toNat ∧ c.toNat ≤ 122) := by
      have halpha := List.all_eq_true.mp h c hc
      simpa [Char.isAlpha, Char.isUpper, Char.isLower, UInt32.le_iff_toNat_le] using halpha
    simp only [isControl, Bool.or_eq_true, decide_eq_true_eq, beq_iff_eq]
    omega

/-- The address of a site that was given. -/
theorem origin_of_requiredPublic {update : JsonObject} {given origin : String}
    (hgiven : requiredPublic update "base_url" 2048 = some given)
    (horigin : validateHttpsOrigin given = some origin) :
    member update "base_url" = some (.str given) ∧ origin = rstripSlash given ∧
      validateHttpsOrigin origin = some origin ∧ IsLine 2048 origin := by
  obtain ⟨hmember, hplain, -⟩ := requiredPublic_eq_some hgiven
  obtain ⟨rfl, hvalid⟩ := validateHttpsOrigin_eq_some horigin
  exact ⟨hmember, rfl, hvalid, (isPlain_iff.mp hplain).2.rstripSlash⟩

/-- A field of the site that is kept is one of the stored site. -/
theorem allPlain_kept {architecture : PtArchitecture} {current : Option RuntimePtSite}
    {p : RuntimePtSite → Bool} {field : RuntimePtSite → Option String}
    (h : ∀ s, current = some s → IsStoredSite architecture s)
    (hfield : ∀ s, IsStoredSite architecture s → AllPlain 8192 (field s)) :
    AllPlain 8192 ((current.filter p).bind field) := by
  intro text htext
  obtain ⟨s, hs, htext⟩ := Option.bind_eq_some_iff.mp htext
  exact hfield s (h s (Option.filter_eq_some_iff.mp hs).1) text htext

theorem mergeAvistaz_stored {current : Option RuntimePtSite} {update : JsonObject}
    {site : RuntimePtSite} (h : mergeAvistaz current update = some site)
    (hcurrent : ∀ s, current = some s → IsStoredSite .avistaz s) : IsStoredSite .avistaz site := by
  obtain ⟨given, username, hgiven, hbase, husername, hsame, harchitecture, hsiteId, hname, hcookie,
    hpasskey, kept, rfl, hpassword, hpid⟩ := mergeAvistaz_spec h
  obtain ⟨-, -, hvalid, hline⟩ := origin_of_requiredPublic hgiven hbase
  exact
    { architecture := harchitecture
      baseUrl := hvalid
      baseUrl_line := hline
      siteId := hsiteId ▸ ⟨isPlain_letters (by decide) (by decide), by decide, by decide⟩
      displayName := hname ▸ ⟨isPlain_letters (by decide) (by decide), by decide⟩
      username := hsame ▸ allPlain_some (requiredPublic_eq_some husername).2.1
      password := optionalSecretUpdate_plain hpassword (allPlain_kept hcurrent fun s hs => hs.password)
      pid := optionalSecretUpdate_plain hpid (allPlain_kept hcurrent fun s hs => hs.pid)
      cookie := hcookie ▸ allPlain_none _
      passkey := hpasskey ▸ allPlain_none _ }

theorem mergeNexusphp_stored {current : Option RuntimePtSite} {update : JsonObject}
    {site : RuntimePtSite} (h : mergeNexusphp current update = some site)
    (hcurrent : ∀ s, current = some s → IsStoredSite .nexusphp s) :
    IsStoredSite .nexusphp site := by
  obtain ⟨given, hgiven, hbase, hsiteId, hvalidId, hname, harchitecture, husername, hpassword, hpid,
    kept, rfl, hcookie, hpasskey⟩ := mergeNexusphp_spec h
  obtain ⟨-, -, hvalid, hline⟩ := origin_of_requiredPublic hgiven hbase
  obtain ⟨-, hplainId, hneId⟩ := requiredPublic_eq_some hsiteId
  exact
    { architecture := harchitecture
      baseUrl := hvalid
      baseUrl_line := hline
      siteId := ⟨hplainId, hneId, hvalidId⟩
      displayName := (requiredPublic_eq_some hname).2
      username := husername ▸ allPlain_none _
      password := hpassword ▸ allPlain_none _
      pid := hpid ▸ allPlain_none _
      cookie := optionalSecretUpdate_plain hcookie (allPlain_kept hcurrent fun s hs => hs.cookie)
      passkey :=
        optionalSecretUpdate_plain hpasskey (allPlain_kept hcurrent fun s hs => hs.passkey) }

/-- The address of NextFind after a save is the old one, or what the save gave without its trailing
slashes. -/
theorem nextfindBaseUrl_cases {current : RuntimeConfiguration} {nextfind : JsonObject}
    {baseUrl username password : Option String} (hcurrent : IsStored current)
    (h : mergeNextfind current nextfind = some (baseUrl, username, password)) :
    (member nextfind "base_url" = none ∧ baseUrl = current.nextfindBaseUrl) ∨
      ∃ text, member nextfind "base_url" = some (.str text) ∧ baseUrl = some (rstripSlash text) ∧
        validateHttpsOrigin (rstripSlash text) = some (rstripSlash text) ∧
        IsLine 2048 (rstripSlash text) := by
  obtain ⟨⟨given, hgiven, hbase⟩, -, -⟩ := mergeNextfind_spec h
  rcases optionalPublicUpdate_cases hgiven with ⟨hmember, rfl⟩ | ⟨text, hmember, rfl, hplain⟩
  · refine Or.inl ⟨hmember, ?_⟩
    cases hurl : current.nextfindBaseUrl with
    | none =>
        rw [hurl] at hbase
        cases hbase
        rfl
    | some url =>
        -- a stored address is validated to itself
        rw [hurl, Option.mapM_some, (hcurrent.nextfindBaseUrl url hurl).1] at hbase
        cases hbase
        rfl
  · rw [Option.mapM_some] at hbase
    obtain ⟨origin, horigin, hbase⟩ := Option.map_eq_some_iff.mp hbase
    obtain ⟨rfl, hvalid⟩ := validateHttpsOrigin_eq_some horigin
    exact Or.inr ⟨text, hmember, hbase.symm, hvalid, (isPlain_iff.mp hplain).2.rstripSlash⟩

/-- Every saved configuration is one that is stored. -/
theorem mergeFields_stored {current c : RuntimeConfiguration} {updates : Updates}
    (hcurrent : IsStored current) (h : mergeFields current updates = some c) : IsStored c := by
  obtain ⟨hnextfind, htmdb, hsites, hqb, hsavePath, hcategory, hqbUrl⟩ := mergeFields_spec h
  obtain ⟨-, hnextfindUsername, hnextfindPassword⟩ := mergeNextfind_spec hnextfind
  obtain ⟨hurl, husername, hpassword⟩ := mergeQb_spec hqb
  have hkept {p : Prop} [Decidable p] {secret : Option String} (hsecret : AllPlain 8192 secret) :
      AllPlain 8192 (if p then secret else none) := by
    split
    · exact hsecret
    · exact allPlain_none _
  -- an update sets the site of one architecture at most, and leaves the other as it was
  have hsite : (∀ site, c.avistazSite = some site → IsStoredSite .avistaz site) ∧
      (∀ site, c.nexusphpSite = some site → IsStoredSite .nexusphp site) ∧
      ¬ ((c.ptSiteArchitecture = some .avistaz ∧ c.avistazSite = none) ∨
        (c.ptSiteArchitecture = some .nexusphp ∧ c.nexusphpSite = none)) := by
    rcases mergePtSites_cases hsites with ⟨-, h₁, h₂, h₃⟩ | ⟨members, site, -, -, hmerge, h₁, h₂, h₃⟩ |
      ⟨members, site, -, -, hmerge, h₁, h₂, h₃⟩
    · rw [h₁, h₂, h₃]
      exact ⟨hcurrent.avistazSite, hcurrent.nexusphpSite, hcurrent.active⟩
    · rw [h₁, h₂, h₃]
      refine ⟨?_, hcurrent.nexusphpSite, by simp⟩
      rintro _ ⟨⟩
      exact mergeAvistaz_stored hmerge hcurrent.avistazSite
    · rw [h₁, h₂, h₃]
      refine ⟨hcurrent.avistazSite, ?_, by simp⟩
      rintro _ ⟨⟩
      exact mergeNexusphp_stored hmerge hcurrent.nexusphpSite
  exact
    { nextfindBaseUrl := by
        intro url hurl
        rcases nextfindBaseUrl_cases hcurrent hnextfind with ⟨-, hsame⟩ | ⟨text, -, hnew, hvalid⟩
        · exact hcurrent.nextfindBaseUrl url (hsame ▸ hurl)
        · rw [hnew, Option.some_inj] at hurl
          subst hurl
          exact hvalid
      nextfindUsername := optionalPublicUpdate_plain hnextfindUsername hcurrent.nextfindUsername
      nextfindPassword :=
        optionalSecretUpdate_plain hnextfindPassword (hkept hcurrent.nextfindPassword)
      tmdbToken := optionalSecretUpdate_plain htmdb hcurrent.tmdbToken
      avistazSite := hsite.1
      nexusphpSite := hsite.2.1
      active := hsite.2.2
      qbUrl := optionalPublicUpdate_plain hurl hcurrent.qbUrl
      qbUrl_valid := hqbUrl
      qbUsername := optionalPublicUpdate_plain husername hcurrent.qbUsername
      qbPassword := optionalSecretUpdate_plain hpassword (hkept hcurrent.qbPassword)
      qbSavePath := optionalPublicUpdate_plain hsavePath hcurrent.qbSavePath
      qbCategory := optionalPublicUpdate_plain hcategory hcurrent.qbCategory }

/-- The saves whose addresses have no white space before their trailing slashes. -/
structure PlainOrigins (updates : Updates) : Prop where
  nextfind : ∀ text, member (updates.group "nextfind") "base_url" = some (.str text) →
    strip (rstripSlash text) = rstripSlash text
  ptSite : ∀ members text, updates.lookup "pt_site" = some members →
    member members "base_url" = some (.str text) → strip (rstripSlash text) = rstripSlash text

/-- The site of an update is stripped exactly if the address given is. -/
theorem site_stripped_iff {current c : RuntimeConfiguration} {updates : Updates}
    (hcurrent : OriginsStripped current)
    (h : mergePtSites current (updates.lookup "pt_site") =
      some (c.ptSiteArchitecture, c.avistazSite, c.nexusphpSite)) :
    ((∀ site, c.avistazSite = some site → strip site.baseUrl = site.baseUrl) ∧
        ∀ site, c.nexusphpSite = some site → strip site.baseUrl = site.baseUrl) ↔
      ∀ members text, updates.lookup "pt_site" = some members →
        member members "base_url" = some (.str text) → strip (rstripSlash text) = rstripSlash text := by
  -- no site is set, or one of the two
  rcases mergePtSites_cases h with ⟨hnone, -, havistaz, hnexusphp⟩ |
    ⟨members, site, hmembers, -, hmerge, -, havistaz, hnexusphp⟩ |
    ⟨members, site, hmembers, -, hmerge, -, havistaz, hnexusphp⟩
  · rw [havistaz, hnexusphp, hnone]
    exact ⟨fun _ members text hmembers => absurd hmembers nofun,
      fun _ => ⟨hcurrent.avistaz, hcurrent.nexusphp⟩⟩
  · obtain ⟨given, _, hgiven, hbase, -⟩ := mergeAvistaz_spec hmerge
    obtain ⟨hmember, hsame, -⟩ := origin_of_requiredPublic hgiven hbase
    rw [havistaz, hnexusphp, hmembers]
    constructor
    · rintro ⟨hsite, -⟩ _ text ⟨⟩ htext
      rw [hmember, Option.some_inj, Json.str.injEq] at htext
      rw [← htext, ← hsame]
      exact hsite site rfl
    · intro hplain
      refine ⟨?_, hcurrent.nexusphp⟩
      rintro _ ⟨⟩
      rw [hsame]
      exact hplain members given rfl hmember
  · obtain ⟨given, hgiven, hbase, -⟩ := mergeNexusphp_spec hmerge
    obtain ⟨hmember, hsame, -⟩ := origin_of_requiredPublic hgiven hbase
    rw [havistaz, hnexusphp, hmembers]
    constructor
    · rintro ⟨-, hsite⟩ _ text ⟨⟩ htext
      rw [hmember, Option.some_inj, Json.str.injEq] at htext
      rw [← htext, ← hsame]
      exact hsite site rfl
    · intro hplain
      refine ⟨hcurrent.avistaz, ?_⟩
      rintro _ ⟨⟩
      rw [hsame]
      exact hplain members given rfl hmember

/-- A save on stripped addresses leaves stripped ones exactly if the ones it gives are. -/
theorem mergeFields_stripped_iff {current c : RuntimeConfiguration} {updates : Updates}
    (hstored : IsStored current) (hcurrent : OriginsStripped current)
    (h : mergeFields current updates = some c) : OriginsStripped c ↔ PlainOrigins updates := by
  obtain ⟨hnextfind, -, hsites, -⟩ := mergeFields_spec h
  have hsite := site_stripped_iff hcurrent hsites
  constructor
  · intro hc
    refine ⟨?_, hsite.mp ⟨hc.avistaz, hc.nexusphp⟩⟩
    intro text htext
    rcases nextfindBaseUrl_cases hstored hnextfind with ⟨hmember, -⟩ | ⟨given, hmember, hnew, -⟩
    · rw [hmember] at htext
      cases htext
    · rw [hmember, Option.some_inj, Json.str.injEq] at htext
      rw [← htext]
      exact hc.nextfind _ hnew
  · intro hplain
    obtain ⟨havistaz, hnexusphp⟩ := hsite.mpr hplain.ptSite
    refine ⟨?_, havistaz, hnexusphp⟩
    intro url hurl
    rcases nextfindBaseUrl_cases hstored hnextfind with ⟨-, hsame⟩ | ⟨given, hmember, hnew, -⟩
    · exact hcurrent.nextfind url (hsame ▸ hurl)
    · rw [hnew, Option.some_inj] at hurl
      rw [← hurl]
      exact hplain.nextfind given hmember

/-! ### Secrets -/

/-- The secrets of the services that have an identity. -/
inductive SecretField where
  | nextfindPassword | avistazPassword | avistazPid | nexusphpCookie | nexusphpPasskey | qbPassword
  deriving DecidableEq, Repr

omit [UrlText] in
/-- The secret in a configuration. -/
def SecretField.secret (c : RuntimeConfiguration) : SecretField → Option String
  | nextfindPassword => c.nextfindPassword
  | avistazPassword => c.avistazSite.bind (·.password)
  | avistazPid => c.avistazSite.bind (·.pid)
  | nexusphpCookie => c.nexusphpSite.bind (·.cookie)
  | nexusphpPasskey => c.nexusphpSite.bind (·.passkey)
  | qbPassword => c.qbPassword

omit [UrlText] in
/-- The identity that a secret belongs to: the address and the user of the service, or the
identifier and the address of a NexusPHP site. -/
def SecretField.identity (c : RuntimeConfiguration) : SecretField → Option String × Option String
  | nextfindPassword => (c.nextfindBaseUrl, c.nextfindUsername)
  | avistazPassword | avistazPid => (c.avistazSite.map (·.baseUrl), c.avistazSite.bind (·.username))
  | nexusphpCookie | nexusphpPasskey =>
      (c.nexusphpSite.map (·.siteId), c.nexusphpSite.map (·.baseUrl))
  | qbPassword => (c.qbUrl, c.qbUsername)

omit [UrlText] in
/-- The text of a member. -/
def memberText (values : JsonObject) (key : String) : Option String :=
  match member values key with
  | some (.str text) => some text
  | _ => none

omit [UrlText] in
/-- The fields that a save gives for the site of an architecture. -/
def Updates.site (updates : Updates) (architecture : PtArchitecture) : JsonObject :=
  ((updates.lookup "pt_site").filter fun site =>
    memberOrNull site "architecture" = .str architecture.value).getD .nil

omit [UrlText] in
/-- The secret that a save supplies. -/
def SecretField.supplied (updates : Updates) : SecretField → Option String
  | nextfindPassword => memberText (updates.group "nextfind") "password"
  | avistazPassword => memberText (updates.site .avistaz) "password"
  | avistazPid => memberText (updates.site .avistaz) "pid"
  | nexusphpCookie => memberText (updates.site .nexusphp) "cookie"
  | nexusphpPasskey => memberText (updates.site .nexusphp) "passkey"
  | qbPassword => memberText (updates.group "qbittorrent") "password"

/-- A secret after an update was supplied or kept, and it is kept only under the condition. -/
theorem guarded_update {values : JsonObject} {key secret : String}
    {kept result : Option String} (h : optionalSecretUpdate values key kept = some result)
    (hsecret : result = some secret) : memberText values key = some secret ∨ kept = some secret := by
  rcases optionalSecretUpdate_cases h with rfl | ⟨text, rfl, hmember, -⟩
  · exact Or.inr hsecret
  · cases hsecret
    exact Or.inl (by rw [memberText, hmember])

/-- A secret of a site after an update was supplied, or it is the one of the site that was there,
which had what is asked of the kept site. -/
theorem guarded_site {current : Option RuntimePtSite} {p : RuntimePtSite → Bool}
    {field : RuntimePtSite → Option String} {values : JsonObject} {key secret : String}
    {result : Option String}
    (h : optionalSecretUpdate values key ((current.filter p).bind field) = some result)
    (hsecret : result = some secret) :
    memberText values key = some secret ∨
      ∃ site, current = some site ∧ p site = true ∧ field site = some secret := by
  rcases guarded_update h hsecret with hnew | hold
  · exact Or.inl hnew
  · obtain ⟨site, hsite, hold⟩ := Option.bind_eq_some_iff.mp hold
    obtain ⟨hsite, hp⟩ := Option.filter_eq_some_iff.mp hsite
    exact Or.inr ⟨site, hsite, hp, hold⟩

/-- The secrets of the AvistaZ site after a save that sets it. -/
theorem avistaz_guarded {current : RuntimeConfiguration} {values : JsonObject} {key k : String}
    {site : RuntimePtSite} {field : RuntimePtSite → Option String}
    (h : optionalSecretUpdate values key ((current.avistazSite.filter fun s =>
      s.baseUrl = site.baseUrl && s.username = site.username).bind field) = some (field site))
    (hk : field site = some k) :
    memberText values key = some k ∨ (current.avistazSite.bind field = some k ∧
      (current.avistazSite.map (·.baseUrl), current.avistazSite.bind (·.username)) =
        (some site.baseUrl, site.username)) := by
  rcases guarded_site h hk with hnew | ⟨old, hold, hsame, hsecret⟩
  · exact Or.inl hnew
  · simp only [Bool.and_eq_true, decide_eq_true_eq] at hsame
    rw [hold]
    exact Or.inr ⟨hsecret, Prod.ext (congrArg some hsame.1) hsame.2⟩

/-- The secrets of the NexusPHP site after a save that sets it. -/
theorem nexusphp_guarded {current : RuntimeConfiguration} {values : JsonObject} {key k : String}
    {site : RuntimePtSite} {field : RuntimePtSite → Option String}
    (h : optionalSecretUpdate values key ((current.nexusphpSite.filter fun s =>
      s.siteId = site.siteId && s.baseUrl = site.baseUrl).bind field) = some (field site))
    (hk : field site = some k) :
    memberText values key = some k ∨ (current.nexusphpSite.bind field = some k ∧
      (current.nexusphpSite.map (·.siteId), current.nexusphpSite.map (·.baseUrl)) =
        (some site.siteId, some site.baseUrl)) := by
  rcases guarded_site h hk with hnew | ⟨old, hold, hsame, hsecret⟩
  · exact Or.inl hnew
  · simp only [Bool.and_eq_true, decide_eq_true_eq] at hsame
    rw [hold]
    exact Or.inr ⟨hsecret, Prod.ext (congrArg some hsame.1) (congrArg some hsame.2)⟩

/-- **A save keeps a secret only with its identity.** -/
theorem mergeFields_guarded {current c : RuntimeConfiguration} {updates : Updates}
    (h : mergeFields current updates = some c) (f : SecretField) :
    Lib.Guarded (f.identity ·) (f.secret ·) (f.supplied ·) current updates c := by
  intro k hk
  obtain ⟨hnextfind, -, hsites, hqb, -⟩ := mergeFields_spec h
  -- a site that the save does not touch keeps everything
  have hsame : c.avistazSite = current.avistazSite ∨ ∃ site, c.avistazSite = some site ∧
      mergeAvistaz current.avistazSite (updates.site .avistaz) = some site := by
    rcases mergePtSites_cases hsites with ⟨-, -, hsite, -⟩ |
      ⟨members, site, hmembers, harchitecture, hmerge, -, hsite, -⟩ | ⟨_, _, -, -, -, -, hsite, -⟩
    · exact Or.inl hsite
    · refine Or.inr ⟨site, hsite, ?_⟩
      rw [Updates.site, hmembers, Option.filter_some, if_pos (by simp [harchitecture, PtArchitecture.value])]
      exact hmerge
    · exact Or.inl hsite
  have hsame' : c.nexusphpSite = current.nexusphpSite ∨ ∃ site, c.nexusphpSite = some site ∧
      mergeNexusphp current.nexusphpSite (updates.site .nexusphp) = some site := by
    rcases mergePtSites_cases hsites with ⟨-, -, -, hsite⟩ | ⟨_, _, -, -, -, -, -, hsite⟩ |
      ⟨members, site, hmembers, harchitecture, hmerge, -, -, hsite⟩
    · exact Or.inl hsite
    · exact Or.inl hsite
    · refine Or.inr ⟨site, hsite, ?_⟩
      rw [Updates.site, hmembers, Option.filter_some, if_pos (by simp [harchitecture, PtArchitecture.value])]
      exact hmerge
  cases f with
  | nextfindPassword =>
      obtain ⟨-, -, hpassword⟩ := mergeNextfind_spec hnextfind
      rcases guarded_update hpassword hk with hnew | hold
      · exact Or.inl hnew
      · obtain ⟨⟨hurl, husername⟩, hold⟩ := Option.ite_none_right_eq_some.mp hold
        exact Or.inr ⟨hold, Prod.ext hurl.symm husername.symm⟩
  | qbPassword =>
      obtain ⟨-, -, hpassword⟩ := mergeQb_spec hqb
      rcases guarded_update hpassword hk with hnew | hold
      · exact Or.inl hnew
      · obtain ⟨⟨hurl, husername⟩, hold⟩ := Option.ite_none_right_eq_some.mp hold
        exact Or.inr ⟨hold, Prod.ext hurl.symm husername.symm⟩
  | avistazPassword =>
      rcases hsame with hsite | ⟨site, hsite, hmerge⟩
      · simp only [SecretField.secret, SecretField.identity, hsite] at hk ⊢
        exact Or.inr ⟨hk, trivial⟩
      · simp only [SecretField.secret, SecretField.identity, hsite] at hk ⊢
        obtain ⟨-, -, -, -, -, -, -, -, -, -, -, kept, rfl, hpassword, -⟩ := mergeAvistaz_spec hmerge
        exact avistaz_guarded hpassword hk
  | avistazPid =>
      rcases hsame with hsite | ⟨site, hsite, hmerge⟩
      · simp only [SecretField.secret, SecretField.identity, hsite] at hk ⊢
        exact Or.inr ⟨hk, trivial⟩
      · simp only [SecretField.secret, SecretField.identity, hsite] at hk ⊢
        obtain ⟨-, -, -, -, -, -, -, -, -, -, -, kept, rfl, -, hpid⟩ := mergeAvistaz_spec hmerge
        exact avistaz_guarded hpid hk
  | nexusphpCookie =>
      rcases hsame' with hsite | ⟨site, hsite, hmerge⟩
      · simp only [SecretField.secret, SecretField.identity, hsite] at hk ⊢
        exact Or.inr ⟨hk, trivial⟩
      · simp only [SecretField.secret, SecretField.identity, hsite] at hk ⊢
        obtain ⟨-, -, -, -, -, -, -, -, -, -, kept, rfl, hcookie, -⟩ := mergeNexusphp_spec hmerge
        exact nexusphp_guarded hcookie hk
  | nexusphpPasskey =>
      rcases hsame' with hsite | ⟨site, hsite, hmerge⟩
      · simp only [SecretField.secret, SecretField.identity, hsite] at hk ⊢
        exact Or.inr ⟨hk, trivial⟩
      · simp only [SecretField.secret, SecretField.identity, hsite] at hk ⊢
        obtain ⟨-, -, -, -, -, -, -, -, -, -, kept, rfl, -, hpasskey⟩ := mergeNexusphp_spec hmerge
        exact nexusphp_guarded hpasskey hk

/-! ### Runs -/

/-- The configuration that a save put in the file, if it replaced the file. -/
def savedBy (settings : IntegrationSettings) (save : Save) (file : Option Json) :
    Option RuntimeConfiguration :=
  match configuration settings file with
  | .error _ => none
  | .ok current =>
      match mergeConfiguration current save.updates with
      | .error _ => none
      | .ok updated => if save.outcome = .failedBefore then none else some updated

/-- The file after a save. -/
theorem saveConfiguration_file (settings : IntegrationSettings) (save : Save)
    (file : Option Json) : (saveConfiguration settings save file).2 =
      match savedBy settings save file with
      | none => file
      | some updated => some (.object (configurationPayload updated)) := by
  rw [saveConfiguration, savedBy]
  cases configuration settings file with
  | error e => rfl
  | ok current =>
      dsimp only
      cases mergeConfiguration current save.updates with
      | error e => rfl
      | ok updated => cases save.outcome <;> rfl

/-- The file after a run of saves. -/
def runSaves (settings : IntegrationSettings) : List Save → Option Json → Option Json
  | [], file => file
  | save :: saves, file => runSaves settings saves (saveConfiguration settings save file).2

/-- The saves of a run that replaced the file, each with the configuration that it put there. -/
def history (settings : IntegrationSettings) :
    List Save → Option Json → List (Save × RuntimeConfiguration)
  | [], _ => []
  | save :: saves, file =>
      let later := history settings saves (saveConfiguration settings save file).2
      match savedBy settings save file with
      | none => later
      | some updated => (save, updated) :: later

/-- A configuration is the one in the file, or the empty one where there is no file. -/
def InFile (file : Option Json) (c : RuntimeConfiguration) : Prop :=
  (file = none ∧ c = {}) ∨ file = some (.object (configurationPayload c))

/-- A save on a configuration that is read back. -/
structure Saved (current : RuntimeConfiguration) (save : Save) (updated : RuntimeConfiguration) :
    Prop where
  stripped : OriginsStripped current
  merged : mergeFields current save.updates = some updated

theorem isStored_empty : IsStored {} := by
  constructor <;> first | exact allPlain_none _ | simp [validateQbUrl]

theorem originsStripped_empty : OriginsStripped {} := by
  constructor <;> simp

/-- What is read from the file is the configuration in it, and its addresses are stripped. -/
theorem configuration_eq_ok {settings : IntegrationSettings} {file : Option Json}
    {c result : RuntimeConfiguration} (hfile : InFile file c) (hc : IsStored c)
    (h : configuration settings file = .ok result) : result = c ∧ OriginsStripped c := by
  rcases hfile with ⟨rfl, rfl⟩ | rfl
  · cases h
    exact ⟨rfl, originsStripped_empty⟩
  · have hversion : supportedVersion (memberOrNull (configurationPayload c) "version") = some 2 :=
      rfl
    rw [configuration] at h
    simp only [mapping, Option.bind_eq_bind, Option.bind_some, hversion] at h
    cases hread : configurationFromPayload (configurationPayload c) 2 settings with
    | none =>
        rw [hread] at h
        cases h
    | some read =>
        rw [hread] at h
        cases h
        exact (configurationFromPayload_payload hc settings).mp hread

theorem savedBy_eq_some {settings : IntegrationSettings} {save : Save} {file : Option Json}
    {c updated : RuntimeConfiguration} (hfile : InFile file c) (hc : IsStored c)
    (h : savedBy settings save file = some updated) : Saved c save updated := by
  rw [savedBy] at h
  cases hread : configuration settings file with
  | error e =>
      rw [hread] at h
      cases h
  | ok current =>
      obtain ⟨rfl, hstripped⟩ := configuration_eq_ok hfile hc hread
      refine ⟨hstripped, ?_⟩
      rw [hread] at h
      dsimp only at h
      cases hmerge : mergeConfiguration current save.updates with
      | error e =>
          rw [hmerge] at h
          cases h
      | ok result =>
          rw [hmerge] at h
          obtain ⟨-, h⟩ := Option.ite_none_left_eq_some.mp h
          obtain rfl := Option.some_inj.mp h
          rw [mergeConfiguration] at hmerge
          split at hmerge
          · cases hmerge
          · cases hfields : mergeFields current save.updates with
            | none =>
                rw [hfields] at hmerge
                cases hmerge
            | some fields =>
                rw [hfields] at hmerge
                cases hmerge
                rfl

/-- Every configuration that a run of saves leaves is stored. -/
theorem stored_of_trail {past : List (Save × RuntimeConfiguration)} {c : RuntimeConfiguration}
    (h : Lib.Trail Saved {} past c) : IsStored c :=
  h.invariant isStored_empty fun _ _ _ hg hstep => mergeFields_stored hg hstep.merged

/-- A run of saves is a trail of merges that ends with the configuration in the file. -/
theorem trail_of_run (settings : IntegrationSettings) (saves : List Save) :
    ∀ (file : Option Json) (past : List (Save × RuntimeConfiguration)) (c : RuntimeConfiguration),
      Lib.Trail Saved {} past c → InFile file c →
      ∃ c', Lib.Trail Saved {} (past ++ history settings saves file) c' ∧
        InFile (runSaves settings saves file) c' := by
  induction saves with
  | nil =>
      intro file past c htrail hfile
      exact ⟨c, by rwa [history, List.append_nil], hfile⟩
  | cons save saves ih =>
      intro file past c htrail hfile
      have hnext := saveConfiguration_file settings save file
      rw [history, runSaves]
      cases hsaved : savedBy settings save file with
      | none =>
          rw [hsaved] at hnext
          rw [hnext]
          exact ih file past c htrail hfile
      | some updated =>
          rw [hsaved] at hnext
          rw [hnext]
          have hstep := savedBy_eq_some hfile (stored_of_trail htrail) hsaved
          obtain ⟨c', htrail', hfile'⟩ :=
            ih (some (.object (configurationPayload updated))) (past ++ [(save, updated)]) updated
              (htrail.snoc hstep) (Or.inr rfl)
          rw [List.append_assoc, List.singleton_append] at htrail'
          exact ⟨c', htrail', hfile'⟩

/-- Every configuration of a trail was merged from stripped addresses. -/
theorem saved_of_trail {past : List (Save × RuntimeConfiguration)} {c : RuntimeConfiguration}
    (h : Lib.Trail Saved {} past c) : ∀ s ∈ past, IsStored s.2 ∧
      (OriginsStripped s.2 ↔ PlainOrigins s.1.updates) := by
  induction h with
  | nil => exact fun s hs => absurd hs List.not_mem_nil
  | snoc hbefore hlast ih =>
      intro s hs
      rcases List.mem_append.mp hs with hs | hs
      · exact ih s hs
      · rw [List.mem_singleton.mp hs]
        have hstored := stored_of_trail hbefore
        exact ⟨mergeFields_stored hstored hlast.merged,
          mergeFields_stripped_iff hstored hlast.stripped hlast.merged⟩

/-! ### The settings in force -/

omit [UrlText] in
/-- The secret that the settings in force have for a service; a NexusPHP site is used with the
stored ones. -/
def SecretField.inForce (c : RuntimeConfiguration) (effective : IntegrationSettings) :
    SecretField → Option String
  | nextfindPassword => effective.nextfindPassword
  | avistazPassword => effective.avistazPassword
  | avistazPid => effective.avistazPid
  | nexusphpCookie => c.nexusphpSite.bind (·.cookie)
  | nexusphpPasskey => c.nexusphpSite.bind (·.passkey)
  | qbPassword => effective.qbPassword

omit [UrlText] in
/-- The address and the user that the settings in force have for a service. -/
def SecretField.login (effective : IntegrationSettings) :
    SecretField → Option String × Option String
  | nextfindPassword => (some effective.nextfindBaseUrl, effective.nextfindUsername)
  | avistazPassword | avistazPid => (some effective.avistazBaseUrl, effective.avistazUsername)
  | nexusphpCookie | nexusphpPasskey => (none, none)
  | qbPassword => (effective.qbBaseUrl, effective.qbUsername)

/-- The parts of the settings in force. -/
theorem settingsOverrides_spec {c : RuntimeConfiguration} {base effective : IntegrationSettings}
    (h : c.settingsOverrides base = some effective) :
    ∃ nextfind ptSite, overrideNextfind c base = some nextfind ∧
      overridePtSite c { nextfind with
        tmdbAccessToken := c.tmdbToken.or nextfind.tmdbAccessToken } = some ptSite ∧
      effective = overrideQb c ptSite := by
  obtain ⟨nextfind, hnextfind, h⟩ := Option.bind_eq_some_iff.mp h
  obtain ⟨ptSite, hsite, h⟩ := Option.bind_eq_some_iff.mp h
  exact ⟨nextfind, ptSite, hnextfind, hsite, (Option.some_inj.mp h).symm⟩

theorem overrideNextfind_spec {c : RuntimeConfiguration} {base nextfind : IntegrationSettings}
    (h : overrideNextfind c base = some nextfind) :
    (nextfind.avistazPassword = base.avistazPassword ∧ nextfind.avistazPid = base.avistazPid ∧
      nextfind.avistazBaseUrl = base.avistazBaseUrl ∧
      nextfind.avistazUsername = base.avistazUsername ∧ nextfind.qbPassword = base.qbPassword ∧
      nextfind.qbBaseUrl = base.qbBaseUrl ∧ nextfind.qbUsername = base.qbUsername) ∧
      (nextfind.nextfindPassword = c.nextfindPassword ∨
        nextfind.nextfindPassword = base.nextfindPassword ∧
          nextfind.nextfindBaseUrl = base.nextfindBaseUrl ∧
          nextfind.nextfindUsername = base.nextfindUsername) := by
  obtain ⟨hosts, -, h⟩ := Option.bind_eq_some_iff.mp h
  split at h
  · cases h
    exact ⟨⟨rfl, rfl, rfl, rfl, rfl, rfl, rfl⟩, Or.inl rfl⟩
  · rename_i hidentity
    rw [not_or, not_not, not_not] at hidentity
    cases h
    exact ⟨⟨rfl, rfl, rfl, rfl, rfl, rfl, rfl⟩, Or.inr ⟨rfl, by rw [hidentity.1]; rfl, rfl⟩⟩

theorem overridePtSite_spec {c : RuntimeConfiguration} {base site : IntegrationSettings}
    (hc : IsStored c) (h : overridePtSite c base = some site) :
    (site.nextfindPassword = base.nextfindPassword ∧
      site.nextfindBaseUrl = base.nextfindBaseUrl ∧
      site.nextfindUsername = base.nextfindUsername ∧ site.qbPassword = base.qbPassword ∧
      site.qbBaseUrl = base.qbBaseUrl ∧ site.qbUsername = base.qbUsername) ∧
      ((∀ k, site.avistazPassword = some k → c.avistazSite.bind (·.password) = some k) ∧
          (∀ k, site.avistazPid = some k → c.avistazSite.bind (·.pid) = some k) ∨
        site.avistazPassword = base.avistazPassword ∧ site.avistazPid = base.avistazPid ∧
          site.avistazBaseUrl = base.avistazBaseUrl ∧
          site.avistazUsername = base.avistazUsername) := by
  rw [overridePtSite] at h
  cases hsite : c.ptSite with
  | none =>
      rw [hsite] at h
      cases h
      exact ⟨⟨rfl, rfl, rfl, rfl, rfl, rfl⟩, Or.inr ⟨rfl, rfl, rfl, rfl⟩⟩
  | some active =>
      rw [hsite] at h
      dsimp only at h
      cases harchitecture : active.architecture with
      | nexusphp =>
          rw [harchitecture] at h
          cases h
          exact ⟨⟨rfl, rfl, rfl, rfl, rfl, rfl⟩, Or.inl ⟨nofun, nofun⟩⟩
      | avistaz =>
          -- a site of this architecture is the stored one of it
          have hstored : c.avistazSite = some active := by
            rw [RuntimeConfiguration.ptSite] at hsite
            split at hsite
            · exact hsite
            · rw [(hc.nexusphpSite active hsite).architecture] at harchitecture
              cases harchitecture
            · cases hsite
          rw [harchitecture] at h
          obtain ⟨host, -, h⟩ := Option.map_eq_some_iff.mp h
          cases h
          rw [hstored]
          exact ⟨⟨rfl, rfl, rfl, rfl, rfl, rfl⟩, Or.inl ⟨fun k hk => hk, fun k hk => hk⟩⟩

/-- A secret in force is the stored one, or the one of the environment with the address and the
user of the environment. -/
theorem settingsOverrides_secret {c : RuntimeConfiguration} {base effective : IntegrationSettings}
    (hc : IsStored c) (h : c.settingsOverrides base = some effective) {f : SecretField} {k : String}
    (hk : f.inForce c effective = some k) :
    f.secret c = some k ∨ (f.inForce c base = some k ∧ f.login effective = f.login base) := by
  obtain ⟨nextfind, ptSite, hnextfind, hsite, rfl⟩ := settingsOverrides_spec h
  obtain ⟨⟨h₁, h₂, h₃, h₄, h₅, h₆, h₇⟩, hnextfind⟩ := overrideNextfind_spec hnextfind
  obtain ⟨⟨g₁, g₂, g₃, g₄, g₅, g₆⟩, hsite⟩ := overridePtSite_spec hc hsite
  cases f with
  | nextfindPassword =>
      rcases hnextfind with hown | ⟨hpassword, hurl, husername⟩
      · exact Or.inl (hown.symm.trans (g₁.symm.trans hk))
      · exact Or.inr ⟨hpassword.symm.trans (g₁.symm.trans hk),
          Prod.ext (congrArg some (g₂.trans hurl)) (g₃.trans husername)⟩
  | avistazPassword =>
      rcases hsite with ⟨hown, -⟩ | ⟨hpassword, -, hurl, husername⟩
      · exact Or.inl (hown k hk)
      · exact Or.inr ⟨h₁.symm.trans (hpassword.symm.trans hk),
          Prod.ext (congrArg some (hurl.trans h₃)) (husername.trans h₄)⟩
  | avistazPid =>
      rcases hsite with ⟨-, hown⟩ | ⟨-, hpid, hurl, husername⟩
      · exact Or.inl (hown k hk)
      · exact Or.inr ⟨h₂.symm.trans (hpid.symm.trans hk),
          Prod.ext (congrArg some (hurl.trans h₃)) (husername.trans h₄)⟩
  | nexusphpCookie => exact Or.inl hk
  | nexusphpPasskey => exact Or.inl hk
  | qbPassword =>
      simp only [SecretField.inForce, SecretField.secret, SecretField.login, overrideQb] at hk ⊢
      by_cases hidentity : (c.qbUrl.isSome || c.qbUsername.isSome) = true
      · rw [if_pos hidentity] at hk
        exact Or.inl hk
      · rw [if_neg hidentity] at hk
        have hurl : ¬ c.qbUrl.isSome = true := fun hurl => hidentity (by rw [hurl]; rfl)
        rw [if_neg hidentity, if_neg hurl]
        exact Or.inr ⟨h₅.symm.trans (g₄.symm.trans hk), Prod.ext (g₅.trans h₆) (g₆.trans h₇)⟩

/-! ### The main result -/

/-- A secret in force was supplied by a save of the run that left the identity which the
configuration still has, and which no later save changed. -/
def FollowsIdentity (settings : IntegrationSettings) (saves : List Save)
    (c : RuntimeConfiguration) (f : SecretField) (k : String) : Prop :=
  Lib.SuppliedSince (f.identity ·) (fun save : Save => f.supplied save.updates)
    (history settings saves none) (f.identity c) k

/-- Every secret of the configuration after a run was supplied for the identity that it has, and
the settings in force take their secrets from the configuration or, with the address and the user,
from the environment. -/
def SecretsFollow (settings : IntegrationSettings) (saves : List Save) : Prop :=
  ∀ c, configuration settings (runSaves settings saves none) = .ok c →
    (∀ f k, SecretField.secret c f = some k → FollowsIdentity settings saves c f k) ∧
      ∀ base effective, c.settingsOverrides base = some effective →
        ∀ f k, SecretField.inForce c effective f = some k → FollowsIdentity settings saves c f k ∨
          (SecretField.inForce c base f = some k ∧ f.login effective = f.login base)

/-- What is written of a configuration is read back as it is. -/
def RoundTrips (settings : IntegrationSettings) (c : RuntimeConfiguration) : Prop :=
  configurationFromPayload (configurationPayload c) 2 settings = some c

/-- The configurations that a run of saves goes through. -/
def configurations (settings : IntegrationSettings) (saves : List Save) :
    List RuntimeConfiguration :=
  {} :: (history settings saves none).map Prod.snd

/-- **The secrets of a run of saves, and the round trip**: a secret never follows a changed
identity, and what is written is read back as it is exactly if no address that was saved has white
space before its trailing slashes. -/
theorem stored_configuration (settings : IntegrationSettings) (saves : List Save) :
    SecretsFollow settings saves ∧
      ((∀ c ∈ configurations settings saves, RoundTrips settings c) ↔
        ∀ save ∈ history settings saves none, PlainOrigins save.1.updates) := by
  obtain ⟨last, htrail, hfile⟩ := trail_of_run settings saves none [] {} .nil (Or.inl ⟨rfl, rfl⟩)
  rw [List.nil_append] at htrail
  have hlast := stored_of_trail htrail
  refine ⟨?_, ?_⟩
  · intro c hc
    obtain ⟨rfl, -⟩ := configuration_eq_ok hfile hlast hc
    have hfollows : ∀ f k, SecretField.secret c f = some k → FollowsIdentity settings saves c f k := by
      intro f k hk
      have hguarded : ∀ g save g', Saved g save g' → Lib.Guarded (f.identity ·) (f.secret ·)
          (fun save : Save => f.supplied save.updates) g save g' :=
        fun g save g' hstep => mergeFields_guarded hstep.merged f
      exact htrail.suppliedSince (by cases f <;> rfl) hguarded hk
    refine ⟨hfollows, ?_⟩
    intro base effective heffective f k hk
    exact (settingsOverrides_secret hlast heffective hk).imp_left (hfollows f k)
  · have hsaved := saved_of_trail htrail
    constructor
    · intro hround save hsave
      have hread := hround save.2 (List.mem_cons_of_mem _ (List.mem_map_of_mem hsave))
      exact (hsaved save hsave).2.mp
        ((configurationFromPayload_payload (hsaved save hsave).1 settings).mp hread).2
    · intro hplain c hc
      rcases List.mem_cons.mp hc with rfl | hc
      · exact (configurationFromPayload_payload isStored_empty settings).mpr
          ⟨rfl, originsStripped_empty⟩
      · obtain ⟨save, hsave, rfl⟩ := List.mem_map.mp hc
        obtain ⟨hstored, hiff⟩ := hsaved save hsave
        exact (configurationFromPayload_payload hstored settings).mpr
          ⟨rfl, hiff.mpr (hplain save hsave)⟩

end Configuration

/-- A save of the address `https://host /` of NextFind. -/
def blankSave : Save :=
  { updates := [("nextfind", .ofList [("base_url", .str "https://host /")])], outcome := .written }

/-- The round trip fails after a save of an address with a blank before its slash: the file is
refused from then on. -/
theorem stored_configuration_blank :
    ¬ ∀ (_ : UrlText) (settings : IntegrationSettings) (saves : List Save),
      SecretsFollow settings saves ∧
        ∀ c ∈ configurations settings saves, RoundTrips settings c := by
  intro h
  have hround := (h asciiUrlText {} [blankSave]).2
  have hsaved : { nextfindBaseUrl := some "https://host " } ∈
      @configurations asciiUrlText {} [blankSave] := by
    decide +kernel
  have hread := hround _ hsaved
  have hrefused : ¬ @RoundTrips asciiUrlText {} { nextfindBaseUrl := some "https://host " } := by
    unfold RoundTrips
    decide +kernel
  exact hrefused hread

end LibSeek.Core
