/-
Metadata from TMDB.

The adapter reads the details of an item in two languages, and for a show every season that the
details count; what it has read has passed its own field checks.  Out of the seasons it fills a
dictionary of the episodes that are aired, and hands it to the schema of a record, which has
stricter bounds than the checks of the adapter.

Main definitions:

* `Adapters.Tmdb.TmdbDetails`, `Adapters.Tmdb.TmdbSeason` — what has passed the field checks;
* `Adapters.Tmdb.Replies` — what the service answers to the requests of one lookup;
* `Adapters.Tmdb.TmdbProvider.getByTmdbId` — **`get_by_tmdb_id`**;
* `Adapters.Tmdb.Supported` — the seasons are within the bounds of the schema.

Main results:

* `Adapters.Tmdb.normalizeEpisodeMatrix_isOk_iff` — the schema accepts a dictionary exactly when it
  is within the bounds;
* `Adapters.Tmdb.matrixOf_bounded_iff` — the dictionary is within the bounds exactly when the
  seasons are supported;
* `Adapters.Tmdb.getByTmdbId_contained_iff` — **a lookup returns a record or raises an error of the
  services, exactly when the seasons that were answered are supported**.
-/

import LibSeek.Lib.Table
import LibSeek.Services.Episodes

set_option relaxedAutoImplicit false
set_option autoImplicit false

namespace LibSeek.Adapters.Tmdb

open LibSeek.Core LibSeek.Lib LibSeek.Models LibSeek.Schemas LibSeek.Services.Episodes

/-! ### What passes the field checks -/

structure TmdbExternalIds where
  imdbId : Option String := none
  tvdbId : Option Int := none
  deriving DecidableEq, Repr

structure TmdbAlternativeTitle where
  title : Option String := none
  name : Option String := none
  deriving DecidableEq, Repr

structure TmdbAlternativeTitles where
  titles : List TmdbAlternativeTitle := []
  results : List TmdbAlternativeTitle := []
  deriving DecidableEq, Repr

structure TmdbDetails where
  id : Int
  title : Option String := none
  name : Option String := none
  originalTitle : Option String := none
  originalName : Option String := none
  originalLanguage : Option String := none
  originCountry : List String := []
  /-- The codes `iso_3166_1` of the production countries. -/
  productionCountries : List (Option String) := []
  releaseDate : Option String := none
  firstAirDate : Option String := none
  numberOfSeasons : Option ℕ := none
  numberOfEpisodes : Option ℕ := none
  posterPath : Option String := none
  backdropPath : Option String := none
  status : Option String := none
  externalIds : Option TmdbExternalIds := none
  alternativeTitles : Option TmdbAlternativeTitles := none
  deriving DecidableEq, Repr

structure TmdbEpisode where
  episodeNumber : ℕ
  airDate : Option String := none
  deriving DecidableEq, Repr

structure TmdbSeason where
  seasonNumber : ℕ
  episodes : List TmdbEpisode := []
  deriving DecidableEq, Repr

/-- `MetadataRecord`, as the schema builds it; the confidence of a lookup is always one. -/
structure TmdbRecord where
  tmdbId : Int
  imdbId : Option String
  mediaType : MediaType
  title : String
  chineseTitle : Option String
  englishTitle : Option String
  originalTitle : Option String
  originalLanguage : Option String
  countryCodes : Option (List String)
  aliases : List String
  year : Option Int
  numberOfSeasons : Option ℕ
  numberOfEpisodes : Option ℕ
  episodeMatrix : Option Services.Episodes.EpisodeMatrix
  posterPath : Option String
  backdropPath : Option String
  status : Option String
  externalIds : List (String × String)
  deriving DecidableEq, Repr

/-! ### Requests -/

/-- The runtime, with the dates of the standard library. -/
class TmdbRuntime extends EpisodeRuntime where
  /-- `date.fromisoformat`, as the number of a day; nothing where it raises. -/
  fromisoformat : String → Option Int

/-- What comes of a request: an error, or the document, or nothing where the field checks reject
it. -/
abbrev Reply (α : Type) : Type :=
  Except AppError (Option α)

/-- What the service answers to the requests of one lookup: the details in a language, and a
season.  The two details are read at the same time, so that either can fail first. -/
structure Replies where
  details : String → Reply TmdbDetails
  season : ℕ → Reply TmdbSeason
  englishFirst : Bool := false

structure TmdbProvider where
  allowFutureEpisodes : Bool := false
  /-- `today`, as the number of a day. -/
  today : Int

/-- What `model_validate` lets through, or the error that its exception is turned into. -/
def validated {α : Type} (reply : Reply α) (message : String) : Except AppError α := do
  let document ← reply
  orRaise document { errorCode := "TMDB_VALIDATION_ERROR", message }

/-- `_details`. -/
def Replies.validDetails (replies : Replies) (language : String) : Except AppError TmdbDetails :=
  validated (replies.details language) "TMDB 详情字段校验失败"

/-- `asyncio.gather` of the details in both languages. -/
def Replies.gather (replies : Replies) : Except AppError (TmdbDetails × TmdbDetails) :=
  match replies.validDetails "zh-CN", replies.validDetails "en-US" with
  | .ok chinese, .ok english => .ok (chinese, english)
  | .error e, .ok _ => .error e
  | .ok _, .error e => .error e
  | .error e, .error e' => .error (if replies.englishFirst then e' else e)

section Provider

variable [TmdbRuntime]

/-! ### The dictionary of the episodes -/

omit [TmdbRuntime] in
/-- Whether a text is there, and not empty. -/
def filled (value : Option String) : Option String :=
  value.filter (· ≠ "")

/-- `_episode_is_allowed`. -/
def TmdbProvider.episodeIsAllowed (provider : TmdbProvider) (airDate : Option String) : Bool :=
  if provider.allowFutureEpisodes then true
  else
    match filled airDate with
    | none => false
    | some date =>
        match TmdbRuntime.fromisoformat date with
        | none => false
        | some day => day ≤ provider.today

/-- The episodes of a season that are aired. -/
def TmdbProvider.airedEpisodes (provider : TmdbProvider) (season : TmdbSeason) : List ℕ :=
  (season.episodes.filter fun episode =>
    0 < episode.episodeNumber ∧ provider.episodeIsAllowed episode.airDate = true).map
      (·.episodeNumber)

instance : Keyed (ℕ × List ℕ) ℕ := ⟨Prod.fst⟩

/-- A dictionary of the episodes of the seasons. -/
abbrev SeasonDict : Type :=
  Table (ℕ × List ℕ)

/-- The turn of a season in the loop of `_episode_matrix`. -/
def TmdbProvider.addSeason (provider : TmdbProvider) (matrix : SeasonDict) (season : TmdbSeason) :
    SeasonDict :=
  if provider.airedEpisodes season = [] then matrix
  else matrix.save (season.seasonNumber, provider.airedEpisodes season)

/-- `_episode_matrix`. -/
def TmdbProvider.episodeMatrix (provider : TmdbProvider) (replies : Replies) (seasonCount : ℕ) :
    Except AppError SeasonDict :=
  (List.range' 1 seasonCount).foldlM (fun matrix seasonNumber => do
    let season ← validated (replies.season seasonNumber) "TMDB 季集字段校验失败"
    return provider.addSeason matrix season) ∅

/-! ### The record -/

/-- `_year`. -/
def year (value : Option String) : Option Int :=
  match value with
  | none => none
  | some text => if text.length < 4 then none else NextFindRuntime.int (takeStr text 4)

omit [TmdbRuntime] in
/-- `_external_id_dict`. -/
def externalIdDict (value : Option TmdbExternalIds) : List (String × String) :=
  match value with
  | none => []
  | some ids =>
      ((filled ids.imdbId).map fun imdbId => ("imdb_id", imdbId)).toList ++
        (ids.tvdbId.map fun tvdbId => ("tvdb_id", toString tvdbId)).toList

/-- `_country_codes`. -/
def countryCodes (mediaType : MediaType) (details : TmdbDetails) : Option (List String) :=
  normalizeCountryCodes
    ((if mediaType = .tv then details.originCountry else []) ++
      details.productionCountries.reduceOption)

omit [TmdbRuntime] in
/-- A text at the end of a list, if it is there, not empty, and not in the list. -/
def addAlias (aliases : List String) (value : Option String) : List String :=
  match filled value with
  | none => aliases
  | some text => if text ∈ aliases then aliases else aliases ++ [text]

omit [TmdbRuntime] in
/-- `first or second`, of two texts that may be missing. -/
def orElse (first second : Option String) : Option String :=
  (filled first).or second

omit [TmdbRuntime] in
/-- The aliases of a record. -/
def aliasesOf (chinese : TmdbDetails) (titles : List (Option String)) : List String :=
  let alternatives := chinese.alternativeTitles.toList.flatMap fun a => a.titles ++ a.results
  (alternatives.map (fun a => orElse a.title a.name) ++ titles).foldl addAlias []

/-- A dictionary of the language. -/
def SeasonDict.toValue (matrix : SeasonDict) : PyValue :=
  ofMatrix intKey matrix.rows

/-- `MetadataRecord(...)`: its validators normalise the episodes and the countries, and only those
of the episodes can reject what they are given. -/
def buildRecord (mediaType : MediaType) (tmdbId : Int) (chinese english : TmdbDetails)
    (matrix : Option SeasonDict) : Except Exn TmdbRecord := do
  let episodes ← (normalizeEpisodeMatrix ((matrix.map SeasonDict.toValue).getD .none)).mapError
    fun _ => Exn.other "ValidationError"
  let chineseTitle := orElse chinese.title chinese.name
  let englishTitle := orElse english.title english.name
  let originalTitle := orElse chinese.originalTitle chinese.originalName
  let externalIds := externalIdDict chinese.externalIds
  return {
    tmdbId := chinese.id
    imdbId := externalIds.lookup "imdb_id"
    mediaType
    title := (filled (orElse (orElse chineseTitle englishTitle) originalTitle)).getD
      ("TMDB " ++ toString tmdbId)
    chineseTitle, englishTitle, originalTitle
    originalLanguage := chinese.originalLanguage
    countryCodes := (countryCodes mediaType chinese).bind normalizeCountryCodes
    aliases := aliasesOf chinese [chineseTitle, englishTitle, originalTitle]
    year := year (orElse chinese.releaseDate chinese.firstAirDate)
    numberOfSeasons := chinese.numberOfSeasons
    numberOfEpisodes := chinese.numberOfEpisodes
    episodeMatrix := episodes
    posterPath := chinese.posterPath
    backdropPath := chinese.backdropPath
    status := chinese.status
    externalIds }

/-- The dictionary of a show whose seasons are known. -/
def TmdbProvider.matrixOfShow (provider : TmdbProvider) (replies : Replies) (mediaType : MediaType)
    (chinese : TmdbDetails) : Except AppError (Option SeasonDict) :=
  if mediaType = .tv ∧ 0 < chinese.numberOfSeasons.getD 0 then do
    let matrix ← provider.episodeMatrix replies (chinese.numberOfSeasons.getD 0)
    return some matrix
  else return none

/-- **`get_by_tmdb_id`.** -/
def TmdbProvider.getByTmdbId (provider : TmdbProvider) (replies : Replies) (mediaType : MediaType)
    (tmdbId : Int) : Except Exn TmdbRecord := do
  let (chinese, english) ← replies.gather.mapError Exn.app
  let matrix ← (provider.matrixOfShow replies mediaType chinese).mapError Exn.app
  buildRecord mediaType tmdbId chinese english matrix

/-! ### What the schema accepts -/

omit [TmdbRuntime] in
/-- A loop that returns has made every turn. -/
theorem turn_of_foldlM_eq_ok {σ α ε : Type} {step : σ → α → Except ε σ} {items : List α}
    {start last : σ} (h : items.foldlM step start = .ok last) {item : α} (hitem : item ∈ items) :
    ∃ before after, step before item = .ok after := by
  induction items generalizing start with
  | nil => cases hitem
  | cons first items ih =>
      rw [List.foldlM_cons] at h
      obtain ⟨next, hnext, hrest⟩ := bind_eq_ok.mp h
      rcases List.mem_cons.mp hitem with rfl | hlater
      · exact ⟨start, next, hnext⟩
      · exact ih hrest hlater

/-- An entry of a dictionary within the bounds of the schema. -/
def Bounded (entry : ℕ × List ℕ) : Prop :=
  entry.1 ≤ 99 ∧ ∀ episode ∈ entry.2, 1 ≤ episode ∧ episode ≤ 999

omit [TmdbRuntime] in
theorem inRange_ofNat {n minimum number : ℕ} (h : inRange (n : Int) minimum = .ok number) :
    number = n ∧ minimum ≤ n ∧ n ≤ 999 := by
  rw [inRange, bind_eq_ok] at h
  obtain ⟨_, hrange, h⟩ := h
  have hbounds := ensure_eq_ok.mp hrange
  have hnumber := pure_eq_ok.mp h
  omega

/-- An entry that is added is within the bounds. -/
theorem bounded_of_addSeason {entry : ℕ × List ℕ} {before after : EpisodeSets}
    (h : before.addSeason (intKey entry.1, .list (entry.2.map intValue)) = .ok after) :
    Bounded entry := by
  rw [EpisodeSets.addSeason] at h
  obtain ⟨season, hseason, hepisodes⟩ := bind_eq_ok.mp h
  constructor
  · obtain ⟨number, hnumber, hbound⟩ := bind_eq_ok.mp hseason
    obtain ⟨_, hle, -⟩ := bind_eq_ok.mp hbound
    obtain ⟨rfl, -⟩ := inRange_ofNat hnumber
    exact ensure_eq_ok.mp hle
  · intro episode hepisode
    have hitem : intValue episode ∈ Services.Episodes.itemsOf (.list (entry.2.map intValue)) :=
      List.mem_map_of_mem hepisode
    obtain ⟨sets, next, hadd⟩ := turn_of_foldlM_eq_ok hepisodes hitem
    obtain ⟨pair, hpair, -⟩ := bind_eq_ok.mp hadd
    obtain ⟨number, hnumber, -⟩ := bind_eq_ok.mp hpair
    exact (inRange_ofNat hnumber).2

/-- **The schema accepts a dictionary exactly when it is within the bounds.** -/
theorem normalizeEpisodeMatrix_isOk_iff (matrix : SeasonDict) :
    (∃ episodes, normalizeEpisodeMatrix matrix.toValue = .ok episodes) ↔
      ∀ entry ∈ matrix, Bounded entry := by
  have hfill : fillSets matrix.toValue =
      (matrix.rows.map fun entry =>
        (intKey entry.1, PyValue.list (entry.2.map intValue))).foldlM EpisodeSets.addSeason {} := by
    have hrecord : ((SEASON_KEYS ++ EPISODE_KEYS).any fun name =>
        ((matrix.rows.map fun entry =>
          (intKey entry.1, PyValue.list (entry.2.map intValue))).lookup (.str name)).isSome) =
        false := by
      rw [List.any_eq_false]
      intro name _ hsome
      obtain ⟨value, hvalue⟩ := Option.isSome_iff_exists.mp hsome
      obtain ⟨before, after, hsplit, -⟩ := List.lookup_eq_some_iff.mp hvalue
      obtain ⟨entry, -, hsame⟩ := List.mem_map.mp
        (hsplit.symm ▸ List.mem_append_right before List.mem_cons_self)
      cases (Prod.mk.inj hsame).1
    rw [SeasonDict.toValue, ofMatrix, fillSets, hrecord, if_neg Bool.false_ne_true]
  have hvalue : normalizeEpisodeMatrix matrix.toValue = (do
      let sets ← fillSets matrix.toValue
      return some (sortedMatrix sets)) := rfl
  rw [hvalue, hfill]
  constructor
  · rintro ⟨episodes, h⟩ entry hentry
    obtain ⟨sets, hsets, -⟩ := bind_eq_ok.mp h
    have hmem : (intKey entry.1, PyValue.list (entry.2.map intValue)) ∈
        matrix.rows.map fun entry => (intKey entry.1, PyValue.list (entry.2.map intValue)) :=
      List.mem_map.mpr ⟨entry, hentry, rfl⟩
    obtain ⟨before, after, hadd⟩ := turn_of_foldlM_eq_ok hsets hmem
    exact bounded_of_addSeason hadd
  · intro h
    rw [foldlM_addSeason writesSeasons_intKey matrix.rows (fun entry hentry => (h entry hentry).1)
      fun entry hentry => (h entry hentry).2]
    exact ⟨_, rfl⟩

/-! ### What the seasons fill -/

/-- The dictionary that a list of seasons fills. -/
def TmdbProvider.matrixOf (provider : TmdbProvider) (seasons : List TmdbSeason) : SeasonDict :=
  seasons.foldl provider.addSeason ∅

/-- The last of the seasons with a number that have an aired episode. -/
def TmdbProvider.lastOf (provider : TmdbProvider) (seasons : List TmdbSeason) (n : ℕ) :
    Option TmdbSeason :=
  seasons.reverse.find? fun season =>
    season.seasonNumber = n ∧ provider.airedEpisodes season ≠ []

/-- **The seasons are within the bounds of the schema**: the number of every season with an aired
episode is at most 99, and of the last season of each number every aired episode is at most 999. -/
def Supported (provider : TmdbProvider) (seasons : List TmdbSeason) : Prop :=
  ∀ n season, provider.lastOf seasons n = some season →
    n ≤ 99 ∧ ∀ episode ∈ provider.airedEpisodes season, episode ≤ 999

/-- The dictionary has, under every number, the episodes of the last season with it. -/
theorem get?_matrixOf (provider : TmdbProvider) (seasons : List TmdbSeason) (n : ℕ) :
    (provider.matrixOf seasons).get? n =
      (provider.lastOf seasons n).map fun season => (n, provider.airedEpisodes season) := by
  induction seasons using List.reverseRecOn with
  | nil => rfl
  | append_singleton seasons last ih =>
      rw [TmdbProvider.matrixOf, List.foldl_append, List.foldl_cons, List.foldl_nil,
        ← TmdbProvider.matrixOf, TmdbProvider.addSeason, TmdbProvider.lastOf, List.reverse_append,
        List.reverse_singleton, List.singleton_append, List.find?_cons, ← TmdbProvider.lastOf]
      by_cases haired : provider.airedEpisodes last = []
      · simp only [haired, if_true, ne_eq, not_true_eq_false, and_false, decide_false, ih]
      · rw [if_neg haired, Table.get?_save]
        by_cases hnumber : last.seasonNumber = n
        · subst hnumber
          have hkey : Keyed.key (last.seasonNumber, provider.airedEpisodes last) =
              last.seasonNumber := rfl
          simp [hkey, haired]
        · have hkey : n ≠ Keyed.key (last.seasonNumber, provider.airedEpisodes last) :=
            Ne.symm hnumber
          simp [hkey, hnumber, ih]

theorem pos_of_mem_airedEpisodes {provider : TmdbProvider} {season : TmdbSeason} {episode : ℕ}
    (h : episode ∈ provider.airedEpisodes season) : 1 ≤ episode := by
  obtain ⟨entry, hentry, rfl⟩ := List.mem_map.mp h
  have hcheck := (List.mem_filter.mp hentry).2
  simp only [decide_eq_true_eq] at hcheck
  exact hcheck.1

/-- **The dictionary is within the bounds exactly when the seasons are supported.** -/
theorem matrixOf_bounded_iff (provider : TmdbProvider) (seasons : List TmdbSeason) :
    (∀ entry ∈ provider.matrixOf seasons, Bounded entry) ↔ Supported provider seasons := by
  constructor
  · intro h n season hlast
    have hget := get?_matrixOf provider seasons n
    rw [hlast, Option.map_some] at hget
    obtain ⟨hnumber, hepisodes⟩ := h _ (Table.mem_of_get?_eq_some hget)
    exact ⟨hnumber, fun episode hepisode => (hepisodes episode hepisode).2⟩
  · intro h entry hentry
    have hget := (get?_matrixOf provider seasons entry.1).symm.trans (Table.get?_key hentry)
    obtain ⟨season, hlast, hsame⟩ := Option.map_eq_some_iff.mp hget
    obtain ⟨hnumber, hepisodes⟩ := h _ season hlast
    rw [← hsame]
    exact ⟨hnumber, fun episode hepisode =>
      ⟨pos_of_mem_airedEpisodes hepisode, hepisodes episode hepisode⟩⟩

/-! ### Lookups -/

/-- The seasons of a show were all answered, with documents that pass the field checks. -/
def Replies.Answered (replies : Replies) (seasonCount : ℕ) (seasons : List TmdbSeason) : Prop :=
  (List.range' 1 seasonCount).map replies.season = seasons.map fun season => .ok (some season)

omit [TmdbRuntime] in
theorem validated_eq_ok {α : Type} {reply : Reply α} {message : String} {document : α} :
    validated reply message = .ok document ↔ reply = .ok (some document) := by
  rw [validated, bind_eq_ok]
  constructor
  · rintro ⟨found, rfl, hfound⟩
    rw [orRaise_eq_ok.mp hfound]
  · rintro rfl
    exact ⟨_, rfl, rfl⟩

/-- The loop over the seasons returns what the seasons fill, if all of them were answered. -/
theorem episodeMatrix_eq_ok {provider : TmdbProvider} {replies : Replies} {seasonCount : ℕ}
    {matrix : SeasonDict} :
    provider.episodeMatrix replies seasonCount = .ok matrix ↔
      ∃ seasons, replies.Answered seasonCount seasons ∧ matrix = provider.matrixOf seasons := by
  -- on the seasons, for any matrix that they are added to
  have hloop : ∀ (numbers : List ℕ) (start : SeasonDict),
      numbers.foldlM (fun matrix seasonNumber => do
          let season ← validated (replies.season seasonNumber) "TMDB 季集字段校验失败"
          return provider.addSeason matrix season) start = .ok matrix ↔
        ∃ seasons : List TmdbSeason,
          numbers.map replies.season = seasons.map (fun season => .ok (some season)) ∧
            matrix = seasons.foldl provider.addSeason start := by
    intro numbers
    induction numbers with
    | nil =>
        intro start
        rw [List.foldlM_nil, pure_eq_ok]
        constructor
        · rintro rfl
          exact ⟨[], rfl, rfl⟩
        · rintro ⟨seasons, hseasons, rfl⟩
          rw [List.map_eq_nil_iff.mp hseasons.symm, List.foldl_nil]
    | cons number numbers ih =>
        intro start
        rw [List.foldlM_cons, bind_eq_ok]
        constructor
        · rintro ⟨next, hnext, hrest⟩
          obtain ⟨season, hseason, hsame⟩ := bind_eq_ok.mp hnext
          obtain rfl := pure_eq_ok.mp hsame
          obtain ⟨seasons, hseasons, rfl⟩ := (ih _).mp hrest
          refine ⟨season :: seasons, ?_, rfl⟩
          rw [List.map_cons, List.map_cons, validated_eq_ok.mp hseason, hseasons]
        · rintro ⟨seasons, hseasons, rfl⟩
          cases seasons with
          | nil => cases hseasons
          | cons season seasons =>
              obtain ⟨hseason, hrest⟩ := List.cons.inj hseasons
              refine ⟨provider.addSeason start season, ?_, (ih _).mpr ⟨seasons, hrest, rfl⟩⟩
              exact bind_eq_ok.mpr ⟨season, validated_eq_ok.mpr hseason, rfl⟩
  exact hloop (List.range' 1 seasonCount) ∅

omit [TmdbRuntime] in
/-- The two details are read exactly when both were answered with documents that pass. -/
theorem gather_eq_ok {replies : Replies} {chinese english : TmdbDetails} :
    replies.gather = .ok (chinese, english) ↔
      replies.details "zh-CN" = .ok (some chinese) ∧ replies.details "en-US" = .ok (some english) := by
  have hchinese : replies.validDetails "zh-CN" = .ok chinese ↔
      replies.details "zh-CN" = .ok (some chinese) := validated_eq_ok
  have henglish : replies.validDetails "en-US" = .ok english ↔
      replies.details "en-US" = .ok (some english) := validated_eq_ok
  rw [← hchinese, ← henglish, Replies.gather]
  cases replies.validDetails "zh-CN" <;> cases replies.validDetails "en-US" <;> simp

/-- **A record is built, or the schema rejects the episodes**; nothing else is rejected. -/
theorem buildRecord_isOk_iff (mediaType : MediaType) (tmdbId : Int) (chinese english : TmdbDetails)
    (matrix : Option SeasonDict) :
    (∃ record, buildRecord mediaType tmdbId chinese english matrix = .ok record) ↔
      ∀ episodes ∈ matrix, ∀ entry ∈ episodes, Bounded entry := by
  have hbuild : (∃ record, buildRecord mediaType tmdbId chinese english matrix = .ok record) ↔
      ∃ episodes, normalizeEpisodeMatrix ((matrix.map SeasonDict.toValue).getD .none) =
        .ok episodes := by
    rw [buildRecord]
    cases normalizeEpisodeMatrix ((matrix.map SeasonDict.toValue).getD .none) with
    | error e => exact ⟨fun ⟨_, h⟩ => (by cases h), fun ⟨_, h⟩ => (by cases h)⟩
    | ok episodes => exact ⟨fun _ => ⟨episodes, rfl⟩, fun _ => ⟨_, rfl⟩⟩
  rw [hbuild]
  cases matrix with
  | none => exact ⟨fun _ _ h => (nomatch h), fun _ => ⟨none, rfl⟩⟩
  | some episodes =>
      rw [Option.map_some, Option.getD_some, normalizeEpisodeMatrix_isOk_iff]
      exact ⟨fun h _ hmem => Option.some.inj hmem ▸ h, fun h => h episodes rfl⟩

theorem buildRecord_ne_app {mediaType : MediaType} {tmdbId : Int} {chinese english : TmdbDetails}
    {matrix : Option SeasonDict} {e : AppError} :
    buildRecord mediaType tmdbId chinese english matrix ≠ .error (.app e) := by
  rw [buildRecord]
  cases normalizeEpisodeMatrix ((matrix.map SeasonDict.toValue).getD .none) with
  | error _ => exact fun h => by cases h
  | ok _ => exact fun h => by cases h

omit [TmdbRuntime] in
theorem Replies.Answered.unique {replies : Replies} {seasonCount : ℕ}
    {seasons seasons' : List TmdbSeason} (h : replies.Answered seasonCount seasons)
    (h' : replies.Answered seasonCount seasons') : seasons = seasons' := by
  have hinj : Function.Injective fun season : TmdbSeason => (.ok (some season) : Reply TmdbSeason) :=
    fun _ _ hsame => Option.some.inj (Except.ok.inj hsame)
  exact List.map_injective_iff.mpr hinj (h.symm.trans h')

/-- The dictionary of a show is within the bounds exactly when its seasons are supported. -/
theorem bounded_iff_of_matrixOfShow {provider : TmdbProvider} {replies : Replies}
    {mediaType : MediaType} {chinese : TmdbDetails} {matrix : Option SeasonDict}
    (h : provider.matrixOfShow replies mediaType chinese = .ok matrix) :
    (∀ episodes ∈ matrix, ∀ entry ∈ episodes, Bounded entry) ↔
      (mediaType = .tv → ∀ seasons, replies.Answered (chinese.numberOfSeasons.getD 0) seasons →
        Supported provider seasons) := by
  rw [TmdbProvider.matrixOfShow] at h
  by_cases hshow : mediaType = .tv ∧ 0 < chinese.numberOfSeasons.getD 0
  · rw [if_pos hshow] at h
    obtain ⟨episodes, hepisodes, hsome⟩ := bind_eq_ok.mp h
    obtain rfl := pure_eq_ok.mp hsome
    obtain ⟨seasons, hanswered, rfl⟩ := episodeMatrix_eq_ok.mp hepisodes
    constructor
    · intro hbounded _ seasons' hanswered'
      rw [← hanswered.unique hanswered']
      exact (matrixOf_bounded_iff provider seasons).mp (hbounded _ rfl)
    · intro hsupported episodes hmem
      obtain rfl := Option.some.inj hmem
      exact (matrixOf_bounded_iff provider seasons).mpr (hsupported hshow.1 seasons hanswered)
  · rw [if_neg hshow] at h
    obtain rfl := pure_eq_ok.mp h
    refine ⟨fun _ htv seasons hanswered => ?_, fun _ _ hmem => (nomatch hmem)⟩
    -- a show without a season has no season to answer
    have hzero : chinese.numberOfSeasons.getD 0 = 0 := by
      by_contra hne
      exact hshow ⟨htv, Nat.pos_of_ne_zero hne⟩
    rw [hzero] at hanswered
    obtain rfl := List.map_eq_nil_iff.mp hanswered.symm
    intro n season hlast
    cases hlast

/-- The outcomes that a caller is prepared for: a record, or an error of the services. -/
def Contained (outcome : Except Exn TmdbRecord) : Prop :=
  (∃ record, outcome = .ok record) ∨ ∃ e, outcome = .error (.app e)

/-- **A lookup returns a record or raises an error of the services, exactly when the seasons that
were answered are supported.** -/
theorem getByTmdbId_contained_iff (provider : TmdbProvider) (replies : Replies)
    (mediaType : MediaType) (tmdbId : Int) :
    Contained (provider.getByTmdbId replies mediaType tmdbId) ↔
      (mediaType = .tv → ∀ chinese english seasons,
        replies.details "zh-CN" = .ok (some chinese) →
        replies.details "en-US" = .ok (some english) →
        replies.Answered (chinese.numberOfSeasons.getD 0) seasons →
          Supported provider seasons) := by
  cases hgather : replies.gather with
  | error e =>
      have hfailed : provider.getByTmdbId replies mediaType tmdbId = .error (.app e) := by
        rw [TmdbProvider.getByTmdbId, hgather]
        rfl
      refine ⟨fun _ _ chinese english _ hchinese henglish => ?_, fun _ => Or.inr ⟨e, hfailed⟩⟩
      rw [gather_eq_ok.mpr ⟨hchinese, henglish⟩] at hgather
      cases hgather
  | ok both =>
      obtain ⟨chinese, english⟩ := both
      obtain ⟨hchinese, henglish⟩ := gather_eq_ok.mp hgather
      have hlookup : provider.getByTmdbId replies mediaType tmdbId = (do
          let matrix ← (provider.matrixOfShow replies mediaType chinese).mapError Exn.app
          buildRecord mediaType tmdbId chinese english matrix) := by
        rw [TmdbProvider.getByTmdbId, hgather]
        rfl
      have hcondition : (mediaType = .tv → ∀ chinese english seasons,
            replies.details "zh-CN" = .ok (some chinese) →
            replies.details "en-US" = .ok (some english) →
            replies.Answered (chinese.numberOfSeasons.getD 0) seasons →
              Supported provider seasons) ↔
          (mediaType = .tv → ∀ seasons,
            replies.Answered (chinese.numberOfSeasons.getD 0) seasons →
              Supported provider seasons) := by
        refine imp_congr_right fun _ => ⟨fun h seasons => h chinese english seasons hchinese henglish,
          fun h chinese' _ seasons hchinese' _ hanswered => h seasons ?_⟩
        obtain rfl := Option.some.inj (Except.ok.inj (hchinese.symm.trans hchinese'))
        exact hanswered
      rw [hcondition, hlookup]
      cases hmatrix : provider.matrixOfShow replies mediaType chinese with
      | error e =>
          refine ⟨fun _ htv seasons hanswered => ?_, fun _ => Or.inr ⟨e, rfl⟩⟩
          -- seasons that were all answered fill a dictionary
          by_cases hcount : 0 < chinese.numberOfSeasons.getD 0
          · have hmatrixOk := (@episodeMatrix_eq_ok _ provider _ _ _).mpr ⟨seasons, hanswered, rfl⟩
            rw [TmdbProvider.matrixOfShow, if_pos ⟨htv, hcount⟩, hmatrixOk] at hmatrix
            cases hmatrix
          · rw [TmdbProvider.matrixOfShow, if_neg fun h => hcount h.2] at hmatrix
            cases hmatrix
      | ok matrix =>
          have hcontained : Contained (buildRecord mediaType tmdbId chinese english matrix) ↔
              ∀ episodes ∈ matrix, ∀ entry ∈ episodes, Bounded entry := by
            rw [← buildRecord_isOk_iff]
            exact ⟨fun h => h.resolve_right fun ⟨_, he⟩ => buildRecord_ne_app he, Or.inl⟩
          exact hcontained.trans (bounded_iff_of_matrixOfShow hmatrix)

end Provider

/-- The runtime, as far as a lookup of ASCII texts without a release date needs it. -/
@[reducible] def asciiTmdb : TmdbRuntime :=
  { asciiEpisodes with
    fromisoformat := fun text => if text = "2020-01-01" then some 737425 else none }

/-- A show with one season, of which one episode is the thousandth. -/
def longShow : Replies where
  details _ := .ok (some { id := 1, name := some "Show", numberOfSeasons := some 1 })
  season n := .ok (some
    { seasonNumber := n
      episodes := [{ episodeNumber := 1000, airDate := some "2020-01-01" }] })

/-- A lookup of a long show raises an error of the schema. -/
theorem getByTmdbId_longShow :
    @TmdbProvider.getByTmdbId asciiTmdb { today := 739617 } longShow .tv 1 =
      .error (.other "ValidationError") ∧
    ¬ Contained (@TmdbProvider.getByTmdbId asciiTmdb { today := 739617 } longShow .tv 1) := by
  have hrejected : @TmdbProvider.getByTmdbId asciiTmdb { today := 739617 } longShow .tv 1 =
      .error (.other "ValidationError") := by
    decide +kernel
  refine ⟨hrejected, ?_⟩
  rw [hrejected]
  rintro (⟨record, h⟩ | ⟨e, h⟩)
  · cases h
  · cases h

end LibSeek.Adapters.Tmdb
