/-
Episodes: what is aired, what is there, and what is missing.

A matrix of episodes comes in many shapes: numbers or texts by season, codes, records, and all of
them out of a stored document, whose keys are texts.  It is brought to one form, and the episodes
that are missing are written as codes, which others read again.

Main definitions:

* `Services.Episodes.PyValue` — the values that a matrix may come as;
* `Services.Episodes.normalizeEpisodeMatrix` — `normalize_episode_matrix`;
* `Services.Episodes.deriveMissingEpisodeCodes` — **`derive_missing_episode_codes`**;
* `Services.Episodes.WellFormed` — a matrix in its one form;
* `Services.Episodes.DecodesTo` — codes that others read as they were meant.

Main results:

* `Services.Episodes.wellFormed_sortedMatrix` — what a normalised matrix is like;
* `Services.Episodes.normalizeEpisodeMatrix_ofMatrix` — **a normalised matrix is left as it is**;
* `Services.Episodes.deriveMissingEpisodeCodes_exact` — **the codes of what is aired and not there**.
-/

import LibSeek.Services.Matching

set_option relaxedAutoImplicit false
set_option autoImplicit false

namespace LibSeek.Services.Episodes

open LibSeek.Core LibSeek.Lib LibSeek.Schemas

/-! ### Values -/

/-- A key of a mapping. -/
inductive PyKey where
  | bool (b : Bool)
  | int (n : Int)
  | str (s : String)
  | other
  deriving DecidableEq, Repr

/-- A value of the language, as far as a matrix of episodes is looked at. -/
inductive PyValue where
  | none
  | bool (b : Bool)
  | int (n : Int)
  | str (s : String)
  | list (items : List PyValue)
  | mapping (members : List (PyKey × PyValue))
  | other

/-- A key, as a value. -/
def PyKey.toValue : PyKey → PyValue
  | .bool b => .bool b
  | .int n => .int n
  | .str s => .str s
  | .other => .other

/-- `EpisodeMatrix`: the episodes of the seasons. -/
abbrev EpisodeMatrix : Type :=
  List (ℕ × List ℕ)

/-- The runtime, with what the standard library says of the digits. -/
class EpisodeRuntime extends WorkflowRuntime where
  decimal_digitChar : ∀ digit < 10, decimal (Nat.digitChar digit) = some digit
  isspace_digitChar : ∀ digit < 10, isspace (Nat.digitChar digit) = false

variable [EpisodeRuntime]

/-! ### Numbers and pairs -/

/-- What `_SEASON_CODE` matches. -/
def seasonCode (cs : List Char) : Option ℕ :=
  match cs with
  | [] => .none
  | c :: rest =>
      if isSeasonMark c then Schemas.boundedNumber rest 2
      else Schemas.boundedNumber (c :: rest) 2

/-- What `_EPISODE_NUMBER` matches. -/
def episodeCode (cs : List Char) : Option ℕ :=
  match cs with
  | [] => .none
  | c :: rest =>
      if c = 'E' ∨ c = 'e' then Schemas.boundedNumber rest 3
      else Schemas.boundedNumber (c :: rest) 3

/-- What `_EPISODE_CODE` matches: the digits of the season, and those of the episode. -/
def pairCode (cs : List Char) : Option (List Char × List Char) :=
  match cs with
  | [] => .none
  | mark :: rest =>
      let season := rest.takeWhile fun c => c ≠ 'E' ∧ c ≠ 'e'
      match isSeasonMark mark, rest.drop season.length with
      | true, _ :: episode =>
          match Schemas.boundedNumber season 2, Schemas.boundedNumber episode 3 with
          | some _, some _ => some (season, episode)
          | _, _ => .none
      | _, _ => .none

/-- The end of `_bounded_number`. -/
def inRange (n : Int) (minimum : ℕ) : Except String ℕ := do
  ensure (minimum ≤ n ∧ n ≤ 999) "episode number is outside the supported range"
  return n.toNat

/-- `_bounded_number`. -/
def boundedNumber (value : PyValue) (pattern : List Char → Option ℕ) (minimum : ℕ) :
    Except String ℕ :=
  match value with
  | .bool _ => .error "boolean is not an episode number"
  | .int n => inRange n minimum
  | .str s =>
      match pattern (stripList s.toList) with
      | some n => inRange n minimum
      | .none => .error "invalid episode number"
  | _ => .error "invalid episode number"

/-- `_season_number`. -/
def seasonNumber (value : PyValue) : Except String ℕ := do
  let number ← boundedNumber value seasonCode 0
  ensure (number ≤ 99) "season number is outside the supported range"
  return number

/-- `_episode_number`. -/
def episodeNumber (value : PyValue) : Except String ℕ :=
  boundedNumber value episodeCode 1

/-- `value[key]` of a mapping, for the first of some keys that it has. -/
def firstOf (keys : List String) (members : List (PyKey × PyValue)) : Option PyValue :=
  keys.findSome? fun key => members.lookup (.str key)

def SEASON_KEYS : List String := ["season", "season_number", "seasonNumber"]

def EPISODE_KEYS : List String := ["episode", "episode_number", "episodeNumber"]

/-- The pair of a record, as `_episode_pair` reads it. -/
def recordPair (members : List (PyKey × PyValue)) (seasonHint : Option ℕ) :
    Except String (ℕ × ℕ) :=
  let hint : PyValue :=
    match seasonHint with
    | some season => .int season
    | .none => .none
  let season := (firstOf SEASON_KEYS members).getD hint
  let episode := (firstOf EPISODE_KEYS members).getD .none
  match season, episode with
  | .none, _ => .error "episode object requires season and episode numbers"
  | _, .none => .error "episode object requires season and episode numbers"
  | season, episode => do
      let season ← seasonNumber season
      let episode ← episodeNumber episode
      return (season, episode)

/-- `_episode_pair`. -/
def episodePair (value : PyValue) (seasonHint : Option ℕ) : Except String (ℕ × ℕ) :=
  let bare : Except String (ℕ × ℕ) :=
    match seasonHint with
    | .none => .error "episode number requires a season"
    | some season => do
        let episode ← episodeNumber value
        return (season, episode)
  match value with
  | .str s =>
      match pairCode (stripList s.toList) with
      | some (season, episode) => do
          let season ← seasonNumber (.str (String.ofList season))
          let episode ← episodeNumber (.str (String.ofList episode))
          return (season, episode)
      | .none => bare
  | .mapping members => recordPair members seasonHint
  | _ => bare

/-! ### Matrices -/

/-- A dictionary of sets, which is being filled: its keys, and the pairs of a key and a member. -/
structure EpisodeSets where
  seasons : List ℕ := []
  pairs : List (ℕ × ℕ) := []
  deriving DecidableEq, Repr

/-- `result.setdefault(season, set())`. -/
def EpisodeSets.setdefault (sets : EpisodeSets) (season : ℕ) : EpisodeSets :=
  { sets with seasons := sets.seasons ++ [season] }

/-- `add`. -/
def EpisodeSets.add (sets : EpisodeSets) (item : PyValue) (seasonHint : Option ℕ) :
    Except String EpisodeSets := do
  let pair ← episodePair item seasonHint
  return { seasons := sets.seasons ++ [pair.1], pairs := sets.pairs ++ [pair] }

/-- The members of a season: those of a list, or the one that is there. -/
def itemsOf : PyValue → List PyValue
  | .list items => items
  | value => [value]

/-- One season of a mapping. -/
def EpisodeSets.addSeason (sets : EpisodeSets) (member : PyKey × PyValue) :
    Except String EpisodeSets := do
  let season ← seasonNumber member.1.toValue
  (itemsOf member.2).foldlM (fun sets item => sets.add item (some season))
    (sets.setdefault season)

/-- `{season: sorted(episodes) for season, episodes in sorted(result.items())}`. -/
def sortedMatrix (sets : EpisodeSets) : EpisodeMatrix :=
  (sets.seasons.dedup.insertionSort (· ≤ ·)).map fun season =>
    (season, ((sets.pairs.filter (·.1 = season)).map (·.2)).dedup.insertionSort (· ≤ ·))

/-- The tokens of a text: what white space, commas, semicolons and bars leave. -/
def tokens (s : String) : List String :=
  (((stripList s.toList).splitOnP fun c =>
      Python.isspace c || c == ',' || c == ';' || c == '|').filter (· ≠ [])).map String.ofList

/-- The dictionary that `normalize_episode_matrix` fills. -/
def fillSets (value : PyValue) : Except String EpisodeSets :=
  match value with
  | .mapping members =>
      if (SEASON_KEYS ++ EPISODE_KEYS).any fun key => (members.lookup (.str key)).isSome then
        EpisodeSets.add {} value .none
      else members.foldlM EpisodeSets.addSeason {}
  | .str s => (tokens s).foldlM (fun sets token => sets.add (.str token) .none) {}
  | .list items => items.foldlM (fun sets item => sets.add item .none) {}
  | _ => .error "episode matrix must be a mapping or episode list"

/-- `normalize_episode_matrix`. -/
def normalizeEpisodeMatrix (value : PyValue) : Except String (Option EpisodeMatrix) :=
  match value with
  | .none => .ok .none
  | value => do
      let sets ← fillSets value
      return some (sortedMatrix sets)

/-! ### Codes -/

/-- `f"S{season:02d}E{episode:02d}"`. -/
def code (pair : ℕ × ℕ) : String :=
  "S" ++ twoDigits pair.1 ++ "E" ++ twoDigits pair.2

/-- `sorted`, of pairs. -/
def sortedPairs (pairs : List (ℕ × ℕ)) : List (ℕ × ℕ) :=
  pairs.insertionSort fun a b => toLex a ≤ toLex b

/-- `normalize_episode_codes`. -/
def normalizeEpisodeCodes (value : PyValue) : Except String (Option (List String)) :=
  match value with
  | .none => .ok .none
  | .list items => do
      let pairs ← items.mapM fun item => episodePair item .none
      return some ((sortedPairs pairs.dedup).map code)
  | _ => .error "missing episodes must be a list"

/-- The pairs of a matrix. -/
def matrixPairs (matrix : EpisodeMatrix) : List (ℕ × ℕ) :=
  matrix.flatMap fun entry => entry.2.map fun episode => (entry.1, episode)

/-- The value of a computation that may raise `ValueError`, or nothing. -/
def valueOr {α : Type} (x : Except String (Option α)) : Option α :=
  match x with
  | .ok value => value
  | .error _ => .none

/-- `derive_missing_episode_codes`. -/
def deriveMissingEpisodeCodes (airedMatrix localMatrix upstreamMissing : PyValue) :
    Option (List String) :=
  let fallback := valueOr (normalizeEpisodeCodes upstreamMissing)
  match valueOr (normalizeEpisodeMatrix localMatrix),
      valueOr (normalizeEpisodeMatrix airedMatrix) with
  | some present, some aired =>
      some ((sortedPairs ((matrixPairs aired).filter (· ∉ matrixPairs present))).map code)
  | _, _ => fallback

/-! ### Bounds -/

omit [EpisodeRuntime] in
theorem inRange_eq_ok {n : Int} {minimum number : ℕ} (h : inRange n minimum = .ok number) :
    minimum ≤ number ∧ number ≤ 999 := by
  rw [inRange, bind_eq_ok] at h
  obtain ⟨_, hrange, h⟩ := h
  have hbounds := ensure_eq_ok.mp hrange
  have hnumber := pure_eq_ok.mp h
  omega

theorem boundedNumber_eq_ok {value : PyValue} {pattern : List Char → Option ℕ}
    {minimum number : ℕ} (h : boundedNumber value pattern minimum = .ok number) :
    minimum ≤ number ∧ number ≤ 999 := by
  cases value with
  | int n => exact inRange_eq_ok h
  | str s =>
      rw [boundedNumber] at h
      split at h
      · exact inRange_eq_ok h
      · cases h
  | none => cases h
  | bool b => cases h
  | list items => cases h
  | mapping members => cases h
  | other => cases h

theorem seasonNumber_eq_ok {value : PyValue} {number : ℕ} (h : seasonNumber value = .ok number) :
    number ≤ 99 := by
  rw [seasonNumber, bind_eq_ok] at h
  obtain ⟨_, -, h⟩ := h
  obtain ⟨_, hrange, h⟩ := bind_eq_ok.mp h
  rw [← pure_eq_ok.mp h]
  exact ensure_eq_ok.mp hrange

/-- A pair that can be written as a code. -/
def InBounds (pair : ℕ × ℕ) : Prop :=
  pair.1 ≤ 99 ∧ 1 ≤ pair.2 ∧ pair.2 ≤ 999

theorem inBounds_of_numbers {season episode : PyValue} {pair : ℕ × ℕ}
    (h : (do
      let season ← seasonNumber season
      let episode ← episodeNumber episode
      return (season, episode) : Except String (ℕ × ℕ)) = .ok pair) : InBounds pair := by
  obtain ⟨number, hseason, h⟩ := bind_eq_ok.mp h
  obtain ⟨other, hepisode, h⟩ := bind_eq_ok.mp h
  rw [← pure_eq_ok.mp h]
  exact ⟨seasonNumber_eq_ok hseason, boundedNumber_eq_ok hepisode⟩

theorem recordPair_eq_ok {members : List (PyKey × PyValue)} {seasonHint : Option ℕ}
    {pair : ℕ × ℕ} (h : recordPair members seasonHint = .ok pair) : InBounds pair := by
  simp only [recordPair] at h
  split at h
  · cases h
  · cases h
  · exact inBounds_of_numbers h

/-- **A pair that is read can be written as a code.** -/
theorem episodePair_eq_ok {value : PyValue} {seasonHint : Option ℕ} {pair : ℕ × ℕ}
    (hhint : ∀ season ∈ seasonHint, season ≤ 99) (h : episodePair value seasonHint = .ok pair) :
    InBounds pair := by
  have hbare : ∀ bare, (match seasonHint with
      | .none => .error "episode number requires a season"
      | some season => do
          let episode ← episodeNumber value
          return (season, episode) : Except String (ℕ × ℕ)) = bare → bare = .ok pair →
        InBounds pair := by
    rintro bare rfl hok
    cases seasonHint with
    | none => cases hok
    | some season =>
        obtain ⟨episode, hepisode, hok⟩ := bind_eq_ok.mp hok
        rw [← pure_eq_ok.mp hok]
        exact ⟨hhint season rfl, boundedNumber_eq_ok hepisode⟩
  simp only [episodePair] at h
  split at h
  · split at h
    · exact inBounds_of_numbers h
    · exact hbare _ rfl h
  · exact recordPair_eq_ok h
  · exact hbare _ rfl h

/-! ### The one form -/

/-- A dictionary whose pairs can be written as codes, and belong to its keys. -/
structure EpisodeSets.Valid (sets : EpisodeSets) : Prop where
  seasons : ∀ season ∈ sets.seasons, season ≤ 99
  pairs : ∀ pair ∈ sets.pairs, InBounds pair ∧ pair.1 ∈ sets.seasons

omit [EpisodeRuntime] in
theorem EpisodeSets.Valid.empty : EpisodeSets.Valid {} :=
  ⟨fun _ h => absurd h List.not_mem_nil, fun _ h => absurd h List.not_mem_nil⟩

omit [EpisodeRuntime] in
theorem EpisodeSets.Valid.setdefault {sets : EpisodeSets} {season : ℕ} (h : sets.Valid)
    (hseason : season ≤ 99) : (sets.setdefault season).Valid := by
  constructor
  · intro other hother
    rcases List.mem_append.mp hother with hother | hother
    · exact h.seasons other hother
    · exact List.mem_singleton.mp hother ▸ hseason
  · intro pair hpair
    exact ⟨(h.pairs pair hpair).1, List.mem_append_left _ (h.pairs pair hpair).2⟩

theorem EpisodeSets.Valid.add {sets added : EpisodeSets} {item : PyValue} {seasonHint : Option ℕ}
    (h : sets.Valid) (hhint : ∀ season ∈ seasonHint, season ≤ 99)
    (hadd : sets.add item seasonHint = .ok added) : added.Valid := by
  rw [EpisodeSets.add, bind_eq_ok] at hadd
  obtain ⟨pair, hpair, hadd⟩ := hadd
  have hbounds := episodePair_eq_ok hhint hpair
  rw [← pure_eq_ok.mp hadd]
  constructor
  · intro other hother
    rcases List.mem_append.mp hother with hother | hother
    · exact h.seasons other hother
    · exact List.mem_singleton.mp hother ▸ hbounds.1
  · intro other hother
    rcases List.mem_append.mp hother with hother | hother
    · exact ⟨(h.pairs other hother).1, List.mem_append_left _ (h.pairs other hother).2⟩
    · rw [List.mem_singleton.mp hother]
      exact ⟨hbounds, List.mem_append_right _ (List.mem_singleton_self _)⟩

omit [EpisodeRuntime] in
/-- What each step keeps, a loop keeps. -/
theorem foldlM_keeps {α : Type} {Good : EpisodeSets → Prop}
    {step : EpisodeSets → α → Except String EpisodeSets} {items : List α}
    {sets filled : EpisodeSets}
    (hstep : ∀ item ∈ items, ∀ sets next, Good sets → step sets item = .ok next → Good next)
    (h : Good sets) (hfold : items.foldlM step sets = .ok filled) : Good filled := by
  induction items generalizing sets with
  | nil =>
      rw [List.foldlM_nil] at hfold
      exact pure_eq_ok.mp hfold ▸ h
  | cons item items ih =>
      rw [List.foldlM_cons] at hfold
      obtain ⟨next, hnext, hfold⟩ := bind_eq_ok.mp hfold
      exact ih (fun other hother => hstep other (List.mem_cons_of_mem _ hother))
        (hstep item List.mem_cons_self sets next h hnext) hfold

theorem EpisodeSets.Valid.addSeason {sets added : EpisodeSets} {member : PyKey × PyValue}
    (h : sets.Valid) (hadd : sets.addSeason member = .ok added) : added.Valid := by
  rw [EpisodeSets.addSeason, bind_eq_ok] at hadd
  obtain ⟨season, hseason, hadd⟩ := hadd
  have hbound := seasonNumber_eq_ok hseason
  have hstart : (sets.setdefault season).Valid := h.setdefault hbound
  refine foldlM_keeps ?_ hstart hadd
  intro item _ sets next hvalid hnext
  exact hvalid.add (fun _ hhint => Option.some.inj hhint ▸ hbound) hnext

theorem fillSets_valid {value : PyValue} {sets : EpisodeSets} (h : fillSets value = .ok sets) :
    sets.Valid := by
  have hnone : ∀ season ∈ (.none : Option ℕ), season ≤ 99 := fun _ hhint => nomatch hhint
  cases value with
  | mapping members =>
      rw [fillSets] at h
      split at h
      · exact EpisodeSets.Valid.empty.add hnone h
      · exact foldlM_keeps (fun _ _ _ _ hvalid hnext => hvalid.addSeason hnext)
          EpisodeSets.Valid.empty h
  | str s =>
      exact foldlM_keeps (fun _ _ _ _ hvalid hnext => hvalid.add hnone hnext)
        EpisodeSets.Valid.empty h
  | list items =>
      exact foldlM_keeps (fun _ _ _ _ hvalid hnext => hvalid.add hnone hnext)
        EpisodeSets.Valid.empty h
  | none => cases h
  | bool b => cases h
  | int n => cases h
  | other => cases h

/-- A matrix **in its one form**: the seasons in strict order, the episodes of each in strict order,
and all of them in bounds. -/
structure WellFormed (matrix : EpisodeMatrix) : Prop where
  seasons : (matrix.map (·.1)).Pairwise (· < ·)
  episodes : ∀ entry ∈ matrix, entry.2.Pairwise (· < ·)
  season_bound : ∀ entry ∈ matrix, entry.1 ≤ 99
  episode_bound : ∀ entry ∈ matrix, ∀ episode ∈ entry.2, 1 ≤ episode ∧ episode ≤ 999

omit [EpisodeRuntime] in
/-- Numbers that are sorted, each once, are in strict order. -/
theorem pairwise_lt_sorted (numbers : List ℕ) :
    (numbers.dedup.insertionSort (· ≤ ·)).Pairwise (· < ·) := by
  have hsorted := List.pairwise_insertionSort (· ≤ ·) numbers.dedup
  have hnodup : (numbers.dedup.insertionSort (· ≤ ·)).Nodup :=
    (List.perm_insertionSort (· ≤ ·) _).nodup_iff.mpr (List.nodup_dedup numbers)
  exact hsorted.imp₂ (fun _ _ hle hne => Nat.lt_of_le_of_ne hle hne) hnodup

omit [EpisodeRuntime] in
theorem mem_sorted {numbers : List ℕ} {n : ℕ} :
    n ∈ numbers.dedup.insertionSort (· ≤ ·) ↔ n ∈ numbers := by
  rw [(List.perm_insertionSort (· ≤ ·) _).mem_iff, List.mem_dedup]

omit [EpisodeRuntime] in
/-- **What a normalised matrix is like.** -/
theorem wellFormed_sortedMatrix {sets : EpisodeSets} (h : sets.Valid) :
    WellFormed (sortedMatrix sets) := by
  constructor
  · rw [sortedMatrix, List.map_map]
    change (List.map (fun season => season) _).Pairwise _
    rw [List.map_id']
    exact pairwise_lt_sorted _
  · intro entry hentry
    obtain ⟨season, -, rfl⟩ := List.mem_map.mp hentry
    exact pairwise_lt_sorted _
  · intro entry hentry
    obtain ⟨season, hseason, rfl⟩ := List.mem_map.mp hentry
    exact h.seasons season (mem_sorted.mp hseason)
  · intro entry hentry episode hepisode
    obtain ⟨season, -, rfl⟩ := List.mem_map.mp hentry
    obtain ⟨pair, hpair, rfl⟩ := List.mem_map.mp (mem_sorted.mp hepisode)
    exact (h.pairs pair (List.mem_filter.mp hpair).1).1.2

theorem normalizeEpisodeMatrix_wellFormed {value : PyValue} {matrix : EpisodeMatrix}
    (h : normalizeEpisodeMatrix value = .ok (some matrix)) : WellFormed matrix := by
  have hfill : ∀ filled : Except String EpisodeSets, filled = fillSets value →
      (do let sets ← filled; return some (sortedMatrix sets) : Except String _) =
        .ok (some matrix) → WellFormed matrix := by
    rintro _ rfl hok
    obtain ⟨sets, hsets, hok⟩ := bind_eq_ok.mp hok
    obtain rfl := Option.some.inj (pure_eq_ok.mp hok)
    exact wellFormed_sortedMatrix (fillSets_valid hsets)
  cases value with
  | none => cases h
  | bool b => exact hfill _ rfl h
  | int n => exact hfill _ rfl h
  | str s => exact hfill _ rfl h
  | list items => exact hfill _ rfl h
  | mapping members => exact hfill _ rfl h
  | other => exact hfill _ rfl h

/-! ### A normalised matrix is left as it is -/

/-- A number as a value. -/
def intValue (n : ℕ) : PyValue :=
  .int n

/-- A matrix as a value, its seasons written as keys. -/
def ofMatrix (key : ℕ → PyKey) (matrix : EpisodeMatrix) : PyValue :=
  .mapping (matrix.map fun entry => (key entry.1, .list (entry.2.map intValue)))

/-- The season as a key of a dictionary. -/
def intKey (season : ℕ) : PyKey :=
  .int season

/-- The season as a key of a stored document. -/
def textKey (season : ℕ) : PyKey :=
  .str (toString season)

/-- The keys **write the seasons**: each is read as its season, and none is that of a record. -/
structure WritesSeasons (key : ℕ → PyKey) : Prop where
  read : ∀ season ≤ 99, seasonNumber (key season).toValue = .ok season
  plain : ∀ season ≤ 99, ∀ name ∈ SEASON_KEYS ++ EPISODE_KEYS, key season ≠ .str name

omit [EpisodeRuntime] in
theorem inRange_self {n minimum : ℕ} (hmin : minimum ≤ n) (hmax : n ≤ 999) :
    inRange n minimum = .ok n := by
  rw [inRange, ensure, if_pos ⟨by omega, by omega⟩]
  rfl

theorem writesSeasons_intKey : WritesSeasons intKey := by
  constructor
  · intro season hseason
    change seasonNumber (.int season) = .ok season
    rw [seasonNumber, boundedNumber, inRange_self (Nat.zero_le _) (by omega)]
    change (do ensure (season ≤ 99) _; return season : Except String ℕ) = .ok season
    rw [ensure, if_pos hseason]
    rfl
  · intro season _ name _ h
    cases h

omit [EpisodeRuntime] in
/-- How a season is written. -/
theorem toList_toString_season : ∀ season ≤ 99, (toString season).toList =
    if season < 10 then [Nat.digitChar season]
    else [Nat.digitChar (season / 10), Nat.digitChar (season % 10)] := by
  decide +kernel

omit [EpisodeRuntime] in
/-- A digit is no mark of a season. -/
theorem isSeasonMark_digitChar : ∀ digit < 10, isSeasonMark (Nat.digitChar digit) = false := by
  decide

/-- The text of a season is read as the season. -/
theorem seasonCode_toString {season : ℕ} (h : season ≤ 99) :
    seasonCode (stripList (toString season).toList) = some season := by
  rw [toList_toString_season season h]
  by_cases hshort : season < 10
  · have hspace := EpisodeRuntime.isspace_digitChar season hshort
    have hdecimal := EpisodeRuntime.decimal_digitChar season hshort
    rw [if_pos hshort]
    simp [stripList, hspace, seasonCode, isSeasonMark_digitChar season hshort,
      Schemas.boundedNumber, hdecimal]
  · have hten : season / 10 < 10 := by omega
    have hone : season % 10 < 10 := by omega
    have hdigits : 10 * (season / 10) + season % 10 = season := by omega
    rw [if_neg hshort]
    simp [stripList, EpisodeRuntime.isspace_digitChar _ hten,
      EpisodeRuntime.isspace_digitChar _ hone, seasonCode, isSeasonMark_digitChar _ hten,
      Schemas.boundedNumber, EpisodeRuntime.decimal_digitChar _ hten,
      EpisodeRuntime.decimal_digitChar _ hone, hdigits]

theorem writesSeasons_textKey : WritesSeasons textKey := by
  constructor
  · intro season hseason
    change seasonNumber (.str (toString season)) = .ok season
    rw [seasonNumber, boundedNumber, seasonCode_toString hseason]
    change (do
      let number ← inRange season 0
      ensure (number ≤ 99) _
      return number : Except String ℕ) = .ok season
    rw [inRange_self (Nat.zero_le _) (by omega)]
    change (do ensure (season ≤ 99) _; return season : Except String ℕ) = .ok season
    rw [ensure, if_pos hseason]
    rfl
  · have hall : ∀ season ≤ 99, ∀ name ∈ SEASON_KEYS ++ EPISODE_KEYS,
        toString season ≠ name := by decide +kernel
    intro season hseason name hname h
    exact hall season hseason name hname (PyKey.str.inj h)

/-- The episodes of a season are added as they are. -/
theorem foldlM_add {season : ℕ} (episodes : List ℕ)
    (hbound : ∀ episode ∈ episodes, 1 ≤ episode ∧ episode ≤ 999) (sets : EpisodeSets) :
    (episodes.map intValue).foldlM
        (fun sets item => EpisodeSets.add sets item (some season)) sets =
      .ok { seasons := sets.seasons ++ episodes.map fun _ => season
            pairs := sets.pairs ++ episodes.map fun episode => (season, episode) } := by
  induction episodes generalizing sets with
  | nil => simp [pure, Except.pure]
  | cons episode episodes ih =>
      obtain ⟨hone, hrest⟩ := List.forall_mem_cons.mp hbound
      have hadd : EpisodeSets.add sets (intValue episode) (some season) =
          .ok { seasons := sets.seasons ++ [season]
                pairs := sets.pairs ++ [(season, episode)] } := by
        simp only [EpisodeSets.add, intValue, episodePair, episodeNumber, boundedNumber,
          inRange_self hone.1 hone.2]
        rfl
      rw [List.map_cons, List.foldlM_cons, hadd]
      change List.foldlM _ _ _ = _
      rw [ih hrest]
      simp

/-- The seasons of a matrix are added as they are. -/
theorem foldlM_addSeason {key : ℕ → PyKey} (hkey : WritesSeasons key) (matrix : EpisodeMatrix)
    (hseason : ∀ entry ∈ matrix, entry.1 ≤ 99)
    (hepisode : ∀ entry ∈ matrix, ∀ episode ∈ entry.2, 1 ≤ episode ∧ episode ≤ 999)
    (sets : EpisodeSets) :
    (matrix.map fun entry => (key entry.1, PyValue.list (entry.2.map intValue))).foldlM
        EpisodeSets.addSeason sets =
      .ok { seasons := sets.seasons ++
              matrix.flatMap fun entry => entry.1 :: entry.2.map fun _ => entry.1
            pairs := sets.pairs ++ matrixPairs matrix } := by
  induction matrix generalizing sets with
  | nil => simp [matrixPairs, pure, Except.pure]
  | cons entry matrix ih =>
      obtain ⟨hentry, hseason⟩ := List.forall_mem_cons.mp hseason
      obtain ⟨hbounds, hepisode⟩ := List.forall_mem_cons.mp hepisode
      have hadd : EpisodeSets.addSeason sets
          (key entry.1, PyValue.list (entry.2.map intValue)) =
            .ok { seasons := sets.seasons ++ [entry.1] ++ entry.2.map fun _ => entry.1
                  pairs := sets.pairs ++ entry.2.map fun episode => (entry.1, episode) } := by
        rw [EpisodeSets.addSeason, hkey.read entry.1 hentry]
        change List.foldlM _ _ _ = _
        exact foldlM_add entry.2 hbounds _
      rw [List.map_cons, List.foldlM_cons, hadd]
      change List.foldlM _ _ _ = _
      rw [ih hseason hepisode]
      simp [matrixPairs]

omit [EpisodeRuntime] in
theorem mem_matrixPairs {matrix : EpisodeMatrix} {season episode : ℕ} :
    (season, episode) ∈ matrixPairs matrix ↔
      ∃ entry ∈ matrix, entry.1 = season ∧ episode ∈ entry.2 := by
  rw [matrixPairs, List.mem_flatMap]
  constructor
  · rintro ⟨entry, hentry, hpair⟩
    obtain ⟨other, hother, hsame⟩ := List.mem_map.mp hpair
    obtain ⟨rfl, rfl⟩ := Prod.mk.inj hsame
    exact ⟨entry, hentry, rfl, hother⟩
  · rintro ⟨entry, hentry, rfl, hepisode⟩
    exact ⟨entry, hentry, List.mem_map.mpr ⟨episode, hepisode, rfl⟩⟩

omit [EpisodeRuntime] in
/-- A matrix in its one form is told by its seasons and its pairs. -/
theorem sortedMatrix_eq {sets : EpisodeSets} {matrix : EpisodeMatrix} (h : WellFormed matrix)
    (hseasons : ∀ season, season ∈ sets.seasons ↔ season ∈ matrix.map (·.1))
    (hpairs : ∀ pair, pair ∈ sets.pairs ↔ pair ∈ matrixPairs matrix) :
    sortedMatrix sets = matrix := by
  have hkeys : sets.seasons.dedup.insertionSort (· ≤ ·) = matrix.map (·.1) :=
    (pairwise_lt_sorted _).eq_of_mem_iff h.seasons fun season => mem_sorted.trans (hseasons season)
  rw [sortedMatrix, hkeys, List.map_map]
  conv_rhs => rw [← List.map_id matrix]
  refine List.map_congr_left fun entry hentry => ?_
  refine Prod.ext rfl ?_
  refine (pairwise_lt_sorted _).eq_of_mem_iff (h.episodes entry hentry) fun episode => ?_
  rw [mem_sorted, List.mem_map]
  constructor
  · rintro ⟨pair, hpair, rfl⟩
    obtain ⟨hpair, hseason⟩ := List.mem_filter.mp hpair
    obtain ⟨other, hother, hsame, hepisode⟩ := mem_matrixPairs.mp ((hpairs pair).mp hpair)
    -- the season is that of one entry only
    have hentries : other = entry := by
      have hnodup : (matrix.map (·.1)).Nodup := h.seasons.imp Nat.ne_of_lt
      exact List.inj_on_of_nodup_map hnodup hother hentry
        (hsame.trans (of_decide_eq_true hseason))
    exact hentries ▸ hepisode
  · intro hepisode
    refine ⟨(entry.1, episode), List.mem_filter.mpr ⟨?_, decide_eq_true rfl⟩, rfl⟩
    exact (hpairs _).mpr (mem_matrixPairs.mpr ⟨entry, hentry, rfl, hepisode⟩)

/-- **A normalised matrix is left as it is**, whatever keys write its seasons. -/
theorem normalizeEpisodeMatrix_ofMatrix {key : ℕ → PyKey} (hkey : WritesSeasons key)
    {matrix : EpisodeMatrix} (h : WellFormed matrix) :
    normalizeEpisodeMatrix (ofMatrix key matrix) = .ok (some matrix) := by
  have hrecord : ((SEASON_KEYS ++ EPISODE_KEYS).any fun name =>
      ((matrix.map fun entry => (key entry.1, PyValue.list (entry.2.map intValue))).lookup
        (.str name)).isSome) = false := by
    rw [List.any_eq_false]
    intro name hname hsome
    obtain ⟨value, hvalue⟩ := Option.isSome_iff_exists.mp hsome
    obtain ⟨before, after, hsplit, -⟩ := List.lookup_eq_some_iff.mp hvalue
    obtain ⟨entry, hentry, hsame⟩ := List.mem_map.mp
      (hsplit.symm ▸ List.mem_append_right before List.mem_cons_self)
    exact hkey.plain entry.1 (h.season_bound entry hentry) name hname (Prod.mk.inj hsame).1
  rw [ofMatrix, normalizeEpisodeMatrix, fillSets, hrecord, if_neg Bool.false_ne_true,
    foldlM_addSeason hkey matrix h.season_bound h.episode_bound]
  · change Except.ok (some (sortedMatrix _)) = _
    rw [sortedMatrix_eq h]
    · intro season
      rw [List.nil_append, List.mem_flatMap, List.mem_map]
      constructor
      · rintro ⟨entry, hentry, hseason⟩
        refine ⟨entry, hentry, ?_⟩
        rcases List.mem_cons.mp hseason with rfl | hseason
        · rfl
        · obtain ⟨_, -, hsame⟩ := List.mem_map.mp hseason
          exact hsame
      · rintro ⟨entry, hentry, rfl⟩
        exact ⟨entry, hentry, List.mem_cons_self⟩
    · intro pair
      change pair ∈ [] ++ matrixPairs matrix ↔ _
      rw [List.nil_append]
  · nofun

/-! ### Codes that are read again -/

/-- Whether `EpisodeCode` accepts a text. -/
def isEpisodeCode (value : String) : Bool :=
  match value.toList with
  | 'S' :: tens :: ones :: 'E' :: digits =>
      (NextFindRuntime.decimal tens).isSome && (NextFindRuntime.decimal ones).isSome &&
        (2 ≤ digits.length && digits.length ≤ 3) &&
        digits.all fun c => (NextFindRuntime.decimal c).isSome
  | _ => false

theorem isSome_decimal {digit : ℕ} (h : digit < 10) :
    (NextFindRuntime.decimal (Nat.digitChar digit)).isSome = true := by
  rw [EpisodeRuntime.decimal_digitChar digit h]
  rfl

/-- The code of a pair in bounds is accepted. -/
theorem isEpisodeCode_code {pair : ℕ × ℕ} (h : InBounds pair) :
    isEpisodeCode (code pair) = true := by
  obtain ⟨hseason, -, hepisode⟩ := h
  have htens := isSome_decimal (show pair.1 / 10 < 10 by omega)
  have hones := isSome_decimal (show pair.1 % 10 < 10 by omega)
  have hlast := isSome_decimal (show pair.2 % 10 < 10 by omega)
  unfold isEpisodeCode code
  simp only [String.toList_append, toList_twoDigits pair.1 (by omega)]
  by_cases hshort : pair.2 < 100
  · have hfirst := isSome_decimal (show pair.2 / 10 < 10 by omega)
    rw [toList_twoDigits pair.2 hshort]
    simp [htens, hones, hfirst, hlast]
  · have hfirst := isSome_decimal (show pair.2 / 100 < 10 by omega)
    have hsecond := isSome_decimal (show pair.2 / 10 % 10 < 10 by omega)
    rw [toList_twoDigits_long pair.2 (by omega) (by omega)]
    simp [htens, hones, hfirst, hsecond, hlast]

/-- The code of a pair in bounds is read as the pair. -/
theorem episodeOfCode_pair {pair : ℕ × ℕ} (h : InBounds pair) :
    episodeOfCode (code pair) = some ((pair.1 : Int), (pair.2 : Int)) :=
  episodeOfCode_code EpisodeRuntime.decimal_digitChar (Nat.lt_succ_of_le h.1)
    (Nat.lt_succ_of_le h.2.2)

/-- Codes **that others read as they were meant**: they are those of the pairs that are wanted, in
order and each once; their type accepts each; and what they are decoded to are those pairs. -/
structure DecodesTo (codes : List String) (wanted : ℕ × ℕ → Prop) : Prop where
  sorted : ∃ pairs : List (ℕ × ℕ), codes = pairs.map code ∧
    (pairs.Pairwise fun a b => toLex a < toLex b) ∧ ∀ pair, pair ∈ pairs ↔ wanted pair
  nodup : codes.Nodup
  accepted : ∀ value ∈ codes, isEpisodeCode value = true
  decoded : ∀ season episode : Int, (season, episode) ∈ requiredEpisodeMap (some codes) ↔
    ∃ pair, wanted pair ∧ season = pair.1 ∧ episode = pair.2

theorem requiredEpisodeMap_code {pairs : List (ℕ × ℕ)} (h : ∀ pair ∈ pairs, InBounds pair) :
    requiredEpisodeMap (some (pairs.map code)) =
      pairs.map fun pair => ((pair.1 : Int), (pair.2 : Int)) := by
  induction pairs with
  | nil => rfl
  | cons pair pairs ih =>
      obtain ⟨hpair, hpairs⟩ := List.forall_mem_cons.mp h
      have hrest := ih hpairs
      rw [requiredEpisodeMap, Option.getD_some] at hrest ⊢
      rw [List.map_cons, List.filterMap_cons, episodeOfCode_pair hpair, hrest, List.map_cons]

omit [EpisodeRuntime] in
/-- Pairs that are sorted, each once, are in strict order. -/
theorem pairwise_lt_sortedPairs {pairs : List (ℕ × ℕ)} (h : pairs.Nodup) :
    (sortedPairs pairs).Pairwise fun a b => toLex a < toLex b := by
  have hsorted := List.pairwise_insertionSort
    (fun a b : ℕ × ℕ => toLex a ≤ toLex b) pairs
  have hnodup : (sortedPairs pairs).Nodup := (List.perm_insertionSort _ _).nodup_iff.mpr h
  exact hsorted.imp₂ (fun _ _ hle hne => lt_of_le_of_ne hle fun heq => hne (toLex.injective heq))
    hnodup

/-- **The codes of sorted pairs are read as they were meant.** -/
theorem decodesTo_sortedPairs {pairs : List (ℕ × ℕ)} (hnodup : pairs.Nodup)
    (h : ∀ pair ∈ pairs, InBounds pair) :
    DecodesTo ((sortedPairs pairs).map code) (· ∈ pairs) := by
  have hmem : ∀ pair, pair ∈ sortedPairs pairs ↔ pair ∈ pairs := fun pair =>
    (List.perm_insertionSort _ _).mem_iff
  have hbounds : ∀ pair ∈ sortedPairs pairs, InBounds pair := fun pair hpair =>
    h pair ((hmem pair).mp hpair)
  constructor
  · exact ⟨_, rfl, pairwise_lt_sortedPairs hnodup, hmem⟩
  · -- a code tells its pair
    refine List.Nodup.map_on ?_ ((List.perm_insertionSort _ _).nodup_iff.mpr hnodup)
    intro a ha b hb hsame
    have hread := (episodeOfCode_pair (hbounds a ha)).symm.trans
      (hsame ▸ episodeOfCode_pair (hbounds b hb))
    obtain ⟨hseason, hepisode⟩ := Prod.mk.inj (Option.some.inj hread)
    exact Prod.ext (Int.ofNat.inj hseason) (Int.ofNat.inj hepisode)
  · intro value hvalue
    obtain ⟨pair, hpair, rfl⟩ := List.mem_map.mp hvalue
    exact isEpisodeCode_code (hbounds pair hpair)
  · intro season episode
    rw [requiredEpisodeMap_code hbounds, List.mem_map]
    constructor
    · rintro ⟨pair, hpair, hsame⟩
      obtain ⟨rfl, rfl⟩ := Prod.mk.inj hsame
      exact ⟨pair, (hmem pair).mp hpair, rfl, rfl⟩
    · rintro ⟨pair, hpair, rfl, rfl⟩
      exact ⟨pair, (hmem pair).mpr hpair, rfl⟩

/-! ### What is missing -/

omit [EpisodeRuntime] in
/-- The pairs of a matrix in its one form are told apart, and can be written as codes. -/
theorem WellFormed.matrixPairs {matrix : EpisodeMatrix} (h : WellFormed matrix) :
    (matrixPairs matrix).Nodup ∧ ∀ pair ∈ matrixPairs matrix, InBounds pair := by
  constructor
  · rw [Episodes.matrixPairs, List.nodup_flatMap]
    constructor
    · intro entry hentry
      refine List.Nodup.map (fun _ _ hsame => (Prod.mk.inj hsame).2) ?_
      exact (h.episodes entry hentry).imp Nat.ne_of_lt
    · refine (List.pairwise_map.mp h.seasons).imp fun {first second} hlt => ?_
      intro pair hfirst hsecond
      obtain ⟨_, -, rfl⟩ := List.mem_map.mp hfirst
      obtain ⟨_, -, hsame⟩ := List.mem_map.mp hsecond
      exact Nat.ne_of_gt hlt (Prod.mk.inj hsame).1
  · rintro ⟨season, episode⟩ hpair
    obtain ⟨entry, hentry, rfl, hepisode⟩ := mem_matrixPairs.mp hpair
    exact ⟨h.season_bound entry hentry, h.episode_bound entry hentry episode hepisode⟩

omit [EpisodeRuntime] in
/-- What a loop that may raise returns comes of a member. -/
theorem mem_of_mapM_eq_ok {α β : Type} {f : α → Except String β} {items : List α}
    {results : List β} (h : items.mapM f = .ok results) {result : β} (hresult : result ∈ results) :
    ∃ item ∈ items, f item = .ok result := by
  induction items generalizing results with
  | nil =>
      rw [List.mapM_nil, pure_eq_ok] at h
      exact absurd (h ▸ hresult) List.not_mem_nil
  | cons item items ih =>
      rw [List.mapM_cons, bind_eq_ok] at h
      obtain ⟨first, hfirst, h⟩ := h
      obtain ⟨rest, hrest, h⟩ := bind_eq_ok.mp h
      rw [← pure_eq_ok.mp h] at hresult
      rcases List.mem_cons.mp hresult with rfl | hresult
      · exact ⟨item, List.mem_cons_self, hfirst⟩
      · obtain ⟨other, hother, hok⟩ := ih hrest hresult
        exact ⟨other, List.mem_cons_of_mem _ hother, hok⟩

/-- The codes of a list are read as they were meant. -/
theorem normalizeEpisodeCodes_decodesTo {value : PyValue} {codes : List String}
    (h : normalizeEpisodeCodes value = .ok (some codes)) : ∃ wanted, DecodesTo codes wanted := by
  cases value with
  | list items =>
      obtain ⟨pairs, hpairs, h⟩ := bind_eq_ok.mp h
      obtain rfl := Option.some.inj (pure_eq_ok.mp h)
      have hnone : ∀ season ∈ (.none : Option ℕ), season ≤ 99 := fun _ hhint => nomatch hhint
      refine ⟨_, decodesTo_sortedPairs (List.nodup_dedup pairs) fun pair hpair => ?_⟩
      obtain ⟨item, -, hitem⟩ := mem_of_mapM_eq_ok hpairs (List.mem_dedup.mp hpair)
      exact episodePair_eq_ok hnone hitem
  | none => cases h
  | bool b => cases h
  | int n => cases h
  | str s => cases h
  | mapping members => cases h
  | other => cases h

/-- The codes of what is in one matrix and not in another. -/
theorem decodesTo_missing {aired : EpisodeMatrix} (h : WellFormed aired)
    (present : EpisodeMatrix) :
    DecodesTo ((sortedPairs ((matrixPairs aired).filter (· ∉ matrixPairs present))).map code)
      fun pair => pair ∈ matrixPairs aired ∧ pair ∉ matrixPairs present := by
  obtain ⟨hnodup, hbounds⟩ := h.matrixPairs
  have hiff : ∀ pair, pair ∈ (matrixPairs aired).filter (· ∉ matrixPairs present) ↔
      pair ∈ matrixPairs aired ∧ pair ∉ matrixPairs present := by
    intro pair
    rw [List.mem_filter, decide_eq_true_eq]
  have hcodes := decodesTo_sortedPairs (hnodup.filter (· ∉ matrixPairs present))
    fun pair hpair => hbounds pair ((hiff pair).mp hpair).1
  simp only [hiff] at hcodes
  exact hcodes

theorem deriveMissingEpisodeCodes_known {airedMatrix localMatrix : PyValue}
    {aired present : EpisodeMatrix} (haired : normalizeEpisodeMatrix airedMatrix = .ok (some aired))
    (hpresent : normalizeEpisodeMatrix localMatrix = .ok (some present))
    (upstreamMissing : PyValue) :
    deriveMissingEpisodeCodes airedMatrix localMatrix upstreamMissing =
      some ((sortedPairs
        ((matrixPairs aired).filter (· ∉ matrixPairs present))).map code) := by
  rw [deriveMissingEpisodeCodes, haired, hpresent]
  rfl

/-- What is derived is derived of two known matrices, or is what the source says. -/
theorem deriveMissingEpisodeCodes_cases {airedMatrix localMatrix upstreamMissing : PyValue}
    {codes : List String}
    (h : deriveMissingEpisodeCodes airedMatrix localMatrix upstreamMissing = some codes) :
    (∃ aired present, normalizeEpisodeMatrix airedMatrix = .ok (some aired) ∧
      codes = (sortedPairs
        ((matrixPairs aired).filter (· ∉ matrixPairs present))).map code) ∨
      normalizeEpisodeCodes upstreamMissing = .ok (some codes) := by
  have hvalue : ∀ {α : Type} {x : Except String (Option α)} {a : α}, valueOr x = some a →
      x = .ok (some a) := by
    intro α x a hx
    cases x with
    | error e => cases hx
    | ok value => exact congrArg Except.ok hx
  simp only [deriveMissingEpisodeCodes] at h
  split at h
  · rename_i present aired hpresent haired
    exact Or.inl ⟨aired, present, hvalue haired, (Option.some.inj h).symm⟩
  · exact Or.inr (hvalue h)

/-- Nothing is known of a matrix: there is none, or it is not valid. -/
def Unknown (value : PyValue) : Prop :=
  ∀ matrix, normalizeEpisodeMatrix value ≠ .ok (some matrix)

/-- **The codes of what is aired and not there**: of known matrices they are derived exactly;
whatever is derived is read as it was meant; nothing is derived only if a matrix and the codes of
the source are unknown; and a normalised matrix is left as it is, also out of a document. -/
theorem deriveMissingEpisodeCodes_exact :
    (∀ airedMatrix localMatrix upstreamMissing aired present,
      normalizeEpisodeMatrix airedMatrix = .ok (some aired) →
      normalizeEpisodeMatrix localMatrix = .ok (some present) →
        ∃ codes, deriveMissingEpisodeCodes airedMatrix localMatrix upstreamMissing = some codes ∧
          DecodesTo codes fun pair =>
            pair ∈ matrixPairs aired ∧ pair ∉ matrixPairs present) ∧
      (∀ airedMatrix localMatrix upstreamMissing codes,
        deriveMissingEpisodeCodes airedMatrix localMatrix upstreamMissing = some codes →
          ∃ wanted, DecodesTo codes wanted) ∧
      (∀ airedMatrix localMatrix upstreamMissing,
        deriveMissingEpisodeCodes airedMatrix localMatrix upstreamMissing = none →
          (Unknown airedMatrix ∨ Unknown localMatrix) ∧
            valueOr (normalizeEpisodeCodes upstreamMissing) = none) ∧
      normalizeEpisodeMatrix .none = .ok none ∧
      ∀ value matrix, normalizeEpisodeMatrix value = .ok (some matrix) →
        normalizeEpisodeMatrix (ofMatrix intKey matrix) = .ok (some matrix) ∧
          normalizeEpisodeMatrix (ofMatrix textKey matrix) = .ok (some matrix) := by
  refine ⟨?_, ?_, ?_, rfl, ?_⟩
  · intro airedMatrix localMatrix upstreamMissing aired present haired hpresent
    rw [deriveMissingEpisodeCodes_known haired hpresent]
    refine ⟨_, rfl, ?_⟩
    have hcodes := decodesTo_missing (normalizeEpisodeMatrix_wellFormed haired) present
    exact hcodes
  · intro airedMatrix localMatrix upstreamMissing codes h
    rcases deriveMissingEpisodeCodes_cases h with ⟨aired, present, haired, rfl⟩ | h
    · exact ⟨_, decodesTo_missing (normalizeEpisodeMatrix_wellFormed haired) present⟩
    · exact normalizeEpisodeCodes_decodesTo h
  · intro airedMatrix localMatrix upstreamMissing h
    simp only [deriveMissingEpisodeCodes] at h
    split at h
    · cases h
    · rename_i hunknown
      refine ⟨?_, h⟩
      by_contra hknown
      obtain ⟨haired, hpresent⟩ := not_or.mp hknown
      obtain ⟨aired, haired⟩ := not_forall_not.mp haired
      obtain ⟨present, hpresent⟩ := not_forall_not.mp hpresent
      exact hunknown present aired (by rw [hpresent]; rfl) (by rw [haired]; rfl)
  · intro value matrix h
    have hform := normalizeEpisodeMatrix_wellFormed h
    exact ⟨normalizeEpisodeMatrix_ofMatrix writesSeasons_intKey hform,
      normalizeEpisodeMatrix_ofMatrix writesSeasons_textKey hform⟩

/-- The runtime on ASCII. -/
@[reducible] def asciiEpisodes : EpisodeRuntime where
  toUrlText := asciiUrlText
  loads _ := .none
  modelValidate _ := .none
  int _ := .none
  decimal c := if c.isDigit then some (c.toNat - 48) else .none
  upper text := String.ofList (text.toList.map Char.toUpper)
  sha256Hex24 _ := "000000000000000000000000"
  nfkc text := text
  decimal_digitChar := by decide
  isspace_digitChar := by decide

/-- The season with two episodes, as it is aired. -/
def airedSeason : PyValue :=
  .mapping [(.str "1", .list [.int 1, .int 2])]

/-- The season as far as it is there. -/
def localSeason : PyValue :=
  .mapping [(.str "1", .list [.int 1])]

omit [EpisodeRuntime] in
/-- Of the season the second episode is missing; of nothing nothing is derived. -/
theorem deriveMissingEpisodeCodes_season :
    (∃ codes, @deriveMissingEpisodeCodes asciiEpisodes airedSeason localSeason .none = some codes ∧
      @DecodesTo asciiEpisodes codes fun pair =>
        pair ∈ matrixPairs [(1, [1, 2])] ∧ pair ∉ matrixPairs [(1, [1])]) ∧
      (@Unknown asciiEpisodes .none ∨ @Unknown asciiEpisodes localSeason) ∧
      @normalizeEpisodeMatrix asciiEpisodes (ofMatrix textKey [(1, [1, 2])]) =
        .ok (some [(1, [1, 2])]) := by
  obtain ⟨hknown, -, hnone, -, hagain⟩ := @deriveMissingEpisodeCodes_exact asciiEpisodes
  have haired : @normalizeEpisodeMatrix asciiEpisodes airedSeason = .ok (some [(1, [1, 2])]) := by
    rfl
  have hpresent : @normalizeEpisodeMatrix asciiEpisodes localSeason = .ok (some [(1, [1])]) := by
    rfl
  refine ⟨hknown _ _ _ _ _ haired hpresent, ?_, (hagain _ _ haired).2⟩
  exact (hnone .none localSeason .none rfl).1

end LibSeek.Services.Episodes
