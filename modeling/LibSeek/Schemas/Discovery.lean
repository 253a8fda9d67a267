/-
The documents of a discovery.

A media source answers with lines of JSON.  What a line holds is a decoded value; a row of it is
validated as a raw item, and what the adapter makes of a raw item is validated again as the data of
a media item, which the rest of the program works with.

Main definitions:

* `Schemas.Payload` — a decoded value;
* `Schemas.NextFindRawItem`, `Schemas.MediaItemData` — a raw item, and the data of a media item;
* `Schemas.NextFindRuntime` — the parts of the runtime that the adapter consults;
* `Schemas.MediaItemData.modelValidate` — the validators of the data of a media item.
-/

import LibSeek.Core.Url
import LibSeek.Models.Library
import Mathlib.Data.List.Sort
import Mathlib.Data.Prod.Lex

set_option relaxedAutoImplicit false
set_option autoImplicit false

namespace LibSeek.Schemas

open LibSeek.Core LibSeek.Lib LibSeek.Models

/-! ### Decoded values -/

/-- A value that `json.loads` returns.  The members of a dictionary have different keys. -/
inductive Payload where
  | null
  | bool (value : Bool)
  | int (value : Int)
  | float (text : String)
  | str (value : String)
  | list (items : List Payload)
  | dict (members : List (String × Payload))

/-- The members of a dictionary. -/
abbrev Members := List (String × Payload)

/-- `members.get(key)`. -/
def Members.get? (members : Members) (key : String) : Option Payload :=
  (members.find? fun member => member.1 = key).map Prod.snd

/-- A number or a text, by which a source names an item. -/
inductive SourceValue where
  | int (value : Int)
  | str (value : String)
  deriving DecidableEq, Repr

/-- The truth value of a number or a text. -/
def SourceValue.truth : SourceValue → Bool
  | .int value => value ≠ 0
  | .str value => value ≠ ""

/-- `str(value)`. -/
def SourceValue.text : SourceValue → String
  | .int value => toString value
  | .str value => value

/-! ### Items -/

/-- `NextFindRawItem`, with the fields that are read. -/
structure NextFindRawItem where
  id : Option SourceValue := none
  sourceItemId : Option SourceValue := none
  tmdbId : Option SourceValue := none
  type : Option String := none
  title : String
  originalTitle : Option String := none
  countryCodes : Option (List String) := none
  year : Option SourceValue := none
  poster : Option String := none
  localEpisodes : Option Int := none
  localEpisodeMatrix : Option (List (String × List Int)) := none
  totalEpisodes : Option Int := none
  airedEpisodes : Option Int := none
  missingEpisodes : Option (List String) := none
  deriving DecidableEq, Repr

structure MediaItemData where
  source : String
  sourceItemId : String
  mediaType : MediaType
  tmdbId : Option Int := none
  title : String
  originalTitle : Option String := none
  countryCodes : Option (List String) := none
  year : Option Int := none
  posterPath : Option String := none
  rawType : Option String := none
  localEpisodes : Option Int := none
  localEpisodeMatrix : Option (List (String × List Int)) := none
  totalEpisodes : Option Int := none
  airedEpisodes : Option Int := none
  missingEpisodes : Option (List String) := none
  identityConfidence : IdentityConfidence
  metadataStatus : MetadataStatus
  discoveredAt : DateTime
  updatedAt : DateTime
  deriving DecidableEq, Repr

/-- The key under which the items of a discovery are told apart: the identifier of the catalogue if
there is one, and else that of the source. -/
structure DiscoveryKey where
  source : String
  mediaType : MediaType
  identity : Int ⊕ String
  deriving DecidableEq, Repr

def MediaItemData.key (item : MediaItemData) : DiscoveryKey where
  source := item.source
  mediaType := item.mediaType
  identity :=
    match item.tmdbId with
    | some tmdbId => .inl tmdbId
    | none => .inr item.sourceItemId

instance : Keyed MediaItemData DiscoveryKey := ⟨MediaItemData.key⟩

@[simp] theorem key_mediaItemData (item : MediaItemData) : Keyed.key item = item.key := rfl

structure DiscoveryWarning where
  lineNumber : Option ℕ := none
  errorCode : String
  message : String
  deriving DecidableEq, Repr

structure MediaDiscoveryResult where
  items : List MediaItemData
  warnings : List DiscoveryWarning := []
  deriving DecidableEq, Repr

/-! ### The runtime -/

/-- The runtime with what the adapter consults besides: the decoder of JSON, the validation of a
row as a raw item, and what the standard library says of numbers, of letters and of a digest. -/
class NextFindRuntime extends UrlText where
  /-- `json.loads`; nothing where it raises. -/
  loads : List UInt8 → Option Payload
  /-- `NextFindRawItem.model_validate`; nothing where it raises. -/
  modelValidate : Members → Option NextFindRawItem
  /-- `int(value)` of a text; nothing where it raises. -/
  int : String → Option Int
  /-- The value of a decimal digit, of any script. -/
  decimal : Char → Option ℕ
  /-- `str.upper`. -/
  upper : String → String
  /-- The first 24 digits of the hexadecimal SHA-256 digest of a text. -/
  sha256Hex24 : String → String

section Validators

variable [NextFindRuntime]

/-- `normalize_country_codes` of a list of texts. -/
def normalizeCountryCodes (values : List String) : Option (List String) :=
  let codes := values.map fun value => NextFindRuntime.upper (strip value)
  let valid := codes.filter fun code => code.toList.length = 2 && code.toList.all Char.isAlpha
  let result := valid.foldl (fun result code => if code ∈ result then result else result ++ [code]) []
  if result = [] then none else some result

/-- The number that the digits of a text write; nothing where it has none, has too many, or has a
character that is no digit. -/
def boundedNumber (digits : List Char) (most : ℕ) : Option ℕ :=
  if digits = [] ∨ most < digits.length then none
  else (digits.mapM NextFindRuntime.decimal).map fun values =>
    values.foldl (fun n digit => 10 * n + digit) 0

/-- Whether the pattern of an episode code takes a character for an `S`, whatever its case. -/
def isSeasonMark (c : Char) : Bool :=
  c == 'S' || c == 's' || c == 'ſ'

/-- `_episode_pair` of a text: the season and the episode of a code. -/
def episodePair (value : String) : Option (ℕ × ℕ) :=
  match stripList value.toList with
  | [] => none
  | mark :: rest =>
      let digits := rest.takeWhile fun c => c ≠ 'E' ∧ c ≠ 'e'
      match isSeasonMark mark, rest.drop digits.length with
      | true, _ :: episode =>
          match boundedNumber digits 2, boundedNumber episode 3 with
          | some season, some episode => if 1 ≤ episode then some (season, episode) else none
          | _, _ => none
      | _, _ => none

/-- A number in two digits at least. -/
def twoDigits (n : ℕ) : String :=
  if n < 10 then "0" ++ toString n else toString n

/-- `normalize_episode_codes` of a list of texts: the codes in order, each once. -/
def normalizeEpisodeCodes (values : List String) : Option (List String) := do
  let pairs ← values.mapM episodePair
  let sorted := pairs.dedup.insertionSort fun a b => toLex a ≤ toLex b
  some (sorted.map fun pair => "S" ++ twoDigits pair.1 ++ "E" ++ twoDigits pair.2)

/-- `normalize_episode_codes` of what may be absent. -/
def validMissingEpisodes : Option (List String) → Option (Option (List String))
  | none => some none
  | some codes => (normalizeEpisodeCodes codes).map some

/-- The bounds of the numbers of a media item. -/
def MediaItemData.inBounds (item : MediaItemData) : Bool :=
  item.year.all (fun year => 1870 ≤ year && year ≤ 2200) && item.localEpisodes.all (0 ≤ ·) &&
    item.totalEpisodes.all (0 ≤ ·) && item.airedEpisodes.all (0 ≤ ·)

/-- The validators of the data of a media item; nothing where one of them raises.  The matrix of
the local episodes was normalised with the raw item. -/
def MediaItemData.modelValidate (item : MediaItemData) : Option MediaItemData := do
  let missingEpisodes ← validMissingEpisodes item.missingEpisodes
  if item.inBounds then
    some { item with countryCodes := item.countryCodes.bind normalizeCountryCodes, missingEpisodes }
  else none

end Validators

end LibSeek.Schemas
