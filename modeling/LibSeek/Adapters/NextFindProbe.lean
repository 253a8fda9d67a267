/-
The probe of the media source, and the reader.

Before a source is used, a probe asks it for a page of one item and judges the body of the answer.
Its parser is not that of the reader.  It breaks a body into lines at every kind of line break, or
takes it as one document, and accepts the rows under each of the keys `data`, `items` and `list`; the
reader breaks it at line feeds, and takes the rows under `data`, or else those under `items`.

Main definitions:

* `Adapters.validateDiscoverProbePayload` — the parser of the probe;
* `Adapters.probeRows`, `Adapters.parserRows` — the rows that the probe accepts, and those that the
  reader validates;
* `Adapters.ProbeAgrees` — the reader yields the rows that the probe accepts;
* `Adapters.ReadAlike`, `Adapters.UnderFirstKey` — a body that both read in the same segments, and
  a segment with its rows where the reader looks for them.

Main results:

* `Adapters.parseChunks_rows` — the reader yields each row as a record or as a warning;
* `Adapters.probeAgrees_iff` — **of a body that both read in the same segments the reader yields the
  rows that the probe accepts if and only if the rows are where it looks for them**.
-/

import LibSeek.Adapters.NextFindPaging
import LibSeek.Lib.Transaction

set_option relaxedAutoImplicit false
set_option autoImplicit false

namespace LibSeek.Adapters

open LibSeek.Core LibSeek.Lib LibSeek.Lib.Framing LibSeek.Models LibSeek.Schemas

/-! ### The segments that the probe accepts -/

/-- Whether a dictionary has a key. -/
def hasKey (members : Members) (key : String) : Bool :=
  (Members.get? members key).isSome

/-- Whether all keys of a dictionary are among some. -/
def keysWithin (members : Members) (keys : List String) : Bool :=
  members.all fun member => member.1 ∈ keys

/-- `_is_non_negative_int`. -/
def isNonNegativeInt : Payload → Bool
  | .int value => 0 ≤ value
  | _ => false

/-- A number that counts from one. -/
def isPositiveInt : Payload → Bool
  | .int value => 0 < value
  | _ => false

/-- A text that is not blank. -/
def isFilledText [Python] : Payload → Bool
  | .str value => strip value ≠ ""
  | _ => false

/-- What a cursor may be. -/
def isCursor : Payload → Bool
  | .null => true
  | .str _ => true
  | value => isNonNegativeInt value

/-- `_has_valid_discover_probe_control_fields`. -/
def hasValidDiscoverProbeControlFields [Python] (payload : Members) : Bool :=
  (["type", "status"].all fun key => (Members.get? payload key).all isFilledText) &&
    (Members.get? payload "total_pages").all isNonNegativeInt &&
    (Members.get? payload "current_page").all isPositiveInt &&
    (Members.get? payload "page_size").all isPositiveInt &&
    (Members.get? payload "total_results").all isNonNegativeInt &&
    (Members.get? payload "next_cursor").all isCursor

/-- Whether a value is a dictionary. -/
def isDict : Payload → Bool
  | .dict _ => true
  | _ => false

/-- Whether a value is a list of dictionaries. -/
def isRowList : Payload → Bool
  | .list items => items.all isDict
  | _ => false

/-- `_is_discover_probe_data_segment`. -/
def isDiscoverProbeDataSegment [Python] : Payload → Bool
  | .list items => items.all isDict
  | .dict payload =>
      keysWithin payload (DISCOVER_DATA_KEYS ++ DISCOVER_CONTROL_KEYS) &&
        DISCOVER_DATA_KEYS.any (hasKey payload) &&
        (DISCOVER_DATA_KEYS.all fun key => (Members.get? payload key).all isRowList) &&
        hasValidDiscoverProbeControlFields payload
  | _ => false

/-- `_is_discover_probe_control_segment`. -/
def isDiscoverProbeControlSegment [Python] : Payload → Bool
  | .dict payload =>
      payload ≠ [] && keysWithin payload DISCOVER_CONTROL_KEYS &&
        hasValidDiscoverProbeControlFields payload
  | _ => false

/-! ### The probe -/

/-- The lines of a text from a place on, with what there is of the first one, the last byte first.
-/
def splitlinesFrom (line : List UInt8) : List UInt8 → List (List UInt8)
  | [] => if line = [] then [] else [line.reverse]
  | 13 :: 10 :: text => line.reverse :: splitlinesFrom [] text
  | byte :: text =>
      if byte = 10 ∨ byte = 13 then line.reverse :: splitlinesFrom [] text
      else splitlinesFrom (byte :: line) text

/-- `bytes.splitlines`. -/
def splitlines (text : List UInt8) : List (List UInt8) :=
  splitlinesFrom [] text

/-- The error of an answer that is no list of missing media. -/
def invalidDiscoverProbePayload : AppError :=
  { errorCode := "UPSTREAM_INVALID_JSON", message := "NextFind 未入库列表响应格式无效"
    statusCode := 502 }

/-- The error of a line that is too long. -/
def probeLineTooLarge : AppError :=
  { errorCode := "UPSTREAM_RESPONSE_TOO_LARGE", message := "NextFind 未入库列表响应行超过安全限制" }

/-- Whether a type of content is that of lines of JSON. -/
def isNdjson (contentType : String) : Bool :=
  "ndjson".toList <:+: contentType.toList

section Probe

variable [StreamRuntime] (adapter : NextFindAdapter) (now : DateTime)

/-- `json.loads`, with the errors of it that the probe handles. -/
def probeLoads (text : List UInt8) : Except Exn Payload :=
  match StreamRuntime.loadsRaises text with
  | some exception => .error (.other exception)
  | none =>
      match NextFindRuntime.loads text with
      | none => .error (.app invalidDiscoverProbePayload)
      | some payload => .ok payload

/-- A line of the probe, after a segment with data was found or not. -/
def probeLine (foundDataSegment : Bool) (line : List UInt8) : Except Exn Bool :=
  if line.all isByteSpace then .ok foundDataSegment
  else do
    let payload ← probeLoads line
    if isDiscoverProbeDataSegment payload then .ok true
    else if isDiscoverProbeControlSegment payload then .ok foundDataSegment
    else .error (.app invalidDiscoverProbePayload)

/-- **`_validate_discover_probe_payload`.** -/
def validateDiscoverProbePayload (contentType : String) (payloadBytes : List UInt8) :
    Except Exn Unit :=
  if isNdjson contentType then
    let lines := splitlines payloadBytes
    if lines.any (fun line => adapter.maxLineBytes < line.length) then
      .error (.app probeLineTooLarge)
    else do
      let foundDataSegment ← lines.foldlM probeLine false
      if foundDataSegment then .ok () else .error (.app invalidDiscoverProbePayload)
  else do
    let payload ← probeLoads payloadBytes
    if isDiscoverProbeDataSegment payload then .ok ()
    else .error (.app invalidDiscoverProbePayload)

/-! ### The rows that each of them takes -/

/-- The lines that are not blank. -/
def filledLines (lines : List (List UInt8)) : List (List UInt8) :=
  lines.filter fun line => !line.all isByteSpace

/-- What the probe decodes of a body: its lines, or the body as a whole. -/
def probeSegments (contentType : String) (body : List UInt8) : List (List UInt8) :=
  if isNdjson contentType then filledLines (splitlines body) else [body]

/-- What the segments of a body decode to. -/
def probePayloads (contentType : String) (body : List UInt8) : List Payload :=
  (probeSegments contentType body).filterMap NextFindRuntime.loads

/-- The rows under a key. -/
def rowsUnder (members : Members) (key : String) : List Members :=
  match Members.get? members key with
  | some (.list items) => dictionaries items
  | _ => []

/-- The rows of a segment, under all keys of data. -/
def segmentRows : Payload → List Members
  | .list items => dictionaries items
  | .dict members => DISCOVER_DATA_KEYS.flatMap (rowsUnder members)
  | _ => []

/-- **The rows that the probe accepts.** -/
def probeRows (contentType : String) (body : List UInt8) : List Members :=
  (probePayloads contentType body).flatMap segmentRows

/-- The rows that the reader validates of what a line decodes to. -/
def unwrappedRows (payload : Payload) : List Members :=
  if isDiscoverControlSegment payload then [] else unwrapPayload payload

/-- What the reader decodes of a body. -/
def parserPayloads (body : List UInt8) : List Payload :=
  (linesOf body).filterMap (payloadOf adapter)

/-- **The rows that the reader validates.** -/
def parserRows (body : List UInt8) : List Members :=
  (parserPayloads adapter body).flatMap unwrappedRows

/-- The number of rows that are no items. -/
def invalidRows (rows : List Members) : ℕ :=
  (rows.filter fun row => (itemOf now row).isNone).length

/-- The number of warnings about a row. -/
def rowWarnings (warnings : List DiscoveryWarning) : ℕ :=
  (warnings.filter fun warning => warning.errorCode = "ITEM_VALIDATION_ERROR").length

/-- The reader yields rows: they are those that it validates, and each comes out as a record, or as
a warning about a row. -/
def ParserYields (body : List UInt8) (expectedPage : ℕ) (rows : List Members) : Prop :=
  parserRows adapter body = rows ∧
    ∀ chunks : List (List UInt8), chunks.flatten = body →
      ∃ warnings state, parseChunks adapter now chunks none expectedPage =
          .ok (rows.filterMap (itemOf now), warnings, state) ∧
        rowWarnings warnings = invalidRows now rows

/-- **The reader yields the rows that the probe accepts.** -/
def ProbeAgrees (contentType : String) (body : List UInt8) (expectedPage : ℕ) : Prop :=
  validateDiscoverProbePayload adapter contentType body = .ok () →
    probeRows contentType body ≠ [] →
      ParserYields adapter now body expectedPage (probeRows contentType body)

/-- The reader and the probe read a body in the same segments: the lines of the one that are not
blank decode, within their limit, to what the segments of the other decode to. -/
def ReadAlike (contentType : String) (body : List UInt8) : Prop :=
  (filledLines (linesOf body)).map (payloadOf adapter) =
    (probeSegments contentType body).map NextFindRuntime.loads

/-- A segment has its rows where the reader looks for them: under `data`, or else under `items`. -/
def UnderFirstKey : Payload → Prop
  | .dict members =>
      if hasKey members "data" then rowsUnder members "items" = [] ∧ rowsUnder members "list" = []
      else if hasKey members "items" then rowsUnder members "list" = []
      else hasKey members "list" = false
  | _ => True

/-- A segment that has an empty list under `list`, and no other. -/
def EmptyList : Payload → Prop
  | .dict members =>
      hasKey members "data" = false ∧ hasKey members "items" = false ∧ hasKey members "list" = true ∧
        rowsUnder members "list" = []
  | _ => False

/-- A body of which the reader finds the rows. -/
def Findable (contentType : String) (body : List UInt8) : Prop :=
  body.length ≤ adapter.maxResponseBytes ∧ ReadAlike adapter contentType body ∧
    ∀ payload ∈ probePayloads contentType body, UnderFirstKey payload

/-! ### What the reader yields -/

variable {adapter now}

omit [StreamRuntime] in
theorem rowWarnings_append (warnings warnings' : List DiscoveryWarning) :
    rowWarnings (warnings ++ warnings') = rowWarnings warnings + rowWarnings warnings' := by
  rw [rowWarnings, List.filter_append, List.length_append, rowWarnings, rowWarnings]

theorem invalidRows_append (rows rows' : List Members) :
    invalidRows now (rows ++ rows') = invalidRows now rows + invalidRows now rows' := by
  rw [invalidRows, List.filter_append, List.length_append, invalidRows, invalidRows]

omit [StreamRuntime] in
/-- A warning about a page as a whole is about no row. -/
theorem rowWarnings_pageWarning {P : Prop} [Decidable P] {errorCode : String} (message : String)
    (h : errorCode ≠ "ITEM_VALIDATION_ERROR") :
    rowWarnings (if P then [pageWarning errorCode message] else []) = 0 := by
  split
  · rw [rowWarnings, List.filter_singleton, pageWarning, decide_eq_false h]
    rfl
  · rfl

omit [StreamRuntime] in
/-- The judgement of the metadata is about no row. -/
theorem rowWarnings_paginationState (o : Observation) (page : ℕ) :
    rowWarnings (paginationState o page).1 = 0 := by
  simp only [paginationState, rowWarnings_append]
  rw [rowWarnings_pageWarning _ (by decide), rowWarnings_pageWarning _ (by decide),
    rowWarnings_pageWarning _ (by decide), rowWarnings_pageWarning _ (by decide)]

/-- The rows that the reader validates of a line. -/
def lineRows (adapter : NextFindAdapter) (line : List UInt8) : List Members :=
  ((payloadOf adapter line).map unwrappedRows).getD []

/-- The warnings about rows after those of a payload. -/
theorem rowWarnings_foldl (lineNumber : ℕ) (rows : List Members) (parsed : Parsed) :
    rowWarnings (rows.foldl (fun parsed row => parsed.append (consumeRow now lineNumber row))
        parsed).warnings = rowWarnings parsed.warnings + invalidRows now rows := by
  induction rows generalizing parsed with
  | nil => rfl
  | cons row rows ih =>
      have hrow : rowWarnings (consumeRow now lineNumber row).warnings = invalidRows now [row] := by
        rw [consumeRow, invalidRows, List.filter_singleton]
        cases itemOf now row with
        | none => rfl
        | some item => rfl
      have hcons : row :: rows = [row] ++ rows := rfl
      rw [List.foldl_cons, ih, Parsed.append, rowWarnings_append, hrow, hcons, invalidRows_append,
        Nat.add_assoc]

/-- What comes of a line: each of its rows. -/
theorem consume_rows (lineNumber : ℕ) (line : List UInt8) :
    (consume adapter now lineNumber line).records = (lineRows adapter line).filterMap (itemOf now) ∧
      rowWarnings (consume adapter now lineNumber line).warnings =
        invalidRows now (lineRows adapter line) := by
  rw [consume, lineRows, payloadOf]
  by_cases hblank : line.all isByteSpace = true
  · rw [if_pos hblank, if_pos (by rw [hblank, Bool.true_or])]
    exact ⟨rfl, rfl⟩
  · rw [if_neg hblank]
    by_cases hlong : adapter.maxLineBytes < line.length
    · rw [if_pos hlong, if_pos (by simp [hlong])]
      exact ⟨rfl, rfl⟩
    · have hread : ¬ (line.all isByteSpace || decide (adapter.maxLineBytes < line.length)) = true := by
        simp [hblank, hlong]
      rw [if_neg hlong, if_neg hread]
      cases NextFindRuntime.loads line with
      | none => exact ⟨rfl, rfl⟩
      | some payload =>
          simp only [Option.map_some, Option.getD_some, unwrappedRows]
          by_cases hcontrol : isDiscoverControlSegment payload = true
          · rw [if_pos hcontrol, if_pos hcontrol]
            exact ⟨rfl, rfl⟩
          · rw [if_neg hcontrol, if_neg hcontrol]
            refine ⟨(foldl_consumeRow now lineNumber _ _).1.trans (List.nil_append _), ?_⟩
            rw [rowWarnings_foldl]
            exact Nat.zero_add _

/-- What comes of the lines of a body: each of their rows. -/
theorem consumeAll_rows (lineNumber : ℕ) (lines : List (List UInt8)) :
    (consumeAll adapter now lineNumber lines).records =
        (lines.flatMap (lineRows adapter)).filterMap (itemOf now) ∧
      rowWarnings (consumeAll adapter now lineNumber lines).warnings =
        invalidRows now (lines.flatMap (lineRows adapter)) := by
  induction lines generalizing lineNumber with
  | nil => exact ⟨rfl, rfl⟩
  | cons line lines ih =>
      obtain ⟨hrecords, hwarnings⟩ := @consume_rows _ adapter now lineNumber line
      obtain ⟨hrecords', hwarnings'⟩ := ih (lineNumber + 1)
      rw [consumeAll, Parsed.append, List.flatMap_cons, List.filterMap_append, invalidRows_append,
        ← hrecords, ← hrecords', ← hwarnings, ← hwarnings']
      exact ⟨rfl, rowWarnings_append _ _⟩

theorem parserRows_eq (body : List UInt8) :
    parserRows adapter body = (linesOf body).flatMap (lineRows adapter) := by
  rw [parserRows, parserPayloads, List.filterMap_eq_flatMap_toList, List.flatMap_assoc]
  refine List.flatMap_congr ?_
  intro line _
  rw [lineRows]
  cases payloadOf adapter line with
  | none => rfl
  | some payload => exact List.flatMap_singleton unwrappedRows payload

/-- **The reader yields each row as a record or as a warning**, of a body within its limit with no
line that raises. -/
theorem parseChunks_rows {body : List UInt8} (hlength : body.length ≤ adapter.maxResponseBytes)
    (hquiet : ∀ line ∈ linesOf body, lineRaises adapter line = none) (expectedPage : ℕ) :
    ParserYields adapter now body expectedPage (parserRows adapter body) := by
  refine ⟨rfl, ?_⟩
  intro chunks hchunks
  obtain ⟨hrecords, hwarnings⟩ :=
    @consumeAll_rows _ adapter now 1 (linesOf body)
  rw [← parserRows_eq] at hrecords hwarnings
  rw [parseChunks_eq_parseStream chunks none expectedPage (by rw [hchunks]; exact hquiet), hchunks,
    parseStream.eq_def, if_neg (Nat.not_lt.mpr hlength)]
  refine ⟨_, _, congrArg Except.ok (Prod.ext hrecords rfl), ?_⟩
  rw [rowWarnings_append, hwarnings, rowWarnings_paginationState, Nat.add_zero]

/-! ### What the probe accepts -/

/-- A segment that the probe accepts. -/
def Accepted (payload : Payload) : Prop :=
  isDiscoverProbeDataSegment payload = true ∨ isDiscoverProbeControlSegment payload = true

omit [StreamRuntime] in
theorem hasKey_eq_false {members : Members} {key : String} (h : hasKey members key = false) :
    Members.get? members key = none := by
  simpa [hasKey] using h

theorem probeLoads_eq_ok {text : List UInt8} {payload : Payload}
    (h : probeLoads text = .ok payload) :
    StreamRuntime.loadsRaises text = none ∧ NextFindRuntime.loads text = some payload := by
  rw [probeLoads] at h
  cases hraises : StreamRuntime.loadsRaises text with
  | some exception =>
      rw [hraises] at h
      cases h
  | none =>
      rw [hraises] at h
      cases hloads : NextFindRuntime.loads text with
      | none =>
          rw [hloads] at h
          cases h
      | some payload' =>
          rw [hloads] at h
          obtain rfl := Except.ok.inj h
          exact ⟨rfl, rfl⟩

/-- A line that is not blank and that the probe takes decodes to a segment that it accepts. -/
theorem probeLine_eq_ok {found found' : Bool} {line : List UInt8}
    (h : probeLine found line = .ok found') (hfilled : line.all isByteSpace = false) :
    ∃ payload, probeLoads line = .ok payload ∧ Accepted payload := by
  rw [probeLine, if_neg (by rw [hfilled]; decide)] at h
  cases hloads : probeLoads line with
  | error e =>
      rw [hloads] at h
      cases h
  | ok payload =>
      rw [hloads] at h
      refine ⟨payload, rfl, ?_⟩
      change (if isDiscoverProbeDataSegment payload = true then Except.ok true
        else if isDiscoverProbeControlSegment payload = true then Except.ok found
        else Except.error (Exn.app invalidDiscoverProbePayload)) = .ok found' at h
      by_cases hdata : isDiscoverProbeDataSegment payload = true
      · exact Or.inl hdata
      · rw [if_neg hdata] at h
        by_cases hcontrol : isDiscoverProbeControlSegment payload = true
        · exact Or.inr hcontrol
        · rw [if_neg hcontrol] at h
          cases h

theorem foldlM_probeLine_eq_ok {lines : List (List UInt8)} {found found' : Bool}
    (h : lines.foldlM probeLine found = .ok found') :
    ∀ line ∈ filledLines lines, ∃ payload, probeLoads line = .ok payload ∧ Accepted payload := by
  induction lines generalizing found with
  | nil =>
      intro line hline
      exact absurd hline List.not_mem_nil
  | cons first lines ih =>
      rw [List.foldlM_cons] at h
      cases hfirst : probeLine found first with
      | error e =>
          rw [hfirst] at h
          cases h
      | ok found'' =>
          rw [hfirst] at h
          intro line hline
          obtain ⟨hmem, hfilled⟩ := List.mem_filter.mp hline
          rcases List.mem_cons.mp hmem with rfl | hmem
          · exact probeLine_eq_ok hfirst (by simpa using hfilled)
          · exact ih h line (List.mem_filter.mpr ⟨hmem, hfilled⟩)

/-- **What the probe accepts**: every segment decodes, without an exception, to one of its kinds. -/
theorem accepted_of_validate {contentType : String} {body : List UInt8}
    (h : validateDiscoverProbePayload adapter contentType body = .ok ()) :
    ∀ segment ∈ probeSegments contentType body,
      ∃ payload, probeLoads segment = .ok payload ∧ Accepted payload := by
  rw [validateDiscoverProbePayload] at h
  rw [probeSegments]
  by_cases hndjson : isNdjson contentType = true
  · rw [if_pos hndjson] at h ⊢
    dsimp only at h
    split at h
    · cases h
    · cases hlines : (splitlines body).foldlM probeLine false with
      | error e =>
          rw [hlines] at h
          cases h
      | ok found => exact foldlM_probeLine_eq_ok hlines
  · rw [if_neg hndjson] at h ⊢
    intro segment hsegment
    obtain rfl := List.mem_singleton.mp hsegment
    cases hloads : probeLoads segment with
    | error e =>
        rw [hloads] at h
        cases h
    | ok payload =>
        rw [hloads] at h
        refine ⟨payload, rfl, Or.inl ?_⟩
        by_contra hdata
        change (if isDiscoverProbeDataSegment payload = true then Except.ok ()
          else Except.error (Exn.app invalidDiscoverProbePayload)) = .ok () at h
        rw [if_neg hdata] at h
        cases h

theorem accepted_of_mem {contentType : String} {body : List UInt8}
    (h : validateDiscoverProbePayload adapter contentType body = .ok ()) :
    ∀ payload ∈ probePayloads contentType body, Accepted payload := by
  intro payload hpayload
  obtain ⟨segment, hsegment, hloads⟩ := List.mem_filterMap.mp hpayload
  obtain ⟨payload', hok, haccepted⟩ := accepted_of_validate h segment hsegment
  rw [(probeLoads_eq_ok hok).2] at hloads
  obtain rfl := Option.some.inj hloads
  exact haccepted

/-! ### The rows of a segment -/

section Segments

omit [StreamRuntime]

theorem get?_eq_none_iff {members : Members} {key : String} :
    Members.get? members key = none ↔ ∀ member ∈ members, member.1 ≠ key := by
  rw [Members.get?, Option.map_eq_none_iff, List.find?_eq_none]
  constructor
  · intro h member hmember heq
    exact h member hmember (decide_eq_true heq)
  · intro h member hmember heq
    exact h member hmember (of_decide_eq_true heq)

theorem hasKey_iff {members : Members} {key : String} :
    hasKey members key = true ↔ ∃ member ∈ members, member.1 = key := by
  rw [hasKey, Option.isSome_iff_ne_none, ne_eq, get?_eq_none_iff]
  simp only [ne_eq, not_forall, not_not, exists_prop]

theorem rowsUnder_of_not_hasKey {members : Members} {key : String}
    (h : hasKey members key = false) : rowsUnder members key = [] := by
  rw [rowsUnder, hasKey_eq_false h]

theorem segmentRows_dict (members : Members) :
    segmentRows (.dict members) =
      rowsUnder members "data" ++ (rowsUnder members "items" ++ rowsUnder members "list") := by
  simp only [segmentRows, DISCOVER_DATA_KEYS, List.flatMap_cons, List.flatMap_nil, List.append_nil]

/-- A dictionary with a key of data is no control segment of the reader. -/
theorem isDiscoverControlSegment_of_hasKey {members : Members} {key : String}
    (hkey : key ∈ DISCOVER_DATA_KEYS) (h : hasKey members key = true) :
    isDiscoverControlSegment (.dict members) = false := by
  obtain ⟨member, hmember, rfl⟩ := hasKey_iff.mp h
  have hany : (members.any fun member => member.1 ∈ DISCOVER_DATA_KEYS) = true :=
    List.any_eq_true.mpr ⟨member, hmember, decide_eq_true hkey⟩
  simp only [isDiscoverControlSegment, hany, Bool.not_true, Bool.and_false, Bool.false_and]

end Segments

/-- A root that the probe accepts is a list of rows. -/
theorem isRowList_of_accepted {members : Members} {key : String} {root : Payload}
    (h : Accepted (.dict members)) (hkey : key ∈ DISCOVER_DATA_KEYS)
    (hroot : Members.get? members key = some root) : isRowList root = true := by
  rcases h with h | h
  · simp only [isDiscoverProbeDataSegment, Bool.and_eq_true, List.all_eq_true] at h
    have hall := h.1.2 key hkey
    rwa [hroot] at hall
  · -- a control segment has no key of data
    simp only [isDiscoverProbeControlSegment, keysWithin, Bool.and_eq_true, List.all_eq_true,
      decide_eq_true_eq] at h
    have hhas : hasKey members key = true := by rw [hasKey, hroot]; rfl
    obtain ⟨member, hmember, rfl⟩ := hasKey_iff.mp hhas
    have hother : ∀ key ∈ DISCOVER_DATA_KEYS, key ∉ DISCOVER_CONTROL_KEYS := by decide
    exact absurd (h.1.2 member hmember) (hother _ hkey)

/-- A segment that the probe accepts, and that has no key of data, is one that tells of the list. -/
theorem isDiscoverControlSegment_of_accepted {members : Members} (h : Accepted (.dict members))
    (hdata : ∀ key ∈ DISCOVER_DATA_KEYS, hasKey members key = false) :
    isDiscoverControlSegment (.dict members) = true := by
  rcases h with h | h
  · simp only [isDiscoverProbeDataSegment, Bool.and_eq_true, List.any_eq_true] at h
    obtain ⟨key, hkey, hhas⟩ := h.1.1.2
    exact absurd hhas (by rw [hdata key hkey]; decide)
  · simp only [isDiscoverProbeControlSegment, keysWithin, Bool.and_eq_true, List.all_eq_true,
      decide_eq_true_eq] at h
    have hany : (members.any fun member => member.1 ∈ DISCOVER_DATA_KEYS) = false := by
      rw [List.any_eq_false]
      intro member hmember hkey
      have hhas := hasKey_iff.mpr ⟨member, hmember, rfl⟩
      rw [hdata _ (of_decide_eq_true hkey)] at hhas
      exact absurd hhas (by decide)
    have hall : (members.all fun member => member.1 ∈ DISCOVER_CONTROL_KEYS ++ ENVELOPE_KEYS) =
        true := by
      rw [List.all_eq_true]
      intro member hmember
      exact decide_eq_true (List.mem_append_left _ (h.1.2 member hmember))
    simp only [isDiscoverControlSegment, hany, hall, h.1.1, decide_true, ne_eq, not_false_eq_true,
      Bool.not_false, Bool.and_true]

/-- **The rows that the reader takes of a dictionary that the probe accepts.** -/
theorem unwrappedRows_dict {members : Members} (h : Accepted (.dict members)) :
    unwrappedRows (.dict members) =
      if hasKey members "data" then rowsUnder members "data"
      else if hasKey members "items" then rowsUnder members "items"
      else if hasKey members "list" then [members]
      else [] := by
  have hroot : ∀ key ∈ DISCOVER_DATA_KEYS, ∀ root, Members.get? members key = some root →
      ∃ items, root = .list items := by
    intro key hkey root hget
    have hlist := isRowList_of_accepted h hkey hget
    cases root with
    | list items => exact ⟨items, rfl⟩
    | null => cases hlist
    | bool value => cases hlist
    | int value => cases hlist
    | float text => cases hlist
    | str value => cases hlist
    | dict members => cases hlist
  -- by the first of the keys that the reader looks for
  rw [unwrappedRows]
  by_cases hdata : hasKey members "data" = true
  · rw [isDiscoverControlSegment_of_hasKey (by decide) hdata, if_neg (by decide), if_pos hdata]
    obtain ⟨root, hget⟩ := Option.isSome_iff_exists.mp hdata
    obtain ⟨items, rfl⟩ := hroot "data" (by decide) root hget
    simp only [unwrapPayload, rowsUnder, hget, Option.getD_some]
  · rw [if_neg hdata]
    have hnodata := hasKey_eq_false (by simpa using hdata)
    by_cases hitems : hasKey members "items" = true
    · rw [isDiscoverControlSegment_of_hasKey (by decide) hitems, if_neg (by decide), if_pos hitems]
      obtain ⟨root, hget⟩ := Option.isSome_iff_exists.mp hitems
      obtain ⟨items, rfl⟩ := hroot "items" (by decide) root hget
      simp only [unwrapPayload, rowsUnder, hnodata, hget, Option.getD_none, Option.getD_some]
    · rw [if_neg hitems]
      have hnoitems := hasKey_eq_false (by simpa using hitems)
      by_cases hlist : hasKey members "list" = true
      · rw [isDiscoverControlSegment_of_hasKey (by decide) hlist, if_neg (by decide), if_pos hlist]
        simp only [unwrapPayload, hnodata, hnoitems, Option.getD_none]
      · rw [if_neg hlist]
        refine if_pos (isDiscoverControlSegment_of_accepted h ?_)
        intro key hkey
        simp only [DISCOVER_DATA_KEYS, List.mem_cons, List.not_mem_nil, or_false] at hkey
        rcases hkey with rfl | rfl | rfl
        · simpa using hdata
        · simpa using hitems
        · simpa using hlist

/-- What an accepted segment is that is no dictionary: a list. -/
theorem accepted_cases {payload : Payload} (h : Accepted payload) :
    (∃ items, payload = .list items) ∨ ∃ members, payload = .dict members := by
  cases payload with
  | list items => exact Or.inl ⟨items, rfl⟩
  | dict members => exact Or.inr ⟨members, rfl⟩
  | null => rcases h with h | h <;> cases h
  | bool value => rcases h with h | h <;> cases h
  | int value => rcases h with h | h <;> cases h
  | float text => rcases h with h | h <;> cases h
  | str value => rcases h with h | h <;> cases h

omit [StreamRuntime] in
/-- A row is not the dictionary that has it under one of its keys. -/
theorem not_mem_rowsUnder (members : Members) (key : String) : members ∉ rowsUnder members key := by
  intro hmem
  rw [rowsUnder] at hmem
  cases hget : Members.get? members key with
  | none =>
      rw [hget] at hmem
      exact absurd hmem List.not_mem_nil
  | some root =>
      rw [hget] at hmem
      cases root with
      | list items =>
          obtain ⟨item, hitem, hsame⟩ := List.mem_filterMap.mp hmem
          obtain ⟨member, hmember, hroot⟩ := Option.map_eq_some_iff.mp hget
          -- the dictionary would be a part of itself
          cases item with
          | dict inner =>
              obtain rfl := Option.some.inj hsame
              have hlist := List.sizeOf_lt_of_mem (List.mem_of_find?_eq_some hmember)
              have hinner := List.sizeOf_lt_of_mem hitem
              have hpair : ∀ member : String × Payload, sizeOf member.2 < sizeOf member := by
                rintro ⟨name, value⟩
                change sizeOf value < _
                rw [Prod.mk.sizeOf_spec]
                omega
              have hvalue := hpair member
              rw [hroot, Payload.list.sizeOf_spec] at hvalue
              rw [Payload.dict.sizeOf_spec] at hinner
              omega
          | _ => cases hsame
      | _ => exact absurd hmem List.not_mem_nil

/-- Of a segment with its rows where the reader looks, the reader takes the rows that the probe
accepts. -/
theorem unwrappedRows_eq {payload : Payload} (h : Accepted payload)
    (hunder : UnderFirstKey payload) : unwrappedRows payload = segmentRows payload := by
  rcases accepted_cases h with ⟨items, rfl⟩ | ⟨members, rfl⟩
  · rfl
  · rw [unwrappedRows_dict h, segmentRows_dict]
    rw [UnderFirstKey] at hunder
    by_cases hdata : hasKey members "data" = true
    · rw [if_pos hdata] at hunder ⊢
      rw [hunder.1, hunder.2, List.append_nil, List.append_nil]
    · have hnodata := rowsUnder_of_not_hasKey (Bool.eq_false_iff.mpr hdata)
      rw [if_neg hdata] at hunder ⊢
      rw [hnodata, List.nil_append]
      by_cases hitems : hasKey members "items" = true
      · rw [if_pos hitems] at hunder ⊢
        rw [hunder, List.append_nil]
      · rw [if_neg hitems] at hunder ⊢
        rw [rowsUnder_of_not_hasKey (Bool.eq_false_iff.mpr hitems), rowsUnder_of_not_hasKey hunder,
          if_neg (by rw [hunder]; decide)]
        rfl

/-- But for a segment with nothing but an empty list under `list`, the reader takes no more rows
than the probe accepts. -/
theorem length_unwrappedRows_le {payload : Payload} (h : Accepted payload)
    (hempty : ¬ EmptyList payload) :
    (unwrappedRows payload).length ≤ (segmentRows payload).length := by
  rcases accepted_cases h with ⟨items, rfl⟩ | ⟨members, rfl⟩
  · exact Nat.le_refl _
  · rw [unwrappedRows_dict h, segmentRows_dict, List.length_append, List.length_append]
    by_cases hdata : hasKey members "data" = true
    · rw [if_pos hdata]
      omega
    · rw [if_neg hdata]
      by_cases hitems : hasKey members "items" = true
      · rw [if_pos hitems]
        omega
      · rw [if_neg hitems]
        by_cases hlist : hasKey members "list" = true
        · have hrows : rowsUnder members "list" ≠ [] := by
            intro hnil
            exact hempty ⟨Bool.eq_false_iff.mpr hdata, Bool.eq_false_iff.mpr hitems, hlist, hnil⟩
          have hpos := List.length_pos_iff.mpr hrows
          rw [if_pos hlist, List.length_singleton]
          omega
        · rw [if_neg hlist]
          exact Nat.zero_le _

/-- **A segment of which the reader takes the rows that the probe accepts has them where the reader
looks.** -/
theorem underFirstKey_of_eq {payload : Payload} (h : Accepted payload)
    (hempty : ¬ EmptyList payload) (heq : unwrappedRows payload = segmentRows payload) :
    UnderFirstKey payload := by
  rcases accepted_cases h with ⟨items, rfl⟩ | ⟨members, rfl⟩
  · trivial
  · rw [unwrappedRows_dict h, segmentRows_dict] at heq
    rw [UnderFirstKey]
    by_cases hdata : hasKey members "data" = true
    · rw [if_pos hdata] at heq ⊢
      exact List.append_eq_nil_iff.mp (List.self_eq_append_right.mp heq)
    · rw [if_neg hdata] at heq ⊢
      rw [rowsUnder_of_not_hasKey (Bool.eq_false_iff.mpr hdata), List.nil_append] at heq
      by_cases hitems : hasKey members "items" = true
      · rw [if_pos hitems] at heq ⊢
        exact List.self_eq_append_right.mp heq
      · rw [if_neg hitems] at heq ⊢
        rw [rowsUnder_of_not_hasKey (Bool.eq_false_iff.mpr hitems), List.nil_append] at heq
        by_contra hlist
        rw [if_pos (by simpa using hlist)] at heq
        refine not_mem_rowsUnder members "list" ?_
        rw [← heq]
        exact List.mem_singleton_self members

/-! ### The probe and the reader -/

omit [StreamRuntime] in
/-- Two ways to take parts of things, of which one never takes more, agree on all of them together
only where they agree on each. -/
theorem eq_of_flatMap_eq {α β : Type} {f g : α → List β} {things : List α}
    (hle : ∀ a ∈ things, (f a).length ≤ (g a).length) (h : things.flatMap f = things.flatMap g) :
    ∀ a ∈ things, f a = g a := by
  have hlength : ∀ things : List α, (∀ a ∈ things, (f a).length ≤ (g a).length) →
      (things.flatMap f).length ≤ (things.flatMap g).length := by
    intro things hle
    induction things with
    | nil => exact Nat.le_refl _
    | cons first things ih =>
        obtain ⟨hfirst, hrest⟩ := List.forall_mem_cons.mp hle
        have hsum := ih hrest
        rw [List.flatMap_cons, List.flatMap_cons, List.length_append, List.length_append]
        omega
  induction things with
  | nil =>
      intro a ha
      exact absurd ha List.not_mem_nil
  | cons first things ih =>
      obtain ⟨hfirst, hrest⟩ := List.forall_mem_cons.mp hle
      have hsum := congrArg List.length h
      have hmore := hlength things hrest
      rw [List.flatMap_cons, List.flatMap_cons, List.length_append, List.length_append] at hsum
      rw [List.flatMap_cons, List.flatMap_cons] at h
      obtain ⟨hsame, hthings⟩ := List.append_inj h (by omega)
      intro a ha
      rcases List.mem_cons.mp ha with rfl | ha
      · exact hsame
      · exact ih hrest hthings a ha

/-- A body that both read in the same segments decodes to the same. -/
theorem parserPayloads_eq {contentType : String} {body : List UInt8}
    (h : ReadAlike adapter contentType body) :
    parserPayloads adapter body = probePayloads contentType body := by
  have hfilled : (linesOf body).filterMap (payloadOf adapter) =
      (filledLines (linesOf body)).filterMap (payloadOf adapter) := by
    rw [filledLines, List.filterMap_filter]
    refine List.filterMap_congr ?_
    intro line _
    cases hblank : line.all isByteSpace with
    | true => rw [payloadOf, hblank, Bool.true_or, if_pos rfl, Bool.not_true, if_neg (by decide)]
    | false => rw [Bool.not_false, if_pos rfl]
  have hmap : ∀ (f : List UInt8 → Option Payload) (texts : List (List UInt8)),
      texts.filterMap f = (texts.map f).filterMap id := by
    intro f texts
    rw [List.filterMap_map]
    rfl
  rw [parserPayloads, hfilled, hmap, h, ← hmap, probePayloads]

/-- Of a body that both read in the same segments, and that the probe accepts, no line raises. -/
theorem quiet_of_readAlike {contentType : String} {body : List UInt8}
    (haccepted : validateDiscoverProbePayload adapter contentType body = .ok ())
    (halike : ReadAlike adapter contentType body) :
    ∀ line ∈ linesOf body, lineRaises adapter line = none := by
  intro line hline
  rw [lineRaises]
  split
  · rfl
  · next hread =>
      have hfilled : line ∈ filledLines (linesOf body) := by
        rw [Bool.or_eq_true, not_or] at hread
        exact List.mem_filter.mpr ⟨hline, by simpa using hread.1⟩
      have hpayload : payloadOf adapter line ∈
          (probeSegments contentType body).map NextFindRuntime.loads := by
        rw [← halike]
        exact List.mem_map_of_mem hfilled
      obtain ⟨segment, hsegment, hsame⟩ := List.mem_map.mp hpayload
      obtain ⟨payload, hok, -⟩ := accepted_of_validate haccepted segment hsegment
      rw [(probeLoads_eq_ok hok).2, payloadOf, if_neg hread] at hsame
      by_contra hraises
      rw [StreamRuntime.loads_raises line hraises] at hsame
      cases hsame

/-- The reader is within its limit of a body of which it yields rows. -/
theorem ParserYields.length_le {body : List UInt8} {expectedPage : ℕ} {rows : List Members}
    (h : ParserYields adapter now body expectedPage rows) :
    body.length ≤ adapter.maxResponseBytes := by
  obtain ⟨warnings, state, hparse, -⟩ := h.2 [body] List.flatten_singleton
  by_contra hlt
  rw [parseChunks, readWithin_whole _ (Nat.lt_of_not_le hlt)] at hparse
  cases hparse

/-- **Of a body that both read in the same segments the reader yields the rows that the probe accepts
if and only if the rows are where it looks for them.**  The rows of the first part are found whatever
else there is; the second leaves out the segment with nothing but an empty list under `list`, which
the reader takes for a row, and which could stand for a row that it misses elsewhere. -/
theorem probeAgrees_iff (contentType : String) (body : List UInt8) (expectedPage : ℕ) :
    (Findable adapter contentType body → ProbeAgrees adapter now contentType body expectedPage) ∧
      (validateDiscoverProbePayload adapter contentType body = .ok () →
        probeRows contentType body ≠ [] → ReadAlike adapter contentType body →
        (∀ payload ∈ probePayloads contentType body, ¬ EmptyList payload) →
        (ProbeAgrees adapter now contentType body expectedPage ↔
          Findable adapter contentType body)) := by
  have hfound : Findable adapter contentType body →
      ProbeAgrees adapter now contentType body expectedPage := by
    rintro ⟨hlength, halike, hunder⟩ haccepted -
    have hrows : parserRows adapter body = probeRows contentType body := by
      rw [parserRows, parserPayloads_eq halike, probeRows]
      refine List.flatMap_congr ?_
      intro payload hpayload
      exact unwrappedRows_eq (accepted_of_mem haccepted payload hpayload) (hunder payload hpayload)
    rw [← hrows]
    exact parseChunks_rows hlength (quiet_of_readAlike haccepted halike) expectedPage
  refine ⟨hfound, ?_⟩
  intro haccepted hfilled halike hempty
  refine ⟨?_, hfound⟩
  intro hagrees
  have hyields := hagrees haccepted hfilled
  have hrows := hyields.1
  rw [parserRows, parserPayloads_eq halike, probeRows] at hrows
  refine ⟨hyields.length_le, halike, ?_⟩
  intro payload hpayload
  have hle : ∀ payload ∈ probePayloads contentType body,
      (unwrappedRows payload).length ≤ (segmentRows payload).length := by
    intro payload hpayload
    exact length_unwrappedRows_le (accepted_of_mem haccepted payload hpayload) (hempty payload hpayload)
  exact underFirstKey_of_eq (accepted_of_mem haccepted payload hpayload) (hempty payload hpayload)
    (eq_of_flatMap_eq hle hrows payload hpayload)

/-! ### Bodies that both read in the same segments -/

section Lines

omit [StreamRuntime]

/-- The pieces of a text but for an empty last one. -/
def trimmed (pieces : List (List UInt8)) : List (List UInt8) :=
  if pieces.getLast? = some [] then pieces.dropLast else pieces

theorem trimmed_cons (piece : List UInt8) {pieces : List (List UInt8)} (h : pieces ≠ []) :
    trimmed (piece :: pieces) = piece :: trimmed pieces := by
  rw [trimmed, trimmed, List.getLast?_cons_of_ne_nil h, List.dropLast_cons_of_ne_nil h]
  split
  · rfl
  · rfl

/-- Without a carriage return, the lines of a text are its pieces between line feeds. -/
theorem splitlinesFrom_eq {text : List UInt8} (h : (13 : UInt8) ∉ text) (line : List UInt8) :
    splitlinesFrom line text = trimmed ((text.splitOn 10).modifyHead (line.reverse ++ ·)) := by
  induction text generalizing line with
  | nil =>
      rw [splitlinesFrom, List.splitOn_nil, List.modifyHead_cons, List.append_nil, trimmed,
        List.getLast?_singleton]
      by_cases hline : line = []
      · rw [hline]
        rfl
      · rw [if_neg hline, if_neg (by simpa using hline)]
  | cons byte text ih =>
      obtain ⟨hbyte, htext⟩ := not_or.mp fun hor => h (List.mem_cons.mpr hor)
      rw [splitlinesFrom, List.splitOn_cons_eq_if_modifyHead]
      · by_cases hfeed : byte = 10
        · rw [if_pos (Or.inl hfeed), if_pos (by simpa using hfeed), ih htext, List.modifyHead_cons,
            List.append_nil, trimmed_cons _ (List.splitOn_ne_nil 10 text)]
          congr 2
          cases text.splitOn 10 <;> rfl
        · have hother : ¬ (byte = 10 ∨ byte = 13) := by
            rintro (rfl | rfl)
            · exact hfeed rfl
            · exact hbyte rfl
          rw [if_neg hother, if_neg (by simpa using hfeed), ih htext]
          congr 1
          cases text.splitOn 10 with
          | nil => rfl
          | cons piece pieces => simp
      · rintro rest rfl -
        exact hbyte rfl

theorem rstripReturns_of_not_mem {line : List UInt8} (h : (13 : UInt8) ∉ line) :
    rstripReturns line = line := by
  have hkeep : line.reverse.dropWhile (· = 13) = line.reverse := by
    rw [List.dropWhile_eq_self_iff]
    intro hpos heq
    refine h (List.mem_reverse.mp ?_)
    rw [← of_decide_eq_true heq]
    exact List.getElem_mem hpos
  rw [rstripReturns, hkeep, List.reverse_reverse]

/-- What is in a piece of a text is in the text. -/
theorem mem_of_mem_splitOn {delimiter byte : UInt8} {text piece : List UInt8}
    (hpiece : piece ∈ text.splitOn delimiter) (hbyte : byte ∈ piece) : byte ∈ text := by
  induction text generalizing piece with
  | nil =>
      rw [List.splitOn_nil, List.mem_singleton] at hpiece
      exact hpiece ▸ hbyte
  | cons first text ih =>
      rw [List.splitOn_cons_eq_if_modifyHead] at hpiece
      split at hpiece
      · rcases List.mem_cons.mp hpiece with rfl | hpiece
        · exact absurd hbyte List.not_mem_nil
        · exact List.mem_cons_of_mem _ (ih hpiece hbyte)
      · cases hsplit : text.splitOn delimiter with
        | nil => exact absurd hsplit (List.splitOn_ne_nil delimiter text)
        | cons head pieces =>
            rw [hsplit] at hpiece ih
            rw [List.modifyHead_cons] at hpiece
            rcases List.mem_cons.mp hpiece with rfl | hpiece
            · rcases List.mem_cons.mp hbyte with rfl | hbyte
              · exact List.mem_cons_self
              · exact List.mem_cons_of_mem _ (ih List.mem_cons_self hbyte)
            · exact List.mem_cons_of_mem _ (ih (List.mem_cons_of_mem _ hpiece) hbyte)

/-- Without a carriage return, the lines of the probe are those of the reader. -/
theorem linesOf_eq_splitlines {body : List UInt8} (h : (13 : UInt8) ∉ body) :
    linesOf body = splitlines body := by
  have hpieces : splitlines body = trimmed (body.splitOn 10) := by
    rw [splitlines, splitlinesFrom_eq h]
    congr 1
    cases body.splitOn 10 <;> rfl
  have hmem : ∀ line ∈ trimmed (body.splitOn 10), (13 : UInt8) ∉ line := by
    intro line hline hreturn
    have hpiece : line ∈ body.splitOn 10 := by
      rw [trimmed] at hline
      split at hline
      · exact (List.dropLast_subset _) hline
      · exact hline
    exact h (mem_of_mem_splitOn hpiece hreturn)
  rw [hpieces, linesOf]
  change (trimmed (body.splitOn 10)).map rstripReturns = trimmed (body.splitOn 10)
  refine (List.map_congr_left ?_).trans (List.map_id _)
  intro line hline
  exact rstripReturns_of_not_mem (hmem line hline)

end Lines

/-- **Lines of JSON with line feeds only** are read in the same segments, where the probe accepts
them. -/
theorem readAlike_of_ndjson {contentType : String} {body : List UInt8}
    (hndjson : isNdjson contentType = true) (hreturn : (13 : UInt8) ∉ body)
    (h : validateDiscoverProbePayload adapter contentType body = .ok ()) :
    ReadAlike adapter contentType body := by
  rw [ReadAlike, probeSegments, if_pos hndjson, linesOf_eq_splitlines hreturn]
  refine List.map_congr_left ?_
  intro line hline
  obtain ⟨hmem, hfilled⟩ := List.mem_filter.mp hline
  rw [validateDiscoverProbePayload, if_pos hndjson] at h
  dsimp only at h
  split at h
  · cases h
  · next hshort =>
      have hlength : ¬ adapter.maxLineBytes < line.length := by
        intro hlt
        exact hshort (List.any_eq_true.mpr ⟨line, hmem, decide_eq_true hlt⟩)
      rw [payloadOf, if_neg (by simpa [hlength] using hfilled)]

/-- **A document on one line** is read in the same segments, where it is not too long. -/
theorem readAlike_of_line {contentType : String} {body : List UInt8}
    (hjson : isNdjson contentType = false) (hreturn : (13 : UInt8) ∉ body)
    (hfeed : (10 : UInt8) ∉ body) (hfilled : body.all isByteSpace = false)
    (hlength : body.length ≤ adapter.maxLineBytes) : ReadAlike adapter contentType body := by
  have hne : body ≠ [] := by
    rintro rfl
    cases hfilled
  have hlines : linesOf body = [body] := by
    rw [linesOf_eq_splitlines hreturn, splitlines, splitlinesFrom_eq hreturn,
      List.splitOn_eq_singleton hfeed]
    exact if_neg (by simpa using hne)
  have hread : ¬ (body.all isByteSpace || adapter.maxLineBytes < body.length) = true := by
    simpa [hfilled] using hlength
  rw [ReadAlike, probeSegments, if_neg (by rw [hjson]; decide), hlines, filledLines,
    List.filter_singleton, hfilled]
  change [payloadOf adapter body] = [NextFindRuntime.loads body]
  rw [payloadOf, if_neg hread]

/-- What the probe does not reject, it accepts. -/
theorem accepted_of_isOk {contentType : String} {body : List UInt8}
    (h : (validateDiscoverProbePayload adapter contentType body).isOk = true) :
    validateDiscoverProbePayload adapter contentType body = .ok () := by
  obtain ⟨_, hvalidate⟩ := exists_eq_ok h
  exact hvalidate

end Probe

/-! ### A list under the first key -/

/-- A list of one film, under the key `data`. -/
def dataBody : List UInt8 :=
  asciiBytes "\x7b\"data\":[\x7b\"id\":2,\"type\":\"movie\",\"title\":\"A\"\x7d]\x7d"

/-- The runtime, as far as the list needs it. -/
@[reducible] def dataRuntime : StreamRuntime where
  toNextFindRuntime :=
    { sampleRuntime with
      loads := fun line =>
        if line = dataBody then some (.dict [("data", .list [.dict (filmRow 2 "A")])]) else none }
  loadsRaises _ := none
  loads_raises _ hraises := absurd rfl hraises

/-- **A list that the probe accepts and the reader finds**: the reader yields its row. -/
theorem probeAgrees_data :
    @ParserYields dataRuntime sampleAdapter 0 dataBody 1
        (@probeRows dataRuntime "application/json" dataBody) ∧
      (@ProbeAgrees dataRuntime sampleAdapter 0 "application/json" dataBody 1 ↔
        @Findable dataRuntime sampleAdapter "application/json" dataBody) := by
  let _ := dataRuntime
  have haccepted : validateDiscoverProbePayload sampleAdapter "application/json" dataBody = .ok () :=
    accepted_of_isOk (by decide +kernel)
  have hfilled : probeRows "application/json" dataBody ≠ [] := by
    intro hnil
    have hfound : (probeRows "application/json" dataBody).length = 1 := by decide +kernel
    rw [hnil] at hfound
    cases hfound
  have hpayloads : probePayloads "application/json" dataBody =
      [.dict [("data", .list [.dict (filmRow 2 "A")])]] := by
    rfl
  have halike : ReadAlike sampleAdapter "application/json" dataBody :=
    readAlike_of_line (by decide +kernel) (by decide +kernel) (by decide +kernel)
      (by decide +kernel) (by decide +kernel)
  have hfindable : Findable sampleAdapter "application/json" dataBody := by
    refine ⟨by decide +kernel, halike, ?_⟩
    rw [hpayloads]
    intro payload hpayload
    obtain rfl := List.mem_singleton.mp hpayload
    exact ⟨rfl, rfl⟩
  have hagrees := @probeAgrees_iff dataRuntime sampleAdapter 0 "application/json" dataBody 1
  refine ⟨hagrees.1 hfindable haccepted hfilled, hagrees.2 haccepted hfilled halike ?_⟩
  rw [hpayloads]
  intro payload hpayload
  obtain rfl := List.mem_singleton.mp hpayload
  exact fun hempty => absurd hempty.1 (by decide)

/-! ### A list under another key -/

/-- A list of one film, under the key `list`. -/
def listBody : List UInt8 :=
  asciiBytes "\x7b\"list\":[\x7b\"id\":2,\"type\":\"movie\",\"title\":\"A\"\x7d]\x7d"

/-- The runtime, as far as the list needs it. -/
@[reducible] def listRuntime : StreamRuntime where
  toNextFindRuntime :=
    { sampleRuntime with
      loads := fun line =>
        if line = listBody then some (.dict [("list", .list [.dict (filmRow 2 "A")])]) else none }
  loadsRaises _ := none
  loads_raises _ hraises := absurd rfl hraises

/-- **A list that the probe accepts and the reader does not find**: the reader takes the whole
document for a row. -/
theorem not_probeAgrees :
    ¬ @ProbeAgrees listRuntime sampleAdapter 0 "application/json" listBody 1 := by
  let _ := listRuntime
  intro h
  have haccepted : validateDiscoverProbePayload sampleAdapter "application/json" listBody = .ok () :=
    accepted_of_isOk (by decide +kernel)
  have hfound : (probeRows "application/json" listBody).map (List.map Prod.fst) =
      [["id", "type", "title"]] := by
    decide +kernel
  have hread : (parserRows sampleAdapter listBody).map (List.map Prod.fst) = [["list"]] := by
    decide +kernel
  have hfilled : probeRows "application/json" listBody ≠ [] := by
    intro hnil
    rw [hnil] at hfound
    cases hfound
  have hsame := (h haccepted hfilled).1
  rw [hsame, hfound] at hread
  exact absurd hread (by decide)

end LibSeek.Adapters
