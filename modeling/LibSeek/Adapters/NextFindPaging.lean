/-
Rows that are no items.

A source serves a list of rows in pages of a fixed size.  The adapter counts the items of a page
and not its rows, so that a page with a row that is no item looks like the last one.  This module
says exactly when the whole list is found nevertheless.

Main definitions:

* `Adapters.rowsOfLine` — the raw rows of a line, of which some may be no items;
* `Adapters.Serves` — a source that serves lists of rows in pages;
* `Adapters.RowsIsolated` — **an invalid row costs nothing but itself**;
* `Adapters.PagesWhole`, `Adapters.PagesQuiet` — the pages on which that is so.

Main results:

* `Adapters.listPages_serves` — the loop is a reader of numbered pages;
* `Adapters.listMissingMedia_raises` — a line that raises is the exception of the discovery;
* `Adapters.listMissingMedia_isolated` — **an invalid row costs nothing but itself exactly when
  every page before the last is whole, and no line raises**.
-/

import LibSeek.Adapters.NextFindStream
import LibSeek.Lib.Paging

set_option relaxedAutoImplicit false
set_option autoImplicit false

namespace LibSeek.Adapters

open LibSeek.Core LibSeek.Lib LibSeek.Models LibSeek.Schemas

/-! ### Merging -/

/-- The keys after an item was merged: its own, and those that were there. -/
theorem isSome_get?_mergeDiscoveredItem (merged : Table MediaItemData) (item : MediaItemData)
    (key : DiscoveryKey) :
    ((mergeDiscoveredItem merged item).get? key).isSome = true ↔
      key = item.key ∨ (merged.get? key).isSome = true := by
  have hsave : ∀ x : MediaItemData, x.key = item.key → (((merged.save x).get? key).isSome = true ↔
      key = item.key ∨ (merged.get? key).isSome = true) := by
    intro x hx
    rw [Table.get?_save, key_mediaItemData, hx]
    by_cases hkey : key = item.key
    · simp [hkey]
    · simp [hkey]
  rw [mergeDiscoveredItem]
  split
  · split
    · exact hsave _ rfl
    · exact hsave _ rfl
  · exact hsave _ rfl

/-- The keys after a list of items was merged. -/
theorem isSome_get?_foldl_merge (items : List MediaItemData) (merged : Table MediaItemData)
    (key : DiscoveryKey) :
    ((items.foldl mergeDiscoveredItem merged).get? key).isSome = true ↔
      (∃ item ∈ items, item.key = key) ∨ (merged.get? key).isSome = true := by
  induction items generalizing merged with
  | nil => simp
  | cons item items ih =>
      rw [List.foldl_cons, ih, isSome_get?_mergeDiscoveredItem, List.exists_mem_cons_iff]
      constructor
      · rintro (h | rfl | h)
        · exact Or.inl (Or.inr h)
        · exact Or.inl (Or.inl rfl)
        · exact Or.inr h
      · rintro ((rfl | h) | h)
        · exact Or.inr (Or.inl rfl)
        · exact Or.inl h
        · exact Or.inr (Or.inr h)

/-- An item that is there has a key that is there. -/
theorem exists_key_iff {merged : Table MediaItemData} {key : DiscoveryKey} :
    (∃ found ∈ merged, found.key = key) ↔ (merged.get? key).isSome = true := by
  rw [Option.isSome_iff_exists]
  constructor
  · rintro ⟨found, hfound, rfl⟩
    exact ⟨found, Table.get?_key hfound⟩
  · rintro ⟨found, hfound⟩
    exact ⟨found, Table.mem_of_get?_eq_some hfound, Table.key_of_get?_eq_some hfound⟩

/-- An item is one of a kind, but for its countries, which may be those of an earlier item. -/
def UpToCountries (P : MediaItemData → Prop) (found : MediaItemData) : Prop :=
  ∃ item, P item ∧ found = { item with countryCodes := found.countryCodes }

/-- What is there after a list of items was merged is, up to countries, what was merged. -/
theorem upToCountries_foldl_merge {P : MediaItemData → Prop} {items : List MediaItemData}
    {merged : Table MediaItemData} (hitems : ∀ item ∈ items, UpToCountries P item)
    (hmerged : ∀ found ∈ merged, UpToCountries P found) :
    ∀ found ∈ items.foldl mergeDiscoveredItem merged, UpToCountries P found := by
  induction items generalizing merged with
  | nil => exact hmerged
  | cons item items ih =>
      rw [List.foldl_cons]
      refine ih (fun x hx => hitems x (List.mem_cons_of_mem _ hx)) ?_
      have hitem := hitems item List.mem_cons_self
      rw [mergeDiscoveredItem]
      split
      · split
        · refine Table.forall_mem_save hmerged ?_
          obtain ⟨x, hx, heq⟩ := hitem
          refine ⟨x, hx, ?_⟩
          rw [heq]
        · exact Table.forall_mem_save hmerged hitem
      · exact Table.forall_mem_save hmerged hitem

/-! ### Rows -/

/-- A raw row: a dictionary, or something that is none. -/
abbrev Row := Option Members

/-- The row that a value is. -/
def rowOf : Payload → Row
  | .dict members => some members
  | _ => none

/-- The rows that the payload of a line holds. -/
def rowsOfPayload (payload : Payload) : List Row :=
  if isDiscoverControlSegment payload then []
  else
    match payload with
    | .list items => items.map rowOf
    | .dict members =>
        match (Members.get? members "data").getD
          ((Members.get? members "items").getD (.dict members)) with
        | .list items => items.map rowOf
        | .dict data => [some data]
        | _ => []
    | _ => [none]

theorem rowsOfPayload_of_control {payload : Payload}
    (h : isDiscoverControlSegment payload = true) : rowsOfPayload payload = [] := by
  unfold rowsOfPayload
  rw [if_pos h]

section Source

variable [StreamRuntime] (adapter : NextFindAdapter) (now : DateTime)

/-- The payload of a line that is read; nothing where the line is not read. -/
def payloadOf (line : List UInt8) : Option Payload :=
  if line.all isByteSpace || adapter.maxLineBytes < line.length then none
  else NextFindRuntime.loads line

/-- The rows of a line.  A line that cannot be read is a row that is no item. -/
def rowsOfLine (line : List UInt8) : List Row :=
  if line.all isByteSpace then []
  else
    match payloadOf adapter line with
    | none => [none]
    | some payload => rowsOfPayload payload

/-- The items of rows. -/
def itemsOf (rows : List Row) : List MediaItemData :=
  rows.filterMap fun row => row.bind (itemOf now)

/-- A line that says nothing of other pages. -/
def SaysNothing (o : Observation) : Prop :=
  o.currentPages = [] ∧ o.totalPages = [] ∧ o.nextCursors = []

omit [StreamRuntime] in
/-- The rows of a page. -/
def pageOf (size : ℕ) (rows : List Row) (page : ℕ) : List Row :=
  (rows.drop ((page - 1) * size)).take size

omit [StreamRuntime] in
/-- The request for a page, of a source without cursors. -/
def discoverRequest (mediaType : MissingMediaType) (page : ℕ) : DiscoverParams where
  type := mediaType
  page := page
  pageSize := adapter.discoverPageSize
  cursor := none

/-- **A source that serves a list of rows for each type**, in pages of the size that it is asked
for, without metadata. -/
structure Serves (source : DiscoverSource) (rows : MissingMediaType → List Row) : Prop where
  login : ∀ mediaType, source.authenticate mediaType = .ok ()
  page : ∀ mediaType page, 1 ≤ page → ∃ status contentType chunks,
    source.discover (discoverRequest adapter mediaType page) 1 =
      .answered status contentType chunks none ∧
    (200 ≤ status ∧ status < 300) ∧ requireJsonContent contentType = .ok () ∧
    chunks.flatten.length ≤ adapter.maxResponseBytes ∧
    (linesOf chunks.flatten).flatMap (rowsOfLine adapter) =
      pageOf adapter.discoverPageSize (rows mediaType) page ∧
    ∀ line ∈ linesOf chunks.flatten, ∀ payload, payloadOf adapter line = some payload →
      SaysNothing (observePagination payload)

/-- A page on which no line raises. -/
def QuietPage (source : DiscoverSource) (mediaType : MissingMediaType) (page : ℕ) : Prop :=
  ∀ status contentType chunks broken,
    source.discover (discoverRequest adapter mediaType page) 1 =
      .answered status contentType chunks broken →
    ∀ line ∈ linesOf chunks.flatten, lineRaises adapter line = none

/-! ### What is read of a page -/

omit [StreamRuntime] in
theorem dictionaries_eq (items : List Payload) :
    dictionaries items = (items.map rowOf).filterMap id := by
  rw [dictionaries, List.filterMap_map]
  rfl

omit [StreamRuntime] in
/-- What is unwrapped of a payload are the rows of it that are dictionaries. -/
theorem unwrapPayload_eq {payload : Payload} (h : isDiscoverControlSegment payload = false) :
    unwrapPayload payload = (rowsOfPayload payload).filterMap id := by
  cases payload with
  | list items =>
      simp only [rowsOfPayload, h, Bool.false_eq_true, if_false]
      exact dictionaries_eq items
  | dict members =>
      simp only [rowsOfPayload, unwrapPayload, h, Bool.false_eq_true, if_false]
      cases (Members.get? members "data").getD
        ((Members.get? members "items").getD (.dict members)) with
      | list items => exact dictionaries_eq items
      | dict data => rfl
      | null => rfl
      | bool value => rfl
      | int value => rfl
      | float text => rfl
      | str value => rfl
  | null => rfl
  | bool value => rfl
  | int value => rfl
  | float text => rfl
  | str value => rfl

/-- The records and the metadata after the rows of a payload. -/
theorem foldl_consumeRow (lineNumber : ℕ) (rows : List Members) (parsed : Parsed) :
    (rows.foldl (fun parsed row => parsed.append (consumeRow now lineNumber row)) parsed).records =
        parsed.records ++ rows.filterMap (itemOf now) ∧
      (SaysNothing parsed.observed →
        SaysNothing (rows.foldl (fun parsed row => parsed.append (consumeRow now lineNumber row))
          parsed).observed) := by
  induction rows generalizing parsed with
  | nil => simp
  | cons row rows ih =>
      rw [List.foldl_cons]
      obtain ⟨hrecords, hobserved⟩ := ih (parsed.append (consumeRow now lineNumber row))
      have hrow : (consumeRow now lineNumber row).records = (itemOf now row).toList ∧
          (consumeRow now lineNumber row).observed = {} := by
        rw [consumeRow]
        cases itemOf now row <;> exact ⟨rfl, rfl⟩
      constructor
      · rw [hrecords, Parsed.append, hrow.1, List.append_assoc, List.filterMap_cons]
        cases itemOf now row <;> rfl
      · rintro ⟨hcurrent, htotal, hcursors⟩
        refine hobserved ?_
        rw [Parsed.append, hrow.2]
        exact ⟨by simp [Observation.append, hcurrent], by simp [Observation.append, htotal],
          by simp [Observation.append, hcursors]⟩

/-- What is read of a line are the items of its rows. -/
theorem consume_spec (lineNumber : ℕ) (line : List UInt8)
    (hbare : ∀ payload, payloadOf adapter line = some payload →
      SaysNothing (observePagination payload)) :
    (consume adapter now lineNumber line).records = itemsOf now (rowsOfLine adapter line) ∧
      SaysNothing (consume adapter now lineNumber line).observed := by
  rw [payloadOf] at hbare
  rw [consume, rowsOfLine, payloadOf]
  by_cases hblank : line.all isByteSpace = true
  · rw [if_pos hblank, if_pos hblank]
    exact ⟨rfl, rfl, rfl, rfl⟩
  · rw [if_neg hblank, if_neg hblank]
    by_cases hlong : adapter.maxLineBytes < line.length
    · rw [if_pos hlong, if_pos (by simp [hlong])]
      exact ⟨rfl, rfl, rfl, rfl⟩
    · have hread : ¬ (line.all isByteSpace || decide (adapter.maxLineBytes < line.length)) = true := by
        simp [hblank, hlong]
      rw [if_neg hread] at hbare
      rw [if_neg hlong, if_neg hread]
      cases hloads : NextFindRuntime.loads line with
      | none => exact ⟨rfl, rfl, rfl, rfl⟩
      | some payload =>
          have hnothing := hbare payload hloads
          dsimp only
          by_cases hcontrol : isDiscoverControlSegment payload = true
          · rw [if_pos hcontrol, rowsOfPayload_of_control hcontrol]
            exact ⟨rfl, hnothing⟩
          · rw [if_neg hcontrol]
            obtain ⟨hrecords, hobserved⟩ := foldl_consumeRow now lineNumber (unwrapPayload payload)
              { observed := observePagination payload }
            refine ⟨?_, hobserved hnothing⟩
            rw [hrecords, unwrapPayload_eq (by simpa using hcontrol), itemsOf, List.nil_append,
              List.filterMap_filterMap]
            rfl

/-- What is read of the lines of a page are the items of their rows. -/
theorem consumeAll_spec (lineNumber : ℕ) (lines : List (List UInt8))
    (hbare : ∀ line ∈ lines, ∀ payload, payloadOf adapter line = some payload →
      SaysNothing (observePagination payload)) :
    (consumeAll adapter now lineNumber lines).records =
        itemsOf now (lines.flatMap (rowsOfLine adapter)) ∧
      SaysNothing (consumeAll adapter now lineNumber lines).observed := by
  induction lines generalizing lineNumber with
  | nil => exact ⟨rfl, rfl, rfl, rfl⟩
  | cons line lines ih =>
      obtain ⟨hrecords, hcurrent, htotal, hcursors⟩ :=
        consume_spec adapter now lineNumber line (hbare line List.mem_cons_self)
      obtain ⟨hrest, hcurrent', htotal', hcursors'⟩ :=
        ih (lineNumber + 1) fun l hl => hbare l (List.mem_cons_of_mem _ hl)
      rw [consumeAll]
      refine ⟨?_, ?_, ?_, ?_⟩
      · rw [Parsed.append, hrecords, hrest, List.flatMap_cons, itemsOf, itemsOf, itemsOf,
          List.filterMap_append]
      · simp only [Parsed.append, Observation.append, hcurrent, hcurrent', List.append_nil]
      · simp only [Parsed.append, Observation.append, htotal, htotal', List.append_nil]
      · simp only [Parsed.append, Observation.append, hcursors, hcursors', List.append_nil]

omit [StreamRuntime] in
/-- A page that says nothing of other pages has no metadata. -/
theorem paginationState_of_saysNothing {o : Observation} (h : SaysNothing o) (page : ℕ) :
    (paginationState o page).2.nextCursor = none ∧ (paginationState o page).2.totalPages = none := by
  obtain ⟨hcurrent, htotal, hcursors⟩ := h
  have hpages : onlyValue ([] : List Int) = none := rfl
  have hnext : (onlyValue ([] : List (Option String))).join = none := rfl
  simp only [paginationState, hcurrent, htotal, hcursors, hpages, hnext, ite_self, and_self]

/-- The valid items of a page of a list of rows. -/
def validPage (size : ℕ) (rows : List Row) (page : ℕ) : List MediaItemData :=
  itemsOf now (pageOf size rows page)

variable {adapter} {source : DiscoverSource} {rows : MissingMediaType → List Row}

/-- **A page of a source that serves pages**, read at the first attempt: its valid items, and
nothing of other pages. -/
theorem readDiscoverPage_serves (h : Serves adapter source rows) (mediaType : MissingMediaType)
    {page : ℕ} (hpage : 1 ≤ page) (hquiet : QuietPage adapter source mediaType page) :
    ∃ warnings state, readDiscoverPage adapter now source (discoverRequest adapter mediaType page)
        (adapter.streamRetryAttempts + 1) adapter.streamRetryAttempts 1 false false =
          .ok (validPage now adapter.discoverPageSize (rows mediaType) page, warnings, state) ∧
      state.nextCursor = none ∧ state.totalPages = none := by
  obtain ⟨status, contentType, chunks, hreply, hstatus, hjson, hlength, hrows, hbare⟩ :=
    h.page mediaType page hpage
  obtain ⟨hrecords, hnothing⟩ := consumeAll_spec adapter now 1 (linesOf chunks.flatten) hbare
  rw [hrows] at hrecords
  have hparse : parseChunks adapter now chunks none page =
      .ok (validPage now adapter.discoverPageSize (rows mediaType) page,
        (consumeAll adapter now 1 (linesOf chunks.flatten)).warnings ++
          (paginationState (consumeAll adapter now 1 (linesOf chunks.flatten)).observed page).1,
        (paginationState (consumeAll adapter now 1 (linesOf chunks.flatten)).observed page).2) := by
    rw [parseChunks_eq_parseStream chunks none page (hquiet _ _ _ _ hreply), parseStream,
      if_neg (not_lt.mpr hlength)]
    dsimp only
    rw [hrecords]
    rfl
  have hattempt : ∀ later, attemptPage adapter now
      (.answered status contentType chunks none) page later =
        .read (validPage now adapter.discoverPageSize (rows mediaType) page)
          ((consumeAll adapter now 1 (linesOf chunks.flatten)).warnings ++
            (paginationState (consumeAll adapter now 1 (linesOf chunks.flatten)).observed page).1)
          (paginationState (consumeAll adapter now 1 (linesOf chunks.flatten)).observed page).2 := by
    intro later
    have hfound : ¬ (status = 404 ∧ later = true) := by omega
    rw [attemptPage, if_neg hfound, raiseForStatus, if_pos hstatus, hjson, hparse]
  have hnumber : (discoverRequest adapter mediaType page).page = page := rfl
  rw [readDiscoverPage, hreply, hnumber, hattempt]
  exact ⟨_, _, rfl, paginationState_of_saysNothing hnothing page⟩

/-- A page on which a line raises. -/
theorem readDiscoverPage_raises (h : Serves adapter source rows) (mediaType : MissingMediaType)
    {page : ℕ} (hpage : 1 ≤ page) (hloud : ¬ QuietPage adapter source mediaType page) :
    ∃ e, readDiscoverPage adapter now source (discoverRequest adapter mediaType page)
        (adapter.streamRetryAttempts + 1) adapter.streamRetryAttempts 1 false false = .error e := by
  obtain ⟨status, contentType, chunks, hreply, hstatus, hjson, hlength, -, -⟩ :=
    h.page mediaType page hpage
  have hline : ∃ line ∈ linesOf chunks.flatten, lineRaises adapter line ≠ none := by
    by_contra hnone
    push Not at hnone
    refine hloud fun status' contentType' chunks' broken' hreply' => ?_
    rw [hreply] at hreply'
    cases hreply'
    exact hnone
  obtain ⟨exception, hparse⟩ := @parseChunks_raises _ adapter now chunks page hlength hline
  have hattempt : ∀ later, attemptPage adapter now
      (.answered status contentType chunks none) page later = .raised (.other exception) := by
    intro later
    have hfound : ¬ (status = 404 ∧ later = true) := by omega
    rw [attemptPage, if_neg hfound, raiseForStatus, if_pos hstatus, hjson, hparse]
  have hnumber : (discoverRequest adapter mediaType page).page = page := rfl
  rw [readDiscoverPage, hreply, hnumber, hattempt]
  exact ⟨_, rfl⟩

/-- A page on which a line raises has rows. -/
theorem pageOf_ne_nil_of_loud (h : Serves adapter source rows) {mediaType : MissingMediaType}
    {page : ℕ} (hpage : 1 ≤ page) (hloud : ¬ QuietPage adapter source mediaType page) :
    pageOf adapter.discoverPageSize (rows mediaType) page ≠ [] := by
  obtain ⟨status, contentType, chunks, hreply, -, -, -, hrows, -⟩ := h.page mediaType page hpage
  intro hnil
  refine hloud fun status' contentType' chunks' broken' hreply' line hline => ?_
  rw [hreply] at hreply'
  cases hreply'
  rw [hnil, List.flatMap_eq_nil_iff] at hrows
  have hnone := hrows line hline
  -- a line that raises is not blank, and is a row that is no item
  by_contra hraises
  rw [lineRaises] at hraises
  split at hraises
  · exact hraises rfl
  · rename_i hread
    have hloads := StreamRuntime.loads_raises line hraises
    rw [rowsOfLine, payloadOf, if_neg hread, hloads] at hnone
    simp only [Bool.or_eq_true, not_or] at hread
    rw [if_neg hread.1] at hnone
    cases hnone

/-- **The loop is a reader of numbered pages.** -/
theorem listPages_serves (h : Serves adapter source rows) (mediaType : MissingMediaType)
    {pages : ℕ → List MediaItemData}
    (hpages : pages = validPage now adapter.discoverPageSize (rows mediaType))
    (fuel : ℕ) {page : ℕ} (hpage : 1 ≤ page) (seenPages : List (List String))
    (listing : Listing)
    (hquiet : ∀ asked ∈ (Paging.walk pages MediaItemData.sourceItemId adapter.discoverPageSize fuel
      page seenPages).1, QuietPage adapter source mediaType asked) :
    ∃ warnings, listPages adapter now source mediaType fuel page none [] seenPages listing =
      .ok
        { merged := ((Paging.walk pages MediaItemData.sourceItemId adapter.discoverPageSize fuel page
            seenPages).2.flatMap pages).foldl mergeDiscoveredItem listing.merged
          warnings := warnings
          requests := listing.requests ++ (Paging.walk pages MediaItemData.sourceItemId
            adapter.discoverPageSize fuel page seenPages).1.map
              (discoverRequest adapter mediaType) } := by
  -- on the fuel, along the walk: the page is read, and the loop goes on where the walk does
  induction fuel generalizing page seenPages listing with
  | zero =>
      rw [listPages, Paging.walk]
      exact ⟨_, by rw [List.map_nil, List.append_nil]; rfl⟩
  | succ fuel ih =>
      obtain ⟨warnings, state, hread, hcursor, htotal⟩ :=
        readDiscoverPage_serves now h mediaType hpage (hquiet page Paging.mem_walk_self)
      rw [discoverRequest, ← hpages] at hread
      rw [Paging.walk] at hquiet
      rw [listPages, Paging.walk]
      dsimp only at hquiet ⊢
      rw [hread]
      dsimp only
      by_cases hrepeats : (pages page).map MediaItemData.sourceItemId ≠ [] ∧
          (pages page).map MediaItemData.sourceItemId ∈ seenPages
      · rw [if_pos hrepeats, if_pos hrepeats]
        exact ⟨_, rfl⟩
      · rw [if_neg hrepeats] at hquiet
        rw [if_neg hrepeats, if_neg hrepeats, hcursor, htotal]
        dsimp only
        by_cases hshort : (pages page).length < adapter.discoverPageSize
        · rw [if_pos hshort, if_pos hshort]
          refine ⟨listing.warnings ++ warnings, ?_⟩
          rw [List.flatMap_singleton]
          rfl
        · rw [if_neg hshort] at hquiet
          rw [if_neg hshort, if_neg hshort]
          obtain ⟨rest, hrest⟩ := ih (show 1 ≤ page + 1 by omega) _
            { merged := (pages page).foldl mergeDiscoveredItem listing.merged
              warnings := listing.warnings ++ warnings
              requests := listing.requests ++ [discoverRequest adapter mediaType page] }
            fun asked hasked => hquiet asked (List.mem_cons_of_mem _ hasked)
          refine ⟨rest, hrest.trans ?_⟩
          rw [List.flatMap_cons, List.foldl_append, List.map_cons, List.append_assoc,
            List.singleton_append]

/-- **The loop raises** where a line raises on a page that it comes to. -/
theorem listPages_raises (h : Serves adapter source rows) {mediaType : MissingMediaType}
    {pages : ℕ → List MediaItemData}
    (hpages : pages = validPage now adapter.discoverPageSize (rows mediaType))
    (fuel : ℕ) {page : ℕ} (hpage : 1 ≤ page) (seenPages : List (List String))
    (listing : Listing) {asked : ℕ}
    (hasked : asked ∈ (Paging.walk pages MediaItemData.sourceItemId adapter.discoverPageSize fuel
      page seenPages).1) (hloud : ¬ QuietPage adapter source mediaType asked) :
    ∃ e, listPages adapter now source mediaType fuel page none [] seenPages listing = .error e := by
  -- on the fuel: this page raises, or the one that does is still to come
  induction fuel generalizing page seenPages listing with
  | zero =>
      rw [Paging.walk] at hasked
      exact absurd hasked List.not_mem_nil
  | succ fuel ih =>
      by_cases hquiet : QuietPage adapter source mediaType page
      · have hother : asked ≠ page := fun hsame => hloud (hsame ▸ hquiet)
        obtain ⟨warnings, state, hread, hcursor, htotal⟩ :=
          readDiscoverPage_serves now h mediaType hpage hquiet
        rw [discoverRequest, ← hpages] at hread
        rw [Paging.walk] at hasked
        rw [listPages]
        dsimp only at hasked ⊢
        rw [hread]
        dsimp only
        by_cases hrepeats : (pages page).map MediaItemData.sourceItemId ≠ [] ∧
            (pages page).map MediaItemData.sourceItemId ∈ seenPages
        · rw [if_pos hrepeats] at hasked
          exact absurd (List.mem_singleton.mp hasked) hother
        · rw [if_neg hrepeats] at hasked
          rw [if_neg hrepeats, hcursor, htotal]
          dsimp only
          by_cases hshort : (pages page).length < adapter.discoverPageSize
          · rw [if_pos hshort] at hasked
            exact absurd (List.mem_singleton.mp hasked) hother
          · rw [if_neg hshort] at hasked
            rw [if_neg hshort]
            exact ih (show 1 ≤ page + 1 by omega) _ _
              ((List.mem_cons.mp hasked).resolve_left hother)
      · obtain ⟨e, hread⟩ := readDiscoverPage_raises now h mediaType hpage hquiet
        rw [discoverRequest] at hread
        rw [listPages]
        dsimp only
        rw [hread]
        exact ⟨e, rfl⟩

/-! ### Isolation -/

/-- **An invalid row costs nothing but itself**: of every page within the limit every valid item is
found, once, and nothing else is; and every page that has rows is asked for. -/
structure RowsIsolated (adapter : NextFindAdapter) (now : DateTime)
    (rows : MissingMediaType → List Row) (listing : Listing) : Prop where
  complete : ∀ mediaType page, 1 ≤ page → page ≤ DISCOVER_PAGE_LIMIT →
    ∀ item ∈ validPage now adapter.discoverPageSize (rows mediaType) page,
      ∃ found ∈ listing.merged.rows, found.key = item.key
  sound : ∀ found ∈ listing.merged.rows, UpToCountries (fun item => ∃ mediaType page, 1 ≤ page ∧
    page ≤ DISCOVER_PAGE_LIMIT ∧
    item ∈ validPage now adapter.discoverPageSize (rows mediaType) page) found
  once : (listing.merged.rows.map MediaItemData.key).Nodup
  asked : ∀ mediaType page, 1 ≤ page → page ≤ DISCOVER_PAGE_LIMIT →
    pageOf adapter.discoverPageSize (rows mediaType) page ≠ [] →
    discoverRequest adapter mediaType page ∈ listing.requests

/-- **The pages on which that is so**: every row of every page before the last is a valid item, no
page before the last has the source identifiers of an earlier one, and where the last page has,
its items are also on a page that has not. -/
structure PagesWhole (adapter : NextFindAdapter) (now : DateTime)
    (rows : MissingMediaType → List Row) : Prop where
  valid : ∀ mediaType page later, 1 ≤ page → page < later → later ≤ DISCOVER_PAGE_LIMIT →
    pageOf adapter.discoverPageSize (rows mediaType) later ≠ [] →
    ∀ row ∈ pageOf adapter.discoverPageSize (rows mediaType) page,
      (row.bind (itemOf now)).isSome = true
  fresh : ∀ mediaType page later, 1 ≤ page → page < later → later ≤ DISCOVER_PAGE_LIMIT →
    pageOf adapter.discoverPageSize (rows mediaType) later ≠ [] →
    ¬ Paging.Repeats (validPage now adapter.discoverPageSize (rows mediaType))
      MediaItemData.sourceItemId page
  elsewhere : ∀ mediaType page, 1 ≤ page → page ≤ DISCOVER_PAGE_LIMIT →
    Paging.Repeats (validPage now adapter.discoverPageSize (rows mediaType))
      MediaItemData.sourceItemId page →
    ∀ item ∈ validPage now adapter.discoverPageSize (rows mediaType) page,
      ∃ mediaType' page', 1 ≤ page' ∧ page' ≤ DISCOVER_PAGE_LIMIT ∧
        ¬ Paging.Repeats (validPage now adapter.discoverPageSize (rows mediaType'))
          MediaItemData.sourceItemId page' ∧
        ∃ item' ∈ validPage now adapter.discoverPageSize (rows mediaType') page',
          item'.key = item.key

/-- **The pages on which no line raises**, within the limit. -/
def PagesQuiet (adapter : NextFindAdapter) (source : DiscoverSource) : Prop :=
  ∀ mediaType page, 1 ≤ page → page ≤ DISCOVER_PAGE_LIMIT → QuietPage adapter source mediaType page

/-- The reader of the pages of one type, as far as the limit goes. -/
def readerOf (adapter : NextFindAdapter) (now : DateTime) (rows : List Row) : List ℕ × List ℕ :=
  Paging.walk (validPage now adapter.discoverPageSize rows) MediaItemData.sourceItemId
    adapter.discoverPageSize DISCOVER_PAGE_LIMIT 1 []

/-- No line raises on a page that the reader of a type asks for. -/
def QuietReader (adapter : NextFindAdapter) (now : DateTime) (source : DiscoverSource)
    (rows : MissingMediaType → List Row) (mediaType : MissingMediaType) : Prop :=
  ∀ asked ∈ (readerOf adapter now (rows mediaType)).1, QuietPage adapter source mediaType asked

/-- The listing of one type: the items of the pages that are kept, and the pages asked for. -/
theorem listMissingMediaType_serves (h : Serves adapter source rows)
    (mediaType : MissingMediaType) (hquiet : QuietReader adapter now source rows mediaType) :
    ∃ listing, listMissingMediaType adapter now source mediaType = .ok listing ∧
      listing.merged = ((readerOf adapter now (rows mediaType)).2.flatMap
        (validPage now adapter.discoverPageSize (rows mediaType))).foldl mergeDiscoveredItem ∅ ∧
      listing.requests = (readerOf adapter now (rows mediaType)).1.map
        (discoverRequest adapter mediaType) := by
  obtain ⟨warnings, hlisting⟩ := listPages_serves now h mediaType rfl DISCOVER_PAGE_LIMIT
    (le_refl 1) [] {} hquiet
  exact ⟨_, hlisting, rfl, List.nil_append _⟩

theorem listMissingMediaType_raises (h : Serves adapter source rows) {mediaType : MissingMediaType}
    (hloud : ¬ QuietReader adapter now source rows mediaType) :
    ∃ e, listMissingMediaType adapter now source mediaType = .error e := by
  rw [QuietReader] at hloud
  push Not at hloud
  obtain ⟨asked, hasked, hloud⟩ := hloud
  exact listPages_raises now h rfl DISCOVER_PAGE_LIMIT (le_refl 1) [] {} hasked hloud

/-- **The discovery raises** where a line raises on a page that the reader of a type asks for. -/
theorem listMissingMedia_raises (h : Serves adapter source rows) {mediaType : MissingMediaType}
    (hloud : ¬ QuietReader adapter now source rows mediaType) :
    ∃ e, listMissingMedia adapter now source = .error e := by
  obtain ⟨e, herror⟩ := listMissingMediaType_raises now h hloud
  cases mediaType with
  | movies =>
      refine ⟨e, ?_⟩
      simp only [listMissingMedia, listMore, h.login, herror]
      rfl
  | series =>
      cases hmovies : listMissingMediaType adapter now source .movies with
      | error e' =>
          refine ⟨e', ?_⟩
          simp only [listMissingMedia, listMore, h.login, hmovies]
          rfl
      | ok movies =>
          refine ⟨e, ?_⟩
          simp only [listMissingMedia, listMore, h.login, hmovies, herror]
          rfl

/-- A page of a type that is within the limit and that the reader keeps. -/
def IsKept (adapter : NextFindAdapter) (now : DateTime) (rows : MissingMediaType → List Row)
    (mediaType : MissingMediaType) (page : ℕ) : Prop :=
  1 ≤ page ∧ page ≤ DISCOVER_PAGE_LIMIT ∧
    Paging.Kept (validPage now adapter.discoverPageSize (rows mediaType))
      MediaItemData.sourceItemId adapter.discoverPageSize page

/-- The keys of the listing of one type are those of the pages that are kept. -/
theorem exists_key_reader {mediaType : MissingMediaType} {key : DiscoveryKey} :
    (∃ item ∈ (readerOf adapter now (rows mediaType)).2.flatMap
        (validPage now adapter.discoverPageSize (rows mediaType)), item.key = key) ↔
      ∃ page, IsKept adapter now rows mediaType page ∧
        ∃ item ∈ validPage now adapter.discoverPageSize (rows mediaType) page, item.key = key := by
  constructor
  · rintro ⟨item, hitem, hkey⟩
    obtain ⟨page, hpage, hitem⟩ := List.mem_flatMap.mp hitem
    exact ⟨page, (Paging.mem_walk_one page).2.mp hpage, item, hitem, hkey⟩
  · rintro ⟨page, hpage, item, hitem, hkey⟩
    exact ⟨item, List.mem_flatMap.mpr ⟨page, (Paging.mem_walk_one page).2.mpr hpage, hitem⟩, hkey⟩

/-- **The discovery** from a source that serves pages: the keys of the pages that are kept, items of
these pages, and the requests for the pages that the reader comes to. -/
theorem listMissingMedia_serves (h : Serves adapter source rows)
    (hquiet : ∀ mediaType, QuietReader adapter now source rows mediaType) :
    ∃ listing, listMissingMedia adapter now source = .ok listing ∧
      (∀ key, (∃ found ∈ listing.merged, found.key = key) ↔
        ∃ mediaType page, IsKept adapter now rows mediaType page ∧
          ∃ item ∈ validPage now adapter.discoverPageSize (rows mediaType) page,
            item.key = key) ∧
      (∀ found ∈ listing.merged, UpToCountries (fun item => ∃ mediaType page,
        IsKept adapter now rows mediaType page ∧
          item ∈ validPage now adapter.discoverPageSize (rows mediaType) page) found) ∧
      ∀ mediaType page, discoverRequest adapter mediaType page ∈ listing.requests ↔
        1 ≤ page ∧ page ≤ DISCOVER_PAGE_LIMIT ∧
          Paging.Asked (validPage now adapter.discoverPageSize (rows mediaType))
            MediaItemData.sourceItemId adapter.discoverPageSize page := by
  obtain ⟨movies, hmovies, hmoviesMerged, hmoviesRequests⟩ :=
    listMissingMediaType_serves now h .movies (hquiet .movies)
  obtain ⟨series, hseries, hseriesMerged, hseriesRequests⟩ :=
    listMissingMediaType_serves now h .series (hquiet .series)
  refine ⟨{ merged := series.merged.rows.foldl mergeDiscoveredItem
              (movies.merged.rows.foldl mergeDiscoveredItem ∅)
            warnings := movies.warnings ++ series.warnings
            requests := movies.requests ++ series.requests }, ?_, ?_, ?_, ?_⟩
  · simp only [listMissingMedia, listMore, h.login, hmovies, hseries]
    rfl
  · intro key
    -- the keys of a listing that is merged are those of the pages that it was merged from
    have htype : ∀ {listing : Listing} {mediaType : MissingMediaType},
        listing.merged = ((readerOf adapter now (rows mediaType)).2.flatMap
          (validPage now adapter.discoverPageSize (rows mediaType))).foldl mergeDiscoveredItem ∅ →
        ((∃ item ∈ listing.merged.rows, item.key = key) ↔
          ∃ page, IsKept adapter now rows mediaType page ∧
            ∃ item ∈ validPage now adapter.discoverPageSize (rows mediaType) page,
              item.key = key) := by
      intro listing mediaType hmerged
      rw [← exists_key_reader]
      have hkeys : (∃ found ∈ listing.merged, found.key = key) ↔ _ := exists_key_iff
      rw [hmerged, isSome_get?_foldl_merge, Table.get?_empty] at hkeys
      rw [hmerged]
      exact hkeys.trans (or_iff_left (by simp))
    rw [exists_key_iff, isSome_get?_foldl_merge, isSome_get?_foldl_merge, Table.get?_empty,
      htype hseriesMerged, htype hmoviesMerged]
    constructor
    · rintro (hpage | hpage | hnone)
      · exact ⟨.series, hpage⟩
      · exact ⟨.movies, hpage⟩
      · cases hnone
    · rintro ⟨mediaType, hpage⟩
      cases mediaType with
      | movies => exact Or.inr (Or.inl hpage)
      | series => exact Or.inl hpage
  · have htype : ∀ {listing : Listing} {mediaType : MissingMediaType},
        listing.merged = ((readerOf adapter now (rows mediaType)).2.flatMap
          (validPage now adapter.discoverPageSize (rows mediaType))).foldl mergeDiscoveredItem ∅ →
        ∀ item ∈ listing.merged.rows, UpToCountries (fun item => ∃ mediaType page,
          IsKept adapter now rows mediaType page ∧
            item ∈ validPage now adapter.discoverPageSize (rows mediaType) page) item := by
      intro listing mediaType hmerged
      rw [hmerged]
      refine upToCountries_foldl_merge ?_ fun found hfound => absurd hfound (Table.notMem_empty _)
      intro item hitem
      obtain ⟨page, hpage, hitem⟩ := List.mem_flatMap.mp hitem
      exact ⟨item, ⟨mediaType, page, (Paging.mem_walk_one page).2.mp hpage, hitem⟩, rfl⟩
    exact upToCountries_foldl_merge (htype hseriesMerged)
      (upToCountries_foldl_merge (htype hmoviesMerged) fun found hfound =>
        absurd hfound (Table.notMem_empty _))
  · intro mediaType page
    have htype : ∀ {requests : List DiscoverParams} {mediaType' : MissingMediaType},
        requests = (readerOf adapter now (rows mediaType')).1.map
          (discoverRequest adapter mediaType') →
        (discoverRequest adapter mediaType page ∈ requests ↔ mediaType' = mediaType ∧
          page ∈ (readerOf adapter now (rows mediaType)).1) := by
      intro requests mediaType' hrequests
      rw [hrequests, List.mem_map]
      constructor
      · rintro ⟨page', hpage', heq⟩
        obtain rfl : mediaType' = mediaType := congrArg DiscoverParams.type heq
        obtain rfl : page' = page := congrArg DiscoverParams.page heq
        exact ⟨rfl, hpage'⟩
      · rintro ⟨rfl, hpage⟩
        exact ⟨page, hpage, rfl⟩
    rw [List.mem_append, htype hmoviesRequests, htype hseriesRequests]
    refine Iff.trans ?_ (Paging.mem_walk_one page).1
    constructor
    · rintro (⟨-, hpage⟩ | ⟨-, hpage⟩) <;> exact hpage
    · intro hpage
      cases mediaType with
      | movies => exact Or.inl ⟨rfl, hpage⟩
      | series => exact Or.inr ⟨rfl, hpage⟩

/-! ### The whole list -/

omit [StreamRuntime] in
/-- A page before one that has rows has as many as a page has. -/
theorem length_pageOf {size : ℕ} {rows : List Row} {page later : ℕ} (hpage : 1 ≤ page)
    (hlt : page < later) (hlater : pageOf size rows later ≠ []) :
    (pageOf size rows page).length = size := by
  have hrest : (later - 1) * size < rows.length := by
    by_contra hnot
    apply hlater
    rw [pageOf, List.drop_eq_nil_of_le (not_lt.mp hnot), List.take_nil]
  have hwhole : (page - 1) * size + size ≤ rows.length := by
    have hnext : (page - 1) * size + size = page * size := by
      rw [← Nat.succ_mul]
      congr 1
      omega
    have hle : page * size ≤ (later - 1) * size := Nat.mul_le_mul_right size (by omega)
    omega
  rw [pageOf, List.length_take, List.length_drop]
  omega

omit adapter in
/-- A page before one that has rows is short exactly when a row of it is no item. -/
theorem short_iff {size : ℕ} {rows : List Row} {page later : ℕ} (hpage : 1 ≤ page)
    (hlt : page < later) (hlater : pageOf size rows later ≠ []) :
    ¬ Paging.Short (validPage now size rows) size page ↔
      ∀ row ∈ pageOf size rows page, (row.bind (itemOf now)).isSome = true := by
  have hlength := length_pageOf hpage hlt hlater
  rw [← List.filterMap_length_eq_length, hlength, Paging.Short, validPage, itemsOf, not_lt]
  have hle := List.length_filterMap_le (fun row : Row => row.bind (itemOf now))
    (pageOf size rows page)
  rw [hlength] at hle
  exact ⟨fun h => le_antisymm hle h, fun h => h.ge⟩

omit adapter in
/-- A page with a valid item has rows. -/
theorem pageOf_ne_nil {size : ℕ} {rows : List Row} {page : ℕ} {item : MediaItemData}
    (h : item ∈ validPage now size rows page) : pageOf size rows page ≠ [] := by
  intro hnil
  rw [validPage, hnil] at h
  exact absurd h List.not_mem_nil

/-- Where the pages are whole, the reader comes to every page that has rows. -/
theorem PagesWhole.asked (h : PagesWhole adapter now rows) {mediaType : MissingMediaType}
    {page : ℕ} (hlimit : page ≤ DISCOVER_PAGE_LIMIT)
    (hrows : pageOf adapter.discoverPageSize (rows mediaType) page ≠ []) :
    Paging.Asked (validPage now adapter.discoverPageSize (rows mediaType))
      MediaItemData.sourceItemId adapter.discoverPageSize page := by
  intro earlier hearlier hlt
  constructor
  · rw [short_iff now hearlier hlt hrows]
    exact h.valid mediaType earlier page hearlier hlt hlimit hrows
  · exact h.fresh mediaType earlier page hearlier hlt hlimit hrows

/-- Where no line raises, an invalid row costs nothing but itself exactly when every page before the
last is whole. -/
theorem listMissingMedia_quiet (h : Serves adapter source rows)
    (hquiet : ∀ mediaType, QuietReader adapter now source rows mediaType) :
    ∃ listing, listMissingMedia adapter now source = .ok listing ∧
      (RowsIsolated adapter now rows listing ↔ PagesWhole adapter now rows) := by
  obtain ⟨listing, hlisting, hkeys, hitems, hrequests⟩ := listMissingMedia_serves now h hquiet
  refine ⟨listing, hlisting, ?_, ?_⟩
  · intro hisolated
    -- that a page with rows is asked for says that no page before it ends the walk
    have hasked : ∀ mediaType page later, 1 ≤ page → page < later →
        later ≤ DISCOVER_PAGE_LIMIT →
        pageOf adapter.discoverPageSize (rows mediaType) later ≠ [] →
        ¬ Paging.Short (validPage now adapter.discoverPageSize (rows mediaType))
            adapter.discoverPageSize page ∧
          ¬ Paging.Repeats (validPage now adapter.discoverPageSize (rows mediaType))
            MediaItemData.sourceItemId page := by
      intro mediaType page later hpage hlt hlimit hrows
      have hrequest := hisolated.asked mediaType later (by omega) hlimit hrows
      obtain ⟨-, -, hasked⟩ := (hrequests mediaType later).mp hrequest
      exact hasked page hpage hlt
    exact
      { valid := by
          intro mediaType page later hpage hlt hlimit hrows
          rw [← short_iff now hpage hlt hrows]
          exact (hasked mediaType page later hpage hlt hlimit hrows).1
        fresh := by
          intro mediaType page later hpage hlt hlimit hrows
          exact (hasked mediaType page later hpage hlt hlimit hrows).2
        elsewhere := by
          intro mediaType page hpage hlimit hrepeats item hitem
          have hfound := hisolated.complete mediaType page hpage hlimit item hitem
          obtain ⟨mediaType', page', ⟨hpage', hlimit', -, hnot⟩, item', hitem', hkey⟩ :=
            (hkeys item.key).mp hfound
          exact ⟨mediaType', page', hpage', hlimit', hnot, item', hitem', hkey⟩ }
  · intro hwhole
    exact
      { complete := by
          intro mediaType page hpage hlimit item hitem
          refine (hkeys item.key).mpr ?_
          -- the items of a repeated page are found elsewhere
          by_cases hrepeats : Paging.Repeats
            (validPage now adapter.discoverPageSize (rows mediaType))
            MediaItemData.sourceItemId page
          · obtain ⟨mediaType', page', hpage', hlimit', hnot, item', hitem', hkey⟩ :=
              hwhole.elsewhere mediaType page hpage hlimit hrepeats item hitem
            have hasked := hwhole.asked now hlimit' (pageOf_ne_nil now hitem')
            exact ⟨mediaType', page', ⟨hpage', hlimit', hasked, hnot⟩, item', hitem', hkey⟩
          · have hasked := hwhole.asked now hlimit (pageOf_ne_nil now hitem)
            exact ⟨mediaType, page, ⟨hpage, hlimit, hasked, hrepeats⟩, item, hitem, rfl⟩
        sound := by
          intro found hfound
          obtain ⟨item, ⟨mediaType, page, ⟨hpage, hlimit, -⟩, hitem⟩, heq⟩ := hitems found hfound
          exact ⟨item, ⟨mediaType, page, hpage, hlimit, hitem⟩, heq⟩
        once := listing.merged.nodup
        asked := by
          intro mediaType page hpage hlimit hrows
          exact (hrequests mediaType page).mpr ⟨hpage, hlimit, hwhole.asked now hlimit hrows⟩ }

/-- **An invalid row costs nothing but itself exactly when every page before the last is whole, and no
line raises**: of a source that serves lists of rows in pages, whichever rows are invalid. -/
theorem listMissingMedia_isolated (h : Serves adapter source rows) :
    (∃ listing, listMissingMedia adapter now source = .ok listing ∧
        RowsIsolated adapter now rows listing) ↔
      PagesWhole adapter now rows ∧ PagesQuiet adapter source := by
  constructor
  · rintro ⟨listing, hlisting, hisolated⟩
    have hquiet : ∀ mediaType, QuietReader adapter now source rows mediaType := by
      intro mediaType
      by_contra hloud
      obtain ⟨e, herror⟩ := listMissingMedia_raises now h hloud
      rw [hlisting] at herror
      cases herror
    obtain ⟨listing', hlisting', hiff⟩ := listMissingMedia_quiet now h hquiet
    rw [hlisting] at hlisting'
    cases hlisting'
    have hwhole := hiff.mp hisolated
    refine ⟨hwhole, fun mediaType page hpage hlimit => ?_⟩
    by_contra hloud
    have hasked := hwhole.asked now hlimit (pageOf_ne_nil_of_loud h hpage hloud)
    exact hloud (hquiet mediaType page
      ((Paging.mem_walk_one page).1.mpr ⟨hpage, hlimit, hasked⟩))
  · rintro ⟨hwhole, hpages⟩
    have hquiet : ∀ mediaType, QuietReader adapter now source rows mediaType := by
      intro mediaType asked hasked
      obtain ⟨hpage, hlimit, -⟩ := (Paging.mem_walk_one asked).1.mp hasked
      exact hpages mediaType asked hpage hlimit
    obtain ⟨listing, hlisting, hiff⟩ := listMissingMedia_quiet now h hquiet
    exact ⟨listing, hlisting, hiff.mpr hwhole⟩

end Source

/-! ### A list with an invalid row -/

/-- The list of the films; there are no series. -/
def sampleRows : MissingMediaType → List Row
  | .movies => [some [("id", .int 1)], some (filmRow 2 "A"), some (filmRow 3 "B")]
  | .series => []

/-- An adapter with pages of two rows. -/
def sampleAdapter : NextFindAdapter :=
  { discoverPageSizeArgument := 2 }

/-- The body of a page. -/
def sampleBody : MissingMediaType → (page : ℕ) → List UInt8
  | .movies, 1 =>
      asciiBytes "\x7b\"id\":1\x7d\n\x7b\"id\":2,\"type\":\"movie\",\"title\":\"A\"\x7d\n"
  | .movies, 2 => asciiBytes "\x7b\"id\":3,\"type\":\"movie\",\"title\":\"B\"\x7d\n"
  | .movies, _ => []
  | .series, _ => []

/-- The source of the list. -/
def sampleSource : DiscoverSource where
  authenticate _ := .ok ()
  reauthenticate _ := .ok ()
  discover params _ :=
    .answered 200 "application/x-ndjson" [sampleBody params.type params.page] none

/-- The source serves the list. -/
theorem serves_sample :
    @Serves digitsRuntime sampleAdapter sampleSource sampleRows := by
  let _ := digitsRuntime
  -- the lines that are read say nothing of other pages
  have hbare : ∀ line payload, payloadOf sampleAdapter line = some payload →
      SaysNothing (observePagination payload) := by
    intro line payload hpayload
    rw [payloadOf] at hpayload
    split at hpayload
    · cases hpayload
    · obtain ⟨entry, hentry, rfl⟩ := Option.map_eq_some_iff.mp hpayload
      have hmem := List.mem_of_find?_eq_some hentry
      rcases List.mem_cons.mp hmem with rfl | hmem
      · exact ⟨rfl, rfl, rfl⟩
      · rcases List.mem_cons.mp hmem with rfl | hmem
        · exact ⟨rfl, rfl, rfl⟩
        · rw [List.mem_singleton.mp hmem]
          exact ⟨rfl, rfl, rfl⟩
  have hrows : ∀ mediaType page, 1 ≤ page →
      (sampleBody mediaType page).length ≤ sampleAdapter.maxResponseBytes ∧
        (linesOf (sampleBody mediaType page)).flatMap (rowsOfLine sampleAdapter) =
          pageOf sampleAdapter.discoverPageSize (sampleRows mediaType) page := by
    intro mediaType page hpage
    have hsize : sampleAdapter.discoverPageSize = 2 := rfl
    have hempty : (linesOf []).flatMap (rowsOfLine sampleAdapter) = [] := rfl
    rw [pageOf, hsize]
    cases mediaType with
    | movies =>
        match page, hpage with
        | 1, _ => exact ⟨by decide, rfl⟩
        | 2, _ => exact ⟨by decide, rfl⟩
        | page + 3, _ =>
            have hbody : sampleBody .movies (page + 3) = [] := rfl
            have hlength : (sampleRows .movies).length = 3 := rfl
            rw [hbody, hempty, List.drop_eq_nil_of_le (by omega), List.take_nil]
            exact ⟨Nat.zero_le _, rfl⟩
    | series =>
        have hbody : sampleBody .series page = [] := rfl
        have hnone : sampleRows .series = [] := rfl
        rw [hbody, hempty, hnone, List.drop_nil, List.take_nil]
        exact ⟨Nat.zero_le _, rfl⟩
  have hjson : requireJsonContent "application/x-ndjson" = .ok () := if_pos (by decide +kernel)
  exact
    { login := fun _ => rfl
      page := by
        intro mediaType page hpage
        obtain ⟨hlength, hpageRows⟩ := hrows mediaType page hpage
        rw [← List.flatten_singleton (l := sampleBody mediaType page)] at hlength hpageRows
        exact ⟨200, "application/x-ndjson", [sampleBody mediaType page], rfl, by decide, hjson,
          hlength, hpageRows, fun line _ payload hpayload => hbare line payload hpayload⟩ }

/-- Of this list, an invalid row costs nothing but itself exactly when every page before the last is
whole, and no line raises. -/
theorem listMissingMedia_isolated_sample :
    (∃ listing, @listMissingMedia digitsRuntime sampleAdapter 0 sampleSource = .ok listing ∧
        @RowsIsolated digitsRuntime sampleAdapter 0 sampleRows listing) ↔
      @PagesWhole digitsRuntime sampleAdapter 0 sampleRows ∧
        @PagesQuiet digitsRuntime sampleAdapter sampleSource := by
  let _ := digitsRuntime
  exact listMissingMedia_isolated 0 serves_sample

/-- **A list that is not found as a whole**: the row without a title makes the first page look like
the last one, and the second film is lost. -/
theorem listMissingMedia_stopsEarly :
    ¬ ∀ listing, @listMissingMedia digitsRuntime sampleAdapter 0 sampleSource = .ok listing →
      @RowsIsolated digitsRuntime sampleAdapter 0 sampleRows listing := by
  let _ := digitsRuntime
  intro h
  let lost : DiscoveryKey := { source := "nextfind", mediaType := .movie, identity := .inl 3 }
  have hlost : (match listMissingMedia sampleAdapter 0 sampleSource with
      | .ok listing => listing.merged.rows.all fun found => found.key ≠ lost
      | .error _ => false) = true := by
    decide +kernel
  have hvalid : (validPage 0 sampleAdapter.discoverPageSize (sampleRows .movies) 2).any
      (fun item => item.key = lost) = true := by
    decide +kernel
  obtain ⟨item, hitem, hkey⟩ := List.any_eq_true.mp hvalid
  rw [decide_eq_true_eq] at hkey
  cases hlisting : listMissingMedia sampleAdapter 0 sampleSource with
  | error e =>
      rw [hlisting] at hlost
      cases hlost
  | ok listing =>
      rw [hlisting] at hlost
      obtain ⟨found, hfound, hsame⟩ := (h listing hlisting).complete .movies 2 (by decide)
        (by decide) item hitem
      have hother := List.all_eq_true.mp hlost found hfound
      rw [decide_eq_true_eq] at hother
      exact hother (hsame.trans hkey)

end LibSeek.Adapters
