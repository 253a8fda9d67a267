/-
Discoveries that are repeated.

A discovery looks for the media item that an item was imported as by what a confirmation writes: the
type and the identifier of the catalogue.  It then writes over everything that the item says.  A
discovery that is repeated leaves the media items alone as long as the confirmations between them
agree with what the source says.

Main definitions:

* `Workflow.mediaKey`, `Workflow.keysOf` — what the media items were imported as;
* `Workflow.KeepsIdentity`, `Workflow.BringsSame` — confirmations and discoveries that agree;
* `Workflow.EveryStep` — a run all of whose steps meet a condition.

Main results:

* `Workflow.wp_importItems_keys`, `Workflow.wp_importItems_values` — what an import does;
* `Workflow.discoveries_idempotent` — **repeated discoveries of what was confirmed as it is**;
* `Workflow.discovery_imports_again` — a film that is imported twice.
-/

import LibSeek.Workflow.Identities
import LibSeek.Workflow.PolicyGate

set_option relaxedAutoImplicit false
set_option autoImplicit false

namespace LibSeek.Workflow

open LibSeek.Core LibSeek.Lib LibSeek.Models LibSeek.Schemas LibSeek.Services LibSeek.Workers

/-! ### Keys -/

/-- What a media item was imported as. -/
def mediaKey (media : Models.MediaItem) : DiscoveryKey where
  source := media.source
  mediaType := media.mediaType
  identity :=
    match media.tmdbId with
    | some tmdbId => .inl tmdbId
    | none => .inr media.sourceItemId

/-- The media items, with what they were imported as. -/
def keysOf (db : WorkflowDb) : List (String × DiscoveryKey) :=
  db.media.rows.map fun media => (media.id, mediaKey media)

section Keys

variable {db : WorkflowDb}

/-- A media item has the key of an item where the discovery takes it for that item. -/
theorem mediaKey_eq_iff {media : Models.MediaItem} {item : MediaItemData} :
    mediaKey media = item.key ↔ media.source = item.source ∧ media.mediaType = item.mediaType ∧
      media.tmdbId = item.tmdbId ∧ (item.tmdbId = none → media.sourceItemId = item.sourceItemId) := by
  unfold mediaKey MediaItemData.key
  rw [DiscoveryKey.mk.injEq]
  refine and_congr_right fun _ => and_congr_right fun _ => ?_
  cases hmedia : media.tmdbId <;> cases hitem : item.tmdbId <;> simp

theorem existingMedia_eq_some {item : MediaItemData} {media : Models.MediaItem}
    (h : existingMedia db item = some media) : media ∈ db.media ∧ mediaKey media = item.key := by
  obtain ⟨hmem, hkind⟩ := existingMedia_row h
  exact ⟨hmem, mediaKey_eq_iff.mpr hkind⟩

theorem existingMedia_eq_none {item : MediaItemData} (h : existingMedia db item = none) :
    ∀ media ∈ db.media, mediaKey media ≠ item.key := by
  intro media hmedia hkey
  have hnot := List.find?_eq_none.mp h media hmedia
  exact hnot (decide_eq_true (mediaKey_eq_iff.mp hkey))

theorem mem_keysOf {id : String} {key : DiscoveryKey} :
    (id, key) ∈ keysOf db ↔ ∃ media ∈ db.media, media.id = id ∧ mediaKey media = key := by
  unfold keysOf
  rw [List.mem_map]
  constructor
  · rintro ⟨media, hmem, heq⟩
    exact ⟨media, hmem, (Prod.mk.inj heq).1, (Prod.mk.inj heq).2⟩
  · rintro ⟨media, hmem, rfl, rfl⟩
    exact ⟨media, hmem, rfl⟩

theorem mem_map_keysOf {key : DiscoveryKey} :
    key ∈ (keysOf db).map Prod.snd ↔ ∃ media ∈ db.media, mediaKey media = key := by
  rw [List.mem_map]
  constructor
  · rintro ⟨⟨id, key⟩, hmem, rfl⟩
    obtain ⟨media, hmedia, -, hkey⟩ := mem_keysOf.mp hmem
    exact ⟨media, hmedia, hkey⟩
  · rintro ⟨media, hmedia, hkey⟩
    exact ⟨(media.id, key), mem_keysOf.mpr ⟨media, hmedia, rfl, hkey⟩, rfl⟩

/-- A write of a media item that keeps its key. -/
theorem keysOf_save {media media' : Models.MediaItem} (hmedia : media ∈ db.media)
    (hid : media'.id = media.id) (hkey : mediaKey media' = mediaKey media) :
    keysOf { db with media := db.media.save media' } = keysOf db :=
  Table.map_rows_save hmedia hid (by rw [hid, hkey])

/-- A write of a new media item. -/
theorem keysOf_new {media : Models.MediaItem} (hnew : db.media.get? media.id = none) :
    keysOf { db with media := db.media.save media } = keysOf db ++ [(media.id, mediaKey media)] := by
  unfold keysOf
  rw [Table.rows_save_of_new hnew, List.map_append]
  rfl

theorem keysOf_refreshed (mediaId : String) (db : WorkflowDb) :
    keysOf (refreshed mediaId db) = keysOf db := by
  unfold refreshed
  split
  · rename_i media status hmedia hfold
    exact keysOf_save (mem_of_get? hmedia).1 rfl rfl
  · rfl

theorem keysOf_refreshedFor (mediaId : Option String) (db : WorkflowDb) :
    keysOf (refreshedFor mediaId db) = keysOf db := by
  cases mediaId with
  | none => rfl
  | some mediaId => exact keysOf_refreshed mediaId db

theorem mediaKey_of_same {media media' : Models.MediaItem} (h : SameItem media media') :
    mediaKey media' = mediaKey media := by
  unfold mediaKey
  rw [h.source, h.mediaType, h.tmdbId, h.sourceItemId]

/-- Media items of one key have one identifier, where one of them has any. -/
theorem tmdbId_of_mediaKey {media media' : Models.MediaItem} {tmdbId : Int}
    (htmdb : media.tmdbId = some tmdbId) (hkey : mediaKey media = mediaKey media') :
    some tmdbId = media'.tmdbId := by
  have hidentity := congrArg DiscoveryKey.identity hkey
  unfold mediaKey at hidentity
  rw [htmdb] at hidentity
  cases hother : media'.tmdbId with
  | none =>
      rw [hother] at hidentity
      cases hidentity
  | some other =>
      rw [hother] at hidentity
      exact congrArg some (Sum.inl.inj hidentity)

/-- A confirmation of what a row says already leaves its key, whatever the session has read. -/
theorem mediaKey_writtenMedia [WorkflowRuntime] (held : Models.MediaItem) {row : Models.MediaItem}
    {candidate : MetadataRecord} (htype : candidate.mediaType = row.mediaType)
    (htmdb : some candidate.tmdbId = row.tmdbId) :
    mediaKey (writtenMedia held (confirmedMedia held candidate) row) = mediaKey row := by
  have htype' : (writtenMedia held (confirmedMedia held candidate) row).mediaType =
      row.mediaType :=
    (writeBack_eq_or held.mediaType candidate.mediaType row.mediaType).elim (·.trans htype) id
  have htmdb' : (writtenMedia held (confirmedMedia held candidate) row).tmdbId = row.tmdbId :=
    (writeBack_eq_or held.tmdbId (some candidate.tmdbId) row.tmdbId).elim (·.trans htmdb) id
  unfold mediaKey
  rw [htype', htmdb']
  rfl

end Keys

/-! ### Confirmations -/

section Confirmations

variable [WorkflowRuntime] {agent : Agent} {db db' : WorkflowDb}

/-- The confirmations that some reviews record confirm what the media items were imported as. -/
def Agrees (before : WorkflowDb) (reviews : Table IdentityReview) : Prop :=
  ∀ review ∈ reviews.rows, review ∉ before.reviews.rows → ∀ media ∈ before.media.rows,
    media.id = review.mediaId → ∀ candidate ∈ review.candidateSnapshot.parse,
      candidate.mediaType = media.mediaType ∧ some candidate.tmdbId = media.tmdbId

instance (before : WorkflowDb) (reviews : Table IdentityReview) :
    Decidable (Agrees before reviews) := by
  delta Agrees
  infer_instance

/-- **The keys stay** but for imports, where the confirmations agree. -/
theorem moves_keysOf (hmoves : Moves (Move agent) db db')
    (hplain : ∀ items, agent.imports = some items → items = [])
    (hagrees : Agrees db db'.reviews) : keysOf db' = keysOf db := by
  suffices h : ∀ reviews : Table IdentityReview, (∀ review ∈ db'.reviews, review ∈ reviews) →
      Agrees db reviews → keysOf db' = keysOf db from h _ (fun _ h => h) hagrees
  clear hagrees
  induction hmoves with
  | refl => exact fun _ _ _ => rfl
  | @tail db₁ db₂ hmoves hmove ih =>
      intro reviews hreviews hagrees
      have hkeys := ih reviews (fun review h => hreviews review (hmove.reviews.1 review h)) hagrees
      rw [← hkeys]
      cases hmove with
      | unsettled hrow hheld hopen hsame hstatus =>
          exact keysOf_save hrow hsame.id (mediaKey_of_same hsame)
      | @confirmed held media review candidate hagent hrow hheld hopen hunique hnew hreview hstatus
          hsnapshot =>
          have hself : review ∈ reviews := hreviews review (Table.mem_save_self _ _)
          have hnot : review ∉ db.reviews := fun hold =>
            Table.get?_eq_none.mp hnew review ((moves_reviews hmoves).1 review hold) rfl
          -- the media item as it was before
          have hmem : (media.id, mediaKey media) ∈ keysOf db :=
            hkeys ▸ mem_keysOf.mpr ⟨media, hrow, rfl, rfl⟩
          obtain ⟨first, hfirst, hid, hkey⟩ := mem_keysOf.mp hmem
          obtain ⟨htype, htmdb⟩ :=
            hagrees review hself hnot first hfirst (hid.trans hreview.symm) candidate hsnapshot
          have hsame : mediaKey (writtenMedia held (confirmedMedia held candidate) media) =
              mediaKey media := by
            exact mediaKey_writtenMedia held (htype.trans (congrArg DiscoveryKey.mediaType hkey))
              (tmdbId_of_mediaKey htmdb.symm hkey)
          change keysOf { db₁ with media := _ } = keysOf db₁
          exact keysOf_save hrow rfl hsame
      | created hagent hitem hnone hnew =>
          rw [hplain _ hagent] at hitem
          cases hitem
      | updated hagent hitem hexisting =>
          rw [hplain _ hagent] at hitem
          cases hitem
      | located hagent hrow => exact keysOf_save hrow rfl rfl
      | searchQueued => exact keysOf_refreshed _ _
      | searched | runOverwritten => exact keysOf_refreshedFor _ _
      | _ => rfl

end Confirmations

/-! ### Imports -/

section Imports

variable {db : WorkflowDb}

/-- An item that is imported again has its key. -/
theorem mediaKey_updatedMedia (existing : Models.MediaItem) (item : MediaItemData) :
    mediaKey (updatedMedia existing item) = item.key :=
  mediaKey_eq_iff.mpr ⟨rfl, rfl, rfl, fun _ => rfl⟩

/-- What an import adds: the items with keys that no media item has. -/
theorem wp_importItems_keys (imports : List (MediaItemData × Uuid)) {db : WorkflowDb}
    (hdistinct : (imports.map fun one => one.1.key).Nodup) :
    Tx.wp (importItems imports) (fun _ db' => ∃ extra, keysOf db' = keysOf db ++ extra ∧
      extra.map Prod.snd = (imports.map fun one => one.1.key).filter fun key =>
        key ∉ (keysOf db).map Prod.snd) (fun _ _ => True) db := by
  induction imports generalizing db with
  | nil => exact ⟨[], (List.append_nil _).symm, rfl⟩
  | cons one rest ih =>
      obtain ⟨item, newId⟩ := one
      rw [List.map_cons, List.nodup_cons] at hdistinct
      unfold importItems
      rw [Tx.wp_bind]
      unfold importItem
      rw [Tx.wp_bind, Tx.wp_get]
      rw [List.map_cons]
      cases hexisting : existingMedia db item with
      | none =>
          have hnot : item.key ∉ (keysOf db).map Prod.snd := by
            rw [mem_map_keysOf]
            rintro ⟨media, hmedia, hkey⟩
            exact existingMedia_eq_none hexisting media hmedia hkey
          have hkey : mediaKey (createdMedia item newId) = item.key :=
            mediaKey_eq_iff.mpr ⟨rfl, rfl, rfl, fun _ => rfl⟩
          unfold insertMedia saveMedia
          simp only [Tx.wp_bind, Tx.wp_get, Tx.wp_require, Tx.wp_modify, Tx.wp_pure, implies_true,
            and_true]
          intro hnew
          refine Tx.wp_mono (ih hdistinct.2) ?_ fun _ _ => id
          rintro _ db' ⟨extra, hkeys, hextra⟩
          rw [keysOf_new hnew, List.append_assoc] at hkeys
          refine ⟨_, hkeys, ?_⟩
          rw [keysOf_new hnew, hkey] at hextra
          rw [List.map_append, hextra, List.filter_cons_of_pos (by simpa using hnot)]
          change mediaKey (createdMedia item newId) :: _ = _
          rw [hkey]
          refine congrArg (item.key :: ·) (List.filter_congr fun key hmem => ?_)
          -- the other items have other keys
          have hne : key ≠ item.key := fun heq => hdistinct.1 (heq ▸ hmem)
          simp [hne]
      | some existing =>
          obtain ⟨hmem, hkey⟩ := existingMedia_eq_some hexisting
          have hthere : item.key ∈ (keysOf db).map Prod.snd :=
            mem_map_keysOf.mpr ⟨existing, hmem, hkey⟩
          have hsame : keysOf { db with media := db.media.save (updatedMedia existing item) } =
              keysOf db :=
            keysOf_save hmem rfl ((mediaKey_updatedMedia existing item).trans hkey.symm)
          unfold saveMedia
          simp only [Tx.wp_bind, Tx.wp_modify, Tx.wp_pure]
          refine Tx.wp_mono (ih hdistinct.2) ?_ fun _ _ => id
          rintro _ db' ⟨extra, hkeys, hextra⟩
          rw [hsame] at hkeys hextra
          refine ⟨extra, hkeys, ?_⟩
          rw [hextra, List.filter_cons_of_neg (by simpa using hthere)]

/-- The values that a confirmation derives. -/
def derivedValues (media : Models.MediaItem) :
    IdentityConfidence × MetadataStatus × Option (List String) :=
  (media.identityConfidence, media.metadataStatus, media.missingEpisodes)

/-- The values of an item in their place. -/
def upstreamValues (item : MediaItemData) :
    IdentityConfidence × MetadataStatus × Option (List String) :=
  (item.identityConfidence, item.metadataStatus, item.missingEpisodes)

/-- What an import leaves of a media item whose values the items have as well. -/
theorem wp_importItems_values (imports : List (MediaItemData × Uuid)) {db : WorkflowDb}
    {media : Models.MediaItem} (hmedia : media ∈ db.media)
    (hsame : ∀ one ∈ imports, one.1.key = mediaKey media →
      upstreamValues one.1 = derivedValues media) :
    Tx.wp (importItems imports) (fun _ db' => db'.reviews = db.reviews ∧ ∃ media' ∈ db'.media,
      media'.id = media.id ∧ derivedValues media' = derivedValues media) (fun _ _ => True) db := by
  induction imports generalizing db media with
  | nil => exact ⟨rfl, media, hmedia, rfl, rfl⟩
  | cons one rest ih =>
      obtain ⟨item, newId⟩ := one
      have hrest : ∀ one ∈ rest, one.1.key = mediaKey media →
          upstreamValues one.1 = derivedValues media :=
        fun other hother => hsame other (List.mem_cons_of_mem _ hother)
      unfold importItems
      rw [Tx.wp_bind]
      unfold importItem
      rw [Tx.wp_bind, Tx.wp_get]
      cases hexisting : existingMedia db item with
      | none =>
          unfold insertMedia saveMedia
          simp only [Tx.wp_bind, Tx.wp_get, Tx.wp_require, Tx.wp_modify, Tx.wp_pure, implies_true,
            and_true]
          intro hnew
          have hstill : media ∈ db.media.save (createdMedia item newId) :=
            Table.mem_save_of_ne hmedia (Table.get?_eq_none.mp hnew media hmedia)
          exact Tx.wp_mono (ih hstill hrest) (fun _ _ h => h) fun _ _ => id
      | some existing =>
          obtain ⟨hmem, hkey⟩ := existingMedia_eq_some hexisting
          unfold saveMedia
          simp only [Tx.wp_bind, Tx.wp_modify, Tx.wp_pure]
          -- the item finds the row itself, or another one
          by_cases hid : media.id = existing.id
          · obtain rfl := Table.eq_of_key_eq hmedia hmem hid
            have hvalues : derivedValues (updatedMedia media item) = derivedValues media :=
              hsame (item, newId) List.mem_cons_self hkey.symm
            refine Tx.wp_mono (ih (Table.mem_save_self db.media (updatedMedia media item)) ?_) ?_
              fun _ _ => id
            · intro other hother hother'
              rw [hvalues]
              refine hrest other hother (hother'.trans ?_)
              exact (mediaKey_updatedMedia media item).trans hkey.symm
            · rintro _ db' ⟨hreviews, media', hmem', hid', hvalues'⟩
              exact ⟨hreviews, media', hmem', hid', hvalues'.trans hvalues⟩
          · have hstill : media ∈ db.media.save (updatedMedia existing item) :=
              Table.mem_save_of_ne hmedia hid
            exact Tx.wp_mono (ih hstill hrest) (fun _ _ h => h) fun _ _ => id

/-- The keys of the items that are imported are the keys of the items that were brought. -/
theorem mem_keys_uniqueItems {items : List MediaItemData} {key : DiscoveryKey} :
    key ∈ (uniqueItems items).rows.map MediaItemData.key ↔ key ∈ items.map MediaItemData.key := by
  suffices hfold : ∀ (rest : List MediaItemData) (table : Table MediaItemData),
      key ∈ (rest.foldl Table.save table).rows.map MediaItemData.key ↔
        key ∈ table.rows.map MediaItemData.key ∨ key ∈ rest.map MediaItemData.key by
    refine (hfold items ∅).trans ⟨fun h => h.resolve_left List.not_mem_nil, Or.inr⟩
  intro rest
  induction rest with
  | nil => exact fun table => ⟨Or.inl, fun h => h.resolve_right List.not_mem_nil⟩
  | cons one rest ih =>
      intro table
      rw [List.foldl_cons, ih, List.map_cons, List.mem_cons, ← or_assoc]
      refine or_congr_left ?_
      rw [List.mem_map, List.mem_map]
      constructor
      · rintro ⟨item, hitem, rfl⟩
        rcases Table.mem_save.mp hitem with rfl | ⟨hold, -⟩
        · exact Or.inr rfl
        · exact Or.inl ⟨item, hold, rfl⟩
      · rintro (⟨item, hitem, rfl⟩ | rfl)
        · by_cases hsame : item.key = one.key
          · exact ⟨one, Table.mem_save_self _ _, hsame.symm⟩
          · exact ⟨item, Table.mem_save_of_ne hitem hsame, rfl⟩
        · exact ⟨one, Table.mem_save_self _ _, rfl⟩

/-- What an import of the items of a discovery does. -/
structure Imported (items : List MediaItemData) (db db' : WorkflowDb) : Prop where
  only : ∃ media, db' = { db with media }
  keys : ∃ extra, keysOf db' = keysOf db ++ extra ∧
    extra.map Prod.snd = ((uniqueItems items).rows.map MediaItemData.key).filter fun key =>
      key ∉ (keysOf db).map Prod.snd
  values : ∀ media ∈ db.media, (∀ item ∈ uniqueItems items, item.key = mediaKey media →
    upstreamValues item = derivedValues media) →
      ∃ media' ∈ db'.media, media'.id = media.id ∧ derivedValues media' = derivedValues media

/-- The import of the items of a discovery. -/
theorem wp_importItems (items : List MediaItemData) (mediaIds : ℕ → Uuid) [WorkflowRuntime] :
    Tx.wp (importItems ((uniqueItems items).rows.mapIdx fun i item => (item, mediaIds i)))
      (fun _ db' => Imported items db db') (fun _ _ => True) db := by
  have hkeys : ((uniqueItems items).rows.mapIdx fun i item => (item, mediaIds i)).map
      (fun one => one.1.key) = (uniqueItems items).rows.map MediaItemData.key := by
    refine List.ext_getElem (by simp) fun i hi hi' => ?_
    simp
  have hmem : ∀ one ∈ (uniqueItems items).rows.mapIdx fun i item => (item, mediaIds i),
      one.1 ∈ uniqueItems items := by
    intro one hone
    obtain ⟨i, hi, rfl⟩ := List.mem_mapIdx.mp hone
    exact List.getElem_mem hi
  have honly : Does (Move (importer items))
      (importItems ((uniqueItems items).rows.mapIdx fun i item => (item, mediaIds i)))
      (fun _ db' => ∃ media, db' = { db with media }) db :=
    importItems_does _ fun one hone => mem_uniqueItems (hmem one hone)
  have hadded := @wp_importItems_keys
    ((uniqueItems items).rows.mapIdx fun i item => (item, mediaIds i)) db
    (hkeys ▸ (uniqueItems items).nodup)
  refine Tx.wp_iff.mpr ⟨fun imported db' hrun => ?_, fun _ _ _ => trivial⟩
  refine ⟨(honly.ok hrun).2, hkeys ▸ hadded.ok hrun, fun media hmedia hsame => ?_⟩
  have hvalues := wp_importItems_values
    ((uniqueItems items).rows.mapIdx fun i item => (item, mediaIds i)) hmedia
    fun one hone => hsame one.1 (hmem one hone)
  exact (hvalues.ok hrun).2

end Imports

/-! ### Values that a confirmation derived -/

section Values

variable [WorkflowRuntime] {agent : Agent} {db db' : WorkflowDb}

/-- What stays of a media item with a confirmed identity, where nothing is imported. -/
structure KeepsValues (db db' : WorkflowDb) (media media' : Models.MediaItem) : Prop where
  row : media' ∈ db'.media
  id : media'.id = media.id
  values : derivedValues media' = derivedValues media
  reviews : confirmedReviews db' media.id = confirmedReviews db media.id

omit [WorkflowRuntime] in
theorem KeepsValues.of_final {media media' : Models.MediaItem}
    (h : Final false db media db' media') : KeepsValues db db' media media' := by
  refine ⟨h.row, h.id, ?_, h.reviews⟩
  rw [h.same rfl]
  rfl

omit [WorkflowRuntime] in
theorem KeepsValues.trans {db'' : WorkflowDb} {media media' media'' : Models.MediaItem}
    (h : KeepsValues db db' media media') (h' : KeepsValues db' db'' media' media'') :
    KeepsValues db db'' media media'' :=
  ⟨h'.row, h'.id.trans h.id, h'.values.trans h.values, by rw [← h.reviews, ← h.id, h'.reviews, h.id]⟩

omit [WorkflowRuntime] in
/-- A write of the countries of a media item. -/
theorem keepsValues_located {media row : Models.MediaItem} {countryCodes : Option (List String)}
    (hmedia : media ∈ db.media) (hrow : row ∈ db.media) : ∃ media',
      KeepsValues db { db with media := db.media.save { row with countryCodes } } media media' := by
  by_cases hid : media.id = row.id
  · rw [Table.eq_of_key_eq hmedia hrow hid]
    exact ⟨_, Table.mem_save_self _ _, rfl, rfl, rfl⟩
  · exact ⟨media, Table.mem_save_of_ne hmedia hid, rfl, rfl, rfl⟩

/-- Without items a discovery writes at most the countries of a media item. -/
theorem Move.plain_or_located (hmove : Move agent db db')
    (hplain : ∀ items, agent.imports = some items → items = []) :
    Move { agent with imports := none } db db' ∨ ∃ row ∈ db.media, ∃ countryCodes,
      db' = { db with media := db.media.save { row with countryCodes } } := by
  cases hmove with
  | aside control discoveryRuns audit => exact Or.inl (Move.aside control discoveryRuns audit)
  | matched hnew => exact Or.inl (Move.matched hnew)
  | found hnew => exact Or.inl (Move.found hnew)
  | queued hnew hfree hpending hother hrun =>
      exact Or.inl (Move.queued hnew hfree hpending hother hrun)
  | worked hrow hsame hactive hother => exact Or.inl (Move.worked hrow hsame hactive hother)
  | unsettled hrow hheld hopen hsame hstatus =>
      exact Or.inl (Move.unsettled hrow hheld hopen hsame hstatus)
  | confirmed hagent hrow hheld hopen hunique hnew hreview hstatus hsnapshot =>
      exact Or.inl (Move.confirmed hagent hrow hheld hopen hunique hnew hreview hstatus hsnapshot)
  | created hagent hitem hnone hnew =>
      rw [hplain _ hagent] at hitem
      cases hitem
  | updated hagent hitem hexisting =>
      rw [hplain _ hagent] at hitem
      cases hitem
  | located hagent hrow => exact Or.inr ⟨_, hrow, _, rfl⟩
  | searchQueued hagent hsearch => exact Or.inl (Move.searchQueued hagent hsearch)
  | searchConcealed houtdated hagent hsearch =>
      exact Or.inl (Move.searchConcealed houtdated hagent hsearch)
  | overwritten houtdated hrow hsame hsingle =>
      exact Or.inl (Move.overwritten houtdated hrow hsame hsingle)
  | runOverwritten houtdated hrun hkept =>
      exact Or.inl (Move.runOverwritten houtdated hrun hkept)
  | searched hrow hsame hactive hrun hkept hagree =>
      exact Or.inl (Move.searched hrow hsame hactive hrun hkept hagree)

/-- What changes that import nothing leave of what a confirmation derived. -/
theorem moves_keepsValues (hmoves : Moves (Move agent) db db')
    (hplain : ∀ items, agent.imports = some items → items = []) {media : Models.MediaItem}
    (hmedia : media ∈ db.media) (hfinal : confirmedReviews db media.id ≠ []) :
    ∃ media', KeepsValues db db' media media' := by
  induction hmoves with
  | refl => exact ⟨media, hmedia, rfl, rfl, rfl⟩
  | @tail db₁ db₂ _ hmove ih =>
      obtain ⟨media', hkept⟩ := ih
      have hstill : confirmedReviews db₁ media'.id ≠ [] := by
        rw [hkept.id, hkept.reviews]
        exact hfinal
      rcases hmove.plain_or_located hplain with hother | ⟨row, hrow, countryCodes, rfl⟩
      · obtain ⟨media'', hkept'⟩ := hother.final hkept.row hstill
        exact ⟨media'', hkept.trans (KeepsValues.of_final hkept')⟩
      · obtain ⟨media'', hkept'⟩ := keepsValues_located hkept.row hrow
        exact ⟨media'', hkept.trans hkept'⟩

end Values

/-! ### Runs -/

section Runs

variable [WorkflowRuntime]

/-- The items that a discovery brought. -/
def Operation.brought : Operation → Option (List MediaItemData)
  | .completeDiscovery _ _ items _ _ _ => some items
  | _ => none

/-- The items that an operation imports: a worker brought them that still holds the lease of its
discovery. -/
def Operation.brings (w : World) : Operation → Option (List MediaItemData)
  | .completeDiscovery p claim items _ _ _ =>
      if claim ∈ w.claims ∧ (ownedJob p w.db claim.id claim.leaseToken).isSome = true ∧
          ((discoverySubject claim).bind w.db.discoveryRuns.get?).isSome = true then some items
      else none
  | _ => none

/-- The items that are imported are the same as ever: they have the keys of the items, and where
one is a media item with a confirmed identity, it says what the confirmation derived. -/
def SameAsEver (items imported : List MediaItemData) (db : WorkflowDb) : Prop :=
  (∀ item ∈ items, item.key ∈ imported.map MediaItemData.key) ∧
  (∀ item ∈ imported, item.key ∈ items.map MediaItemData.key) ∧
  ∀ item ∈ (uniqueItems imported).rows, ∀ media ∈ db.media.rows, mediaKey media = item.key →
    confirmedReviews db media.id ≠ [] → upstreamValues item = derivedValues media

instance (items imported : List MediaItemData) (db : WorkflowDb) :
    Decidable (SameAsEver items imported db) := by
  delta SameAsEver
  infer_instance

/-- An operation imports the same items as ever, if it imports any. -/
def BringsSame (items : List MediaItemData) (w : World) (op : Operation) : Prop :=
  ∀ imported ∈ op.brings w, SameAsEver items imported w.db

/-- The confirmations of an operation confirm what the media items were imported as. -/
def KeepsIdentity (w : World) (op : Operation) : Prop :=
  Agrees w.db (op.perform w).db.reviews

/-- A step that no later discovery trips over. -/
structure Careful (items : List MediaItemData) (w : World) (op : Operation) : Prop where
  brings : BringsSame items w op
  keeps : KeepsIdentity w op

instance (items : List MediaItemData) (w : World) (op : Operation) :
    Decidable (BringsSame items w op) := by
  delta BringsSame
  infer_instance

instance (items : List MediaItemData) (w : World) (op : Operation) :
    Decidable (Careful items w op) :=
  decidable_of_iff (BringsSame items w op ∧ Agrees w.db (op.perform w).db.reviews)
    ⟨fun h => ⟨h.1, h.2⟩, fun h => ⟨h.brings, h.keeps⟩⟩

/-- What a discovery does that a worker completes. -/
theorem wp_completeDiscovery {db : WorkflowDb} (p : JobProcessor) {jobId : String} (runId : String)
    (items : List MediaItemData) (leaseToken : Option String) (mediaIds jobIds : ℕ → Uuid)
    (now : DateTime)
    (hjob : ∀ job ∈ db.queue, job.id = jobId →
      job.jobType.isResolution = false ∧ job.jobType.isTorrentSearch = false) :
    Tx.wp (Workers.completeDiscovery p jobId runId items leaseToken mediaIds jobIds now)
      (fun _ db' => db' = db ∨ ((ownedJob p db jobId leaseToken).isSome = true ∧
        (db.discoveryRuns.get? runId).isSome = true) ∧
          ∃ db₁, Imported items db db₁ ∧ Moves (Move bystander) db₁ db')
      (fun _ _ => True) db := by
  unfold Workers.completeDiscovery
  rw [Tx.wp_bind, Tx.wp_get]
  split
  · rename_i job run howned hrun
    obtain ⟨hrow, hid, hrunning⟩ := ownedJob_row howned
    have hactive : isActiveJob job.status = true := by rw [hrunning]; rfl
    obtain ⟨hresolution, hsearch⟩ := hjob job hrow hid
    rw [storeDiscovery, Tx.wp_bind]
    refine Tx.wp_mono (wp_importItems items mediaIds) ?_ fun _ _ => id
    intro imported db₁ himported
    obtain ⟨media, rfl⟩ := himported.only
    have hrest : Does (Move bystander)
        (finishDiscovery p job run (uniqueItems items).rows.length jobIds now imported)
        (fun _ _ => True) { db with media } :=
      finishDiscovery_does hrow hactive hresolution hsearch
    refine Tx.wp_mono hrest ?_ fun _ _ => id
    intro _ db' hmoves
    exact Or.inr ⟨⟨by rw [howned]; rfl, by rw [hrun]; rfl⟩, _, himported, hmoves.1⟩
  · exact Or.inl rfl

variable {w : World} {op : Operation} {items : List MediaItemData}

omit [WorkflowRuntime] in
/-- A unit of work that claims no job. -/
theorem wp_alone {db : WorkflowDb} {body : WorkflowTx Unit} {Q : WorkflowDb → Prop}
    {E : Exn → WorkflowDb → Prop} (h : Tx.wp body (fun _ => Q) E db) :
    Tx.wp (alone body) (fun _ => Q) E db :=
  (Tx.wp_bind body _).mpr h

/-- The database after an operation that is begun. -/
theorem Operation.perform_db
    (h : op.claim?.all (fun claim => claim ∈ w.claims) = true) :
    (op.perform w).db = (Tx.commit (op.body w) w.db).2 := by
  unfold Operation.perform
  rw [if_pos h]

/-- **What an operation imports**: nothing, or the items that it brings. -/
theorem Operation.perform_imports (op : Operation) (h : Sound w) :
    (∃ agent : Agent, (∀ items, agent.imports = some items → items = []) ∧
      Moves (Move agent) w.db (op.perform w).db) ∨
    ∃ items ∈ op.brings w, ∃ db₁, Imported items w.db db₁ ∧
      Moves (Move bystander) db₁ (op.perform w).db := by
  have hnothing : (op.agent w).imports = none →
      ∃ agent : Agent, (∀ items, agent.imports = some items → items = []) ∧
        Moves (Move agent) w.db (op.perform w).db := by
    intro hnone
    refine ⟨_, fun items hsome => ?_, op.perform_moves h⟩
    exact absurd (hnone.symm.trans hsome).symm (Option.some_ne_none _)
  -- only the completion of a discovery imports; a checkpoint imports the empty list
  cases op with
  | checkpointCountries p claim values =>
      refine Or.inl ⟨_, fun items hsome => ?_, Operation.perform_moves _ h⟩
      exact (Option.some.inj hsome).symm
  | completeDiscovery p claim items mediaIds jobIds now =>
      have hstays : ∀ db, db = w.db → ∃ agent : Agent,
          (∀ items, agent.imports = some items → items = []) ∧ Moves (Move agent) w.db db := by
        rintro _ rfl
        exact ⟨bystander, nofun, Relation.ReflTransGen.refl⟩
      by_cases hmem : claim ∈ w.claims
      · have hbegun : (Operation.completeDiscovery p claim items mediaIds jobIds now).claim?.all
            (fun claim => claim ∈ w.claims) = true := by simpa [Operation.claim?] using hmem
        rw [Operation.perform_db hbegun]
        change (∃ agent : Agent, _ ∧ Moves (Move agent) w.db (Tx.commit (onSubject
          (discoverySubject claim) _) w.db).2) ∨ ∃ items ∈ _, ∃ db₁, Imported items w.db db₁ ∧
            Moves (Move bystander) db₁ (Tx.commit (onSubject (discoverySubject claim) _) w.db).2
        cases hsubject : discoverySubject claim with
        | none => exact Or.inl (hstays _ rfl)
        | some runId =>
            have hjob : ∀ job ∈ w.db.queue, job.id = claim.id →
                job.jobType.isResolution = false ∧ job.jobType.isTorrentSearch = false := by
              intro job hjob hid
              rw [(h.remembered.row hmem hjob hid).jobType]
              unfold discoverySubject at hsubject
              split at hsubject
              · rename_i htype
                rw [htype]
                exact ⟨rfl, rfl⟩
              · cases hsubject
            have hwp := wp_completeDiscovery p runId items claim.leaseToken mediaIds jobIds now hjob
            rcases Tx.commit_wp (wp_alone hwp) with ⟨_, -, hsame | ⟨howned, himports⟩⟩ | ⟨e, _, -, hsame, -⟩
            · exact Or.inl (hstays _ hsame)
            · have hrun : ((discoverySubject claim).bind w.db.discoveryRuns.get?).isSome = true := by
                rw [hsubject, Option.bind_some]
                exact howned.2
              exact Or.inr ⟨items, if_pos ⟨hmem, howned.1, hrun⟩, himports⟩
            · exact Or.inl (hstays _ hsame)
      · refine Or.inl (hstays _ ?_)
        unfold Operation.perform
        rw [if_neg (by simpa [Operation.claim?] using hmem)]
  | _ => exact Or.inl (hnothing rfl)

/-- Each item is one media item, and each media item is one of them. -/
structure Known (items : List MediaItemData) (db : WorkflowDb) : Prop where
  nodup : ((keysOf db).map Prod.snd).Nodup
  same : ∀ key, key ∈ (keysOf db).map Prod.snd ↔ key ∈ items.map MediaItemData.key

/-- **The keys after a careful step**: those before, or those of the first discovery. -/
theorem Careful.keys (hcareful : Careful items w op) (hsound : Sound w)
    (hknown : keysOf w.db = [] ∨ Known items w.db) :
    (keysOf (op.perform w).db = [] ∨ Known items (op.perform w).db) ∧
      (keysOf w.db ≠ [] → keysOf (op.perform w).db = keysOf w.db) := by
  rcases op.perform_imports hsound with ⟨agent, hplain, hmoves⟩ | ⟨imported, hbrings, db₁, himported,
    hmoves⟩
  · have hsame : keysOf (op.perform w).db = keysOf w.db :=
      moves_keysOf hmoves hplain hcareful.keeps
    refine ⟨?_, fun _ => hsame⟩
    rcases hknown with hnone | hknown
    · exact Or.inl (hsame.trans hnone)
    · exact Or.inr ⟨hsame ▸ hknown.nodup, hsame ▸ hknown.same⟩
  · obtain ⟨hall, honly, -⟩ := hcareful.brings imported hbrings
    have hrest : keysOf (op.perform w).db = keysOf db₁ := by
      refine moves_keysOf hmoves nofun fun review hmem hnew => ?_
      exact absurd hmem (fun hmem => ((moves_reviews hmoves).2 review hmem).elim hnew id)
    obtain ⟨extra, hkeys, hextra⟩ := himported.keys
    have hsame : ∀ key, key ∈ (uniqueItems imported).rows.map MediaItemData.key ↔
        key ∈ items.map MediaItemData.key := by
      intro key
      rw [mem_keys_uniqueItems]
      constructor
      · intro hmem
        obtain ⟨item, hitem, rfl⟩ := List.mem_map.mp hmem
        exact honly item hitem
      · intro hmem
        obtain ⟨item, hitem, rfl⟩ := List.mem_map.mp hmem
        exact hall item hitem
    rcases hknown with hnone | hknown
    · -- the first discovery
      rw [hnone, List.nil_append] at hkeys
      rw [hnone, List.filter_eq_self.mpr (by simp)] at hextra
      refine ⟨Or.inr ?_, fun h => absurd hnone h⟩
      have hmap : (keysOf (op.perform w).db).map Prod.snd =
          (uniqueItems imported).rows.map MediaItemData.key := by
        rw [hrest, hkeys, hextra]
      exact ⟨hmap ▸ (uniqueItems imported).nodup, fun key => hmap ▸ hsame key⟩
    · -- a later one, which finds all of its items
      have hnew : extra = [] := by
        rw [← List.map_eq_nil_iff (f := Prod.snd), hextra, List.filter_eq_nil_iff]
        intro key hkey
        have hthere := (hknown.same key).mpr ((hsame key).mp hkey)
        simpa using hthere
      rw [hnew, List.append_nil] at hkeys
      have hend := hrest.trans hkeys
      exact ⟨Or.inr ⟨hend ▸ hknown.nodup, hend ▸ hknown.same⟩, fun _ => hend⟩

/-- **What a careful step leaves of what a confirmation derived.** -/
theorem Careful.values (hcareful : Careful items w op) (hsound : Sound w)
    {media : Models.MediaItem} (hmedia : media ∈ w.db.media)
    (hfinal : confirmedReviews w.db media.id ≠ []) :
    ∃ media', KeepsValues w.db (op.perform w).db media media' := by
  rcases op.perform_imports hsound with ⟨agent, hplain, hmoves⟩ | ⟨imported, hbrings, db₁, himported,
    hmoves⟩
  · exact moves_keepsValues hmoves hplain hmedia hfinal
  · have hsame : ∀ item ∈ uniqueItems imported, item.key = mediaKey media →
        upstreamValues item = derivedValues media := fun item hitem hkey =>
      (hcareful.brings imported hbrings).2.2 item hitem media hmedia hkey.symm hfinal
    obtain ⟨media₁, hmem₁, hid₁, hvalues₁⟩ := himported.values media hmedia hsame
    have hreviews : confirmedReviews db₁ media.id = confirmedReviews w.db media.id := by
      obtain ⟨table, rfl⟩ := himported.only
      rfl
    have hkept : KeepsValues w.db db₁ media media₁ := ⟨hmem₁, hid₁, hvalues₁, hreviews⟩
    obtain ⟨media', hkept'⟩ := moves_keepsValues hmoves nofun hmem₁ (by
      rw [hid₁, hreviews]
      exact hfinal)
    exact ⟨media', hkept.trans hkept'⟩

/-- What careful steps leave of the keys, and of what a confirmation derived. -/
theorem careful_run (items : List MediaItemData) (later : List Operation) (w : World)
    (hsound : Sound w) (hknown : keysOf w.db = [] ∨ Known items w.db)
    (h : EveryStep (Careful items) w later) :
    (keysOf (later.foldl (fun w op => op.perform w) w).db = [] ∨
        Known items (later.foldl (fun w op => op.perform w) w).db) ∧
      (keysOf w.db ≠ [] →
        keysOf (later.foldl (fun w op => op.perform w) w).db = keysOf w.db) ∧
      ∀ media ∈ w.db.media, confirmedReviews w.db media.id ≠ [] → ∃ media',
        KeepsValues w.db (later.foldl (fun w op => op.perform w) w).db media media' := by
  induction later generalizing w with
  | nil => exact ⟨hknown, fun _ => rfl, fun media hmedia _ => ⟨media, hmedia, rfl, rfl, rfl⟩⟩
  | cons op later ih =>
      obtain ⟨hcareful, hlater⟩ := h
      obtain ⟨hknown', hkeys⟩ := hcareful.keys hsound hknown
      obtain ⟨hend, hkeys', hvalues⟩ := ih _ (op.perform_sound hsound) hknown' hlater
      refine ⟨hend, fun hsome => ?_, fun media hmedia hfinal => ?_⟩
      · have hsome' : keysOf (op.perform w).db ≠ [] := by
          rw [hkeys hsome]
          exact hsome
        exact (hkeys' hsome').trans (hkeys hsome)
      · obtain ⟨media', hkept⟩ := hcareful.values hsound hmedia hfinal
        have hstill : confirmedReviews (op.perform w).db media'.id ≠ [] := by
          rw [hkept.id, hkept.reviews]
          exact hfinal
        obtain ⟨media'', hkept'⟩ := hvalues media' hkept.row hstill
        exact ⟨media'', hkept.trans hkept'⟩

/-- **Repeated discoveries of what was confirmed as it is.**  In a run in which every discovery
brings the same items, no confirmation changes what a media item was imported as, and a discovery
says of a confirmed media item what the confirmation derived: once something is imported, each item
is exactly one media item, a later discovery adds none, and what a confirmation derived stays. -/
theorem discoveries_idempotent (items : List MediaItemData) (ops later : List Operation)
    (h : EveryStep (Careful items) {} (ops ++ later)) :
    (keysOf (World.run ops).db ≠ [] →
      (∀ item ∈ items, ∃! media, media ∈ (World.run ops).db.media ∧ mediaKey media = item.key) ∧
      (∀ media ∈ (World.run ops).db.media, ∃ item ∈ items, item.key = mediaKey media) ∧
      keysOf (World.run (ops ++ later)).db = keysOf (World.run ops).db) ∧
    ∀ media ∈ (World.run ops).db.media, confirmedReviews (World.run ops).db media.id ≠ [] →
      ∃ media' ∈ (World.run (ops ++ later)).db.media, media'.id = media.id ∧
        derivedValues media' = derivedValues media := by
  obtain ⟨hfirst, hlater⟩ := EveryStep.append.mp h
  have hsound : Sound (World.run ops) :=
    (World.run_invariant (P := fun _ => True) trivial (fun _ _ _ _ _ => trivial) ops).2
  obtain ⟨hknown, -, -⟩ := careful_run items ops {} sound_empty (Or.inl rfl) hfirst
  obtain ⟨-, hkeys, hvalues⟩ := careful_run items later (World.run ops) hsound hknown hlater
  have heq : World.run (ops ++ later) = later.foldl (fun w op => op.perform w) (World.run ops) :=
    List.foldl_append
  rw [heq]
  refine ⟨fun hsome => ?_, fun media hmedia hfinal => ?_⟩
  · have hone : Known items (World.run ops).db := hknown.resolve_left hsome
    have hmap : (keysOf (World.run ops).db).map Prod.snd =
        (World.run ops).db.media.rows.map mediaKey := by
      unfold keysOf
      rw [List.map_map]
      rfl
    refine ⟨fun item hitem => ?_, fun media hmedia => ?_, hkeys hsome⟩
    · obtain ⟨media, hmedia, hkey⟩ :=
        mem_map_keysOf.mp ((hone.same item.key).mpr (List.mem_map_of_mem hitem))
      refine ⟨media, ⟨hmedia, hkey⟩, ?_⟩
      rintro other ⟨hother, hkey'⟩
      exact List.inj_on_of_nodup_map (hmap ▸ hone.nodup) hother hmedia (hkey'.trans hkey.symm)
    · have hmem := (hone.same (mediaKey media)).mp (mem_map_keysOf.mpr ⟨media, hmedia, rfl⟩)
      obtain ⟨item, hitem, hkey⟩ := List.mem_map.mp hmem
      exact ⟨item, hitem, hkey⟩
  · obtain ⟨media', hkept⟩ := hvalues media hmedia hfinal
    exact ⟨media', hkept.row, hkept.id, hkept.values⟩

end Runs

/-! ### A film that is imported twice -/

/-- The environment of the sample. -/
def sampleEnvironment : IdentityEnvironment where
  clock _ := 4
  newId i := sampleUuid ⟨i % 10, digit_lt i⟩
  searchableSite _ := none

/-- A run in which a film is discovered and resolved. -/
def discoveredRun (film : MediaItemData) : List Operation :=
  [.startDiscovery true {} (sampleUuid 0, sampleUuid 1) 0,
    .claimJob sampleProcessor (sampleUuid 2) 1 fun _ => false,
    .completeDiscovery sampleProcessor sampleDiscovery [film] (fun _ => sampleUuid 3)
      (fun _ => sampleUuid 4) 2,
    .claimJob sampleProcessor (sampleUuid 5) 3 fun _ => false,
    .completeResolution sampleProcessor
      (claimedJob sampleProcessor (sampleUuid 5) 3
        (resolutionJob (createdMedia film (sampleUuid 3)) 3 (sampleUuid 4) 2))
      [knownRecord] {} (fun _ => sampleUuid 6) sampleEnvironment]

/-- Another discovery of the film. -/
def rediscoveredRun (film : MediaItemData) : List Operation :=
  [.startDiscovery true {} (sampleUuid 7, sampleUuid 8) 5,
    .claimJob sampleProcessor (sampleUuid 9) 6 fun _ => false,
    .completeDiscovery sampleProcessor
      (claimedJob sampleProcessor (sampleUuid 9) 6
        (@discoveryJob asciiWorkflow "nextfind" (sampleUuid 7).text 3 (sampleUuid 8) 5))
      [film] (fun _ => sampleUuid 1) (fun _ => sampleUuid 5) 7]

/-- The film, as the source knows it once it is resolved: its identity is confirmed by the rule. -/
def resolvedFilm : MediaItemData :=
  { knownFilm with metadataStatus := .resolved }

/-- A film that the source knows no identifier of. -/
def unknownFilm : MediaItemData :=
  { knownFilm with tmdbId := none }

/-- The resolved film is imported once, and what its confirmation derived stays. -/
theorem discoveries_idempotent_resolved :
    (∀ item ∈ [resolvedFilm], ∃! media,
      media ∈ (@World.run asciiWorkflow (discoveredRun resolvedFilm)).db.media ∧
        mediaKey media = item.key) ∧
    keysOf (@World.run asciiWorkflow
        (discoveredRun resolvedFilm ++ rediscoveredRun resolvedFilm)).db =
      keysOf (@World.run asciiWorkflow (discoveredRun resolvedFilm)).db := by
  have hrun := @discoveries_idempotent asciiWorkflow [resolvedFilm] (discoveredRun resolvedFilm)
    (rediscoveredRun resolvedFilm) (by decide +kernel)
  obtain ⟨hone, -, hkeys⟩ := hrun.1 (by decide +kernel)
  exact ⟨hone, hkeys⟩

/-- An operator confirms the film that has no identifier, which fills it in; the next discovery
brings the film as it was, does not find it, and imports it again. -/
theorem discovery_imports_again :
    ¬ ∀ (runtime : WorkflowRuntime) (items : List MediaItemData) (ops : List Operation),
      (∀ op ∈ ops, op.brought.all (· = items) = true) →
        (@World.run runtime ops).db.media.rows.length ≤ items.length := by
  intro h
  have htwo := h asciiWorkflow [unknownFilm]
    (discoveredRun unknownFilm ++ .confirmIdentity (sampleUuid 3).text 0 (sampleUuid 6).text "admin"
      {} sampleEnvironment :: rediscoveredRun unknownFilm) (by decide +kernel)
  exact absurd htwo (by decide +kernel)

end LibSeek.Workflow
