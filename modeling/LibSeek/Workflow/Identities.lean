/-
Final identities.

A confirmed review, a search or a status shows that the identity of a media item is final.  Every
unit of work that could change an identity asks for this evidence once the row of the media item is
locked, so that an identity that is final stays what it is, whatever a worker still brings, and
however old what a session holds of the media item is: reviews and searches are read anew.

Main definitions:

* `Workflow.IdentityInvariant` — what reviews, searches and media items say of each other;
* `Workflow.Final` — what becomes of a media item whose identity is final.

Main results:

* `Workflow.Move.identityInvariant` — every change keeps it;
* `Workflow.Move.final` — what one change does to a final identity;
* `Workflow.identity_final` — **a final identity is final**.
-/

import LibSeek.Workflow.Searches

set_option relaxedAutoImplicit false
set_option autoImplicit false

namespace LibSeek.Workflow

open LibSeek.Core LibSeek.Lib LibSeek.Models LibSeek.Schemas LibSeek.Services LibSeek.Workers

/-! ### Reviews -/

section Reviews

variable {db : WorkflowDb} {mediaId : String}

theorem mem_confirmedReviews {review : IdentityReview} :
    review ∈ confirmedReviews db mediaId ↔
      review ∈ db.reviews ∧ review.mediaId = mediaId ∧ review.status = "CONFIRMED" := by
  unfold confirmedReviews
  rw [List.mem_filter, decide_eq_true_iff, Table.mem_rows]

/-- A new review of another media item. -/
theorem confirmedReviews_save {review : IdentityReview} {db' : WorkflowDb}
    (hnew : db.reviews.get? review.id = none) (hother : review.mediaId ≠ mediaId)
    (hsame : db'.reviews = db.reviews.save review) :
    confirmedReviews db' mediaId = confirmedReviews db mediaId := by
  unfold confirmedReviews
  rw [hsame, Table.rows_save_of_new hnew, List.filter_append]
  have hnone : decide (review.mediaId = mediaId ∧ review.status = "CONFIRMED") = false :=
    decide_eq_false fun h => hother h.1
  rw [List.filter_cons_of_neg (by rw [hnone]; exact Bool.false_ne_true), List.filter_nil,
    List.append_nil]

theorem confirmedReviews_congr {db' : WorkflowDb} (h : db'.reviews = db.reviews) :
    confirmedReviews db' mediaId = confirmedReviews db mediaId := by
  unfold confirmedReviews
  rw [h]

end Reviews

/-! ### Statuses of media items -/

section Statuses

variable {db : WorkflowDb} {mediaId : String}

/-- A status of the precedence is one of a media item that has an identity. -/
theorem isUnresolved_of_folded {status : WorkflowStatus}
    (h : foldedSearchStatus db mediaId = some status) : isUnresolved status = false := by
  have hmem := List.mem_of_find?_eq_some h
  simp only [SEARCH_STATUS_PRECEDENCE, List.mem_cons, List.not_mem_nil, or_false] at hmem
  rcases hmem with rfl | rfl | rfl | rfl | rfl <;> rfl

/-- A media item after a refresh: at most its status is another one. -/
theorem refreshed_row (mediaId : String) {media : Models.MediaItem} (h : media ∈ db.media) :
    ∃ media' ∈ (refreshed mediaId db).media,
      media' = { media with workflowStatus := media'.workflowStatus } ∧
        (media' = media ∨ isUnresolved media'.workflowStatus = false) := by
  unfold refreshed
  split
  · rename_i row status hrow hfold
    obtain ⟨hmem, rfl⟩ := mem_of_get? hrow
    by_cases hid : media.id = row.id
    · rw [Table.eq_of_key_eq h hmem hid]
      exact ⟨_, Table.mem_save_self _ _, rfl, Or.inr (isUnresolved_of_folded hfold)⟩
    · exact ⟨media, Table.mem_save_of_ne h hid, rfl, Or.inl rfl⟩
  · exact ⟨media, h, rfl, Or.inl rfl⟩

/-- A row after a refresh was a row before, but for its status. -/
theorem row_of_refreshed {media' : Models.MediaItem} (h : media' ∈ (refreshed mediaId db).media) :
    ∃ media ∈ db.media, media' = { media with workflowStatus := media'.workflowStatus } ∧
      (media' = media ∨ media.id = mediaId ∧
        foldedSearchStatus db mediaId = some media'.workflowStatus) := by
  unfold refreshed at h
  split at h
  · rename_i row status hrow hfold
    obtain ⟨hmem, rfl⟩ := mem_of_get? hrow
    rcases Table.mem_save.mp h with rfl | ⟨hold, -⟩
    · exact ⟨row, hmem, rfl, Or.inr ⟨rfl, hfold⟩⟩
    · exact ⟨media', hold, rfl, Or.inl rfl⟩
  · exact ⟨media', h, rfl, Or.inl rfl⟩

end Statuses

/-! ### The invariant -/

/-- **What reviews, searches and media items say of each other.** -/
structure IdentityInvariant (db : WorkflowDb) : Prop where
  single : ∀ mediaId, (confirmedReviews db mediaId).length ≤ 1
  housed : ∀ review ∈ db.reviews, (db.media.get? review.mediaId).isSome = true
  searched : ∀ run ∈ db.searchRuns, confirmedReviews db run.mediaId ≠ []
  backed : ∀ media ∈ db.media, media.workflowStatus = .identityConfirmed →
    confirmedReviews db media.id ≠ []
  settled : ∀ media ∈ db.media, confirmedReviews db media.id ≠ [] →
    isUnresolved media.workflowStatus = false

theorem identityInvariant_empty : IdentityInvariant {} where
  single _ := Nat.zero_le 1
  housed _ h := absurd h (Table.notMem_empty _)
  searched _ h := absurd h (Table.notMem_empty _)
  backed _ h := absurd h (Table.notMem_empty _)
  settled _ h := absurd h (Table.notMem_empty _)

namespace IdentityInvariant

variable {db : WorkflowDb}

/-- Every evidence comes down to a confirmed review. -/
theorem evidence_iff (h : IdentityInvariant db) {media : Models.MediaItem}
    (hmedia : media ∈ db.media) :
    identityFinalizationEvidence db media ≠ none ↔ confirmedReviews db media.id ≠ [] := by
  constructor
  · intro hevidence hnone
    refine hevidence ?_
    unfold identityFinalizationEvidence
    rw [if_neg (not_not.mpr hnone), if_neg, if_neg]
    · exact fun hstatus => h.backed media hmedia hstatus hnone
    · intro hany
      obtain ⟨run, hrun, hid⟩ := List.any_eq_true.mp hany
      rw [decide_eq_true_iff] at hid
      exact h.searched run hrun (hid ▸ hnone)
  · intro hreviews hnone
    exact hreviews (open_of_evidence hnone).1

/-- A write of a media item. -/
theorem save_media (h : IdentityInvariant db) {media : Models.MediaItem}
    (hbacked : media.workflowStatus = .identityConfirmed → confirmedReviews db media.id ≠ [])
    (hsettled : confirmedReviews db media.id ≠ [] → isUnresolved media.workflowStatus = false) :
    IdentityInvariant { db with media := db.media.save media } where
  single := h.single
  housed review hreview := Table.isSome_get?_save (h.housed review hreview)
  searched := h.searched
  backed := Table.forall_mem_save h.backed hbacked
  settled := Table.forall_mem_save h.settled hsettled

/-- A write of a media item, which keeps its status. -/
theorem save_media_same (h : IdentityInvariant db) {media media' : Models.MediaItem}
    (hrow : media ∈ db.media) (hid : media'.id = media.id)
    (hstatus : media'.workflowStatus = media.workflowStatus) :
    IdentityInvariant { db with media := db.media.save media' } := by
  refine h.save_media ?_ ?_
  · rw [hid, hstatus]
    exact h.backed media hrow
  · rw [hid, hstatus]
    exact h.settled media hrow

/-- A refresh after writes to the searches. -/
theorem refreshed (h : IdentityInvariant db) {mediaId : String} {db' : WorkflowDb}
    (hreviews : db'.reviews = db.reviews) (hmedia : db'.media = db.media)
    (hsearched : ∀ run ∈ db'.searchRuns, confirmedReviews db run.mediaId ≠ []) :
    IdentityInvariant (Workflow.refreshed mediaId db') := by
  -- a refresh writes statuses of the search, and no review
  have hsame : ∀ id, confirmedReviews (Workflow.refreshed mediaId db') id =
      confirmedReviews db id := by
    intro id
    exact confirmedReviews_congr ((refreshed_reviews mediaId db').trans hreviews)
  refine ⟨?_, ?_, ?_, ?_, ?_⟩
  · intro id
    rw [hsame]
    exact h.single id
  · intro review hreview
    rw [refreshed_reviews, hreviews] at hreview
    obtain ⟨media, hget⟩ := Option.isSome_iff_exists.mp (h.housed review hreview)
    rw [← hmedia] at hget
    obtain ⟨hmem, hid⟩ := mem_of_get? hget
    obtain ⟨media', hmem', heq, -⟩ := refreshed_row mediaId hmem
    refine Option.isSome_iff_exists.mpr ⟨media', Table.get?_eq_some.mpr ⟨hmem', ?_⟩⟩
    rw [heq]
    exact hid
  · intro run hrun
    rw [refreshed_searchRuns] at hrun
    rw [hsame]
    exact hsearched run hrun
  · intro media' hmem' hstatus
    obtain ⟨media, hmem, heq, hcase⟩ := row_of_refreshed hmem'
    rw [hmedia] at hmem
    have hid : media'.id = media.id := by rw [heq]
    rw [hsame, hid]
    rcases hcase with rfl | ⟨-, hfold⟩
    · exact h.backed media' hmem hstatus
    · rw [hstatus] at hfold
      have hmem := List.mem_of_find?_eq_some hfold
      simp [SEARCH_STATUS_PRECEDENCE] at hmem
  · intro media' hmem' hreviewed
    obtain ⟨media, hmem, heq, hcase⟩ := row_of_refreshed hmem'
    rw [hmedia] at hmem
    have hid : media'.id = media.id := by rw [heq]
    rw [hsame, hid] at hreviewed
    rcases hcase with rfl | ⟨-, hfold⟩
    · exact h.settled media' hmem hreviewed
    · exact isUnresolved_of_folded hfold

/-- A write of a run that stays for its media item, and a refresh. -/
theorem refreshedFor (h : IdentityInvariant db) {mediaId : Option String} {queue : Table Job}
    {run run' : TorrentSearchRun} (hrun : run ∈ db.searchRuns) (hkept : SameRun run run') :
    IdentityInvariant (Workflow.refreshedFor mediaId
      { db with searchRuns := db.searchRuns.save run', queue }) := by
  have hall : ∀ other ∈ db.searchRuns.save run', confirmedReviews db other.mediaId ≠ [] :=
    Table.forall_mem_save h.searched (hkept.mediaId ▸ h.searched run hrun)
  cases mediaId with
  | none => exact ⟨h.single, h.housed, hall, h.backed, h.settled⟩
  | some mediaId => exact h.refreshed rfl rfl hall

end IdentityInvariant

variable [WorkflowRuntime]

/-- **Every change keeps what reviews, searches and media items say of each other.** -/
theorem Move.identityInvariant {agent : Agent} {db db' : WorkflowDb} (hmove : Move agent db db')
    (h : IdentityInvariant db) : IdentityInvariant db' := by
  cases hmove with
  | aside | matched | found | queued | worked | overwritten =>
      exact ⟨h.single, h.housed, h.searched, h.backed, h.settled⟩
  | @unsettled held media media' hrow hheld hopen hsame hstatus =>
      have hnone := (open_of_evidence hopen).1
      rw [hheld] at hnone
      refine h.save_media (fun hconfirmed => ?_) fun hreviewed => ?_
      · -- the status is an open one, or the row has it already
        rcases hstatus with hunresolved | hkept
        · rw [hconfirmed] at hunresolved
          cases hunresolved
        · rw [hsame.id]
          exact h.backed media hrow (hkept.symm.trans hconfirmed)
      · rw [hsame.id] at hreviewed
        exact absurd hnone hreviewed
  | @confirmed held media review candidate hagent hrow hheld hopen hunique hnew hreview hstatus
      hsnapshot =>
      have hnone := (open_of_evidence hopen).1
      rw [hheld] at hnone
      have hself : confirmedReviews { db with reviews := db.reviews.save review } media.id =
          [review] := by
        unfold confirmedReviews at hnone ⊢
        rw [Table.rows_save_of_new hnew, List.filter_append, hnone, List.nil_append]
        exact List.filter_cons_of_pos (decide_eq_true ⟨hreview, hstatus⟩)
      have hothers : ∀ id, id ≠ media.id →
          confirmedReviews { db with reviews := db.reviews.save review } id =
            confirmedReviews db id :=
        fun id hne => confirmedReviews_save hnew (hreview ▸ hne.symm) rfl
      have hkept : ∀ id, confirmedReviews db id ≠ [] →
          confirmedReviews { db with reviews := db.reviews.save review } id ≠ [] := by
        intro id hne
        rw [hothers id fun hid => hne (hid ▸ hnone)]
        exact hne
      refine ⟨fun id => ?_, ?_, fun run hrun => hkept _ (h.searched run hrun), ?_, ?_⟩
      · by_cases hid : id = media.id
        · subst hid
          exact hself ▸ Nat.le_refl 1
        · exact hothers id hid ▸ h.single id
      · refine Table.forall_mem_save (fun other hother =>
          Table.isSome_get?_save (h.housed other hother)) ?_
        rw [hreview]
        exact Option.isSome_iff_exists.mpr ⟨_, Table.get?_save_self _ _⟩
      · refine Table.forall_mem_save (fun other hother hconfirmed =>
          hkept _ (h.backed other hother hconfirmed)) fun _ => ?_
        exact hself ▸ List.cons_ne_nil _ _
      · refine fun other hother hreviewed => ?_
        rcases Table.mem_save.mp hother with rfl | ⟨hold, hne⟩
        · rw [workflowStatus_confirmed hopen candidate media]
          rfl
        · exact h.settled other hold (hothers other.id hne ▸ hreviewed)
  | @created items item newId hagent hitem hnone hnew =>
      refine h.save_media nofun fun hreviewed => ?_
      -- a review has a media item, which the new one is not
      obtain ⟨review, hreview⟩ := List.exists_mem_of_ne_nil _ hreviewed
      obtain ⟨hmem, hid, -⟩ := mem_confirmedReviews.mp hreview
      have hhoused := h.housed review hmem
      rw [hid] at hhoused
      exact absurd hhoused (Option.not_isSome_iff_eq_none.mpr hnew)
  | updated hagent hitem hexisting =>
      exact h.save_media_same (existingMedia_row hexisting).1 rfl rfl
  | located hagent hrow => exact h.save_media_same hrow rfl rfl
  | searchQueued hagent hsearch =>
      exact h.refreshed rfl rfl (Table.forall_mem_save h.searched hsearch.review)
  | searchConcealed houtdated hagent hsearch =>
      exact ⟨h.single, h.housed, Table.forall_mem_save h.searched hsearch.review, h.backed,
        h.settled⟩
  | @searched row row' run run' hrow hsame hactive hrun hkept hagree =>
      obtain ⟨runId, -, hget⟩ := Option.bind_eq_some_iff.mp hrun
      exact h.refreshedFor (Table.mem_of_get?_eq_some hget) hkept
  | runOverwritten houtdated hrun hkept => exact h.refreshedFor hrun hkept

/-! ### Final identities -/

/-- Whether an operation is one of a discovery, which imports what the catalogue says. -/
def Operation.isDiscovery : Operation → Bool
  | .completeDiscovery .. | .checkpointCountries .. => true
  | _ => false

omit [WorkflowRuntime] in
/-- A discovery may import something, and nothing else may. -/
theorem Operation.imports_isSome [WorkflowRuntime] (op : Operation) (w : World) :
    (op.agent w).imports.isSome = op.isDiscovery := by
  cases op <;> rfl

/-- **What becomes of a media item whose identity is final**: only a discovery writes anything but
the status of its searches. -/
structure Final (imports : Bool) (db : WorkflowDb) (media : Models.MediaItem) (db' : WorkflowDb)
    (media' : Models.MediaItem) : Prop where
  row : media' ∈ db'.media
  id : media'.id = media.id
  same : imports = false → media' = { media with workflowStatus := media'.workflowStatus }
  reviews : confirmedReviews db' media.id = confirmedReviews db media.id

omit [WorkflowRuntime] in
theorem Final.refl {imports : Bool} {db : WorkflowDb} {media : Models.MediaItem}
    (h : media ∈ db.media) : Final imports db media db media :=
  ⟨h, rfl, fun _ => rfl, rfl⟩

omit [WorkflowRuntime] in
theorem Final.trans {imports : Bool} {db db' db'' : WorkflowDb} {media media' media'' : _}
    (h : Final imports db media db' media') (h' : Final imports db' media' db'' media'') :
    Final imports db media db'' media'' := by
  refine ⟨h'.row, h'.id.trans h.id, fun himports => ?_, ?_⟩
  · rw [h'.same himports, h.same himports]
  · rw [← h.reviews, ← h.id, h'.reviews, h.id]

omit [WorkflowRuntime] in
theorem Final.mono {imports imports' : Bool} {db db' : WorkflowDb} {media media' : _}
    (h : Final imports db media db' media') (hle : imports' = false → imports = false) :
    Final imports' db media db' media' :=
  ⟨h.row, h.id, fun himports => h.same (hle himports), h.reviews⟩

omit [WorkflowRuntime] in
/-- What is final stays final. -/
theorem Final.still {imports : Bool} {db db' : WorkflowDb} {media media' : _}
    (h : Final imports db media db' media') (hfinal : confirmedReviews db media.id ≠ []) :
    confirmedReviews db' media'.id ≠ [] := by
  rw [h.id, h.reviews]
  exact hfinal

section OneChange

variable {imports : Bool} {db db' : WorkflowDb} {media : Models.MediaItem}

omit [WorkflowRuntime] in
/-- A write of another media item. -/
theorem final_save_other (hmedia : media ∈ db.media) {other : Models.MediaItem}
    (hne : media.id ≠ other.id) (hsame : db'.media = db.media.save other)
    (hreviews : confirmedReviews db' media.id = confirmedReviews db media.id) :
    ∃ media', Final imports db media db' media' := by
  refine ⟨media, ?_, rfl, fun _ => rfl, hreviews⟩
  rw [hsame]
  exact Table.mem_save_of_ne hmedia hne

omit [WorkflowRuntime] in
/-- A discovery writes a media item. -/
theorem final_save_import (hmedia : media ∈ db.media) {row row' : Models.MediaItem}
    (hrow : row ∈ db.media) (hid : row'.id = row.id) :
    ∃ media', Final true db media { db with media := db.media.save row' } media' := by
  by_cases hsame : media.id = row.id
  · rw [Table.eq_of_key_eq hmedia hrow hsame]
    exact ⟨row', Table.mem_save_self _ _, hid, nofun, rfl⟩
  · exact final_save_other hmedia (hid ▸ hsame) rfl rfl

omit [WorkflowRuntime] in
/-- A refresh after writes to the searches. -/
theorem final_refreshed (hmedia : media ∈ db.media) {mediaId : Option String}
    (hsame : db'.media = db.media) (hreviews : db'.reviews = db.reviews) :
    ∃ media', Final imports db media (refreshedFor mediaId db') media' := by
  cases mediaId with
  | none => exact ⟨media, hsame ▸ hmedia, rfl, fun _ => rfl, confirmedReviews_congr hreviews⟩
  | some mediaId =>
      rw [← hsame] at hmedia
      obtain ⟨media', hmem', heq, -⟩ := refreshed_row mediaId hmedia
      refine ⟨media', hmem', ?_, fun _ => heq, ?_⟩
      · rw [heq]
      · exact confirmedReviews_congr ((refreshed_reviews mediaId db').trans hreviews)

end OneChange

/-- **What one change does to a final identity.** -/
theorem Move.final {agent : Agent} {db db' : WorkflowDb} (hmove : Move agent db db')
    {media : Models.MediaItem} (hmedia : media ∈ db.media)
    (hfinal : confirmedReviews db media.id ≠ []) :
    ∃ media', Final agent.imports.isSome db media db' media' := by
  cases hmove with
  | aside | matched | found | queued | worked | overwritten | searchConcealed =>
      exact ⟨media, hmedia, rfl, fun _ => rfl, rfl⟩
  | unsettled hrow hheld hopen hsame hstatus =>
      refine final_save_other hmedia (fun hid => hfinal ?_) rfl rfl
      rw [hid, hsame.id, ← hheld]
      exact (open_of_evidence hopen).1
  | @confirmed held other review candidate hagent hrow hheld hopen hunique hnew hreview hstatus
      hsnapshot =>
      have hne : media.id ≠ other.id := by
        intro hid
        rw [hid, ← hheld] at hfinal
        exact hfinal (open_of_evidence hopen).1
      have hreviews : confirmedReviews { db with reviews := db.reviews.save review } media.id =
          confirmedReviews db media.id :=
        confirmedReviews_save hnew (hreview ▸ hne.symm) rfl
      exact ⟨media, Table.mem_save_of_ne hmedia hne, rfl, fun _ => rfl, hreviews⟩
  | created hagent hitem hnone hnew =>
      exact final_save_other hmedia (Table.get?_eq_none.mp hnew media hmedia) rfl rfl
  | updated hagent hitem hexisting =>
      rw [hagent]
      exact final_save_import hmedia (existingMedia_row hexisting).1 rfl
  | located hagent hrow =>
      rw [hagent]
      exact final_save_import hmedia hrow rfl
  | @searchQueued run job =>
      change ∃ media', Final _ db media (refreshedFor (some run.mediaId) _) media'
      exact final_refreshed hmedia rfl rfl
  | searched | runOverwritten => exact final_refreshed hmedia rfl rfl

/-- What a sequence of changes does to a final identity. -/
theorem moves_final {agent : Agent} {db db' : WorkflowDb} (hmoves : Moves (Move agent) db db')
    (hinvariant : IdentityInvariant db) {media : Models.MediaItem} (hmedia : media ∈ db.media)
    (hfinal : confirmedReviews db media.id ≠ []) :
    IdentityInvariant db' ∧ ∃ media', Final agent.imports.isSome db media db' media' := by
  induction hmoves with
  | refl => exact ⟨hinvariant, media, Final.refl hmedia⟩
  | tail _ hmove ih =>
      obtain ⟨hinv, media', hkept⟩ := ih
      refine ⟨hmove.identityInvariant hinv, ?_⟩
      obtain ⟨media'', hkept'⟩ := hmove.final hkept.row (hkept.still hfinal)
      exact ⟨media'', hkept.trans hkept'⟩

/-- **A final identity is final**: in every run, a media item has at most one confirmed review; and
once there is evidence that its identity is final, there still is after any further run, its
confirmed review is the same, its status is none of an open identity, and but for discoveries
nothing else of it has changed. -/
theorem identity_final (ops later : List Operation) :
    (∀ mediaId, (confirmedReviews (World.run (ops ++ later)).db mediaId).length ≤ 1) ∧
    ∀ media ∈ (World.run ops).db.media,
      identityFinalizationEvidence (World.run ops).db media ≠ none →
        ∃ media' ∈ (World.run (ops ++ later)).db.media,
          media'.id = media.id ∧
          identityFinalizationEvidence (World.run (ops ++ later)).db media' ≠ none ∧
          confirmedReviews (World.run (ops ++ later)).db media.id =
            confirmedReviews (World.run ops).db media.id ∧
          isUnresolved media'.workflowStatus = false ∧
          ((∀ op ∈ later, op.isDiscovery = false) →
            media' = { media with workflowStatus := media'.workflowStatus }) := by
  have hrun : ∀ ops, IdentityInvariant (World.run ops).db ∧ Sound (World.run ops) :=
    World.run_invariant identityInvariant_empty fun _ _ _ h hmove => hmove.identityInvariant h
  refine ⟨(hrun (ops ++ later)).1.single, fun media hmedia hevidence => ?_⟩
  have hfinal := ((hrun ops).1.evidence_iff hmedia).mp hevidence
  -- one operation after the other
  have hlater : ∀ (later : List Operation) (w : World), Sound w → IdentityInvariant w.db →
      ∀ media ∈ w.db.media, confirmedReviews w.db media.id ≠ [] → ∃ media',
        Final (later.any Operation.isDiscovery) w.db media
          (later.foldl (fun w op => op.perform w) w).db media' := by
    intro later
    induction later with
    | nil => exact fun w _ _ media hmedia _ => ⟨media, Final.refl hmedia⟩
    | cons op later ih =>
        intro w hsound hinv media hmedia hfinal
        obtain ⟨hinv', media', hkept⟩ :=
          moves_final (op.perform_moves hsound) hinv hmedia hfinal
        obtain ⟨media'', hkept'⟩ :=
          ih _ (op.perform_sound hsound) hinv' media' hkept.row (hkept.still hfinal)
        refine ⟨media'', (hkept.mono fun h => ?_).trans (hkept'.mono fun h => ?_)⟩
        · rw [op.imports_isSome]
          exact (Bool.or_eq_false_iff.mp h).1
        · exact (Bool.or_eq_false_iff.mp h).2
  obtain ⟨media', hkept⟩ := hlater later _ (hrun ops).2 (hrun ops).1 media hmedia hfinal
  have heq : World.run (ops ++ later) = later.foldl (fun w op => op.perform w) (World.run ops) :=
    List.foldl_append
  rw [← heq] at hkept
  have hstill := hkept.still hfinal
  have hinv := (hrun (ops ++ later)).1
  refine ⟨media', hkept.row, hkept.id, (hinv.evidence_iff hkept.row).mpr hstill, hkept.reviews,
    hinv.settled media' hkept.row hstill, fun hplain => hkept.same ?_⟩
  rw [List.any_eq_false]
  intro op hop
  rw [hplain op hop]
  exact Bool.false_ne_true

end LibSeek.Workflow
