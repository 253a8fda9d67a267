/-
The routes of the workflow.

An operator starts a discovery, asks for a resolution, confirms an identity and asks for a search.
Each route first asks whether the policy has its stage disabled, and ends in a commit.

Main definitions:

* `Services.createDiscoveryRun` — the runs of a discovery;
* `Api.startDiscovery`, `Api.resolveMedia`, `Api.createIdentityConfirmation`,
  `Api.createTorrentSearch` — the routes.
-/

import LibSeek.Services.IdentityAutomation

set_option relaxedAutoImplicit false
set_option autoImplicit false

namespace LibSeek.Services

open LibSeek.Core LibSeek.Lib LibSeek.Models LibSeek.Schemas

variable [WorkflowRuntime]

/-- `find_active_discovery_run`: the newest run of a source with an active job. -/
def findActiveDiscoveryRun (db : WorkflowDb) (source : String) : Option DiscoveryRun :=
  newest DiscoveryRun.createdAt (db.discoveryRuns.rows.filter fun run =>
    run.source = source ∧ db.queue.rows.any fun j =>
      j.runId = some run.id ∧ j.jobType = .discover (NextFindRuntime.upper source) ∧
        isActiveJob j.status)

/-- The job of a discovery. -/
def discoveryJob (source runId : String) (maxAttempts : ℕ) (newId : Uuid) (now : DateTime) :
    Job where
  id := newId.text
  jobType := .discover (NextFindRuntime.upper source)
  status := .pending
  payload := { source := some source }
  runId := some runId
  maxAttempts := maxAttempts
  createdAt := now

omit [WorkflowRuntime] in
/-- A new run, whose identifier is new. -/
def insertDiscoveryRun (run : DiscoveryRun) : WorkflowTx Unit := do
  let db ← Tx.get
  Tx.require (db.discoveryRuns.get? run.id = none) .integrity
  saveDiscoveryRun run

/-- The last part of `create_discovery_run`: there is no active run yet. -/
def queueDiscovery (source : String) (maxAttempts : ℕ) (newIds : Uuid × Uuid) (now : DateTime) :
    WorkflowTx (DiscoveryRun × Bool) := do
  let run : DiscoveryRun := { id := newIds.1.text, source, status := .pending, createdAt := now }
  insertDiscoveryRun run
  insertQueuedJob (discoveryJob source run.id maxAttempts newIds.2 now)
  addAudit "DISCOVERY_RUN_CREATED" "discovery_run" run.id
  return (run, false)

/-- `create_discovery_run`. -/
def createDiscoveryRun (source : String) (maxAttempts : ℕ) (newIds : Uuid × Uuid)
    (now : DateTime) : WorkflowTx (DiscoveryRun × Bool) := do
  let db ← Tx.get
  match findActiveDiscoveryRun db source with
  | some existing => return (existing, true)
  | none => queueDiscovery source maxAttempts newIds now

end LibSeek.Services

namespace LibSeek.Api

open LibSeek.Core LibSeek.Lib LibSeek.Models LibSeek.Schemas LibSeek.Services

variable [WorkflowRuntime]

/-- `start_discovery`. -/
def startDiscovery (nextfindConfigured : Bool) (settings : WorkflowSettings)
    (newIds : Uuid × Uuid) (now : DateTime) : WorkflowTx Unit := do
  Tx.require (nextfindConfigured = true)
    (.app (conflict "NEXTFIND_NOT_CONFIGURED" "NextFind 尚未配置运行时凭据，无法创建发现任务"))
  let _ ← createDiscoveryRun "nextfind" settings.jobMaxAttempts newIds now
  return ()

omit [WorkflowRuntime] in
/-- `_media_or_404`, where `held` is what is read. -/
def mediaOr404 (held : Option Models.MediaItem) : WorkflowTx Models.MediaItem :=
  Tx.ofOption held
    (.app { errorCode := "MEDIA_NOT_FOUND", message := "影视条目不存在", statusCode := 404 })

omit [WorkflowRuntime] in
/-- `resolve_media`: `held` is the media item as it was when the request has read it, before it is
locked. -/
def resolveMedia (held : Option Models.MediaItem) (mediaId : String) (settings : WorkflowSettings)
    (newIds : Uuid × Uuid) (clock : ℕ → DateTime) : WorkflowTx Unit := do
  let _ ← inControl (requireStageNotDisabled .identity newIds.1 (clock 0))
  Tx.require (settings.enableTmdbLive = true)
    (.app (conflict "TMDB_LIVE_DISABLED" "TMDB 真实只读连接默认关闭"))
  Tx.require (settings.tmdbConfigured = true)
    (.app (conflict "TMDB_NOT_CONFIGURED" "TMDB Access Token 未配置"))
  let media ← mediaOr404 held
  let _ ← enqueueMetadataResolution mediaId settings.jobMaxAttempts newIds.2 (clock 1) media
  return ()

/-- `create_identity_confirmation`: `held` is the media item as it was when the request has read it,
before it is locked. -/
def createIdentityConfirmation (held : Option Models.MediaItem)
    (mediaId metadataMatchId username : String) (settings : WorkflowSettings)
    (env : IdentityEnvironment) : WorkflowTx Unit := do
  let _ ← inControl (requireStageNotDisabled .identity (env.newId 0) (env.clock 0))
  let media ← mediaOr404 held
  let (_, confirmed) ← confirmIdentity mediaId metadataMatchId username
    "IDENTITY_CONFIRMED_MANUALLY" (env.newId 2) (env.clock 1) media
  let _ ← maybeAutomateTorrentSearchAfterIdentity confirmed settings env
  return ()

omit [WorkflowRuntime] in
/-- `create_torrent_search`; the catalogue of the sites says which of them can be searched.  `held`
is the media item as it was when the request has read it, before it is locked. -/
def createTorrentSearch (held : Option Models.MediaItem) (mediaId : String)
    (request : TorrentSearchCreateRequest)
    (requireSearchable : String → Option MediaType → Except AppError Unit)
    (settings : WorkflowSettings) (newIds : Uuid × Uuid × Uuid) (clock : ℕ → DateTime) :
    WorkflowTx Unit := do
  Tx.ofExcept ((requireSearchable request.siteId none).mapError Exn.app)
  let _ ← inControl (requireStageNotDisabled .torrentSelection newIds.1 (clock 0))
  let media ← mediaOr404 held
  Tx.ofExcept ((requireSearchable request.siteId (some media.mediaType)).mapError Exn.app)
  let _ ← enqueueTorrentSearch mediaId request settings newIds.2 (clock 1) media
  return ()

end LibSeek.Api
