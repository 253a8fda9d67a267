/-
What an executor does quietly: its guards, and what it asks of the downloader.

A guard may cancel the execution where no write can have happened yet, and it is told so by the
flag of the executor.  Where the executor tells it the truth, the guard is quiet, and so is every
request that runs it, apart from the request that adds a torrent.

Main results:

* `Executor.still_guardTransaction`, `Executor.still_qbRequestGuard`,
  `Executor.still_runBeforeSendGuard` — **the guards are quiet**;
* `Executor.still_request` — a request that adds nothing;
* `Executor.quiet_findTorrentsByHashes` — the search for torrents, with its entry of the log;
* `Executor.still_authenticate`, `Executor.still_ensureCategory`,
  `Executor.still_getAddStateField` — the session, the category and the version of the downloader.
-/

import LibSeek.ControlPlane.ExecutorSteps
import LibSeek.Executor.Routines

set_option relaxedAutoImplicit false
set_option autoImplicit false

namespace LibSeek.Executor

open LibSeek.Core LibSeek.Lib LibSeek.Models LibSeek.Schemas LibSeek.Services LibSeek.Workers
open LibSeek.Adapters LibSeek.ControlPlane

variable [Python] [TorrentCodec] {t : Uuid} {flag : Bool} {α : Type}

/-! ### Guards -/

section Guards

variable {x : DownloadExecutor} {claim : ExecutionClaim}

omit [TorrentCodec] in
/-- What a guard that has answered has done. -/
theorem commit_guard {expectedStatus : DownloadExecutionStatus} {f allowed : Bool} {newId : Uuid}
    {clock : DateTime × DateTime} {db db' : Db}
    (h : Tx.commit (ensureExternalActionAllowed x claim expectedStatus f newId clock) db =
      (.ok allowed, db')) :
    Effects { fencer := fencerOf claim f } db.toTables db'.toTables ∧
      (allowed = true → Allowed claim expectedStatus db') :=
  (wp_ensureExternalActionAllowed expectedStatus f newId clock).commit_ok h

omit [Python] [TorrentCodec] in
/-- The licence of a guard, where it is told the flag of the executor or that a write may have
happened. -/
theorem fencerOf_cases (htoken : claim.leaseToken = t.text) {f : Bool} {log : List Workers.Event}
    (hmarks : f = false → marks t log = []) :
    fencerOf claim f = none ∨ fencerOf claim f = some t.text ∧ marks t log = [] := by
  cases f with
  | true => exact Or.inl rfl
  | false => exact Or.inr ⟨congrArg some htoken, hmarks rfl⟩

/-- **A guard that has answered is a step of the executor**, where it may cancel the execution only
if no write can have happened. -/
theorem own_guard (htoken : claim.leaseToken = t.text) {expectedStatus : DownloadExecutionStatus}
    {f allowed : Bool} {newId : Uuid} {clock : DateTime × DateTime} {w : World} {db' : Db}
    (hsound : Sound w) (hmarks : f = false → marks t w.log = [])
    (hcommit : Tx.commit (ensureExternalActionAllowed x claim expectedStatus f newId clock) w.db =
      (.ok allowed, db')) :
    Own t w
      { db := db'
        log := w.log ++ [.guarded x claim expectedStatus f newId clock w.db allowed] } := by
  obtain ⟨heff, -⟩ := commit_guard hcommit
  refine ⟨{ fencer := fencerOf claim f }, _, written_of_moves heff.moves
    (fencerOf_cases htoken hmarks) rfl ?_ ?_ ?_ ?_⟩
  · simpa [Workers.Event.claim] using htoken
  · exact ⟨⟨hsound.tables, by rw [hcommit]⟩, journal_nil⟩
  · simp [before?]
  · simp [reserves, admits]

/-- **A guard is quiet**, where it may cancel the execution only if no write can have happened. -/
theorem still_guardTransaction (htoken : claim.leaseToken = t.text)
    {expectedStatus : DownloadExecutionStatus} {f : Bool} (hf : f = false → flag = false) :
    Still t flag (guardTransaction x claim expectedStatus f fun _ => []) := by
  refine quiet_transact grows_true fun i w hsound hmarks _ allowed db' hcommit => ?_
  exact ⟨own_guard htoken hsound (fun h => hmarks (hf h)) hcommit, by simp [admits, adds], trivial⟩

theorem still_ensureAllowed (htoken : claim.leaseToken = t.text)
    {expectedStatus : DownloadExecutionStatus} {f : Bool} (hf : f = false → flag = false) :
    Still t flag (ensureAllowed x claim expectedStatus f) :=
  still_guardTransaction htoken hf

theorem still_requireAllowed {check : Work Bool} (h : Still t flag check) :
    Still t flag (requireAllowed check) :=
  h.bind fun _ => still_require

theorem still_ptRequestGuard (htoken : claim.leaseToken = t.text) :
    Still t false (ptRequestGuard x claim) :=
  still_requireAllowed (still_ensureAllowed htoken fun _ => rfl)

/-- **`qb_request_guard` is quiet**: it passes the flag on. -/
theorem still_qbRequestGuard (htoken : claim.leaseToken = t.text) :
    Still t flag (qbRequestGuard x claim) :=
  still_memory_bind fun _ hflag =>
    still_requireAllowed (still_ensureAllowed htoken fun h => hflag.symm.trans h)

theorem still_categoryWriteGuard (htoken : claim.leaseToken = t.text) :
    Still t false (categoryWriteGuard x claim) :=
  (still_requireAllowed (still_ensureAllowed htoken fun _ => rfl)).bind fun _ =>
    still_remember fun _ => rfl

theorem still_runBeforeSendGuard {guardFailed : AppError} {guard : Work Unit}
    (h : Still t flag guard) : Still t flag (runBeforeSendGuard guardFailed guard) :=
  h.handle fun _ => quiet_raise

end Guards

/-! ### Requests -/

section Requests

variable {qb : QbittorrentAdapter}

theorem still_clearSession : Still t flag clearSession :=
  still_remember fun _ => rfl

theorem still_response (outcome : HttpOutcome) :
    Still t flag (QbittorrentAdapter.response outcome) := by
  cases outcome with
  | answered r =>
      refine Quiet.ite (fun _ => still_clearSession.bind fun _ => quiet_raise) fun _ =>
        Quiet.ite (fun _ => still_pure r) fun _ => quiet_raise
  | _ => exact quiet_raise

theorem still_send (htoken : qb.claim.leaseToken = t.text) {req : QbRequest}
    (hadd : req.isAdd = false) : Still t flag (qb.send req) := by
  refine still_record fun outcome ev hev => ?_
  obtain rfl := List.mem_singleton.mp hev
  exact ⟨by simp [isPlain, hadd], htoken⟩

/-- **A request that adds nothing is quiet**, where its guards are. -/
theorem still_request (hguard : Still t flag qb.beforeRequest)
    (htoken : qb.claim.leaseToken = t.text) {req : QbRequest} (hadd : req.isAdd = false)
    {requireAuth : Bool} {beforeSend : Work Unit} (hbefore : Still t flag beforeSend) :
    Still t flag (qb.request req requireAuth beforeSend) := by
  refine still_require.bind fun _ => still_memory_bind fun m _ => still_require.bind fun _ => ?_
  have hguards : Still t flag (qb.runGuards beforeSend) :=
    (still_runBeforeSendGuard hguard).bind fun _ => still_runBeforeSendGuard hbefore
  exact hguards.bind fun _ => (still_send htoken hadd).bind fun outcome => still_response outcome

theorem still_read (hguard : Still t flag qb.beforeRequest)
    (htoken : qb.claim.leaseToken = t.text) {req : QbRequest} (hadd : req.isAdd = false) :
    Still t flag (qb.read req) :=
  still_request hguard htoken hadd (still_pure ())

theorem still_acceptLogin (r : QbResponse) : Still t flag (QbittorrentAdapter.acceptLogin r) :=
  still_require.bind fun _ => still_require.bind fun _ => still_require.bind fun _ =>
    still_remember fun _ => rfl

theorem still_authenticate (hguard : Still t flag qb.beforeRequest)
    (htoken : qb.claim.leaseToken = t.text) : Still t flag qb.authenticate := by
  refine still_clearSession.bind fun _ => Still.handle ?_ fun e => ?_
  · exact (still_request hguard htoken rfl (still_pure ())).bind fun r => still_acceptLogin r
  · exact still_clearSession.bind fun _ => quiet_raise

/-! ### Torrents -/

theorem still_askHashBatch (hguard : Still t flag qb.beforeRequest)
    (htoken : qb.claim.leaseToken = t.text) (hashes : List String) :
    Still t flag (qb.askHashBatch hashes) := by
  refine Still.handle ?_ fun e => ?_
  · exact (still_read hguard htoken rfl).bind fun r => still_require.bind fun _ => still_pure _
  · exact Quiet.ite (fun _ => quiet_raise) fun _ => still_pure _

theorem still_acceptPage (hashes : List String) (payload : Except AppError (List QbTorrent)) :
    Still t flag (QbittorrentAdapter.acceptPage hashes payload) :=
  still_ofExcept.bind fun page => still_require.bind fun _ => still_pure page

/-- One batch, halved as often as it must be. -/
theorem still_findTorrentsByHashBatch (hguard : Still t flag qb.beforeRequest)
    (htoken : qb.claim.leaseToken = t.text) (batch : HashBatch) :
    Still t flag (qb.findTorrentsByHashBatch batch) := by
  rw [QbittorrentAdapter.findTorrentsByHashBatch]
  induction batch using findTorrentsByHashBatch.induct with
  | case1 batch ihFirst ihSecond =>
      rw [findTorrentsByHashBatch]
      refine (still_askHashBatch hguard htoken batch.val).bind fun payload => ?_
      cases payload with
      | some payload => exact still_acceptPage batch.val payload
      | none =>
          change Still t flag (if h : batch.val.length = 1 then _ else _)
          split
          · exact still_pure []
          · rename_i hlength
            exact (ihFirst hlength).bind fun first => (ihSecond hlength).bind fun second =>
              still_pure (first ++ second)

theorem still_findBatches (hguard : Still t flag qb.beforeRequest)
    (htoken : qb.claim.leaseToken = t.text) (batches : List HashBatch)
    (torrents : List QbTorrent) :
    Still t flag (findBatches qb.findTorrentsByHashBatch batches torrents) := by
  induction batches generalizing torrents with
  | nil => exact still_pure torrents
  | cons batch batches ih =>
      exact (still_findTorrentsByHashBatch hguard htoken batch).bind fun page => ih _

/-- **The search for torrents is quiet**, and it is logged. -/
theorem quiet_findTorrentsByHashes (hguard : Still t flag qb.beforeRequest)
    (htoken : qb.claim.leaseToken = t.text) (hashes : List String) :
    Quiet t flag (fun _ => True) (qb.findTorrentsByHashes hashes) fun torrents log =>
      .observed qb.claim hashes torrents ∈ log := by
  refine Quiet.bind still_ofExcept fun ordered =>
    Quiet.bind (still_findBatches hguard htoken _ _) fun torrents => ?_
  refine (quiet_record grows_true fun _ ev hev => ?_).mono (fun _ h => h) ?_
  · obtain rfl := List.mem_singleton.mp hev
    exact ⟨rfl, htoken⟩
  · exact fun found log h => h.2 _ List.mem_cons_self

/-! ### Categories and versions -/

theorem still_getCategories (hguard : Still t flag qb.beforeRequest)
    (htoken : qb.claim.leaseToken = t.text) : Still t flag qb.getCategories :=
  (still_read hguard htoken rfl).bind fun _ => still_require.bind fun _ => still_ofExcept

theorem still_createCategory (hguard : Still t flag qb.beforeRequest)
    (htoken : qb.claim.leaseToken = t.text) {writeGuard : Work Unit}
    (hwrite : Still t flag writeGuard) (category savePath : String) :
    Still t flag (qb.createCategory category savePath writeGuard) := by
  refine Still.handle ?_ fun e => ?_
  · exact (still_request hguard htoken rfl hwrite).bind fun r => still_pure _
  · cases e with
    | app error => exact Quiet.ite (fun _ => quiet_raise) fun _ => still_pure _
    | _ => exact quiet_raise

theorem still_ensureCategory (hguard : Still t flag qb.beforeRequest)
    (htoken : qb.claim.leaseToken = t.text) {writeGuard : Work Unit}
    (hwrite : Still t flag writeGuard) (category savePath : String) :
    Still t flag (qb.ensureCategory category savePath writeGuard) := by
  have hcategories : Still t flag qb.getCategories := still_getCategories hguard htoken
  refine still_require.bind fun _ => still_memory_bind fun m _ => still_require.bind fun _ =>
    still_ofExcept.bind fun _ => hcategories.bind fun categories =>
      Quiet.ite (fun _ => still_pure ()) fun _ => ?_
  refine (still_createCategory hguard htoken hwrite category savePath).bind fun createError =>
    (hcategories.handle fun e => ?_).bind fun created => still_require
  cases e <;> exact quiet_raise

theorem still_getWebApiVersion (hguard : Still t flag qb.beforeRequest)
    (htoken : qb.claim.leaseToken = t.text) : Still t flag qb.getWebApiVersion := by
  refine (still_read hguard htoken rfl).bind fun version => ?_
  refine still_require.bind fun _ => still_require.bind fun _ => ?_
  exact still_pure (strip version.text)

theorem still_getAddStateField (hguard : Still t flag qb.beforeRequest)
    (htoken : qb.claim.leaseToken = t.text) : Still t flag qb.getAddStateField := by
  refine still_memory_bind fun m _ => ?_
  cases m.addStateField with
  | some field => exact still_pure field
  | none =>
      exact (still_getWebApiVersion hguard htoken).bind fun _ => still_ofExcept.bind fun field =>
        Still.bind (still_remember fun _ => rfl) fun _ => still_pure field

end Requests

end LibSeek.Executor
