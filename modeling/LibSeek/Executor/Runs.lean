/-
Runs of executors and services.

Any number of executors work on one database, beside the services.  Each may be started at any time,
stop for ever between any two of its steps, and be overtaken by any other.  Whatever they do, the
discipline that each of them keeps to says that the request that adds a torrent is sent at most once
for an execution, and that after it may have been sent the execution is never taken up again.

Main definitions:

* `Executor.isService`, `Executor.services`, `Executor.started` — what may happen beside the
  executors, and what may be started;
* `Executor.System`, `Executor.Reachable` — **the systems that are reached** from an empty database.

Main results:

* `Executor.sound_reachable` — every reachable system keeps to the discipline;
* `Executor.add_sent_at_most_once` — **at most one request that adds a torrent**;
* `Executor.submission_entered` — how an execution enters submission;
* `Executor.not_claimed_after_reservation` — a reserved execution is never claimed again;
* `Executor.admitted_stays_reserved` — **no retry after a write may have happened**.
-/

import LibSeek.ControlPlane.AuditRuns
import LibSeek.Executor.Submissions

set_option relaxedAutoImplicit false
set_option autoImplicit false

namespace LibSeek.Executor

open LibSeek.Core LibSeek.Lib LibSeek.Models LibSeek.Schemas LibSeek.Services LibSeek.Workers
open LibSeek.Adapters LibSeek.ControlPlane Relation

variable [Python] [HexDigest] [TorrentCodec]

/-! ### Systems -/

omit [HexDigest] [TorrentCodec] in
/-- Whether a call is made by the services, or by the heartbeat of an executor, and not by an
executor that processes a claim. -/
def isService : Operation → Bool
  | .claimNextExecution .. | .recoverStaleExecutions .. | .ensureExternalActionAllowed ..
  | .reserveSubmission .. | .finalizeDownloadSubmission .. | .markValidationFailure ..
  | .markReservedFailure .. => false
  | _ => true

omit [TorrentCodec] in
/-- What may happen beside the executors: a call of the services, or a heartbeat. -/
def services (w w' : World) : Prop :=
  ∃ op : Operation, isService op = true ∧ w' = { w with db := op.commit w.db }

omit [HexDigest] in
/-- What may be started: an executor that draws the name of its thread as its lease token. -/
def started (t : Uuid) (p : Prog Moment World (Exn × ClaimMemory) Unit) : Prop :=
  ∃ x : DownloadExecutor, p = (runOnce t x).thread {}

/-- A system of executors. -/
abbrev System : Type :=
  Config Uuid Moment World (Exn × ClaimMemory)

/-- A step of a system. -/
abbrev Next : System → System → Prop :=
  Config.Step services started

/-- **The systems that are reached** from an empty database without executors. -/
abbrev Reachable (c : System) : Prop :=
  Config.Reachable services started {} c

omit [Python] [HexDigest] [TorrentCodec] in
theorem licence_of_isService {op : Operation} (h : isService op = true) :
    op.licence.fencer = none ∧ op.licence.reserves = none := by
  cases op <;> first | exact ⟨rfl, rfl⟩ | cases h

omit [TorrentCodec] in
/-- The services keep to the discipline. -/
theorem served_of_services {w w' : World} (hs : Invariant w.db.toTables) (h : services w w') :
    Served w w' := by
  obtain ⟨op, hop, rfl⟩ := h
  obtain ⟨hfencer, hreserves⟩ := licence_of_isService hop
  exact ⟨⟨op.licence, hfencer, hreserves, op.moves hs.bindings⟩, rfl⟩

/-- **Every reachable system keeps to the discipline.** -/
theorem good_reachable {c : System} (h : Reachable c) : executors.Good c := by
  refine Discipline.sound (D := executors) (fun w w' hsound hstep => served_of_services hsound.tables hstep) ?_
    sound_initial (fun t ev hev => absurd hev List.not_mem_nil) h
  rintro t _ w ⟨x, rfl⟩ - hfresh
  exact keeps_runOnce hfresh

/-- **Every reachable state is sound.** -/
theorem sound_reachable {c : System} (h : Reachable c) : Sound c.state :=
  (good_reachable h).inv

/-! ### An executor that adds a torrent -/

section Sample

/-- A moment at which the downloader answers a text, and the site lists the candidate. -/
def answering (text : String) : Moment where
  clock _ := 5
  newId _ := rowId 9
  qbBaseUrl := some (some "https://qb.local")
  http := .answered { text := text, setsSid := true, categories := .ok ["movies"] }
  searchModes := .ok [.tmdbId]
  found := .ok [listedCandidate]
  torrent := .ok (encodeCanonical (torrentWith versionInfo))

/-- The moments of the executor: the version of the interface is asked for at the twenty-ninth. -/
def sampleMoments : List Moment :=
  List.replicate 28 (answering "Ok.") ++ [answering "2.11.2"] ++ List.replicate 3 (answering "Ok.")

/-- The system in which some calls were made. -/
def calledSystem (calls : List Operation) : System :=
  { Config.initial ({} : World) with
    state := { db := @runFrom asciiPython zeroHexDigest {} calls } }

/-- The system in which an executor has been started. -/
def startedSystem (calls : List Operation) (x : DownloadExecutor) : System :=
  (calledSystem calls).setThread (rowId 7)
    (.running ((@runOnce asciiPython versionCodec (rowId 7) x).thread {}))

/-- The run of the executor over some moments. -/
def executorRun (calls : List Operation) (x : DownloadExecutor) (is : List Moment) :
    Prog Moment World (Exn × ClaimMemory) Unit × World :=
  ((@runOnce asciiPython versionCodec (rowId 7) x).thread {}).exec is (startedSystem calls x).state

/-- The system of the executor after some moments. -/
def executorSystem (calls : List Operation) (x : DownloadExecutor) (is : List Moment) : System where
  state := (executorRun calls x is).2
  threads := Function.update (startedSystem calls x).threads (rowId 7)
    (.running (executorRun calls x is).1)

/-- The system of the sample after some moments. -/
def sampleSystem (is : List Moment) : System :=
  executorSystem executionCalls sampleExecutor is

omit [Python] [HexDigest] [TorrentCodec] in
theorem executorSystem_thread (calls : List Operation) (x : DownloadExecutor) (is : List Moment) :
    (executorSystem calls x is).threads (rowId 7) = .running (executorRun calls x is).1 :=
  Function.update_self (rowId 7) _ (startedSystem calls x).threads

omit [TorrentCodec] in
/-- The calls of the services are steps of the environment. -/
theorem services_run (w : World) (ops : List Operation) (h : ∀ op ∈ ops, isService op = true) :
    ReflTransGen services w { w with db := runFrom w.db ops } := by
  induction ops generalizing w with
  | nil => exact .refl
  | cons op ops ih =>
      refine .head ⟨op, h op List.mem_cons_self, rfl⟩ ?_
      exact ih { w with db := op.commit w.db } fun op' hop' => h op' (List.mem_cons_of_mem _ hop')

omit [Python] [HexDigest] [TorrentCodec] in
/-- The system of an executor after calls of the services is reachable. -/
theorem reachable_executorSystem {calls : List Operation}
    (hcalls : ∀ op ∈ calls, isService op = true) (x : DownloadExecutor) (is : List Moment) :
    @Reachable asciiPython zeroHexDigest versionCodec (executorSystem calls x is) := by
  let _ := asciiPython
  let _ := zeroHexDigest
  let _ := versionCodec
  have hserved : Reachable (calledSystem calls) :=
    Config.reachable_env .refl (services_run {} calls hcalls)
  have hspawned : Reachable (startedSystem calls x) :=
    Config.reachable_spawn hserved rfl ⟨x, rfl⟩
  exact Config.reachable_exec is hspawned
    (Function.update_self (rowId 7) _ (calledSystem calls).threads)

omit [Python] [HexDigest] [TorrentCodec] in
/-- The sample is reachable. -/
theorem reachable_sample (is : List Moment) :
    @Reachable asciiPython zeroHexDigest versionCodec (sampleSystem is) :=
  reachable_executorSystem (by decide) sampleExecutor is

/-- Whether an entry is the request that adds the torrent of the sample. -/
def addsSample (ev : Workers.Event) : Bool :=
  adds ev && ev.claim.executionId == (rowId 4).text

/-- Whether an entry is a guard of a manual execution in submission. -/
def guardsManual : Workers.Event → Bool
  | .guarded _ claim .submitting _ _ _ before _ =>
      before.executions.rows.any fun e => e.id = claim.executionId ∧ e.origin = .manual
  | _ => false

omit [Python] [HexDigest] [TorrentCodec] in
/-- The executor of the sample adds the torrent of a manual execution. -/
theorem sample_log :
    (sampleSystem sampleMoments).state.log.any addsSample = true ∧
      (sampleSystem sampleMoments).state.log.any guardsManual = true := by
  decide +kernel

omit [Python] [HexDigest] [TorrentCodec] in
/-- What adds a torrent is a request that was sent. -/
theorem sent_of_adds {ev : Workers.Event} (h : adds ev = true) :
    ∃ claim form torrent, ev = .sent claim (.addTorrent form torrent) := by
  cases ev with
  | sent claim request =>
      cases request with
      | addTorrent form torrent => exact ⟨claim, form, torrent, rfl⟩
      | _ => cases h
  | _ => cases h

omit [Python] [HexDigest] [TorrentCodec] in
/-- The request that adds the torrent of the sample. -/
theorem sample_sent : ∃ claim form torrent, claim.executionId = (rowId 4).text ∧
    .sent claim (.addTorrent form torrent) ∈ (sampleSystem sampleMoments).state.log := by
  obtain ⟨ev, hev, hadds⟩ := List.any_eq_true.mp sample_log.1
  obtain ⟨hadds, hid⟩ := Bool.and_eq_true_iff.mp hadds
  obtain ⟨claim, form, torrent, rfl⟩ := sent_of_adds hadds
  exact ⟨claim, form, torrent, eq_of_beq hid, hev⟩

end Sample

/-! ### One reservation, one request -/

omit [HexDigest] in
/-- The entries of a log together with what they may rely on. -/
theorem Sound.complete {w : World} (h : Sound w) :
    Journal (fun past ev => Journal Follows [] past ∧ Follows past ev) [] w.log :=
  h.journal.complete journal_nil

omit [HexDigest] in
/-- A reservation of an execution excludes those before it. -/
theorem reserves_excludes {past : List Workers.Event} {ev ev' : Workers.Event} (h : Follows past ev)
    (hev : reserves ev = true) (hev' : ev' ∈ past) (hreserves : reserves ev' = true) :
    ev'.claim.executionId ≠ ev.claim.executionId := by
  cases ev with
  | reserved x claim metadata clock before status =>
      exact h.2.2 (of_decide_eq_true hev) ev' hev' hreserves
  | _ => cases hev

omit [HexDigest] in
/-- **At most one reservation of an execution.** -/
theorem reserved_unique {log : List Workers.Event} (h : Journal Follows [] log)
    {ev ev' : Workers.Event} (hev : ev ∈ log) (hev' : ev' ∈ log) (hr : reserves ev = true)
    (hr' : reserves ev' = true) (hid : ev.claim.executionId = ev'.claim.executionId) : ev = ev' := by
  refine h.unique (R := fun ev ev' => reserves ev = true ∧ reserves ev' = true ∧
    ev.claim.executionId = ev'.claim.executionId) ?_ ?_ hev hev' ⟨hr, hr', hid⟩
  · exact fun ev ev' h => ⟨h.2.1, h.1, h.2.2.symm⟩
  · exact fun past ev hfollows ev' hmem h => reserves_excludes hfollows h.2.1 hmem h.1 h.2.2

omit [HexDigest] in
/-- Before a request that adds a torrent the execution was reserved, by the same claim. -/
theorem reserved_of_adds {past : List Workers.Event} (hpast : Journal Follows [] past)
    {ev : Workers.Event} (h : Follows past ev) (hadds : adds ev = true) :
    ∃ ev' ∈ past, reserves ev' = true ∧ ev'.claim = ev.claim := by
  cases ev with
  | sent claim request =>
      cases request with
      | addTorrent form torrent =>
          obtain ⟨earlier, later, rfl, hadmitted⟩ := hpast.justified h.1
          obtain ⟨x, newId, clock, before, earlier', later', hsplit, ev', hev', hr, hclaim⟩ :=
            hadmitted
          refine ⟨ev', ?_, hr, hclaim⟩
          rw [List.nil_append] at hsplit
          rw [hsplit]
          simp [hev']
      | _ => cases hadds
  | _ => cases hadds

omit [HexDigest] in
/-- **A request that adds a torrent excludes those before it**, of whatever claim. -/
theorem adds_excludes {past : List Workers.Event} (hpast : Journal Follows [] past)
    {ev ev' : Workers.Event} (h : Follows past ev) (hadds : adds ev = true) (hev' : ev' ∈ past)
    (hadds' : adds ev' = true) :
    ev'.claim.executionId ≠ ev.claim.executionId := by
  intro hid
  -- both were reserved, and there is only one reservation: the two claims are one
  obtain ⟨r, hr, hreserves, hclaim⟩ := reserved_of_adds hpast h hadds
  obtain ⟨earlier, later, rfl, hfollows'⟩ := hpast.justified hev'
  rw [List.nil_append] at hfollows'
  obtain ⟨r', hr', hreserves', hclaim'⟩ :=
    reserved_of_adds hpast.before hfollows' hadds'
  have hsame : r' = r :=
    reserved_unique hpast (List.mem_append_left _ hr') hr hreserves' hreserves
      (by rw [hclaim, hclaim', hid])
  cases ev with
  | sent claim request =>
      cases request with
      | addTorrent form torrent =>
          refine h.2.1 ev' hev' hadds' ?_
          rw [← hclaim', hsame, hclaim]
          rfl
      | _ => cases hadds
  | _ => cases hadds

/-- **At most one request that adds a torrent is sent for an execution**, in every run. -/
theorem add_sent_at_most_once {c : System} (h : Reachable c) (executionId : String) :
    c.state.log.countP (fun ev => adds ev && ev.claim.executionId == executionId) ≤ 1 := by
  refine (sound_reachable h).complete.countP_le_one fun past ev hfollows hev ev' hev' => ?_
  obtain ⟨hadds, hid⟩ := Bool.and_eq_true_iff.mp hev
  rw [Bool.and_eq_false_iff]
  by_cases hadds' : adds ev' = true
  · refine Or.inr (beq_eq_false_iff_ne.mpr fun hid' => ?_)
    exact adds_excludes hfollows.1 hfollows.2 hadds hev' hadds' (hid'.trans (eq_of_beq hid).symm)
  · exact Or.inl (Bool.eq_false_iff.mpr hadds')

omit [Python] [HexDigest] [TorrentCodec] in
/-- The executor of the sample sends one. -/
theorem add_sent_at_most_once_sample :
    (sampleSystem sampleMoments).state.log.countP
      (fun ev => adds ev && ev.claim.executionId == (rowId 4).text) = 1 := by
  refine Nat.le_antisymm ?_ ?_
  · exact @add_sent_at_most_once asciiPython zeroHexDigest versionCodec _ (reachable_sample _) _
  · obtain ⟨ev, hev, hadds⟩ := List.any_eq_true.mp sample_log.1
    exact List.countP_pos_iff.mpr ⟨ev, hev, hadds⟩

/-! ### Submission -/

/-- **How an execution enters submission**: by one step, the reservation of an execution that is
being validated under the live lease of the claim, and of which there is no earlier reservation. -/
theorem submission_entered {c c' : System} (h : Reachable c) (hstep : Next c c')
    {e' : DownloadExecution} (he' : e' ∈ c'.state.db.executions) (hs : e'.status = .submitting)
    (hnew : ∀ e ∈ c.state.db.executions, e.id = e'.id → e.status ≠ .submitting) :
    ∃ x claim metadata clock, claim.executionId = e'.id ∧
      .reserved x claim metadata clock c.state.db .submitting ∈ c'.state.log ∧
      (∀ ev ∈ c.state.log, reserves ev = true → ev.claim.executionId ≠ e'.id) ∧
      ∃ e ∈ c.state.db.executions, e.id = e'.id ∧ e.status = .validating ∧
        e.leaseToken = some claim.leaseToken ∧ ∃ lockedAt ∈ e.lockedAt,
          clock.1 < lockedAt + seconds x.settings.downloadExecutionLeaseSeconds := by
  have hgood := good_reachable h
  have hno : ¬ ∃ e ∈ c.state.db.executions, e.id = e'.id ∧ e.status = .submitting := by
    rintro ⟨e, he, hid, hstatus⟩
    exact hnew e he hid hstatus
  rcases hgood.state_step hstep with hserved | ⟨t, l, events, hown⟩ | hsame
  · obtain ⟨⟨l, -, hreserves, hmoves⟩, -⟩ := served_of_services hgood.inv.tables hserved
    exact absurd (hmoves.submitting_row hreserves he' hs) hno
  · rcases hown.submitting e' he' hs with hold | ⟨ev, hev, hreserves, hid⟩
    · exact absurd hold hno
    cases ev with
    | reserved x claim metadata clock before status =>
        obtain rfl : status = .submitting := of_decide_eq_true hreserves
        obtain rfl : before = c.state.db := hown.before _ hev before rfl
        have hlog : .reserved x claim metadata clock c.state.db .submitting ∈ c'.state.log :=
          hown.log ▸ List.mem_append_right _ hev
        obtain ⟨earlier, later, hsplit, hfollows⟩ := hown.follows.justified hev
        obtain ⟨hinv, hcommit, hfirst⟩ := hfollows
        refine ⟨x, claim, metadata, clock, hid, hlog, fun ev' hev' hr' => ?_, ?_⟩
        · exact fun hid' => hfirst rfl ev' (List.mem_append_left _ hev') hr' (hid'.trans hid.symm)
        · obtain ⟨-, ⟨hne, -⟩ | ⟨-, -, e, he, heid, hvalidating, hlease, hlive⟩⟩ :=
            (wp_reserveSubmission metadata clock).commit_ok (Prod.ext hcommit rfl)
          · cases hne
          · exact ⟨e, he, heid.trans hid, hvalidating, hlease, hlive⟩
    | _ => cases hreserves
  · rw [hsame] at he'
    exact absurd ⟨e', he', rfl, hs⟩ hno

omit [Python] [HexDigest] [TorrentCodec] in
/-- The reservation of the sample: its execution is being validated before the step, and is in
submission after it. -/
theorem sample_reserves :
    ((sampleSystem (sampleMoments.take 23)).state.db.executions.rows.all
        fun e => e.status ≠ .submitting) = true ∧
      ((sampleSystem (sampleMoments.take 24)).state.db.executions.rows.any
        fun e => e.status = .submitting) = true := by
  decide +kernel

omit [Python] [HexDigest] [TorrentCodec] in
/-- Every step of the sample is a step of the system, or the executor has come to its end. -/
theorem next_sample (is : List Moment) (i : Moment) :
    @Next asciiPython zeroHexDigest versionCodec (sampleSystem is) (sampleSystem (is ++ [i])) ∨
      (sampleSystem (is ++ [i])).state = (sampleSystem is).state := by
  have hsystem : sampleSystem (is ++ [i]) =
      { state := ((executorRun executionCalls sampleExecutor is).1.exec [i] (sampleSystem is).state).2
        threads := Function.update (sampleSystem is).threads (rowId 7)
          (.running ((executorRun executionCalls sampleExecutor is).1.exec [i]
            (sampleSystem is).state).1) } := by
    unfold sampleSystem executorSystem executorRun
    rw [Prog.exec_append, Function.update_idem]
  rw [hsystem]
  exact Config.step_exec i (executorSystem_thread executionCalls sampleExecutor is)

omit [Python] [HexDigest] [TorrentCodec] in
/-- The execution of the sample enters submission. -/
theorem submission_entered_sample :
    ∃ x claim metadata clock, ∃ before : Db,
      .reserved x claim metadata clock before .submitting ∈
        (sampleSystem (sampleMoments.take 24)).state.log := by
  let _ := asciiPython
  let _ := zeroHexDigest
  let _ := versionCodec
  obtain ⟨hbefore, hafter⟩ := sample_reserves
  have hnone : ∀ e ∈ (sampleSystem (sampleMoments.take 23)).state.db.executions.rows,
      e.status ≠ .submitting :=
    fun e he => of_decide_eq_true (List.all_eq_true.mp hbefore e he)
  obtain ⟨e', he', hs⟩ := List.any_eq_true.mp hafter
  have hs : e'.status = .submitting := of_decide_eq_true hs
  have htake : sampleMoments.take 24 = sampleMoments.take 23 ++ [answering "Ok."] := rfl
  have hreachable := reachable_sample (sampleMoments.take 23)
  have hstep := next_sample (sampleMoments.take 23) (answering "Ok.")
  rw [htake] at he' ⊢
  generalize sampleSystem (sampleMoments.take 23 ++ [answering "Ok."]) = c' at he' hstep ⊢
  generalize sampleSystem (sampleMoments.take 23) = c at hnone hreachable hstep
  rcases hstep with hnext | hsame
  · obtain ⟨x, claim, metadata, clock, -, hlog, -⟩ :=
      submission_entered hreachable hnext (Table.mem_rows.mp he') hs
        fun e he _ => hnone e (Table.mem_rows.mpr he)
    exact ⟨x, claim, metadata, clock, _, hlog⟩
  · rw [hsame] at he'
    exact absurd hs (hnone e' he')

/-- **What was reserved is never claimed again**: after a reservation, no claim in the log is of the
execution that was reserved. -/
theorem not_claimed_after_reservation {c : System} (h : Reachable c) {ev : Workers.Event}
    {claim : ExecutionClaim} (hreserves : reserves ev = true)
    (hid : ev.claim.executionId = claim.executionId) :
    ¬ Precedes ev (.claimed claim) c.state.log := by
  rintro ⟨earlier, later, hlog, hev⟩
  have hjournal := (sound_reachable h).journal
  rw [hlog] at hjournal
  have hfollows := (journal_append.mp hjournal).2.1
  rw [List.nil_append] at hfollows
  exact hfollows ev hev hreserves hid

omit [HexDigest] in
/-- Before a request that adds a torrent stand the admission and the reservation. -/
theorem Sound.before_sent {w : World} (hs : Sound w) {claim : ExecutionClaim} {form : QbAddForm}
    {torrent : Bytes} (hsent : .sent claim (.addTorrent form torrent) ∈ w.log) :
    .admitted claim ∈ w.log ∧ ∃ ev ∈ w.log, reserves ev = true ∧ ev.claim = claim := by
  obtain ⟨past, after, hlog, hfollows⟩ := hs.journal.justified hsent
  rw [List.nil_append] at hfollows
  have hadmitted : .admitted claim ∈ w.log := hlog ▸ List.mem_append_left _ hfollows.1
  exact ⟨hadmitted, hs.reserved_of_admitted hadmitted rfl⟩

omit [Python] [HexDigest] [TorrentCodec] in
/-- The execution of the sample is not claimed again after its reservation. -/
theorem not_claimed_after_reservation_sample :
    ∃ ev ∈ (sampleSystem sampleMoments).state.log, reserves ev = true ∧
      ¬ Precedes ev (.claimed ev.claim) (sampleSystem sampleMoments).state.log := by
  let _ := asciiPython
  let _ := zeroHexDigest
  let _ := versionCodec
  have hreachable := reachable_sample sampleMoments
  obtain ⟨claim, form, torrent, -, hsent⟩ := sample_sent
  obtain ⟨-, ev, hev, hreserves, -⟩ := (sound_reachable hreachable).before_sent hsent
  exact ⟨ev, hev, hreserves, not_claimed_after_reservation hreachable hreserves rfl⟩

/-- What was written stays written. -/
theorem log_of_next {c c' : System} (h : Reachable c) (hstep : Next c c') :
    c.state.log <+: c'.state.log := by
  have hgood := good_reachable h
  rcases hgood.state_step hstep with hserved | ⟨t, l, events, hown⟩ | hsame
  · rw [(served_of_services hgood.inv.tables hserved).2]
  · rw [hown.log]
    exact List.prefix_append _ _
  · rw [hsame]

theorem log_of_run {c c' : System} (h : Reachable c) (hrun : ReflTransGen Next c c') :
    c.state.log <+: c'.state.log := by
  induction hrun with
  | refl => exact List.prefix_refl _
  | tail hrun hlast ih => exact ih.trans (log_of_next (h.trans hrun) hlast)

/-- **No retry after a write may have happened**: once the guard of the write has returned for an
execution, it is in a reserved status for ever, whatever happens. -/
theorem admitted_stays_reserved {c c' : System} (h : Reachable c) {claim : ExecutionClaim}
    (hadmitted : .admitted claim ∈ c.state.log) (hrun : ReflTransGen Next c c') :
    ∃ e ∈ c'.state.db.executions, e.id = claim.executionId ∧ e.status.isReserved = true :=
  (sound_reachable (h.trans hrun)).admitted _ ((log_of_run h hrun).subset hadmitted) rfl

omit [Python] [HexDigest] [TorrentCodec] in
/-- The execution of the sample is reserved, and stays so when its executor crashes. -/
theorem admitted_stays_reserved_sample :
    ∃ e ∈ ((sampleSystem sampleMoments).setThread (rowId 7) .dead).state.db.executions,
      e.id = (rowId 4).text ∧ e.status.isReserved = true := by
  let _ := asciiPython
  let _ := zeroHexDigest
  let _ := versionCodec
  have hreachable := reachable_sample sampleMoments
  obtain ⟨claim, form, torrent, hid, hsent⟩ := sample_sent
  have hcrash : Next (sampleSystem sampleMoments) _ :=
    .crash (executorSystem_thread executionCalls sampleExecutor sampleMoments)
  rw [← hid]
  exact admitted_stays_reserved hreachable ((sound_reachable hreachable).before_sent hsent).1
    (.single hcrash)

end LibSeek.Executor
