/-
What the executors keep to.

Executors work beside each other on one database, and beside the services.  Each of them draws a
lease token of its own and marks every entry of the log with it.  What an executor may do to the
shared state is a discipline: its transactions are changes of the protocol of the control plane, it
uses its licence to cancel a reserved execution only while it has not been admitted to the request
that adds the torrent, and every entry that it writes is justified by those before it.  From the
discipline alone it follows that a reservation stays, and that an execution whose torrent may have
been added stays reserved.

Main definitions:

* `Executor.reserves`, `Executor.admits`, `Executor.adds` — the entries that matter;
* `Executor.Found`, `Executor.Submission` — what stands behind the request that adds a torrent;
* `Executor.Follows` — **what justifies an entry**;
* `Executor.Sound` — the invariant of the shared state;
* `Executor.Written`, `Executor.Own`, `Executor.Served` — the steps of an executor and of the
  services;
* `Executor.executors` — **the discipline**.

Main results:

* `Executor.Sound.own`, `Executor.Sound.served` — every such step preserves the invariant.
-/

import LibSeek.ControlPlane.Operations
import LibSeek.ControlPlane.ReservedRows
import LibSeek.Lib.Journal
import LibSeek.Workers.DownloadExecutor

set_option relaxedAutoImplicit false
set_option autoImplicit false

namespace LibSeek.Executor

open LibSeek.Core LibSeek.Lib LibSeek.Models LibSeek.Schemas LibSeek.Services LibSeek.Workers
open LibSeek.Adapters LibSeek.ControlPlane Relation

/-! ### Entries -/

/-- Whether an entry is a reservation that left the execution in submission. -/
def reserves : Workers.Event → Bool
  | .reserved _ _ _ _ _ status => status = .submitting
  | _ => false

/-- Whether an entry is the admission to the request that adds a torrent. -/
def admits : Workers.Event → Bool
  | .admitted _ => true
  | _ => false

/-- Whether an entry is the request that adds a torrent. -/
def adds : Workers.Event → Bool
  | .sent _ request => request.isAdd
  | _ => false

/-- The database on which an entry was written, where it was a transaction. -/
def before? : Workers.Event → Option Db
  | .guarded _ _ _ _ _ _ before _ => some before
  | .bound _ _ before _ => some before
  | .reserved _ _ _ _ before _ => some before
  | _ => none

/-- The entries of an executor that it does not write more than once. -/
def marks (t : Uuid) (log : List Workers.Event) : List Workers.Event :=
  log.filter fun ev => ev.claim.leaseToken = t.text && (admits ev || adds ev)

theorem marks_append (t : Uuid) (log log' : List Workers.Event) :
    marks t (log ++ log') = marks t log ++ marks t log' :=
  List.filter_append ..

/-- Where an executor has left no mark, an entry of the log is no mark of it. -/
theorem not_mark_of_nil {t : Uuid} {log : List Workers.Event} (h : marks t log = [])
    {ev : Workers.Event} (hev : ev ∈ log) (htoken : ev.claim.leaseToken = t.text) :
    admits ev = false ∧ adds ev = false := by
  have hnot := List.filter_eq_nil_iff.mp h ev hev
  simpa [htoken] using hnot

/-! ### What justifies an entry -/

section Justification

variable [Python] [TorrentCodec]

/-- **The torrent of an execution**, among the entries of the log: the binding of the execution, the
candidate that was found again, and the torrent that was fetched for it and validated. -/
structure Found (past : List Workers.Event) (claim : ExecutionClaim) (torrent : Bytes)
    (x : DownloadExecutor) (before : Db) (binding : ExecutionBinding)
    (candidate : TorrentCandidate) (metadata : ValidatedTorrent) : Prop where
  bound : .bound x claim before binding ∈ past
  searched : ∃ request candidates,
    .searched claim binding.plan.siteId request candidates ∈ past ∧
      requireExactCandidate binding candidates = .ok candidate
  fetched : .fetched claim binding.plan.siteId candidate.torrentId torrent ∈ past
  validated : executorValidation x.settings torrent binding.plan.expectedInfoHash = .ok metadata
  consistent : requireTorrentCandidateConsistency binding candidate metadata = .ok ()

/-- **What stands behind the request that adds a torrent**, among the entries before it: the
torrent, that the downloader had no such torrent, and the reservation. -/
structure Submission (past : List Workers.Event) (claim : ExecutionClaim) (form : QbAddForm)
    (torrent : Bytes) (x : DownloadExecutor) (before : Db) (binding : ExecutionBinding)
    (candidate : TorrentCandidate) (metadata : ValidatedTorrent) : Prop
    extends Found past claim torrent x before binding candidate metadata where
  absent : ∃ torrents, .observed claim metadata.identityHashes torrents ∈ past ∧
    findUniqueObservation metadata torrents = .ok none
  reserved : ∃ x' clock before', .reserved x' claim metadata clock before' .submitting ∈ past
  form : ∃ expectedInfoHash savePath field, requiredSavePath x = .ok savePath ∧
    form = (addArguments binding torrent expectedInfoHash savePath).form field

/-- **What justifies an entry**, among those before it. -/
def Follows (past : List Workers.Event) : Workers.Event → Prop
  | .claimed claim => ∀ ev ∈ past, reserves ev = true → ev.claim.executionId ≠ claim.executionId
  | .guarded x claim expectedStatus flag newId clock before allowed =>
      Invariant before.toTables ∧
        (Tx.commit (ensureExternalActionAllowed x claim expectedStatus flag newId clock) before).1 =
          .ok allowed
  | .admitted claim =>
      ∃ x newId clock before earlier later,
        past = earlier ++ .guarded x claim .submitting false newId clock before true :: later ∧
          ∃ ev ∈ earlier, reserves ev = true ∧ ev.claim = claim
  | .bound x claim before binding =>
      Invariant before.toTables ∧ (Tx.commit (loadBinding x claim) before).1 = .ok binding
  | .reserved x claim metadata clock before status =>
      Invariant before.toTables ∧
        (Tx.commit (reserveSubmission x claim metadata clock) before).1 = .ok status ∧
          (status = .submitting →
            ∀ ev ∈ past, reserves ev = true → ev.claim.executionId ≠ claim.executionId)
  | .sent claim (.addTorrent form torrent) =>
      .admitted claim ∈ past ∧
        (∀ ev ∈ past, adds ev = true → ev.claim.leaseToken ≠ claim.leaseToken) ∧
          ∃ x before binding candidate metadata,
            Submission past claim form torrent x before binding candidate metadata
  | _ => True

/-- The tables that can be reached, under whatever licences. -/
def Evolves : Tables → Tables → Prop :=
  ReflTransGen fun s s' => ∃ l, ControlPlane.Moves l s s'

/-! ### The invariant -/

/-- **The invariant of the shared state**: the tables are sound, the log is a journal, what was
reserved stays settled under its lease, what was admitted stays reserved, and an execution in
submission has been reserved. -/
structure Sound (w : World) : Prop where
  tables : Invariant w.db.toTables
  journal : Journal Follows [] w.log
  settled : ∀ ev ∈ w.log, reserves ev = true →
    SettledRow w.db.toTables ev.claim.executionId ev.claim.leaseToken
  admitted : ∀ ev ∈ w.log, admits ev = true → ReservedRow w.db.toTables ev.claim.executionId
  past : ∀ ev ∈ w.log, ∀ before ∈ before? ev, Evolves before.toTables w.db.toTables
  submitting : ∀ e ∈ w.db.executions, e.status = .submitting →
    ∃ ev ∈ w.log, reserves ev = true ∧ ev.claim.executionId = e.id

/-- The invariant holds of an empty database with an empty log. -/
theorem sound_initial : Sound {} where
  tables := invariant_initial
  journal := journal_nil
  settled := fun _ h => nomatch h
  admitted := fun _ h => nomatch h
  past := fun _ h => nomatch h
  submitting := fun _ h => nomatch h

/-- Before an admission the execution was reserved by the same claim. -/
theorem Sound.reserved_of_admitted {w : World} (hs : Sound w) {ev : Workers.Event}
    (hev : ev ∈ w.log) (hadmits : admits ev = true) : ∃ ev' ∈ w.log, reserves ev' = true ∧ ev'.claim = ev.claim := by
  cases ev with
  | admitted claim =>
      obtain ⟨earlier', later', hlog, hfollows⟩ := hs.journal.justified hev
      obtain ⟨x, newId, clock, before, earlier, later, hpast, ev', hev', hreserves, hclaim⟩ :=
        hfollows
      refine ⟨ev', ?_, hreserves, hclaim⟩
      rw [List.nil_append] at hpast
      rw [hlog, hpast]
      simp [hev']
  | _ => cases hadmits

/-! ### Steps -/

/-- **What an executor has written**: changes of the tables under a licence, and entries of its own
that those before them justify. -/
structure Written (t : Uuid) (l : Licence) (events : List Workers.Event) (w w' : World) : Prop where
  moves : ControlPlane.Moves l w.db.toTables w'.db.toTables
  log : w'.log = w.log ++ events
  token : ∀ ev ∈ events, ev.claim.leaseToken = t.text
  follows : Journal Follows w.log events
  before : ∀ ev ∈ events, ∀ db ∈ before? ev, db = w.db
  fencer : l.fencer = none ∨ l.fencer = some t.text ∧ marks t w.log = []
  settled : ∀ ev ∈ events, reserves ev = true →
    SettledRow w'.db.toTables ev.claim.executionId ev.claim.leaseToken
  admitted : ∀ ev ∈ events, admits ev = true → ReservedRow w'.db.toTables ev.claim.executionId
  submitting : ∀ e' ∈ w'.db.executions, e'.status = .submitting →
    (∃ e ∈ w.db.executions, e.id = e'.id ∧ e.status = .submitting) ∨
      ∃ ev ∈ events, reserves ev = true ∧ ev.claim.executionId = e'.id

/-- A step of an executor. -/
def Own (t : Uuid) (w w' : World) : Prop :=
  ∃ l events, Written t l events w w'

/-- A step of the services: changes of the tables without the licences of an executor. -/
def Served (w w' : World) : Prop :=
  (∃ l : Licence, l.fencer = none ∧ l.reserves = none ∧
    ControlPlane.Moves l w.db.toTables w'.db.toTables) ∧
    w'.log = w.log

/-- **Every step of an executor preserves the invariant.** -/
theorem Sound.own {t : Uuid} {w w' : World} (hs : Sound w) (h : Own t w w') : Sound w' := by
  obtain ⟨l, events, h⟩ := h
  have hcases : ∀ ev ∈ w'.log, ev ∈ w.log ∨ ev ∈ events := by
    intro ev hev
    rw [h.log] at hev
    exact List.mem_append.mp hev
  refine
    { tables := hs.tables.moves h.moves
      journal := ?_
      settled := fun ev hev hreserves => ?_
      admitted := fun ev hev hadmits => ?_
      past := fun ev hev before hbefore => ?_
      submitting := fun e' he' hsubmitting => ?_ }
  · rw [h.log, journal_append]
    exact ⟨hs.journal, h.follows⟩
  · rcases hcases ev hev with hev | hev
    · exact h.moves.settled_row (hs.settled ev hev hreserves)
    · exact h.settled ev hev hreserves
  · rcases hcases ev hev with hev | hev
    · obtain ⟨ev', hev', hreserves, hclaim⟩ := hs.reserved_of_admitted hev hadmits
      refine h.moves.reserved_row (hs.admitted ev hev hadmits)
        (hclaim ▸ hs.settled ev' hev' hreserves) ?_
      rcases h.fencer with hnone | ⟨hsome, hmarks⟩
      · rw [hnone]
        exact nofun
      · -- the executor that may cancel has not been admitted, so that this admission is another's
        rw [hsome]
        intro htoken
        have := (not_mark_of_nil hmarks hev (Option.some.inj htoken).symm).1
        rw [hadmits] at this
        cases this
    · exact h.admitted ev hev hadmits
  · rcases hcases ev hev with hev | hev
    · exact (hs.past ev hev before hbefore).tail ⟨l, h.moves⟩
    · rw [h.before ev hev before hbefore]
      exact .single ⟨l, h.moves⟩
  · rcases h.submitting e' he' hsubmitting with ⟨e, he, hid, hstatus⟩ | ⟨ev, hev, hreserves, hid⟩
    · obtain ⟨ev, hev, hreserves, hev_id⟩ := hs.submitting e he hstatus
      exact ⟨ev, h.log ▸ List.mem_append_left _ hev, hreserves, hev_id.trans hid⟩
    · exact ⟨ev, h.log ▸ List.mem_append_right _ hev, hreserves, hid⟩

/-- **Every step of the services preserves the invariant.** -/
theorem Sound.served {w w' : World} (hs : Sound w) (h : Served w w') : Sound w' := by
  obtain ⟨⟨l, hfencer, hreserves, hmoves⟩, hlog⟩ := h
  refine
    { tables := hs.tables.moves hmoves
      journal := hlog ▸ hs.journal
      settled := fun ev hev hr => hmoves.settled_row (hs.settled ev (hlog ▸ hev) hr)
      admitted := fun ev hev hadmits => ?_
      past := fun ev hev before hbefore => (hs.past ev (hlog ▸ hev) before hbefore).tail ⟨l, hmoves⟩
      submitting := fun e' he' hsubmitting => ?_ }
  · rw [hlog] at hev
    obtain ⟨ev', hev', hr, hclaim⟩ := hs.reserved_of_admitted hev hadmits
    refine hmoves.reserved_row (hs.admitted ev hev hadmits) (hclaim ▸ hs.settled ev' hev' hr) ?_
    rw [hfencer]
    exact nofun
  · obtain ⟨e, he, hid, hstatus⟩ := hmoves.submitting_row hreserves he' hsubmitting
    obtain ⟨ev, hev, hr, hev_id⟩ := hs.submitting e he hstatus
    exact ⟨ev, hlog ▸ hev, hr, hev_id.trans hid⟩

/-! ### The discipline -/

omit [Python] [TorrentCodec] in
/-- Identifiers with one text are one identifier. -/
theorem uuid_ext {t t' : Uuid} (h : t.text = t'.text) : t = t' := by
  cases t
  cases t'
  cases h
  rfl

/-- A name that was not given away has written nothing. -/
def Fresh (t : Uuid) (w : World) : Prop :=
  ∀ ev ∈ w.log, ev.claim.leaseToken ≠ t.text

/-- **The discipline of the executors.** -/
def executors : Discipline Uuid World where
  inv := Sound
  own := Own
  env := Served
  fresh := Fresh
  inv_own := Sound.own
  inv_env := Sound.served
  fresh_own := by
    rintro t t' w w' hne ⟨l, events, h⟩ hfresh ev hev
    rw [h.log] at hev
    rcases List.mem_append.mp hev with hev | hev
    · exact hfresh ev hev
    · rw [h.token ev hev]
      exact fun htext => hne (uuid_ext htext)
  fresh_env := by
    rintro t w w' ⟨-, hlog⟩ hfresh ev hev
    exact hfresh ev (hlog ▸ hev)

/-- What the others do leaves the entries of the log where they are, and writes no mark of this
executor. -/
theorem others_log {t : Uuid} {w w' : World} (h : executors.others t w w') :
    w.log <+: w'.log ∧ marks t w'.log = marks t w.log := by
  refine Discipline.others_preserve executors
    (P := fun w' => w.log <+: w'.log ∧ marks t w'.log = marks t w.log) ?_ h
    ⟨List.prefix_refl _, rfl⟩
  rintro w₁ w₂ ⟨-, hstep⟩ ⟨hbegins, hmarks⟩
  rcases hstep with ⟨-, hlog⟩ | ⟨t', hne, l, events, hwritten⟩
  · rw [hlog]
    exact ⟨hbegins, hmarks⟩
  · refine ⟨hbegins.trans (hwritten.log ▸ List.prefix_append _ _), ?_⟩
    have hnone : marks t events = [] := by
      refine List.filter_eq_nil_iff.mpr fun ev hev => ?_
      have htoken := hwritten.token ev hev
      have hother : ev.claim.leaseToken ≠ t.text := by
        rw [htoken]
        exact fun htext => hne (uuid_ext htext)
      simp [hother]
    rw [hwritten.log, marks_append, hnone, List.append_nil, hmarks]

end Justification

end LibSeek.Executor
