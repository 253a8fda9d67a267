/-
An executor keeps to the discipline.

The processing of a claim is followed from its beginning to its end.  What it finds on its way is
quiet, and stands in the log when it is needed: the binding, the candidate, the torrent, and that
the downloader has no such torrent.  The reservation is quiet as well.  Then comes the one request
that is not: the guard of the write admits the executor, which has left no mark before, and the
request is sent.  From there on the flag tells that a write may have happened, and no guard may
cancel the execution any more.

Main definitions:

* `Executor.Submits` — a routine of an executor that may send the request that adds a torrent;
* `Executor.IsExecutor`, `Executor.IsService` — the programs that are started, and the calls of the
  services.

Main results:

* `Executor.quiet_fetchValidated`, `Executor.quiet_prepareDownloader`, `Executor.quiet_reserve` —
  the parts of the processing before the write;
* `Executor.submits_addTorrent` — **the request that adds a torrent**;
* `Executor.submits_processBody`, `Executor.keeps_runOnce` — the processing of a claim, and the
  executor;
* `Executor.sound_reachable` — **every reachable state is sound**.
-/

import LibSeek.Executor.Guards

set_option relaxedAutoImplicit false
set_option autoImplicit false

namespace LibSeek.Executor

open LibSeek.Core LibSeek.Lib LibSeek.Models LibSeek.Schemas LibSeek.Services LibSeek.Workers
open LibSeek.Adapters LibSeek.ControlPlane

variable [Python] [TorrentCodec] {t : Uuid} {flag : Bool} {α β : Type}
variable {x : DownloadExecutor} {claim : ExecutionClaim}

/-! ### Facts that entries do not undo -/

theorem Found.mono {past past' : List Workers.Event} {torrent : Bytes} {before : Db}
    {binding : ExecutionBinding} {candidate : TorrentCandidate} {metadata : ValidatedTorrent}
    (h : Found past claim torrent x before binding candidate metadata) (hsub : past ⊆ past') :
    Found past' claim torrent x before binding candidate metadata where
  bound := hsub h.bound
  searched := by
    obtain ⟨request, candidates, hmem, hexact⟩ := h.searched
    exact ⟨request, candidates, hsub hmem, hexact⟩
  fetched := hsub h.fetched
  validated := h.validated
  consistent := h.consistent

/-- What the processing has of an execution, found among the entries of the log. -/
def HasFetched (x : DownloadExecutor) (claim : ExecutionClaim) (torrent : FetchedTorrent)
    (log : List Workers.Event) : Prop :=
  ∃ baseUrl before candidate,
    Found log claim torrent.payload (x.reading baseUrl) before torrent.binding candidate
      torrent.metadata

theorem grows_hasFetched (torrent : FetchedTorrent) : Grows (HasFetched x claim torrent) := by
  rintro log log' hbegins ⟨baseUrl, before, candidate, hfound⟩
  exact ⟨baseUrl, before, candidate, hfound.mono hbegins.subset⟩

/-! ### Checks -/

theorem quiet_check {A : List Workers.Event → Prop} {v : Except AppError α} :
    Quiet t flag A (check v) fun a log => A log ∧ v = .ok a := by
  refine quiet_ofExcept.mono (fun _ h => h) fun a log h => ⟨h.1, ?_⟩
  have hok := h.2
  cases v with
  | ok b =>
      cases hok
      rfl
  | error e => cases hok

theorem still_check {v : Except AppError α} : Still t flag (check v) :=
  quiet_check.still

/-- What is done only where the guard allows it. -/
theorem Quiet.whenAllowed {A : List Workers.Event → Prop} {P : Option α → List Workers.Event → Prop}
    {allowed : Work Bool} {next : Work (Option α)} (hallowed : Still t flag allowed) (hA : Grows A)
    (hnext : Quiet t flag A next P) (hnone : ∀ log, A log → P none log) :
    Quiet t flag A (whenAllowed allowed next) P :=
  Quiet.bind (hallowed.keeps hA) fun _ => Quiet.ite (fun _ => hnext) fun _ => quiet_pure hnone

/-! ### The torrent -/

theorem still_siteRequests (htoken : claim.leaseToken = t.text) (n : ℕ) :
    Still t false (siteRequests x claim n) := by
  induction n with
  | zero => exact still_pure ()
  | succ n ih => exact (still_runBeforeSendGuard (still_ptRequestGuard htoken)).bind fun _ => ih

theorem quiet_searchSite (htoken : claim.leaseToken = t.text) (siteId : String)
    (request : TorrentSearchRequest) :
    Quiet t false (fun _ => True) (searchSite x claim siteId request) fun candidates log =>
      .searched claim siteId request candidates ∈ log := by
  refine Quiet.bind still_supply fun n => Quiet.bind (still_siteRequests htoken n) fun _ => ?_
  refine (quiet_record grows_true fun _ ev hev => ?_).mono (fun _ h => h) ?_
  · obtain rfl := List.mem_singleton.mp hev
    exact ⟨rfl, htoken⟩
  · exact fun _ log h => h.2 _ List.mem_cons_self

theorem quiet_fetchTorrent (htoken : claim.leaseToken = t.text) (siteId torrentId : String) :
    Quiet t false (fun _ => True) (fetchTorrent x claim siteId torrentId) fun payload log =>
      .fetched claim siteId torrentId payload ∈ log := by
  refine Quiet.bind still_supply fun n => Quiet.bind (still_siteRequests htoken n) fun _ => ?_
  refine (quiet_record grows_true fun _ ev hev => ?_).mono (fun _ h => h) ?_
  · obtain rfl := List.mem_singleton.mp hev
    exact ⟨rfl, htoken⟩
  · exact fun _ log h => h.2 _ List.mem_cons_self

/-- The answer of a site in which the approved candidate was found again. -/
def SearchedFor (claim : ExecutionClaim) (binding : ExecutionBinding)
    (candidate : TorrentCandidate) (log : List Workers.Event) : Prop :=
  ∃ request candidates, .searched claim binding.plan.siteId request candidates ∈ log ∧
    requireExactCandidate binding candidates = .ok candidate

omit [TorrentCodec] in
theorem grows_searchedFor (binding : ExecutionBinding) (candidate : TorrentCandidate) :
    Grows (SearchedFor claim binding candidate) := by
  rintro log log' hbegins ⟨request, candidates, hmem, hexact⟩
  exact ⟨request, candidates, hbegins.subset hmem, hexact⟩

/-- What the searches have found: the candidate, or candidates none of which is the approved one. -/
def SearchOutcome (claim : ExecutionClaim) (binding : ExecutionBinding) :
    Option (Except (List TorrentCandidate) TorrentCandidate) → List Workers.Event → Prop
  | none, _ => True
  | some (.ok candidate), log => SearchedFor claim binding candidate log
  | some (.error searched), _ => matchingCandidates binding searched = []

/-- The loop over the searches. -/
theorem quiet_searchCandidate (htoken : claim.leaseToken = t.text) (binding : ExecutionBinding)
    (requests : List TorrentSearchRequest) (searched : List TorrentCandidate)
    (hsearched : matchingCandidates binding searched = []) :
    Quiet t false (fun _ => True) (searchCandidate x claim binding requests searched)
      (SearchOutcome claim binding) := by
  induction requests generalizing searched with
  | nil => exact quiet_pure fun _ _ => hsearched
  | cons request requests ih =>
      refine Quiet.whenAllowed (still_ensureAllowed htoken fun _ => rfl) grows_true ?_
        fun _ _ => trivial
      refine Quiet.bind (quiet_searchSite htoken _ request) fun results => ?_
      cases hresults : matchingCandidates binding results with
      | nil =>
          refine (ih (searched ++ results) ?_).mono (fun _ _ => trivial) fun _ _ h => h
          unfold matchingCandidates at hsearched hresults ⊢
          rw [List.filter_append, hsearched, hresults, List.append_nil]
      | cons _ _ =>
          refine Quiet.bind quiet_check fun candidate => quiet_pure fun log h => ?_
          exact ⟨request, results, h.1, h.2⟩

omit [TorrentCodec] in
/-- Where no candidate is the approved one, none is found. -/
theorem requireExactCandidate_of_nil {binding : ExecutionBinding}
    {searched : List TorrentCandidate} {candidate : TorrentCandidate}
    (h : matchingCandidates binding searched = []) :
    requireExactCandidate binding searched ≠ .ok candidate := by
  unfold requireExactCandidate
  rw [h]
  exact nofun

theorem quiet_findCandidate (htoken : claim.leaseToken = t.text) (binding : ExecutionBinding)
    (requests : List TorrentSearchRequest) :
    Quiet t false (fun _ => True) (findCandidate x claim binding requests) fun found log =>
      ∀ candidate ∈ found, SearchedFor claim binding candidate log := by
  refine Quiet.bind (quiet_searchCandidate htoken binding requests [] rfl) fun found => ?_
  match found with
  | none => exact quiet_pure fun _ _ _ h => nomatch h
  | some (.ok candidate) =>
      refine quiet_pure fun log h => ?_
      rintro _ ⟨⟩
      exact h
  | some (.error searched) =>
      refine Quiet.bind quiet_check fun candidate => quiet_pure fun log h => ?_
      exact absurd h.2 (requireExactCandidate_of_nil h.1)

/-- That the binding of an execution was loaded. -/
def HasBound (x : DownloadExecutor) (claim : ExecutionClaim) (binding : ExecutionBinding)
    (log : List Workers.Event) : Prop :=
  ∃ baseUrl before, .bound (x.reading baseUrl) claim before binding ∈ log

omit [Python] [TorrentCodec] in
theorem grows_hasBound (binding : ExecutionBinding) : Grows (HasBound x claim binding) := by
  rintro log log' hbegins ⟨baseUrl, before, hmem⟩
  exact ⟨baseUrl, before, hbegins.subset hmem⟩

/-- A transaction that only reads leaves the database alone. -/
theorem quiet_loadBinding (htoken : claim.leaseToken = t.text) :
    Quiet t flag (fun _ => True)
      (transact (fun i => loadBinding (x.reading i.qbBaseUrl) claim)
        fun i before binding => [.bound (x.reading i.qbBaseUrl) claim before binding])
      fun binding => HasBound x claim binding := by
  refine quiet_transact grows_true fun i w hsound _ _ binding db' hcommit => ?_
  obtain ⟨rfl, -⟩ := wp_loadBinding.commit_ok hcommit
  refine ⟨⟨.none, _, written_of_moves .refl (Or.inl rfl) rfl ?_ ?_ ?_ ?_⟩, ?_, ?_⟩
  · simpa [Workers.Event.claim] using htoken
  · exact ⟨⟨hsound.tables, by rw [hcommit]⟩, journal_nil⟩
  · simp [before?]
  · simp [reserves, admits]
  · simp [admits, adds]
  · exact ⟨i.qbBaseUrl, w.db, by simp⟩

/-- **The first part of the processing**: what it provides stands in the log. -/
theorem quiet_fetchValidated (htoken : claim.leaseToken = t.text) :
    Quiet t false (fun _ => True) (fetchValidated x claim) fun fetched log =>
      ∀ torrent ∈ fetched, HasFetched x claim torrent log := by
  have hallowed : Still t false (ensureAllowed x claim .validating) :=
    still_ensureAllowed htoken fun _ => rfl
  refine Quiet.whenAllowed hallowed grows_true ?_ fun _ _ _ h => nomatch h
  refine Quiet.bind (quiet_loadBinding htoken) fun binding => ?_
  have hbound : Grows (HasBound x claim binding) := grows_hasBound binding
  refine Quiet.bind (still_unlogged.keeps hbound) fun searchModes => ?_
  refine Quiet.bind (still_check.keeps hbound) fun requests => ?_
  refine Quiet.bind (still_unlogged.keeps hbound) fun _ => ?_
  refine Quiet.bind ((quiet_findCandidate htoken binding requests).carry hbound) fun found => ?_
  cases found with
  | none => exact quiet_pure fun _ _ _ h => nomatch h
  | some candidate =>
      have hfound : Grows fun log =>
          SearchedFor claim binding candidate log ∧ HasBound x claim binding log :=
        (grows_searchedFor binding candidate).and hbound
      refine Quiet.mono (A := fun log =>
        SearchedFor claim binding candidate log ∧ HasBound x claim binding log) ?_
        (fun _ h => ⟨h.1 candidate rfl, h.2⟩) fun _ _ h => h
      refine Quiet.whenAllowed hallowed hfound ?_ fun _ _ _ h => nomatch h
      refine Quiet.bind ((quiet_fetchTorrent htoken binding.plan.siteId candidate.torrentId).carry
        hfound) fun payload => ?_
      refine Quiet.bind quiet_ofExcept fun metadata => Quiet.bind quiet_check fun _ =>
        quiet_pure fun log h => ?_
      obtain ⟨⟨⟨hfetched, hsearched, baseUrl, before, hmem⟩, hvalidated⟩, hconsistent⟩ := h
      rintro torrent ⟨⟩
      exact ⟨baseUrl, before, candidate,
        { bound := hmem
          searched := hsearched
          fetched := hfetched
          validated := hvalidated
          consistent := hconsistent }⟩

/-! ### The downloader -/

section Downloader

/-- The adapter that the executor installs its guard in. -/
theorem still_beforeRequest (htoken : claim.leaseToken = t.text) :
    Still t flag (qbAdapter x claim).beforeRequest :=
  still_qbRequestGuard htoken

/-- That the downloader was asked for a torrent, and what it answered. -/
def HasObserved (claim : ExecutionClaim) (metadata : ValidatedTorrent) (found : Option QbTorrent)
    (log : List Workers.Event) : Prop :=
  ∃ torrents, .observed claim metadata.identityHashes torrents ∈ log ∧
    findUniqueObservation metadata torrents = .ok found

omit [Python] [TorrentCodec] in
theorem grows_hasObserved (metadata : ValidatedTorrent) (found : Option QbTorrent) :
    Grows (HasObserved claim metadata found) := by
  rintro log log' hbegins ⟨torrents, hmem, hfound⟩
  exact ⟨torrents, hbegins.subset hmem, hfound⟩

theorem quiet_observe (htoken : claim.leaseToken = t.text) (metadata : ValidatedTorrent) :
    Quiet t flag (fun _ => True) (observe x claim metadata) fun found =>
      HasObserved claim metadata found := by
  refine Quiet.bind (quiet_findTorrentsByHashes (still_beforeRequest htoken) htoken _)
    fun torrents => ?_
  exact quiet_check.mono (fun _ h => h) fun found log h => ⟨torrents, h.1, h.2⟩

theorem still_prepareCategory (htoken : claim.leaseToken = t.text) (plan : DownloadPlan)
    (existing : Option QbTorrent) : Still t false (prepareCategory x claim plan existing) := by
  cases existing with
  | some _ => exact still_pure _
  | none =>
      refine Quiet.whenAllowed (still_ensureAllowed htoken fun _ => rfl) grows_true ?_
        fun _ _ => trivial
      refine still_check.bind fun savePath => ?_
      exact (still_ensureCategory (still_beforeRequest htoken) htoken
        (still_categoryWriteGuard htoken) _ _).bind fun _ => still_pure _

/-- **The second part of the processing.** -/
theorem quiet_prepareDownloader (htoken : claim.leaseToken = t.text) (torrent : FetchedTorrent) :
    Quiet t false (fun _ => True) (prepareDownloader x claim torrent) fun prepared log =>
      ∀ existing ∈ prepared, HasObserved claim torrent.metadata existing log := by
  have hallowed : Still t false (ensureAllowed x claim .validating) :=
    still_ensureAllowed htoken fun _ => rfl
  refine Quiet.bind still_unlogged fun _ => ?_
  refine Quiet.whenAllowed hallowed grows_true ?_ fun _ _ _ h => nomatch h
  refine Quiet.bind (still_authenticate (still_beforeRequest htoken) htoken) fun _ => ?_
  refine Quiet.whenAllowed hallowed grows_true ?_ fun _ _ _ h => nomatch h
  refine Quiet.bind (quiet_observe htoken torrent.metadata) fun existing => ?_
  have hobserved : Grows (HasObserved claim torrent.metadata existing) :=
    grows_hasObserved torrent.metadata existing
  refine Quiet.bind ((still_prepareCategory htoken _ existing).keeps hobserved) fun prepared => ?_
  refine quiet_pure fun log h existing' hmem => ?_
  obtain ⟨_, -, rfl⟩ := Option.mem_map.mp hmem
  exact h

end Downloader

/-! ### The reservation -/

/-- That an execution was reserved for a torrent. -/
def HasReserved (claim : ExecutionClaim) (metadata : ValidatedTorrent)
    (log : List Workers.Event) : Prop :=
  ∃ x clock before, .reserved x claim metadata clock before .submitting ∈ log

omit [Python] [TorrentCodec] in
theorem grows_hasReserved (metadata : ValidatedTorrent) : Grows (HasReserved claim metadata) := by
  rintro log log' hbegins ⟨x, clock, before, hmem⟩
  exact ⟨x, clock, before, hbegins.subset hmem⟩

omit [TorrentCodec] in
/-- The rows of an execution that has just been reserved. -/
theorem rows_of_reserved {s s' : Tables} {executionId leaseToken : String}
    {metadata : ValidatedTorrent} {now : DateTime} (h : Reserved s executionId metadata now s')
    {e : DownloadExecution} (he : e ∈ s.executions) (hid : e.id = executionId)
    (hlease : e.leaseToken = some leaseToken) :
    SettledRow s' executionId leaseToken ∧ ∀ e' ∈ s'.executions, e'.status = .submitting →
      (∃ e ∈ s.executions, e.id = e'.id ∧ e.status = .submitting) ∨ executionId = e'.id := by
  obtain ⟨he₁, hid₁, -, -, -, -, -, -, -, -, -⟩ := h
  obtain rfl := Table.eq_of_key_eq he₁ he (hid₁.trans hid.symm)
  refine ⟨⟨_, Table.mem_save_self _ _, hid₁, rfl, fun _ => hlease⟩, fun e' he' hs => ?_⟩
  rcases Table.mem_save.mp he' with rfl | ⟨he', -⟩
  · exact Or.inr hid₁.symm
  · exact Or.inl ⟨e', he', rfl, hs⟩

/-- **A reservation is a step of the executor.** -/
theorem own_reserve (htoken : claim.leaseToken = t.text) {metadata : ValidatedTorrent}
    {clock : DateTime × DateTime × DateTime} {w : World} (hsound : Sound w)
    {status : DownloadExecutionStatus} {db' : Db}
    (hcommit : Tx.commit (reserveSubmission x claim metadata clock) w.db = (.ok status, db')) :
    Own t w
      { db := db'
        log := w.log ++ [.reserved x claim metadata clock w.db status] } := by
  obtain ⟨heff, hcases⟩ := (wp_reserveSubmission metadata clock).commit_ok hcommit
  have hnone : status = .submitting → ∀ ev ∈ w.log, reserves ev = true →
      ev.claim.executionId ≠ claim.executionId := by
    rintro rfl ev hev hreserves hid
    rcases hcases with ⟨hne, -⟩ | ⟨-, -, e, he, heid, hvalidating, -⟩
    · cases hne
    · -- a row that was reserved before would be settled, and this one is being validated
      obtain ⟨e₁, he₁, hid₁, hsettled, -⟩ := hsound.settled ev hev hreserves
      obtain rfl : e₁ = e := Table.eq_of_key_eq he₁ he ((hid₁.trans hid).trans heid.symm)
      rw [not_settled (Or.inr (Or.inr hvalidating))] at hsettled
      cases hsettled
  refine ⟨{ reserves := claim.leaseToken }, _,
    { moves := heff.moves
      log := rfl
      token := by simpa [Workers.Event.claim] using htoken
      follows := ⟨⟨hsound.tables, by rw [hcommit], hnone⟩, journal_nil⟩
      before := by simp [before?]
      fencer := Or.inl rfl
      settled := fun ev hev hreserves => ?_
      admitted := by simp [admits]
      submitting := fun e' he' hs => ?_ }⟩
  · obtain rfl := List.mem_singleton.mp hev
    rcases hcases with ⟨rfl, -⟩ | ⟨-, hreserved, e, he, heid, -, hlease, -⟩
    · cases hreserves
    · exact (rows_of_reserved hreserved he heid hlease).1
  · rcases hcases with ⟨-, hnothing⟩ | ⟨rfl, hreserved, e, he, heid, -, hlease, -⟩
    · exact Or.inl (hnothing.moves.submitting_row rfl he' hs)
    · refine ((rows_of_reserved hreserved he heid hlease).2 e' he' hs).imp_right fun hid => ?_
      exact ⟨_, List.mem_singleton_self _, rfl, hid⟩

/-- **The reservation is quiet**, and it stands in the log where it was made. -/
theorem quiet_reserve (htoken : claim.leaseToken = t.text) (metadata : ValidatedTorrent) :
    Quiet t false (fun _ => True) (reserve x claim metadata) fun reserved log =>
      reserved = true → HasReserved claim metadata log := by
  refine Quiet.bind (S := fun status log =>
    ∃ x' clock before, .reserved x' claim metadata clock before status ∈ log) ?_ fun status => ?_
  · refine quiet_transact grows_true fun i w hsound _ _ status db' hcommit => ?_
    refine ⟨own_reserve htoken hsound hcommit, by simp [admits, adds], ?_⟩
    exact ⟨_, _, _, List.mem_append_right _ (List.mem_singleton_self _)⟩
  · refine Quiet.ite (fun _ => quiet_pure (by rintro _ _ ⟨⟩)) fun _ => ?_
    refine Quiet.bind quiet_require fun _ => Quiet.bind (quiet_remember fun _ => rfl) fun _ => ?_
    refine quiet_pure fun log h _ => ?_
    obtain ⟨hreserved, rfl⟩ := h
    exact hreserved

/-! ### The request that adds a torrent -/

/-- What holds of an executor after the reservation: unless the flag tells that the request may have
been sent, it has left no mark. -/
def Ready (t : Uuid) (m : ClaimMemory) (w : World) : Prop :=
  m.torrentAddMayHaveOccurred = false → marks t w.log = []

/-- **A routine that may send the request that adds a torrent**, from a fact about the log. -/
def Submits (t : Uuid) (A : List Workers.Event → Prop) (r : Work α) : Prop :=
  ∀ m w, m.torrentAddMayHaveOccurred = false → marks t w.log = [] → A w.log →
    Routine.wp executors t r (fun _ m' w' => Ready t m' w') (fun _ _ _ => True) m w

section Rules

variable {A : List Workers.Event → Prop} {P : α → List Workers.Event → Prop}
  {S : β → List Workers.Event → Prop}

/-- What is quiet sends nothing. -/
theorem Quiet.submits {r : Work α} (h : Quiet t false A r P) : Submits t A r := by
  intro m w hflag hmarks hA
  refine Routine.wp_mono (h m w hflag (fun _ => hmarks) hA) (fun _ m' w' hkept _ => ?_)
    fun _ _ _ _ => trivial
  exact hkept.1.marks.trans hmarks

/-- What is quiet may come before. -/
theorem Quiet.bind_submits {s : Work β} {f : β → Work α} (h : Quiet t false A s S)
    (hf : ∀ b, Submits t (S b) (f b)) : Submits t A (s >>= f) := by
  intro m w hflag hmarks hA
  refine (Routine.wp_bind s f).mpr ?_
  refine Routine.wp_mono (h m w hflag (fun _ => hmarks) hA) ?_ fun _ _ _ _ => trivial
  rintro b m' w' ⟨hkept, hS⟩
  exact hf b m' w' (hkept.flag.trans hflag) (hkept.marks.trans hmarks) hS

/-- What is still, whatever the flag, may come after. -/
theorem Submits.bind {s : Work β} {f : β → Work α} (h : Submits t A s)
    (hf : ∀ b flag, Still t flag (f b)) : Submits t A (s >>= f) := by
  intro m w hflag hmarks hA
  refine (Routine.wp_bind s f).mpr ?_
  refine Routine.wp_mono (h m w hflag hmarks hA) ?_ fun _ _ _ h => h
  intro b m' w' hready
  refine Routine.wp_mono (hf b m'.torrentAddMayHaveOccurred m' w' rfl hready trivial) ?_
    fun _ _ _ _ => trivial
  intro a m'' w'' hkept hfalse
  exact hkept.1.marks.trans (hready (hkept.1.flag.symm.trans hfalse))

theorem Submits.mono {B : List Workers.Event → Prop} {r : Work α} (h : Submits t A r)
    (hB : ∀ log, B log → A log) : Submits t B r :=
  fun m w hflag hmarks hlog => h m w hflag hmarks (hB _ hlog)

end Rules

/-- **The admission is a step of the executor**: the execution has been reserved, and the guard has
found it in submission under the lease. -/
theorem admitted_own (htoken : claim.leaseToken = t.text) {newId : Uuid} {clock : DateTime × DateTime}
    {w : World} {db' : Db} (hsound : Sound w) (hmarks : marks t w.log = [])
    (hreserved : ∃ ev ∈ w.log, reserves ev = true ∧ ev.claim = claim)
    (hcommit : Tx.commit (ensureExternalActionAllowed x claim .submitting false newId clock) w.db =
      (.ok true, db')) :
    Own t w
      { db := db'
        log := w.log ++ [.guarded x claim .submitting false newId clock w.db true,
          .admitted claim] } := by
  obtain ⟨heff, hallowed⟩ := commit_guard hcommit
  obtain ⟨e, he, hid, hsubmitting, hlease⟩ := (hallowed rfl).row
  refine ⟨{ fencer := fencerOf claim false }, _,
    { moves := heff.moves
      log := rfl
      token := by simpa [Workers.Event.claim] using htoken
      follows := ⟨⟨hsound.tables, by rw [hcommit]⟩, ?_, journal_nil⟩
      before := by simp [before?]
      fencer := fencerOf_cases htoken (f := false) fun _ => hmarks
      settled := by simp [reserves]
      admitted := ?_
      submitting := fun e' he' hs => Or.inl (heff.moves.submitting_row rfl he' hs) }⟩
  · exact ⟨x, newId, clock, w.db, w.log, [], rfl, hreserved⟩
  · intro ev hev hadmits
    rcases List.mem_cons.mp hev with rfl | hev
    · cases hadmits
    · obtain rfl := List.mem_singleton.mp hev
      exact ⟨e, he, hid, by rw [hsubmitting]; rfl⟩

/-- **The guard of the write**: where it returns, the executor has been admitted, once. -/
theorem wp_writeGuard (htoken : claim.leaseToken = t.text) {m : ClaimMemory} {w : World}
    (hmarks : marks t w.log = []) (hreserved : ∃ ev ∈ w.log, reserves ev = true ∧ ev.claim = claim) :
    Routine.wp executors t (writeGuard x claim)
      (fun _ _ w' => w.log <+: w'.log ∧ marks t w'.log = [.admitted claim])
      (fun _ _ _ => True) m w := by
  refine (Routine.wp_bind _ _).mpr (wp_transact fun w' hothers hsound i => ?_)
  obtain ⟨hbegins, hsame⟩ := others_log hothers
  have hmarks' : marks t w'.log = [] := hsame.trans hmarks
  have hreserved' : ∃ ev ∈ w'.log, reserves ev = true ∧ ev.claim = claim := by
    obtain ⟨ev, hev, h⟩ := hreserved
    exact ⟨ev, hbegins.subset hev, h⟩
  refine ⟨fun _ => trivial, fun allowed db' hcommit => ?_⟩
  have hguard := own_guard htoken hsound (fun _ => hmarks') hcommit
  refine ⟨⟨hguard, fun _ => trivial⟩, ?_⟩
  cases allowed with
  | false => exact ⟨hguard, (Routine.wp_require _ _ _).mpr ⟨nofun, fun _ => trivial⟩⟩
  | true =>
      refine ⟨admitted_own htoken hsound hmarks' hreserved' hcommit,
        (Routine.wp_require _ _ _).mpr ⟨fun _ => ?_, nofun⟩⟩
      refine ⟨hbegins.trans (List.prefix_append _ _), ?_⟩
      rw [marks_append, hmarks', List.nil_append]
      simp [marks, admits, adds, Workers.Event.claim, htoken]

/-- What the executor has in hand for the request that adds the torrent. -/
def Prepared (x : DownloadExecutor) (claim : ExecutionClaim) (torrent : FetchedTorrent)
    (log : List Workers.Event) : Prop :=
  HasReserved claim torrent.metadata log ∧ HasObserved claim torrent.metadata none log ∧
    HasFetched x claim torrent log

theorem grows_prepared (torrent : FetchedTorrent) : Grows (Prepared x claim torrent) :=
  (grows_hasReserved _).and ((grows_hasObserved _ _).and (grows_hasFetched torrent))

/-- **The guards of the request that adds the torrent**: the one that is installed is quiet, and
the other admits the executor. -/
theorem wp_runGuards (htoken : claim.leaseToken = t.text) {torrent : FetchedTorrent}
    {m : ClaimMemory} {w : World} (hflag : m.torrentAddMayHaveOccurred = false)
    (hmarks : marks t w.log = []) (hprepared : Prepared x claim torrent w.log) :
    Routine.wp executors t ((qbAdapter x claim).runGuards (torrentAddWriteGuard x claim))
      (fun _ m' w' => m'.torrentAddMayHaveOccurred = true ∧ marks t w'.log = [.admitted claim] ∧
        Prepared x claim torrent w'.log)
      (fun _ _ _ => True) m w := by
  have hinstalled : Quiet t false (Prepared x claim torrent)
      (runBeforeSendGuard qbGuardFailed (qbAdapter x claim).beforeRequest)
      fun _ => Prepared x claim torrent :=
    (still_runBeforeSendGuard (still_beforeRequest htoken)).keeps (grows_prepared torrent)
  refine (Routine.wp_bind _ _).mpr ?_
  refine Routine.wp_mono (hinstalled m w hflag (fun _ => hmarks) hprepared) ?_ fun _ _ _ _ => trivial
  rintro _ m' w' ⟨hkept, hprepared'⟩
  have hreserved : ∃ ev ∈ w'.log, reserves ev = true ∧ ev.claim = claim := by
    obtain ⟨x', clock, before, hmem⟩ := hprepared'.1
    exact ⟨_, hmem, rfl, rfl⟩
  refine (Routine.wp_handle _ _).mpr ((Routine.wp_bind _ _).mpr ?_)
  refine Routine.wp_mono (wp_writeGuard htoken (hkept.marks.trans hmarks) hreserved) ?_
    fun _ _ _ _ => trivial
  rintro _ m'' w'' ⟨hbegins, hadmitted⟩
  exact ⟨rfl, hadmitted, grows_prepared torrent _ _ hbegins hprepared'⟩

omit [Python] [TorrentCodec] in
/-- Where the only mark of an executor is its admission, it has sent no request that adds a
torrent. -/
theorem not_added (htoken : claim.leaseToken = t.text) {log : List Workers.Event}
    (hmarks : marks t log = [.admitted claim]) {ev : Workers.Event} (hev : ev ∈ log)
    (hadds : adds ev = true) : ev.claim.leaseToken ≠ claim.leaseToken := by
  intro hsame
  have hmem : ev ∈ marks t log := by
    simp [marks, hev, hadds, hsame, htoken]
  rw [hmarks, List.mem_singleton] at hmem
  subst hmem
  cases hadds

/-- **The request that adds the torrent is justified**: it is sent once, after the admission, and
what stands behind it is in the log. -/
theorem wp_sendAdd (htoken : claim.leaseToken = t.text) {torrent : FetchedTorrent}
    {expectedInfoHash savePath : String} {field : QbAddStateField}
    (hpath : requiredSavePath x = .ok savePath) {m : ClaimMemory} {w : World}
    (hflag : m.torrentAddMayHaveOccurred = true) (hmarks : marks t w.log = [.admitted claim])
    (hprepared : Prepared x claim torrent w.log) :
    Routine.wp executors t
      ((qbAdapter x claim).send (.addTorrent
        ((addArguments torrent.binding torrent.payload expectedInfoHash savePath).form field)
        torrent.payload))
      (fun _ m' _ => m'.torrentAddMayHaveOccurred = true) (fun _ _ _ => True) m w := by
  refine Routine.wp_perform fun w' hothers hsound i => ?_
  obtain ⟨hbegins, hsame⟩ := others_log hothers
  have hmarks' : marks t w'.log = [.admitted claim] := hsame.trans hmarks
  obtain ⟨hreserved, hobserved, baseUrl, before, candidate, hfound⟩ :=
    grows_prepared torrent _ _ hbegins hprepared
  refine ⟨⟨.none, _, written_of_moves .refl (Or.inl rfl) rfl ?_ ⟨⟨?_, ?_, ?_⟩, journal_nil⟩ ?_ ?_⟩,
    fun _ _ => hflag, fun _ h => nomatch h⟩
  · simpa [Workers.Event.claim, qbAdapter] using htoken
  · have hmem : Workers.Event.admitted claim ∈ marks t w'.log := by
      rw [hmarks']
      exact List.mem_singleton_self _
    exact (List.mem_filter.mp hmem).1
  · exact fun ev hev hadds => not_added htoken hmarks' hev hadds
  · exact ⟨_, before, torrent.binding, candidate, torrent.metadata,
      { hfound with
        absent := hobserved
        reserved := hreserved
        form := ⟨expectedInfoHash, savePath, field, hpath, rfl⟩ }⟩
  · simp [before?]
  · simp [reserves, admits]

/-- **The request that adds the torrent**, with what its response says. -/
theorem submits_postTorrent (htoken : claim.leaseToken = t.text) {torrent : FetchedTorrent}
    {expectedInfoHash savePath : String} {field : QbAddStateField}
    (hpath : requiredSavePath x = .ok savePath) :
    Submits t (Prepared x claim torrent)
      ((qbAdapter x claim).postTorrent
        ((addArguments torrent.binding torrent.payload expectedInfoHash savePath).form field)
        torrent.payload (torrentAddWriteGuard x claim)) := by
  intro m w hflag hmarks hprepared
  refine (Routine.wp_bind _ _).mpr ((Routine.wp_handle _ _).mpr ?_)
  refine (Routine.wp_bind _ _).mpr ((Routine.wp_require _ _ _).mpr ⟨fun _ => ?_, fun _ => trivial⟩)
  refine (Routine.wp_bind _ _).mpr ((Routine.wp_memory _).mpr ?_)
  refine (Routine.wp_bind _ _).mpr ((Routine.wp_require _ _ _).mpr ⟨fun _ => ?_, fun _ => trivial⟩)
  refine (Routine.wp_bind _ _).mpr ?_
  refine Routine.wp_mono (wp_runGuards htoken hflag hmarks hprepared) ?_ fun _ _ _ _ => trivial
  rintro _ m₁ w₁ ⟨hflag₁, hmarks₁, hprepared₁⟩
  refine (Routine.wp_bind _ _).mpr ?_
  refine Routine.wp_mono (wp_sendAdd htoken hpath hflag₁ hmarks₁ hprepared₁) ?_
    fun _ _ _ _ => trivial
  intro outcome m₂ w₂ hflag₂
  have hresponse : Still t true (QbittorrentAdapter.response outcome) := still_response outcome
  refine Routine.wp_mono (hresponse m₂ w₂ hflag₂ nofun trivial) ?_ fun _ _ _ _ => trivial
  rintro r m₃ w₃ ⟨hkept, -⟩
  refine (Routine.wp_require _ _ _).mpr ⟨fun _ hfalse => ?_, fun _ => trivial⟩
  rw [hkept.flag.trans hflag₂] at hfalse
  cases hfalse

/-- **`add_torrent`**: all that comes before the request is quiet. -/
theorem submits_addTorrent (htoken : claim.leaseToken = t.text) {torrent : FetchedTorrent}
    {expectedInfoHash savePath : String} (hpath : requiredSavePath x = .ok savePath) :
    Submits t (Prepared x claim torrent)
      ((qbAdapter x claim).addTorrent
        (addArguments torrent.binding torrent.payload expectedInfoHash savePath)
        (torrentAddWriteGuard x claim)) := by
  have hkeeps : ∀ {γ : Type} {r : Work γ}, Still t false r →
      Quiet t false (Prepared x claim torrent) r fun _ => Prepared x claim torrent :=
    fun h => h.keeps (grows_prepared torrent)
  have hguard : Still t false (qbAdapter x claim).beforeRequest := still_beforeRequest htoken
  refine (hkeeps still_require).bind_submits fun _ => ?_
  refine (hkeeps (quiet_memory.still)).bind_submits fun m => ?_
  refine (hkeeps still_require).bind_submits fun _ => (hkeeps still_require).bind_submits fun _ => ?_
  refine (hkeeps still_ofExcept).bind_submits fun _ =>
    (hkeeps still_ofExcept).bind_submits fun metadata => ?_
  refine (hkeeps (quiet_findTorrentsByHashes hguard htoken _).still).bind_submits fun existing => ?_
  split_ifs with hexisting
  · exact (quiet_pure (P := fun _ _ => True) fun _ _ => trivial).submits
  · refine (hkeeps (still_getAddStateField hguard htoken)).bind_submits fun field => ?_
    exact (submits_postTorrent htoken hpath).bind fun _ _ => still_pure _

/-! ### The processing of a claim -/

theorem submits_addApproved (htoken : claim.leaseToken = t.text) (torrent : FetchedTorrent) :
    Submits t (Prepared x claim torrent) (addApproved x claim torrent) := by
  refine Quiet.bind_submits quiet_check fun expectedInfoHash =>
    Quiet.bind_submits quiet_check fun savePath => ?_
  intro m w hflag hmarks hlog
  obtain ⟨⟨hprepared, -⟩, hpath⟩ := hlog
  refine ((submits_addTorrent htoken hpath).bind fun result _ => ?_) m w hflag hmarks hprepared
  exact still_require.bind fun _ => still_pure _

theorem still_ensureSubmitting (htoken : claim.leaseToken = t.text) :
    Still t flag (ensureSubmitting x claim) :=
  still_memory_bind fun _ hflag => still_ensureAllowed htoken fun h => hflag.symm.trans h

theorem still_whenAllowed {allowed : Work Bool} {next : Work (Option α)}
    (hallowed : Still t flag allowed) (hnext : Still t flag next) :
    Still t flag (whenAllowed allowed next) :=
  Quiet.whenAllowed hallowed grows_true hnext fun _ _ => trivial

/-- **The last part of the processing** is quiet, whether a write may have happened or not. -/
theorem still_confirmSubmission (htoken : claim.leaseToken = t.text) (torrent : FetchedTorrent)
    (outcome : DownloadExecutionStatus) :
    Still t flag (confirmSubmission x claim torrent outcome) := by
  refine still_whenAllowed (still_ensureSubmitting htoken) ?_
  refine (quiet_observe htoken torrent.metadata).still.bind fun found => ?_
  refine still_check.bind fun observed => still_check.bind fun _ => ?_
  refine still_whenAllowed (still_ensureSubmitting htoken) ?_
  refine Still.bind (Still.bind (still_transact fun i db => ?_) fun _ => still_pure _)
    fun _ => still_pure _
  exact wp_finalizeDownloadSubmission ..

theorem submits_submitClaim (htoken : claim.leaseToken = t.text) (torrent : FetchedTorrent)
    (existing : Option QbTorrent) :
    Submits t
      (fun log => HasReserved claim torrent.metadata log ∧
        HasObserved claim torrent.metadata existing log ∧ HasFetched x claim torrent log)
      (submitClaim x claim torrent existing) := by
  cases existing with
  | some _ =>
      exact (quiet_pure (P := fun _ _ => True) fun _ _ => trivial).submits.bind fun _ _ =>
        still_confirmSubmission htoken torrent _
  | none =>
      exact (submits_addApproved htoken torrent).bind fun _ _ =>
        still_confirmSubmission htoken torrent _

/-- **The body of the processing.** -/
theorem submits_processBody (htoken : claim.leaseToken = t.text) :
    Submits t (fun _ => True) (processBody x claim) := by
  have hnone : ∀ {A : List Workers.Event → Prop}, Submits t A (pure none : Work (Option Unit)) :=
    (quiet_pure (P := fun _ _ => True) fun _ _ => trivial).submits
  refine (quiet_fetchValidated htoken).bind_submits fun fetched => ?_
  cases fetched with
  | none => exact hnone
  | some torrent =>
      have hfetched : Grows (HasFetched x claim torrent) := grows_hasFetched torrent
      refine Submits.mono (A := HasFetched x claim torrent) ?_ fun _ h => h torrent rfl
      refine ((quiet_prepareDownloader htoken torrent).carry hfetched).bind_submits fun prepared => ?_
      cases prepared with
      | none => exact hnone
      | some existing =>
          refine Submits.mono (A := fun log => HasObserved claim torrent.metadata existing log ∧
            HasFetched x claim torrent log) ?_ fun _ h => ⟨h.1 existing rfl, h.2⟩
          refine ((quiet_reserve htoken torrent.metadata).carry
            ((grows_hasObserved _ existing).and hfetched)).bind_submits fun reserved => ?_
          cases reserved with
          | false => exact hnone
          | true =>
              exact (submits_submitClaim htoken torrent existing).mono fun _ h =>
                ⟨h.1 rfl, h.2.1, h.2.2⟩

/-- The handlers record the failure, whatever was done before. -/
theorem wp_recordFailure (e : Exn) {m : ClaimMemory} {w : World} :
    Routine.wp executors t (recordFailure x claim e) (fun _ _ _ => True) (fun _ _ _ => True) m w := by
  refine (Routine.wp_ite _ _ _).mpr ⟨fun _ => trivial, fun _ => (Routine.wp_bind _ _).mpr ?_⟩
  refine (Routine.wp_memory _).mpr ((Routine.wp_ite _ _ _).mpr ⟨fun _ => ?_, fun _ => ?_⟩)
  · exact wp_transact_silent fun i db => wp_markReservedFailure ..
  · exact wp_transact_silent fun i db => wp_markValidationFailure ..

/-- **The processing of a claim keeps to the discipline.** -/
theorem wp_processClaim (htoken : claim.leaseToken = t.text) {m : ClaimMemory} {w : World}
    (hflag : m.torrentAddMayHaveOccurred = false) (hmarks : marks t w.log = []) :
    Routine.wp executors t (processClaim x claim) (fun _ _ _ => True) (fun _ _ _ => True) m w := by
  refine (Routine.wp_handle _ _).mpr ((Routine.wp_bind _ _).mpr ?_)
  exact Routine.wp_mono (submits_processBody htoken m w hflag hmarks trivial)
    (fun _ _ _ _ => trivial) fun e _ _ _ => wp_recordFailure e

/-! ### The executor -/

/-- **The claim of an execution is quiet**: what is claimed has not been reserved before. -/
theorem quiet_claimNextExecution :
    Quiet t flag (fun _ => True)
      (transact (fun i => claimNextExecution x t (i.clock 0) i.locked)
        fun _ _ claim => claim.toList.map .claimed)
      fun claimed _ => ∀ claim ∈ claimed, claim.leaseToken = t.text := by
  refine quiet_transact grows_true fun i w hsound _ _ claimed db' hcommit => ?_
  rcases (wp_claimNextExecution t (i.clock 0) i.locked).commit_ok hcommit with
    ⟨rfl, rfl⟩ | ⟨e, he, hstatus, hattempts, rfl, htables⟩
  · refine ⟨?_, List.forall_mem_nil _, fun _ h => nomatch h⟩
    rw [Option.toList_none, List.map_nil, List.append_nil]
    exact own_refl w
  · have hmoves : ControlPlane.Moves .none w.db.toTables db'.toTables := by
      rw [htables]
      exact (Effect.execution he (.claim hstatus hattempts)).single.moves
    refine ⟨⟨.none, _, written_of_moves hmoves (Or.inl rfl) rfl ?_ ⟨?_, journal_nil⟩ ?_ ?_⟩, ?_, ?_⟩
    · simp [Workers.Event.claim]
    · intro ev hev hreserves hid
      -- what was reserved is settled, and what can be claimed is not
      obtain ⟨e₁, he₁, hid₁, hsettled, -⟩ := hsound.settled ev hev hreserves
      obtain rfl : e₁ = e := Table.eq_of_key_eq he₁ he (hid₁.trans hid)
      rw [not_settled (hstatus.imp_right Or.inl)] at hsettled
      cases hsettled
    · simp [before?]
    · simp [reserves, admits]
    · simp [admits, adds]
    · rintro _ ⟨⟩
      rfl

omit [Python] [TorrentCodec] in
/-- A name that was not given away has left no mark. -/
theorem marks_of_fresh {w : World} (h : Fresh t w) : marks t w.log = [] :=
  List.filter_eq_nil_iff.mpr fun ev hev => by simp [h ev hev]

/-- **An executor keeps to the discipline.** -/
theorem keeps_runOnce {w : World} (hfresh : Fresh t w) :
    executors.Keeps t ((runOnce t x).thread {}) w := by
  have hrecover : Still t false
      (transact fun i => recoverStaleExecutions x (i.clock 0) i.locked) :=
    still_transact fun i db => Tx.wp_mono (wp_recoverStaleExecutions ..) (fun _ _ h => h)
      fun _ _ h => h.elim
  refine Routine.keeps_thread (Q := fun _ _ _ => True) (E := fun _ _ _ => True) ?_
  refine Quiet.wp_bind still_check rfl (fun _ => marks_of_fresh hfresh) trivial ?_
  rintro _ m₁ w₁ hflag₁ hmarks₁ -
  refine Quiet.wp_bind hrecover hflag₁ hmarks₁ trivial ?_
  rintro _ m₂ w₂ hflag₂ hmarks₂ -
  refine Quiet.wp_bind quiet_claimNextExecution hflag₂ hmarks₂ trivial ?_
  intro claimed m₃ w₃ hflag₃ hmarks₃ htoken
  cases claimed with
  | none => exact trivial
  | some claim => exact wp_processClaim (htoken claim rfl) hflag₃ (hmarks₃ rfl)

end LibSeek.Executor
