/-
What an executor acts on.

An executor reads and writes the database in transactions, and sends requests to the sites and to
qBittorrent.  The state that the executors share is the database and a log, in which every
transaction of an executor that has been committed and everything that it has sent or received is
written down.  The log is not part of the program, which never reads it: it is what the theorems
about runs speak of.

Main definitions:

* `Workers.Event`, `Workers.World` — the entries of the log, and the shared state;
* `Workers.Moment` — what the outside supplies for a step;
* `Workers.ClaimMemory`, `Workers.Work` — the variables of an executor that processes a claim, and
  its routines;
* `Workers.transact`, `Workers.record` — the atomic steps: a transaction, and something that is
  only logged.
-/

import LibSeek.Adapters.QbittorrentApi
import LibSeek.Lib.Routines
import LibSeek.Workers.ExecutorStore

set_option relaxedAutoImplicit false
set_option autoImplicit false

namespace LibSeek.Workers

open LibSeek.Core LibSeek.Lib LibSeek.Models LibSeek.Schemas LibSeek.Services LibSeek.Adapters

/-! ### The log -/

/-- An entry of the log, with the claim that the executor was processing. -/
inductive Event where
  /-- An execution was claimed. -/
  | claimed (claim : ExecutionClaim)
  /-- A guard was committed: for what it was called, on which database, and what it answered. -/
  | guarded (x : DownloadExecutor) (claim : ExecutionClaim)
      (expectedStatus : DownloadExecutionStatus) (externalWriteMayHaveOccurred : Bool)
      (newId : Uuid) (clock : DateTime × DateTime) (before : Db) (allowed : Bool)
  /-- The guard of the request that adds the torrent has returned. -/
  | admitted (claim : ExecutionClaim)
  /-- The binding of the execution was loaded. -/
  | bound (x : DownloadExecutor) (claim : ExecutionClaim) (before : Db)
      (binding : ExecutionBinding)
  /-- A site has answered a search. -/
  | searched (claim : ExecutionClaim) (siteId : String) (request : TorrentSearchRequest)
      (candidates : List TorrentCandidate)
  /-- A site has handed out a torrent. -/
  | fetched (claim : ExecutionClaim) (siteId torrentId : String) (payload : Bytes)
  /-- The downloader was asked for the torrents of some hashes, and has answered. -/
  | observed (claim : ExecutionClaim) (hashes : List String) (torrents : List QbTorrent)
  /-- A reservation was committed: on which database, and the status that it left. -/
  | reserved (x : DownloadExecutor) (claim : ExecutionClaim) (metadata : ValidatedTorrent)
      (clock : DateTime × DateTime × DateTime) (before : Db) (status : DownloadExecutionStatus)
  /-- A request was sent to the downloader. -/
  | sent (claim : ExecutionClaim) (request : QbRequest)

/-- The claim of an entry. -/
def Event.claim : Event → ExecutionClaim
  | claimed claim => claim
  | guarded _ claim .. => claim
  | admitted claim => claim
  | bound _ claim .. => claim
  | searched claim .. => claim
  | fetched claim .. => claim
  | observed claim .. => claim
  | reserved _ claim .. => claim
  | sent claim _ => claim

/-- The state that the executors share. -/
structure World where
  db : Db := {}
  log : List Event := []

/-! ### What the outside supplies -/

/-- What becomes of a transaction: the database answers, or it cannot be reached, or the connection
is lost after the commit. -/
inductive DatabaseOutcome where
  | answers | unavailable | connectionLost
  deriving DecidableEq, Repr

/-- What the outside supplies for a step: the readings of the clocks, new identifiers, the rows that
others have locked, the secret address of the downloader, what becomes of a transaction, and what
the sites and the downloader answer. -/
structure Moment where
  clock : ℕ → DateTime := fun _ => 0
  newId : ℕ → Uuid
  locked : String → Bool := fun _ => false
  qbBaseUrl : Option (Option String) := some none
  database : DatabaseOutcome := .answers
  http : HttpOutcome := .timeout
  /-- What the registry of the sites says of the ways to search a site. -/
  searchModes : Except Exn (List PtSearchMode) := .ok []
  /-- Whether the adapter of a site, or that of the downloader, can be created. -/
  created : Except Exn Unit := .ok ()
  /-- How many requests the adapter of a site sends. -/
  siteRequests : ℕ := 0
  found : Except Exn (List TorrentCandidate) := .ok []
  torrent : Except Exn Bytes := .ok []

/-! ### The routines of an executor -/

/-- The variables of an executor that processes a claim: the flags of `_process_claim`, and the
session of its adapter. -/
structure ClaimMemory where
  reservationCommitted : Bool := false
  categoryWriteMayHaveOccurred : Bool := false
  torrentAddMayHaveOccurred : Bool := false
  qbExpectedStatus : DownloadExecutionStatus := .validating
  authenticated : Bool := false
  addStateField : Option QbAddStateField := none

/-- A routine of an executor. -/
abbrev Work (α : Type) : Type :=
  Routine Moment World ClaimMemory Exn α

/-- The exception of the database driver. -/
def operationalError : Exn :=
  .other "OperationalError"

/-- What a transaction does to the shared state.  `events` is logged with the commit, and `heard`
as well where the executor is told of it. -/
def transactStep {α : Type} (call : Moment → DbTx α) (events : Moment → Db → α → List Event)
    (heard : α → List Event) (i : Moment) (w : World) : Except Exn α × World :=
  match i.database, Tx.commit (call i) w.db with
  | .unavailable, _ => (.error operationalError, w)
  | _, (.error e, db) => (.error e, { w with db := db })
  | .connectionLost, (.ok a, db) =>
      (.error operationalError, { db := db, log := w.log ++ events i w.db a })
  | .answers, (.ok a, db) =>
      (.ok a, { db := db, log := w.log ++ (events i w.db a ++ heard a) })

/-- A transaction of an executor. -/
def transact {α : Type} (call : Moment → DbTx α)
    (events : Moment → Db → α → List Event := fun _ _ _ => [])
    (heard : α → List Event := fun _ => []) : Work α :=
  Routine.perform (transactStep call events heard)

/-- Something that comes from the outside, and is logged. -/
def record {α : Type} (supply : Moment → Except Exn α) (events : α → List Event) : Work α :=
  Routine.perform fun i w =>
    match supply i with
    | .ok a => (.ok a, { w with log := w.log ++ events a })
    | .error e => (.error e, w)

end LibSeek.Workers
