/-
Runs of the media imports.

The operations come in any order, on any requests, with any inspections, and between them the rest
of the program writes its own tables.  An operation that fails leaves the database as it was; one
that succeeds moves one request along the life cycle, and a request that is rejected or revoked is
never written again.

Main definitions:

* `MediaImports.run` — the database after a run of operations;
* `MediaImports.Moves` — the transitions of the life cycle;
* `MediaImports.isTerminal` — the statuses in which a request ends.

Main results:

* `MediaImports.Invariant.perform` — an operation fails and changes nothing, or is a step;
* `MediaImports.invariant_run` — the invariant holds in every run;
* `MediaImports.importLifecycle_run` — **the life cycle of the requests, in every run**.
-/

import LibSeek.MediaImports.Invariant

set_option relaxedAutoImplicit false
set_option autoImplicit false

namespace LibSeek.MediaImports

open LibSeek.Core LibSeek.Lib LibSeek.Models LibSeek.Schemas LibSeek.Services

variable [UnicodeData]

/-! ### Runs -/

/-- The database after a run of operations. -/
def run (db : ImportDb) (ops : List Operation) : ImportDb :=
  ops.foldl (fun db op => (op.perform db).2) db

@[simp] theorem run_nil (db : ImportDb) : run db [] = db := rfl

@[simp] theorem run_cons (db : ImportDb) (op : Operation) (ops : List Operation) :
    run db (op :: ops) = run (op.perform db).2 ops := rfl

@[simp] theorem run_append (db : ImportDb) (ops ops' : List Operation) :
    run db (ops ++ ops') = run (run db ops) ops' :=
  List.foldl_append

/-- What an operation can come to: it fails and nothing is written, or it is a step. -/
def Outcome (db : ImportDb) (op : Operation) (x : Except Exn Unit) (db' : ImportDb) : Prop :=
  (∃ e, x = .error e ∧ db' = db) ∨ (x = .ok () ∧ Step db op db')

/-- A route whose body writes one step: the response of the row that was written can be made, so
that the route never fails after its commit. -/
theorem Invariant.route {db : ImportDb} (h : Invariant db) {op : Operation}
    {body : ImportTx MediaImportRequest}
    (hbody : Tx.wp body (fun r db' => Step db op db' ∧ r ∈ db'.requests) (fun _ _ => True) db) :
    Outcome db op (route body db).1 (route body db).2 := by
  rw [MediaImports.route]
  rcases Tx.commit_wp_eq hbody with ⟨r, db', heq, hstep, hr⟩ | ⟨e, -, heq, -⟩
  · rw [heq]
    exact Or.inr ⟨(h.step hstep).response hr, hstep⟩
  · rw [heq]
    exact Or.inl ⟨e, rfl, rfl⟩

/-- **An operation fails and changes nothing, or is a step.** -/
theorem Invariant.perform {db : ImportDb} (h : Invariant db) (op : Operation) :
    Outcome db op (op.perform db).1 (op.perform db).2 := by
  cases op with
  | create request settings actor newIds now =>
      refine h.route ?_
      have hbody := @wp_createMediaImportRequest _ db request settings actor newIds now
      simp only [Tx.wp_mapError, Tx.wp_bind, Tx.wp_pure]
      exact hbody
  | preflight requestId inspection valid settings actor newId now =>
      have hbody := @wp_recordMediaImportPreflight _ db requestId inspection valid settings
        actor newId now
      rw [Operation.perform]
      dsimp only
      rcases Tx.commit_wp_eq hbody with ⟨p, db', heq, hstep⟩ | ⟨e, -, heq, -⟩
      · rw [heq]
        exact Or.inr ⟨rfl, hstep⟩
      · rw [heq]
        exact Or.inl ⟨e, rfl, rfl⟩
  | approve requestId decision settings actor now =>
      exact h.route (wp_approveMediaImportRequest requestId decision settings actor now)
  | reject requestId reason settings actor now =>
      exact h.route (wp_rejectMediaImportRequest requestId reason settings actor now)
  | revoke requestId reason settings actor now =>
      exact h.route (wp_revokeMediaImportRequest requestId reason settings actor now)
  | elsewhere tables media => exact Or.inr ⟨rfl, Step.elsewhere⟩

/-- Every operation keeps the invariant. -/
theorem Invariant.perform_invariant {db : ImportDb} (h : Invariant db) (op : Operation) :
    Invariant (op.perform db).2 := by
  rcases h.perform op with ⟨e, -, hsame⟩ | ⟨-, hstep⟩
  · rw [hsame]
    exact h
  · exact h.step hstep

/-- What every step preserves holds after every run. -/
theorem run_induction {db : ImportDb} (h : Invariant db) {P : ImportDb → Prop} (hdb : P db)
    (hstep : ∀ db op db', Invariant db → P db → Step db op db' → P db') (ops : List Operation) :
    P (run db ops) := by
  induction ops generalizing db with
  | nil => exact hdb
  | cons op ops ih =>
      rw [run_cons]
      refine ih (h.perform_invariant op) ?_
      rcases h.perform op with ⟨e, -, hsame⟩ | ⟨-, hmoved⟩
      · rw [hsame]
        exact hdb
      · exact hstep db op _ h hdb hmoved

theorem Invariant.run {db : ImportDb} (h : Invariant db) (ops : List Operation) :
    Invariant (run db ops) :=
  run_induction h h (fun _ _ _ hdb _ hstep => hdb.step hstep) ops

/-- A database in which there is no import yet, whatever is in the rest of it. -/
def noImports (tables : Tables) (media : Table Models.MediaItem) : ImportDb :=
  { tables, media }

theorem invariant_noImports (tables : Tables) (media : Table Models.MediaItem) :
    Invariant (noImports tables media) where
  shape := fun r hr => absurd hr (Table.notMem_empty r)
  acknowledged := fun r hr => absurd hr (Table.notMem_empty r)
  active := fun r hr => absurd hr (Table.notMem_empty r)
  planned := fun r hr => absurd hr (Table.notMem_empty r)
  plan_unique := Table.uniqueBy_empty
  judged := fun p hp => absurd hp (Table.notMem_empty p)

/-- **The invariant holds in every run.** -/
theorem invariant_run (tables : Tables) (media : Table Models.MediaItem) (ops : List Operation) :
    Invariant (run (noImports tables media) ops) :=
  (invariant_noImports tables media).run ops

/-! ### The life cycle -/

omit [UnicodeData] in
/-- The transitions of the life cycle.  A pre-flight may leave the status as it is. -/
def Moves : MediaImportStatus → MediaImportStatus → Prop
  | .preflightRequired, .preflightRequired | .preflightRequired, .reviewRequired
  | .reviewRequired, .preflightRequired | .reviewRequired, .reviewRequired
  | .reviewRequired, .approvedPlanOnly | .approvedPlanOnly, .revoked
  | .preflightRequired, .rejected | .reviewRequired, .rejected => True
  | _, _ => False

omit [UnicodeData] in
/-- The statuses in which a request ends. -/
def isTerminal : MediaImportStatus → Bool
  | .rejected | .revoked => true
  | _ => false

omit [UnicodeData] in
theorem not_moves_of_isTerminal {status status' : MediaImportStatus}
    (h : isTerminal status = true) : ¬ Moves status status' := by
  cases status <;> cases status' <;> first | exact absurd h (by decide) | exact id

omit [UnicodeData] in
/-- The rows of the requests after a step: those that were there, one of them moved, or a new one
that awaits its pre-flight. -/
def RequestsMove (db db' : ImportDb) : Prop :=
  (∀ r' ∈ db'.requests, r' ∈ db.requests ∨
    (db.requests.get? r'.id = none ∧ r'.status = .preflightRequired) ∨
    ∃ r ∈ db.requests, r.id = r'.id ∧ Moves r.status r'.status) ∧
  ∀ r ∈ db.requests, ∃ r' ∈ db'.requests, r'.id = r.id

omit [UnicodeData] in
/-- A row that takes the place of a stored one. -/
theorem requestsMove_save {db db' : ImportDb} {r moved : MediaImportRequest}
    (hr : r ∈ db.requests) (hrequests : db'.requests = db.requests.save moved)
    (hid : moved.id = r.id) (hmoves : Moves r.status moved.status) : RequestsMove db db' := by
  rw [RequestsMove, hrequests]
  constructor
  · intro r' hr'
    rcases Table.mem_save.mp hr' with rfl | ⟨hold, -⟩
    · exact Or.inr (Or.inr ⟨r, hr, hid.symm, hmoves⟩)
    · exact Or.inl hold
  · intro x hx
    by_cases hsame : x.id = moved.id
    · exact ⟨moved, Table.mem_save_self _ _, hsame.symm⟩
    · exact ⟨x, Table.mem_save_of_ne hx hsame, rfl⟩

/-- Only the transitions of the life cycle occur. -/
theorem Step.requestsMove {db db' : ImportDb} {op : Operation} (h : Step db op db') :
    RequestsMove db db' := by
  cases h with
  | created checked fresh inactive unplanned freshPlan =>
      constructor
      · intro r' hr'
        rcases Table.mem_save.mp hr' with rfl | ⟨hold, -⟩
        · exact Or.inr (Or.inl ⟨fresh, rfl⟩)
        · exact Or.inl hold
      · intro r hr
        exact ⟨r, Table.mem_save_of_ne hr (Table.get?_eq_none.mp fresh r hr), rfl⟩
  | preflighted found checked fresh =>
      have hr := Table.mem_of_get?_eq_some found
      refine requestsMove_save hr rfl rfl ?_
      obtain ⟨hstatus, -⟩ := checkInspection_eq_ok checked
      rw [preflightedRow]
      dsimp only
      rcases hstatus with hstatus | hstatus <;> rw [hstatus] <;> split <;> trivial
  | approved found checked =>
      have hr := Table.mem_of_get?_eq_some found
      refine requestsMove_save hr rfl rfl ?_
      rw [checkApproval] at checked
      obtain ⟨⟨⟩, hstatus, -⟩ := bind_eq_ok.mp checked
      rw [ensure_eq_ok.mp hstatus]
      trivial
  | rejected found status =>
      have hr := Table.mem_of_get?_eq_some found
      refine requestsMove_save hr rfl rfl ?_
      rcases status with hstatus | hstatus <;> rw [hstatus] <;> trivial
  | revoked found status =>
      have hr := Table.mem_of_get?_eq_some found
      refine requestsMove_save hr rfl rfl ?_
      rw [status]
      trivial
  | elsewhere => exact ⟨fun r' hr' => Or.inl hr', fun r hr => ⟨r, hr, rfl⟩⟩

/-- A request that is rejected or revoked is the same row after a step. -/
theorem Step.terminal_mem {db db' : ImportDb} {op : Operation} (h : Step db op db')
    {r : MediaImportRequest} (hr : r ∈ db.requests) (hterminal : isTerminal r.status = true) :
    r ∈ db'.requests := by
  obtain ⟨hrows, hkept⟩ := h.requestsMove
  obtain ⟨r', hr', hid⟩ := hkept r hr
  rcases hrows r' hr' with hold | ⟨hnew, -⟩ | ⟨x, hx, hxid, hmoves⟩
  · rwa [← Table.eq_of_key_eq hold hr hid]
  · exact absurd hid.symm (Table.get?_eq_none.mp hnew r hr)
  · obtain rfl := Table.eq_of_key_eq hx hr (hxid.trans hid)
    exact absurd hmoves (not_moves_of_isTerminal hterminal)

/-- A request that is rejected or revoked is the same row after any more operations. -/
theorem Invariant.terminal_run {db : ImportDb} (h : Invariant db) {r : MediaImportRequest}
    (hr : r ∈ db.requests) (hterminal : isTerminal r.status = true) (ops : List Operation) :
    r ∈ (MediaImports.run db ops).requests :=
  run_induction h hr
    (fun _ _ _ _ hmem hstep => hstep.terminal_mem hmem hterminal) ops

/-- **The life cycle of the requests**, at a database of a run and the next operation on it. -/
structure Lifecycle (db : ImportDb) (op : Operation) : Prop where
  shape : ∀ r ∈ db.requests, r.DecisionShape
  oneActive : ∀ r ∈ db.requests, ∀ r' ∈ db.requests, isActiveImportStatus r.status = true →
    isActiveImportStatus r'.status = true → r.downloadJobId = r'.downloadJobId → r = r'
  moves : RequestsMove db (op.perform db).2
  failure : ∀ e, (op.perform db).1 = .error e → (op.perform db).2 = db
  terminal : ∀ r ∈ db.requests, isTerminal r.status = true →
    ∀ more, r ∈ (run db more).requests

/-- **The life cycle of the requests, in every run**: the columns of a decision fit the status, a
download has at most one active request, only the transitions of the life cycle occur, an operation
that fails leaves the whole database as it was, and a row in a terminal status never changes. -/
theorem importLifecycle_run (tables : Tables) (media : Table Models.MediaItem)
    (ops : List Operation) (op : Operation) :
    Lifecycle (run (noImports tables media) ops) op := by
  have h := invariant_run tables media ops
  exact
    { shape := h.shape
      oneActive := h.active
      moves := by
        rcases h.perform op with ⟨e, -, hsame⟩ | ⟨-, hstep⟩
        · rw [hsame]
          exact ⟨fun r' hr' => Or.inl hr', fun r hr => ⟨r, hr, rfl⟩⟩
        · exact hstep.requestsMove
      failure := by
        intro e herror
        rcases h.perform op with ⟨e', -, hsame⟩ | ⟨hok, -⟩
        · exact hsame
        · rw [hok] at herror
          cases herror
      terminal := fun r hr hterminal more => h.terminal_run hr hterminal more }

end LibSeek.MediaImports
