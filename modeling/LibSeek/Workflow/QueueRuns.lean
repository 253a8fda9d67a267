/-
The queue over every run.

The jobs are the entries of a ledger, and the claims that were ever made are its tickets: the number
of the attempts goes up with every claim and is never taken back.  A worker that comes back with a
claim that is not the last one is told apart by its token, and what it would write is not written.

A worker whose job fails compares its token with what it has read of the job before it locks the row.
Where others have written the row in between, none of this holds; the runs of this module are those
in which a job that fails is as it was read.

Main definitions:

* `Workflow.ledgerOf` — **a world as a ledger**;
* `Workflow.LeasesAsRead` — the runs in which a job that fails is as it was read;
* `Workflow.QueueSound` — what holds of the queue of every world that is reached;
* `Workflow.poll` — a worker that claims again and again.

Main results:

* `Workflow.Operation.perform_steps` — every operation is a sequence of steps of the ledger;
* `Workflow.attempts_count_claims` — **a job is claimed as often as its attempts say**, and no more
  often than it may be;
* `Workflow.writes_by_last_claim` — **what a worker writes, it writes by the last claim** of its job;
* `Workflow.claimable_iff`, `Workflow.stranded_iff` — which jobs can be claimed, now or ever;
* `Workflow.poll_drains` — **whatever is due is claimed**, the oldest first;
* `Workflow.finished_stays` — what a finished job is and has brought stays as it is.
-/

import LibSeek.Lib.Leases
import LibSeek.Workflow.PolicyGate
import LibSeek.Workflow.Queue

set_option relaxedAutoImplicit false
set_option autoImplicit false

namespace LibSeek.Workflow

open LibSeek.Core LibSeek.Lib LibSeek.Models LibSeek.Schemas LibSeek.Services LibSeek.Workers

/-! ### The ledger of a queue -/

/-- The entry of a job. -/
def entryOf (job : Job) : Entry String :=
  { number := job.attempts, holder := job.leaseToken }

/-- The ticket of a claim. -/
def ticketOf (claim : Job) : Ticket String String :=
  { key := claim.id, number := claim.attempts, token := claim.leaseToken.getD "" }

/-- **A queue as a ledger**, with the claims that were made. -/
def ledgerOf (queue : Table Job) (claims : List Job) : Ledger String String :=
  { entries := fun id => (queue.get? id).map entryOf, tickets := claims.map ticketOf }

section Ledgers

variable {queue : Table Job} (claims : List Job)

theorem ledgerOf_row {row : Job} (hrow : row ∈ queue) :
    (ledgerOf queue claims).entries row.id = some (entryOf row) :=
  congrArg (Option.map entryOf) (Table.get?_key hrow)

/-- A row that is written is an entry that is written. -/
theorem ledgerOf_save (row : Job) :
    ledgerOf (queue.save row) claims = (ledgerOf queue claims).put row.id (entryOf row) := by
  have hentries : (ledgerOf (queue.save row) claims).entries =
      Function.update (ledgerOf queue claims).entries row.id (some (entryOf row)) := by
    funext id
    change ((queue.save row).get? id).map entryOf = _
    rw [Table.get?_save]
    by_cases hid : id = row.id
    · rw [hid, Function.update_self]
      exact congrArg (Option.map entryOf) (if_pos rfl)
    · rw [Function.update_of_ne hid]
      exact congrArg (Option.map entryOf) (if_neg hid)
  unfold Ledger.put
  rw [← hentries]
  rfl

/-- A row with the entry that it had is no change of the ledger. -/
theorem ledgerOf_save_same {row row' : Job} (hrow : row ∈ queue) (hid : row'.id = row.id)
    (hentry : entryOf row' = entryOf row) :
    ledgerOf (queue.save row') claims = ledgerOf queue claims := by
  rw [ledgerOf_save, hid, hentry]
  unfold Ledger.put
  rw [← ledgerOf_row claims hrow, Function.update_eq_self]

/-- No change is no step. -/
theorem moves_of_eq {l l' : Ledger String String} (h : l' = l) : Moves Ledger.Step l l' :=
  h ▸ Relation.ReflTransGen.refl

/-- A row without a lease is a release of the entry. -/
theorem ledgerOf_release {row row' : Job} (hrow : row ∈ queue) (hid : row'.id = row.id)
    (hattempts : row'.attempts = row.attempts) (htoken : row'.leaseToken = none) :
    Ledger.Step (ledgerOf queue claims) (ledgerOf (queue.save row') claims) := by
  have hentry : entryOf row' = { entryOf row with holder := none } := by
    unfold entryOf
    rw [hattempts, htoken]
  rw [ledgerOf_save, hid, hentry]
  exact .release (ledgerOf_row claims hrow)

/-- A row that is claimed is an entry that is claimed. -/
theorem ledgerOf_claimed {row : Job} (hrow : row ∈ queue) (p : JobProcessor) (leaseToken : Uuid)
    (now : DateTime) :
    Ledger.Step (ledgerOf queue claims) (ledgerOf (queue.save (claimedJob p leaseToken now row))
      (claimedJob p leaseToken now row :: claims)) := by
  have hput : ledgerOf (queue.save (claimedJob p leaseToken now row)) claims =
      (ledgerOf queue claims).put row.id (entryOf (claimedJob p leaseToken now row)) :=
    ledgerOf_save claims _
  have hledger : ledgerOf (queue.save (claimedJob p leaseToken now row))
      (claimedJob p leaseToken now row :: claims) =
        { (ledgerOf queue claims).put row.id (entryOf (claimedJob p leaseToken now row)) with
          tickets := ticketOf (claimedJob p leaseToken now row) :: claims.map ticketOf } := by
    rw [← hput]
    rfl
  rw [hledger]
  exact .claim leaseToken.text (ledgerOf_row claims hrow)

variable [WorkflowRuntime]

/-- **What is done to a job, claims apart, is done to its entry.** -/
theorem WorkStep.ledger {w w' : Work} (h : WorkStep w w') (claims : List Job) :
    Moves Ledger.Step (ledgerOf w.queue claims) (ledgerOf w'.queue claims) := by
  cases h with
  | @queued job hnew hjob =>
      have hentry : entryOf job = {} := by
        unfold entryOf
        rw [hjob.attempts, hjob.lease.2.2]
      rw [ledgerOf_save, hentry]
      exact .single (.enter (congrArg (Option.map entryOf) hnew))
  | renewed hrow hrunning => exact moves_of_eq (ledgerOf_save_same claims hrow rfl rfl)
  | noted hrow hactive => exact moves_of_eq (ledgerOf_save_same claims hrow rfl rfl)
  | succeeded hrow hrunning => exact .single (ledgerOf_release claims hrow rfl rfl rfl)
  | failed hrow hrunning => exact .single (ledgerOf_release claims hrow rfl rfl rfl)
  | cancelled hrow hactive => exact .single (ledgerOf_release claims hrow rfl rfl rfl)
  | resolved hrow hrunning hranking hfound => exact .single (ledgerOf_release claims hrow rfl rfl rfl)

end Ledgers

variable [WorkflowRuntime]

/-! ### Every world -/

/-- What holds of the queue of every world that is reached. -/
structure QueueSound (w : World) : Prop where
  jobs : ∀ job ∈ w.db.queue, JobSound job
  brought : Brought (workOf w.db)
  ledger : (ledgerOf w.db.queue w.claims).Sound
  tokens : ∀ claim ∈ w.claims, claim.leaseToken.isSome = true

section Perform

variable {w : World}

/-- **What an operation does to a world**: it claims a job, or it is a sequence of steps of the jobs
under the claims that there are. -/
theorem Operation.perform_cases (op : Operation) (hread : op.leaseAsRead w) (h : Sound w)
    (hmax : ∀ job ∈ w.db.queue, 1 ≤ job.maxAttempts) :
    ((op.perform w).claims = w.claims ∧ Moves OnWork w.db (op.perform w).db) ∨
    ∃ p leaseToken now locked row, Due p now locked w.db.queue row ∧
      (op.perform w).claims = claimedJob p leaseToken now row :: w.claims ∧
      workOf (op.perform w).db =
        { workOf w.db with queue := w.db.queue.save (claimedJob p leaseToken now row) } := by
  cases hkind : op.isClaim with
  | true =>
      cases op with
      | claimJob p leaseToken now locked =>
          rcases perform_claimJob w p leaseToken now locked with ⟨hclaims, hdb, -⟩ | ⟨row, hdue⟩
          · rw [hdb]
            exact Or.inl ⟨hclaims, Relation.ReflTransGen.refl⟩
          · exact Or.inr ⟨p, leaseToken, now, locked, row, hdue⟩
      | _ => cases hkind
  | false =>
      refine Or.inl ?_
      unfold Operation.perform
      split
      · rename_i hclaim
        have hworks := op.body_works hkind hread h hmax fun claim hop => by
          rw [hop, Option.all_some, decide_eq_true_iff] at hclaim
          exact hclaim
        rcases Tx.commit_wp_eq hworks with ⟨_, db', heq, hmoves, rfl⟩ | ⟨e, staged, heq, -⟩
        · rw [heq]
          exact ⟨rfl, hmoves⟩
        · rw [heq]
          exact ⟨rfl, Relation.ReflTransGen.refl⟩
      · exact ⟨rfl, Relation.ReflTransGen.refl⟩

/-- What every step of the jobs keeps is kept by a sequence of changes of the database. -/
theorem onWork_invariant {P : Work → Prop} {db db' : WorkflowDb} (h : Moves OnWork db db')
    (hdb : P (workOf db)) (hstep : ∀ w w', P w → WorkStep w w' → P w') : P (workOf db') := by
  refine h.invariant (P := fun db => P (workOf db)) hdb fun db db' hp hmove => ?_
  rcases hmove with hsame | hwork
  · exact hsame ▸ hp
  · exact hstep _ _ hp hwork

/-- **Every operation is a sequence of steps of the ledger.** -/
theorem Operation.perform_steps (op : Operation) (hread : op.leaseAsRead w) (h : Sound w)
    (hmax : ∀ job ∈ w.db.queue, 1 ≤ job.maxAttempts) :
    Moves Ledger.Step (ledgerOf w.db.queue w.claims)
      (ledgerOf (op.perform w).db.queue (op.perform w).claims) := by
  rcases op.perform_cases hread h hmax with ⟨hclaims, hmoves⟩ |
    ⟨p, leaseToken, now, locked, row, hdue, hclaims, hwork⟩
  · rw [hclaims]
    exact onWork_invariant (P := fun work => Moves Ledger.Step (ledgerOf w.db.queue w.claims)
      (ledgerOf work.queue w.claims)) hmoves Relation.ReflTransGen.refl
      fun _ _ hreached hstep => hreached.trans (hstep.ledger w.claims)
  · have hqueue : (op.perform w).db.queue = w.db.queue.save (claimedJob p leaseToken now row) :=
      congrArg Work.queue hwork
    rw [hclaims, hqueue]
    exact .single (ledgerOf_claimed w.claims hdue.mem p leaseToken now)

/-- Every operation keeps the queue sound. -/
theorem Operation.perform_queueSound (op : Operation) (hread : op.leaseAsRead w) (h : Sound w)
    (hq : QueueSound w) : QueueSound (op.perform w) := by
  have hmax := fun job hjob => (hq.jobs job hjob).maxAttempts
  have hledger := (op.perform_steps hread h hmax).invariant hq.ledger fun _ _ hs hstep => hstep.sound hs
  rcases op.perform_cases hread h hmax with ⟨hclaims, hmoves⟩ |
    ⟨p, leaseToken, now, locked, row, hdue, hclaims, hwork⟩
  · have hwork := onWork_invariant (P := fun work =>
      (∀ job ∈ work.queue, JobSound job) ∧ Brought work) hmoves ⟨hq.jobs, hq.brought⟩
      fun _ _ hs hstep => ⟨hstep.jobs hs.1, hstep.brought hs.2⟩
    exact ⟨hwork.1, hwork.2, hledger, hclaims ▸ hq.tokens⟩
  · have hclaimable := hdue.claimable
    unfold claimable at hclaimable
    rw [Bool.and_eq_true, Bool.and_eq_true, decide_eq_true_iff] at hclaimable
    have hqueue : (op.perform w).db.queue = w.db.queue.save (claimedJob p leaseToken now row) :=
      congrArg Work.queue hwork
    refine ⟨?_, ?_, hledger, ?_⟩
    · rw [hqueue]
      exact Table.forall_mem_save hq.jobs ((hq.jobs row hdue.mem).claimed p leaseToken now
        hclaimable.1.2)
    · rw [hwork]
      refine ⟨fun one hone => ?_, hq.brought.ranking⟩
      obtain ⟨other, hother, hid, hsucceeded⟩ := hq.brought.succeeded one hone
      refine ⟨other, ?_, hid, hsucceeded⟩
      exact mem_save_of_finished hdue.mem rfl (isActiveJob_of_claimable hdue.claimable) hother
        (by rw [hsucceeded]; rfl)
    · rw [hclaims]
      exact List.forall_mem_cons.mpr ⟨rfl, hq.tokens⟩

end Perform

/-- **In every step of a run, a job that fails is as it was read**, where the lease that was read is
the worker's. -/
def LeasesAsRead (ops : List Operation) : Prop :=
  EveryStep (fun w op => op.leaseAsRead w) {} ops

instance (ops : List Operation) : Decidable (LeasesAsRead ops) := by
  delta LeasesAsRead
  infer_instance

/-- The queue is sound in every world that such a run reaches. -/
theorem World.run_queueSound (ops : List Operation) (hread : LeasesAsRead ops) :
    Sound (World.run ops) ∧ QueueSound (World.run ops) := by
  refine EveryStep.invariant (P := fun w => Sound w ∧ QueueSound w) hread ⟨sound_empty, ?_⟩
    fun w op hop h => ⟨op.perform_sound h.1, op.perform_queueSound hop h.1 h.2⟩
  refine ⟨fun _ h => absurd h (Table.notMem_empty _), ?_, ?_, fun _ h => absurd h List.not_mem_nil⟩
  · exact ⟨fun _ h => absurd h (Table.notMem_empty _), fun _ => Or.inl rfl⟩
  · exact Ledger.sound_empty

/-! ### Attempts -/

/-- **A job is claimed as often as its attempts say**, in every world that such a run reaches, and
never more often than it may be; its row is sound. -/
theorem attempts_count_claims (ops : List Operation) (hread : LeasesAsRead ops) :
    ∀ job ∈ (World.run ops).db.queue, JobSound job ∧
      ((World.run ops).claims.filter fun claim => claim.id = job.id).length = job.attempts ∧
      ((World.run ops).claims.filter fun claim => claim.id = job.id).length ≤ job.maxAttempts := by
  intro job hjob
  obtain ⟨-, hq⟩ := World.run_queueSound ops hread
  have hsound := hq.jobs job hjob
  have hlength := hq.ledger.length_tickets (ledgerOf_row _ hjob)
  have hcount : ((World.run ops).claims.filter fun claim => claim.id = job.id).length =
      job.attempts := by
    change (((World.run ops).claims.map ticketOf).filter _).length = _ at hlength
    rw [List.filter_map, List.length_map] at hlength
    exact hlength
  exact ⟨hsound, hcount, hcount ▸ hsound.attempts⟩

omit [WorkflowRuntime] in
/-- The resolution of the film has been claimed once, of three times. -/
theorem attempts_count_claims_sample :
    sampleResolution ∈ (@World.run asciiWorkflow sampleRun).db.queue ∧
    ((@World.run asciiWorkflow sampleRun).claims.filter
      fun claim => claim.id = sampleResolution.id).length = 1 := by
  have hmem : sampleResolution ∈ (@World.run asciiWorkflow sampleRun).db.queue :=
    Table.mem_rows.mp (by decide +kernel)
  exact ⟨hmem, (@attempts_count_claims asciiWorkflow sampleRun (by decide +kernel) sampleResolution
    hmem).2.1⟩

/-! ### Fences -/

section Fences

variable {w : World}

/-- A worker that no longer holds its lease writes nothing. -/
theorem Operation.perform_unowned (op : Operation) (hread : op.leaseAsRead w) {claim : Job}
    (hop : op.claim? = some claim)
    (hunowned : ∀ p : JobProcessor, ownedJob p w.db claim.id claim.leaseToken = none) :
    (op.perform w).db = w.db := by
  suffices hbody : Tx.wp (op.body w) (fun _ db' => db' = w.db) (fun _ _ => True) w.db by
    unfold Operation.perform
    split
    · rcases Tx.commit_wp hbody with ⟨_, -, hsame⟩ | ⟨_, _, -, hsame, -⟩ <;> exact hsame
    · rfl
  have halone : ∀ {body : WorkflowTx Unit}, Tx.wp body (fun _ db' => db' = w.db) (fun _ _ => True)
      w.db → Tx.wp (alone body) (fun _ db' => db' = w.db) (fun _ _ => True) w.db :=
    fun h => (Tx.wp_bind _ _).mpr (Tx.wp_mono h (fun _ _ hsame => (Tx.wp_pure _).mpr hsame)
      fun _ _ => id)
  have hsubject : ∀ {β : Type} (subject : Option β) {body : β → WorkflowTx Unit},
      (∀ s, Tx.wp (body s) (fun _ db' => db' = w.db) (fun _ _ => True) w.db) →
      Tx.wp (onSubject subject body) (fun _ db' => db' = w.db) (fun _ _ => True) w.db := by
    intro β subject body h
    cases subject with
    | none => exact (Tx.wp_pure _).mpr rfl
    | some s => exact halone (h s)
  cases op with
  | renewLease p claim' now =>
      obtain rfl := Option.some.inj hop
      refine halone ((Tx.wp_bind _ _).mpr ?_)
      unfold renewJobLease
      rw [Tx.wp_bind, Tx.wp_get, hunowned]
      rfl
  | prepareResolution p claim' =>
      obtain rfl := Option.some.inj hop
      refine hsubject _ fun mediaId => (Tx.wp_bind _ _).mpr ?_
      unfold prepareMetadataResolution lockMedia
      simp only [Tx.wp_bind, Tx.wp_get, Tx.wp_ofOption, hunowned, Tx.wp_pure, implies_true,
        and_true]
  | completeResolution p claim' candidates settings matchId env =>
      obtain rfl := Option.some.inj hop
      refine hsubject _ fun mediaId => ?_
      unfold completeMetadataResolution
      rw [Tx.wp_bind, Tx.wp_get, hunowned]
      split
      · rename_i heq
        cases heq
      · rfl
  | completeSearch p claim' candidates strategyLog settings now =>
      obtain rfl := Option.some.inj hop
      refine hsubject _ fun subject => ?_
      unfold completeTorrentSearch
      rw [Tx.wp_bind, Tx.wp_get, hunowned]
      rfl
  | completeDiscovery p claim' items mediaIds jobIds now =>
      obtain rfl := Option.some.inj hop
      refine hsubject _ fun runId => ?_
      unfold Workers.completeDiscovery
      rw [Tx.wp_bind, Tx.wp_get, hunowned]
      rfl
  | checkpointCountries p claim' values =>
      obtain rfl := Option.some.inj hop
      refine hsubject _ fun runId => ?_
      unfold checkpointCountryCodes
      simp only [Tx.wp_bind, Tx.wp_get, Tx.wp_require, hunowned, Option.isSome_none,
        Bool.false_eq_true, or_false, implies_true, and_true]
      rintro rfl
      rfl
  | fail p claim' ago error now =>
      obtain rfl := Option.some.inj hop
      cases hheld : (w.before ago).queue.get? claim'.id with
      | none =>
          change Tx.wp (onSubject ((w.before ago).queue.get? claim'.id) _) _ _ _
          rw [hheld]
          exact (Tx.wp_pure _).mpr rfl
      | some held =>
          change Tx.wp (onSubject ((w.before ago).queue.get? claim'.id) _) _ _ _
          rw [hheld]
          refine halone ?_
          unfold failJob
          rw [Tx.wp_bind, Tx.wp_get]
          split
          · rfl
          rename_i row hrow
          refine (Tx.wp_ite _ _ _).mpr ⟨fun howns => ?_, fun _ => (Tx.wp_pure _).mpr rfl⟩
          -- the row is under the lease as well, which nobody holds
          have hsame := (hread held hheld howns row hrow).1
          have hrowOwns : p.ownsLease row claim'.leaseToken = true := by
            rw [hsame]
            exact howns
          have howned : ownedJob p w.db claim'.id claim'.leaseToken = some row :=
            Option.filter_eq_some_iff.mpr ⟨hrow, hrowOwns⟩
          rw [hunowned p] at howned
          cases howned
  | _ => cases hop

omit [WorkflowRuntime] in
/-- The row of a lease that is still held has its token. -/
theorem leaseToken_of_ownedJob {p : JobProcessor} {db : WorkflowDb} {jobId : String}
    {leaseToken : Option String} {row : Job} (h : ownedJob p db jobId leaseToken = some row) :
    row.leaseToken = leaseToken := by
  have howns := (Option.filter_eq_some_iff.mp h).2
  unfold JobProcessor.ownsLease at howns
  exact eq_of_beq (Bool.and_eq_true _ _ ▸ howns).2

/-- Where no token is drawn twice, no two tickets have one token: every claim has one. -/
theorem QueueSound.tokens_nodup (hq : QueueSound w)
    (hdrawn : (w.claims.map Job.leaseToken).Nodup) :
    (w.claims.map (Ticket.token ∘ ticketOf)).Nodup := by
  refine List.Nodup.map_on (fun a ha b hb hab => ?_) (List.Nodup.of_map _ hdrawn)
  refine List.inj_on_of_nodup_map hdrawn ha hb ?_
  obtain ⟨ta, hta⟩ := Option.isSome_iff_exists.mp (hq.tokens a ha)
  obtain ⟨tb, htb⟩ := Option.isSome_iff_exists.mp (hq.tokens b hb)
  simp only [Function.comp_apply, ticketOf, hta, htb, Option.getD_some] at hab
  rw [hta, htb, hab]

/-- **What a worker writes, it writes by the last claim of its job**, where no token is drawn twice
and a job that fails is as it was read: the job is running, under the token and with the attempts of
the claim, and every other claim of the job is an earlier one. -/
theorem writes_by_last_claim (ops : List Operation) (hread : LeasesAsRead ops)
    (hdrawn : ((World.run ops).claims.map Job.leaseToken).Nodup) (op : Operation)
    (hopRead : op.leaseAsRead (World.run ops)) (claim : Job) (hop : op.claim? = some claim)
    (hwrites : (op.perform (World.run ops)).db ≠ (World.run ops).db) :
    claim ∈ (World.run ops).claims ∧
    (∃ row ∈ (World.run ops).db.queue, row.id = claim.id ∧ row.status = .running ∧
      row.leaseToken = claim.leaseToken ∧ row.attempts = claim.attempts) ∧
    ∀ other ∈ (World.run ops).claims, other.id = claim.id →
      other = claim ∨ other.attempts < claim.attempts := by
  obtain ⟨-, hq⟩ := World.run_queueSound ops hread
  have hclaim : claim ∈ (World.run ops).claims := by
    by_contra hnot
    refine hwrites ?_
    unfold Operation.perform
    rw [hop, Option.all_some, if_neg (by simpa using hnot)]
  obtain ⟨p, howned⟩ : ∃ p : JobProcessor,
      ownedJob p (World.run ops).db claim.id claim.leaseToken ≠ none := by
    by_contra hnone
    exact hwrites (op.perform_unowned hopRead hop fun p => not_not.mp fun h => hnone ⟨p, h⟩)
  obtain ⟨row, hrow⟩ := Option.ne_none_iff_exists'.mp howned
  obtain ⟨hmem, hid, hrunning⟩ := ownedJob_row hrow
  have htoken := leaseToken_of_ownedJob hrow
  obtain ⟨token, htokenSome⟩ := Option.isSome_iff_exists.mp (hq.tokens claim hclaim)
  have htokens := hq.tokens_nodup hdrawn
  have hentry : (ledgerOf (World.run ops).db.queue (World.run ops).claims).entries
      (ticketOf claim).key = some (entryOf row) := by
    have hfound := ledgerOf_row (World.run ops).claims hmem
    rw [hid] at hfound
    exact hfound
  have hholder : (entryOf row).holder = some (ticketOf claim).token := by
    change row.leaseToken = some (claim.leaseToken.getD "")
    rw [htoken, htokenSome]
    rfl
  -- in the ledger of the leases the holder of an entry has its last ticket
  obtain ⟨hnumber, hlast⟩ := hq.ledger.last (by rwa [ledgerOf, List.map_map])
    (List.mem_map_of_mem hclaim) hentry hholder
  refine ⟨hclaim, ⟨row, hmem, hid, hrunning, htoken, hnumber.symm⟩, fun other hother hkey => ?_⟩
  rcases hlast (ticketOf other) (List.mem_map_of_mem hother) hkey with hsame | hlt
  · exact Or.inl (List.inj_on_of_nodup_map htokens hother hclaim (congrArg Ticket.token hsame))
  · exact Or.inr hlt

omit [WorkflowRuntime] in
/-- The completion of the resolution of the film is made by its last claim. -/
theorem writes_by_last_claim_sample :
    sampleResolution ∈ (@World.run asciiWorkflow sampleRun).claims ∧
    ∀ other ∈ (@World.run asciiWorkflow sampleRun).claims, other.id = sampleResolution.id →
      other = sampleResolution ∨ other.attempts < sampleResolution.attempts := by
  have hdrawn : ((@World.run asciiWorkflow sampleRun).claims.map Job.leaseToken).Nodup := by
    decide +kernel
  have hwrites : (@Operation.perform asciiWorkflow sampleCompletion
      (@World.run asciiWorkflow sampleRun)).db ≠ (@World.run asciiWorkflow sampleRun).db := by
    intro hsame
    have hreviews := congrArg (fun db : WorkflowDb => db.reviews.rows.length) hsame
    revert hreviews
    decide +kernel
  have h := @writes_by_last_claim asciiWorkflow sampleRun (by decide +kernel) hdrawn
    sampleCompletion trivial sampleResolution rfl hwrites
  exact ⟨h.1, h.2.2⟩

end Fences

/-! ### What can be claimed -/

omit [WorkflowRuntime] in
/-- A lease ends. -/
theorem lt_add_lease (t lease : Int) : t < t + lease + 1 - lease := by
  omega

/-- Which jobs can be claimed, in every world that such a run reaches: those that wait for their first
attempt, those whose time has come, and those whose lease has expired while there is an attempt
left. -/
theorem claimable_iff (ops : List Operation) (hread : LeasesAsRead ops) {job : Job}
    (hjob : job ∈ (World.run ops).db.queue) (p : JobProcessor) (now : DateTime) :
    claimable p now job = true ↔ job.jobType.isAutomationPreflight = false ∧
      (job.status = .pending ∨ (∃ t, job.nextRetryAt = some t ∧ t ≤ now) ∨
        (job.attempts < job.maxAttempts ∧
          ∃ t, job.lockedAt = some t ∧ t < now - seconds p.leaseSeconds)) := by
  have hs := (World.run_queueSound ops hread).2.jobs job hjob
  have hnext := hs.nextRetryAt
  have hlocked := hs.lockedAt
  have hmax := hs.maxAttempts
  unfold claimable
  cases hstatus : job.status with
  | pending =>
      have hzero := hs.pending hstatus
      simp [hzero, Nat.lt_of_lt_of_le Nat.zero_lt_one hmax]
  | retryWait =>
      have hleft := (hs.retryWait hstatus).2
      have hunlocked : job.lockedAt = none := by simpa [hstatus] using hlocked
      obtain ⟨t, ht⟩ := Option.isSome_iff_exists.mp (hnext.mpr hstatus)
      simp [ht, hunlocked, hleft, and_comm]
  | running =>
      have hnone : job.nextRetryAt = none := by simpa [hstatus] using hnext
      obtain ⟨t, ht⟩ := Option.isSome_iff_exists.mp (hlocked.mpr hstatus)
      simp [ht, hnone, and_comm]
  | _ =>
      have hnone : job.nextRetryAt = none := by simpa [hstatus] using hnext
      have hunlocked : job.lockedAt = none := by simpa [hstatus] using hlocked
      simp [hnone, hunlocked]

/-- **Which jobs no worker can ever claim**: those that are finished, and those whose last attempt is
running, whether or not its worker is still there. -/
theorem stranded_iff (ops : List Operation) (hread : LeasesAsRead ops) {job : Job}
    (hjob : job ∈ (World.run ops).db.queue) (hkind : job.jobType.isAutomationPreflight = false) :
    (∀ (p : JobProcessor) (now : DateTime), claimable p now job = false) ↔
      isActiveJob job.status = false ∨
        job.status = .running ∧ job.attempts = job.maxAttempts := by
  have hs := (World.run_queueSound ops hread).2.jobs job hjob
  constructor
  · intro hnever
    -- for every other status there is a moment at which the job is due
    cases hstatus : job.status with
    | pending =>
        have hdue := (claimable_iff ops hread hjob { workerId := "" } 0).mpr ⟨hkind, Or.inl hstatus⟩
        rw [hnever] at hdue
        cases hdue
    | retryWait =>
        obtain ⟨t, ht⟩ := Option.isSome_iff_exists.mp (hs.nextRetryAt.mpr hstatus)
        have hdue := (claimable_iff ops hread hjob { workerId := "" } t).mpr
          ⟨hkind, Or.inr (Or.inl ⟨t, ht, le_refl t⟩)⟩
        rw [hnever] at hdue
        cases hdue
    | running =>
        refine Or.inr ⟨rfl, Nat.le_antisymm hs.attempts (Nat.le_of_not_lt fun hleft => ?_)⟩
        obtain ⟨t, ht⟩ := Option.isSome_iff_exists.mp (hs.lockedAt.mpr hstatus)
        have hdue := (claimable_iff ops hread hjob { workerId := "" }
          (t + seconds 300 + 1)).mpr ⟨hkind, Or.inr (Or.inr ⟨hleft, t, ht, ?_⟩)⟩
        · rw [hnever] at hdue
          cases hdue
        · exact lt_add_lease t (seconds 300)
    | _ => exact Or.inl rfl
  · intro hstranded p now
    rw [← Bool.not_eq_true, claimable_iff ops hread hjob p now]
    rintro ⟨-, hpending | ⟨t, ht, -⟩ | ⟨hleft, t, ht, -⟩⟩
    · rw [hpending] at hstranded
      rcases hstranded with h | ⟨h, -⟩ <;> cases h
    · have hretry := hs.nextRetryAt.mp (Option.isSome_iff_exists.mpr ⟨t, ht⟩)
      rw [hretry] at hstranded
      rcases hstranded with h | ⟨h, -⟩ <;> cases h
    · have hrunning := hs.lockedAt.mp (Option.isSome_iff_exists.mpr ⟨t, ht⟩)
      rw [hrunning] at hstranded
      rcases hstranded with h | ⟨-, h⟩
      · cases h
      · omega

omit [WorkflowRuntime] in
/-- The resolution of the film can be claimed again, once its lease has expired. -/
theorem stranded_iff_sample :
    ¬ ∀ (p : JobProcessor) (now : DateTime), claimable p now sampleResolution = false := by
  rw [@stranded_iff asciiWorkflow sampleRun (by decide +kernel) sampleResolution
    (Table.mem_rows.mp (by decide +kernel)) rfl]
  decide +kernel

/-! ### A worker that claims again and again -/

/-- A worker that claims again and again. -/
def poll (p : JobProcessor) (now : DateTime) (leaseTokens : List Uuid) (w : World) : World :=
  leaseTokens.foldl (fun w leaseToken =>
    (Operation.claimJob p leaseToken now fun _ => false).perform w) w

omit [WorkflowRuntime] in
/-- The jobs that are due. -/
def dueJobs (p : JobProcessor) (now : DateTime) (w : World) : List Job :=
  w.db.queue.rows.filter (claimable p now)

/-- What a claim is told apart by in the order of the queue. -/
def place (job : Job) : String × DateTime :=
  (job.id, job.createdAt)

section Polling

variable {p : JobProcessor} {now : DateTime}

omit [WorkflowRuntime] in
/-- A job that has just been claimed is not due. -/
theorem claimable_claimedJob (leaseToken : Uuid) (row : Job) :
    claimable p now (claimedJob p leaseToken now row) = false := by
  have hpos := p.leaseSeconds_pos
  have hlive : ¬ now < now - seconds p.leaseSeconds :=
    not_lt.mpr (Int.sub_le_self now (Int.mul_nonneg hpos.le (by decide)))
  simp [claimable, claimedJob, hlive]

omit [WorkflowRuntime] in
/-- A claim takes one of the jobs that are due, and leaves the others. -/
theorem dueJobs_claimed {w w' : World} {row : Job} {leaseToken : Uuid} (hrow : row ∈ w.db.queue)
    (hclaimable : claimable p now row = true)
    (hqueue : w'.db.queue = w.db.queue.save (claimedJob p leaseToken now row)) :
    (row :: dueJobs p now w').Perm (dueJobs p now w) := by
  have hnodup : ∀ w : World, (dueJobs p now w).Nodup := fun w =>
    List.Nodup.filter _ (List.Nodup.of_map _ w.db.queue.nodup)
  have hmem : ∀ job, job ∈ dueJobs p now w' ↔
      job ∈ w.db.queue ∧ job.id ≠ row.id ∧ claimable p now job = true := by
    intro job
    unfold dueJobs
    rw [List.mem_filter, hqueue, Table.mem_rows, Table.mem_save]
    constructor
    · rintro ⟨rfl | ⟨hjob, hne⟩, hdue⟩
      · rw [claimable_claimedJob] at hdue
        cases hdue
      · exact ⟨hjob, hne, hdue⟩
    · exact fun ⟨hjob, hne, hdue⟩ => ⟨Or.inr ⟨hjob, hne⟩, hdue⟩
  refine (List.perm_ext_iff_of_nodup (List.nodup_cons.mpr ⟨?_, hnodup w'⟩) (hnodup w)).mpr ?_
  · exact fun hin => ((hmem row).mp hin).2.1 rfl
  · intro job
    rw [List.mem_cons, hmem]
    refine Iff.trans ?_ List.mem_filter.symm
    constructor
    · rintro (rfl | ⟨hjob, -, hdue⟩)
      · exact ⟨hrow, hclaimable⟩
      · exact ⟨hjob, hdue⟩
    · rintro ⟨hjob, hdue⟩
      by_cases hid : job.id = row.id
      · exact Or.inl (Table.eq_of_key_eq hjob hrow hid)
      · exact Or.inr ⟨hjob, hid, hdue⟩

/-- **Whatever is due is claimed**: a worker that claims as often as there are jobs that are due
claims each of them once, the oldest first, and then there is none. -/
theorem poll_drains (p : JobProcessor) (now : DateTime) (leaseTokens : List Uuid) (w : World)
    (henough : (dueJobs p now w).length ≤ leaseTokens.length) :
    ∃ claimed : List Job, (poll p now leaseTokens w).claims = claimed.reverse ++ w.claims ∧
      (claimed.map place).Perm ((dueJobs p now w).map place) ∧
      claimed.Pairwise (fun a b => a.createdAt ≤ b.createdAt) ∧
      dueJobs p now (poll p now leaseTokens w) = [] := by
  induction leaseTokens generalizing w with
  | nil =>
      have hnone : dueJobs p now w = [] := List.length_eq_zero_iff.mp (Nat.le_zero.mp henough)
      exact ⟨[], rfl, by rw [hnone], List.Pairwise.nil, hnone⟩
  | cons leaseToken rest ih =>
      have hpoll : poll p now (leaseToken :: rest) w =
          poll p now rest ((Operation.claimJob p leaseToken now fun _ => false).perform w) := rfl
      rw [hpoll]
      rcases perform_claimJob w p leaseToken now (fun _ => false) with
        ⟨hclaims, hdb, hnone⟩ | ⟨row, hdue, hclaims, hwork⟩
      · -- nothing is due, so that nothing is claimed
        generalize (Operation.claimJob p leaseToken now fun _ => false).perform w = w' at hclaims hdb ⊢
        have hsame : dueJobs p now w' = dueJobs p now w := by
          unfold dueJobs
          rw [hdb]
        have hempty : dueJobs p now w = [] := List.filter_eq_nil_iff.mpr fun job hjob hjobDue => by
          rw [hnone job hjob rfl] at hjobDue
          cases hjobDue
        obtain ⟨claimed, hclaimed, hplaces, hordered, hdone⟩ :=
          ih w' (by rw [hsame, hempty]; exact Nat.zero_le _)
        rw [hclaims] at hclaimed
        rw [hsame] at hplaces
        exact ⟨claimed, hclaimed, hplaces, hordered, hdone⟩
      · generalize (Operation.claimJob p leaseToken now fun _ => false).perform w = w' at hclaims hwork ⊢
        have hperm := dueJobs_claimed hdue.mem hdue.claimable (congrArg Work.queue hwork)
        obtain ⟨claimed, hclaimed, hplaces, hordered, hempty⟩ := ih w' (by
          have hlength := hperm.length_eq
          rw [List.length_cons] at hlength henough
          omega)
        refine ⟨claimedJob p leaseToken now row :: claimed, ?_, ?_, ?_, hempty⟩
        · rw [hclaimed, hclaims, List.reverse_cons, List.append_assoc]
          rfl
        · exact (List.Perm.cons (place row) hplaces).trans (hperm.map place)
        · refine List.pairwise_cons.mpr ⟨fun other hother => ?_, hordered⟩
          -- the other claims are in the places of jobs that were due as well
          obtain ⟨job, hjob, hplace⟩ :=
            List.mem_map.mp (hplaces.subset (List.mem_map_of_mem hother))
          have hjobDue := List.mem_filter.mp
            (hperm.subset (List.mem_cons_of_mem row hjob))
          have hle := hdue.oldest job hjobDue.1 hjobDue.2 rfl
          rw [show other.createdAt = job.createdAt from (congrArg Prod.snd hplace).symm]
          exact hle

omit [WorkflowRuntime] in
/-- The film is to be resolved, and the next discovery has been started. -/
def twoDueJobs : World :=
  @World.run asciiWorkflow
    (sampleRun.take 3 ++ [.startDiscovery true {} (sampleUuid 6, sampleUuid 7) 3])

omit [WorkflowRuntime] in
/-- The resolution is claimed first, then the discovery, which was started after it. -/
theorem poll_drains_sample :
    ∃ claimed : List Job,
      (@poll asciiWorkflow sampleProcessor 4 [sampleUuid 8, sampleUuid 9] twoDueJobs).claims =
          claimed.reverse ++ twoDueJobs.claims ∧
        claimed.map Job.createdAt = [2, 3] ∧
          dueJobs sampleProcessor 4
            (@poll asciiWorkflow sampleProcessor 4 [sampleUuid 8, sampleUuid 9] twoDueJobs) = [] := by
  obtain ⟨claimed, hclaims, hplaces, hordered, hempty⟩ := @poll_drains asciiWorkflow
    sampleProcessor 4 [sampleUuid 8, sampleUuid 9] twoDueJobs (by decide +kernel)
  have hdue : (dueJobs sampleProcessor 4 twoDueJobs).map (Prod.snd ∘ place) = [2, 3] := by
    decide +kernel
  have htimes : (claimed.map Job.createdAt).Perm [2, 3] := by
    have hperm := hplaces.map Prod.snd
    rw [List.map_map, List.map_map, hdue] at hperm
    exact hperm
  have hsorted : (claimed.map Job.createdAt).Pairwise (· ≤ ·) := List.pairwise_map.mpr hordered
  exact ⟨claimed, hclaims, htimes.eq_of_pairwise' hsorted (by decide), hempty⟩

end Polling

/-! ### What is finished -/

/-- What a run makes of a world. -/
theorem World.run_append (ops later : List Operation) :
    World.run (ops ++ later) = later.foldl (fun w op => op.perform w) (World.run ops) :=
  List.foldl_append

/-- An operation leaves a job that is finished, and what it has brought, as they are. -/
theorem Operation.perform_finished (op : Operation) {w : World} (hread : op.leaseAsRead w)
    (h : Sound w) (hq : QueueSound w) {job : Job} (hjob : job ∈ w.db.queue) (hfinished : isActiveJob job.status = false) :
    job ∈ (op.perform w).db.queue ∧
      broughtBy (op.perform w).db.metadataMatches job.id =
        broughtBy w.db.metadataMatches job.id := by
  rcases op.perform_cases hread h fun job hjob => (hq.jobs job hjob).maxAttempts with
    ⟨-, hmoves⟩ | ⟨p, leaseToken, now, locked, row, hdue, -, hwork⟩
  · exact onWork_invariant (P := fun work => job ∈ work.queue ∧
      broughtBy work.found job.id = broughtBy w.db.metadataMatches job.id) hmoves ⟨hjob, rfl⟩
      fun _ _ hs hstep => ⟨hstep.finished hs.1 hfinished,
        (hstep.broughtBy_eq hs.1 hfinished).trans hs.2⟩
  · have hqueue := congrArg Work.queue hwork
    have hfound := congrArg Work.found hwork
    change (op.perform w).db.queue = _ at hqueue
    change (op.perform w).db.metadataMatches = w.db.metadataMatches at hfound
    rw [hqueue, hfound]
    exact ⟨mem_save_of_finished hdue.mem rfl (isActiveJob_of_claimable hdue.claimable) hjob
      hfinished, rfl⟩

/-- What is finished is left as it is by whatever is done later. -/
theorem perform_stays (ops later : List Operation) (hread : LeasesAsRead (ops ++ later)) {job : Job}
    (hjob : job ∈ (World.run ops).db.queue) (hfinished : isActiveJob job.status = false) :
    job ∈ (World.run (ops ++ later)).db.queue ∧
      broughtBy (World.run (ops ++ later)).db.metadataMatches job.id =
        broughtBy (World.run ops).db.metadataMatches job.id := by
  obtain ⟨hfirst, hlater⟩ := EveryStep.append.mp hread
  obtain ⟨hsound, hq⟩ := World.run_queueSound ops hfirst
  rw [World.run_append]
  change EveryStep _ (World.run ops) later at hlater
  clear hread
  generalize World.run ops = w at hsound hq hjob hlater
  induction later generalizing w with
  | nil => exact ⟨hjob, rfl⟩
  | cons op later ih =>
      obtain ⟨hkept, hbrought⟩ := op.perform_finished hlater.1 hsound hq hjob hfinished
      obtain ⟨hend, hsame⟩ := ih _ (op.perform_sound hsound)
        (op.perform_queueSound hlater.1 hsound hq) hkept hlater.2
      exact ⟨hend, hsame.trans hbrought⟩

/-- **What is finished stays as it is**: the row of a job that succeeded, failed or was cancelled is
never written again, no worker ever claims it, and the matches that it has brought are all that it
ever brings. -/
theorem finished_stays (ops later : List Operation) (hread : LeasesAsRead (ops ++ later)) {job : Job}
    (hjob : job ∈ (World.run ops).db.queue) (hfinished : isActiveJob job.status = false) :
    job ∈ (World.run (ops ++ later)).db.queue ∧
      (∀ (p : JobProcessor) (now : DateTime), claimable p now job = false) ∧
      broughtBy (World.run (ops ++ later)).db.metadataMatches job.id =
        broughtBy (World.run ops).db.metadataMatches job.id := by
  obtain ⟨hkept, hbrought⟩ := perform_stays ops later hread hjob hfinished
  refine ⟨hkept, fun p now => Bool.not_eq_true _ ▸ fun hclaimable => ?_, hbrought⟩
  rw [isActiveJob_of_claimable hclaimable] at hfinished
  cases hfinished

omit [WorkflowRuntime] in
/-- The discovery of the film has succeeded, and stays so. -/
theorem finished_stays_sample :
    succeededJob sampleDiscovery ∈
      (@World.run asciiWorkflow (sampleRun ++ [sampleCompletion])).db.queue :=
  (@finished_stays asciiWorkflow sampleRun [sampleCompletion] (by decide +kernel)
    (succeededJob sampleDiscovery) (Table.mem_rows.mp (by decide +kernel)) rfl).1

end LibSeek.Workflow
