/-
The chain of the policy revisions.

The revisions of the policy form a chain, whose last entry is the one that the head points to.
Reading the policy walks the chain back to its first revision; publishing a revision extends it by
one.  Here is what a database with such a chain guarantees its readers, and that bootstrapping the
policy and publishing a revision keep it.

Main definitions:

* `ControlPlane.PolicyChain` — **the invariant**: the stored revisions form a chain of revisions
  with their hashes, and the head points to the last of them;
* `ControlPlane.guardHeadUpdate` — `guard_automation_policy_head_update`;
* `ControlPlane.verifyTurns` — the loop of `verify_policy_revision`, which may not end.

Main results:

* `ControlPlane.verifyTurns_isSome` — **the loop ends**, whatever is stored;
* `ControlPlane.PolicyChain.verify` — every revision of a chain verifies;
* `ControlPlane.PolicyChain.bindHead_ok` — the policy of a head of the chain is read;
* `ControlPlane.PolicyChain.extend` — a published revision extends the chain;
* `ControlPlane.wp_publishOn`, `ControlPlane.PolicyChain.guardHeadUpdate` — **publishing**, and the
  guard of the head lets it pass.
-/

import LibSeek.ControlPlane.PolicySteps
import LibSeek.Lib.HashChain
import Mathlib.Data.List.Perm.Subperm

set_option relaxedAutoImplicit false
set_option autoImplicit false

namespace LibSeek.ControlPlane

open LibSeek.Core LibSeek.Lib LibSeek.Models LibSeek.Schemas LibSeek.Services

/-! ### The loop of the verification -/

/-- The loop of `verify_policy_revision`, with nothing for a run that has not ended yet. -/
def verifyTurns (db : Tables) :
    ℕ → List String → AutomationPolicyRevision → Option (Except AppError Unit)
  | 0, _, _ => none
  | fuel + 1, seen, current =>
      if current.id ∈ seen then some (.error policyChainInvalid)
      else if calculatePolicyHash current ≠ current.policyHash then
        some (.error (conflict "AUTOMATION_POLICY_TAMPERED" "自动化策略完整性校验失败"))
      else if current.revisionNo = 1 then
        some (ensure (current.previousPolicyHash = none) policyChainInvalid)
      else
        match revisionNumbered db (current.revisionNo - 1) with
        | none => some (.error policyChainInvalid)
        | some previous =>
            if current.previousPolicyHash ≠ some previous.policyHash then
              some (.error policyChainInvalid)
            else verifyTurns db fuel (current.id :: seen) previous

/-- What the loop ends in is what the verification says. -/
theorem verifyTurns_eq {s : Tables} {fuel : ℕ} {seen : List String}
    {current : AutomationPolicyRevision} {outcome : Except AppError Unit}
    (h : verifyTurns s fuel seen current = some outcome) :
    verifyPolicyRevisionLoop s fuel seen current = outcome := by
  induction fuel generalizing seen current with
  | zero => cases h
  | succ fuel ih =>
      -- both walks take the same turns; they differ where the fuel runs out
      unfold verifyTurns at h
      unfold verifyPolicyRevisionLoop
      split at h
      · rename_i hseen
        rw [if_pos hseen]
        exact Option.some.inj h
      rename_i hseen
      rw [if_neg hseen]
      split at h
      · rename_i hhash
        rw [if_pos hhash]
        exact Option.some.inj h
      rename_i hhash
      rw [if_neg hhash]
      split at h
      · rename_i hfirst
        rw [if_pos hfirst]
        exact Option.some.inj h
      rename_i hfirst
      rw [if_neg hfirst]
      cases hprevious : revisionNumbered s (current.revisionNo - 1) with
      | none =>
          rw [hprevious] at h
          exact Option.some.inj h
      | some previous =>
          simp only [hprevious] at h ⊢
          split at h
          · rename_i hlink
            rw [if_pos hlink]
            exact Option.some.inj h
          · rename_i hlink
            rw [if_neg hlink]
            exact ih h

/-- The loop ends while there are revisions that it has not seen: the identifiers seen are distinct,
and all but the first are those of stored revisions. -/
theorem verifyTurns_isSome_of_fuel {s : Tables} {first : String} {fuel : ℕ} {seen : List String}
    {current : AutomationPolicyRevision}
    (hcurrent : current.id ∈ first :: s.revisions.rows.map (·.id)) (hnodup : seen.Nodup)
    (hseen : ∀ id ∈ seen, id ∈ first :: s.revisions.rows.map (·.id))
    (hfuel : s.revisions.rows.length + 2 ≤ fuel + seen.length) :
    (verifyTurns s fuel seen current).isSome := by
  induction fuel generalizing seen current with
  | zero =>
      have hle := (List.Nodup.subperm hnodup hseen).length_le
      simp only [List.length_cons, List.length_map] at hle
      omega
  | succ fuel ih =>
      unfold verifyTurns
      split
      · rfl
      rename_i hnew
      split
      · rfl
      split
      · rfl
      cases hprevious : revisionNumbered s (current.revisionNo - 1) with
      | none => rfl
      | some previous =>
          simp only
          split
          · rfl
          have hmem : previous ∈ s.revisions.rows := List.mem_of_find?_eq_some hprevious
          refine ih (List.mem_cons_of_mem _ (List.mem_map_of_mem hmem))
            (List.nodup_cons.mpr ⟨hnew, hnodup⟩) (fun id hid => ?_) ?_
          · rcases List.mem_cons.mp hid with rfl | hid
            · exact hcurrent
            · exact hseen id hid
          · rw [List.length_cons]
            omega

/-- **The loop ends**, whatever is stored, and what it ends in is what the verification says. -/
theorem verifyTurns_isSome (s : Tables) (r : AutomationPolicyRevision) :
    verifyTurns s (s.revisions.rows.length + 2) [] r = some (verifyPolicyRevision s r) := by
  have hsome : (verifyTurns s (s.revisions.rows.length + 2) [] r).isSome :=
    verifyTurns_isSome_of_fuel
      (List.mem_cons_self : r.id ∈ r.id :: s.revisions.rows.map (·.id)) List.nodup_nil
      (by simp) (by simp)
  obtain ⟨outcome, houtcome⟩ := Option.isSome_iff_exists.mp hsome
  rw [houtcome, verifyPolicyRevision, verifyTurns_eq houtcome]

/-! ### The chain -/

/-- What a revision says of its place in the chain. -/
def policyLinks : Links AutomationPolicyRevision PolicyHash where
  number := fun r => r.revisionNo
  hash := fun r => r.policyHash
  previous := fun r => r.previousPolicyHash

/-- **The chain of the policy**: the stored revisions form a chain, each carries its hash, and the
head points to the last of them with its number. -/
structure PolicyChain (s : Tables) : Prop where
  linked : policyLinks.Linked s.revisions.rows
  hashed : ∀ r ∈ s.revisions, calculatePolicyHash r = r.policyHash
  bootstrapped : s.head = none → s.revisions.rows = []
  pointed : ∀ head, s.head = some head → ∃ r, s.revisions.rows.getLast? = some r ∧
    r.id = head.currentRevisionId ∧ r.revisionNo = head.version

theorem PolicyChain.empty : PolicyChain {} where
  linked := .nil
  hashed r hr := absurd hr (Table.notMem_empty r)
  bootstrapped _ := rfl
  pointed head h := by cases h

section

variable {s : Tables}

/-- The revision before another one is found by its number. -/
theorem PolicyChain.revisionNumbered (hs : PolicyChain s) {r : AutomationPolicyRevision}
    (hr : r ∈ s.revisions) : revisionNumbered s r.revisionNo = some r :=
  hs.linked.find?_number_of_mem hr

/-- The loop of the verification ends well at every revision whose successors only it has seen. -/
theorem PolicyChain.loop (hs : PolicyChain s) : ∀ r ∈ s.revisions, ∀ (fuel : ℕ)
    (seen : List String), r.revisionNo ≤ fuel →
    (∀ x ∈ s.revisions, x.id ∈ seen → r.revisionNo < x.revisionNo) →
    verifyPolicyRevisionLoop s fuel seen r = .ok () := by
  have hturn : ∀ r ∈ s.revisions, ∀ (fuel : ℕ) (seen : List String), r.revisionNo ≤ fuel + 1 →
      (∀ x ∈ s.revisions, x.id ∈ seen → r.revisionNo < x.revisionNo) →
      r.id ∉ seen ∧ ¬ calculatePolicyHash r ≠ r.policyHash := fun r hr fuel seen _ hseen =>
    ⟨fun hmem => Nat.lt_irrefl _ (hseen r hr hmem), not_not_intro (hs.hashed r hr)⟩
  refine hs.linked.forall_mem (fun r hr hone hprevious => ?_)
    fun p r hp hr hnumber hprevious ih => ?_
  · change r.revisionNo = 1 at hone
    intro fuel seen hfuel hseen
    obtain ⟨fuel, rfl⟩ : ∃ k, fuel = k + 1 := ⟨fuel - 1, by omega⟩
    obtain ⟨hnew, hhash⟩ := hturn r hr fuel seen hfuel hseen
    rw [verifyPolicyRevisionLoop, if_neg hnew, if_neg hhash, if_pos hone]
    exact ensure_eq_ok.mpr hprevious
  · change r.revisionNo = p.revisionNo + 1 at hnumber
    intro fuel seen hfuel hseen
    obtain ⟨fuel, rfl⟩ : ∃ k, fuel = k + 1 := ⟨fuel - 1, by omega⟩
    obtain ⟨hnew, hhash⟩ := hturn r hr fuel seen hfuel hseen
    have hone : r.revisionNo ≠ 1 := by
      have hpositive : p.revisionNo ≠ 0 := hs.linked.number_ne_zero hp
      omega
    have hbefore : LibSeek.Services.revisionNumbered s (r.revisionNo - 1) = some p := by
      rw [hnumber, Nat.add_sub_cancel]
      exact hs.revisionNumbered hp
    have hlink : ¬ r.previousPolicyHash ≠ some p.policyHash := not_not_intro hprevious
    rw [verifyPolicyRevisionLoop, if_neg hnew, if_neg hhash, if_neg hone, hbefore]
    simp only
    rw [if_neg hlink]
    refine ih fuel (r.id :: seen) (by omega) fun x hx hmem => ?_
    rcases List.mem_cons.mp hmem with hid | hmem
    · obtain rfl := Table.eq_of_key_eq hx hr hid
      omega
    · have := hseen x hx hmem
      omega

/-- **Every revision of the chain verifies.** -/
theorem PolicyChain.verify (hs : PolicyChain s) {r : AutomationPolicyRevision}
    (hr : r ∈ s.revisions) : verifyPolicyRevision s r = .ok () := by
  have hle : r.revisionNo ≤ s.revisions.rows.length := hs.linked.number_le hr
  exact hs.loop r hr _ [] (by omega) fun x _ hx => absurd hx List.not_mem_nil

/-- The last revision is the one that the head points to. -/
theorem PolicyChain.current (hs : PolicyChain s) {head : AutomationPolicyHead}
    (hhead : s.head = some head) : ∃ r, s.revisions.rows.getLast? = some r ∧
      s.revisions.get? head.currentRevisionId = some r ∧ head.version = r.revisionNo ∧
      r.revisionNo = s.revisions.rows.length := by
  obtain ⟨r, hlast, hid, hversion⟩ := hs.pointed head hhead
  have hmem : r ∈ s.revisions := List.mem_of_getLast? hlast
  exact ⟨r, hlast, Table.get?_eq_some.mpr ⟨hmem, hid⟩, hversion.symm,
    hs.linked.number_of_getLast? hlast⟩

/-- **A revision that follows the last one extends the chain.** -/
theorem PolicyChain.extend (hs : PolicyChain s) {r : AutomationPolicyRevision}
    (hnew : s.revisions.get? r.id = none)
    (hnumber : r.revisionNo = s.revisions.rows.length + 1)
    (hprevious : r.previousPolicyHash =
      s.revisions.rows.getLast?.map AutomationPolicyRevision.policyHash)
    (hhash : calculatePolicyHash r = r.policyHash) :
    PolicyChain
      { s with
        revisions := s.revisions.save r
        head := some { currentRevisionId := r.id, version := r.revisionNo } } where
  linked := by
    change policyLinks.Linked (s.revisions.save r).rows
    rw [Table.rows_save_of_new hnew]
    exact .concat hs.linked hnumber hprevious
  hashed := Table.forall_mem_save hs.hashed hhash
  bootstrapped h := by cases h
  pointed head h := by
    obtain rfl := Option.some.inj h
    refine ⟨r, ?_, rfl, rfl⟩
    change (s.revisions.save r).rows.getLast? = some r
    rw [Table.rows_save_of_new hnew, List.getLast?_concat]

/-- A change of the other tables keeps the chain. -/
theorem PolicyChain.congr (hs : PolicyChain s) {s' : Tables}
    (hrevisions : s'.revisions = s.revisions) (hhead : s'.head = s.head) : PolicyChain s' where
  linked := by rw [hrevisions]; exact hs.linked
  hashed := by rw [hrevisions]; exact hs.hashed
  bootstrapped := by rw [hrevisions, hhead]; exact hs.bootstrapped
  pointed := by rw [hrevisions, hhead]; exact hs.pointed

/-- A number above that of every revision is new. -/
theorem PolicyChain.number_new (hs : PolicyChain s) :
    ∀ r ∈ s.revisions, r.revisionNo ≠ s.revisions.rows.length + 1 := by
  intro r hr heq
  have hle : r.revisionNo ≤ s.revisions.rows.length := hs.linked.number_le hr
  omega

end

/-! ### The operations -/

theorem getCurrentPolicy_eq (newId : Uuid) (now : DateTime) (db : Db) :
    getCurrentPolicy newId now db =
      match db.head with
      | none => bootstrapPolicy newId now db
      | some head => bindHead head db := by
  unfold getCurrentPolicy
  cases h : db.head with
  | none => simp only [bind, Tx.get, h]
  | some head => simp only [bind, Tx.get, h]

/-- `guard_automation_policy_head_update`: the check of every update of the head before it is
written, where the revisions have been written already. -/
def guardHeadUpdate (db : Tables) (old new : AutomationPolicyHead) : Except Exn Unit := do
  ensure (new.version ≠ old.version ∧ new.currentRevisionId ≠ old.currentRevisionId)
    (.other "ValueError")
  ensure (new.version = old.version + 1) (.other "ValueError")
  let previous ← orRaise (db.revisions.get? old.currentRevisionId) (.other "ValueError")
  let current ← orRaise (db.revisions.get? new.currentRevisionId) (.other "ValueError")
  ensure (current.revisionNo = new.version ∧ current.previousPolicyHash = some previous.policyHash)
    (.other "ValueError")

section

variable {db : Db}

theorem revisionIsNew_iff {s : Tables} {r : AutomationPolicyRevision} :
    revisionIsNew s r = true ↔ s.revisions.get? r.id = none ∧
      ∀ x ∈ s.revisions, x.revisionNo ≠ r.revisionNo ∧ x.policyHash ≠ r.policyHash := by
  simp [revisionIsNew]

/-- **The policy of a head of the chain is read**, also where the head has moved on since. -/
theorem PolicyChain.wp_bindHead (hs : PolicyChain db.toTables) {head : AutomationPolicyHead}
    {r : AutomationPolicyRevision} (hr : r ∈ db.revisions) (hid : r.id = head.currentRevisionId)
    (hversion : r.revisionNo = head.version) :
    Tx.wp (bindHead head) (fun p db' => p = (head, r) ∧ db' = db) (fun _ _ => False) db := by
  have hget : db.revisions.get? head.currentRevisionId = some r :=
    Table.get?_eq_some.mpr ⟨hr, hid⟩
  simp only [bindHead, Tx.wp_bind, Tx.wp_get, Tx.wp_ofOption, wp_liftApp, wp_requireApp,
    Tx.wp_pure, hget]
  refine ⟨fun current hcurrent => ?_, fun h => by cases h⟩
  obtain rfl := Option.some.inj hcurrent
  refine ⟨fun _ _ => ⟨fun _ => ⟨rfl, trivial⟩, fun hne => hne hversion.symm⟩, fun e he => ?_⟩
  rw [hs.verify hr] at he
  cases he

/-- **Bootstrapping** an empty policy begins the chain. -/
theorem PolicyChain.wp_bootstrapPolicy (hs : PolicyChain db.toTables) (hhead : db.head = none)
    (newId : Uuid) (now : DateTime) :
    Tx.wp (bootstrapPolicy newId now)
      (fun p db' => PolicyChain db'.toTables ∧ db'.head = some p.1 ∧
        p.2 ∈ db'.revisions ∧ p.2.id = p.1.currentRevisionId ∧ p.2.revisionNo = p.1.version ∧
        p.2.revisionNo = 1 ∧ db'.revisions.rows.length = 1)
      (fun _ _ => False) db := by
  have hrows : db.revisions.rows = [] := hs.bootstrapped hhead
  have hempty : ∀ x, ¬ x ∈ db.revisions := by
    intro x hx
    rw [← Table.mem_rows, hrows] at hx
    exact List.not_mem_nil hx
  have hget : db.revisions.get? (newDefaultPolicy newId now).id = none :=
    Table.get?_eq_none.mpr fun r hr => absurd hr (hempty r)
  have hnew : revisionIsNew db.toTables (newDefaultPolicy newId now) = true :=
    revisionIsNew_iff.mpr ⟨hget, fun r hr => absurd hr (hempty r)⟩
  simp only [bootstrapPolicy, saveRevision, Tx.wp_bind, Tx.wp_get, wp_requireApp, Tx.wp_modify,
    Tx.wp_pure]
  refine ⟨fun _ => ?_, fun hne => hne hnew⟩
  refine ⟨hs.extend hget ?_ ?_ rfl, trivial, Table.mem_save_self _ _, trivial, rfl, rfl, ?_⟩
  · rw [hrows]
    rfl
  · rw [hrows]
    rfl
  · rw [Table.rows_save_of_new hget, hrows]
    rfl

/-- The errors of `publish_policy_revision` that are not the policy's own. -/
def PublishRefused (e : Exn) : Prop :=
  e.errorCode? = some "AUTOMATION_POLICY_REVISION_CONFLICT" ∨
    e.errorCode? = some "AUTOMATION_ACKNOWLEDGEMENTS_REQUIRED" ∨ e = .integrity

/-- **Publishing** on the last revision extends the chain, by the revision that follows it. -/
theorem PolicyChain.wp_publishOn (hs : PolicyChain db.toTables) {head : AutomationPolicyHead}
    {current : AutomationPolicyRevision} (hhead : db.head = some head)
    (hcurrent : current ∈ db.revisions) (hid : current.id = head.currentRevisionId)
    (request : PolicyRevisionRequest) (actor : String) (newId : Uuid) (now : DateTime) :
    Tx.wp (publishOn request actor newId now (head, current))
      (fun p db' => PolicyChain db'.toTables ∧ db'.head = some p.1 ∧
        request.baseRevisionNo = db.revisions.rows.length ∧
        db'.revisions.rows = db.revisions.rows ++ [p.2] ∧
        p.2.revisionNo = db.revisions.rows.length + 1 ∧
        guardHeadUpdate db'.toTables head p.1 = .ok ())
      (fun e _ => PublishRefused e) db := by
  obtain ⟨last, hlast, hget, hversion, hlength⟩ := hs.current hhead
  obtain rfl : current = last :=
    Table.eq_of_key_eq hcurrent (List.mem_of_getLast? hlast)
      (hid.trans (Table.key_of_get?_eq_some hget).symm)
  simp only [publishOn, saveRevision, Tx.wp_bind, wp_requireApp, Tx.wp_get, Tx.wp_require,
    Tx.wp_modify, Tx.wp_pure]
  refine ⟨fun hbase => ⟨fun _ => ⟨fun hnew => ?_, fun _ => Or.inr (Or.inr rfl)⟩,
    fun _ => Or.inr (Or.inl rfl)⟩, fun _ => Or.inl rfl⟩
  obtain ⟨hnone, -⟩ := revisionIsNew_iff.mp hnew
  have hnumber : (publishedRevision request actor newId now current).revisionNo =
      db.revisions.rows.length + 1 := congrArg (· + 1) hlength
  have hrows := Table.rows_save_of_new hnone
  have hchain := hs.extend hnone hnumber (by rw [hlast]; rfl) rfl
  refine ⟨?_, trivial, hbase.trans hlength, hrows, hnumber, ?_⟩
  · rw [hversion]
    exact hchain
  · -- the guard sees the new revision and the one that the head pointed to
    have hne : newId.text ≠ head.currentRevisionId := by
      intro heq
      have := Table.get?_eq_none.mp hnone current hcurrent
      exact this (hid.trans heq.symm)
    simp only [guardHeadUpdate, bind_eq_ok, ensure_eq_ok, orRaise_eq_ok]
    refine ⟨(), ⟨Nat.succ_ne_self _, hne⟩, (), trivial, current, ?_, _, Table.get?_save_self _ _, ?_⟩
    · rw [Table.get?_save_of_ne _ (Ne.symm hne)]
      exact hget
    · exact ⟨congrArg (· + 1) hversion.symm, rfl⟩

end

end LibSeek.ControlPlane
