/-
Alterations of a stored policy.

The gates of the automation read the current revision: the modes of its stages, its rules and
acknowledgements, the moment from which it is in effect, its identifier.  Whoever alters one of
these in the database is to be found out when the policy is read the next time, since reading it
verifies the hashes of its chain.  That holds of all of them but one: the moment from which a
revision is in effect is not part of what is hashed.

Main definitions:

* `ControlPlane.AlteredAt` — tables in which one revision was replaced by another one;
* `ControlPlane.GatingChange` — the changes of a revision that a gate can notice.

Main results:

* `ControlPlane.verifyPolicyRevisionLoop_altered` — no revision above an altered one verifies;
* `ControlPlane.getCurrentPolicy_altered` — **reading the policy fails after an alteration exactly
  where the moment from which it is in effect was left as it was**.
-/

import LibSeek.ControlPlane.PolicySessions

set_option relaxedAutoImplicit false
set_option autoImplicit false

namespace LibSeek.ControlPlane

open LibSeek.Core LibSeek.Lib LibSeek.Models LibSeek.Schemas LibSeek.Services

/-- A list of revisions in which one of them is replaced. -/
def replaceRevision (r r' x : AutomationPolicyRevision) : AutomationPolicyRevision :=
  if x = r then r' else x

/-- Tables in which a stored revision was replaced by another one; the head was left alone. -/
structure AlteredAt (s s' : Tables) (r r' : AutomationPolicyRevision) : Prop where
  mem : r ∈ s.revisions
  rows : s'.revisions.rows = s.revisions.rows.map (replaceRevision r r')
  head : s'.head = s.head

/-- A change of one field of a revision that a gate of the automation reads: the identifier where
the revision is the current one, and rules and acknowledgements as objects. -/
inductive GatingChange (s : Tables) (r : AutomationPolicyRevision) :
    AutomationPolicyRevision → Prop
  | id {id : String} (h : id ≠ r.id)
      (hcurrent : ∃ head, s.head = some head ∧ head.currentRevisionId = r.id) :
      GatingChange s r { r with id := id }
  | identityMode {mode : AutomationMode} (h : mode ≠ r.identityMode) :
      GatingChange s r { r with identityMode := mode }
  | torrentSelectionMode {mode : AutomationMode} (h : mode ≠ r.torrentSelectionMode) :
      GatingChange s r { r with torrentSelectionMode := mode }
  | approvalMode {mode : AutomationMode} (h : mode ≠ r.approvalMode) :
      GatingChange s r { r with approvalMode := mode }
  | executionMode {mode : AutomationMode} (h : mode ≠ r.executionMode) :
      GatingChange s r { r with executionMode := mode }
  | eligibilityRules {rules : JsonObject} (h : rules.canonical ≠ r.eligibilityRules.canonical) :
      GatingChange s r { r with eligibilityRules := rules }
  | acknowledgements {members : JsonObject}
      (h : members.canonical ≠ r.acknowledgements.canonical) :
      GatingChange s r { r with acknowledgements := members }
  | effectiveFrom {moment : DateTime} (h : moment ≠ r.effectiveFrom) :
      GatingChange s r { r with effectiveFrom := moment }

/-! ### What is hashed -/

/-- Revisions with one hash have the same terms, as objects, and the same predecessor. -/
theorem policyHashOf_inj {terms terms' : PolicyTerms} {previous previous' : Option PolicyHash}
    (h : policyHashOf terms previous = policyHashOf terms' previous') :
    policyHashPayload terms = policyHashPayload terms' ∧ previous = previous' := by
  cases previous with
  | none =>
      cases previous' with
      | none => exact ⟨PolicyHash.first.inj h, rfl⟩
      | some _ => cases h
  | some _ =>
      cases previous' with
      | none => cases h
      | some _ =>
          obtain ⟨hterms, hprevious⟩ := PolicyHash.next.inj h
          exact ⟨hterms, congrArg some hprevious⟩

section

variable {s s' : Tables} {r r' : AutomationPolicyRevision}

/-- A revision whose hashed terms have changed does not carry its hash. -/
theorem not_hashed_of_payload_ne (hr : calculatePolicyHash r = r.policyHash)
    (hhash : r'.policyHash = r.policyHash)
    (hterms : policyHashPayload r'.toPolicyTerms ≠ policyHashPayload r.toPolicyTerms) :
    calculatePolicyHash r' ≠ r'.policyHash := by
  intro h
  exact hterms (policyHashOf_inj (h.trans (hhash.trans hr.symm))).1

/-- **A change that a gate can notice** is one of the identifier of the current revision, one after
which the revision does not carry its hash, or one of the moment from which it is in effect. -/
theorem GatingChange.cases (hr : calculatePolicyHash r = r.policyHash)
    (h : GatingChange s r r') :
    (r'.effectiveFrom = r.effectiveFrom ∧ r'.id ≠ r.id ∧
        ∃ head, s.head = some head ∧ head.currentRevisionId = r.id) ∨
      (r'.effectiveFrom = r.effectiveFrom ∧ r'.id = r.id ∧ r'.revisionNo = r.revisionNo ∧
        calculatePolicyHash r' ≠ r'.policyHash) ∨
      ∃ moment, moment ≠ r.effectiveFrom ∧ r' = { r with effectiveFrom := moment } := by
  cases h with
  | id h hcurrent => exact Or.inl ⟨rfl, h, hcurrent⟩
  | identityMode h =>
      refine Or.inr (Or.inl ⟨rfl, rfl, rfl, not_hashed_of_payload_ne hr rfl fun heq => h ?_⟩)
      exact congrArg PolicyTerms.identityMode heq
  | torrentSelectionMode h =>
      refine Or.inr (Or.inl ⟨rfl, rfl, rfl, not_hashed_of_payload_ne hr rfl fun heq => h ?_⟩)
      exact congrArg PolicyTerms.torrentSelectionMode heq
  | approvalMode h =>
      refine Or.inr (Or.inl ⟨rfl, rfl, rfl, not_hashed_of_payload_ne hr rfl fun heq => h ?_⟩)
      exact congrArg PolicyTerms.approvalMode heq
  | executionMode h =>
      refine Or.inr (Or.inl ⟨rfl, rfl, rfl, not_hashed_of_payload_ne hr rfl fun heq => h ?_⟩)
      exact congrArg PolicyTerms.executionMode heq
  | eligibilityRules h =>
      refine Or.inr (Or.inl ⟨rfl, rfl, rfl, not_hashed_of_payload_ne hr rfl fun heq => h ?_⟩)
      exact congrArg PolicyTerms.eligibilityRules heq
  | acknowledgements h =>
      refine Or.inr (Or.inl ⟨rfl, rfl, rfl, not_hashed_of_payload_ne hr rfl fun heq => h ?_⟩)
      exact congrArg PolicyTerms.acknowledgements heq
  | effectiveFrom h => exact Or.inr (Or.inr ⟨_, h, rfl⟩)

/-! ### Walking an altered chain -/

theorem replaceRevision_self : replaceRevision r r' r = r' := by
  simp [replaceRevision]

theorem replaceRevision_of_ne {x : AutomationPolicyRevision} (h : x ≠ r) :
    replaceRevision r r' x = x := by
  simp [replaceRevision, h]

/-- A revision that does not carry its hash does not verify. -/
theorem verifyPolicyRevisionLoop_unhashed (h : calculatePolicyHash r ≠ r.policyHash) (fuel : ℕ)
    (seen : List String) : verifyPolicyRevisionLoop s fuel seen r ≠ .ok () := by
  intro hok
  cases fuel with
  | zero => cases hok
  | succ fuel =>
      rw [verifyPolicyRevisionLoop] at hok
      split at hok
      · cases hok
      · cases hok

/-- A revision that verifies is followed by one that does. -/
theorem verifyPolicyRevisionLoop_previous {fuel : ℕ} {seen : List String}
    (h : verifyPolicyRevisionLoop s fuel seen r = .ok ()) (hone : r.revisionNo ≠ 1) :
    ∃ previous fuel' seen', revisionNumbered s (r.revisionNo - 1) = some previous ∧
      verifyPolicyRevisionLoop s fuel' seen' previous = .ok () := by
  cases fuel with
  | zero => cases h
  | succ fuel =>
      rw [verifyPolicyRevisionLoop] at h
      split at h
      · cases h
      split at h
      · cases h
      cases hprevious : revisionNumbered s (r.revisionNo - 1) with
      | none =>
          rw [hprevious] at h
          cases h
      | some previous =>
          simp only [hprevious] at h
          split at h
          · cases h
          · exact ⟨previous, fuel, _, rfl, h⟩

/-- Revisions are found by their numbers after an alteration that keeps the numbers. -/
theorem AlteredAt.revisionNumbered (h : AlteredAt s s' r r')
    (hnumber : r'.revisionNo = r.revisionNo) (n : ℕ) :
    revisionNumbered s' n = (revisionNumbered s n).map (replaceRevision r r') := by
  have hsame : ∀ x, (replaceRevision r r' x).revisionNo = x.revisionNo := by
    intro x
    unfold replaceRevision
    split
    · rename_i hx
      rw [hnumber, hx]
    · rfl
  unfold Services.revisionNumbered
  rw [h.rows, List.find?_map]
  congr 2
  funext x
  simp [hsame]

/-- **No revision above an altered one verifies**, where the altered one does not carry its
hash. -/
theorem verifyPolicyRevisionLoop_altered (hs : PolicyChain s) (h : AlteredAt s s' r r')
    (hnumber : r'.revisionNo = r.revisionNo)
    (hhash : calculatePolicyHash r' ≠ r'.policyHash) :
    ∀ x ∈ s.revisions, r.revisionNo ≤ x.revisionNo → ∀ (fuel : ℕ) (seen : List String),
      verifyPolicyRevisionLoop s' fuel seen (replaceRevision r r' x) ≠ .ok () := by
  -- at the altered revision itself the hash is wrong
  have hself : ∀ x ∈ s.revisions, x.revisionNo = r.revisionNo → ∀ (fuel : ℕ)
      (seen : List String),
      verifyPolicyRevisionLoop s' fuel seen (replaceRevision r r' x) ≠ .ok () := by
    intro x hx hsame fuel seen
    have hfind := hs.revisionNumbered hx
    rw [hsame, hs.revisionNumbered h.mem] at hfind
    obtain rfl := Option.some.inj hfind
    rw [replaceRevision_self]
    exact verifyPolicyRevisionLoop_unhashed hhash fuel seen
  -- from there the failure is handed up the chain
  refine hs.linked.forall_mem (fun x hx hone _ hle => ?_) fun p x hp hx hnext _ ih hle => ?_
  · have hone' : x.revisionNo = 1 := hone
    have hzero : r.revisionNo ≠ 0 := hs.linked.number_ne_zero h.mem
    exact hself x hx (by omega)
  · change x.revisionNo = p.revisionNo + 1 at hnext
    rcases Nat.eq_or_lt_of_le hle with heq | hlt
    · exact hself x hx heq.symm
    · intro fuel seen hok
      have hne : x ≠ r := by
        rintro rfl
        omega
      rw [replaceRevision_of_ne hne] at hok
      have hzero : p.revisionNo ≠ 0 := hs.linked.number_ne_zero hp
      obtain ⟨previous, fuel', seen', hprevious, hok'⟩ :=
        verifyPolicyRevisionLoop_previous hok (by omega)
      have hfound : Services.revisionNumbered s (x.revisionNo - 1) = some p := by
        rw [hnext, Nat.add_sub_cancel]
        exact hs.revisionNumbered hp
      rw [h.revisionNumbered hnumber, hfound] at hprevious
      obtain rfl := Option.some.inj hprevious
      exact ih (by omega) fuel' seen' hok'

/-- A change of the moment from which a revision is in effect keeps the chain. -/
theorem PolicyChain.alter (hs : PolicyChain s) {moment : DateTime}
    (h : AlteredAt s s' r { r with effectiveFrom := moment }) : PolicyChain s' := by
  have hkept : ∀ x, ∃ moment', replaceRevision r { r with effectiveFrom := moment } x =
      { x with effectiveFrom := moment' } := by
    intro x
    by_cases hx : x = r
    · exact ⟨moment, by rw [hx, replaceRevision_self]⟩
    · exact ⟨x.effectiveFrom, replaceRevision_of_ne hx⟩
  refine ⟨?_, fun x hx => ?_, fun hhead => ?_, fun head hhead => ?_⟩
  · rw [h.rows]
    refine hs.linked.map (fun x => ?_) (fun x => ?_) fun x => ?_
    all_goals
      obtain ⟨moment', hx⟩ := hkept x
      rw [hx]
      rfl
  · rw [← Table.mem_rows, h.rows] at hx
    obtain ⟨y, hy, rfl⟩ := List.mem_map.mp hx
    obtain ⟨moment', hy'⟩ := hkept y
    rw [hy']
    exact hs.hashed y hy
  · rw [h.rows, hs.bootstrapped (h.head ▸ hhead), List.map_nil]
  · obtain ⟨x, hlast, hid, hversion⟩ := hs.pointed head (h.head ▸ hhead)
    obtain ⟨moment', hx⟩ := hkept x
    exact ⟨_, by rw [h.rows, List.getLast?_map, hlast, Option.map_some], by rw [hx]; exact hid,
      by rw [hx]; exact hversion⟩

end

/-! ### Reading an altered policy -/

section

variable {db db' : Db} {r r' : AutomationPolicyRevision}

/-- What has been read when a policy was read: the revision that the head points to, which
verifies. -/
theorem wp_bindHead_verified (head : AutomationPolicyHead) :
    Tx.wp (bindHead head)
      (fun p _ => db.revisions.get? head.currentRevisionId = some p.2 ∧
        verifyPolicyRevision db.toTables p.2 = .ok ())
      (fun _ _ => True) db := by
  simp only [bindHead, Tx.wp_bind, Tx.wp_get, Tx.wp_ofOption, wp_liftApp, wp_requireApp,
    Tx.wp_pure]
  exact ⟨fun current hcurrent => ⟨fun _ hverified => ⟨fun _ => ⟨hcurrent, hverified⟩,
    fun _ => trivial⟩, fun _ _ => trivial⟩, fun _ => trivial⟩

/-- The revision that the head points to, in the altered tables: the identifier of the current
revision leads nowhere once it was changed. -/
theorem AlteredAt.get?_current (h : AlteredAt db.toTables db'.toTables r r')
    {current : AutomationPolicyRevision} (hcurrent : current ∈ db.revisions)
    {p : AutomationPolicyRevision} (hp : db'.revisions.get? current.id = some p) :
    (∃ x ∈ db.revisions, p = replaceRevision r r' x ∧ (x = r ∨ x = current)) := by
  obtain ⟨hmem, hid⟩ := Table.get?_eq_some.mp hp
  rw [← Table.mem_rows, h.rows] at hmem
  obtain ⟨x, hx, rfl⟩ := List.mem_map.mp hmem
  refine ⟨x, hx, rfl, ?_⟩
  by_cases hxr : x = r
  · exact Or.inl hxr
  · rw [replaceRevision_of_ne hxr] at hid
    exact Or.inr (Table.eq_of_key_eq hx hcurrent hid)

/-- **An alteration of a policy is found out** the next time the policy is read, exactly where the
moment from which the altered revision is in effect was left as it was. -/
theorem getCurrentPolicy_altered (hs : PolicyChain db.toTables)
    (h : AlteredAt db.toTables db'.toTables r r') (hchange : GatingChange db.toTables r r')
    (newId : Uuid) (now : DateTime) :
    (∃ e, ((getCurrentPolicy newId now).run db').1 = .error e) ↔
      r'.effectiveFrom = r.effectiveFrom := by
  have hcases := hchange.cases (hs.hashed r h.mem)
  constructor
  · rintro ⟨e, he⟩
    rcases hcases with ⟨hsame, -⟩ | ⟨hsame, -⟩ | ⟨moment, -, rfl⟩
    · exact hsame
    · exact hsame
    -- the moment is no part of the hash, so the altered chain is read like a sound one
    · obtain ⟨p, db'', hok⟩ := (hs.alter h).getCurrentPolicy newId now
      rw [hok] at he
      cases he
  · intro hmoment
    obtain ⟨head, hhead⟩ := Option.ne_none_iff_exists'.mp (hs.head_ne_none h.mem)
    obtain ⟨current, hlast, hid, -⟩ := hs.pointed head hhead
    have hcurrent : current ∈ db.revisions := List.mem_of_getLast? hlast
    have hhead' : db'.head = some head := h.head.trans hhead
    have hrun : (getCurrentPolicy newId now).run db' = bindHead head db' := by
      have heq := getCurrentPolicy_eq newId now db'
      rw [hhead'] at heq
      exact heq
    rw [hrun]
    rcases hread : bindHead head db' with ⟨e | p, db''⟩
    · exact ⟨e, rfl⟩
    · obtain ⟨hget, hverified⟩ := (wp_bindHead_verified head).ok hread
      rw [← hid] at hget
      obtain ⟨x, hx, hp, hxr⟩ := h.get?_current hcurrent hget
      rcases hcases with ⟨-, hne, head₂, hhead₂, hcurrent₂⟩ | ⟨-, -, hnumber, hhash⟩ |
        ⟨moment, hne, rfl⟩
      · -- the identifier of the current revision has changed
        obtain rfl : head = head₂ := Option.some.inj (hhead.symm.trans hhead₂)
        obtain rfl : current = r := Table.eq_of_key_eq hcurrent h.mem (hid.trans hcurrent₂)
        obtain rfl : x = current := hxr.elim id id
        rw [replaceRevision_self] at hp
        have hkey := Table.key_of_get?_eq_some hget
        rw [hp] at hkey
        exact absurd hkey hne
      · -- the walk from the current revision meets the altered one
        have hle : r.revisionNo ≤ x.revisionNo := by
          rcases hxr with rfl | rfl
          · exact Nat.le_refl _
          · have hlength : x.revisionNo = db.revisions.rows.length :=
              hs.linked.number_of_getLast? hlast
            rw [hlength]
            exact hs.linked.number_le h.mem
        rw [hp] at hverified
        exact absurd hverified (verifyPolicyRevisionLoop_altered hs h hnumber hhash x hx hle _ _)
      · exact absurd hmoment hne

end

/-! ### A policy with automatic approvals -/

/-- A request to publish on the first revision, with approvals left to the automation. -/
def automaticRevisionRequest : PolicyRevisionRequest :=
  { manualRevisionRequest with
    approvalMode := .autoIfEligible
    acknowledgesHnr := true
    acknowledgesSeeding := true
    acknowledgesPlanOnly := true }

/-- The revision that it publishes. -/
def automaticRevision (effectiveFrom : DateTime) : AutomationPolicyRevision :=
  publishedRevision automaticRevisionRequest "admin"
    ⟨"00000000-0000-4000-8000-000000000001", publishedId_shape⟩ effectiveFrom (PolicyWorld.migratedPolicy 0)

/-- The database in which it is the current one. -/
def automaticDb (effectiveFrom : DateTime) : Db where
  revisions := ((∅ : Table AutomationPolicyRevision).save (PolicyWorld.migratedPolicy 0)).save
    (automaticRevision effectiveFrom)
  head := some publishedHead

theorem automaticDb_chain (effectiveFrom : DateTime) :
    PolicyChain (automaticDb effectiveFrom).toTables :=
  (PolicyWorld.Initial.migrated 0).chain.extend rfl rfl rfl rfl

/-- The database in which approvals were left to operators again, behind the program's back. -/
def alteredDb : Db where
  revisions :=
    ⟨[PolicyWorld.migratedPolicy 0, { automaticRevision 10 with approvalMode := .manual }],
      by decide +kernel⟩
  head := some publishedHead

/-- The policy cannot be read any more. -/
theorem getCurrentPolicy_altered_approvalMode :
    ∃ e, ((getCurrentPolicy ⟨"00000000-0000-4000-8000-000000000002", by decide⟩ 0).run
      alteredDb).1 = .error e := by
  have h : AlteredAt (automaticDb 10).toTables alteredDb.toTables (automaticRevision 10)
      { automaticRevision 10 with approvalMode := .manual } :=
    ⟨Table.mem_save_self _ _, by decide +kernel, rfl⟩
  exact (getCurrentPolicy_altered (automaticDb_chain 10) h (.approvalMode (by decide)) _ 0).mpr rfl

/-- **With the moment moved back** from which it is in effect, the policy is read as if nothing had
happened, and the gate of a request from before that moment opens. -/
theorem getCurrentPolicy_altered_effectiveFrom :
    PolicyChain (automaticDb 10).toTables ∧
      AlteredAt (automaticDb 10).toTables (automaticDb 0).toTables (automaticRevision 10)
        { automaticRevision 10 with effectiveFrom := 0 } ∧
      ((getCurrentPolicy ⟨"00000000-0000-4000-8000-000000000002", by decide⟩ 0).run
        (automaticDb 0)).1 = .ok (publishedHead, automaticRevision 0) ∧
      modeOutcome (automaticRevision 10) .approval 5 true =
        some (.stale, ["SUBJECT_PREDATES_POLICY"]) ∧
      modeOutcome (automaticRevision 0) .approval 5 true = none :=
  ⟨automaticDb_chain 10, ⟨Table.mem_save_self _ _, by decide +kernel, rfl⟩, by decide +kernel,
    by decide, by decide⟩

end LibSeek.ControlPlane
