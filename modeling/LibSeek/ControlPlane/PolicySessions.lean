/-
Sessions on the policy.

Any number of sessions read the policy and publish revisions beside each other.  A session first
reads the head.  Where it means to publish, the read takes the lock of the row, and waits for
whoever holds it; where there is no head, the session inserts the default policy, and waits for, or
fails on, whoever inserts it at the same time.  What a session has written is seen by the others
when it commits, which ends it and gives up its lock.

Main definitions:

* `ControlPlane.PolicyCall` — what a session does with the policy;
* `ControlPlane.PolicyPhase`, `ControlPlane.PolicyWorld` — how far the sessions have come;
* `ControlPlane.PolicyWorld.Step`, `ControlPlane.PolicyWorld.Reachable` — **the interleavings**;
* `ControlPlane.PolicySound` — the invariant of the interleavings;
* `ControlPlane.PolicyLaw` — what they guarantee.

Main results:

* `ControlPlane.PolicySound.step` — every step keeps the invariant;
* `ControlPlane.policyLaw_reachable` — **the chain and its head agree in every reachable state**, of
  the sessions that publish on one revision one succeeds at most, and the policy can be read.
-/

import LibSeek.ControlPlane.PolicyChain
import Mathlib.Logic.Relation

set_option relaxedAutoImplicit false
set_option autoImplicit false

namespace LibSeek.ControlPlane

open LibSeek.Core LibSeek.Lib LibSeek.Models LibSeek.Schemas LibSeek.Services Relation

/-! ### Sessions -/

/-- What a session does with the policy, with all that the outside supplies to it: it publishes a
revision, or it reads the policy, for an update or not. -/
inductive PolicyCall where
  | publish (request : PolicyRevisionRequest) (actor : String) (newIds : Uuid × Uuid)
      (clock : ℕ → DateTime)
  | read (forUpdate : Bool) (newId : Uuid) (now : DateTime)

namespace PolicyCall

/-- Whether the head is read with its lock. -/
def forUpdate : PolicyCall → Bool
  | publish .. => true
  | read forUpdate .. => forUpdate

/-- The default policy that a session inserts where there is none. -/
def defaultId : PolicyCall → Uuid
  | publish _ _ newIds _ => newIds.1
  | read _ newId _ => newId

def defaultNow : PolicyCall → DateTime
  | publish _ _ _ clock => clock 0
  | read _ _ now => now

/-- What a session does after it has read the policy. -/
def rest : PolicyCall → AutomationPolicyHead × AutomationPolicyRevision →
    DbTx (AutomationPolicyHead × AutomationPolicyRevision)
  | publish request actor newIds clock => publishOn request actor newIds.2 (clock 1)
  | read .. => pure

/-- A session that publishes on a base revision. -/
def Publishes (base : ℕ) : PolicyCall → Prop
  | publish request .. => request.baseRevisionNo = base
  | read .. => False

/-- Run in one piece, a session that publishes is `publish_policy_revision`. -/
theorem rest_publish (request : PolicyRevisionRequest) (actor : String) (newIds : Uuid × Uuid)
    (clock : ℕ → DateTime) :
    (getCurrentPolicy (publish request actor newIds clock).defaultId
        (publish request actor newIds clock).defaultNow >>=
      (publish request actor newIds clock).rest) =
        publishPolicyRevision request actor newIds clock :=
  rfl

end PolicyCall

/-- How far a session has come. -/
inductive PolicyPhase where
  /-- Nothing has been read. -/
  | start
  /-- There was no head. -/
  | missing
  /-- The insertion of the default policy failed on another one. -/
  | conflicted
  /-- The head has been read. -/
  | found (head : AutomationPolicyHead)
  /-- The default policy has been inserted, but not committed. -/
  | inserted
  /-- The session has committed, or rolled back. -/
  | ended (outcome : Except Exn (AutomationPolicyHead × AutomationPolicyRevision))

/-- What is left to do in a phase that ends in a commit. -/
def PolicyPhase.body (call : PolicyCall) :
    PolicyPhase → Option (DbTx (AutomationPolicyHead × AutomationPolicyRevision))
  | found head => some (bindHead head >>= call.rest)
  | inserted => some (bootstrapPolicy call.defaultId call.defaultNow >>= call.rest)
  | _ => none

/-- The error of a session that finds no head after its insertion failed. -/
def policyNotInitialized : Exn :=
  .app
    { errorCode := "AUTOMATION_POLICY_NOT_INITIALIZED"
      message := "自动化策略尚未完成初始化"
      statusCode := 503 }

/-- What is committed, who holds the row of the head, and the phases of the sessions. -/
structure PolicyWorld (τ : Type) where
  db : Db
  owner : Option τ
  phase : τ → PolicyPhase

namespace PolicyWorld

variable {τ : Type} [DecidableEq τ]

/-- The world in which a session has come to a phase. -/
def enter (w : PolicyWorld τ) (t : τ) (phase : PolicyPhase) : PolicyWorld τ :=
  { w with phase := Function.update w.phase t phase }

/-- Who holds the row of the head when a session has ended. -/
def release (w : PolicyWorld τ) (t : τ) : Option τ :=
  if w.owner = some t then none else w.owner

/-- A step of a session. -/
inductive SessionStep (calls : τ → PolicyCall) (t : τ) : PolicyWorld τ → PolicyWorld τ → Prop
  | lock {w : PolicyWorld τ} {head : AutomationPolicyHead}
      (hphase : w.phase t = .start ∨ w.phase t = .conflicted)
      (hcall : (calls t).forUpdate = true) (howner : w.owner = none)
      (hhead : w.db.head = some head) :
      SessionStep calls t w { w.enter t (.found head) with owner := some t }
  | look {w : PolicyWorld τ} {head : AutomationPolicyHead}
      (hphase : w.phase t = .start ∨ w.phase t = .conflicted)
      (hcall : (calls t).forUpdate = false) (hhead : w.db.head = some head) :
      SessionStep calls t w (w.enter t (.found head))
  | miss {w : PolicyWorld τ} (hphase : w.phase t = .start) (hhead : w.db.head = none) :
      SessionStep calls t w (w.enter t .missing)
  | insert {w : PolicyWorld τ} (hphase : w.phase t = .missing) (howner : w.owner = none)
      (hhead : w.db.head = none)
      (hnew : revisionIsNew w.db.toTables
        (newDefaultPolicy (calls t).defaultId (calls t).defaultNow) = true) :
      SessionStep calls t w { w.enter t .inserted with owner := some t }
  | conflict {w : PolicyWorld τ} (hphase : w.phase t = .missing)
      (hold : w.db.head ≠ none ∨ revisionIsNew w.db.toTables
        (newDefaultPolicy (calls t).defaultId (calls t).defaultNow) = false) :
      SessionStep calls t w (w.enter t .conflicted)
  | notInitialized {w : PolicyWorld τ} (hphase : w.phase t = .conflicted)
      (hhead : w.db.head = none) :
      SessionStep calls t w (w.enter t (.ended (.error policyNotInitialized)))
  | finish {w : PolicyWorld τ} {body : DbTx (AutomationPolicyHead × AutomationPolicyRevision)}
      (hbody : (w.phase t).body (calls t) = some body) :
      SessionStep calls t w
        { w.enter t (.ended (Tx.commit body w.db).1) with
          db := (Tx.commit body w.db).2, owner := w.release t }
  | rollback {w : PolicyWorld τ} (hphase : ∀ outcome, w.phase t ≠ .ended outcome) :
      SessionStep calls t w
        { w.enter t (.ended (.error (.other "RolledBack"))) with owner := w.release t }

/-- A step: of a session, or of somebody who changes the other tables. -/
inductive Step (calls : τ → PolicyCall) : PolicyWorld τ → PolicyWorld τ → Prop
  | session {w w' : PolicyWorld τ} (t : τ) (h : SessionStep calls t w w') : Step calls w w'
  | other {w : PolicyWorld τ} {db : Db} (hrevisions : db.revisions = w.db.revisions)
      (hhead : db.head = w.db.head) : Step calls w { w with db := db }

/-- The policy that the migration of the schema inserts. -/
def migratedPolicy (now : DateTime) : AutomationPolicyRevision :=
  { newDefaultPolicy ⟨"00000000-0000-0000-0000-000000000008", by decide⟩ now with
    createdBy := "system:migration" }

/-- The databases that the program is started on: an empty one, or one in which the migration has
inserted the default policy. -/
inductive Initial : Db → Prop
  | empty : Initial {}
  | migrated (now : DateTime) :
      Initial
        { revisions := (∅ : Table AutomationPolicyRevision).save (migratedPolicy now)
          head := some { currentRevisionId := (migratedPolicy now).id, version := 1 } }

/-- **The worlds that the sessions can reach**, in any interleaving of their steps. -/
def Reachable (calls : τ → PolicyCall) (w : PolicyWorld τ) : Prop :=
  ∃ db, Initial db ∧
    ReflTransGen (Step calls) { db := db, owner := none, phase := fun _ => .start } w

end PolicyWorld

/-! ### The invariant -/

/-- The errors that say that the stored policy is not sound. -/
def PolicyBroken (e : Exn) : Prop :=
  e.errorCode? = some "AUTOMATION_POLICY_NOT_INITIALIZED" ∨
    e.errorCode? = some "AUTOMATION_POLICY_HEAD_INVALID" ∨
    e.errorCode? = some "AUTOMATION_POLICY_TAMPERED" ∨
    e.errorCode? = some "AUTOMATION_POLICY_CHAIN_INVALID"

theorem PublishRefused.not_broken {e : Exn} (h : PublishRefused e) : ¬ PolicyBroken e := by
  unfold PolicyBroken
  rcases h with h | h | rfl
  · rw [h]
    decide
  · rw [h]
    decide
  · decide

section

variable {τ : Type}

/-- What holds of a session in its phase. -/
def PhaseSound (call : PolicyCall) (t : τ) (owner : Option τ) (db : Db) : PolicyPhase → Prop
  | .start => True
  | .missing => True
  | .conflicted => db.head ≠ none
  | .found head =>
      (∃ r ∈ db.revisions, r.id = head.currentRevisionId ∧ r.revisionNo = head.version) ∧
        (call.forUpdate = true → owner = some t ∧ db.head = some head)
  | .inserted => owner = some t ∧ db.head = none
  | .ended (.ok p) => ∀ base, call.Publishes base → p.2 ∈ db.revisions ∧ p.2.revisionNo = base + 1
  | .ended (.error e) => ¬ PolicyBroken e

/-- What the others do leaves it alone: they lose no revision and no head, and touch no head whose
row the session holds. -/
theorem PhaseSound.stable {call : PolicyCall} {t : τ} {owner owner' : Option τ} {db db' : Db}
    {phase : PolicyPhase} (h : PhaseSound call t owner db phase)
    (hrows : ∀ r ∈ db.revisions, r ∈ db'.revisions) (hhead : db.head ≠ none → db'.head ≠ none)
    (howner : owner = some t → owner' = some t ∧ db'.head = db.head) :
    PhaseSound call t owner' db' phase := by
  cases phase with
  | start => trivial
  | missing => trivial
  | conflicted => exact hhead h
  | found head =>
      obtain ⟨⟨r, hr, hid, hversion⟩, hlocked⟩ := h
      refine ⟨⟨r, hrows r hr, hid, hversion⟩, fun hcall => ?_⟩
      obtain ⟨ht, hcurrent⟩ := hlocked hcall
      obtain ⟨ht', hsame⟩ := howner ht
      exact ⟨ht', hsame.trans hcurrent⟩
  | inserted =>
      obtain ⟨ht', hsame⟩ := howner h.1
      exact ⟨ht', hsame.trans h.2⟩
  | ended outcome =>
      cases outcome with
      | ok p =>
          intro base hbase
          obtain ⟨hmem, hnumber⟩ := h base hbase
          exact ⟨hrows p.2 hmem, hnumber⟩
      | error e => exact h

/-- **The invariant of the interleavings.** -/
structure PolicySound (calls : τ → PolicyCall) (w : PolicyWorld τ) : Prop where
  chain : PolicyChain w.db.toTables
  phases : ∀ t, PhaseSound (calls t) t w.owner w.db (w.phase t)
  distinct : ∀ t t' base, t ≠ t' → (calls t).Publishes base → (calls t').Publishes base →
    ∀ p p', w.phase t = .ended (.ok p) → w.phase t' = .ended (.ok p') → False

end

/-! ### What a session commits -/

section

variable {db : Db}

/-- What the commit of a session leaves behind. -/
structure Committed (call : PolicyCall) (db : Db)
    (p : AutomationPolicyHead × AutomationPolicyRevision) (db' : Db) : Prop where
  chain : PolicyChain db'.toTables
  rows : ∀ r ∈ db.revisions, r ∈ db'.revisions
  head : db'.head ≠ none
  published : ∀ base, call.Publishes base →
    p.2 ∈ db'.revisions ∧ p.2.revisionNo = base + 1 ∧
      ∀ r ∈ db.revisions, r.revisionNo ≠ base + 1

/-- A chain with a revision has a head. -/
theorem PolicyChain.head_ne_none (hs : PolicyChain db.toTables) {r : AutomationPolicyRevision}
    (hr : r ∈ db.revisions) : db.head ≠ none := by
  intro hnone
  have hrows : db.revisions.rows = [] := hs.bootstrapped hnone
  rw [← Table.mem_rows, hrows] at hr
  exact List.not_mem_nil hr

/-- What a session does with the policy that it has read. -/
theorem wp_rest (call : PolicyCall) (hs : PolicyChain db.toTables) {head : AutomationPolicyHead}
    {r : AutomationPolicyRevision} (hr : r ∈ db.revisions) (hid : r.id = head.currentRevisionId)
    (hlocked : call.forUpdate = true → db.head = some head) :
    Tx.wp (call.rest (head, r))
      (fun p db' => Committed call db p db' ∧ (call.forUpdate = true ∨ db' = db))
      (fun e _ => ¬ PolicyBroken e) db := by
  cases call with
  | publish request actor newIds clock =>
      refine Tx.wp_mono (hs.wp_publishOn (hlocked rfl) hr hid request actor newIds.2 (clock 1))
        (fun p db' h => ?_) fun e _ h => h.not_broken
      obtain ⟨hchain, hhead, hbase, hrows, hnumber, -⟩ := h
      have hmem : p.2 ∈ db'.revisions := by
        rw [← Table.mem_rows, hrows]
        exact List.mem_append_right _ (List.mem_singleton_self _)
      have hkept : ∀ x ∈ db.revisions, x ∈ db'.revisions := by
        intro x hx
        rw [← Table.mem_rows, hrows]
        exact List.mem_append_left _ hx
      refine ⟨⟨hchain, hkept, by rw [hhead]; simp, fun base hbase' => ?_⟩, Or.inl rfl⟩
      obtain rfl : base = db.revisions.rows.length := hbase'.symm.trans hbase
      exact ⟨hmem, hnumber, hs.number_new⟩
  | read =>
      exact ⟨⟨hs, fun _ h => h, hs.head_ne_none hr, fun _ h => False.elim h⟩, Or.inr rfl⟩

/-- **What is left to do** of a session whose phase is sound. -/
theorem wp_body {τ : Type} {call : PolicyCall} {t : τ} {owner : Option τ} {phase : PolicyPhase}
    {body : DbTx (AutomationPolicyHead × AutomationPolicyRevision)}
    (hs : PolicyChain db.toTables) (hphase : PhaseSound call t owner db phase)
    (hbody : phase.body call = some body) :
    Tx.wp body (fun p db' => Committed call db p db' ∧ (owner = some t ∨ db' = db))
      (fun e _ => ¬ PolicyBroken e) db := by
  cases phase with
  | found head =>
      obtain rfl := Option.some.inj hbody
      obtain ⟨⟨r, hr, hid, hversion⟩, hlocked⟩ := hphase
      simp only [Tx.wp_bind]
      refine Tx.wp_mono (hs.wp_bindHead hr hid hversion) (fun p db' h => ?_)
        fun _ _ h => False.elim h
      obtain ⟨rfl, rfl⟩ := h
      refine Tx.wp_mono (wp_rest call hs hr hid fun hcall => (hlocked hcall).2)
        (fun p db'' h => ⟨h.1, ?_⟩) fun _ _ h => h
      exact h.2.imp (fun hcall => (hlocked hcall).1) id
  | inserted =>
      obtain rfl := Option.some.inj hbody
      obtain ⟨howner, hhead⟩ := hphase
      have hempty : ∀ x, ¬ x ∈ db.revisions := fun x hx => hs.head_ne_none hx hhead
      simp only [Tx.wp_bind]
      refine Tx.wp_mono (hs.wp_bootstrapPolicy hhead call.defaultId call.defaultNow)
        (fun p db' h => ?_) fun _ _ h => False.elim h
      obtain ⟨hs', hhead', hr, hid, -, -, -⟩ := h
      refine Tx.wp_mono (wp_rest call hs' hr hid fun _ => hhead')
        (fun p db'' h => ⟨?_, Or.inl howner⟩) fun _ _ h => h
      exact
        { chain := h.1.chain
          rows := fun x hx => absurd hx (hempty x)
          head := h.1.head
          published := fun base hbase =>
            ⟨(h.1.published base hbase).1, (h.1.published base hbase).2.1,
              fun x hx => absurd hx (hempty x)⟩ }
  | _ => cases hbody

end

/-! ### Steps -/

section

variable {τ : Type} [DecidableEq τ] {calls : τ → PolicyCall} {w w' : PolicyWorld τ}

theorem PolicyWorld.release_of_ne {t t' : τ} (h : w.owner = some t') (hne : t' ≠ t) :
    w.release t = some t' := by
  have : ¬ w.owner = some t := fun ht => hne (Option.some.inj (h.symm.trans ht))
  rw [PolicyWorld.release, if_neg this, h]

/-- A step that leaves the database alone, takes nobody's row and ends no session well keeps the
invariant, where the session's new phase is sound. -/
theorem PolicySound.enter (hw : PolicySound calls w) {t : τ} {phase : PolicyPhase}
    (owner : Option τ) (howner : ∀ t', t' ≠ t → w.owner = some t' → owner = some t')
    (hphase : PhaseSound (calls t) t owner w.db phase) (hend : ∀ p, phase ≠ .ended (.ok p)) :
    PolicySound calls { w.enter t phase with owner := owner } where
  chain := hw.chain
  phases t' := by
    by_cases htt : t' = t
    · subst htt
      simpa [PolicyWorld.enter] using hphase
    · have hstable : PhaseSound (calls t') t' owner w.db (w.phase t') :=
        (hw.phases t').stable (fun _ h => h) id fun ht' => ⟨howner t' htt ht', rfl⟩
      simpa [PolicyWorld.enter, htt] using hstable
  distinct t₁ t₂ base hne h₁ h₂ p₁ p₂ hp₁ hp₂ := by
    have hold : ∀ (t' : τ) p, Function.update w.phase t phase t' = .ended (.ok p) →
        w.phase t' = .ended (.ok p) := by
      intro t' p hp
      by_cases htt : t' = t
      · subst htt
        rw [Function.update_self] at hp
        exact absurd hp (hend p)
      · rwa [Function.update_of_ne htt] at hp
    exact hw.distinct t₁ t₂ base hne h₁ h₂ p₁ p₂ (hold t₁ p₁ hp₁) (hold t₂ p₂ hp₂)

/-- The end of a session that has committed keeps the invariant. -/
theorem PolicySound.commit (hw : PolicySound calls w) {t : τ} {db' : Db}
    {p : AutomationPolicyHead × AutomationPolicyRevision}
    (hc : Committed (calls t) w.db p db') (howner : w.owner = some t ∨ db' = w.db) :
    PolicySound calls
      { w.enter t (.ended (.ok p)) with db := db', owner := w.release t } where
  chain := hc.chain
  phases t' := by
    by_cases htt : t' = t
    · subst htt
      simp only [PolicyWorld.enter, Function.update_self]
      exact fun base hbase => ⟨(hc.published base hbase).1, (hc.published base hbase).2.1⟩
    · have hstable : PhaseSound (calls t') t' (w.release t) db' (w.phase t') := by
        refine (hw.phases t').stable hc.rows (fun _ => hc.head) fun ht' =>
          ⟨PolicyWorld.release_of_ne ht' htt, ?_⟩
        -- whoever holds the row is not the session that changed something
        rcases howner with ht | rfl
        · exact absurd (Option.some.inj (ht'.symm.trans ht)) htt
        · rfl
      simpa [PolicyWorld.enter, htt] using hstable
  distinct t₁ t₂ base hne h₁ h₂ p₁ p₂ hp₁ hp₂ := by
    -- whoever has published on the base before has stored the number that would be published
    have hnone : ∀ t', t' ≠ t → (calls t').Publishes base → (calls t).Publishes base →
        ∀ p', w.phase t' = .ended (.ok p') → False := by
      intro t' _ hbase' hbase p' hp'
      have hsound := hw.phases t'
      rw [hp'] at hsound
      obtain ⟨hmem, hnumber⟩ := hsound base hbase'
      exact (hc.published base hbase).2.2 p'.2 hmem hnumber
    simp only [PolicyWorld.enter] at hp₁ hp₂
    by_cases ht₁ : t₁ = t
    · subst ht₁
      rw [Function.update_of_ne (Ne.symm hne)] at hp₂
      exact hnone t₂ (Ne.symm hne) h₂ h₁ p₂ hp₂
    · rw [Function.update_of_ne ht₁] at hp₁
      by_cases ht₂ : t₂ = t
      · subst ht₂
        exact hnone t₁ ht₁ h₁ h₂ p₁ hp₁
      · rw [Function.update_of_ne ht₂] at hp₂
        exact hw.distinct t₁ t₂ base hne h₁ h₂ p₁ p₂ hp₁ hp₂

/-- **Every step keeps the invariant.** -/
theorem PolicySound.step (hw : PolicySound calls w) (h : PolicyWorld.Step calls w w') :
    PolicySound calls w' := by
  cases h with
  | other hrevisions hhead =>
      refine ⟨hw.chain.congr hrevisions hhead, fun t => ?_, hw.distinct⟩
      exact (hw.phases t).stable (by rw [hrevisions]; exact fun _ h => h)
        (by rw [hhead]; exact id) fun ht => ⟨ht, hhead⟩
  | session t h =>
      cases h with
      | @lock head hphase hcall howner hhead =>
          refine hw.enter (some t) (fun t' _ ht' => ?_) ?_ fun p hp => by cases hp
          · rw [howner] at ht'
            cases ht'
          · obtain ⟨r, hlast, hid, hversion⟩ := hw.chain.pointed head hhead
            exact ⟨⟨r, List.mem_of_getLast? hlast, hid, hversion⟩, fun _ => ⟨rfl, hhead⟩⟩
      | @look head hphase hcall hhead =>
          refine hw.enter w.owner (fun _ _ ht' => ht') ?_ fun p hp => by cases hp
          obtain ⟨r, hlast, hid, hversion⟩ := hw.chain.pointed head hhead
          refine ⟨⟨r, List.mem_of_getLast? hlast, hid, hversion⟩, fun hlocked => ?_⟩
          rw [hcall] at hlocked
          cases hlocked
      | miss hphase hhead =>
          exact hw.enter w.owner (fun _ _ ht' => ht') trivial fun p hp => by cases hp
      | insert hphase howner hhead hnew =>
          refine hw.enter (some t) (fun t' _ ht' => ?_) ⟨rfl, hhead⟩ fun p hp => by cases hp
          rw [howner] at ht'
          cases ht'
      | conflict hphase hold =>
          refine hw.enter w.owner (fun _ _ ht' => ht') ?_ fun p hp => by cases hp
          -- without a head there is no revision that the default policy could collide with
          rcases hold with hhead | hold
          · exact hhead
          · intro hnone
            have hnew : revisionIsNew w.db.toTables
                (newDefaultPolicy (calls t).defaultId (calls t).defaultNow) = true :=
              revisionIsNew_iff.mpr ⟨Table.get?_eq_none.mpr fun r hr =>
                absurd hnone (hw.chain.head_ne_none hr), fun r hr =>
                absurd hnone (hw.chain.head_ne_none hr)⟩
            rw [hnew] at hold
            cases hold
      | notInitialized hphase hhead =>
          have hsound := hw.phases t
          rw [hphase] at hsound
          exact absurd hhead hsound
      | @finish body hbody =>
          have hwp := wp_body hw.chain (hw.phases t) hbody
          rcases Tx.commit_wp hwp with ⟨p, hok, hc, howner⟩ | ⟨e, _, herror, hsame, hbroken⟩
          · rw [hok]
            exact hw.commit hc howner
          · rw [herror, hsame]
            exact hw.enter (w.release t) (fun t' htt ht' => PolicyWorld.release_of_ne ht' htt)
              hbroken fun p hp => by cases hp
      | rollback hphase =>
          refine hw.enter (w.release t) (fun t' htt ht' => PolicyWorld.release_of_ne ht' htt) ?_
            fun p hp => by cases hp
          change ¬ PolicyBroken (.other "RolledBack")
          unfold PolicyBroken
          decide

/-! ### Reachable worlds -/

/-- The databases that the program is started on have a chain. -/
theorem PolicyWorld.Initial.chain {db : Db} (h : PolicyWorld.Initial db) :
    PolicyChain db.toTables := by
  cases h with
  | empty => exact PolicyChain.empty
  | migrated now =>
      have hnew : ({} : Tables).revisions.get? (PolicyWorld.migratedPolicy now).id = none := rfl
      exact PolicyChain.empty.extend hnew rfl rfl rfl

/-- **Every reachable world is sound.** -/
theorem PolicyWorld.Reachable.sound (h : PolicyWorld.Reachable calls w) : PolicySound calls w := by
  obtain ⟨db, hinitial, hrun⟩ := h
  induction hrun with
  | refl =>
      exact ⟨hinitial.chain, fun _ => trivial, fun _ _ _ _ _ _ p _ hp _ => by cases hp⟩
  | tail _ hlast ih => exact ih.step hlast

/-- What the sessions on the policy are guaranteed. -/
structure PolicyLaw (calls : τ → PolicyCall) (w : PolicyWorld τ) : Prop where
  /-- The revisions are numbered from one without gap or repetition. -/
  numbers : w.db.revisions.rows.map (·.revisionNo) = List.range' 1 w.db.revisions.rows.length
  /-- Each has the hash of the one before it, -/
  links : ∀ (i : ℕ) p r, w.db.revisions.rows[i]? = some p →
    w.db.revisions.rows[i + 1]? = some r → r.previousPolicyHash = some p.policyHash
  /-- and the first one has none. -/
  first : ∀ r, w.db.revisions.rows[0]? = some r → r.previousPolicyHash = none
  /-- The head points to the last one, and its version is the number of revisions. -/
  head : ∀ head, w.db.head = some head → ∃ r, w.db.revisions.rows.getLast? = some r ∧
    r.id = head.currentRevisionId ∧ head.version = w.db.revisions.rows.length
  /-- Without a head there are no revisions. -/
  headless : w.db.head = none → w.db.revisions.rows = []
  /-- Of the sessions that publish on one base, one succeeds at most. -/
  once : ∀ t t' base, t ≠ t' → (calls t).Publishes base → (calls t').Publishes base →
    ∀ p p', w.phase t = .ended (.ok p) → w.phase t' = .ended (.ok p') → False
  /-- A step of a session that does not end it well changes nothing. -/
  unchanged : ∀ t w', PolicyWorld.SessionStep calls t w w' →
    (∀ p, w'.phase t ≠ .ended (.ok p)) → w'.db = w.db
  /-- The loop of the verification ends at every revision. -/
  verification : ∀ r, verifyTurns w.db.toTables (w.db.revisions.rows.length + 2) [] r =
    some (verifyPolicyRevision w.db.toTables r)
  /-- The policy can be read, -/
  read : ∀ (newId : Uuid) (now : DateTime), ∃ p db',
    (getCurrentPolicy newId now).run w.db = (.ok p, db')
  /-- and no session fails because it could not. -/
  sessions : ∀ t e, w.phase t = .ended (.error e) → ¬ PolicyBroken e

/-- Where the stored revisions form a chain, the policy can be read. -/
theorem PolicyChain.getCurrentPolicy {db : Db} (hs : PolicyChain db.toTables) (newId : Uuid)
    (now : DateTime) : ∃ p db', (getCurrentPolicy newId now).run db = (.ok p, db') := by
  have hrun : (Services.getCurrentPolicy newId now).run db = _ := getCurrentPolicy_eq newId now db
  rw [hrun]
  cases hhead : db.head with
  | none =>
      obtain ⟨p, db', hok, -⟩ := (hs.wp_bootstrapPolicy hhead newId now).exists_ok
      exact ⟨p, db', hok⟩
  | some head =>
      obtain ⟨r, hlast, hid, hversion⟩ := hs.pointed head hhead
      obtain ⟨p, db', hok, -⟩ :=
        (hs.wp_bindHead (List.mem_of_getLast? hlast) hid hversion).exists_ok
      exact ⟨p, db', hok⟩

/-- A step of a session that does not end it well leaves the database as it was. -/
theorem PolicySound.unchanged (hw : PolicySound calls w) {t : τ}
    (h : PolicyWorld.SessionStep calls t w w') (hend : ∀ p, w'.phase t ≠ .ended (.ok p)) :
    w'.db = w.db := by
  cases h with
  | @finish body hbody =>
      rcases Tx.commit_wp (wp_body hw.chain (hw.phases t) hbody) with
        ⟨p, hok, -⟩ | ⟨_, _, -, hsame, -⟩
      · refine absurd ?_ (hend p)
        simp [PolicyWorld.enter, hok]
      · exact hsame
  | _ => rfl

/-- **The policy under any interleaving of its sessions.** -/
theorem policyLaw_reachable (h : PolicyWorld.Reachable calls w) : PolicyLaw calls w :=
  have hw := h.sound
  { numbers := hw.chain.linked.map_number
    links := fun _ _ _ hp hr => hw.chain.linked.previous_of_getElem? hp hr
    first := fun _ hr => hw.chain.linked.previous_of_getElem?_zero hr
    head := fun head hhead => by
      obtain ⟨r, hlast, hget, hversion, hlength⟩ := hw.chain.current hhead
      exact ⟨r, hlast, Table.key_of_get?_eq_some hget, hversion.trans hlength⟩
    headless := hw.chain.bootstrapped
    once := hw.distinct
    unchanged := fun _ _ hstep hend => hw.unchanged hstep hend
    verification := verifyTurns_isSome w.db.toTables
    read := hw.chain.getCurrentPolicy
    sessions := fun t e he => by
      have hsound := hw.phases t
      rw [he] at hsound
      exact hsound }

end

/-! ### Two sessions -/

/-- A request to publish on the first revision, with every stage left to operators. -/
def manualRevisionRequest : PolicyRevisionRequest where
  baseRevisionNo := 1
  identityMode := .manual
  torrentSelectionMode := .manual
  approvalMode := .manual
  executionMode := .manual
  identityMinScore := 1 / 2
  identityMinMargin := 1 / 10
  torrentMinScore := 3 / 4
  torrentMinMargin := 1 / 10
  torrentMinSeeders := 1
  acknowledgesHnr := false
  acknowledgesSeeding := false
  acknowledgesPlanOnly := false
  acknowledgesAddPausedOnly := false

theorem publishedId_shape : "00000000-0000-4000-8000-000000000001".toList.length = 36 ∧
    "00000000-0000-4000-8000-000000000001".toList.all (fun c =>
      ('0' ≤ c && c ≤ '9') || ('a' ≤ c && c ≤ 'f') || c == '-') = true := by
  decide

/-- Two sessions that publish it. -/
def twoPublishers (second : Bool) : PolicyCall :=
  .publish manualRevisionRequest "admin"
    (⟨"00000000-0000-4000-8000-000000000000", by decide⟩,
      if second then ⟨"00000000-0000-4000-8000-000000000002", by decide⟩
      else ⟨"00000000-0000-4000-8000-000000000001", publishedId_shape⟩) fun _ => 0

/-- The world in which nobody has read the policy that the migration has inserted. -/
def migratedWorld : PolicyWorld Bool where
  db :=
    { revisions := (∅ : Table AutomationPolicyRevision).save (PolicyWorld.migratedPolicy 0)
      head := some { currentRevisionId := (PolicyWorld.migratedPolicy 0).id, version := 1 } }
  owner := none
  phase _ := .start

/-- The world after a session has read the head with its lock. -/
def PolicyWorld.locked (w : PolicyWorld Bool) (t : Bool) (head : AutomationPolicyHead) :
    PolicyWorld Bool :=
  { w.enter t (.found head) with owner := some t }

/-- The world after a session that has read the head has ended. -/
def PolicyWorld.finished (w : PolicyWorld Bool) (t : Bool) (head : AutomationPolicyHead) :
    PolicyWorld Bool :=
  let outcome := Tx.commit (bindHead head >>= (twoPublishers t).rest) w.db
  { w.enter t (.ended outcome.1) with db := outcome.2, owner := w.release t }

/-- The head before and after the first of them has published. -/
def migratedHead : AutomationPolicyHead where
  currentRevisionId := "00000000-0000-0000-0000-000000000008"
  version := 1

def publishedHead : AutomationPolicyHead where
  currentRevisionId := "00000000-0000-4000-8000-000000000001"
  version := 2

/-- The world after one session has published, and the other one has found that it has. -/
def publishedWorld : PolicyWorld Bool :=
  (((migratedWorld.locked false migratedHead).finished false migratedHead).locked true
    publishedHead).finished true publishedHead

theorem publishedWorld_reachable : PolicyWorld.Reachable twoPublishers publishedWorld := by
  refine ⟨_, .migrated 0, ?_⟩
  have hlock : PolicyWorld.Step twoPublishers migratedWorld
      (migratedWorld.locked false migratedHead) :=
    .session false (.lock (.inl rfl) rfl rfl rfl)
  have hfinish : PolicyWorld.Step twoPublishers (migratedWorld.locked false migratedHead)
      ((migratedWorld.locked false migratedHead).finished false migratedHead) :=
    .session false (.finish rfl)
  have hlock' : PolicyWorld.Step twoPublishers
      ((migratedWorld.locked false migratedHead).finished false migratedHead)
      (((migratedWorld.locked false migratedHead).finished false migratedHead).locked true
        publishedHead) :=
    .session true (.lock (.inl rfl) rfl rfl (by decide +kernel))
  have hfinish' : PolicyWorld.Step twoPublishers
      (((migratedWorld.locked false migratedHead).finished false migratedHead).locked true
        publishedHead) publishedWorld :=
    .session true (.finish rfl)
  exact (((ReflTransGen.single hlock).tail hfinish).tail hlock').tail hfinish'

/-- The one has published the second revision, the other one nothing. -/
theorem policyLaw_publishedWorld :
    publishedWorld.db.revisions.rows.length = 2 ∧ PolicyLaw twoPublishers publishedWorld :=
  ⟨by decide +kernel, policyLaw_reachable publishedWorld_reachable⟩

end LibSeek.ControlPlane
