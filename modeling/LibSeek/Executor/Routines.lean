/-
Routines that keep to the discipline.

Almost everything that an executor does is quiet: it writes neither an admission nor the request that
adds a torrent, and it leaves the flag alone that tells whether that request may have been sent.  The
rules of this module say how quiet routines are built of each other.

Main definitions:

* `Executor.Kept` — what a quiet routine leaves as it was;
* `Executor.Quiet`, `Executor.Still` — **a quiet routine**, with what it needs and provides of the
  log, and one without.

Main results:

* `Executor.Quiet.bind` and its companions — one rule for each way to build a routine;
* `Executor.wp_transact`, `Executor.quiet_transact`, `Executor.quiet_record` — the rules of the
  atomic steps.
-/

import LibSeek.Executor.Discipline

set_option relaxedAutoImplicit false
set_option autoImplicit false

namespace LibSeek.Executor

open LibSeek.Core LibSeek.Lib LibSeek.Models LibSeek.Schemas LibSeek.Services LibSeek.Workers
open LibSeek.Adapters LibSeek.ControlPlane

variable [Python] [TorrentCodec] {t : Uuid} {flag : Bool} {α β : Type}

/-! ### What is left as it was -/

omit [Python] [TorrentCodec] in
/-- A fact about the log that entries do not undo. -/
def Grows (A : List Workers.Event → Prop) : Prop :=
  ∀ log log', log <+: log' → A log → A log'

omit [Python] [TorrentCodec] in
theorem grows_true : Grows fun _ => True :=
  fun _ _ _ h => h

omit [Python] [TorrentCodec] in
theorem Grows.and {A B : List Workers.Event → Prop} (hA : Grows A) (hB : Grows B) :
    Grows fun log => A log ∧ B log :=
  fun log log' hbegins h => ⟨hA log log' hbegins h.1, hB log log' hbegins h.2⟩

omit [Python] [TorrentCodec] in
/-- What a quiet routine leaves as it was: the entries of the log, the marks of the executor, and
the flag. -/
structure Kept (t : Uuid) (m : ClaimMemory) (w : World) (m' : ClaimMemory) (w' : World) : Prop where
  log : w.log <+: w'.log
  marks : marks t w'.log = marks t w.log
  flag : m'.torrentAddMayHaveOccurred = m.torrentAddMayHaveOccurred

omit [Python] [TorrentCodec] in
theorem Kept.refl (t : Uuid) (m : ClaimMemory) (w : World) : Kept t m w m w where
  log := List.prefix_refl _
  marks := rfl
  flag := rfl

omit [Python] [TorrentCodec] in
theorem Kept.trans {m m' m'' : ClaimMemory} {w w' w'' : World} (h : Kept t m w m' w')
    (h' : Kept t m' w' m'' w'') : Kept t m w m'' w'' where
  log := h.log.trans h'.log
  marks := h'.marks.trans h.marks
  flag := h'.flag.trans h.flag

/-- **A quiet routine** of the executor `t`, with the flag as it is, from a fact about the log to a
fact about its value and the log. -/
def Quiet (t : Uuid) (flag : Bool) (A : List Workers.Event → Prop) (r : Work α)
    (P : α → List Workers.Event → Prop) : Prop :=
  ∀ m w, m.torrentAddMayHaveOccurred = flag → (flag = false → marks t w.log = []) → A w.log →
    Routine.wp executors t r (fun a m' w' => Kept t m w m' w' ∧ P a w'.log)
      (fun _ m' w' => Kept t m w m' w') m w

/-- A quiet routine that needs and provides nothing. -/
def Still (t : Uuid) (flag : Bool) (r : Work α) : Prop :=
  Quiet t flag (fun _ => True) r fun _ _ => True

/-! ### Building quiet routines -/

section Rules

variable {A B : List Workers.Event → Prop} {P Q : α → List Workers.Event → Prop} {r : Work α}

theorem Quiet.mono (h : Quiet t flag A r P) (hA : ∀ log, B log → A log)
    (hP : ∀ a log, P a log → Q a log) : Quiet t flag B r Q := by
  intro m w hflag hmarks hB
  exact Routine.wp_mono (h m w hflag hmarks (hA _ hB)) (fun a _ w' h => ⟨h.1, hP a _ h.2⟩)
    fun _ _ _ h => h

/-- **The frame rule**: what entries do not undo is still so afterwards. -/
theorem Quiet.frame (h : Quiet t flag A r P) (hB : Grows B) :
    Quiet t flag (fun log => A log ∧ B log) r fun a log => P a log ∧ B log := by
  intro m w hflag hmarks hAB
  exact Routine.wp_mono (h m w hflag hmarks hAB.1)
    (fun a _ w' h => ⟨h.1, h.2, hB _ _ h.1.log hAB.2⟩) fun _ _ _ h => h

/-- The frame rule for a routine that needs nothing. -/
theorem Quiet.carry (h : Quiet t flag (fun _ => True) r P) (hB : Grows B) :
    Quiet t flag B r fun a log => P a log ∧ B log :=
  (h.frame hB).mono (fun _ h => ⟨trivial, h⟩) fun _ _ h => h

/-- A routine that needs and provides nothing keeps what entries do not undo. -/
theorem Still.keeps (h : Still t flag r) (hB : Grows B) : Quiet t flag B r fun _ => B :=
  (Quiet.frame h hB).mono (fun _ h => ⟨trivial, h⟩) fun _ _ h => h.2

theorem quiet_pure {a : α} (h : ∀ log, A log → P a log) : Quiet t flag A (pure a : Work α) P :=
  fun m w _ _ hA => ⟨Kept.refl t m w, h _ hA⟩

theorem quiet_raise {e : Exn} : Quiet t flag A (Routine.raise e : Work α) P :=
  fun m w _ _ _ => Kept.refl t m w

/-- **The rule of sequences.** -/
theorem Quiet.bind {f : β → Work α} {s : Work β} {S : β → List Workers.Event → Prop}
    (h : Quiet t flag A s S) (hf : ∀ b, Quiet t flag (S b) (f b) P) :
    Quiet t flag A (s >>= f) P := by
  intro m w hflag hmarks hA
  refine (Routine.wp_bind s f).mpr (Routine.wp_mono (h m w hflag hmarks hA) ?_ fun _ _ _ h => h)
  rintro b m' w' ⟨hkept, hS⟩
  refine Routine.wp_mono (hf b m' w' (hkept.flag.trans hflag) ?_ hS) ?_ ?_
  · exact fun hfalse => hkept.marks.trans (hmarks hfalse)
  · exact fun a m'' w'' h => ⟨hkept.trans h.1, h.2⟩
  · exact fun e m'' w'' h => hkept.trans h

/-- What follows a quiet routine is run with the flag and the marks as they were. -/
theorem Quiet.wp_bind {f : β → Work α} {s : Work β} {S : β → List Workers.Event → Prop}
    {m : ClaimMemory} {w : World} (h : Quiet t flag A s S) (hflag : m.torrentAddMayHaveOccurred = flag)
    (hmarks : flag = false → marks t w.log = []) (hA : A w.log)
    (hf : ∀ b m' w', m'.torrentAddMayHaveOccurred = flag → (flag = false → marks t w'.log = []) →
      S b w'.log →
        Routine.wp executors t (f b) (fun _ _ _ => True) (fun _ _ _ => True) m' w') :
    Routine.wp executors t (s >>= f) (fun _ _ _ => True) (fun _ _ _ => True) m w := by
  refine (Routine.wp_bind s f).mpr (Routine.wp_mono (h m w hflag hmarks hA) ?_ fun _ _ _ _ => trivial)
  rintro b m' w' ⟨hkept, hS⟩
  exact hf b m' w' (hkept.flag.trans hflag) (fun hfalse => hkept.marks.trans (hmarks hfalse)) hS

/-- The rule of handlers, which know nothing of what was done before the exception. -/
theorem Quiet.handle {s : Work α} {f : Exn → Work α} (h : Quiet t flag A s P)
    (hf : ∀ e, Quiet t flag (fun _ => True) (f e) P) : Quiet t flag A (Routine.handle s f) P := by
  intro m w hflag hmarks hA
  refine (Routine.wp_handle s f).mpr (Routine.wp_mono (h m w hflag hmarks hA) (fun _ _ _ h => h) ?_)
  intro e m' w' hkept
  refine Routine.wp_mono (hf e m' w' (hkept.flag.trans hflag) ?_ trivial) ?_ ?_
  · exact fun hfalse => hkept.marks.trans (hmarks hfalse)
  · exact fun a m'' w'' h => ⟨hkept.trans h.1, h.2⟩
  · exact fun e m'' w'' h => hkept.trans h

theorem quiet_require {p : Prop} [Decidable p] {e : Exn} :
    Quiet t flag A (Routine.require p e : Work Unit) fun _ log => A log ∧ p := by
  intro m w _ _ hA
  exact (Routine.wp_require p e _).mpr ⟨fun hp => ⟨Kept.refl t m w, hA, hp⟩, fun _ => Kept.refl t m w⟩

theorem quiet_ofExcept {x : Except Exn α} :
    Quiet t flag A (Routine.ofExcept x : Work α) fun a log => A log ∧ x = .ok a := by
  intro m w _ _ hA
  exact (Routine.wp_ofExcept x).mpr
    ⟨fun a ha => ⟨Kept.refl t m w, hA, ha⟩, fun _ _ => Kept.refl t m w⟩

theorem quiet_memory :
    Quiet t flag A (Routine.memory : Work ClaimMemory) fun m log =>
      A log ∧ m.torrentAddMayHaveOccurred = flag :=
  fun m w hflag _ hA => ⟨Kept.refl t m w, hA, hflag⟩

theorem quiet_remember {f : ClaimMemory → ClaimMemory}
    (hf : ∀ m, (f m).torrentAddMayHaveOccurred = m.torrentAddMayHaveOccurred) :
    Quiet t flag A (Routine.remember f : Work Unit) fun _ => A := by
  intro m w _ _ hA
  exact ⟨⟨List.prefix_refl _, rfl, hf m⟩, hA⟩

theorem Quiet.ite {p : Prop} [Decidable p] {s : Work α} (h : p → Quiet t flag A r P)
    (h' : ¬ p → Quiet t flag A s P) : Quiet t flag A (if p then r else s) P := by
  split_ifs with hp
  · exact h hp
  · exact h' hp

/-! ### Routines that need and provide nothing -/

theorem Quiet.still (h : Quiet t flag (fun _ => True) r P) : Still t flag r :=
  h.mono (fun _ h => h) fun _ _ _ => trivial

theorem still_pure (a : α) : Still t flag (pure a : Work α) :=
  quiet_pure fun _ h => h

theorem Still.bind {f : β → Work α} {s : Work β} (h : Still t flag s)
    (hf : ∀ b, Still t flag (f b)) : Still t flag (s >>= f) :=
  Quiet.bind h hf

theorem Still.handle {s : Work α} {f : Exn → Work α} (h : Still t flag s)
    (hf : ∀ e, Still t flag (f e)) : Still t flag (Routine.handle s f) :=
  Quiet.handle h hf

theorem still_require {p : Prop} {_ : Decidable p} {e : Exn} :
    Still t flag (Routine.require p e : Work Unit) :=
  quiet_require.still

theorem still_ofExcept {x : Except Exn α} : Still t flag (Routine.ofExcept x : Work α) :=
  quiet_ofExcept.still

theorem still_remember {f : ClaimMemory → ClaimMemory}
    (hf : ∀ m, (f m).torrentAddMayHaveOccurred = m.torrentAddMayHaveOccurred) :
    Still t flag (Routine.remember f : Work Unit) :=
  (quiet_remember hf).still

/-- What follows a reading of the memory knows the flag. -/
theorem still_memory_bind {f : ClaimMemory → Work α}
    (hf : ∀ m, m.torrentAddMayHaveOccurred = flag → Still t flag (f m)) :
    Still t flag (Routine.memory >>= f) := by
  intro m w hflag hmarks hA
  exact (Routine.wp_bind _ f).mpr ((Routine.wp_memory _).mpr (hf m hflag m w hflag hmarks hA))

end Rules

/-! ### Atomic steps -/

/-- Nothing has changed. -/
theorem own_refl (w : World) : Own t w w :=
  ⟨.none, [],
    { moves := .refl
      log := (List.append_nil _).symm
      token := List.forall_mem_nil _
      follows := journal_nil
      before := List.forall_mem_nil _
      fencer := Or.inl rfl
      settled := List.forall_mem_nil _
      admitted := List.forall_mem_nil _
      submitting := fun e he hs => Or.inl ⟨e, he, rfl, hs⟩ }⟩

/-- Changes under a licence that is not to reserve, with entries that are neither reservations nor
admissions. -/
theorem written_of_moves {l : Licence} {w : World} {db' : Db} {events : List Workers.Event}
    (hmoves : ControlPlane.Moves l w.db.toTables db'.toTables)
    (hfencer : l.fencer = none ∨ l.fencer = some t.text ∧ marks t w.log = [])
    (hreserves : l.reserves = none) (htoken : ∀ ev ∈ events, ev.claim.leaseToken = t.text)
    (hfollows : Journal Follows w.log events) (hbefore : ∀ ev ∈ events, ∀ db ∈ before? ev, db = w.db)
    (hkinds : ∀ ev ∈ events, reserves ev = false ∧ admits ev = false) :
    Written t l events w { db := db', log := w.log ++ events } where
  moves := hmoves
  log := rfl
  token := htoken
  follows := hfollows
  before := hbefore
  fencer := hfencer
  settled ev hev h := by
    rw [(hkinds ev hev).1] at h
    cases h
  admitted ev hev h := by
    rw [(hkinds ev hev).2] at h
    cases h
  submitting e' he' hs := Or.inl (hmoves.submitting_row hreserves he' hs)

/-- **The rule of a transaction**: where it commits, it is a step of the executor, whether the
executor is told or not. -/
theorem wp_transact {call : Moment → DbTx α} {events : Moment → Db → α → List Workers.Event}
    {heard : α → List Workers.Event} {Q : α → ClaimMemory → World → Prop}
    {E : Exn → ClaimMemory → World → Prop} {m : ClaimMemory} {w : World}
    (h : ∀ w', executors.others t w w' → Sound w' → ∀ i, (∀ e, E e m w') ∧
      ∀ a db', Tx.commit (call i) w'.db = (.ok a, db') →
        (Own t w' { db := db', log := w'.log ++ events i w'.db a } ∧
          ∀ e, E e m { db := db', log := w'.log ++ events i w'.db a }) ∧
        Own t w' { db := db', log := w'.log ++ (events i w'.db a ++ heard a) } ∧
          Q a m { db := db', log := w'.log ++ (events i w'.db a ++ heard a) }) :
    Routine.wp executors t (transact call events heard) Q E m w := by
  refine Routine.wp_perform fun w' hothers hsound i => ?_
  obtain ⟨hfailed, hcommitted⟩ := h w' hothers hsound i
  have hsame : ∀ {x : Exn} {s : World}, s = w' →
      executors.own t w' s ∧ (∀ a, (.error x : Except Exn α) = .ok a → Q a m s) ∧
        ∀ e, (.error x : Except Exn α) = .error e → E e m s := by
    rintro x s rfl
    exact ⟨own_refl _, nofun, fun e _ => hfailed e⟩
  rcases hcommit : Tx.commit (call i) w'.db with ⟨x | a, db'⟩
  · have hdb : db' = w'.db := by
      rcases Tx.commit_cases hcommit with ⟨_, hx, -⟩ | ⟨-, -, hs⟩
      · cases hx
      · exact hs
    subst hdb
    cases hdatabase : i.database <;> simp only [transactStep, hdatabase, hcommit] <;>
      exact hsame rfl
  · obtain ⟨⟨hown, herror⟩, hown', hq⟩ := hcommitted a db' hcommit
    -- a connection that is lost hides a commit that was made
    cases hdatabase : i.database with
    | unavailable =>
        simp only [transactStep, hdatabase, hcommit]
        exact hsame rfl
    | connectionLost =>
        simp only [transactStep, hdatabase, hcommit]
        exact ⟨hown, nofun, fun e _ => herror e⟩
    | answers =>
        simp only [transactStep, hdatabase, hcommit]
        refine ⟨hown', fun b hb => ?_, nofun⟩
        cases hb
        exact hq

/-- A routine that is given the log as the others have left it. -/
theorem Kept.others {m : ClaimMemory} {w w' : World} (h : executors.others t w w') :
    Kept t m w m w' where
  log := (others_log h).1
  marks := (others_log h).2
  flag := rfl

omit [Python] [TorrentCodec] in
/-- Entries that are no marks. -/
theorem Kept.append {m : ClaimMemory} {w : World} {db' : Db} {events : List Workers.Event}
    (h : ∀ ev ∈ events, admits ev = false ∧ adds ev = false) :
    Kept t m w m { db := db', log := w.log ++ events } where
  log := List.prefix_append _ _
  marks := by
    have hnone : Executor.marks t events = [] := by
      refine List.filter_eq_nil_iff.mpr fun ev hev => ?_
      simp [h ev hev]
    rw [marks_append, hnone, List.append_nil]
  flag := rfl

/-- **The rule of a quiet transaction.** -/
theorem quiet_transact {call : Moment → DbTx α} {events : Moment → Db → α → List Workers.Event}
    {A : List Workers.Event → Prop} {P : α → List Workers.Event → Prop} (hA : Grows A)
    (h : ∀ i w, Sound w → (flag = false → marks t w.log = []) → A w.log →
      ∀ a db', Tx.commit (call i) w.db = (.ok a, db') →
        Own t w { db := db', log := w.log ++ events i w.db a } ∧
          (∀ ev ∈ events i w.db a, admits ev = false ∧ adds ev = false) ∧
            P a (w.log ++ events i w.db a)) :
    Quiet t flag A (transact call events) P := by
  intro m w hflag hmarks hlog
  refine wp_transact fun w' hothers hsound i => ?_
  have hkept : Kept t m w m w' := Kept.others hothers
  refine ⟨fun _ => hkept, fun a db' hcommit => ?_⟩
  obtain ⟨hown, hkinds, hP⟩ := h i w' hsound (fun hf => hkept.marks.trans (hmarks hf))
    (hA _ _ hkept.log hlog) a db' hcommit
  rw [List.append_nil]
  exact ⟨⟨hown, fun _ => hkept.trans (.append hkinds)⟩, hown, hkept.trans (.append hkinds), hP⟩

/-- A transaction of which nothing is logged. -/
theorem still_transact {call : Moment → DbTx α}
    (h : ∀ i (db : Db), Tx.wp (call i) (fun _ db' => Effects .none db.toTables db'.toTables)
      (fun _ _ => True) db) : Still t flag (transact call) := by
  refine quiet_transact grows_true fun i w _ _ _ a db' hcommit => ?_
  have heff : Effects .none w.db.toTables db'.toTables := (h i w.db).commit_ok hcommit
  exact ⟨⟨.none, [], written_of_moves heff.moves (Or.inl rfl) rfl (List.forall_mem_nil _)
    journal_nil (List.forall_mem_nil _) (List.forall_mem_nil _)⟩, List.forall_mem_nil _, trivial⟩

/-- A transaction of which nothing is logged is a step of the executor, whatever was done before. -/
theorem wp_transact_silent {call : Moment → DbTx α} {m : ClaimMemory} {w : World}
    (h : ∀ i (db : Db), Tx.wp (call i) (fun _ db' => Effects .none db.toTables db'.toTables)
      (fun _ _ => True) db) :
    Routine.wp executors t (transact call) (fun _ _ _ => True) (fun _ _ _ => True) m w := by
  refine wp_transact fun w' _ _ i => ⟨fun _ => trivial, fun a db' hcommit => ?_⟩
  have hown : Own t w' { db := db', log := w'.log ++ [] } :=
    ⟨.none, [], written_of_moves ((h i w'.db).commit_ok hcommit).moves (Or.inl rfl) rfl
      (List.forall_mem_nil _) journal_nil (List.forall_mem_nil _) (List.forall_mem_nil _)⟩
  exact ⟨⟨hown, fun _ => trivial⟩, hown, trivial⟩

/-- An entry of which nothing is to be justified. -/
def isPlain : Workers.Event → Bool
  | .searched .. => true
  | .fetched .. => true
  | .observed .. => true
  | .sent _ request => !request.isAdd
  | _ => false

omit [Python] [TorrentCodec] in
theorem kinds_of_isPlain {ev : Workers.Event} (h : isPlain ev = true) :
    reserves ev = false ∧ admits ev = false ∧ adds ev = false ∧ before? ev = none := by
  cases ev <;> simp_all [isPlain, reserves, admits, adds, before?]

theorem follows_of_isPlain {ev : Workers.Event} (past : List Workers.Event)
    (h : isPlain ev = true) : Follows past ev := by
  cases ev with
  | searched | fetched | observed => trivial
  | sent claim request =>
      cases request with
      | addTorrent form torrent => cases h
      | _ => trivial
  | _ => cases h

/-- **The rule of what comes from the outside.** -/
theorem quiet_record {supply : Moment → Except Exn α} {events : α → List Workers.Event}
    {A : List Workers.Event → Prop} (hA : Grows A)
    (h : ∀ a, ∀ ev ∈ events a, isPlain ev = true ∧ ev.claim.leaseToken = t.text) :
    Quiet t flag A (record supply events) fun a log => A log ∧ ∀ ev ∈ events a, ev ∈ log := by
  intro m w hflag hmarks hlog
  refine Routine.wp_perform fun w' hothers _ i => ?_
  have hkept : Kept t m w m w' := Kept.others hothers
  rcases hsupply : supply i with e | a
  · exact ⟨own_refl _, nofun, fun _ _ => hkept⟩
  · have hnext : Kept t m w' m { w' with log := w'.log ++ events a } :=
      .append fun ev hev =>
        ⟨(kinds_of_isPlain (h a ev hev).1).2.1, (kinds_of_isPlain (h a ev hev).1).2.2.1⟩
    have hfollows : ∀ (past evs : List Workers.Event), (∀ ev ∈ evs, isPlain ev = true) →
        Journal Follows past evs := by
      intro past evs
      induction evs generalizing past with
      | nil => exact fun _ => journal_nil
      | cons ev evs ih =>
          intro hplain
          exact ⟨follows_of_isPlain past (hplain ev List.mem_cons_self),
            ih _ fun ev' hev' => hplain ev' (List.mem_cons_of_mem _ hev')⟩
    refine ⟨⟨.none, events a, written_of_moves .refl (Or.inl rfl) rfl (fun ev hev => (h a ev hev).2)
      (hfollows _ _ fun ev hev => (h a ev hev).1) ?_ ?_⟩, ?_, nofun⟩
    · intro ev hev db hdb
      rw [(kinds_of_isPlain (h a ev hev).1).2.2.2] at hdb
      cases hdb
    · exact fun ev hev =>
        ⟨(kinds_of_isPlain (h a ev hev).1).1, (kinds_of_isPlain (h a ev hev).1).2.1⟩
    · intro b hb
      cases hb
      refine ⟨hkept.trans hnext, hA _ _ (hkept.trans hnext).log hlog, fun ev hev => ?_⟩
      exact List.mem_append_right _ hev

/-- What comes from the outside needs nothing. -/
theorem still_record {supply : Moment → Except Exn α} {events : α → List Workers.Event}
    (h : ∀ a, ∀ ev ∈ events a, isPlain ev = true ∧ ev.claim.leaseToken = t.text) :
    Still t flag (record supply events) :=
  (quiet_record grows_true h).still

/-- What comes from the outside without being logged. -/
theorem still_unlogged {supply : Moment → Except Exn α} :
    Still t flag (record supply fun _ => []) :=
  still_record fun _ _ h => absurd h List.not_mem_nil

/-- What the outside supplies without being logged. -/
theorem still_supply {f : Moment → α} : Still t flag (Routine.supply f : Work α) := by
  intro m w hflag hmarks _
  refine Routine.wp_supply fun w' hothers _ i => ?_
  exact ⟨own_refl _, .others hothers, trivial⟩

end LibSeek.Executor
