/-
The listing of the downloader.

All torrents are read page by page, in the order of their hashes, and every page begins with the
last torrent of the page before.  A page that is too large makes the listing start again with
smaller ones.  The listing always ends; it gives a list in strict order, or an error of the
services, unless a reply is nested deeper than the decoder of its body goes, or the client raises
what the adapter does not handle.

Main definitions:

* `Adapters.QbittorrentReadOnlyAdapter.Unhandled` — what comes back and is not handled;
* `Adapters.QbittorrentReadOnlyAdapter.Contained` — an outcome that only this spoils;
* `Adapters.QbittorrentReadOnlyAdapter.Listed`, `ServesSlices` — a list in strict order, and an
  outside that serves slices of one.

Main results:

* `Adapters.QbittorrentReadOnlyAdapter.contained_bind`, `contained_handle` — how outcomes compose;
* `Adapters.QbittorrentReadOnlyAdapter.listTorrents_inOrder_iff` — **the listing is in order exactly
  if all that comes back is handled**, and of an outside that serves slices it returns the whole.
-/

import LibSeek.Adapters.QbittorrentReadonly
import Mathlib.Data.List.Chain

set_option relaxedAutoImplicit false
set_option autoImplicit false

namespace LibSeek.Adapters.QbittorrentReadOnlyAdapter

open LibSeek.Core LibSeek.Lib LibSeek.Schemas LibSeek.Adapters

variable (qb : QbittorrentReadOnlyAdapter)

/-! ### Outcomes that are contained -/

/-- What the adapter does not handle: a reply in order whose body is nested deeper than the decoder
goes, and what the client raises that is no `HTTPError`. -/
def Unhandled : TorrentsOutcome → Prop
  | .answered reply => reply.contentLength ≤ qb.maxResponseBytes ∧ 200 ≤ reply.statusCode ∧
      reply.statusCode < 300 ∧ reply.isHtml = false ∧ reply.body = .nested
  | .raised _ => True
  | _ => False

/-- The outcome of a call **is contained**: what it returns is good, and it fails with an error of
the services, unless something came back that is not handled. -/
def Contained {α : Type} (good : α → Prop) (r : Except Exn α)
    (sent : Transcript TorrentsParams TorrentsOutcome) : Prop :=
  match r with
  | .ok a => good a ∧ ∀ entry ∈ sent, ¬ qb.Unhandled entry.2
  | .error (.app _) => ∀ entry ∈ sent, ¬ qb.Unhandled entry.2
  | .error _ => ∃ entry ∈ sent, qb.Unhandled entry.2

variable {qb} {outside : Outside TorrentsParams TorrentsOutcome} {α β : Type}

/-- What follows requests in order is contained as a whole. -/
theorem Contained.append {good : α → Prop} {r : Except Exn α}
    {sent later : Transcript TorrentsParams TorrentsOutcome}
    (hsent : ∀ entry ∈ sent, ¬ qb.Unhandled entry.2) (h : qb.Contained good r later) :
    qb.Contained good r (sent ++ later) := by
  have hall : (∀ entry ∈ later, ¬ qb.Unhandled entry.2) →
      ∀ entry ∈ sent ++ later, ¬ qb.Unhandled entry.2 := by
    intro hlater entry hentry
    rcases List.mem_append.mp hentry with hentry | hentry
    · exact hsent entry hentry
    · exact hlater entry hentry
  match r, h with
  | .ok _, h => exact ⟨h.1, hall h.2⟩
  | .error (.app _), h => exact hall h
  | .error .integrity, ⟨entry, hentry, hbad⟩ =>
      exact ⟨entry, List.mem_append_right _ hentry, hbad⟩
  | .error (.other _), ⟨entry, hentry, hbad⟩ =>
      exact ⟨entry, List.mem_append_right _ hentry, hbad⟩

/-- One call after another. -/
theorem contained_bind {m : Reading α} {f : α → Reading β} {good : α → Prop} {better : β → Prop}
    (h : Asking.wp outside m (qb.Contained good))
    (hf : ∀ a, good a → Asking.wp outside (f a) (qb.Contained better)) :
    Asking.wp outside (m >>= f) (qb.Contained better) := by
  refine Asking.wp_bind (Asking.wp_mono h fun r sent hr => ?_)
  match r, hr with
  | .ok a, hr => exact Asking.wp_mono (hf a hr.1) fun _ _ hlater => hlater.append hr.2
  | .error (.app _), hr => exact hr
  | .error .integrity, hr => exact hr
  | .error (.other _), hr => exact hr

/-- A handler of the errors of the services. -/
theorem contained_handle {m : Reading α} {f : Exn → Reading α} {good : α → Prop}
    (h : Asking.wp outside m (qb.Contained good))
    (hf : ∀ e, Asking.wp outside (f (.app e)) (qb.Contained good))
    (hother : ∀ e, (∀ error, e ≠ .app error) → f e = Asking.raise e) :
    Asking.wp outside (Asking.handle m f) (qb.Contained good) := by
  refine Asking.wp_handle (Asking.wp_mono h fun r sent hr => ?_)
  match r, hr with
  | .ok _, hr => exact hr
  | .error (.app e), hr => exact Asking.wp_mono (hf e) fun _ _ hlater => hlater.append hr
  | .error .integrity, ⟨entry, hentry, hbad⟩ =>
      change Asking.wp outside (f .integrity) _
      rw [hother .integrity fun _ h => nomatch h]
      exact Asking.wp_raise ⟨entry, List.mem_append_left _ hentry, hbad⟩
  | .error (.other name), ⟨entry, hentry, hbad⟩ =>
      change Asking.wp outside (f (.other name)) _
      rw [hother (.other name) fun _ h => nomatch h]
      exact Asking.wp_raise ⟨entry, List.mem_append_left _ hentry, hbad⟩

/-- The decoding of what came back is contained. -/
theorem contained_decode (params : TorrentsParams) (outcome : TorrentsOutcome) :
    qb.Contained (fun _ => True) (qb.decode outcome) [(params, outcome)] := by
  have hone : ∀ {p : Prop}, (qb.Unhandled outcome → p) → ¬ p →
      ∀ entry ∈ [(params, outcome)], ¬ qb.Unhandled entry.2 := by
    intro p hp hnot entry hentry hbad
    rw [List.mem_singleton.mp hentry] at hbad
    exact hnot (hp hbad)
  cases outcome with
  | refused e => exact hone id id
  | timeout => exact hone id id
  | networkError => exact hone id id
  | raised name => exact ⟨_, List.mem_singleton_self _, trivial⟩
  | answered reply =>
      rw [decode, receive, checkReply]
      by_cases hlength : reply.contentLength ≤ qb.maxResponseBytes
      · by_cases hauth : reply.statusCode = 401 ∨ reply.statusCode = 403
        · simp only [ensure, if_pos hlength, if_neg (not_not.mpr hauth)]
          refine hone (fun hbad => ?_) id
          have hstatus := hbad.2.2.1
          omega
        · by_cases hstatus : 200 ≤ reply.statusCode ∧ reply.statusCode < 300
          · simp only [ensure, if_pos hlength, if_pos hauth, if_pos hstatus]
            change qb.Contained _ (json reply) _
            rw [json]
            cases hhtml : reply.isHtml with
            | true => exact hone (fun hbad => hbad.2.2.2.1) (by rw [hhtml]; decide)
            | false =>
                cases hbody : reply.body with
                | invalid => exact hone (fun hbad => hbad.2.2.2.2) (by rw [hbody]; rintro ⟨⟩)
                | nested =>
                    exact ⟨_, List.mem_singleton_self _, hlength, hstatus.1, hstatus.2, hhtml,
                      hbody⟩
                | list items =>
                    exact ⟨trivial, hone (fun hbad => hbad.2.2.2.2) (by rw [hbody]; rintro ⟨⟩)⟩
                | other => exact hone (fun hbad => hbad.2.2.2.2) (by rw [hbody]; rintro ⟨⟩)
          · simp only [ensure, if_pos hlength, if_pos hauth, if_neg hstatus]
            exact hone (fun hbad => ⟨hbad.2.1, hbad.2.2.1⟩) hstatus
      · simp only [ensure, if_neg hlength]
        exact hone (fun hbad => hbad.1) hlength

theorem contained_readTorrents (params : TorrentsParams) :
    Asking.wp outside (qb.readTorrents params) (qb.Contained fun _ => True) := by
  rw [readTorrents]
  have hchecked : Asking.wp outside
      (Asking.ofExcept (ensure (qb.authenticated = true) (Exn.app qbNotAuthenticated)))
      (qb.Contained fun _ => True) := by
    refine Asking.wp_ofExcept ?_
    by_cases hauth : qb.authenticated = true
    · rw [ensure, if_pos hauth]
      exact ⟨trivial, fun _ hentry => absurd hentry List.not_mem_nil⟩
    · rw [ensure, if_neg hauth]
      exact fun _ hentry => absurd hentry List.not_mem_nil
  refine contained_bind hchecked fun _ _ => ?_
  refine Asking.wp_bind (Asking.wp_ask fun asked => Asking.wp_ofExcept ?_)
  exact contained_decode params _

theorem contained_raise {good : α → Prop} {e : AppError} :
    Asking.wp outside (Asking.raise (.app e)) (qb.Contained good) :=
  Asking.wp_raise fun _ hentry => absurd hentry List.not_mem_nil

theorem contained_pure {good : α → Prop} {a : α} (h : good a) :
    Asking.wp outside (pure a : Reading α) (qb.Contained good) :=
  Asking.wp_pure ⟨h, fun _ hentry => absurd hentry List.not_mem_nil⟩

/-! ### One listing -/

/-- The torrents that were read so far: in strict order of their hashes, and not too many. -/
structure Listed (torrents : List QbTorrent) : Prop where
  increasing : (torrents.map (·.hash.text)).IsChain (· < ·)
  bounded : torrents.length ≤ TORRENT_MAX_ITEMS

theorem Listed.pairwise {torrents : List QbTorrent} (h : Listed torrents) :
    torrents.Pairwise fun t u => t.hash.text < u.hash.text :=
  List.pairwise_map.mp (List.isChain_iff_pairwise.mp h.increasing)

/-- A page that is accepted keeps the order. -/
theorem Listed.addPage {pageSize : ℕ} {torrents all : List QbTorrent}
    {boundaryHash : Option String} {payload : List Item} (h : Listed torrents)
    (hadd : addPage pageSize torrents boundaryHash payload = .ok all) : Listed all := by
  obtain ⟨page, rest, -, -, hchain, hrest, hfirst, hmax, rfl⟩ := addPage_eq_ok hadd
  constructor
  · rw [List.map_append, List.isChain_append]
    refine ⟨h.increasing, ?_, ?_⟩
    · rcases afterBoundary_eq_ok.mp hrest with ⟨-, rfl⟩ | ⟨first, rfl, -⟩
      · exact hchain
      · rw [List.map_cons] at hchain
        exact hchain.tail
    · intro x hx y hy
      rw [List.getLast?_map, Option.mem_def, Option.map_eq_some_iff] at hx
      rw [List.head?_map, Option.mem_def, Option.map_eq_some_iff] at hy
      obtain ⟨last, hlast, rfl⟩ := hx
      obtain ⟨first, hhead, rfl⟩ := hy
      exact hfirst first hhead last hlast
  · rw [List.length_append]
    exact hmax

theorem contained_listTorrentsPaginated (pageSize : PageSize) (torrents : List QbTorrent)
    (boundaryHash : Option String) (h : Listed torrents) :
    Asking.wp outside (qb.listTorrentsPaginated pageSize torrents boundaryHash)
      (qb.Contained Listed) := by
  induction torrents, boundaryHash using listTorrentsPaginated.induct pageSize with
  | case1 torrents boundaryHash ih =>
      rw [listTorrentsPaginated]
      refine contained_bind (contained_readTorrents _) fun payload _ => ?_
      split
      · exact contained_raise
      · rename_i all hadd
        split
        · exact contained_pure (h.addPage hadd)
        · rename_i hlast
          split
          · exact contained_raise
          · rename_i last heq
            exact ih payload all hadd hlast last (h.addPage hadd)

/-- **The listing fails only with an error of the services**, unless something comes back that is
not handled, and what it returns is in strict order. -/
theorem contained_listTorrentsFrom (pageSize : PageSize) :
    Asking.wp outside (qb.listTorrentsFrom pageSize) (qb.Contained Listed) := by
  have hnil : Listed [] := ⟨List.IsChain.nil, Nat.zero_le _⟩
  induction pageSize using listTorrentsFrom.induct with
  | case1 pageSize ih =>
      rw [listTorrentsFrom]
      refine contained_handle (contained_listTorrentsPaginated pageSize [] none hnil) ?_ ?_
      · intro e
        split
        · exact contained_raise
        · rename_i hsmaller
          exact ih (.app e) hsmaller
      · intro e he
        rw [if_pos]
        left
        cases e with
        | app error => exact absurd rfl (he error)
        | integrity => nofun
        | other name => nofun

/-! ### How much is asked -/

theorem sends_readTorrents (params : TorrentsParams) :
    Asking.sends outside (qb.readTorrents params) 1 := by
  rw [readTorrents]
  refine Asking.sends_mono (Asking.sends_bind (n := 0) Asking.sends_ofExcept fun _ =>
    Asking.sends_bind Asking.sends_ask fun _ => Asking.sends_ofExcept (n := 0)) (Nat.le_refl 1)

/-- A pass asks once more than it can read torrents. -/
theorem sends_listTorrentsPaginated (pageSize : PageSize) (torrents : List QbTorrent)
    (boundaryHash : Option String) :
    Asking.sends outside (qb.listTorrentsPaginated pageSize torrents boundaryHash)
      (TORRENT_MAX_ITEMS - torrents.length + 1) := by
  induction torrents, boundaryHash using listTorrentsPaginated.induct pageSize with
  | case1 torrents boundaryHash ih =>
      rw [listTorrentsPaginated, Nat.add_comm]
      refine Asking.sends_bind (sends_readTorrents _) fun payload => ?_
      split
      · exact Asking.sends_raise
      · rename_i all hadd
        split
        · exact Asking.sends_pure
        · rename_i hlast
          split
          · exact Asking.sends_raise
          · rename_i last heq
            have hmore := length_addPage hadd hlast
            exact Asking.sends_mono (ih payload all hadd hlast last) (by omega)

/-- There are no more passes than the size of the first page. -/
theorem sends_listTorrentsFrom (pageSize : PageSize) :
    Asking.sends outside (qb.listTorrentsFrom pageSize)
      (pageSize * (TORRENT_MAX_ITEMS + 1)) := by
  induction pageSize using listTorrentsFrom.induct with
  | case1 pageSize ih =>
      have hleast : 2 ≤ pageSize.val := pageSize.property
      rw [listTorrentsFrom]
      refine Asking.sends_mono (Asking.sends_handle (k := (pageSize - 1) * (TORRENT_MAX_ITEMS + 1))
        (sends_listTorrentsPaginated pageSize [] none) fun e => ?_) ?_
      · split
        · exact Asking.sends_raise
        · rename_i hsmaller
          have hhalf : pageSize.halve.val ≤ pageSize - 1 := by
            have hlarge := (not_or.mp hsmaller).2
            have hmin : TORRENT_MIN_PAGE_SIZE = 2 := rfl
            change max TORRENT_MIN_PAGE_SIZE (pageSize.val / 2) ≤ pageSize.val - 1
            omega
          exact Asking.sends_mono (ih e hsmaller) (Nat.mul_le_mul_right _ hhalf)
      · rw [List.length_nil, Nat.sub_zero, Nat.add_comm, ← Nat.succ_mul]
        exact Nat.mul_le_mul_right _ (by omega)

/-! ### An outside that serves slices -/

/-- The outside **serves slices** of a list of torrents, whatever was asked before; a reply is as
long as its torrents make it. -/
def ServesSlices (whole : List QbTorrent) (length : List QbTorrent → ℕ)
    (outside : Outside TorrentsParams TorrentsOutcome) : Prop :=
  ∀ asked limit offset, outside asked { sort := some "hash", limit, offset } =
    .answered
      { contentLength := length ((whole.drop offset).take limit)
        body := .list (((whole.drop offset).take limit).map Except.ok) }

/-- The slice that begins with the last torrent that was read goes on where the reading stopped. -/
theorem take_append_tail {n size : ℕ} (whole : List QbTorrent) (hn : 1 ≤ n) (hsize : 1 ≤ size) :
    whole.take n ++ ((whole.drop (n - 1)).take size).tail = whole.take (n - 1 + size) := by
  have htail : ((whole.drop (n - 1)).take size).tail = (whole.drop n).take (size - 1) := by
    rw [← List.drop_one, List.drop_take, List.drop_drop]
    congr 2
    omega
  have hsum : n - 1 + size = n + (size - 1) := by omega
  rw [htail, hsum, List.take_add]

/-- What was read so far is where the whole begins. -/
structure ReadFrom (whole torrents : List QbTorrent) (boundaryHash : Option String) : Prop where
  begins : torrents = whole.take torrents.length
  boundary : boundaryHash = torrents.getLast?.map (·.hash.text)

/-- A page that is accepted goes on with the whole. -/
theorem ReadFrom.addPage {pageSize : PageSize} {whole torrents all : List QbTorrent}
    {boundaryHash : Option String} (h : ReadFrom whole torrents boundaryHash)
    (hadd : addPage pageSize torrents boundaryHash
      (((whole.drop (torrents.length - 1)).take pageSize).map Except.ok) = .ok all) :
    all = whole.take (torrents.length - 1 + pageSize) := by
  have hleast : 2 ≤ pageSize.val := pageSize.property
  obtain ⟨page, rest, hpage, -, -, hrest, -, -, rfl⟩ := addPage_eq_ok hadd
  have hsame : page = (whole.drop (torrents.length - 1)).take pageSize :=
    (List.map_injective_iff.mpr (fun _ _ heq => Except.ok.inj heq) hpage).symm
  cases hlast : torrents.getLast? with
  | none =>
      -- the first page
      obtain rfl := List.getLast?_eq_none_iff.mp hlast
      rw [h.boundary, hlast] at hrest
      rcases afterBoundary_eq_ok.mp hrest with ⟨-, rfl⟩ | ⟨_, -, hnone⟩
      · rw [hsame, List.nil_append, List.length_nil, Nat.zero_sub, List.drop_zero, Nat.zero_add]
      · exact nomatch hnone
  | some last =>
      have hpos : 1 ≤ torrents.length :=
        List.length_pos_iff.mpr (List.ne_nil_of_mem (List.mem_of_getLast? hlast))
      rw [h.boundary, hlast] at hrest
      rcases afterBoundary_eq_ok.mp hrest with ⟨hnone, -⟩ | ⟨first, hfirst, -⟩
      · exact nomatch hnone
      · have htail : rest = ((whole.drop (torrents.length - 1)).take pageSize).tail := by
          rw [← hsame, hfirst, List.tail_cons]
        rw [htail, ← take_append_tail whole hpos (by omega), ← h.begins]

theorem returns_listTorrentsPaginated {whole : List QbTorrent} {length : List QbTorrent → ℕ}
    (hserves : ServesSlices whole length outside) (pageSize : PageSize) (torrents : List QbTorrent)
    (boundaryHash : Option String) (h : ReadFrom whole torrents boundaryHash) :
    Asking.returns outside (qb.listTorrentsPaginated pageSize torrents boundaryHash)
      (· = whole) := by
  induction torrents, boundaryHash using listTorrentsPaginated.induct pageSize with
  | case1 torrents boundaryHash ih =>
      have hleast : 2 ≤ pageSize.val := pageSize.property
      rw [listTorrentsPaginated]
      refine Asking.returns_bind (returns_served fun asked => hserves asked _ _) ?_
      rintro payload rfl
      split
      · exact Asking.returns_raise
      · rename_i all hadd
        have hall := h.addPage hadd
        have hlen : ((whole.drop (torrents.length - 1)).take pageSize).length =
            min pageSize.val (whole.length - (torrents.length - 1)) := by
          rw [List.length_take, List.length_drop]
        split
        · -- a short page is the last one
          rename_i hshort
          refine Asking.returns_pure ?_
          rw [List.length_map, hlen] at hshort
          rw [hall, List.take_of_length_le]
          omega
        · rename_i hlast
          split
          · exact Asking.returns_raise
          · rename_i last heq
            refine ih _ all hadd hlast last ⟨?_, ?_⟩
            · rw [hall, List.length_take, List.take_eq_take_iff]
              omega
            · rw [heq]
              rfl

/-- **Of an outside that serves slices of a list, the whole list is returned.** -/
theorem returns_listTorrentsFrom {whole : List QbTorrent} {length : List QbTorrent → ℕ}
    (hserves : ServesSlices whole length outside) (pageSize : PageSize) :
    Asking.returns outside (qb.listTorrentsFrom pageSize) (· = whole) := by
  induction pageSize using listTorrentsFrom.induct with
  | case1 pageSize ih =>
      rw [listTorrentsFrom]
      refine Asking.returns_handle
        (returns_listTorrentsPaginated hserves pageSize [] none ⟨by simp, rfl⟩) fun e => ?_
      split
      · exact Asking.returns_raise
      · rename_i hsmaller
        exact ih e hsmaller

/-! ### The listing -/

/-- What a listing comes to **is in order**: it is an error of the services, or a list in strict
order of the hashes that is not too long. -/
def InOrder (r : Except Exn (List QbTorrent)) : Prop :=
  (∃ e : AppError, r = .error (.app e)) ∨
    ∃ torrents, r = .ok torrents ∧
      (torrents.Pairwise fun t u => t.hash.text < u.hash.text) ∧
      torrents.length ≤ TORRENT_MAX_ITEMS

/-- **The listing is in order exactly if all that comes back is handled.**  It sends a bounded number
of requests, and of an outside that serves slices of a list it returns the whole list, if it
returns. -/
theorem listTorrents_inOrder_iff (qb : QbittorrentReadOnlyAdapter)
    (outside : Outside TorrentsParams TorrentsOutcome) :
    (InOrder (qb.listTorrents.run outside).1 ↔
        ∀ entry ∈ (qb.listTorrents.run outside).2, ¬ qb.Unhandled entry.2) ∧
      (qb.listTorrents.run outside).2.length ≤ TORRENT_PAGE_SIZE * (TORRENT_MAX_ITEMS + 1) ∧
      ∀ whole length, ServesSlices whole length outside →
        ∀ torrents, (qb.listTorrents.run outside).1 = .ok torrents → torrents = whole := by
  refine ⟨?_, Asking.wp_run (sends_listTorrentsFrom _), fun whole length hserves =>
    Asking.wp_run (returns_listTorrentsFrom hserves _)⟩
  have hcontained : qb.Contained Listed (qb.listTorrents.run outside).1
      (qb.listTorrents.run outside).2 :=
    Asking.wp_run (contained_listTorrentsFrom ⟨TORRENT_PAGE_SIZE, by decide⟩)
  match (qb.listTorrents.run outside).1, hcontained with
  | .ok torrents, ⟨hlisted, hnone⟩ =>
      exact ⟨fun _ => hnone, fun _ => Or.inr ⟨torrents, rfl, hlisted.pairwise, hlisted.bounded⟩⟩
  | .error (.app e), hnone => exact ⟨fun _ => hnone, fun _ => Or.inl ⟨e, rfl⟩⟩
  | .error .integrity, ⟨entry, hentry, hbad⟩ =>
      refine ⟨?_, fun h => absurd hbad (h entry hentry)⟩
      rintro (⟨_, h⟩ | ⟨_, h, -⟩) <;> cases h
  | .error (.other name), ⟨entry, hentry, hbad⟩ =>
      refine ⟨?_, fun h => absurd hbad (h entry hentry)⟩
      rintro (⟨_, h⟩ | ⟨_, h, -⟩) <;> cases h

/-- A torrent that is being uploaded. -/
def seedingTorrent : QbTorrent where
  hash := ⟨"bbbbbbbbbbbbbbbbbbbbbbbbbbbbbbbbbbbbbbbb", by decide⟩
  infohashV1 := some "bbbbbbbbbbbbbbbbbbbbbbbbbbbbbbbbbbbbbbbb"
  infohashV2 := some "bbbbbbbbbbbbbbbbbbbbbbbbbbbbbbbbbbbbbbbbbbbbbbbbbbbbbbbbbbbbbbbb"
  name := "Media 2020"
  size := 100
  progress := 1
  ratio := 2
  state := "uploading"
  addedOn := 0
  completionOn := 1
  downloaded := 100
  uploaded := 200
  dlspeed := 0
  upspeed := 5
  category := "movies"
  savePath := "/downloads"
  progress_bounds := by decide +kernel
  ratio_bound := by decide +kernel
  infohashV1_isHex := by decide +kernel
  infohashV2_isHex := by decide +kernel

/-- An outside that serves slices of the one torrent, whatever it is asked. -/
def servesOne : Outside TorrentsParams TorrentsOutcome := fun _ params =>
  .answered
    { contentLength := 500
      body := .list ((([seedingTorrent].drop params.offset).take params.limit).map Except.ok) }

/-- The listing of the one torrent. -/
theorem listTorrents_servesOne :
    ((listTorrents ⟨true, 10485760⟩).run servesOne).1 = .ok [seedingTorrent] := by
  have hok : ((listTorrents ⟨true, 10485760⟩).run servesOne).1.isOk = true := by
    decide +kernel
  have hall := (listTorrents_inOrder_iff ⟨true, 10485760⟩ servesOne).2.2 [seedingTorrent]
    (fun _ => 500) fun _ _ _ => rfl
  obtain ⟨torrents, hrun⟩ := exists_eq_ok hok
  rw [hrun, hall torrents hrun]

/-- A reply of nothing but brackets makes the listing fail with an error of the language, and so
does a redirect of which the client cannot make a request. -/
theorem listTorrents_not_inOrder :
    ¬ InOrder ((listTorrents ⟨true, 10485760⟩).run
        fun _ _ => .answered { contentLength := 200000, body := .nested }).1 ∧
      ¬ InOrder ((listTorrents ⟨true, 10485760⟩).run fun _ _ => .raised "InvalidURL").1 := by
  have hnested : ((listTorrents ⟨true, 10485760⟩).run
      fun _ _ => .answered { contentLength := 200000, body := .nested }).1 =
        .error (.other "RecursionError") := by
    rw [listTorrents, listTorrentsFrom, listTorrentsPaginated]
    rfl
  have hraised : ((listTorrents ⟨true, 10485760⟩).run fun _ _ => .raised "InvalidURL").1 =
      .error (.other "InvalidURL") := by
    rw [listTorrents, listTorrentsFrom, listTorrentsPaginated]
    rfl
  rw [hnested, hraised]
  constructor <;> rintro (⟨_, h⟩ | ⟨_, h, -⟩) <;> cases h

end LibSeek.Adapters.QbittorrentReadOnlyAdapter
