/-
Whether a torrent seeds actively.

The adapter asks for the fastest of the torrents that seed, for the one whose state comes last, and
then for those whose states come first, until the states are past the one that it looks for.  Of a
downloader whose listings are correct, it answers as a scan of all torrents would.

Main definitions:

* `Adapters.QbittorrentReadOnlyAdapter.KNOWN_STATES` — the states that are known;
* `Adapters.QbittorrentReadOnlyAdapter.CorrectListings` — listings that are filtered and sorted;
* `Adapters.QbittorrentReadOnlyAdapter.ServesListings` — an outside that serves slices of them.

Main results:

* `Adapters.QbittorrentReadOnlyAdapter.scanForcedUp_spec` — what the scan of a page finds;
* `Adapters.QbittorrentReadOnlyAdapter.hasActiveSeeding_exact` — **the answer is that of a scan of
  all torrents**.
-/

import LibSeek.Adapters.QbittorrentListing
import Mathlib.Data.String.Basic

set_option relaxedAutoImplicit false
set_option autoImplicit false

namespace LibSeek.Adapters.QbittorrentReadOnlyAdapter

open LibSeek.Core LibSeek.Lib LibSeek.Schemas LibSeek.Adapters

variable [Python] {qb : QbittorrentReadOnlyAdapter}
  {outside : Outside TorrentsParams TorrentsOutcome}

/-! ### Correct listings -/

/-- The states that `_download_job_status` knows. -/
def KNOWN_STATES : List String :=
  ["error", "missingfiles", "unknown", "checkingdl", "checkingup", "checkingresumedata", "moving",
    "pauseddl", "pausedup", "stoppeddl", "stoppedup", "queueddl", "queuedup", "allocating",
    "downloading", "forceddl", "stalleddl", "metadl", "uploading", "forcedup", "stalledup",
    "completed"]

omit [Python] in
/-- No known state comes after the last one that is active. -/
theorem le_uploading {state : String} (h : state ∈ KNOWN_STATES) : state ≤ "uploading" := by
  have hall : ∀ state ∈ KNOWN_STATES, state ≤ "uploading" := by decide +kernel
  exact hall state h

/-- The listings of some torrents **are correct**: they have the torrents that a filter lets
through, which lets those through that are active, in states that are known; and they are sorted as
was asked for. -/
structure CorrectListings (torrents : List QbTorrent) (seeds : QbTorrent → Bool)
    (listing : (sort : String) → (reverse : Bool) → List QbTorrent) : Prop where
  filtered : ∀ sort reverse, (listing sort reverse).Perm (torrents.filter seeds)
  active : ∀ t ∈ torrents, isActiveSeeding t = true → seeds t = true
  known : ∀ t ∈ torrents, seeds t = true → casefold t.state ∈ KNOWN_STATES
  fastest : (listing "upspeed" true).Pairwise fun t u => u.upspeed ≤ t.upspeed
  lastState : (listing "state" true).Pairwise fun t u => casefold u.state ≤ casefold t.state
  firstState : (listing "state" false).Pairwise fun t u => casefold t.state ≤ casefold u.state

omit [Python] in
/-- The outside **serves slices of listings**, whatever was asked before. -/
def ServesListings (listing : (sort : String) → (reverse : Bool) → List QbTorrent)
    (length : List QbTorrent → ℕ) (outside : Outside TorrentsParams TorrentsOutcome) : Prop :=
  ∀ asked sort reverse limit offset,
    outside asked { filter := some "seeding", sort := some sort, reverse, limit, offset } =
      .answered
        { contentLength := length (((listing sort reverse).drop offset).take limit)
          body := .list ((((listing sort reverse).drop offset).take limit).map Except.ok) }

variable {torrents : List QbTorrent} {seeds : QbTorrent → Bool}
  {listing : (sort : String) → (reverse : Bool) → List QbTorrent} {length : List QbTorrent → ℕ}

/-- A listing has an active torrent exactly if there is one. -/
theorem CorrectListings.exists_active (h : CorrectListings torrents seeds listing) (sort : String)
    (reverse : Bool) :
    (∃ t ∈ listing sort reverse, isActiveSeeding t = true) ↔
      torrents.any isActiveSeeding = true := by
  rw [List.any_eq_true]
  constructor
  · rintro ⟨t, ht, hactive⟩
    exact ⟨t, (List.mem_filter.mp ((h.filtered sort reverse).mem_iff.mp ht)).1, hactive⟩
  · rintro ⟨t, ht, hactive⟩
    exact ⟨t, (h.filtered sort reverse).mem_iff.mpr
      (List.mem_filter.mpr ⟨ht, h.active t ht hactive⟩), hactive⟩

/-! ### The probes -/

omit [Python] in
/-- A probe returns the first torrent of a listing, which is complete. -/
theorem returns_torrentProbe (h : ServesListings listing length outside) (sort : String) :
    Asking.returns outside (qb.torrentProbe sort) fun found =>
      found = (listing sort true).head? ∧ ∀ t ∈ found, t.progress = 1 := by
  rw [torrentProbe]
  refine Asking.returns_bind (returns_served fun asked => h asked sort true 1 0) ?_
  rintro payload rfl
  refine Asking.returns_ofExcept fun found hfound => ?_
  have haccept := mapError_eq_ok.mp hfound
  rw [acceptProbe, bind_eq_ok] at haccept
  obtain ⟨_, -, haccept⟩ := haccept
  obtain ⟨page, hpage, haccept⟩ := bind_eq_ok.mp haccept
  obtain ⟨_, hcomplete, haccept⟩ := bind_eq_ok.mp haccept
  have hsame : page = ((listing sort true).drop 0).take 1 :=
    (List.map_injective_iff.mpr (fun _ _ heq => Except.ok.inj heq)
      (parseTorrents_eq_ok.mp hpage)).symm
  obtain rfl := pure_eq_ok.mp haccept
  refine ⟨?_, ensure_eq_ok.mp hcomplete⟩
  rw [hsame, List.drop_zero]
  cases listing sort true <;> rfl

/-- A torrent that is active **is found by a probe, or is forced**. -/
theorem CorrectListings.forced (h : CorrectListings torrents seeds listing)
    (hfastest : ∀ t ∈ (listing "upspeed" true).head?,
      t.progress = 1 ∧ isActiveSeeding t = false)
    (hlast : ∀ t ∈ (listing "state" true).head?, t.progress = 1 ∧ isActiveSeeding t = false)
    {t : QbTorrent} (ht : t ∈ listing "state" false) (hactive : isActiveSeeding t = true) :
    casefold t.state = "forcedup" := by
  have hmem : ∀ sort reverse, t ∈ listing sort reverse := fun sort reverse =>
    (h.filtered sort reverse).mem_iff.mpr ((h.filtered "state" false).mem_iff.mp ht)
  obtain ⟨hprogress, hhow⟩ := of_decide_eq_true hactive
  rcases hhow with hspeed | hstate
  · -- the fastest would be active
    exfalso
    cases hlisting : listing "upspeed" true with
    | nil => exact absurd (hlisting ▸ hmem "upspeed" true) List.not_mem_nil
    | cons first rest =>
        obtain ⟨hcomplete, hidle⟩ := hfastest first (by rw [hlisting]; rfl)
        have hsorted := h.fastest
        rw [hlisting, List.pairwise_cons] at hsorted
        have hfast : 0 < first.upspeed := by
          rcases List.mem_cons.mp (hlisting ▸ hmem "upspeed" true) with rfl | hrest
          · exact hspeed
          · exact Nat.lt_of_lt_of_le hspeed (hsorted.1 t hrest)
        exact of_decide_eq_false hidle ⟨hcomplete, Or.inl hfast⟩
  · rcases List.mem_cons.mp hstate with huploading | hforced
    · -- so would be the one whose state comes last
      exfalso
      cases hlisting : listing "state" true with
      | nil => exact absurd (hlisting ▸ hmem "state" true) List.not_mem_nil
      | cons first rest =>
          obtain ⟨hcomplete, hidle⟩ := hlast first (by rw [hlisting]; rfl)
          have hsorted := h.lastState
          rw [hlisting, List.pairwise_cons] at hsorted
          have hge : "uploading" ≤ casefold first.state := by
            rcases List.mem_cons.mp (hlisting ▸ hmem "state" true) with rfl | hrest
            · exact le_of_eq huploading.symm
            · exact huploading ▸ hsorted.1 t hrest
          have hfirst : first ∈ torrents.filter seeds :=
            (h.filtered "state" true).mem_iff.mp (by rw [hlisting]; exact List.mem_cons_self)
          obtain ⟨hin, hseeds⟩ := List.mem_filter.mp hfirst
          have hsame : casefold first.state = "uploading" :=
            le_antisymm (le_uploading (h.known first hin hseeds)) hge
          refine of_decide_eq_false hidle ⟨hcomplete, Or.inr ?_⟩
          rw [hsame]
          exact List.mem_cons_self
    · exact List.mem_singleton.mp hforced

/-! ### The scan of a page -/

/-- What the scan of a page finds: an active torrent; none up to one whose state is past those that
it looks for; or none. -/
def Scanned (page : List QbTorrent) : Bool ⊕ Option String → Prop
  | .inl true => ∃ t ∈ page, isActiveSeeding t = true
  | .inl false => ∃ before t after, page = before ++ t :: after ∧
      (∀ u ∈ before, isActiveSeeding u = false) ∧ isActiveSeeding t = false ∧
      "forcedup" < casefold t.state
  | .inr _ => ∀ t ∈ page, isActiveSeeding t = false

/-- **The scan finds what is there.** -/
theorem scanForcedUp_spec {page : List QbTorrent} {previousState : Option String}
    {scanned : Bool ⊕ Option String} (h : scanForcedUp page previousState = .ok scanned) :
    Scanned page scanned := by
  induction page generalizing previousState with
  | nil =>
      rw [scanForcedUp] at h
      cases h
      exact fun t ht => absurd ht List.not_mem_nil
  | cons t page ih =>
      rw [scanForcedUp, bind_eq_ok] at h
      obtain ⟨_, -, h⟩ := h
      obtain ⟨_, -, h⟩ := bind_eq_ok.mp h
      by_cases hactive : isActiveSeeding t = true
      · rw [if_pos hactive] at h
        cases pure_eq_ok.mp h
        exact ⟨t, List.mem_cons_self, hactive⟩
      · rw [if_neg hactive] at h
        have hidle : isActiveSeeding t = false := Bool.eq_false_iff.mpr hactive
        by_cases hpast : "forcedup" < casefold t.state
        · rw [if_pos hpast] at h
          cases pure_eq_ok.mp h
          exact ⟨[], t, page, rfl, fun u hu => absurd hu List.not_mem_nil, hidle, hpast⟩
        · rw [if_neg hpast] at h
          have hrest := ih h
          match scanned, hrest with
          | .inl true, ⟨u, hu, hfound⟩ => exact ⟨u, List.mem_cons_of_mem _ hu, hfound⟩
          | .inl false, ⟨before, u, after, hpage, hbefore, hu, hlate⟩ =>
              refine ⟨t :: before, u, after, congrArg (t :: ·) hpage, ?_, hu, hlate⟩
              exact List.forall_mem_cons.mpr ⟨hidle, hbefore⟩
          | .inr _, hrest => exact List.forall_mem_cons.mpr ⟨hidle, hrest⟩

/-! ### The pages -/

/-- The first torrents of a listing were read, and none of them is active. -/
structure Passed (whole : List QbTorrent) (inspected : ℕ) (boundaryHash : Option String) :
    Prop where
  bound : inspected ≤ whole.length
  boundary : boundaryHash = (whole.take inspected).getLast?.map (·.hash.text)
  idle : ∀ t ∈ whole.take inspected, isActiveSeeding t = false

/-- The next torrents, after the one that was read before. -/
theorem Passed.page {whole rest : List QbTorrent} {inspected limit : ℕ}
    {boundaryHash : Option String} (h : Passed whole inspected boundaryHash)
    (haccept : acceptForcedUpPage limit boundaryHash
      (((whole.drop (inspected - boundaryHash.toList.length)).take limit).map Except.ok) =
        .ok rest) :
    rest = (whole.drop inspected).take (limit - boundaryHash.toList.length) ∧
      boundaryHash.toList.length = min 1 inspected := by
  rw [acceptForcedUpPage, bind_eq_ok] at haccept
  obtain ⟨_, -, haccept⟩ := haccept
  obtain ⟨page, hpage, hrest⟩ := bind_eq_ok.mp haccept
  have hsame := List.map_injective_iff.mpr (fun _ _ heq => Except.ok.inj heq)
    (parseTorrents_eq_ok.mp hpage)
  -- nothing was passed, or the last torrent that was is asked for again
  cases hlast : (whole.take inspected).getLast? with
  | none =>
      have hnil := List.getLast?_eq_none_iff.mp hlast
      have hzero : inspected = 0 := by
        rcases List.take_eq_nil_iff.mp hnil with hzero | hwhole
        · exact hzero
        · have hbound := h.bound
          rw [hwhole, List.length_nil] at hbound
          omega
      have hboundary : boundaryHash = none := by rw [h.boundary, hlast]; rfl
      subst hboundary hzero
      rcases afterBoundary_eq_ok.mp hrest with ⟨-, rfl⟩ | ⟨_, -, hsome⟩
      · exact ⟨hsame.symm, rfl⟩
      · exact nomatch hsome
  | some last =>
      have hpos : 0 < inspected := by
        by_contra hzero
        rw [Nat.eq_zero_of_not_pos hzero] at hlast
        exact nomatch hlast
      have hboundary : boundaryHash = some last.hash.text := by rw [h.boundary, hlast]; rfl
      subst hboundary
      rcases afterBoundary_eq_ok.mp hrest with ⟨hnone, -⟩ | ⟨first, hfirst, -⟩
      · exact nomatch hnone
      · change ((whole.drop (inspected - 1)).take limit) = page at hsame
        have htail : rest = ((whole.drop (inspected - 1)).take limit).tail := by
          rw [hsame, hfirst, List.tail_cons]
        refine ⟨?_, (Nat.min_eq_left hpos).symm⟩
        rw [htail, ← List.drop_one, List.drop_take, List.drop_drop]
        change List.take (limit - 1) _ = List.take (limit - 1) _
        congr 2
        omega

/-- A page without an active torrent is passed. -/
theorem Passed.extend {whole page : List QbTorrent} {inspected k : ℕ}
    {boundaryHash : Option String} {last : QbTorrent} (h : Passed whole inspected boundaryHash)
    (hpage : page = (whole.drop inspected).take k) (hidle : ∀ t ∈ page, isActiveSeeding t = false)
    (hlast : page.getLast? = some last) :
    Passed whole (inspected + page.length) (some last.hash.text) := by
  have hbound := h.bound
  have hlength : page.length = min k (whole.length - inspected) := by
    rw [hpage, List.length_take, List.length_drop]
  have htake : whole.take (inspected + page.length) = whole.take inspected ++ page := by
    rw [List.take_add]
    congr 1
    conv_rhs => rw [hpage]
    rw [List.take_eq_take_iff, List.length_drop]
    omega
  constructor
  · omega
  · rw [htake, List.getLast?_append, hlast]
    rfl
  · rw [htake]
    intro t ht
    rcases List.mem_append.mp ht with ht | ht
    · exact h.idle t ht
    · exact hidle t ht

/-- Past a torrent whose state is past that which is looked for, none is active. -/
theorem Passed.none_active {whole page : List QbTorrent} {inspected k : ℕ}
    {boundaryHash : Option String} (h : Passed whole inspected boundaryHash)
    (hsorted : whole.Pairwise fun t u => casefold t.state ≤ casefold u.state)
    (hforced : ∀ t ∈ whole, isActiveSeeding t = true → casefold t.state = "forcedup")
    (hpage : page = (whole.drop inspected).take k) (hscanned : Scanned page (.inl false)) :
    ∀ t ∈ whole, isActiveSeeding t = false := by
  obtain ⟨before, t, after, hsplit, hbefore, hidle, hlate⟩ := hscanned
  have hwhole : whole = (whole.take inspected ++ before) ++
      t :: (after ++ (whole.drop inspected).drop k) := by
    conv_lhs => rw [← List.take_append_drop inspected whole,
      ← List.take_append_drop k (whole.drop inspected), ← hpage, hsplit]
    simp only [List.append_assoc, List.cons_append]
  rw [hwhole, List.pairwise_append, List.pairwise_cons] at hsorted
  intro u hu
  rw [hwhole] at hu
  rcases List.mem_append.mp hu with hu | hu
  · rcases List.mem_append.mp hu with hu | hu
    · exact h.idle u hu
    · exact hbefore u hu
  · rcases List.mem_cons.mp hu with rfl | hu
    · exact hidle
    · -- the states after it are past, too
      have hpast : "forcedup" < casefold u.state :=
        lt_of_lt_of_le hlate (hsorted.2.1.1 u hu)
      apply Bool.eq_false_iff.mpr
      intro hactive
      refine absurd (hforced u ?_ hactive) (ne_of_gt hpast)
      rw [hwhole]
      exact List.mem_append_right _ (List.mem_cons_of_mem _ hu)

/-- **The scan of the pages answers as the scan of the listing would**, where a torrent that is
active is forced. -/
theorem returns_hasForcedUpSeeding (hserves : ServesListings listing length outside)
    (hsorted : (listing "state" false).Pairwise fun t u => casefold t.state ≤ casefold u.state)
    (hforced : ∀ t ∈ listing "state" false, isActiveSeeding t = true →
      casefold t.state = "forcedup")
    (inspected : ℕ) (boundaryHash previousState : Option String)
    (h : Passed (listing "state" false) inspected boundaryHash) :
    Asking.returns outside (qb.hasForcedUpSeeding inspected boundaryHash previousState)
      fun answer => answer = true ↔
        ∃ t ∈ listing "state" false, isActiveSeeding t = true := by
  induction inspected, boundaryHash, previousState using hasForcedUpSeeding.induct with
  | case1 inspected boundaryHash previousState hmore ih =>
      rw [hasForcedUpSeeding, dif_pos hmore]
      refine Asking.returns_bind (returns_served fun asked => hserves asked _ _ _ _) ?_
      rintro payload rfl
      refine Asking.returns_bind (Asking.returns_ofExcept fun _ => mapError_eq_ok.mp)
        fun page hpage => ?_
      -- the page, but for the torrent that it shares with the last one, comes after what was passed
      obtain ⟨hrest, hoverlap⟩ := h.page hpage
      refine Asking.returns_bind (Asking.returns_ofExcept fun _ hx =>
        scanForcedUp_spec (mapError_eq_ok.mp hx)) fun scanned hscanned => ?_
      match scanned, hscanned with
      | .inl true, ⟨t, ht, hactive⟩ =>
          refine Asking.returns_pure ⟨fun _ => ⟨t, ?_, hactive⟩, fun _ => rfl⟩
          exact List.mem_of_mem_drop (List.mem_of_mem_take (hrest ▸ ht))
      | .inl false, hscanned =>
          refine Asking.returns_pure ⟨(fun hfalse => nomatch hfalse), ?_⟩
          rintro ⟨t, ht, hactive⟩
          rw [h.none_active hsorted hforced hrest hscanned t ht] at hactive
          exact nomatch hactive
      | .inr state, hidle =>
          change Asking.returns outside (if _ < _ then _ else _) _
          rw [List.length_map, List.length_take, List.length_drop]
          split
          · -- the last page
            rename_i hshort
            have hall : page = (listing "state" false).drop inspected := by
              rw [hrest, List.take_of_length_le]
              rw [List.length_drop]
              omega
            refine Asking.returns_pure ⟨(fun hfalse => nomatch hfalse), ?_⟩
            rintro ⟨t, ht, hactive⟩
            rw [← List.take_append_drop inspected (listing "state" false)] at ht
            have hnone : isActiveSeeding t = false := by
              rcases List.mem_append.mp ht with ht | ht
              · exact h.idle t ht
              · exact hidle t (hall ▸ ht)
            rw [hnone] at hactive
            exact nomatch hactive
          · split
            · exact Asking.returns_raise
            · rename_i last hlast
              exact ih [] page state last hlast (h.extend hrest hidle hlast)
  | case2 inspected boundaryHash previousState hmore =>
      rw [hasForcedUpSeeding, dif_neg hmore]
      exact Asking.returns_raise

/-! ### How much is asked -/

omit [Python] in
/-- A page that is accepted has no more torrents than were asked for, less the one that was read
before. -/
theorem length_acceptForcedUpPage {limit : ℕ} {boundaryHash : Option String} {payload : List Item}
    {page : List QbTorrent} (h : acceptForcedUpPage limit boundaryHash payload = .ok page) :
    payload.length ≤ limit ∧ payload.length = page.length + boundaryHash.toList.length := by
  rw [acceptForcedUpPage, bind_eq_ok] at h
  obtain ⟨_, hlimit, h⟩ := h
  obtain ⟨read, hread, hrest⟩ := bind_eq_ok.mp h
  refine ⟨ensure_eq_ok.mp hlimit, ?_⟩
  rw [parseTorrents_eq_ok.mp hread, List.length_map]
  rcases afterBoundary_eq_ok.mp hrest with ⟨rfl, rfl⟩ | ⟨first, rfl, rfl⟩
  · rfl
  · rfl

/-- The scan of the pages sends no more requests than there are pages left. -/
theorem sends_hasForcedUpSeeding (inspected : ℕ) (boundaryHash previousState : Option String) :
    Asking.sends outside (qb.hasForcedUpSeeding inspected boundaryHash previousState)
      ((FORCED_UP_MAX_ITEMS - inspected + 98) / 99) := by
  induction inspected, boundaryHash, previousState using hasForcedUpSeeding.induct with
  | case1 inspected boundaryHash previousState hmore ih =>
      have hmax : FORCED_UP_MAX_ITEMS = 500 := rfl
      rw [hasForcedUpSeeding, dif_pos hmore]
      refine Asking.sends_mono (Asking.sends_bind
        (k := (FORCED_UP_MAX_ITEMS - inspected + 98) / 99 - 1) (sends_readTorrents _) ?_) (by omega)
      intro payload
      refine Asking.sends_ofExcept_bind fun page hpage => ?_
      refine Asking.sends_ofExcept_bind fun scanned _ => ?_
      obtain ⟨hlimit, hlength⟩ := length_acceptForcedUpPage (mapError_eq_ok.mp hpage)
      cases scanned with
      | inl answer => exact Asking.sends_pure
      | inr state =>
          change Asking.sends outside (if _ < _ then _ else _) _
          split
          · exact Asking.sends_pure
          · rename_i hfull
            split
            · exact Asking.sends_raise
            · rename_i last hlast
              refine Asking.sends_mono (ih payload page state last hlast) ?_
              -- a full page has 99 new torrents, or all that may be read
              have hoverlap : boundaryHash.toList.length ≤ 1 := by
                cases boundaryHash <;> simp
              have hpage : min 100 (500 - inspected + boundaryHash.toList.length) =
                  page.length + boundaryHash.toList.length :=
                hlength ▸ Nat.le_antisymm (Nat.le_of_not_lt hfull) hlimit
              omega
  | case2 inspected boundaryHash previousState hmore =>
      rw [hasForcedUpSeeding, dif_neg hmore]
      exact Asking.sends_raise

omit [Python] in
theorem sends_torrentProbe (sort : String) :
    Asking.sends outside (qb.torrentProbe sort) 1 := by
  rw [torrentProbe]
  exact Asking.sends_bind (k := 0) (sends_readTorrents _) fun _ => Asking.sends_ofExcept

/-! ### The answer -/

/-- **The answer is that of a scan of all torrents**, of a downloader whose listings are correct, if
there is one; and no downloader is sent more than eight requests. -/
theorem hasActiveSeeding_exact (qb : QbittorrentReadOnlyAdapter)
    (outside : Outside TorrentsParams TorrentsOutcome) :
    (qb.hasActiveSeeding.run outside).2.length ≤ 8 ∧
      ∀ (torrents : List QbTorrent) (seeds : QbTorrent → Bool)
        (listing : (sort : String) → (reverse : Bool) → List QbTorrent)
        (length : List QbTorrent → ℕ), CorrectListings torrents seeds listing →
          ServesListings listing length outside →
            ∀ answer, (qb.hasActiveSeeding.run outside).1 = .ok answer →
              answer = torrents.any isActiveSeeding := by
  constructor
  · refine Asking.wp_run (P := fun _ sent => sent.length ≤ 8) ?_
    rw [hasActiveSeeding]
    refine Asking.sends_bind (n := 1) (k := 7) (sends_torrentProbe _) fun fastest => ?_
    split
    · exact Asking.sends_pure
    · refine Asking.sends_bind (n := 1) (k := 6) (sends_torrentProbe _) fun lastState => ?_
      split
      · exact Asking.sends_pure
      · exact sends_hasForcedUpSeeding 0 none none
  · intro torrents seeds listing length hcorrect hserves
    suffices hreturns : Asking.returns outside qb.hasActiveSeeding
        fun answer => answer = torrents.any isActiveSeeding from Asking.returns_run hreturns
    -- a torrent that is found is one of the listing
    have hfound : ∀ (sort : String) (t : QbTorrent), t ∈ (listing sort true).head? →
        isActiveSeeding t = true → true = torrents.any isActiveSeeding := fun sort t ht hactive =>
      ((hcorrect.exists_active sort true).mp ⟨t, List.mem_of_head? ht, hactive⟩).symm
    have hidle : ∀ {found : Option QbTorrent}, ¬ found.any isActiveSeeding = true →
        ∀ t ∈ found, isActiveSeeding t = false := fun hnot t ht =>
      Bool.eq_false_iff.mpr fun hactive => hnot ((Option.any_eq_true _ _).mpr ⟨t, ht, hactive⟩)
    rw [hasActiveSeeding]
    refine Asking.returns_bind (returns_torrentProbe hserves "upspeed") fun fastest hfastest => ?_
    obtain ⟨rfl, hcomplete⟩ := hfastest
    split
    · rename_i hany
      obtain ⟨t, ht, hactive⟩ := (Option.any_eq_true _ _).mp hany
      exact Asking.returns_pure (hfound "upspeed" t ht hactive)
    · rename_i hslow
      refine Asking.returns_bind (returns_torrentProbe hserves "state") fun lastState hlast => ?_
      obtain ⟨rfl, hlastComplete⟩ := hlast
      split
      · rename_i hany
        obtain ⟨t, ht, hactive⟩ := (Option.any_eq_true _ _).mp hany
        exact Asking.returns_pure (hfound "state" t ht hactive)
      · rename_i hlate
        refine Asking.wp_mono (returns_hasForcedUpSeeding hserves hcorrect.firstState
          (fun t ht => hcorrect.forced ?_ ?_ ht) 0 none none ⟨Nat.zero_le _, rfl, ?_⟩) ?_
        · exact fun t ht => ⟨hcomplete t ht, hidle hslow t ht⟩
        · exact fun t ht => ⟨hlastComplete t ht, hidle hlate t ht⟩
        · exact fun t ht => absurd ht List.not_mem_nil
        · intro r _ hr answer hanswer
          have hiff := (hr answer hanswer).trans (hcorrect.exists_active "state" false)
          exact Bool.eq_iff_iff.mpr hiff

omit [Python] in
/-- The one torrent seeds actively. -/
theorem hasActiveSeeding_servesOne :
    ((@hasActiveSeeding asciiPython ⟨true, 10485760⟩).run servesOne).1 = .ok true := by
  let _ := asciiPython
  have hok : ((hasActiveSeeding ⟨true, 10485760⟩).run servesOne).1.isOk = true := by
    decide +kernel
  have hcorrect : CorrectListings [seedingTorrent] (fun _ => true) fun _ _ => [seedingTorrent] := by
    refine ⟨fun _ _ => List.Perm.refl _, fun _ _ _ => rfl, ?_, List.pairwise_singleton _ _,
      List.pairwise_singleton _ _, List.pairwise_singleton _ _⟩
    intro t ht _
    obtain rfl := List.mem_singleton.mp ht
    decide +kernel
  have hanswer := (@hasActiveSeeding_exact asciiPython ⟨true, 10485760⟩ servesOne).2
    [seedingTorrent] (fun _ => true) (fun _ _ => [seedingTorrent]) (fun _ => 500) hcorrect
    fun _ _ _ _ _ => rfl
  have hscan : [seedingTorrent].any isActiveSeeding = true := by decide +kernel
  obtain ⟨answer, hrun⟩ := exists_eq_ok hok
  rw [hrun, hanswer answer hrun, hscan]

end LibSeek.Adapters.QbittorrentReadOnlyAdapter
