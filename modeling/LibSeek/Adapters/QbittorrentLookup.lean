/-
The torrents with given hashes.

The hashes are asked for in batches, and a batch is halved when its reply is too large.  One torrent
can be known by several hashes, and be found in several batches.  Of a downloader that honours the
hashes it is asked for, a lookup returns the torrents that are asked for, each once.

Main definitions:

* `Adapters.Downloader` — what a downloader holds, one torrent for a hash;
* `Adapters.Asked` — a torrent that is asked for;
* `Adapters.QbittorrentReadOnlyAdapter.HonoursHashes` — an outside that honours the hashes.

Main results:

* `Adapters.mem_orderedHashes` — the hashes that are asked for;
* `Adapters.QbittorrentReadOnlyAdapter.returns_findTorrentsByHashBatch` — what a batch returns;
* `Adapters.QbittorrentReadOnlyAdapter.findTorrentsByHashes_exact` — **a lookup returns the torrents
  that are asked for, each once**.
-/

import LibSeek.Adapters.QbittorrentListing

set_option relaxedAutoImplicit false
set_option autoImplicit false

namespace LibSeek.Adapters

open LibSeek.Core LibSeek.Lib LibSeek.Schemas

/-! ### Hashes and torrents -/

/-- One of the hashes that a torrent is known by is among some hashes. -/
def Matches (hashes : List String) (t : QbTorrent) : Prop :=
  ∃ h ∈ t.identityHashes, h ∈ hashes

instance (hashes : List String) : DecidablePred (Matches hashes) :=
  fun t => inferInstanceAs (Decidable (∃ h ∈ t.identityHashes, h ∈ hashes))

theorem matches_append {first second : List String} {t : QbTorrent} :
    Matches (first ++ second) t ↔ Matches first t ∨ Matches second t := by
  constructor
  · rintro ⟨h, hidentity, hmem⟩
    rcases List.mem_append.mp hmem with hmem | hmem
    · exact Or.inl ⟨h, hidentity, hmem⟩
    · exact Or.inr ⟨h, hidentity, hmem⟩
  · rintro (⟨h, hidentity, hmem⟩ | ⟨h, hidentity, hmem⟩)
    · exact ⟨h, hidentity, List.mem_append_left _ hmem⟩
    · exact ⟨h, hidentity, List.mem_append_right _ hmem⟩

theorem not_matches_nil {t : QbTorrent} : ¬ Matches [] t := by
  rintro ⟨_, -, hmem⟩
  exact absurd hmem List.not_mem_nil

/-- A torrent **is asked for**: one of its hashes is given, or is where a long one that is given
begins. -/
def Asked (hashes : List String) (t : QbTorrent) : Prop :=
  ∃ h ∈ t.identityHashes, ∃ value ∈ hashes,
    h = lowerHex value ∨ ((lowerHex value).toList.length = 64 ∧ h = takeStr (lowerHex value) 40)

instance (hashes : List String) : DecidablePred (Asked hashes) := fun t =>
  inferInstanceAs (Decidable (∃ h ∈ t.identityHashes, ∃ value ∈ hashes,
    h = lowerHex value ∨ ((lowerHex value).toList.length = 64 ∧ h = takeStr (lowerHex value) 40)))

/-- What a downloader holds: it keeps one torrent for a hash. -/
structure Downloader where
  torrents : List QbTorrent
  nodup : (torrents.map (·.hash.text)).Nodup

/-- The torrents of a downloader are told apart by their hash. -/
theorem Downloader.eq_of_hash (d : Downloader) {t u : QbTorrent} (ht : t ∈ d.torrents)
    (hu : u ∈ d.torrents) (h : t.hash.text = u.hash.text) : t = u :=
  List.inj_on_of_nodup_map d.nodup ht hu h

theorem mapM_normalizeHash {hashes normalized : List String}
    (h : hashes.mapM normalizeHash = .ok normalized) :
    normalized = hashes.map lowerHex := by
  induction hashes generalizing normalized with
  | nil =>
      rw [List.mapM_nil, pure_eq_ok] at h
      exact h.symm
  | cons value hashes ih =>
      rw [List.mapM_cons, bind_eq_ok] at h
      obtain ⟨first, hfirst, h⟩ := h
      obtain ⟨rest, hrest, h⟩ := bind_eq_ok.mp h
      cases pure_eq_ok.mp h
      rw [normalizeHash, bind_eq_ok] at hfirst
      obtain ⟨_, -, hfirst⟩ := hfirst
      rw [List.map_cons, ← pure_eq_ok.mp hfirst, ih hrest]

/-- **The hashes that are asked for** are those given and where the long ones begin. -/
theorem mem_orderedHashes {hashes ordered : List String}
    (h : orderedHashes hashes = .ok ordered) (value : String) :
    value ∈ ordered ↔ ∃ given ∈ hashes, value = lowerHex given ∨
      ((lowerHex given).toList.length = 64 ∧ value = takeStr (lowerHex given) 40) := by
  rw [orderedHashes, bind_eq_ok] at h
  obtain ⟨normalized, hnormalized, h⟩ := h
  obtain rfl := mapM_normalizeHash hnormalized
  rw [← pure_eq_ok.mp h, (List.perm_insertionSort _ _).mem_iff, List.mem_dedup, List.mem_append,
    List.mem_map]
  constructor
  · rintro (⟨given, hgiven, rfl⟩ | hlong)
    · exact ⟨given, hgiven, Or.inl rfl⟩
    · obtain ⟨long, hfilter, rfl⟩ := List.mem_map.mp hlong
      obtain ⟨hmem, hlength⟩ := List.mem_filter.mp hfilter
      obtain ⟨given, hgiven, rfl⟩ := List.mem_map.mp hmem
      exact ⟨given, hgiven, Or.inr ⟨of_decide_eq_true hlength, rfl⟩⟩
  · rintro ⟨given, hgiven, rfl | ⟨hlength, rfl⟩⟩
    · exact Or.inl ⟨given, hgiven, rfl⟩
    · exact Or.inr (List.mem_map.mpr ⟨_, List.mem_filter.mpr
        ⟨List.mem_map.mpr ⟨given, hgiven, rfl⟩, decide_eq_true hlength⟩, rfl⟩)

theorem matches_orderedHashes {hashes ordered : List String}
    (h : orderedHashes hashes = .ok ordered) (t : QbTorrent) :
    Matches ordered t ↔ Asked hashes t := by
  constructor
  · rintro ⟨value, hidentity, hmem⟩
    exact ⟨value, hidentity, (mem_orderedHashes h value).mp hmem⟩
  · rintro ⟨value, hidentity, hgiven⟩
    exact ⟨value, hidentity, (mem_orderedHashes h value).mpr hgiven⟩

/-- No more than two hashes are asked for where one is given. -/
theorem length_orderedHashes {hashes ordered : List String}
    (h : orderedHashes hashes = .ok ordered) :
    ordered.length ≤ 2 * hashes.length := by
  rw [orderedHashes, bind_eq_ok] at h
  obtain ⟨normalized, hnormalized, h⟩ := h
  obtain rfl := mapM_normalizeHash hnormalized
  rw [← pure_eq_ok.mp h, List.length_insertionSort]
  refine Nat.le_trans (List.dedup_sublist _).length_le ?_
  rw [List.length_append, List.length_map, List.length_map, Nat.two_mul]
  refine Nat.add_le_add_left ?_ _
  exact Nat.le_trans (List.length_filter_le _ _) (Nat.le_of_eq (List.length_map _))

/-! ### Collecting -/

/-- Torrents of a downloader, each at most once. -/
structure Collected (d : Downloader) (torrents : List QbTorrent) : Prop where
  subset : torrents ⊆ d.torrents
  nodup : torrents.Nodup

/-- A torrent is collected once. -/
theorem Collected.collectOne {d : Downloader} {torrents : List QbTorrent} {t : QbTorrent}
    (h : Collected d torrents) (ht : t ∈ d.torrents) :
    Collected d (collectTorrents torrents [t]) ∧
      ∀ u, u ∈ collectTorrents torrents [t] ↔ u ∈ torrents ∨ u = t := by
  rw [collectTorrents, List.foldl_cons, List.foldl_nil]
  by_cases hany : (torrents.any (·.hash = t.hash)) = true
  · -- a torrent of the same hash is the same torrent
    obtain ⟨v, hv, hsame⟩ := List.any_eq_true.mp hany
    have hvt : v = t :=
      d.eq_of_hash (h.subset hv) ht (congrArg InfoHash.text (of_decide_eq_true hsame))
    have hmap : (torrents.map fun u => if u.hash = t.hash then t else u) = torrents := by
      conv_rhs => rw [← List.map_id torrents]
      refine List.map_congr_left fun u hu => ?_
      by_cases hhash : u.hash = t.hash
      · rw [if_pos hhash]
        exact (d.eq_of_hash (h.subset hu) ht (congrArg InfoHash.text hhash)).symm
      · rw [if_neg hhash]
        rfl
    rw [if_pos hany, hmap]
    refine ⟨h, fun u => ⟨Or.inl, ?_⟩⟩
    rintro (hu | rfl)
    · exact hu
    · exact hvt ▸ hv
  · rw [if_neg hany]
    have hnot : t ∉ torrents := fun hmem =>
      hany (List.any_eq_true.mpr ⟨t, hmem, decide_eq_true rfl⟩)
    constructor
    · constructor
      · intro u hu
        rcases List.mem_append.mp hu with hu | hu
        · exact h.subset hu
        · exact List.mem_singleton.mp hu ▸ ht
      · refine List.nodup_append.mpr ⟨h.nodup, List.nodup_singleton t, ?_⟩
        rintro u hu v hv rfl
        exact hnot (List.mem_singleton.mp hv ▸ hu)
    · intro u
      rw [List.mem_append, List.mem_singleton]

/-- A page is collected: its torrents join those that were there. -/
theorem Collected.collectTorrents {d : Downloader} {torrents page : List QbTorrent}
    (h : Collected d torrents) (hpage : page ⊆ d.torrents) :
    Collected d (collectTorrents torrents page) ∧
      ∀ u, u ∈ collectTorrents torrents page ↔ u ∈ torrents ∨ u ∈ page := by
  induction page generalizing torrents with
  | nil => exact ⟨h, fun u => ⟨Or.inl, fun hu => hu.resolve_right List.not_mem_nil⟩⟩
  | cons t page ih =>
      obtain ⟨hone, hmem⟩ := h.collectOne (hpage List.mem_cons_self)
      obtain ⟨hall, hrest⟩ := ih hone fun u hu => hpage (List.mem_cons_of_mem _ hu)
      refine ⟨hall, fun u => (hrest u).trans ?_⟩
      rw [hmem, List.mem_cons, or_assoc]

namespace QbittorrentReadOnlyAdapter

variable {qb : QbittorrentReadOnlyAdapter} {outside : Outside TorrentsParams TorrentsOutcome}

/-! ### A batch -/

/-- The outside **honours the hashes**, whatever was asked before: it serves the torrents that match
them, up to the limit. -/
def HonoursHashes (torrents : List QbTorrent) (length : List QbTorrent → ℕ)
    (outside : Outside TorrentsParams TorrentsOutcome) : Prop :=
  ∀ asked hashes limit, outside asked { hashes, limit } =
    .answered
      { contentLength := length ((torrents.filter (Matches hashes)).take limit)
        body := .list (((torrents.filter (Matches hashes)).take limit).map Except.ok) }

/-- A request returns what is served, and is given up only for a batch that can be halved. -/
theorem returns_askHashBatch {torrents : List QbTorrent} {length : List QbTorrent → ℕ}
    (h : HonoursHashes torrents length outside) (hashes : List String) :
    Asking.returns outside (qb.askHashBatch hashes) fun payload =>
      (payload = none → hashes.length ≠ 1) ∧ ∀ items ∈ payload,
        items = ((torrents.filter (Matches hashes)).take (hashes.length + 1)).map Except.ok := by
  rw [askHashBatch]
  refine Asking.returns_handle ?_ fun e => ?_
  · refine Asking.returns_bind (returns_served fun asked => h asked hashes _) ?_
    rintro items rfl
    refine Asking.returns_pure ⟨(fun hnone => nomatch hnone), ?_⟩
    exact fun _ hitems => (Option.some.inj hitems).symm
  · split
    · exact Asking.returns_raise
    · rename_i hgiveUp
      exact Asking.returns_pure ⟨fun _ => (not_or.mp hgiveUp).2, fun _ hitems => nomatch hitems⟩

theorem acceptHashPage_eq_ok {hashes : List String} {torrents page : List QbTorrent}
    (h : acceptHashPage hashes
      (((torrents.filter (Matches hashes)).take (hashes.length + 1)).map Except.ok) = .ok page) :
    page = torrents.filter (Matches hashes) := by
  rw [acceptHashPage, bind_eq_ok] at h
  obtain ⟨read, hread, h⟩ := h
  obtain ⟨_, hcheck, h⟩ := bind_eq_ok.mp h
  have hsame : read = (torrents.filter (Matches hashes)).take (hashes.length + 1) :=
    (List.map_injective_iff.mpr (fun _ _ heq => Except.ok.inj heq)
      (parseTorrents_eq_ok.mp hread)).symm
  -- one more was asked for than there can be, so none was left out
  have hcount := (ensure_eq_ok.mp hcheck).1
  rw [hsame, List.length_take] at hcount
  rw [← pure_eq_ok.mp h, hsame, List.take_of_length_le]
  omega

/-- **A batch returns the torrents that match it**, whatever halves it is split into. -/
theorem returns_findTorrentsByHashBatch {torrents : List QbTorrent} {length : List QbTorrent → ℕ}
    (h : HonoursHashes torrents length outside) (batch : HashBatch) :
    Asking.returns outside (qb.findTorrentsByHashBatch batch) fun page =>
      ∀ t, t ∈ page ↔ t ∈ torrents ∧ Matches batch.val t := by
  rw [findTorrentsByHashBatch]
  induction batch using Adapters.findTorrentsByHashBatch.induct with
  | case1 batch ihFirst ihSecond =>
      rw [Adapters.findTorrentsByHashBatch]
      refine Asking.returns_bind (returns_askHashBatch h batch.val) fun payload hpayload => ?_
      cases payload with
      | some items =>
          obtain rfl := hpayload.2 items rfl
          refine Asking.returns_ofExcept fun page hpage t => ?_
          rw [acceptHashPage_eq_ok (mapError_eq_ok.mp hpage), List.mem_filter, decide_eq_true_eq]
      | none =>
          change Asking.returns outside (if h : batch.val.length = 1 then _ else _) _
          split
          · rename_i hlength
            exact absurd hlength (hpayload.1 rfl)
          · rename_i hlength
            refine Asking.returns_bind (ihFirst hlength) fun first hfirst => ?_
            refine Asking.returns_bind (ihSecond hlength) fun second hsecond => ?_
            refine Asking.returns_pure fun t => ?_
            rw [List.mem_append, hfirst, hsecond, ← and_or_left, ← matches_append]
            rw [HashBatch.first, HashBatch.second, List.take_append_drop]

/-! ### All batches -/

theorem flatten_hashBatches (hashes : List String) :
    ((hashBatches hashes).map (·.val)).flatten = hashes := by
  induction hashes using hashBatches.induct with
  | case1 => simp [hashBatches]
  | case2 hashes hne ih =>
      rw [hashBatches, dif_neg hne, List.map_cons, List.flatten_cons, ih, List.take_append_drop]

/-- The loop over the batches collects the torrents that match one of them. -/
theorem returns_findBatches {d : Downloader} {length : List QbTorrent → ℕ}
    (h : HonoursHashes d.torrents length outside) (batches : List HashBatch)
    (torrents : List QbTorrent) (hcollected : Collected d torrents) :
    Asking.returns outside (findBatches qb.findTorrentsByHashBatch batches torrents) fun all =>
      Collected d all ∧ ∀ t, t ∈ all ↔
        t ∈ torrents ∨ t ∈ d.torrents ∧ Matches (batches.map (·.val)).flatten t := by
  induction batches generalizing torrents with
  | nil =>
      rw [findBatches]
      refine Asking.returns_pure ⟨hcollected, fun t => ⟨Or.inl, ?_⟩⟩
      exact fun ht => ht.resolve_right fun hmatches => not_matches_nil hmatches.2
  | cons batch batches ih =>
      rw [findBatches]
      refine Asking.returns_bind (returns_findTorrentsByHashBatch h batch) fun page hpage => ?_
      obtain ⟨hnext, hmem⟩ := hcollected.collectTorrents fun t ht => ((hpage t).mp ht).1
      refine Asking.wp_mono (ih _ hnext) fun r _ hr all hall => ?_
      obtain ⟨hcollected, hall⟩ := hr all hall
      refine ⟨hcollected, fun t => (hall t).trans ?_⟩
      rw [hmem, hpage, List.map_cons, List.flatten_cons, matches_append, and_or_left, or_assoc]

/-! ### How much is asked -/

/-- A batch sends fewer requests than twice its hashes. -/
theorem sends_findTorrentsByHashBatch (batch : HashBatch) :
    Asking.sends outside (qb.findTorrentsByHashBatch batch) (2 * batch.val.length - 1) := by
  rw [findTorrentsByHashBatch]
  induction batch using Adapters.findTorrentsByHashBatch.induct with
  | case1 batch ihFirst ihSecond =>
      have hpos : 0 < batch.val.length := List.length_pos_iff.mpr batch.property
      have hask : Asking.sends outside (qb.askHashBatch batch.val) 1 := by
        rw [askHashBatch]
        refine Asking.sends_mono (Asking.sends_handle (n := 1) (k := 0)
          (Asking.sends_bind (k := 0) (sends_readTorrents _) fun _ => Asking.sends_pure)
          fun e => ?_) (Nat.le_refl 1)
        split
        · exact Asking.sends_raise
        · exact Asking.sends_pure
      rw [Adapters.findTorrentsByHashBatch]
      refine Asking.sends_mono (Asking.sends_bind (k := 2 * batch.val.length - 2) hask ?_)
        (by omega)
      intro payload
      cases payload with
      | some items => exact Asking.sends_ofExcept
      | none =>
          change Asking.sends outside (if h : batch.val.length = 1 then _ else _) _
          split
          · exact Asking.sends_pure
          · rename_i hlength
            have hfirst : (batch.first hlength).val.length = batch.val.length / 2 := by
              rw [HashBatch.first, List.length_take]
              omega
            have hsecond : batch.second.val.length =
                batch.val.length - batch.val.length / 2 := by
              rw [HashBatch.second, List.length_drop]
            refine Asking.sends_mono (Asking.sends_bind (ihFirst hlength) fun _ =>
              Asking.sends_bind (k := 0) (ihSecond hlength) fun _ => Asking.sends_pure) ?_
            rw [hfirst, hsecond]
            omega

theorem sends_findBatches (batches : List HashBatch) (torrents : List QbTorrent) :
    Asking.sends outside (findBatches qb.findTorrentsByHashBatch batches torrents)
      (2 * (batches.map (·.val)).flatten.length) := by
  induction batches generalizing torrents with
  | nil => exact Asking.sends_pure
  | cons batch batches ih =>
      rw [findBatches]
      refine Asking.sends_mono
        (Asking.sends_bind (sends_findTorrentsByHashBatch batch) fun _ => ih _) ?_
      rw [List.map_cons, List.flatten_cons, List.length_append]
      omega

/-! ### A lookup -/

/-- **A lookup returns the torrents that are asked for, each once**, of a downloader that honours
the hashes, if it returns; and of any it sends a bounded number of requests. -/
theorem findTorrentsByHashes_exact (qb : QbittorrentReadOnlyAdapter)
    (outside : Outside TorrentsParams TorrentsOutcome) (hashes : List String) :
    ((qb.findTorrentsByHashes hashes).run outside).2.length ≤ 4 * hashes.length ∧
      ∀ (d : Downloader) (length : List QbTorrent → ℕ), HonoursHashes d.torrents length outside →
        ∀ torrents, ((qb.findTorrentsByHashes hashes).run outside).1 = .ok torrents →
          torrents.Perm (d.torrents.filter (Asked hashes)) := by
  constructor
  · refine Asking.wp_run (P := fun _ sent => sent.length ≤ 4 * hashes.length) ?_
    rw [findTorrentsByHashes]
    cases hordered : orderedHashes hashes with
    | error e => exact Asking.wp_bind (Asking.wp_ofExcept (Nat.zero_le _))
    | ok ordered =>
        refine Asking.wp_bind (Asking.wp_ofExcept ?_)
        refine Asking.sends_mono (sends_findBatches (hashBatches ordered) []) ?_
        have hlength := length_orderedHashes hordered
        rw [flatten_hashBatches]
        omega
  · intro d length hserves
    suffices hreturns : Asking.returns outside (qb.findTorrentsByHashes hashes)
        fun torrents => torrents.Perm (d.torrents.filter (Asked hashes)) from
      Asking.returns_run hreturns
    rw [findTorrentsByHashes]
    have hordering : Asking.returns outside
        (Asking.ofExcept ((orderedHashes hashes).mapError Exn.app))
        fun ordered => orderedHashes hashes = .ok ordered :=
      Asking.returns_ofExcept fun _ => mapError_eq_ok.mp
    refine Asking.returns_bind hordering fun ordered hordered => ?_
    have hempty : Collected d [] := ⟨List.nil_subset _, List.nodup_nil⟩
    refine Asking.wp_mono (returns_findBatches hserves (hashBatches ordered) [] hempty) ?_
    intro r _ hr torrents htorrents
    obtain ⟨hcollected, hmem⟩ := hr torrents htorrents
    refine (List.perm_ext_iff_of_nodup hcollected.nodup
      (List.Nodup.filter _ (List.Nodup.of_map _ d.nodup))).mpr fun t => ?_
    rw [hmem, flatten_hashBatches, matches_orderedHashes hordered, List.mem_filter,
      decide_eq_true_eq]
    exact ⟨fun ht => ht.resolve_left List.not_mem_nil, Or.inr⟩

/-- An outside that honours the hashes: it holds one torrent. -/
def honoursOne : Outside TorrentsParams TorrentsOutcome := fun _ params =>
  .answered
    { contentLength := 500
      body := .list ((([seedingTorrent].filter (Matches params.hashes)).take params.limit).map
        Except.ok) }

/-- The lookup of the one torrent. -/
theorem findTorrentsByHashes_honoursOne :
    ∃ torrents,
      ((findTorrentsByHashes ⟨true, 10485760⟩ [seedingTorrent.hash.text]).run honoursOne).1 =
        .ok torrents ∧ torrents.Perm [seedingTorrent] := by
  have hok : ((findTorrentsByHashes ⟨true, 10485760⟩ [seedingTorrent.hash.text]).run
      honoursOne).1.isOk = true := by
    decide +kernel
  have hfound := (findTorrentsByHashes_exact ⟨true, 10485760⟩ honoursOne
    [seedingTorrent.hash.text]).2 ⟨[seedingTorrent], List.nodup_singleton _⟩ (fun _ => 500)
    fun _ _ _ => rfl
  have hasked : [seedingTorrent].filter (Asked [seedingTorrent.hash.text]) = [seedingTorrent] := by
    decide +kernel
  obtain ⟨torrents, hrun⟩ := exists_eq_ok hok
  exact ⟨torrents, hrun, hasked ▸ hfound torrents hrun⟩

end QbittorrentReadOnlyAdapter

end LibSeek.Adapters
