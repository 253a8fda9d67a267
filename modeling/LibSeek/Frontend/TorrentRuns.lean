/-
What the store of the torrent searches shows, and what it confirms.

Whatever the order in which the calls are made and the answers arrive, the candidates that are shown
are of the search that is chosen, and that search is of the active media item.  An answer is written
only where its generations are still those of the store, and a task that waits remembers nothing of
them that the store has left behind: the invariant says so of every task.

A media item whose searches are still loading has none yet, and nothing can be chosen, created or
refreshed for it until they are there.  That is why a loading that fails may clear what is chosen
without a new generation of the choice.

Main definitions:

* `Frontend.Torrents.Shown` — the fields that matter for what is shown;
* `Frontend.Torrents.Fits` — what a task that waits remembers fits the store;
* `Frontend.Torrents.Safe` — the invariant of the store with its tasks;
* `Frontend.Torrents.Keyed` — the invariant of the keys.

Main results:

* `Frontend.Torrents.safe_of_reaches` — **the invariant holds in every run**;
* `Frontend.Torrents.store_consistent` — **what is shown belongs together, what is confirmed is
  shown, and every request for a candidate has the same key until one of them was blocked**.
-/

import LibSeek.Frontend.Torrents

set_option relaxedAutoImplicit false
set_option autoImplicit false

namespace LibSeek.Frontend.Torrents

open LibSeek.Lib

/-! ### The fields that are shown -/

/-- The fields that matter for what is shown. -/
structure Shown where
  media : Option MediaItem
  runs : List TorrentSearchRun
  selectedRunId : Option String
  selectedRun : Option TorrentSearchRun
  candidates : List TorrentCandidateResult
  activeMediaId : Option String
  generation : ℕ
  selectionGeneration : ℕ

/-- They of the store. -/
def State.shown (s : State) : Shown where
  media := s.media
  runs := s.runs
  selectedRunId := s.selectedRunId
  selectedRun := s.selectedRun
  candidates := s.candidates
  activeMediaId := s.activeMediaId
  generation := s.generation
  selectionGeneration := s.selectionGeneration

/-- **What is shown belongs together**: the candidates are of the search that is chosen, and that
search is of the active media item. -/
structure Consistent (v : Shown) : Prop where
  candidates : ∀ item ∈ v.candidates, v.selectedRunId = some item.searchRunId
  run : ∀ run ∈ v.selectedRun, v.selectedRunId = some run.id ∧ v.activeMediaId = some run.mediaId

@[simp] theorem shown_cancelRunPolling (s : State) : s.cancelRunPolling.shown = s.shown := rfl

@[simp] theorem shown_cancelAction (s : State) : s.cancelAction.shown = s.shown := rfl

@[simp] theorem shown_catalogLoaded (s : State) (previousSiteId : String) (current : ℕ)
    (answer : Except Caught PtSiteCatalog) :
    (s.catalogLoaded previousSiteId current answer).shown = s.shown := by
  unfold State.catalogLoaded
  split_ifs
  · rfl
  · cases answer with
    | error caught => rfl
    | ok result =>
        cases hfault : catalogFault result with
        | none => simp only [hfault]; rfl
        | some message => simp only [hfault]; rfl

@[simp] theorem shown_actionEnded (s : State) (current : ℕ) :
    (s.actionEnded current).shown = s.shown := by
  unfold State.actionEnded
  split_ifs <;> rfl

@[simp] theorem shown_actionFailed (s : State) (current expectedGeneration : ℕ) (caught : Caught)
    (fallback : String) :
    (s.actionFailed current expectedGeneration caught fallback).shown = s.shown := by
  unfold State.actionFailed
  split_ifs
  · exact shown_actionEnded _ _
  · exact shown_actionEnded _ _

@[simp] theorem shown_pollingEnded (s : State) (polling : Polling) :
    (s.pollingEnded polling).shown = s.shown := by
  unfold State.pollingEnded
  split_ifs <;> rfl

@[simp] theorem shown_pollingFailed (s : State) (polling : Polling) (caught : Caught) :
    (s.pollingFailed polling caught).shown = s.shown := by
  unfold State.pollingFailed
  split_ifs
  · exact shown_pollingEnded _ _
  · exact shown_pollingEnded _ _

@[simp] theorem shown_pollingTold [JsRuntime] (s : State) (run : TorrentSearchRun) :
    (s.pollingTold run).shown = s.shown := by
  unfold State.pollingTold
  split_ifs <;> rfl

/-! ### The invariant -/

/-- The loading that a task waits for. -/
def Task.loading : Task → Option ℕ
  | .load _ current => some current
  | _ => none

/-- The loadings that wait. -/
def loadings (tasks : List Task) : List ℕ :=
  tasks.filterMap Task.loading

/-- The generation was one of the media item: where it is still that of the store, the media item is
the active one. -/
structure Belongs (v : Shown) (generation : ℕ) (mediaId : String) : Prop where
  le : generation ≤ v.generation
  active : generation = v.generation → v.activeMediaId = some mediaId

/-- What goes on after a search was chosen fits. -/
def Resume.Fits (v : Shown) : Resume → Prop
  | .load mediaId current => Belongs v current mediaId
  | .create .. => True

/-- A choice that waits fits: it was made once the searches were loaded, and is the one that the
store shows where its generations are those of the store. -/
structure Selection.Fits (v : Shown) (loading : List ℕ) (selection : Selection) : Prop where
  belongs : Belongs v selection.expectedGeneration selection.expectedMediaId
  loaded : selection.expectedGeneration ∉ loading
  le : selection.current ≤ v.selectionGeneration
  chosen : selection.expectedGeneration = v.generation →
    selection.current = v.selectionGeneration → v.selectedRunId = some selection.searchId
  resume : ∀ resume ∈ selection.resume, resume.Fits v

/-- **What a task that waits remembers fits the store**, of which some loadings wait. -/
def Fits (v : Shown) (loading : List ℕ) : Task → Prop
  | .load mediaId current => Belongs v current mediaId
  | .select selection => selection.Fits v loading
  | .resume resume => resume.Fits v
  | .pollWait polling => Belongs v polling.expectedGeneration polling.mediaId
  | .pollFetch polling _ => Belongs v polling.expectedGeneration polling.mediaId
  | .create _ _ _ _ expectedGeneration =>
      expectedGeneration ≤ v.generation ∧ expectedGeneration ∉ loading
  | _ => True

/-- **The invariant of the store with the tasks that wait**: what is shown belongs together, every
task fits, no loading waits twice, and while that of the active media item waits there is neither
the item nor a search of it. -/
structure Safe (v : Shown) (tasks : List Task) : Prop where
  consistent : Consistent v
  fits : ∀ t ∈ tasks, Fits v (loadings tasks) t
  nodup : (loadings tasks).Nodup
  empty : v.generation ∈ loadings tasks → v.media = none ∧ v.runs = []

/-- The loadings of some tasks and of others. -/
theorem loadings_append (tasks others : List Task) :
    loadings (tasks ++ others) = loadings tasks ++ loadings others :=
  List.filterMap_append

/-- The order of the tasks does not matter. -/
theorem Safe.perm {v : Shown} {tasks tasks' : List Task} (h : Safe v tasks)
    (hperm : tasks.Perm tasks') : Safe v tasks' := by
  have hloadings : (loadings tasks).Perm (loadings tasks') := hperm.filterMap _
  refine ⟨h.consistent, fun t ht => ?_, hloadings.nodup_iff.mp h.nodup, fun hmem => ?_⟩
  · have hfits := h.fits t (hperm.mem_iff.mpr ht)
    cases t with
    | select selection =>
        obtain ⟨hbelongs, hloaded, hle, hchosen, hresume⟩ := hfits
        exact ⟨hbelongs, fun hmem => hloaded (hloadings.mem_iff.mpr hmem), hle, hchosen, hresume⟩
    | create mediaId payload displayName current expectedGeneration =>
        exact ⟨hfits.1, fun hmem => hfits.2 (hloadings.mem_iff.mpr hmem)⟩
    | _ => exact hfits
  · exact h.empty (hloadings.mem_iff.mpr hmem)

/-- A turn within one generation: the store keeps its generation and the active media item, and
what is chosen changes only with a new generation of the choice, or while the searches are still
loading. -/
structure Within (v v' : Shown) (loading : List ℕ) : Prop where
  generation : v'.generation = v.generation
  activeMediaId : v'.activeMediaId = v.activeMediaId
  le : v.selectionGeneration ≤ v'.selectionGeneration
  chosen : v'.selectionGeneration = v.selectionGeneration →
    v'.selectedRunId = v.selectedRunId ∨ v.generation ∈ loading

/-- Nothing changes. -/
theorem Within.refl (v : Shown) (loading : List ℕ) : Within v v loading :=
  ⟨rfl, rfl, Nat.le_refl _, fun _ => Or.inl rfl⟩

/-- What belonged to a media item still does. -/
theorem Belongs.within {v v' : Shown} {loading : List ℕ} (hwithin : Within v v' loading)
    {generation : ℕ} {mediaId : String} (h : Belongs v generation mediaId) :
    Belongs v' generation mediaId := by
  refine ⟨hwithin.generation ▸ h.le, fun heq => ?_⟩
  rw [hwithin.activeMediaId]
  exact h.active (heq.trans hwithin.generation)

/-- What goes on after a choice speaks of the generation and of the active media item only. -/
theorem Resume.Fits.kept {v v' : Shown}
    (hkept : v'.generation = v.generation ∧ v'.activeMediaId = v.activeMediaId) {resume : Resume}
    (h : resume.Fits v) : resume.Fits v' := by
  cases resume with
  | load mediaId current =>
      have hbelongs : Belongs v current mediaId := h
      refine ⟨hkept.1 ▸ hbelongs.le, fun heq => ?_⟩
      rw [hkept.2]
      exact hbelongs.active (heq.trans hkept.1)
  | create creation attempt => trivial

theorem Resume.Fits.within {v v' : Shown} {loading : List ℕ} (hwithin : Within v v' loading)
    {resume : Resume} (h : resume.Fits v) : resume.Fits v' :=
  h.kept ⟨hwithin.generation, hwithin.activeMediaId⟩

/-- A choice that fitted still does: what is chosen was not changed, or its generation is past. -/
theorem Selection.Fits.within {v v' : Shown} {loading loading' : List ℕ}
    (hwithin : Within v v' loading) (hsub : ∀ n ∈ loading', n ∈ loading) {selection : Selection}
    (h : selection.Fits v loading) : selection.Fits v' loading' := by
  refine ⟨h.belongs.within hwithin, fun hmem => h.loaded (hsub _ hmem),
    Nat.le_trans h.le hwithin.le, fun hgeneration hcurrent => ?_,
    fun resume hresume => (h.resume resume hresume).within hwithin⟩
  have hsame : selection.expectedGeneration = v.generation :=
    hgeneration.trans hwithin.generation
  have hquiet : v'.selectionGeneration = v.selectionGeneration :=
    Nat.le_antisymm (hcurrent ▸ h.le) hwithin.le
  rcases hwithin.chosen hquiet with hkept | hloading
  · rw [hkept]
    exact h.chosen hsame (hcurrent.trans hquiet)
  · exact absurd (hsame ▸ hloading) h.loaded

/-- **A task that fitted still does** after a turn within one generation. -/
theorem Fits.within {v v' : Shown} {loading loading' : List ℕ} (hwithin : Within v v' loading)
    (hsub : ∀ n ∈ loading', n ∈ loading) {t : Task} (h : Fits v loading t) :
    Fits v' loading' t := by
  cases t with
  | load mediaId current => exact Belongs.within hwithin h
  | select selection => exact Selection.Fits.within hwithin hsub h
  | resume resume => exact Resume.Fits.within hwithin h
  | pollWait polling => exact Belongs.within hwithin h
  | pollFetch polling listedSite => exact Belongs.within hwithin h
  | create mediaId payload displayName current expectedGeneration =>
      exact ⟨hwithin.generation ▸ h.1, fun hmem => h.2 (hsub _ hmem)⟩
  | _ => trivial

/-- **A turn within one generation** keeps the invariant: tasks may stop waiting, and others that
fit and load nothing may be left behind. -/
theorem Safe.within {v v' : Shown} {tasks kept new : List Task} (h : Safe v tasks)
    (hwithin : Within v v' (loadings tasks)) (hkept : kept.Sublist tasks)
    (hconsistent : Consistent v')
    (hempty : v'.generation ∈ loadings kept → v'.media = none ∧ v'.runs = [])
    (hnew : ∀ t ∈ new, t.loading = none ∧ Fits v' (loadings kept) t) :
    Safe v' (kept ++ new) := by
  have hquiet : loadings new = [] :=
    List.filterMap_eq_nil_iff.mpr fun t ht => (hnew t ht).1
  have hloadings : loadings (kept ++ new) = loadings kept := by
    rw [loadings_append, hquiet, List.append_nil]
  have hsub : (loadings kept).Sublist (loadings tasks) := hkept.filterMap _
  refine ⟨hconsistent, fun t ht => ?_, ?_, ?_⟩
  · rw [hloadings]
    rcases List.mem_append.mp ht with hold | hadded
    · exact (h.fits t (hkept.mem hold)).within hwithin fun n hn => hsub.mem hn
    · exact (hnew t hadded).2
  · rw [hloadings]
    exact h.nodup.sublist hsub
  · rw [hloadings]
    exact hempty

/-- A turn that shows what was shown. -/
theorem Safe.same {v v' : Shown} {tasks kept new : List Task} (h : Safe v tasks)
    (hsame : v' = v) (hkept : kept.Sublist tasks)
    (hnew : ∀ t ∈ new, t.loading = none ∧ Fits v (loadings kept) t) : Safe v' (kept ++ new) := by
  subst hsame
  refine h.within (Within.refl _ _) hkept h.consistent (fun hmem => ?_) hnew
  exact h.empty ((hkept.filterMap _).mem hmem)

/-! ### What a turn does -/

/-- No task is left behind. -/
theorem none_new {v : Shown} {loading : List ℕ} :
    ∀ t ∈ ([] : List Task), t.loading = none ∧ Fits v loading t :=
  fun _ ht => absurd ht List.not_mem_nil

/-- What goes on after a search was chosen is left behind, and fits. -/
theorem resumed_new {v : Shown} {loading : List ℕ} {resume : Option Resume}
    (h : ∀ r ∈ resume, r.Fits v) : ∀ t ∈ resumed resume, t.loading = none ∧ Fits v loading t := by
  intro t ht
  cases resume with
  | none => exact absurd ht List.not_mem_nil
  | some r =>
      obtain rfl := List.mem_singleton.mp ht
      exact ⟨rfl, h r rfl⟩

/-- Nothing is shown. -/
theorem consistent_none {v : Shown} (hcandidates : v.candidates = [])
    (hrun : v.selectedRun = none) : Consistent v := by
  refine ⟨fun item hitem => ?_, fun run hmem => ?_⟩
  · rw [hcandidates] at hitem
    exact absurd hitem List.not_mem_nil
  · rw [hrun] at hmem
    cases hmem

/-- The choice is given up. -/
theorem Safe.cancelSelection {s : State} {tasks : List Task} (h : Safe s.shown tasks) :
    Safe s.cancelSelection.shown tasks := by
  have hwithin : Within s.shown s.cancelSelection.shown (loadings tasks) :=
    ⟨rfl, rfl, Nat.le_succ _, fun hquiet => absurd hquiet (Nat.succ_ne_self _)⟩
  have hconsistent : Consistent s.cancelSelection.shown :=
    ⟨h.consistent.candidates, h.consistent.run⟩
  have hsafe := h.within hwithin (List.Sublist.refl _) hconsistent h.empty none_new
  rwa [List.append_nil] at hsafe

/-- What choosing a search does: it asks for it, where it is one of those that are listed, or nothing
is chosen. -/
theorem selectRun_cases (s : State) (searchId : String) (resume : Option Resume) :
    (∃ expectedMediaId listedSite, s.activeMediaId = some expectedMediaId ∧ s.runs ≠ [] ∧
      (s.selectRun searchId resume).state.shown =
        { s.shown with
          selectedRunId := some searchId
          selectedRun := none
          candidates := []
          selectionGeneration := s.selectionGeneration + 1 } ∧
      (s.selectRun searchId resume).tasks =
        [.select ⟨searchId, expectedMediaId, listedSite, s.selectionGeneration + 1, s.generation,
          resume⟩]) ∨
    (s.selectRun searchId resume).state.shown =
        { s.shown with
          selectedRunId := none
          selectedRun := none
          candidates := []
          selectionGeneration := s.selectionGeneration + 1 } ∧
      (s.selectRun searchId resume).tasks = resumed resume := by
  unfold State.selectRun
  dsimp only
  split
  · next expectedMediaId listedRun hactive hfind =>
      have hlisted : listedRun ∈ s.runs := List.mem_of_find?_eq_some hfind
      exact Or.inl ⟨expectedMediaId, listedRun.siteId, (Option.filter_eq_some_iff.mp hactive).1,
        List.ne_nil_of_mem hlisted, rfl, rfl⟩
  · exact Or.inr ⟨rfl, rfl⟩

/-- **Choosing a search**: nothing is shown any more, and the request that is left behind fits. -/
theorem Safe.selectRun {s : State} {tasks : List Task} (h : Safe s.shown tasks)
    (searchId : String) {resume : Option Resume} (hresume : ∀ r ∈ resume, r.Fits s.shown) :
    Safe (s.selectRun searchId resume).state.shown
      (tasks ++ (s.selectRun searchId resume).tasks) := by
  have hwithin : ∀ selectedRunId : Option String, Within s.shown
      { s.shown with
        selectedRunId := selectedRunId
        selectedRun := none
        candidates := []
        selectionGeneration := s.selectionGeneration + 1 } (loadings tasks) := by
    intro selectedRunId
    exact ⟨rfl, rfl, Nat.le_succ _, fun hquiet => absurd hquiet (Nat.succ_ne_self _)⟩
  rcases selectRun_cases s searchId resume with
    ⟨expectedMediaId, listedSite, hactive, hruns, hshown, htasks⟩ | ⟨hshown, htasks⟩
  · rw [hshown, htasks]
    -- A search is listed, so that the searches of the media item have been loaded.
    have hloaded : s.generation ∉ loadings tasks := fun hmem => hruns (h.empty hmem).2
    refine h.within (hwithin _) (List.Sublist.refl _) (consistent_none rfl rfl) h.empty ?_
    intro t ht
    obtain rfl := List.mem_singleton.mp ht
    refine ⟨rfl, ⟨⟨Nat.le_refl _, fun _ => hactive⟩, hloaded, Nat.le_refl _, fun _ _ => rfl, ?_⟩⟩
    intro r hr
    exact (hresume r hr).within (hwithin _)
  · rw [hshown, htasks]
    refine h.within (hwithin _) (List.Sublist.refl _) (consistent_none rfl rfl) h.empty ?_
    exact resumed_new fun r hr => (hresume r hr).within (hwithin _)

/-- **A search and its candidates are shown** where they are what was asked for. -/
theorem Safe.show {s : State} {tasks : List Task} (h : Safe s.shown tasks)
    {run : TorrentSearchRun} {results : List TorrentCandidateResult}
    {searchId mediaId listedSite : String}
    (hmatched : mismatched run results searchId mediaId listedSite = false)
    (hchosen : s.selectedRunId = some searchId) (hactive : s.activeMediaId = some mediaId) :
    Safe (s.show run results).shown tasks := by
  simp only [mismatched, Bool.or_eq_false_iff, decide_eq_false_iff_not, not_not,
    List.any_eq_false] at hmatched
  obtain ⟨⟨⟨hid, hmedia⟩, -⟩, hresults⟩ := hmatched
  have hconsistent : Consistent (s.show run results).shown := by
    refine ⟨fun item hitem => ?_, fun shown hshown => ?_⟩
    · have hitemId := hresults item hitem
      simp only [Bool.or_eq_true, decide_eq_true_eq, not_or, not_not] at hitemId
      exact hchosen.trans (congrArg some hitemId.1.symm)
    · cases hshown
      exact ⟨hchosen.trans (congrArg some hid.symm), hactive.trans (congrArg some hmedia.symm)⟩
  have hwithin : Within s.shown (s.show run results).shown (loadings tasks) :=
    ⟨rfl, rfl, Nat.le_refl _, fun _ => Or.inl rfl⟩
  have hempty : s.generation ∈ loadings tasks →
      (s.show run results).media = none ∧ (s.show run results).runs = [] := by
    intro hmem
    obtain ⟨hmediaNone, hruns⟩ := h.empty hmem
    refine ⟨hmediaNone, ?_⟩
    have hmap : (s.show run results).runs =
        s.runs.map fun item => if item.id = run.id then run else item := rfl
    rw [hmap, show s.runs = [] from hruns, List.map_nil]
  have hsafe := h.within hwithin (List.Sublist.refl _) hconsistent hempty none_new
  rwa [List.append_nil] at hsafe

/-! ### Calls -/

/-- A loading that waits is none to come. -/
theorem Safe.loadings_le {v : Shown} {tasks : List Task} (h : Safe v tasks) :
    ∀ n ∈ loadings tasks, n ≤ v.generation := by
  intro n hn
  obtain ⟨t, ht, hloading⟩ := List.mem_filterMap.mp hn
  cases t with
  | load mediaId current =>
      cases hloading
      exact Belongs.le (h.fits _ ht)
  | _ => cases hloading

/-- A generation of the past belongs to whatever it belonged to. -/
theorem Belongs.past {v v' : Shown} (hlt : v.generation < v'.generation) {generation : ℕ}
    {mediaId : String} (h : Belongs v generation mediaId) : Belongs v' generation mediaId := by
  refine ⟨Nat.le_of_lt (Nat.lt_of_le_of_lt h.le hlt), fun heq => ?_⟩
  have := h.le
  omega

/-- **A task that fitted still does** in a new generation, with a loading of it. -/
theorem Fits.past {v v' : Shown} {loading : List ℕ} (hlt : v.generation < v'.generation)
    (hle : v.selectionGeneration ≤ v'.selectionGeneration) {t : Task} (h : Fits v loading t) :
    Fits v' (loading ++ [v'.generation]) t := by
  have hresume : ∀ resume : Resume, resume.Fits v → resume.Fits v' := by
    intro resume hfits
    cases resume with
    | load mediaId current => exact Belongs.past hlt hfits
    | create creation attempt => trivial
  have hloaded : ∀ n ≤ v.generation, n ∉ loading → n ∉ loading ++ [v'.generation] := by
    intro n hn hnot hmem
    rcases List.mem_append.mp hmem with hold | hnew
    · exact hnot hold
    · have := List.mem_singleton.mp hnew
      omega
  cases t with
  | load mediaId current => exact Belongs.past hlt h
  | select selection =>
      have hfits : selection.Fits v loading := h
      refine ⟨hfits.belongs.past hlt, hloaded _ hfits.belongs.le hfits.loaded,
        Nat.le_trans hfits.le hle, fun heq => ?_, fun r hr => hresume r (hfits.resume r hr)⟩
      have := hfits.belongs.le
      omega
  | resume resume => exact hresume resume h
  | pollWait polling => exact Belongs.past hlt h
  | pollFetch polling listedSite => exact Belongs.past hlt h
  | create mediaId payload displayName current expectedGeneration =>
      exact ⟨Nat.le_of_lt (Nat.lt_of_le_of_lt h.1 hlt), hloaded _ h.1 h.2⟩
  | _ => trivial

/-- **Loading a media item**: nothing of another is left. -/
theorem Safe.load {s : State} {tasks : List Task} (h : Safe s.shown tasks) (mediaId : String) :
    Safe (s.load mediaId).state.shown (tasks ++ (s.load mediaId).tasks) := by
  have hloadings : loadings (tasks ++ (s.load mediaId).tasks) =
      loadings tasks ++ [s.generation + 1] := loadings_append _ _
  have hlt : s.shown.generation < (s.load mediaId).state.shown.generation := Nat.lt_succ_self _
  refine ⟨consistent_none rfl rfl, fun t ht => ?_, ?_, fun _ => ⟨rfl, rfl⟩⟩
  · rw [hloadings]
    rcases List.mem_append.mp ht with hold | hnew
    · exact (h.fits t hold).past hlt (Nat.le_succ _)
    · obtain rfl := List.mem_singleton.mp hnew
      exact ⟨Nat.le_refl _, fun _ => rfl⟩
  · rw [hloadings]
    refine List.nodup_append.mpr ⟨h.nodup, by simp, ?_⟩
    intro n hn m hm heq
    have hle := h.loadings_le n hn
    have hm' := List.mem_singleton.mp hm
    have hgeneration : s.shown.generation = s.generation := rfl
    omega

/-- **Creating a search**: its request is left behind where there is the media item, which therefore
has been loaded. -/
theorem Safe.create {s : State} {tasks : List Task} (h : Safe s.shown tasks) (mediaId : String)
    (payload : TorrentSearchCreateRequest) :
    Safe (s.create mediaId payload).state.shown
      (tasks ++ (s.create mediaId payload).tasks) := by
  unfold State.create
  dsimp only
  split_ifs with hgate
  · exact h.same (shown_actionFailed _ _ _ _ _) (List.Sublist.refl _) none_new
  · split
    · exact h.same (shown_actionFailed _ _ _ _ _) (List.Sublist.refl _) none_new
    · next site hsite =>
        refine h.same rfl (List.Sublist.refl _) fun t ht => ?_
        obtain rfl := List.mem_singleton.mp ht
        refine ⟨rfl, Nat.le_refl _, fun hmem => hgate ?_⟩
        have hmedia : s.media = none := (h.empty hmem).1
        simp [State.identityGatePassed, State.cancelAction, State.cancelRunPolling, hmedia]

/-- **Confirming a download** changes nothing of what is shown, and leaves at most its request. -/
theorem shown_confirmDownload (s : State) (candidateId : String) (launchMode : DownloadLaunchMode)
    (randomKey : String) :
    (s.confirmDownload candidateId launchMode randomKey).state.shown = s.shown ∧
      ∀ t ∈ (s.confirmDownload candidateId launchMode randomKey).tasks,
        ∃ confirmation, t = .confirm confirmation := by
  unfold State.confirmDownload
  dsimp only
  split
  · split
    · exact ⟨shown_actionFailed _ _ _ _ _, fun t ht => absurd ht List.not_mem_nil⟩
    · exact ⟨rfl, fun t ht => ⟨_, List.mem_singleton.mp ht⟩⟩
  · exact ⟨shown_actionFailed _ _ _ _ _, fun t ht => absurd ht List.not_mem_nil⟩

/-- **Every call keeps the invariant.** -/
theorem Safe.invoke {s : State} {tasks : List Task} (h : Safe s.shown tasks) (operation : Call) :
    Safe (invoke operation s).state.shown (tasks ++ (invoke operation s).tasks) := by
  cases operation with
  | load mediaId => exact h.load mediaId
  | selectRun searchId => exact h.selectRun searchId fun _ hr => absurd hr (by simp)
  | create mediaId payload => exact h.create mediaId payload
  | confirmDownload candidateId launchMode randomKey =>
      obtain ⟨hshown, htasks⟩ := shown_confirmDownload s candidateId launchMode randomKey
      refine h.same hshown (List.Sublist.refl _) fun t ht => ?_
      obtain ⟨confirmation, rfl⟩ := htasks t ht
      exact ⟨rfl, trivial⟩
  | loadCatalog =>
      refine h.same rfl (List.Sublist.refl _) fun t ht => ?_
      obtain rfl := List.mem_singleton.mp ht
      exact ⟨rfl, trivial⟩
  | cancelSelection =>
      have hsafe := h.cancelSelection
      rwa [← List.append_nil tasks] at hsafe
  | _ => exact h.same rfl (List.Sublist.refl _) none_new

/-! ### Answers -/

/-- The task that is answered, before the others. -/
theorem sublist_rest (t : Task) (rest : List Task) : rest.Sublist (t :: rest) :=
  List.sublist_cons_self t rest

/-- Nothing is shown any more, while what is chosen stays. -/
theorem Safe.hidden {v v' : Shown} {t : Task} {rest : List Task} (h : Safe v (t :: rest))
    (hv : v' = { v with selectedRun := none, candidates := [] }) : Safe v' rest := by
  subst hv
  have hwithin : Within v { v with selectedRun := none, candidates := [] }
      (loadings (t :: rest)) := ⟨rfl, rfl, Nat.le_refl _, fun _ => Or.inl rfl⟩
  have hsafe := h.within hwithin (sublist_rest t rest) (consistent_none rfl rfl)
    (fun hmem => h.empty (((sublist_rest t rest).filterMap _).mem hmem)) none_new
  rwa [List.append_nil] at hsafe

/-- The task that is answered waits no more, and nothing else changes. -/
theorem Safe.done {v : Shown} {t : Task} {rest : List Task} (h : Safe v (t :: rest)) :
    Safe v rest := by
  have hsafe := h.same rfl (sublist_rest t rest) none_new
  rwa [List.append_nil] at hsafe

/-- A loading that is answered waits no more. -/
theorem Safe.not_loading {v : Shown} {mediaId : String} {current : ℕ} {rest : List Task}
    (h : Safe v (.load mediaId current :: rest)) : current ∉ loadings rest :=
  (List.nodup_cons.mp h.nodup).1

/-- The searches of a media item are there, or there is one more, once its loading does not wait. -/
theorem Safe.listed {v v' : Shown} {t : Task} {rest : List Task} (h : Safe v (t :: rest))
    (hloaded : v.generation ∉ loadings rest) {media : Option MediaItem}
    {runs : List TorrentSearchRun} (hv : v' = { v with media := media, runs := runs }) :
    Safe v' rest := by
  subst hv
  have hwithin : Within v { v with media := media, runs := runs } (loadings (t :: rest)) :=
    ⟨rfl, rfl, Nat.le_refl _, fun _ => Or.inl rfl⟩
  have hsafe := h.within hwithin (sublist_rest t rest)
    ⟨h.consistent.candidates, h.consistent.run⟩ (fun hmem => absurd hmem hloaded) none_new
  rwa [List.append_nil] at hsafe

/-- A loading that failed clears what is chosen: no choice waits that was made since it began. -/
theorem Safe.loadFailed {s : State} {mediaId : String} {rest : List Task} (caught : Caught)
    (h : Safe s.shown (.load mediaId s.generation :: rest)) :
    Safe (s.loadFailed caught).shown rest := by
  have hwithin : Within s.shown (s.loadFailed caught).shown
      (loadings (.load mediaId s.generation :: rest)) :=
    ⟨rfl, rfl, Nat.le_refl _, fun _ => Or.inr List.mem_cons_self⟩
  have hsafe := h.within hwithin (sublist_rest _ rest) (consistent_none rfl rfl)
    (fun _ => ⟨rfl, rfl⟩) none_new
  rwa [List.append_nil] at hsafe

/-- **The answer to a loading.** -/
theorem Safe.loaded {s : State} {mediaId : String} {current : ℕ} {rest : List Task}
    (h : Safe s.shown (.load mediaId current :: rest))
    (answer : Except Caught (MediaItem × List TorrentSearchRun)) :
    Safe (s.loaded mediaId current answer).state.shown
      (rest ++ (s.loaded mediaId current answer).tasks) := by
  unfold State.loaded
  split_ifs with hcurrent
  · exact h.same rfl (sublist_rest _ rest) none_new
  · obtain rfl : current = s.generation := not_not.mp hcurrent
    cases answer with
    | error caught =>
        rw [List.append_nil]
        exact h.loadFailed caught
    | ok response =>
        obtain ⟨mediaResponse, runResponse⟩ := response
        dsimp only
        split_ifs
        · rw [List.append_nil]
          exact h.loadFailed _
        · have hactive : Belongs s.shown s.generation mediaId := h.fits _ List.mem_cons_self
          cases runResponse with
          | nil =>
              rw [List.append_nil]
              exact h.listed h.not_loading rfl
          | cons run runs =>
              have hlisted : Safe
                  { s with media := some mediaResponse, runs := run :: runs : State }.shown rest :=
                h.listed h.not_loading rfl
              refine hlisted.selectRun run.id fun r hr => ?_
              cases hr
              exact ⟨hactive.le, hactive.active⟩

/-- **The answers to a choice.** -/
theorem Safe.selected {s : State} {selection : Selection} {rest : List Task}
    (h : Safe s.shown (.select selection :: rest))
    (answer : Except Caught (TorrentSearchRun × List TorrentCandidateResult)) :
    Safe (s.selected selection answer).shown rest := by
  have hfits : selection.Fits s.shown _ := h.fits _ List.mem_cons_self
  have hfailed : ∀ caught, Safe (s.selectionFailed caught).shown rest := by
    intro caught
    unfold State.selectionFailed
    split_ifs
    · exact h.done
    · exact h.hidden rfl
  unfold State.selected
  split_ifs with hstale
  · exact h.done
  · obtain ⟨hcurrent, hgeneration⟩ := not_or.mp hstale
    cases answer with
    | error caught => exact hfailed caught
    | ok response =>
        obtain ⟨run, results⟩ := response
        dsimp only
        split_ifs with hmismatched
        · exact hfailed _
        · exact h.done.show (Bool.eq_false_iff.mpr hmismatched)
            (hfits.chosen (not_not.mp hgeneration) (not_not.mp hcurrent))
            (hfits.belongs.active (not_not.mp hgeneration))

/-- The answers to a choice change neither the generation nor the active media item. -/
theorem selected_kept (s : State) (selection : Selection)
    (answer : Except Caught (TorrentSearchRun × List TorrentCandidateResult)) :
    (s.selected selection answer).shown.generation = s.shown.generation ∧
      (s.selected selection answer).shown.activeMediaId = s.shown.activeMediaId := by
  have hfailed : ∀ caught, (s.selectionFailed caught).generation = s.generation ∧
      (s.selectionFailed caught).activeMediaId = s.activeMediaId := by
    intro caught
    unfold State.selectionFailed
    split_ifs <;> exact ⟨rfl, rfl⟩
  unfold State.selected
  split_ifs
  · exact ⟨rfl, rfl⟩
  · cases answer with
    | error caught => exact hfailed caught
    | ok response =>
        dsimp only
        split_ifs
        · exact hfailed _
        · exact ⟨rfl, rfl⟩

/-- **Refreshing goes on** after a loading that is current. -/
theorem Safe.loadResumed {s : State} {mediaId : String} {current : ℕ} {rest : List Task}
    (h : Safe s.shown (.resume (.load mediaId current) :: rest)) :
    Safe (s.loadResumed mediaId current).state.shown
      (rest ++ (s.loadResumed mediaId current).tasks) := by
  have hbelongs : Belongs s.shown current mediaId := h.fits _ List.mem_cons_self
  unfold State.loadResumed
  split_ifs
  · exact h.same rfl (sublist_rest _ rest) none_new
  · split
    · exact h.same rfl (sublist_rest _ rest) none_new
    · refine h.same rfl (sublist_rest _ rest) fun t ht => ?_
      obtain rfl := List.mem_singleton.mp ht
      exact ⟨rfl, hbelongs⟩

/-- **The timer of a refreshing.** -/
theorem Safe.pollWaited {s : State} {polling : Polling} {rest : List Task}
    (h : Safe s.shown (.pollWait polling :: rest)) (answer : Except Caught Unit) :
    Safe (s.pollWaited polling answer).state.shown
      (rest ++ (s.pollWaited polling answer).tasks) := by
  have hbelongs : Belongs s.shown polling.expectedGeneration polling.mediaId :=
    h.fits _ List.mem_cons_self
  cases answer with
  | error caught => exact h.same (shown_pollingFailed _ _ _) (sublist_rest _ rest) none_new
  | ok _ =>
      unfold State.pollWaited
      dsimp only
      split
      · exact h.same (shown_pollingEnded _ _) (sublist_rest _ rest) none_new
      · split_ifs
        · exact h.same (shown_pollingEnded _ _) (sublist_rest _ rest) none_new
        · refine h.same rfl (sublist_rest _ rest) fun t ht => ?_
          obtain rfl := List.mem_singleton.mp ht
          exact ⟨rfl, hbelongs⟩

/-- **The answers to a refreshing.** -/
theorem Safe.pollFetched [JsRuntime] {s : State} {polling : Polling} {listedSite : String}
    {rest : List Task} (h : Safe s.shown (.pollFetch polling listedSite :: rest))
    (answer : Except Caught (TorrentSearchRun × List TorrentCandidateResult)) :
    Safe (s.pollFetched polling listedSite answer).state.shown
      (rest ++ (s.pollFetched polling listedSite answer).tasks) := by
  have hbelongs : Belongs s.shown polling.expectedGeneration polling.mediaId :=
    h.fits _ List.mem_cons_self
  cases answer with
  | error caught => exact h.same (shown_pollingFailed _ _ _) (sublist_rest _ rest) none_new
  | ok response =>
      obtain ⟨run, results⟩ := response
      unfold State.pollFetched
      dsimp only
      split_ifs with hmismatched hstale hterminal hagain
      · exact h.same (shown_pollingFailed _ _ _) (sublist_rest _ rest) none_new
      · exact h.same (shown_pollingEnded _ _) (sublist_rest _ rest) none_new
      all_goals
        obtain ⟨-, hgeneration, hchosen⟩ := by simpa only [not_or, not_not] using hstale
        have hshow : Safe (s.show run results).shown rest :=
          h.done.show (Bool.eq_false_iff.mpr hmismatched) hchosen (hbelongs.active hgeneration)
      · rw [List.append_nil, shown_pollingEnded, shown_pollingTold]
        exact hshow
      · refine hshow.same rfl (List.Sublist.refl _) fun t ht => ?_
        obtain rfl := List.mem_singleton.mp ht
        exact ⟨rfl, hbelongs.le, hbelongs.active⟩
      · rw [List.append_nil, shown_pollingEnded]
        exact hshow

/-- **The answer to the creation of a search.** -/
theorem Safe.created {s : State} {mediaId : String} {payload : TorrentSearchCreateRequest}
    {displayName : String} {current expectedGeneration : ℕ} {rest : List Task}
    (h : Safe s.shown (.create mediaId payload displayName current expectedGeneration :: rest))
    (answer : Except Caught (TorrentSearchRun × Bool)) :
    Safe (s.created mediaId payload displayName current expectedGeneration answer).state.shown
      (rest ++ (s.created mediaId payload displayName current expectedGeneration answer).tasks) := by
  have hfits : expectedGeneration ≤ s.generation ∧ expectedGeneration ∉ loadings _ :=
    h.fits _ List.mem_cons_self
  unfold State.created
  cases answer with
  | error caught => exact h.same (shown_actionFailed _ _ _ _ _) (sublist_rest _ rest) none_new
  | ok response =>
      obtain ⟨result, deduplicated⟩ := response
      dsimp only
      split_ifs with hstale hwrong
      · exact h.same (shown_actionEnded _ _) (sublist_rest _ rest) none_new
      · exact h.same (shown_actionFailed _ _ _ _ _) (sublist_rest _ rest) none_new
      all_goals
        obtain ⟨-, hgeneration, -⟩ := by simpa only [not_or, not_not] using hstale
        have hloaded : s.generation ∉ loadings rest := hgeneration ▸ hfits.2
        refine Safe.selectRun ?_ result.id fun r hr => ?_
        · exact h.listed hloaded rfl
        · cases hr
          trivial

/-- Following a search that was created changes nothing of what is shown. -/
theorem createResumed_cases [JsRuntime] (s : State) (creation : Creation) (attempt : ℕ) :
    (s.createResumed creation attempt).state.shown = s.shown ∧
      ((s.createResumed creation attempt).tasks = [] ∨
        (s.createResumed creation attempt).tasks = [.createWait creation (attempt + 1)]) := by
  unfold State.createResumed
  dsimp only
  split
  · exact ⟨shown_actionEnded _ _, Or.inl rfl⟩
  · split
    · exact ⟨shown_actionFailed _ _ _ _ _, Or.inl rfl⟩
    · exact ⟨shown_actionFailed _ _ _ _ _, Or.inl rfl⟩
    · split
      · exact ⟨shown_actionEnded _ _, Or.inl rfl⟩
      · split
        · exact ⟨shown_actionEnded _ _, Or.inl rfl⟩
        · split
          · exact ⟨rfl, Or.inr rfl⟩
          · exact ⟨shown_actionEnded _ _, Or.inl rfl⟩

/-- A reply to a confirmation changes nothing of what is shown, and leaves nothing behind. -/
theorem downloadConfirmed_cases (s : State) (confirmation : Confirmation)
    (answer : Except Caught ConfirmDownloadResponse) :
    (s.downloadConfirmed confirmation answer).state.shown = s.shown ∧
      (s.downloadConfirmed confirmation answer).tasks = [] := by
  unfold State.downloadConfirmed
  cases answer with
  | error caught => exact ⟨shown_actionFailed _ _ _ _ _, rfl⟩
  | ok result =>
      dsimp only
      split_ifs
      · exact ⟨shown_actionEnded _ _, rfl⟩
      all_goals
        split
        · exact ⟨shown_actionFailed _ _ _ _ _, rfl⟩
        · exact ⟨shown_actionEnded _ _, rfl⟩

/-- **Every answer keeps the invariant.** -/
theorem Safe.settle [JsRuntime] {s : State} {t : Task} {rest : List Task}
    (h : Safe s.shown (t :: rest)) (r : Answer t) :
    Safe (settle t r s).state.shown (rest ++ (settle t r s).tasks) := by
  cases t with
  | catalog previousSiteId current =>
      exact h.same (shown_catalogLoaded _ _ _ _) (sublist_rest _ rest) none_new
  | load mediaId current => exact h.loaded r
  | select selection =>
      have hfits : selection.Fits s.shown _ := h.fits _ List.mem_cons_self
      refine (h.selected r).same rfl (List.Sublist.refl _) (resumed_new fun resume hresume => ?_)
      exact (hfits.resume resume hresume).kept (selected_kept s selection r)
  | resume resume =>
      cases resume with
      | load mediaId current => exact h.loadResumed
      | create creation attempt =>
          obtain ⟨hshown, htasks⟩ := createResumed_cases s creation attempt
          refine h.same hshown (sublist_rest _ rest) fun t ht => ?_
          rcases htasks with hnone | hwait
          · exact absurd ht (hnone ▸ List.not_mem_nil)
          · obtain rfl := List.mem_singleton.mp (hwait ▸ ht)
            exact ⟨rfl, trivial⟩
  | pollWait polling => exact h.pollWaited r
  | pollFetch polling listedSite => exact h.pollFetched r
  | create mediaId payload displayName current expectedGeneration => exact h.created r
  | createWait creation attempt =>
      cases r with
      | error caught => exact h.same (shown_actionFailed _ _ _ _ _) (sublist_rest _ rest) none_new
      | ok _ =>
          refine h.done.selectRun creation.runId fun resume hresume => ?_
          cases hresume
          trivial
  | confirm confirmation =>
      obtain ⟨hshown, htasks⟩ := downloadConfirmed_cases s confirmation r
      refine h.same hshown (sublist_rest _ rest) fun t ht => ?_
      exact absurd ht (htasks ▸ List.not_mem_nil)

/-! ### The keys -/

/-- A search among the keys of others. -/
theorem lookup_filter_ne (keys : List (String × String)) {scope other : String}
    (hne : other ≠ scope) : (keys.filter (·.1 ≠ scope)).lookup other = keys.lookup other := by
  induction keys with
  | nil => rfl
  | cons entry keys ih =>
      by_cases hentry : entry.1 = scope
      · have hother : (other == entry.1) = false := beq_false_of_ne (hentry ▸ hne)
        rw [List.filter_cons_of_neg (by simp [hentry]), ih]
        obtain ⟨entryScope, key⟩ := entry
        rw [List.lookup_cons, hother]
      · rw [List.filter_cons_of_pos (by simp [hentry])]
        obtain ⟨entryScope, key⟩ := entry
        rw [List.lookup_cons, List.lookup_cons, ih]

@[simp] theorem getKey_setKey (keys : List (String × String)) (scope key : String) :
    getKey (setKey keys scope key) scope = some key := by
  simp [getKey, setKey]

theorem getKey_setKey_of_ne (keys : List (String × String)) {scope other : String} (key : String)
    (hne : other ≠ scope) : getKey (setKey keys scope key) other = getKey keys other := by
  have hbeq : (other == scope) = false := beq_false_of_ne hne
  rw [getKey, setKey, List.lookup_cons, hbeq]
  exact lookup_filter_ne keys hne

theorem getKey_deleteKey_of_ne (keys : List (String × String)) {scope other : String}
    (hne : other ≠ scope) : getKey (deleteKey keys scope) other = getKey keys other :=
  lookup_filter_ne keys hne

/-- **The scope of a key tells the candidate and the launch mode apart**: the texts of the two modes
end in different characters. -/
theorem keyScope_injective {candidateId candidateId' : String}
    {launchMode launchMode' : DownloadLaunchMode}
    (h : keyScope candidateId launchMode = keyScope candidateId' launchMode') :
    candidateId = candidateId' ∧ launchMode = launchMode' := by
  have hlist := congrArg String.toList h
  simp only [keyScope, String.toList_append] at hlist
  have hlast := congrArg List.getLast? hlist
  have hmode : launchMode = launchMode' := by
    cases launchMode <;> cases launchMode' <;> first | rfl | simp [launchModeText] at hlast
  subst hmode
  refine ⟨?_, rfl⟩
  have hcandidate := List.append_cancel_right (List.append_cancel_right hlist)
  exact String.toList_inj.mp hcandidate

/-- A request for the candidate in the launch mode was sent with the key, and none was blocked
since. -/
def SentSince (log : List Note) (candidateId : String) (launchMode : DownloadLaunchMode)
    (key : String) : Prop :=
  ∃ before after, log = before ++ .sent candidateId launchMode key :: after ∧
    .blocked candidateId launchMode ∉ after

/-- One note more: it is the request itself, or does not block it. -/
theorem SentSince.of_append {log : List Note} {note : Note} {candidateId : String}
    {launchMode : DownloadLaunchMode} {key : String}
    (h : SentSince (log ++ [note]) candidateId launchMode key) :
    note = .sent candidateId launchMode key ∨
      note ≠ .blocked candidateId launchMode ∧ SentSince log candidateId launchMode key := by
  obtain ⟨before, after, hlog, hquiet⟩ := h
  rcases List.eq_nil_or_concat after with rfl | ⟨after, last, rfl⟩
  · obtain ⟨-, hnote⟩ := List.append_inj' hlog rfl
    exact Or.inl (List.singleton_inj.mp hnote)
  · rw [List.concat_eq_append, ← List.cons_append, ← List.append_assoc] at hlog
    obtain ⟨hrest, hnote⟩ := List.append_inj' hlog rfl
    obtain rfl := List.singleton_inj.mp hnote
    rw [List.concat_eq_append] at hquiet
    refine Or.inr ⟨fun heq => hquiet ?_, before, after, hrest, fun hmem => hquiet ?_⟩
    · exact heq ▸ List.mem_append_right _ (List.mem_singleton_self _)
    · exact List.mem_append_left _ hmem

/-- **Requests for a candidate in a launch mode have one key** until a reply blocks it. -/
def Reused (log : List Note) : Prop :=
  ∀ candidateId launchMode key key' before after,
    log = before ++ .sent candidateId launchMode key' :: after →
      SentSince before candidateId launchMode key → key = key'

/-- One note more: where it is a request, it has the key of those that were not blocked since. -/
theorem Reused.append {log : List Note} (h : Reused log) {note : Note}
    (hnote : ∀ candidateId launchMode key key', note = .sent candidateId launchMode key' →
      SentSince log candidateId launchMode key → key = key') : Reused (log ++ [note]) := by
  intro candidateId launchMode key key' before after hlog hsince
  rcases List.eq_nil_or_concat after with rfl | ⟨after, last, rfl⟩
  · obtain ⟨rfl, hlast⟩ := List.append_inj' hlog rfl
    exact hnote candidateId launchMode key key' (List.singleton_inj.mp hlast) hsince
  · rw [List.concat_eq_append, ← List.cons_append, ← List.append_assoc] at hlog
    obtain ⟨hrest, -⟩ := List.append_inj' hlog rfl
    exact h candidateId launchMode key key' before after hrest hsince

/-- **The store still knows the key** of every request that was not blocked since, and has used it
again. -/
structure Keyed (keys : List (String × String)) (log : List Note) : Prop where
  known : ∀ candidateId launchMode key, SentSince log candidateId launchMode key →
    getKey keys (keyScope candidateId launchMode) = some key
  reused : Reused log

/-- A key is set: the one that is there, or another where there is none. -/
theorem Keyed.set {keys : List (String × String)} {log : List Note} (h : Keyed keys log)
    (candidateId : String) (launchMode : DownloadLaunchMode) (randomKey : String) :
    Keyed (setKey keys (keyScope candidateId launchMode)
      ((getKey keys (keyScope candidateId launchMode)).getD randomKey)) log := by
  refine ⟨fun otherId otherMode key hsent => ?_, h.reused⟩
  have hknown := h.known otherId otherMode key hsent
  by_cases hscope : keyScope otherId otherMode = keyScope candidateId launchMode
  · rw [hscope] at hknown ⊢
    rw [getKey_setKey, hknown]
    rfl
  · rw [getKey_setKey_of_ne _ _ hscope]
    exact hknown

/-- A request is sent with the key that was set. -/
theorem Keyed.sent {keys : List (String × String)} {log : List Note} (h : Keyed keys log)
    {candidateId : String} {launchMode : DownloadLaunchMode} {key : String}
    (hkey : getKey keys (keyScope candidateId launchMode) = some key) :
    Keyed keys (log ++ [.sent candidateId launchMode key]) := by
  refine ⟨fun otherId otherMode otherKey hsent => ?_, h.reused.append ?_⟩
  · rcases hsent.of_append with heq | ⟨-, hbefore⟩
    · cases heq
      exact hkey
    · exact h.known otherId otherMode otherKey hbefore
  · rintro otherId otherMode earlier later heq hsince
    cases heq
    have hearlier := h.known candidateId launchMode earlier hsince
    exact Option.some.inj (hearlier.symm.trans hkey)

/-- A key is deleted with the reply that blocks its requests. -/
theorem Keyed.blocked {keys : List (String × String)} {log : List Note} (h : Keyed keys log)
    (candidateId : String) (launchMode : DownloadLaunchMode) :
    Keyed (deleteKey keys (keyScope candidateId launchMode))
      (log ++ [.blocked candidateId launchMode]) := by
  refine ⟨fun otherId otherMode key hsent => ?_, h.reused.append ?_⟩
  · rcases hsent.of_append with heq | ⟨hquiet, hbefore⟩
    · cases heq
    · have hscope : keyScope otherId otherMode ≠ keyScope candidateId launchMode := by
        intro heq
        obtain ⟨rfl, rfl⟩ := keyScope_injective heq
        exact hquiet rfl
      rw [getKey_deleteKey_of_ne _ hscope]
      exact h.known otherId otherMode key hbefore
  · rintro otherId otherMode earlier later heq
    cases heq

/-- A turn that neither touches the keys nor is seen. -/
def Quiet (s : State) (turn : StoreTurn) : Prop :=
  turn.state.downloadIdempotencyKeys = s.downloadIdempotencyKeys ∧ turn.notes = []

@[simp] theorem keys_actionEnded (s : State) (current : ℕ) :
    (s.actionEnded current).downloadIdempotencyKeys = s.downloadIdempotencyKeys := by
  unfold State.actionEnded
  split_ifs <;> rfl

@[simp] theorem keys_actionFailed (s : State) (current expectedGeneration : ℕ) (caught : Caught)
    (fallback : String) :
    (s.actionFailed current expectedGeneration caught fallback).downloadIdempotencyKeys =
      s.downloadIdempotencyKeys := by
  unfold State.actionFailed
  split_ifs
  · exact keys_actionEnded _ _
  · exact keys_actionEnded _ _

@[simp] theorem keys_pollingEnded (s : State) (polling : Polling) :
    (s.pollingEnded polling).downloadIdempotencyKeys = s.downloadIdempotencyKeys := by
  unfold State.pollingEnded
  split_ifs <;> rfl

@[simp] theorem keys_pollingFailed (s : State) (polling : Polling) (caught : Caught) :
    (s.pollingFailed polling caught).downloadIdempotencyKeys = s.downloadIdempotencyKeys := by
  unfold State.pollingFailed
  split_ifs
  · exact keys_pollingEnded _ _
  · exact keys_pollingEnded _ _

theorem quiet_selectRun (s : State) (searchId : String) (resume : Option Resume) :
    Quiet s (s.selectRun searchId resume) := by
  unfold State.selectRun
  dsimp only
  split
  · exact ⟨rfl, rfl⟩
  · exact ⟨rfl, rfl⟩

theorem keys_selected (s : State) (selection : Selection)
    (answer : Except Caught (TorrentSearchRun × List TorrentCandidateResult)) :
    (s.selected selection answer).downloadIdempotencyKeys = s.downloadIdempotencyKeys := by
  cases answer <;>
    simp only [State.selected, State.selectionFailed, State.show,
      apply_ite State.downloadIdempotencyKeys, ite_self]

theorem keys_catalogLoaded (s : State) (previousSiteId : String) (current : ℕ)
    (answer : Except Caught PtSiteCatalog) :
    (s.catalogLoaded previousSiteId current answer).downloadIdempotencyKeys =
      s.downloadIdempotencyKeys := by
  unfold State.catalogLoaded
  split
  · rfl
  · split
    · rfl
    · split <;> rfl

theorem quiet_loaded (s : State) (mediaId : String) (current : ℕ)
    (answer : Except Caught (MediaItem × List TorrentSearchRun)) :
    Quiet s (s.loaded mediaId current answer) := by
  unfold State.loaded
  split
  · exact ⟨rfl, rfl⟩
  · split
    · exact ⟨rfl, rfl⟩
    · split
      · exact ⟨rfl, rfl⟩
      · dsimp only
        split
        · exact ⟨rfl, rfl⟩
        · exact quiet_selectRun _ _ _

theorem quiet_loadResumed (s : State) (mediaId : String) (current : ℕ) :
    Quiet s (s.loadResumed mediaId current) := by
  unfold State.loadResumed
  split
  · exact ⟨rfl, rfl⟩
  · split <;> exact ⟨rfl, rfl⟩

theorem quiet_pollWaited (s : State) (polling : Polling) (answer : Except Caught Unit) :
    Quiet s (s.pollWaited polling answer) := by
  unfold State.pollWaited
  split
  · exact ⟨keys_pollingFailed _ _ _, rfl⟩
  · split
    · exact ⟨keys_pollingEnded _ _, rfl⟩
    · split
      · exact ⟨keys_pollingEnded _ _, rfl⟩
      · exact ⟨rfl, rfl⟩

theorem quiet_pollFetched [JsRuntime] (s : State) (polling : Polling) (listedSite : String)
    (answer : Except Caught (TorrentSearchRun × List TorrentCandidateResult)) :
    Quiet s (s.pollFetched polling listedSite answer) := by
  unfold State.pollFetched
  split
  · exact ⟨keys_pollingFailed _ _ _, rfl⟩
  · split
    · exact ⟨keys_pollingFailed _ _ _, rfl⟩
    · split
      · exact ⟨keys_pollingEnded _ _, rfl⟩
      · split
        · refine ⟨(keys_pollingEnded _ _).trans ?_, rfl⟩
          unfold State.pollingTold
          split_ifs <;> rfl
        · split
          · exact ⟨rfl, rfl⟩
          · exact ⟨keys_pollingEnded _ _, rfl⟩

theorem quiet_create (s : State) (mediaId : String) (payload : TorrentSearchCreateRequest) :
    Quiet s (s.create mediaId payload) := by
  unfold State.create
  dsimp only
  split
  · exact ⟨keys_actionFailed _ _ _ _ _, rfl⟩
  · split
    · exact ⟨keys_actionFailed _ _ _ _ _, rfl⟩
    · exact ⟨rfl, rfl⟩

theorem quiet_created (s : State) (mediaId : String) (payload : TorrentSearchCreateRequest)
    (displayName : String) (current expectedGeneration : ℕ)
    (answer : Except Caught (TorrentSearchRun × Bool)) :
    Quiet s (s.created mediaId payload displayName current expectedGeneration answer) := by
  unfold State.created
  split
  · exact ⟨keys_actionFailed _ _ _ _ _, rfl⟩
  · split
    · exact ⟨keys_actionEnded _ _, rfl⟩
    · split
      · exact ⟨keys_actionFailed _ _ _ _ _, rfl⟩
      · exact quiet_selectRun _ _ _

theorem quiet_createResumed [JsRuntime] (s : State) (creation : Creation) (attempt : ℕ) :
    Quiet s (s.createResumed creation attempt) := by
  unfold State.createResumed
  dsimp only
  split
  · exact ⟨keys_actionEnded _ _, rfl⟩
  · split
    · exact ⟨keys_actionFailed _ _ _ _ _, rfl⟩
    · exact ⟨keys_actionFailed _ _ _ _ _, rfl⟩
    · split
      · exact ⟨keys_actionEnded _ _, rfl⟩
      · split
        · exact ⟨keys_actionEnded _ _, rfl⟩
        · split
          · exact ⟨rfl, rfl⟩
          · exact ⟨keys_actionEnded _ _, rfl⟩

/-- A reply to a confirmation deletes the key where it blocks the request. -/
theorem keys_downloadConfirmed (s : State) (confirmation : Confirmation)
    (answer : Except Caught ConfirmDownloadResponse) :
    Quiet s (s.downloadConfirmed confirmation answer) ∨
      (s.downloadConfirmed confirmation answer).state.downloadIdempotencyKeys =
          deleteKey s.downloadIdempotencyKeys
            (keyScope confirmation.candidateId confirmation.launchMode) ∧
        (s.downloadConfirmed confirmation answer).notes =
          [.blocked confirmation.candidateId confirmation.launchMode] := by
  unfold State.downloadConfirmed
  split
  · exact Or.inl ⟨keys_actionFailed _ _ _ _ _, rfl⟩
  · split
    · exact Or.inl ⟨keys_actionEnded _ _, rfl⟩
    · split
      · exact Or.inl ⟨keys_actionFailed _ _ _ _ _, rfl⟩
      · split
        · exact Or.inr ⟨keys_actionEnded _ _, rfl⟩
        · exact Or.inl ⟨keys_actionEnded _ _, rfl⟩

/-- What a confirmation does: it sets a key, and sends the request with it where the candidate is
one that is shown, of the search that is shown. -/
theorem confirmDownload_cases (s : State) (candidateId : String) (launchMode : DownloadLaunchMode)
    (randomKey : String) :
    (s.confirmDownload candidateId launchMode randomKey).state.downloadIdempotencyKeys =
        setKey s.downloadIdempotencyKeys (keyScope candidateId launchMode)
          ((getKey s.downloadIdempotencyKeys (keyScope candidateId launchMode)).getD randomKey) ∧
      ((s.confirmDownload candidateId launchMode randomKey).notes = [] ∨
        (s.confirmDownload candidateId launchMode randomKey).notes =
            [.sent candidateId launchMode
              ((getKey s.downloadIdempotencyKeys (keyScope candidateId launchMode)).getD
                randomKey)] ∧
          ∃ run ∈ s.selectedRun, ∃ candidate ∈ s.candidates, candidate.id = candidateId ∧
            candidate.searchRunId = run.id) := by
  unfold State.confirmDownload
  dsimp only
  split
  · next expectedMediaId run candidate hactive hrun hfind =>
      split
      · exact ⟨keys_actionFailed _ _ _ _ _, Or.inl rfl⟩
      · next hsame =>
          have hcandidate : candidate ∈ s.candidates := List.mem_of_find?_eq_some hfind
          have hid : candidate.id = candidateId := by simpa using List.find?_some hfind
          exact ⟨rfl, Or.inr ⟨rfl, run, (Option.filter_eq_some_iff.mp hrun).1, candidate,
            hcandidate, hid, not_not.mp hsame⟩⟩
  · exact ⟨keys_actionFailed _ _ _ _ _, Or.inl rfl⟩

/-- Every call but a confirmation leaves the keys alone. -/
theorem invoke_cases (operation : Call) (s : State) :
    Quiet s (invoke operation s) ∨
      ∃ candidateId launchMode randomKey,
        operation = .confirmDownload candidateId launchMode randomKey := by
  cases operation with
  | selectRun searchId => exact Or.inl (quiet_selectRun s searchId none)
  | create mediaId payload => exact Or.inl (quiet_create s mediaId payload)
  | confirmDownload candidateId launchMode randomKey => exact Or.inr ⟨_, _, _, rfl⟩
  | _ => exact Or.inl ⟨rfl, rfl⟩

/-- Every answer leaves the keys alone, or deletes that of a request that is blocked. -/
theorem settle_cases [JsRuntime] (t : Task) (r : Answer t) (s : State) :
    Quiet s (settle t r s) ∨ ∃ candidateId launchMode,
      (settle t r s).state.downloadIdempotencyKeys =
          deleteKey s.downloadIdempotencyKeys (keyScope candidateId launchMode) ∧
        (settle t r s).notes = [.blocked candidateId launchMode] := by
  cases t with
  | catalog previousSiteId current => exact Or.inl ⟨keys_catalogLoaded s previousSiteId current r, rfl⟩
  | load mediaId current => exact Or.inl (quiet_loaded s mediaId current r)
  | select selection => exact Or.inl ⟨keys_selected s selection r, rfl⟩
  | resume resume =>
      cases resume with
      | load mediaId current => exact Or.inl (quiet_loadResumed s mediaId current)
      | create creation attempt => exact Or.inl (quiet_createResumed s creation attempt)
  | pollWait polling => exact Or.inl (quiet_pollWaited s polling r)
  | pollFetch polling listedSite => exact Or.inl (quiet_pollFetched s polling listedSite r)
  | create mediaId payload displayName current expectedGeneration =>
      exact Or.inl (quiet_created s mediaId payload displayName current expectedGeneration r)
  | createWait creation attempt =>
      cases r with
      | error caught => exact Or.inl ⟨keys_actionFailed _ _ _ _ _, rfl⟩
      | ok _ => exact Or.inl (quiet_selectRun s creation.runId _)
  | confirm confirmation =>
      rcases keys_downloadConfirmed s confirmation r with hquiet | hblocked
      · exact Or.inl hquiet
      · exact Or.inr ⟨_, _, hblocked⟩

/-- A turn that is quiet keeps what is known of the keys. -/
theorem Keyed.quiet {s : State} {log : List Note} (h : Keyed s.downloadIdempotencyKeys log)
    {turn : StoreTurn} (hquiet : Quiet s turn) :
    Keyed turn.state.downloadIdempotencyKeys (log ++ turn.notes) := by
  rw [hquiet.1, hquiet.2, List.append_nil]
  exact h

/-- **Every call keeps what is known of the keys.** -/
theorem Keyed.invoke {s : State} {log : List Note} (h : Keyed s.downloadIdempotencyKeys log)
    (operation : Call) :
    Keyed (invoke operation s).state.downloadIdempotencyKeys
      (log ++ (invoke operation s).notes) := by
  rcases invoke_cases operation s with hquiet | ⟨candidateId, launchMode, randomKey, rfl⟩
  · exact h.quiet hquiet
  · obtain ⟨hkeys, hnotes⟩ := confirmDownload_cases s candidateId launchMode randomKey
    have hset := h.set candidateId launchMode randomKey
    simp only [Torrents.invoke]
    rw [hkeys]
    rcases hnotes with hnone | ⟨hsent, -⟩
    · rw [hnone, List.append_nil]
      exact hset
    · rw [hsent]
      exact hset.sent (getKey_setKey _ _ _)

/-- **Every answer keeps what is known of the keys.** -/
theorem Keyed.settle [JsRuntime] {s : State} {log : List Note}
    (h : Keyed s.downloadIdempotencyKeys log) (t : Task) (r : Answer t) :
    Keyed (settle t r s).state.downloadIdempotencyKeys (log ++ (settle t r s).notes) := by
  rcases settle_cases t r s with hquiet | ⟨candidateId, launchMode, hkeys, hnotes⟩
  · exact h.quiet hquiet
  · rw [hkeys, hnotes]
    exact h.blocked candidateId launchMode

/-! ### Every run -/

section Runs

variable [JsRuntime]

/-- What happens to the store. -/
abbrev Event := AsyncEvent Call Task Answer

/-- The store with its tasks. -/
abbrev Config := AsyncConfig State Task Note

/-- The tasks that wait. -/
def waiting (c : Config) : List Task :=
  c.pending.map (·.2)

omit [JsRuntime] in
/-- The tasks that wait after a turn. -/
theorem waiting_after (pending : List (ℕ × Task)) (turn : StoreTurn) (c : Config) :
    waiting (AsyncStore.after pending turn c) = pending.map (·.2) ++ turn.tasks := by
  simp [waiting, AsyncStore.after, Function.comp_def]

/-- **The invariant holds in every run**, of what is shown and of the keys. -/
theorem safe_of_reaches {events : List Event} {c : Config}
    (hreached : store.Reaches (fun _ _ _ => True) events c) :
    Safe c.state.shown (waiting c) ∧ Keyed c.state.downloadIdempotencyKeys c.log := by
  refine hreached.invariant
    (P := fun _ c => Safe c.state.shown (waiting c) ∧ Keyed c.state.downloadIdempotencyKeys c.log)
    ?_ ?_
  · refine ⟨⟨consistent_none rfl rfl, ?_, List.nodup_nil, fun _ => ⟨rfl, rfl⟩⟩, ?_⟩
    · intro t ht
      exact absurd ht List.not_mem_nil
    · constructor
      · rintro candidateId launchMode key ⟨before, after, hlog, -⟩
        exact absurd hlog.symm (by simp [AsyncStore.start])
      · rintro candidateId launchMode key key' before after hlog -
        exact absurd hlog.symm (by simp [AsyncStore.start])
  · rintro events e c c' ⟨hsafe, hkeyed⟩ - hstep
    cases e with
    | call operation =>
        rw [AsyncStore.step_call] at hstep
        cases hstep
        refine ⟨?_, hkeyed.invoke operation⟩
        rw [waiting_after]
        exact hsafe.invoke operation
    | settle ticket t r =>
        obtain ⟨hmem, rfl⟩ := AsyncStore.step_settle hstep
        have hperm : (waiting c).Perm (t :: (c.pending.erase (ticket, t)).map (·.2)) :=
          (List.perm_cons_erase hmem).map Prod.snd
        refine ⟨?_, hkeyed.settle t r⟩
        rw [waiting_after]
        exact (hsafe.perm hperm).settle r

/-- The request of a download was sent for a candidate that is shown, of the search that is shown,
which is the one that is chosen and of the active media item. -/
def ShownCandidate (v : Shown) (candidateId : String) : Prop :=
  ∃ run ∈ v.selectedRun, v.selectedRunId = some run.id ∧ v.activeMediaId = some run.mediaId ∧
    ∃ candidate ∈ v.candidates, candidate.id = candidateId ∧ candidate.searchRunId = run.id

/-- **A request that is sent is for a candidate that is shown.** -/
theorem sent_shown {events : List Event} {c c' : Config} {e : Event}
    (hreached : store.Reaches (fun _ _ _ => True) events c) (hstep : store.step e c = some c')
    {candidateId : String} {launchMode : DownloadLaunchMode} {key : String}
    (hsent : .sent candidateId launchMode key ∈ c'.log.drop c.log.length) :
    ShownCandidate c'.state.shown candidateId := by
  cases e with
  | settle ticket t r =>
      obtain ⟨-, rfl⟩ := AsyncStore.step_settle hstep
      rw [AsyncStore.after, List.drop_left] at hsent
      simp only [store] at hsent
      rcases settle_cases t r c.state with hquiet | ⟨otherId, otherMode, -, hnotes⟩
      · rw [hquiet.2] at hsent
        exact absurd hsent List.not_mem_nil
      · rw [hnotes] at hsent
        cases List.mem_singleton.mp hsent
  | call operation =>
      rw [AsyncStore.step_call] at hstep
      cases hstep
      rw [AsyncStore.after, List.drop_left] at hsent
      simp only [store] at hsent
      rcases invoke_cases operation c.state with hquiet | ⟨otherId, otherMode, randomKey, rfl⟩
      · rw [hquiet.2] at hsent
        exact absurd hsent List.not_mem_nil
      -- only a confirmation sends, and what it sends it has found in the catalog that is shown
      · have hshown := (shown_confirmDownload c.state otherId otherMode randomKey).1
        rcases (confirmDownload_cases c.state otherId otherMode randomKey).2 with
          hnone | ⟨hnotes, run, hrun, candidate, hcandidate, hid, hsame⟩
        · simp only [invoke, hnone] at hsent
          exact absurd hsent List.not_mem_nil
        · simp only [invoke, hnotes] at hsent
          cases List.mem_singleton.mp hsent
          have hconsistent : Consistent c.state.shown := (safe_of_reaches hreached).1.consistent
          obtain ⟨hchosen, hactive⟩ := hconsistent.run run hrun
          have hbefore : ShownCandidate c.state.shown candidateId :=
            ⟨run, hrun, hchosen, hactive, candidate, hcandidate, hid, hsame⟩
          simp only [AsyncStore.after, store, invoke]
          rw [hshown]
          exact hbefore

/-- **In every run what is shown belongs together**: the candidates are of the search that is
chosen, and the search that is shown is that one, of the active media item; every request of a
download is sent for a candidate of the search that is shown; and two requests for one candidate in
one launch mode have the same key where no reply between them has blocked it. -/
theorem store_consistent {events : List Event} {c : Config}
    (hreached : store.Reaches (fun _ _ _ => True) events c) :
    ((∀ item ∈ c.state.candidates, c.state.selectedRunId = some item.searchRunId) ∧
      ∀ run ∈ c.state.selectedRun, c.state.selectedRunId = some run.id ∧
        c.state.activeMediaId = some run.mediaId) ∧
    (∀ e c', store.step e c = some c' → ∀ candidateId launchMode key,
      .sent candidateId launchMode key ∈ c'.log.drop c.log.length →
        ∃ run ∈ c'.state.selectedRun, ∃ candidate ∈ c'.state.candidates,
          candidate.id = candidateId ∧ candidate.searchRunId = run.id) ∧
    ∀ candidateId launchMode key₁ key₂ before between after,
      c.log = before ++ .sent candidateId launchMode key₁ :: between ++
        .sent candidateId launchMode key₂ :: after →
      .blocked candidateId launchMode ∉ between → key₁ = key₂ := by
  have hconsistent : Consistent c.state.shown := (safe_of_reaches hreached).1.consistent
  refine ⟨⟨hconsistent.candidates, hconsistent.run⟩, ?_, ?_⟩
  · intro e c' hstep candidateId launchMode key hsent
    obtain ⟨run, hrun, -, -, hcandidate⟩ := sent_shown hreached hstep hsent
    exact ⟨run, hrun, hcandidate⟩
  · intro candidateId launchMode key₁ key₂ before between after hlog hquiet
    refine (safe_of_reaches hreached).2.reused candidateId launchMode key₁ key₂
      (before ++ .sent candidateId launchMode key₁ :: between) after ?_ ⟨before, between, rfl, hquiet⟩
    rw [hlog, List.append_assoc]

/-- A media item, a search for it and a candidate of the search. -/
def sampleMedia : MediaItem := ⟨"m1", "MOVIE", "TORRENT_REVIEW"⟩

/-- The search. -/
def sampleRun : TorrentSearchRun := ⟨"r1", "m1", "site", "TORRENT_REVIEW", 1, none, none⟩

/-- The candidate. -/
def sampleCandidate : TorrentCandidateResult := ⟨"c1", "r1", "site"⟩

/-- A media item is loaded with its search, and a candidate is confirmed twice. -/
def confirmedTwice : List Event :=
  [.call (.load "m1"),
    .settle 0 (.load "m1" 1) (.ok (sampleMedia, [sampleRun])),
    .settle 1 (.select ⟨"r1", "m1", "site", 2, 1, some (.load "m1" 1)⟩)
      (.ok (sampleRun, [sampleCandidate])),
    .settle 2 (.resume (.load "m1" 1)) (),
    .call (.confirmDownload "c1" .startImmediately "k1"),
    .call (.confirmDownload "c1" .startImmediately "k2")]

end Runs

/-- Blanks are taken away at both ends. -/
@[reducible] def trimmingRuntime : JsRuntime where
  trim text :=
    String.ofList ((text.toList.dropWhile Char.isWhitespace).reverse.dropWhile
      Char.isWhitespace).reverse

/-- The candidate is shown, and both requests have the first key. -/
theorem store_consistent_confirmed :
    ∃ c : Config, (@store trimmingRuntime).run confirmedTwice = some c ∧
      c.state.candidates = [sampleCandidate] ∧
      c.log = [.sent "c1" .startImmediately "k1", .sent "c1" .startImmediately "k1"] ∧
      ∀ item ∈ c.state.candidates, c.state.selectedRunId = some item.searchRunId := by
  have hrun : ∃ c : Config, (@store trimmingRuntime).run confirmedTwice = some c ∧
      c.state.candidates = [sampleCandidate] ∧
      c.log = [.sent "c1" .startImmediately "k1", .sent "c1" .startImmediately "k1"] :=
    ⟨_, rfl, rfl, rfl⟩
  obtain ⟨c, hc, hcandidates, hlog⟩ := hrun
  exact ⟨c, hc, hcandidates, hlog,
    (@store_consistent trimmingRuntime _ c (AsyncStore.reaches_of_run hc)).1.1⟩

end LibSeek.Frontend.Torrents
