/-
The tags of a plan, and those who take them.

A plan is tagged with the configured tags and the title of its media.  Three others look at the tags
later, each with rules of its own: the check of the plan against its request, the fingerprint of the
target, and the adapter that adds the torrent.  Tags that were built pass all of them.

Main definitions:

* `Services.GoodTag` — a tag as the fingerprint and the adapter want it;
* `Services.TargetUsable` — what the fingerprint wants besides good tags;
* `Services.AcceptedTags` — tags that all of them accept.

Main results:

* `Services.configuredPlanTags_good` — the loop over the configured tags keeps good ones, each once;
* `Services.buildQbPlanTags_accepted` — **tags that are built are accepted**.
-/

import LibSeek.Adapters.Qbittorrent
import LibSeek.Services.Executions

set_option relaxedAutoImplicit false
set_option autoImplicit false

namespace LibSeek.Services

open LibSeek.Core LibSeek.Lib LibSeek.Models LibSeek.Schemas

/-- The characters that end a header or a field. -/
def MARKERS : List Char :=
  ['\x00', '\r', '\n']

/-- The runtime, with what the standard library says of control characters. -/
class PrintablePython extends Python where
  isprintable_marker : ∀ c ∈ MARKERS, isprintable c = false

variable [PrintablePython]

/-! ### Good tags -/

/-- **A tag as its users want it**: not blank, on one line, without a comma, and short. -/
structure GoodTag (tag : String) : Prop where
  filled : isBlank tag = false
  marker : ∀ c ∈ MARKERS, containsChar tag c = false
  comma : containsChar tag ',' = false
  length : tag.toList.length ≤ QB_TAG_MAX_LENGTH

/-- A character of a text that is left of stripping is in the text. -/
theorem mem_of_mem_strip {s : String} {c : Char} (h : c ∈ (strip s).toList) : c ∈ s.toList := by
  rw [strip, String.toList_ofList, stripList, List.mem_reverse] at h
  have hrest := (List.dropWhile_sublist _).subset h
  exact (List.dropWhile_sublist _).subset (List.mem_reverse.mp hrest)

theorem length_strip_le (s : String) : (strip s).toList.length ≤ s.toList.length := by
  rw [strip, String.toList_ofList, stripList, List.length_reverse]
  have hright := (List.dropWhile_sublist Python.isspace
    (l := (s.toList.dropWhile Python.isspace).reverse)).length_le
  have hleft := (List.dropWhile_sublist Python.isspace (l := s.toList)).length_le
  rw [List.length_reverse] at hright
  omega

/-- What is left of stripping is not blank, if it is anything. -/
theorem isBlank_strip {s : String} (h : strip s ≠ "") : isBlank (strip s) = false := by
  have hne : (s.toList.dropWhile Python.isspace).reverse.dropWhile Python.isspace ≠ [] := by
    intro hnil
    refine h ?_
    rw [strip, stripList, hnil]
    rfl
  have hhead : Python.isspace
      (((s.toList.dropWhile Python.isspace).reverse.dropWhile Python.isspace).head hne) = false :=
    List.head_dropWhile_not Python.isspace hne
  rw [isBlank, strip, String.toList_ofList, List.all_eq_false]
  exact ⟨_, by rw [stripList, List.mem_reverse]; exact List.head_mem hne, by rw [hhead]; decide⟩

/-- A character that is printable is no marker. -/
theorem ne_marker_of_isprintable {c : Char} (h : Python.isprintable c = true) : c ∉ MARKERS := by
  intro hmarker
  rw [PrintablePython.isprintable_marker c hmarker] at h
  cases h

/-- A configured tag that passes the checks of the loop is a good one. -/
theorem goodTag_configured {tag : String} (hfilled : strip tag ≠ "")
    (hprintable : isprintable (strip tag) = true) (hcomma : containsChar (strip tag) ',' = false)
    (hlength : (strip tag).toList.length ≤ QB_TAG_MAX_LENGTH) : GoodTag (strip tag) where
  filled := isBlank_strip hfilled
  marker := by
    intro c hc
    rw [containsChar, List.contains_eq_mem, decide_eq_false_iff_not]
    intro hmem
    exact ne_marker_of_isprintable (List.all_eq_true.mp hprintable c hmem) hc
  comma := hcomma
  length := hlength

/-- **The loop over the configured tags** keeps good ones, each once up to case. -/
theorem configuredPlanTags_good {configured kept tags : List String}
    (hgood : ∀ tag ∈ kept, GoodTag tag) (hunique : (kept.map casefold).Nodup)
    (h : configuredPlanTags kept configured = .ok tags) :
    (∀ tag ∈ tags, GoodTag tag) ∧ (tags.map casefold).Nodup := by
  induction configured generalizing kept with
  | nil =>
      obtain rfl := Except.ok.inj h
      exact ⟨hgood, hunique⟩
  | cons rawTag configured ih =>
      rw [configuredPlanTags] at h
      split at h
      · cases h
      · next hvalid =>
          simp only [not_or, Bool.not_eq_true, Bool.not_eq_false, Nat.not_lt, gt_iff_lt] at hvalid
          obtain ⟨hfilled, hprintable, hcomma, hlength⟩ := hvalid
          split at h
          · exact ih hgood hunique h
          · next hnew =>
              have htag := goodTag_configured hfilled hprintable hcomma hlength
              refine ih ?_ ?_ h
              · intro tag hmem
                rcases List.mem_append.mp hmem with hmem | hmem
                · exact hgood tag hmem
                · rwa [List.mem_singleton.mp hmem]
              · rw [List.map_append, List.nodup_append]
                refine ⟨hunique, List.nodup_singleton _, ?_⟩
                intro a ha b hb hsame
                rw [List.map_singleton, List.mem_singleton] at hb
                exact hnew (by rwa [← hb, ← hsame])

/-! ### The tag of the media -/

/-- What a character of a title becomes is no marker and no comma. -/
theorem cleaned_char (c : Char) :
    (if c = ',' then '，' else if Python.isprintable c then c else ' ') ∉ MARKERS ∧
      (if c = ',' then '，' else if Python.isprintable c then c else ' ') ≠ ',' := by
  by_cases hcomma : c = ','
  · rw [if_pos hcomma]
    decide
  · rw [if_neg hcomma]
    by_cases hprintable : Python.isprintable c = true
    · rw [if_pos hprintable]
      exact ⟨ne_marker_of_isprintable hprintable, hcomma⟩
    · rw [if_neg hprintable]
      decide

omit [PrintablePython] in
/-- What is in a piece of a text is in the text. -/
theorem mem_of_mem_splitOnP {α : Type} {p : α → Bool} {text piece : List α} {a : α}
    (hpiece : piece ∈ text.splitOnP p) (ha : a ∈ piece) : a ∈ text := by
  induction text generalizing piece with
  | nil =>
      rw [List.splitOnP_nil, List.mem_singleton] at hpiece
      exact hpiece ▸ ha
  | cons first text ih =>
      rw [List.splitOnP_cons_eq_if_modifyHead] at hpiece
      split at hpiece
      · rcases List.mem_cons.mp hpiece with rfl | hpiece
        · exact absurd ha List.not_mem_nil
        · exact List.mem_cons_of_mem _ (ih hpiece ha)
      · cases hsplit : text.splitOnP p with
        | nil => exact absurd hsplit (List.splitOnP_ne_nil p text)
        | cons head pieces =>
            rw [hsplit] at hpiece ih
            rw [List.modifyHead_cons] at hpiece
            rcases List.mem_cons.mp hpiece with rfl | hpiece
            · rcases List.mem_cons.mp ha with rfl | ha
              · exact List.mem_cons_self
              · exact List.mem_cons_of_mem _ (ih List.mem_cons_self ha)
            · exact List.mem_cons_of_mem _ (ih (List.mem_cons_of_mem _ hpiece) ha)

omit [PrintablePython] in
theorem mem_intercalate {α : Type} {separator : List α} {pieces : List (List α)} {a : α}
    (h : a ∈ separator.intercalate pieces) : a ∈ separator ∨ ∃ piece ∈ pieces, a ∈ piece := by
  rw [List.intercalate, List.mem_flatten] at h
  obtain ⟨part, hpart, ha⟩ := h
  have hparts : ∀ pieces : List (List α), part ∈ pieces.intersperse separator →
      part = separator ∨ part ∈ pieces := by
    intro pieces
    induction pieces with
    | nil => exact fun hmem => absurd hmem List.not_mem_nil
    | cons piece pieces ih =>
        intro hmem
        cases pieces with
        | nil => exact Or.inr hmem
        | cons next pieces =>
            rw [List.intersperse_cons_cons] at hmem
            rcases List.mem_cons.mp hmem with rfl | hmem
            · exact Or.inr List.mem_cons_self
            · rcases List.mem_cons.mp hmem with rfl | hmem
              · exact Or.inl rfl
              · exact (ih hmem).imp_right (List.mem_cons_of_mem _)
  rcases hparts pieces hpart with rfl | hmem
  · exact Or.inl ha
  · exact Or.inr ⟨part, hmem, ha⟩

/-- A character of a text with its words joined is a blank, or in the text. -/
theorem mem_joinWords {s : String} {c : Char} (h : c ∈ (joinWords s).toList) :
    c = ' ' ∨ c ∈ s.toList := by
  rw [joinWords, String.toList_ofList] at h
  rcases mem_intercalate h with h | ⟨piece, hpiece, hc⟩
  · exact Or.inl (List.mem_singleton.mp h)
  · refine Or.inr ?_
    rw [split, List.map_map, List.mem_map] at hpiece
    obtain ⟨word, hword, rfl⟩ := hpiece
    rw [Function.comp_apply, String.toList_ofList] at hc
    exact mem_of_mem_splitOnP (List.mem_filter.mp hword).1 hc

/-- **The tag of the media is a good one.** -/
theorem goodTag_media {mediaTitle mediaTag : String} (h : mediaTitleQbTag mediaTitle = .ok mediaTag) :
    GoodTag mediaTag := by
  rw [mediaTitleQbTag] at h
  split at h
  · cases h
  · next hfilled =>
      obtain rfl := Except.ok.inj h
      -- every character of the tag is a blank, or one that a character of the title became
      have hchar : ∀ c ∈ (strip (takeStr (joinWords (String.ofList (mediaTitle.toList.map fun c =>
          if c = ',' then '，' else if Python.isprintable c then c else ' ')))
          QB_TAG_MAX_LENGTH)).toList, c ∉ MARKERS ∧ c ≠ ',' := by
        intro c hc
        have htaken := mem_of_mem_strip hc
        rw [takeStr, String.toList_ofList] at htaken
        rcases mem_joinWords (List.mem_of_mem_take htaken) with rfl | hcleaned
        · decide
        · rw [String.toList_ofList] at hcleaned
          obtain ⟨d, -, rfl⟩ := List.mem_map.mp hcleaned
          exact cleaned_char d
      have hnot : ∀ c, (c ∈ MARKERS ∨ c = ',') → containsChar (strip (takeStr (joinWords
          (String.ofList (mediaTitle.toList.map fun c =>
            if c = ',' then '，' else if Python.isprintable c then c else ' ')))
          QB_TAG_MAX_LENGTH)) c = false := by
        intro c hc
        rw [containsChar, List.contains_eq_mem, decide_eq_false_iff_not]
        intro hmem
        obtain ⟨hmarker, hcomma⟩ := hchar c hmem
        rcases hc with hc | hc
        · exact hmarker hc
        · exact hcomma hc
      exact
        { filled := isBlank_strip hfilled
          marker := fun c hc => hnot c (Or.inl hc)
          comma := hnot ',' (Or.inr rfl)
          length := by
            refine Nat.le_trans (length_strip_le _) ?_
            rw [takeStr, String.toList_ofList, List.length_take]
            omega }

/-! ### The tags of a plan -/

/-- **Tags that are built**: few, good ones, each once up to case, with that of the media. -/
theorem buildQbPlanTags_good {configured tags : List String} {mediaTitle : String}
    (h : buildQbPlanTags configured mediaTitle = .ok tags) :
    tags.length ≤ QB_TAG_MAX_COUNT ∧ (tags.map casefold).Nodup ∧ (∀ tag ∈ tags, GoodTag tag) ∧
      ∃ mediaTag, mediaTitleQbTag mediaTitle = .ok mediaTag ∧
        casefold mediaTag ∈ tags.map casefold := by
  rw [buildQbPlanTags] at h
  cases hconfigured : configuredPlanTags [] configured with
  | error e =>
      rw [hconfigured] at h
      cases h
  | ok kept =>
      obtain ⟨hgood, hunique⟩ := configuredPlanTags_good
        (fun tag htag => absurd htag List.not_mem_nil) List.nodup_nil hconfigured
      rw [hconfigured] at h
      cases hmedia : mediaTitleQbTag mediaTitle with
      | error e =>
          rw [hmedia] at h
          cases h
      | ok mediaTag =>
          rw [hmedia] at h
          dsimp only at h
          -- the tag of the media is added unless a configured one has it up to case
          by_cases hkept : casefold mediaTag ∈ kept.map casefold
          · rw [if_pos hkept] at h
            split at h
            · cases h
            · next hcount =>
                obtain rfl := Except.ok.inj h
                exact ⟨Nat.le_of_not_lt hcount, hunique, hgood, mediaTag, rfl, hkept⟩
          · rw [if_neg hkept] at h
            split at h
            · cases h
            · next hcount =>
                obtain rfl := Except.ok.inj h
                refine ⟨Nat.le_of_not_lt hcount, ?_, ?_, mediaTag, rfl, ?_⟩
                · rw [List.map_append, List.nodup_append]
                  refine ⟨hunique, List.nodup_singleton _, ?_⟩
                  intro a ha b hb hsame
                  rw [List.map_singleton, List.mem_singleton] at hb
                  exact hkept (by rwa [← hb, ← hsame])
                · intro tag hmem
                  rcases List.mem_append.mp hmem with hmem | hmem
                  · exact hgood tag hmem
                  · rw [List.mem_singleton.mp hmem]
                    exact goodTag_media hmedia
                · rw [List.map_append]
                  exact List.mem_append_right _ (List.mem_singleton_self _)

/-! ### Those who take the tags -/

/-- What the fingerprint of a target wants besides the tags of the plan. -/
def TargetUsable (settings : Settings) (plan : DownloadPlan) : Prop :=
  ∃ baseUrl savePath category parsed,
    settings.qbBaseUrlValue = some (some baseUrl) ∧ baseUrl ≠ "" ∧
    settings.qbTargetSavePath = some savePath ∧ savePath ≠ "" ∧
    settings.qbTargetCategory = some category ∧ category ≠ "" ∧ settings.qbAllowedHosts ≠ [] ∧
    plan.savePathRef = settings.qbSavePathRef ∧ plan.category = category ∧
    (∀ value ∈ [savePath, category, settings.qbTargetInstanceRef], isTargetValue value = true) ∧
    Python.urlsplit (rstripSlash baseUrl) = some parsed ∧ qbUrlAllowed settings parsed

/-- The error of a plan without the tag of its media. -/
def mediaTagMissing : AppError :=
  conflict "DOWNLOAD_PLAN_BINDING_INVALID" "下载计划缺少当前影视中文名标签"

/-- **Tags that all who take them accept**: they are few, differ up to case, and have that of the
media among them; the adapter judges a target with them as without; the fingerprint can be computed
exactly if the target is usable; and a plan with them does not lack the tag of its media. -/
structure AcceptedTags (configured : List String) (mediaTitle : String) (tags : List String) :
    Prop where
  count : tags.length ≤ QB_TAG_MAX_COUNT
  unique : (tags.map casefold).Nodup
  media : ∃ mediaTag, mediaTitleQbTag mediaTitle = .ok mediaTag ∧
    casefold mediaTag ∈ tags.map casefold
  validated : ∀ savePath category,
    Adapters.QbittorrentAdapter.validateTarget savePath category tags =
      Adapters.QbittorrentAdapter.validateTarget savePath category []
  fingerprinted : ∀ settings plan launchMode, settings.qbPlanTags = configured → plan.tags = tags →
    ((∃ fingerprint, qbTargetFingerprint settings plan launchMode mediaTitle = .ok fingerprint) ↔
      TargetUsable settings plan)
  verified : ∀ plan approval snapshot, plan.tags = tags → verifySnapshot approval = .ok snapshot →
    snapshot.mediaTitle = mediaTitle → verifyDownloadPlan plan approval ≠ .error mediaTagMissing

/-- The adapter judges a target with good tags as without. -/
theorem validateTarget_good {tags : List String} (hcount : tags.length ≤ QB_TAG_MAX_COUNT)
    (hgood : ∀ tag ∈ tags, GoodTag tag) (savePath category : String) :
    Adapters.QbittorrentAdapter.validateTarget savePath category tags =
      Adapters.QbittorrentAdapter.validateTarget savePath category [] := by
  have hvalues : ∀ tag ∈ tags, isBlank tag = false ∧
      ∀ marker ∈ ['\x00', '\r', '\n'], containsChar tag marker = false :=
    fun tag htag => ⟨(hgood tag htag).filled, (hgood tag htag).marker⟩
  have hshort : ∀ tag ∈ tags, containsChar tag ',' = false ∧ tag.toList.length ≤ 100 :=
    fun tag htag => ⟨(hgood tag htag).comma, (hgood tag htag).length⟩
  rw [Adapters.QbittorrentAdapter.validateTarget, Adapters.QbittorrentAdapter.validateTarget]
  congr 1
  · refine ensure_congr ?_ _
    constructor
    · rintro ⟨hpath, hcategory, h⟩
      refine ⟨hpath, hcategory, ?_⟩
      intro value hvalue
      exact h value (List.mem_cons.mpr ((List.mem_cons.mp hvalue).imp_right fun hmem =>
        List.mem_cons.mpr (Or.inl (List.mem_singleton.mp hmem))))
    · rintro ⟨hpath, hcategory, h⟩
      refine ⟨hpath, hcategory, ?_⟩
      intro value hvalue
      rcases List.mem_cons.mp hvalue with rfl | hvalue
      · exact h _ List.mem_cons_self
      · rcases List.mem_cons.mp hvalue with rfl | htag
        · exact h _ (List.mem_cons_of_mem _ List.mem_cons_self)
        · exact hvalues value htag
  · funext _
    refine ensure_congr ?_ _
    exact ⟨fun _ => ⟨by decide, fun tag htag => absurd htag List.not_mem_nil⟩,
      fun _ => ⟨hcount, hshort⟩⟩

/-- A good tag is a value that can be sent to the downloader. -/
theorem GoodTag.isTargetValue {tag : String} (h : GoodTag tag) : isTargetValue tag = true := by
  rw [Services.isTargetValue, h.filled, h.marker '\x00' (by decide), h.marker '\r' (by decide),
    h.marker '\n' (by decide)]
  rfl

/-- **The fingerprint of a target** whose tags were built can be computed exactly if the target is
usable. -/
theorem qbTargetFingerprint_iff {settings : Settings} {plan : DownloadPlan} {mediaTitle : String}
    (launchMode : DownloadLaunchMode)
    (hbuilt : buildQbPlanTags settings.qbPlanTags mediaTitle = .ok plan.tags) :
    (∃ fingerprint, qbTargetFingerprint settings plan launchMode mediaTitle = .ok fingerprint) ↔
      TargetUsable settings plan := by
  obtain ⟨hcount, -, hgood, -⟩ := buildQbPlanTags_good hbuilt
  have htags : (plan.tags.all isTargetValue) = true ∧ plan.tags.length ≤ 20 ∧
      (plan.tags.all fun tag => !containsChar tag ',' && tag.toList.length ≤ 100) = true := by
    refine ⟨List.all_eq_true.mpr fun tag htag => (hgood tag htag).isTargetValue, hcount,
      List.all_eq_true.mpr ?_⟩
    intro tag htag
    rw [(hgood tag htag).comma, Bool.not_false, Bool.true_and]
    exact decide_eq_true (hgood tag htag).length
  simp only [qbTargetFingerprint, bind_eq_ok, orRaise_eq_ok, ensure_eq_ok, pure_eq_ok, hbuilt,
    Except.mapError, Option.filter_eq_some_iff, List.all_cons, Bool.and_eq_true, TargetUsable,
    decide_eq_true_eq, List.forall_mem_cons]
  constructor
  · rintro ⟨_, _, hurl, baseUrl, ⟨rfl, hbase⟩, savePath, ⟨hpath, hfilled⟩, category,
      ⟨hcategory, hnamed⟩, _, hhosts, _, -, _, ⟨href, hsame, -⟩, _, ⟨⟨h1, h2, h3, -⟩, -⟩, parsed,
      hparsed, _, hallowed, -⟩
    exact ⟨baseUrl, savePath, category, parsed, hurl, hbase, hpath, hfilled, hcategory, hnamed,
      hhosts, href, hsame, ⟨h1, h2, h3, fun value hvalue => absurd hvalue List.not_mem_nil⟩, hparsed,
      hallowed⟩
  · rintro ⟨baseUrl, savePath, category, parsed, hurl, hbase, hpath, hfilled, hcategory, hnamed,
      hhosts, href, hsame, ⟨h1, h2, h3, -⟩, hparsed, hallowed⟩
    exact ⟨_, _, hurl, baseUrl, ⟨rfl, hbase⟩, savePath, ⟨hpath, hfilled⟩, category,
      ⟨hcategory, hnamed⟩, (), hhosts, _, rfl, (), ⟨href, hsame, rfl⟩, (),
      ⟨⟨h1, h2, h3, htags.1⟩, htags.2⟩, parsed, hparsed, (), hallowed, rfl⟩

/-- A plan with the tag of its media does not lack it. -/
theorem verifyDownloadPlan_ne_missing {plan : DownloadPlan} {approval : ApprovalRequest}
    {snapshot : ApprovalCandidateSnapshot} {mediaTag : String}
    (hsnapshot : verifySnapshot approval = .ok snapshot)
    (hmedia : mediaTitleQbTag snapshot.mediaTitle = .ok mediaTag)
    (htag : casefold mediaTag ∈ plan.tags.map casefold) :
    verifyDownloadPlan plan approval ≠ .error mediaTagMissing := by
  have hany : (plan.tags.any fun tag => casefold tag = casefold mediaTag) = true := by
    obtain ⟨tag, hmem, hsame⟩ := List.mem_map.mp htag
    exact List.any_eq_true.mpr ⟨tag, hmem, decide_eq_true hsame⟩
  intro hmissing
  rw [verifyDownloadPlan, hsnapshot] at hmissing
  -- none of the checks before that of the tag has its error
  rcases bind_eq_error.mp hmissing with h | ⟨_, hsame, hmissing⟩
  · cases h
  cases hsame
  rcases bind_eq_error.mp hmissing with h | ⟨_, -, hmissing⟩
  · exact absurd (ensure_eq_error.mp h).2 (by decide)
  rcases bind_eq_error.mp hmissing with h | ⟨_, -, hmissing⟩
  · exact absurd (ensure_eq_error.mp h).2 (by decide)
  rcases bind_eq_error.mp hmissing with h | ⟨_, -, hmissing⟩
  · exact absurd (ensure_eq_error.mp h).2 (by decide)
  rcases bind_eq_error.mp hmissing with h | ⟨_, -, hmissing⟩
  · exact absurd (orRaise_eq_error.mp h).2 (by decide)
  rcases bind_eq_error.mp hmissing with h | ⟨_, -, hmissing⟩
  · exact absurd (orRaise_eq_error.mp h).2 (by decide)
  rcases bind_eq_error.mp hmissing with h | ⟨_, -, hmissing⟩
  · exact absurd (orRaise_eq_error.mp h).2 (by decide)
  rcases bind_eq_error.mp hmissing with h | ⟨_, -, hmissing⟩
  · exact absurd (ensure_eq_error.mp h).2 (by decide)
  rw [hmedia] at hmissing
  rcases bind_eq_error.mp hmissing with h | ⟨expected, hexpected, hmissing⟩
  · cases h
  cases hexpected
  rcases bind_eq_error.mp hmissing with h | ⟨_, -, hmissing⟩
  · exact (ensure_eq_error.mp h).1 hany
  · cases hmissing

/-- **Tags that are built are accepted**: the tags are not built, or those who take them do. -/
theorem buildQbPlanTags_accepted (configured : List String) (mediaTitle : String) :
    (∃ e : AppError, buildQbPlanTags configured mediaTitle = .error e) ∨
      ∃ tags, buildQbPlanTags configured mediaTitle = .ok tags ∧
        AcceptedTags configured mediaTitle tags := by
  cases hbuilt : buildQbPlanTags configured mediaTitle with
  | error e => exact Or.inl ⟨e, rfl⟩
  | ok tags =>
      obtain ⟨hcount, hunique, hgood, mediaTag, hmedia, htag⟩ := buildQbPlanTags_good hbuilt
      refine Or.inr ⟨tags, rfl, ?_⟩
      exact
        { count := hcount
          unique := hunique
          media := ⟨mediaTag, hmedia, htag⟩
          validated := validateTarget_good hcount hgood
          fingerprinted := by
            rintro settings plan launchMode rfl rfl
            exact qbTargetFingerprint_iff launchMode hbuilt
          verified := by
            rintro plan approval snapshot rfl hsnapshot rfl
            exact verifyDownloadPlan_ne_missing hsnapshot hmedia htag }

end LibSeek.Services
