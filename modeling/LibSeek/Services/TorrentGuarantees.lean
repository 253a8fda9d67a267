/-
What the validation of a torrent guarantees.

An accepted torrent is in canonical form, its hashes are hashes of the slice of the payload that is
its info dictionary, and its sizes and counts are those of the files that it describes.  Three
things are not as they could be: a private flag that is a list or a dictionary ends the validation
with an error of the language, a torrent that says that it is of version 2 has the hash of version
2 without the tree, and the list of version 1 is compared with the tree by its totals only.

Main definitions:

* `Services.Validated` — what has been checked of an accepted torrent;
* `Services.ReadsPrivateFlag` — a payload whose private flag is looked at;
* `Services.HashesSound` — hashes that the contents have been checked for;
* `Services.Guarantees` — what an accepted torrent guarantees.

Main results:

* `Services.validateTorrent_raises_iff` — **when the validation raises only its own errors**;
* `Services.hashesSound_iff` — **when the hashes are those of the contents**;
* `Services.validateTorrent_files` — **the files of an accepted torrent**;
* `Services.validateTorrent_guarantees` — **what an accepted torrent guarantees**.
-/

import LibSeek.Lib.Hops
import LibSeek.Services.TorrentFiles

set_option relaxedAutoImplicit false
set_option autoImplicit false

namespace LibSeek.Services

open LibSeek.Core LibSeek.Lib LibSeek.Schemas

/-! ### What is raised -/

/-- The errors that are declared. -/
def IsAppError (e : Exn) : Prop :=
  ∃ error, e = .app error

section Raises

theorem isAppError_app (error : AppError) : IsAppError (.app error) :=
  ⟨error, rfl⟩

theorem onlyRaises_ensureValid {p : Prop} [Decidable p] (message : String) :
    OnlyRaises IsAppError (ensureValid p message) :=
  onlyRaises_ensure (isAppError_app _)

theorem onlyRaises_expectDict (value : Option BValue) (message : String) :
    OnlyRaises IsAppError (expectDict value message) := by
  unfold expectDict
  split
  · exact onlyRaises_ok _
  · exact onlyRaises_error (isAppError_app _)

theorem onlyRaises_expectBytes (value : Option BValue) (message : String) :
    OnlyRaises IsAppError (expectBytes value message) := by
  unfold expectBytes
  split
  · exact onlyRaises_ok _
  · exact onlyRaises_error (isAppError_app _)

theorem onlyRaises_expectList (value : Option BValue) (message : String) :
    OnlyRaises IsAppError (expectList value message) := by
  unfold expectList
  split
  · exact onlyRaises_ok _
  · exact onlyRaises_error (isAppError_app _)

theorem onlyRaises_positiveInteger (value : Option BValue) (default : Option ℕ) :
    OnlyRaises IsAppError (positiveInteger value default) := by
  unfold positiveInteger
  split
  · exact onlyRaises_ok _
  · exact onlyRaises_ite (onlyRaises_ok _) (onlyRaises_error (isAppError_app _))
  · exact onlyRaises_error (isAppError_app _)

theorem onlyRaises_decodeComponent (value : Option BValue) (field : String) :
    OnlyRaises IsAppError (decodeComponent value field) := by
  unfold decodeComponent
  split
  · split
    · exact onlyRaises_error (isAppError_app _)
    · exact onlyRaises_ite (onlyRaises_error (isAppError_app _)) (onlyRaises_ok _)
  · exact onlyRaises_error (isAppError_app _)

theorem onlyRaises_mapM {α β : Type} {f : α → Except Exn β}
    (h : ∀ a, OnlyRaises IsAppError (f a)) (args : List α) :
    OnlyRaises IsAppError (args.mapM f) := by
  induction args with
  | nil =>
      rw [List.mapM_nil]
      exact onlyRaises_ok _
  | cons arg args ih =>
      rw [List.mapM_cons]
      exact (h arg).bind fun _ => ih.bind fun _ => onlyRaises_ok _

theorem onlyRaises_validateFileAttributes (value : BDict) :
    OnlyRaises IsAppError (validateFileAttributes value) := by
  have hattributes : OnlyRaises IsAppError (attributesAllowed (value.get (ascii "attr"))) := by
    unfold attributesAllowed
    split
    · exact onlyRaises_ok _
    · exact onlyRaises_ensureValid _
    · exact onlyRaises_error (isAppError_app _)
  exact hattributes.bind fun _ => onlyRaises_ensureValid _

theorem onlyRaises_contentLength (value : Option BValue) :
    OnlyRaises IsAppError (contentLength value) :=
  (onlyRaises_positiveInteger _ _).bind fun _ =>
    (onlyRaises_ensureValid _).bind fun _ => onlyRaises_ok _

theorem onlyRaises_v1FileLoop (entries : List BValue) (total : ℕ) (seen : List (List String)) :
    OnlyRaises IsAppError (v1FileLoop entries total seen) := by
  induction entries generalizing total seen with
  | nil => exact onlyRaises_ok _
  | cons entry entries ih =>
      cases entry with
      | dict entry =>
          rw [v1FileLoop]
          refine (onlyRaises_validateFileAttributes _).bind fun _ => ?_
          refine (onlyRaises_contentLength _).bind fun _ => ?_
          refine (onlyRaises_ensureValid _).bind fun _ => ?_
          refine (onlyRaises_expectList _ _).bind fun _ => ?_
          refine (onlyRaises_ensureValid _).bind fun _ => ?_
          refine (onlyRaises_mapM (fun _ => onlyRaises_decodeComponent _ _) _).bind fun _ => ?_
          exact (onlyRaises_ensureValid _).bind fun _ => ih _ _
      | int n => exact onlyRaises_error (isAppError_app _)
      | bytes b => exact onlyRaises_error (isAppError_app _)
      | list items => exact onlyRaises_error (isAppError_app _)

theorem onlyRaises_validateV1Files (info : BDict) (maxFiles : ℕ) :
    OnlyRaises IsAppError (validateV1Files info maxFiles) := by
  have hcontents : OnlyRaises IsAppError
      (if ascii "length" ∈ info.keys then v1SingleFile info else v1FileList info maxFiles) := by
    refine onlyRaises_ite ?_ ?_
    · refine (onlyRaises_validateFileAttributes _).bind fun _ => ?_
      exact (onlyRaises_contentLength _).bind fun _ => onlyRaises_ok _
    · refine (onlyRaises_expectList _ _).bind fun _ => ?_
      refine (onlyRaises_ensureValid _).bind fun _ => ?_
      exact (onlyRaises_v1FileLoop _ _ _).bind fun _ => onlyRaises_ok _
  refine (onlyRaises_positiveInteger _ _).bind fun _ => ?_
  refine (onlyRaises_ensureValid _).bind fun _ => ?_
  refine (onlyRaises_expectBytes _ _).bind fun _ => ?_
  refine (onlyRaises_ensureValid _).bind fun _ => ?_
  refine (onlyRaises_ensureValid _).bind fun _ => ?_
  exact hcontents.bind fun _ => (onlyRaises_ensureValid _).bind fun _ => onlyRaises_ok _

theorem onlyRaises_v2File (maxFiles : ℕ) (value : BValue) (sofar : ℕ × ℕ) :
    OnlyRaises IsAppError (v2File maxFiles value sofar) := by
  refine (onlyRaises_expectDict _ _).bind fun _ => ?_
  refine (onlyRaises_validateFileAttributes _).bind fun _ => ?_
  refine (onlyRaises_contentLength _).bind fun _ => ?_
  refine (onlyRaises_ensureValid _).bind fun _ => ?_
  refine (onlyRaises_ensureValid _).bind fun _ => ?_
  exact (onlyRaises_ensureValid _).bind fun _ => onlyRaises_ok _

mutual

theorem onlyRaises_v2Walk (maxFiles depth : ℕ) : (value : BValue) → (sofar : ℕ × ℕ) →
    OnlyRaises IsAppError (v2Walk maxFiles depth value sofar)
  | .dict node, sofar => by
      rw [v2Walk]
      refine (onlyRaises_ensureValid _).bind fun _ => ?_
      exact (onlyRaises_ensureValid _).bind fun _ => onlyRaises_v2WalkMembers maxFiles depth node _
  | .int _, _ => onlyRaises_error (isAppError_app _)
  | .bytes _, _ => onlyRaises_error (isAppError_app _)
  | .list _, _ => onlyRaises_error (isAppError_app _)

theorem onlyRaises_v2WalkMembers (maxFiles depth : ℕ) : (members : BDict) → (sofar : ℕ × ℕ) →
    OnlyRaises IsAppError (v2WalkMembers maxFiles depth members sofar)
  | .nil, _ => onlyRaises_ok _
  | .cons [] value members, sofar => by
      rw [v2WalkMembers]
      exact (onlyRaises_v2File _ _ _).bind fun _ =>
        onlyRaises_v2WalkMembers maxFiles depth members _
  | .cons (b :: bs) value members, sofar => by
      rw [v2WalkMembers]
      refine (onlyRaises_decodeComponent _ _).bind fun _ => ?_
      refine (onlyRaises_v2Walk maxFiles (depth + 1) value _).bind fun _ => ?_
      exact onlyRaises_v2WalkMembers maxFiles depth members _

end

theorem onlyRaises_validateV2Files (info : BDict) (maxFiles : ℕ) :
    OnlyRaises IsAppError (validateV2Files info maxFiles) := by
  refine (onlyRaises_positiveInteger _ _).bind fun _ => ?_
  refine (onlyRaises_ensureValid _).bind fun _ => ?_
  refine (onlyRaises_positiveInteger _ _).bind fun _ => ?_
  refine (onlyRaises_ensureValid _).bind fun _ => ?_
  refine (onlyRaises_expectDict _ _).bind fun _ => ?_
  exact (onlyRaises_ensureValid _).bind fun _ => onlyRaises_v2Walk _ _ _ _

theorem onlyRaises_whenShape (shape : Prop) [Decidable shape] {validate : Except Exn (ℕ × ℕ)}
    (h : OnlyRaises IsAppError validate) : OnlyRaises IsAppError (whenShape shape validate) := by
  refine onlyRaises_ite ?_ (onlyRaises_ok _)
  intro e he
  cases validate with
  | error e' =>
      cases he
      exact h e rfl
  | ok r => cases he

theorem onlyRaises_shapesAgree (v1 v2 : Option (ℕ × ℕ)) :
    OnlyRaises IsAppError (shapesAgree v1 v2) := by
  unfold shapesAgree
  split
  · exact (onlyRaises_ensureValid _).bind fun _ => onlyRaises_ensureValid _
  · exact onlyRaises_ok _

theorem onlyRaises_torrentMetadata [TorrentCodec] (name : String) (isPrivate : Option Bool)
    (metaVersion : ℕ) (encodedInfo : Bytes) (v1 v2 : Option (ℕ × ℕ)) :
    OnlyRaises IsAppError (torrentMetadata name isPrivate metaVersion encodedInfo v1 v2) := by
  unfold torrentMetadata
  split
  · exact onlyRaises_error (isAppError_app _)
  · split
    · exact onlyRaises_ite (onlyRaises_error (isAppError_app _)) (onlyRaises_ok _)
    · exact onlyRaises_error (isAppError_app _)

/-- A value that is a list or a dictionary. -/
def isContainer : Option BValue → Bool
  | some (.list _) | some (.dict _) => true
  | _ => false

/-- **The private flag** is looked up in a set, which raises for a list or a dictionary. -/
theorem onlyRaises_privateFlag_iff (value : Option BValue) :
    OnlyRaises IsAppError (privateFlag value) ↔ isContainer value = false := by
  unfold privateFlag isContainer
  split
  · exact ⟨fun _ => rfl, fun _ => onlyRaises_ok _⟩
  · exact ⟨fun _ => rfl, fun _ => onlyRaises_ok _⟩
  · exact ⟨fun _ => rfl, fun _ => onlyRaises_ok _⟩
  · refine ⟨fun h => ?_, nofun⟩
    obtain ⟨error, herror⟩ := h _ rfl
    cases herror
  · refine ⟨fun h => ?_, nofun⟩
    obtain ⟨error, herror⟩ := h _ rfl
    cases herror
  · rename_i hlist hdict
    refine ⟨fun _ => ?_, fun _ => onlyRaises_error (isAppError_app _)⟩
    split
    · rename_i items heq
      exact absurd (Option.some.inj heq) (hlist items)
    · rename_i members heq
      exact absurd (Option.some.inj heq) (hdict members)
    · rfl

end Raises

/-! ### What has been checked -/

section Torrents

variable [TorrentCodec] {payload : Bytes} {expected : Option String}
  {maxTorrentBytes maxFiles : ℕ} {t : ValidatedTorrent}

/-- What has been checked of a payload when its private flag is looked at. -/
structure ReadsPrivateFlag (payload : Bytes) (maxTorrentBytes : ℕ) (info : BDict)
    (metaVersion : ℕ) (name : String) : Prop where
  nonempty : payload ≠ []
  size : payload.length ≤ max 1 maxTorrentBytes
  root : ∃ members, TorrentCodec.decode payload = some (.dict members) ∧
    TorrentCodec.encode (.dict members) = payload ∧
    members.get (ascii "info") = some (.dict info)
  version : positiveInteger (info.get (ascii "meta version")) (some 1) = .ok metaVersion
  known : metaVersion = 1 ∨ metaVersion = 2
  name : decodeComponent ((info.get (ascii "name.utf-8")).or (info.get (ascii "name"))) "name" =
    .ok name

theorem readTorrent_eq_ok {read : BDict × ℕ × String} :
    readTorrent payload maxTorrentBytes = .ok read ↔
      ReadsPrivateFlag payload maxTorrentBytes read.1 read.2.1 read.2.2 := by
  constructor
  · intro h
    obtain ⟨_, hnonempty, h⟩ := bind_eq_ok.mp h
    obtain ⟨_, hsize, h⟩ := bind_eq_ok.mp h
    obtain ⟨root, hroot, h⟩ := bind_eq_ok.mp h
    obtain ⟨_, hencode, h⟩ := bind_eq_ok.mp h
    obtain ⟨members, hmembers, h⟩ := bind_eq_ok.mp h
    obtain ⟨info, hinfo, h⟩ := bind_eq_ok.mp h
    obtain ⟨metaVersion, hversion, h⟩ := bind_eq_ok.mp h
    obtain ⟨_, hknown, h⟩ := bind_eq_ok.mp h
    obtain ⟨name, hname, hread⟩ := bind_eq_ok.mp h
    obtain rfl := Except.ok.inj hread
    obtain rfl := Option.some.inj (expectDict_eq_ok.mp hmembers)
    exact ⟨ensure_eq_ok.mp hnonempty, ensure_eq_ok.mp hsize, ⟨members, orRaise_eq_ok.mp hroot,
      ensure_eq_ok.mp hencode, expectDict_eq_ok.mp hinfo⟩, hversion, ensure_eq_ok.mp hknown, hname⟩
  · intro h
    obtain ⟨info, metaVersion, name⟩ := read
    obtain ⟨members, hdecode, hencode, hinfo⟩ := h.root
    refine bind_eq_ok.mpr ⟨(), ensure_eq_ok.mpr h.nonempty, ?_⟩
    refine bind_eq_ok.mpr ⟨(), ensure_eq_ok.mpr h.size, ?_⟩
    refine bind_eq_ok.mpr ⟨.dict members, orRaise_eq_ok.mpr hdecode, ?_⟩
    refine bind_eq_ok.mpr ⟨(), ensure_eq_ok.mpr hencode, ?_⟩
    refine bind_eq_ok.mpr ⟨members, rfl, ?_⟩
    refine bind_eq_ok.mpr ⟨info, expectDict_eq_ok.mpr hinfo, ?_⟩
    refine bind_eq_ok.mpr ⟨metaVersion, h.version, ?_⟩
    refine bind_eq_ok.mpr ⟨(), ensure_eq_ok.mpr h.known, ?_⟩
    exact bind_eq_ok.mpr ⟨name, h.name, rfl⟩

theorem onlyRaises_readTorrent (payload : Bytes) (maxTorrentBytes : ℕ) :
    OnlyRaises IsAppError (readTorrent payload maxTorrentBytes) := by
  refine (onlyRaises_ensureValid _).bind fun _ => ?_
  refine (onlyRaises_ensure (isAppError_app _)).bind fun _ => ?_
  refine (onlyRaises_orRaise (isAppError_app _)).bind fun _ => ?_
  refine (onlyRaises_ensureValid _).bind fun _ => ?_
  refine (onlyRaises_expectDict _ _).bind fun _ => ?_
  refine (onlyRaises_expectDict _ _).bind fun _ => ?_
  refine (onlyRaises_positiveInteger _ _).bind fun _ => ?_
  refine (onlyRaises_ensureValid _).bind fun _ => ?_
  exact (onlyRaises_decodeComponent _ _).bind fun _ => onlyRaises_ok _

theorem onlyRaises_afterPrivateFlag (info : BDict) (maxFiles : ℕ) (name : String)
    (metaVersion : ℕ) (isPrivate : Option Bool) :
    OnlyRaises IsAppError (afterPrivateFlag info maxFiles name metaVersion isPrivate) := by
  refine (onlyRaises_ensureValid _).bind fun _ => ?_
  refine (onlyRaises_whenShape _ (onlyRaises_validateV1Files _ _)).bind fun _ => ?_
  refine (onlyRaises_whenShape _ (onlyRaises_validateV2Files _ _)).bind fun _ => ?_
  exact (onlyRaises_shapesAgree _ _).bind fun _ => onlyRaises_torrentMetadata _ _ _ _ _ _

/-- **When the validation raises only its own errors**: unless it looks at a private flag that is a
list or a dictionary. -/
theorem validateTorrent_raises_iff [Python] (payload : Bytes) (expected : Option String)
    (maxTorrentBytes maxFiles : ℕ) :
    OnlyRaises IsAppError (validateTorrent payload expected maxTorrentBytes maxFiles) ↔
      ∀ info metaVersion name, ReadsPrivateFlag payload maxTorrentBytes info metaVersion name →
        isContainer (info.get (ascii "private")) = false := by
  have hmismatch : ∀ t : ValidatedTorrent, OnlyRaises IsAppError (do
      ensure (∀ e ∈ expected, isInfoHash (lowerHex e) = true ∧ t.matchesHash e = true)
        (.app torrentInfoHashMismatch)
      return t : Except Exn ValidatedTorrent) :=
    fun t => (onlyRaises_ensure (isAppError_app _)).bind fun _ => onlyRaises_ok _
  unfold validateTorrent torrentOf
  -- before the private flag, only errors of the application are raised
  cases hread : readTorrent payload maxTorrentBytes with
  | error e =>
      obtain ⟨error, rfl⟩ := onlyRaises_readTorrent payload maxTorrentBytes e hread
      refine ⟨fun _ info metaVersion name hreads => ?_,
        fun _ => onlyRaises_error (isAppError_app error)⟩
      have hok := (@readTorrent_eq_ok _ _ _ (info, metaVersion, name)).mpr hreads
      rw [hread] at hok
      cases hok
  | ok read =>
      have hreads := readTorrent_eq_ok.mp hread
      have hchecks : (Except.ok read >>= fun read : BDict × ℕ × String =>
          privateFlag (read.1.get (ascii "private")) >>=
            afterPrivateFlag read.1 maxFiles read.2.2 read.2.1) =
          privateFlag (read.1.get (ascii "private")) >>=
            afterPrivateFlag read.1 maxFiles read.2.2 read.2.1 := rfl
      rw [hchecks]
      constructor
      · intro h info metaVersion name hreads'
        have hok := (@readTorrent_eq_ok _ _ _ (info, metaVersion, name)).mpr hreads'
        rw [hread] at hok
        obtain rfl := Except.ok.inj hok
        exact (onlyRaises_privateFlag_iff _).mp h.of_bind.of_bind
      · intro h
        have hflag := (onlyRaises_privateFlag_iff _).mpr (h _ _ _ hreads)
        refine (hflag.bind fun _ => ?_).bind hmismatch
        exact onlyRaises_afterPrivateFlag _ _ _ _ _

/-- **What has been checked of an accepted torrent.** -/
structure Validated (payload : Bytes) (maxTorrentBytes maxFiles : ℕ) (info : BDict)
    (t : ValidatedTorrent) : Prop where
  reads : ReadsPrivateFlag payload maxTorrentBytes info t.metaVersion t.name
  shape : v1Shape info ∨ v2Shape info
  v1 : v1Shape info → validateV1Files info maxFiles = .ok (t.totalSizeBytes, t.fileCount)
  v2 : v2Shape info → validateV2Files info maxFiles = .ok (t.totalSizeBytes, t.fileCount)
  total : (t.totalSizeBytes : Int) ≤ MAX_TOTAL_SIZE
  hashV1 : t.infoHashV1 =
    if v1Shape info then some (TorrentCodec.sha1 (TorrentCodec.encode (.dict info))) else none
  hashV2 : t.infoHashV2 =
    if t.metaVersion = 2 then some (TorrentCodec.sha256 (TorrentCodec.encode (.dict info))) else none

omit [TorrentCodec] in
/-- The result of a validation that is made only of a torrent with a shape. -/
theorem whenShape_eq_ok {shape : Prop} [Decidable shape] {validate : Except Exn (ℕ × ℕ)}
    {r : Option (ℕ × ℕ)} (h : whenShape shape validate = .ok r) :
    (shape → ∃ contents, validate = .ok contents ∧ r = some contents) ∧ (¬ shape → r = none) := by
  unfold whenShape at h
  split at h
  · rename_i hshape
    refine ⟨fun _ => ?_, fun hnot => absurd hshape hnot⟩
    cases hvalidate : validate with
    | error e =>
        rw [hvalidate] at h
        cases h
    | ok contents =>
        rw [hvalidate] at h
        exact ⟨contents, rfl, (Except.ok.inj h).symm⟩
  · rename_i hshape
    exact ⟨fun hyes => absurd hyes hshape, fun _ => (Except.ok.inj h).symm⟩

/-- The metadata of a torrent whose contents have been checked. -/
theorem torrentMetadata_eq_ok {name : String} {isPrivate : Option Bool} {metaVersion : ℕ}
    {encodedInfo : Bytes} {v1 v2 : Option (ℕ × ℕ)}
    (h : torrentMetadata name isPrivate metaVersion encodedInfo v1 v2 = .ok t) :
    v1.or v2 = some (t.totalSizeBytes, t.fileCount) ∧ t.name = name ∧
      t.metaVersion = metaVersion ∧ (t.totalSizeBytes : Int) ≤ MAX_TOTAL_SIZE ∧
      t.infoHashV1 = v1.map (fun _ => TorrentCodec.sha1 encodedInfo) ∧
      t.infoHashV2 = if metaVersion = 2 then some (TorrentCodec.sha256 encodedInfo) else none := by
  unfold torrentMetadata at h
  split at h
  · cases h
  · rename_i totalSize fileCount hcontents
    split at h
    · split at h
      · cases h
      · rename_i htotal
        obtain rfl := Except.ok.inj h
        exact ⟨hcontents, rfl, rfl, not_lt.mp htotal, rfl, rfl⟩
    · cases h

theorem validated_of_torrentOf (h : torrentOf payload maxTorrentBytes maxFiles = .ok t) :
    ∃ info, Validated payload maxTorrentBytes maxFiles info t := by
  obtain ⟨⟨info, metaVersion, name⟩, hread, h⟩ := bind_eq_ok.mp h
  have hreads := readTorrent_eq_ok.mp hread
  obtain ⟨isPrivate, -, h⟩ := bind_eq_ok.mp h
  obtain ⟨_, hshape, h⟩ := bind_eq_ok.mp h
  obtain ⟨v1, hv1, h⟩ := bind_eq_ok.mp h
  obtain ⟨v2, hv2, h⟩ := bind_eq_ok.mp h
  obtain ⟨_, hagree, hmetadata⟩ := bind_eq_ok.mp h
  obtain ⟨hv1some, hv1none⟩ := whenShape_eq_ok hv1
  obtain ⟨hv2some, hv2none⟩ := whenShape_eq_ok hv2
  obtain ⟨hcontents, rfl, rfl, htotal, hhash1, hhash2⟩ := torrentMetadata_eq_ok hmetadata
  refine ⟨info, hreads, ensure_eq_ok.mp hshape, fun hyes => ?_, fun hyes => ?_, htotal, ?_, hhash2⟩
  · obtain ⟨contents, hok, rfl⟩ := hv1some hyes
    rw [Option.some_or] at hcontents
    rw [hok, Option.some.inj hcontents]
  · obtain ⟨contents, hok, rfl⟩ := hv2some hyes
    by_cases hboth : v1Shape info
    · -- a hybrid: the totals agree
      obtain ⟨contents', -, rfl⟩ := hv1some hboth
      obtain ⟨_, hsize, hcount⟩ := bind_eq_ok.mp hagree
      have hsame : contents = contents' :=
        Prod.ext (ensure_eq_ok.mp hsize).symm (ensure_eq_ok.mp hcount).symm
      rw [Option.some_or] at hcontents
      rw [hok, hsame, Option.some.inj hcontents]
    · rw [hv1none hboth, Option.none_or] at hcontents
      rw [hok, Option.some.inj hcontents]
  · rw [hhash1]
    by_cases hyes : v1Shape info
    · obtain ⟨contents, -, rfl⟩ := hv1some hyes
      rw [if_pos hyes]
      rfl
    · rw [hv1none hyes, if_neg hyes]
      rfl

/-- The info dictionary of an accepted torrent is that of the payload. -/
theorem Validated.info_eq {info : BDict} (h : Validated payload maxTorrentBytes maxFiles info t) :
    infoOf (TorrentCodec.decode payload) = info := by
  obtain ⟨members, hdecode, -, hinfo⟩ := h.reads.root
  rw [hdecode]
  simp only [infoOf, hinfo]

theorem validated_of_validateTorrent [Python]
    (h : validateTorrent payload expected maxTorrentBytes maxFiles = .ok t) :
    Validated payload maxTorrentBytes maxFiles (infoOf (TorrentCodec.decode payload)) t := by
  obtain ⟨info, hvalidated⟩ := validated_of_torrentOf (validateTorrent_eq_ok.mp h).1
  rw [hvalidated.info_eq]
  exact hvalidated

/-! ### Hashes -/

/-- Whether a torrent says that it is of version 2. -/
def declaresV2 (info : BDict) : Bool :=
  match info.get (ascii "meta version") with
  | some (.int 2) => true
  | _ => false

/-- The hashes that a downloader assigns to a torrent: that of version 1 to one with pieces and
files, that of version 2 to one with a tree, and the beginning of that. -/
def assignedHashes (info : BDict) : List String :=
  hashSet
    (if ascii "pieces" ∈ info.keys ∧ (ascii "length" ∈ info.keys ∨ ascii "files" ∈ info.keys) then
      some (TorrentCodec.sha1 (TorrentCodec.encode (.dict info))) else none)
    (if ascii "file tree" ∈ info.keys ∧ declaresV2 info = true then
      some (TorrentCodec.sha256 (TorrentCodec.encode (.dict info))) else none)

/-- Each hash of a torrent is one that its contents have been checked for, and that a downloader
assigns to it. -/
structure HashesSound (info : BDict) (maxFiles : ℕ) (t : ValidatedTorrent) : Prop where
  v1 : t.infoHashV1 ≠ none → ascii "pieces" ∈ info.keys ∧
    ∃ contents, validateV1Files info maxFiles = .ok contents
  v2 : t.infoHashV2 ≠ none → ascii "file tree" ∈ info.keys ∧
    ∃ contents, validateV2Files info maxFiles = .ok contents
  identity : ∀ h ∈ t.identityHashes, h ∈ assignedHashes info

omit [TorrentCodec] in
theorem mem_keys_of_get {members : BDict} {key : Bytes} {value : BValue}
    (h : members.get key = some value) : key ∈ members.keys := by
  by_contra hnot
  rw [get_eq_none hnot] at h
  cases h

omit [TorrentCodec] in
/-- The version of a torrent is 2 where it says so. -/
theorem eq_two_iff {info : BDict} {n : ℕ}
    (h : positiveInteger (info.get (ascii "meta version")) (some 1) = .ok n) :
    n = 2 ↔ declaresV2 info = true := by
  unfold positiveInteger at h
  unfold declaresV2
  split at h
  · rename_i d hget hdefault
    obtain rfl := Option.some.inj hdefault
    obtain rfl := Except.ok.inj h
    rw [hget]
    exact ⟨nofun, nofun⟩
  · rename_i m hget
    rw [hget]
    split at h
    · rename_i hpos
      obtain rfl := Except.ok.inj h
      split
      · rename_i heq
        obtain rfl := BValue.int.inj (Option.some.inj heq)
        exact ⟨fun _ => rfl, fun _ => rfl⟩
      · rename_i hnot
        refine ⟨fun htwo => ?_, nofun⟩
        have hm : m = 2 := by omega
        exact absurd (by rw [hm]) hnot
    · cases h
  · cases h

omit [TorrentCodec] in
/-- More hashes of either version are more hashes. -/
theorem hashSet_mono {v1 v2 v1' v2' : Option String} (hv1 : ∀ h ∈ v1, h ∈ v1')
    (hv2 : ∀ h ∈ v2, h ∈ v2') {h : String} (hmem : h ∈ hashSet v1 v2) : h ∈ hashSet v1' v2' := by
  unfold hashSet at hmem ⊢
  rw [List.mem_append, List.mem_append] at hmem ⊢
  rcases hmem with (hmem | hmem) | hmem
  · exact Or.inl (Or.inl (Option.mem_toList.mpr (hv1 h (Option.mem_toList.mp hmem))))
  · exact Or.inl (Or.inr (Option.mem_toList.mpr (hv2 h (Option.mem_toList.mp hmem))))
  · obtain ⟨v, hv, rfl⟩ := Option.mem_map.mp (Option.mem_toList.mp hmem)
    exact Or.inr (Option.mem_toList.mpr (Option.mem_map.mpr ⟨v, hv2 v hv, rfl⟩))

/-- **When the hashes are those of the contents**: unless the torrent says that it is of version 2
and has no file tree. -/
theorem hashesSound_iff [Python]
    (h : validateTorrent payload expected maxTorrentBytes maxFiles = .ok t) :
    HashesSound (infoOf (TorrentCodec.decode payload)) maxFiles t ↔
      (declaresV2 (infoOf (TorrentCodec.decode payload)) = true →
        ascii "file tree" ∈ (infoOf (TorrentCodec.decode payload)).keys) := by
  have hvalidated := validated_of_validateTorrent h
  generalize infoOf (TorrentCodec.decode payload) = info at hvalidated ⊢
  have hversion := eq_two_iff hvalidated.reads.version
  constructor
  · intro hsound htwo
    refine (hsound.v2 ?_).1
    rw [hvalidated.hashV2, if_pos (hversion.mpr htwo)]
    exact Option.some_ne_none _
  · intro htree
    have hshape1 : t.infoHashV1 ≠ none → v1Shape info := by
      intro hsome
      by_contra hnot
      rw [hvalidated.hashV1, if_neg hnot] at hsome
      exact hsome rfl
    have htwo : t.infoHashV2 ≠ none → t.metaVersion = 2 := by
      intro hsome
      by_contra hnot
      rw [hvalidated.hashV2, if_neg hnot] at hsome
      exact hsome rfl
    obtain ⟨_, _, -, hname⟩ := decodeComponent_eq_ok hvalidated.reads.name
    -- the files were read, so that the members that version 1 needs are there
    have hpieces : v1Shape info → ascii "pieces" ∈ info.keys ∧
        (ascii "length" ∈ info.keys ∨ ascii "files" ∈ info.keys) := by
      intro hyes
      obtain ⟨files, hsound, -⟩ := validateV1Files_spec hname (hvalidated.v1 hyes)
      obtain ⟨pieces, -, hget, -⟩ := hsound.pieces
      refine ⟨mem_keys_of_get hget, ?_⟩
      by_contra hnone
      rw [not_or] at hnone
      exact hsound.single ⟨fun hlength => absurd hlength hnone.1, fun hfiles => absurd hfiles hnone.2⟩
    refine ⟨fun hsome => ?_, fun hsome => ?_, fun hash hmem => ?_⟩
    · exact ⟨(hpieces (hshape1 hsome)).1, _, hvalidated.v1 (hshape1 hsome)⟩
    · have hkey := htree (hversion.mp (htwo hsome))
      exact ⟨hkey, _, hvalidated.v2 hkey⟩
    · refine hashSet_mono (fun v hv => ?_) (fun v hv => ?_) hmem
      · have hyes := hshape1 (Option.ne_none_iff_exists'.mpr ⟨v, hv⟩)
        rw [hvalidated.hashV1, if_pos hyes] at hv
        rw [if_pos (hpieces hyes)]
        exact hv
      · have hyes := htwo (Option.ne_none_iff_exists'.mpr ⟨v, hv⟩)
        rw [hvalidated.hashV2, if_pos hyes] at hv
        rw [if_pos ⟨htree (hversion.mp hyes), hversion.mp hyes⟩]
        exact hv

/-! ### Files -/

/-- **The files of an accepted torrent**: the paths of the list are distinct, no file of the tree
has the path of another one or of a directory of it, and the two have the same total length and
the same number of files. -/
theorem validateTorrent_files [Python] [DistinctKeys]
    (h : validateTorrent payload expected maxTorrentBytes maxFiles = .ok t) :
    (v1Shape (infoOf (TorrentCodec.decode payload)) →
      ∃ files, v1Files t.name (infoOf (TorrentCodec.decode payload)) = some files ∧
        (files.map TorrentFile.path).Nodup ∧ totals files = (t.totalSizeBytes, t.fileCount)) ∧
    (v2Shape (infoOf (TorrentCodec.decode payload)) →
      ∃ files, v2Files (infoOf (TorrentCodec.decode payload)) = some files ∧ Apart files ∧
        totals files = (t.totalSizeBytes, t.fileCount)) := by
  have hvalidated := validated_of_validateTorrent h
  have hdistinct : (infoOf (TorrentCodec.decode payload)).KeysDistinct := by
    obtain ⟨members, hdecode, -, hinfo⟩ := hvalidated.reads.root
    have hroot := DistinctKeys.decode_distinct payload _ hdecode
    rw [BValue.KeysDistinct] at hroot
    have hvalue := hroot.2.get hinfo
    rw [BValue.KeysDistinct] at hvalue
    exact hvalue.2
  generalize infoOf (TorrentCodec.decode payload) = info at hvalidated hdistinct ⊢
  obtain ⟨_, _, -, hname⟩ := decodeComponent_eq_ok hvalidated.reads.name
  constructor
  · intro hyes
    obtain ⟨files, hsound, htotals⟩ := validateV1Files_spec hname (hvalidated.v1 hyes)
    exact ⟨files, hsound.listed, hsound.nodup, htotals.symm⟩
  · intro hyes
    obtain ⟨files, hsound, htotals⟩ := validateV2Files_spec (hvalidated.v2 hyes)
    exact ⟨files, hsound.listed, apart_v2Files hdistinct (hvalidated.v2 hyes) hsound.listed,
      htotals.symm⟩

/-! ### Guarantees -/

/-- **What an accepted torrent guarantees.** -/
structure Guarantees (payload : Bytes) (maxTorrentBytes maxFiles : ℕ) (info : BDict)
    (t : ValidatedTorrent) : Prop where
  canonical : ∃ root, TorrentCodec.decode payload = some root ∧ encodeCanonical root = payload
  slice : ∃ slice, MemberSlice payload (ascii "info") slice ∧ slice = encodeCanonical (.dict info) ∧
    (∀ h ∈ t.infoHashV1, h = TorrentCodec.sha1 slice) ∧
    ∀ h ∈ t.infoHashV2, h = TorrentCodec.sha256 slice
  name : SafeComponent t.name
  v1 : v1Shape info → ∃ files, SoundV1 t.name info maxFiles files ∧
    totals files = (t.totalSizeBytes, t.fileCount)
  v2 : v2Shape info → ∃ files, SoundV2 info maxFiles files ∧
    totals files = (t.totalSizeBytes, t.fileCount)
  shape : v1Shape info ∨ v2Shape info
  size : payload.length ≤ maxTorrentBytes
  count : t.fileCount ≤ maxFiles
  total : (t.totalSizeBytes : Int) ≤ MAX_TOTAL_SIZE

/-- **What an accepted torrent guarantees**: it is in canonical form, its hashes are those of the
slice of its info dictionary, its pieces are as many as its contents need, its sizes are sums, its
paths are safe, and the limits hold. -/
theorem validateTorrent_guarantees [Python] [CanonicalBencode] (hbytes : 0 < maxTorrentBytes)
    (hfiles : 0 < maxFiles)
    (h : validateTorrent payload expected maxTorrentBytes maxFiles = .ok t) :
    Guarantees payload maxTorrentBytes maxFiles (infoOf (TorrentCodec.decode payload)) t := by
  have hvalidated := validated_of_validateTorrent h
  generalize infoOf (TorrentCodec.decode payload) = info at hvalidated ⊢
  obtain ⟨members, hdecode, hencode, hinfo⟩ := hvalidated.reads.root
  obtain ⟨_, _, -, hname⟩ := decodeComponent_eq_ok hvalidated.reads.name
  -- the payload is canonical, so that the slice of a member is its encoding
  rw [CanonicalBencode.encode_eq] at hencode
  have hslice := memberSlice_of_get hinfo
  rw [hencode] at hslice
  have hv1 : v1Shape info → ∃ files, SoundV1 t.name info maxFiles files ∧
      totals files = (t.totalSizeBytes, t.fileCount) := by
    intro hyes
    obtain ⟨files, hsound, htotals⟩ := validateV1Files_spec hname (hvalidated.v1 hyes)
    exact ⟨files, hsound, htotals.symm⟩
  have hv2 : v2Shape info → ∃ files, SoundV2 info maxFiles files ∧
      totals files = (t.totalSizeBytes, t.fileCount) := by
    intro hyes
    obtain ⟨files, hsound, htotals⟩ := validateV2Files_spec (hvalidated.v2 hyes)
    exact ⟨files, hsound, htotals.symm⟩
  refine ⟨⟨_, hdecode, hencode⟩, ⟨_, hslice, rfl, fun hash hhash => ?_, fun hash hhash => ?_⟩,
    hname, hv1, hv2, hvalidated.shape, ?_, ?_, hvalidated.total⟩
  · rw [hvalidated.hashV1, CanonicalBencode.encode_eq] at hhash
    split at hhash
    · exact (Option.some.inj hhash).symm
    · cases hhash
  · rw [hvalidated.hashV2, CanonicalBencode.encode_eq] at hhash
    split at hhash
    · exact (Option.some.inj hhash).symm
    · cases hhash
  · have hsize := hvalidated.reads.size
    omega
  · rcases hvalidated.shape with hyes | hyes
    · obtain ⟨files, hsound, htotals⟩ := hv1 hyes
      have hcount := hsound.count
      have hlength : files.length = t.fileCount := congrArg Prod.snd htotals
      omega
    · obtain ⟨files, hsound, htotals⟩ := hv2 hyes
      have hlength : files.length = t.fileCount := congrArg Prod.snd htotals
      have hpos := t.fileCount_pos
      have hne : files ≠ [] := by
        rintro rfl
        rw [← hlength] at hpos
        exact absurd hpos (Nat.lt_irrefl 0)
      rw [← hlength]
      exact hsound.count hne

end Torrents

/-! ### Three torrents -/

/-- The dictionary with some members. -/
def BDict.ofList (members : List (Bytes × BValue)) : BDict :=
  members.foldr (fun one rest => .cons one.1 one.2 rest) .nil

/-- The list with some items. -/
def BList.ofList (items : List BValue) : BList :=
  items.foldr .cons .nil

/-- The torrent with an info dictionary. -/
def torrentWith (info : BDict) : BValue :=
  .dict (.cons (ascii "info") (.dict info) .nil)

/-- A torrent of one file whose private flag is a list. -/
def privateInfo : BDict :=
  BDict.ofList [(ascii "length", .int 1), (ascii "name", .bytes (ascii "a")),
    (ascii "piece length", .int 1), (ascii "pieces", .bytes (ascii "aaaaaaaaaaaaaaaaaaaa")),
    (ascii "private", .list .nil)]

@[reducible] def privateCodec : TorrentCodec :=
  soleCodec (torrentWith privateInfo) "2cbaaa8aea70127bb583f66d9fd4c20dc7c7a8fa"
    "3af3534c5570b57d8fa68c1840ce77ad76b68b2cab7fe2966d301415ccca01a9" (by decide) (by decide)

/-- A torrent of one file that says that it is of version 2. -/
def versionInfo : BDict :=
  BDict.ofList [(ascii "length", .int 1), (ascii "meta version", .int 2),
    (ascii "name", .bytes (ascii "a")), (ascii "piece length", .int 1),
    (ascii "pieces", .bytes (ascii "aaaaaaaaaaaaaaaaaaaa"))]

@[reducible] def versionCodec : TorrentCodec :=
  soleCodec (torrentWith versionInfo) "b7000cf73b0b3f7ad2687fa4d8141a953d543098"
    "d2665090e839b19a3eabbb3e422692298b3cabad6f6a53bc48c4ae8e5ca35b2b" (by decide) (by decide)

/-- The metadata of the torrent that says that it is of version 2. -/
def versionMetadata : ValidatedTorrent where
  name := "a"
  totalSizeBytes := 1
  fileCount := 1
  infoHashV1 := some "b7000cf73b0b3f7ad2687fa4d8141a953d543098"
  infoHashV2 := some "d2665090e839b19a3eabbb3e422692298b3cabad6f6a53bc48c4ae8e5ca35b2b"
  isPrivate := none
  metaVersion := 2
  totalSizeBytes_pos := Nat.one_pos
  fileCount_pos := Nat.one_pos
  infoHashV1_isHex := by decide
  infoHashV2_isHex := by decide
  infoHash_isSome := by decide

/-- A file of one byte of a tree. -/
def sampleLeaf : BValue :=
  .dict (BDict.ofList [([], .dict (BDict.ofList [(ascii "length", .int 1),
    (ascii "pieces root", .bytes (ascii "rrrrrrrrrrrrrrrrrrrrrrrrrrrrrrrr"))]))])

/-- A file of one byte of a list. -/
def sampleEntry (path : List String) : BValue :=
  .dict (BDict.ofList [(ascii "length", .int 1),
    (ascii "path", .list (BList.ofList (path.map fun text => .bytes (ascii text))))])

/-- A torrent of both versions, whose list has a file under another one, and whose tree has two
files of other names. -/
def hybridInfo : BDict :=
  BDict.ofList [(ascii "file tree", .dict (BDict.ofList [(ascii "c", sampleLeaf),
      (ascii "d", sampleLeaf)])),
    (ascii "files", .list (BList.ofList [sampleEntry ["a"], sampleEntry ["a", "b"]])),
    (ascii "meta version", .int 2), (ascii "name", .bytes (ascii "n")),
    (ascii "piece length", .int 1),
    (ascii "pieces", .bytes (ascii "aaaaaaaaaaaaaaaaaaaaaaaaaaaaaaaaaaaaaaaa"))]

@[reducible] def hybridCodec : TorrentCodec :=
  soleCodec (torrentWith hybridInfo) "a0739de8020e63d5eb471fc53b89031a6893d933"
    "ca06284f7eb97bc456c311569d30e2f0d183068fcd20b8916a609a5800547e8b" (by decide) (by decide)

/-- The metadata of the torrent of both versions. -/
def hybridMetadata : ValidatedTorrent where
  name := "n"
  totalSizeBytes := 2
  fileCount := 2
  infoHashV1 := some "a0739de8020e63d5eb471fc53b89031a6893d933"
  infoHashV2 := some "ca06284f7eb97bc456c311569d30e2f0d183068fcd20b8916a609a5800547e8b"
  isPrivate := none
  metaVersion := 2
  totalSizeBytes_pos := by decide
  fileCount_pos := by decide
  infoHashV1_isHex := by decide
  infoHashV2_isHex := by decide
  infoHash_isSome := by decide

/-- The validation of a private flag that is a list ends with an error of the language. -/
theorem validateTorrent_private :
    ¬ ∀ (_ : TorrentCodec) (_ : Python) (payload : Bytes) (maxTorrentBytes maxFiles : ℕ),
      0 < maxTorrentBytes → 0 < maxFiles →
        OnlyRaises IsAppError (validateTorrent payload none maxTorrentBytes maxFiles) := by
  intro h
  have hraises : @validateTorrent asciiPython privateCodec
      (encodeCanonical (torrentWith privateInfo)) none 1000 10 = .error (.other "TypeError") := by
    rfl
  obtain ⟨error, herror⟩ := h privateCodec asciiPython _ 1000 10 (by decide) (by decide) _ hraises
  cases herror

theorem validateTorrent_version :
    @validateTorrent asciiPython versionCodec (encodeCanonical (torrentWith versionInfo)) none
      1000 10 = .ok versionMetadata := by
  rfl

theorem validateTorrent_hybrid :
    @validateTorrent asciiPython hybridCodec (encodeCanonical (torrentWith hybridInfo)) none
      1000 10 = .ok hybridMetadata := by
  decide +kernel

/-- A torrent of version 1 that says that it is of version 2 has the hash of version 2, and no
tree that it could be of. -/
theorem versionHash_unsound :
    ¬ ∀ (_ : TorrentCodec) (_ : Python) (payload : Bytes) (maxTorrentBytes maxFiles : ℕ)
      (t : ValidatedTorrent), validateTorrent payload none maxTorrentBytes maxFiles = .ok t →
        HashesSound (infoOf (TorrentCodec.decode payload)) maxFiles t := by
  intro h
  have hsound := h versionCodec asciiPython _ 1000 10 _ validateTorrent_version
  have htree := (@HashesSound.v2 versionCodec _ _ _ hsound (Option.some_ne_none _)).1
  exact absurd htree (by decide +kernel)

/-- The torrent of both versions has a tree, and the hashes of its contents. -/
theorem hashesSound_iff_hybrid :
    @HashesSound hybridCodec
        (infoOf (hybridCodec.decode (encodeCanonical (torrentWith hybridInfo)))) 10 hybridMetadata ↔
      (declaresV2 (infoOf (hybridCodec.decode (encodeCanonical (torrentWith hybridInfo)))) = true →
        ascii "file tree" ∈
          (infoOf (hybridCodec.decode (encodeCanonical (torrentWith hybridInfo)))).keys) :=
  @hashesSound_iff hybridCodec _ none 1000 10 hybridMetadata asciiPython validateTorrent_hybrid

/-- Some files without those that are padding. -/
def withoutPadding (files : List TorrentFile) : List (List String × ℕ) :=
  (files.filter fun file => !file.padding).map fun file => (file.path, file.length)

/-- The list of an accepted torrent may have a file under another one, and be another list than
the tree. -/
theorem hybrid_files_differ :
    (¬ ∀ (_ : TorrentCodec) (_ : Python) (payload : Bytes) (maxTorrentBytes maxFiles : ℕ)
      (t : ValidatedTorrent), validateTorrent payload none maxTorrentBytes maxFiles = .ok t →
        ∀ files, v1Files t.name (infoOf (TorrentCodec.decode payload)) = some files →
          Apart files) ∧
    ¬ ∀ (_ : TorrentCodec) (_ : Python) (payload : Bytes) (maxTorrentBytes maxFiles : ℕ)
      (t : ValidatedTorrent), validateTorrent payload none maxTorrentBytes maxFiles = .ok t →
        ∀ files tree, v1Files t.name (infoOf (TorrentCodec.decode payload)) = some files →
          v2Files (infoOf (TorrentCodec.decode payload)) = some tree →
            (withoutPadding files).Perm (tree.map fun file => (file.path, file.length)) := by
  have hlist : v1Files "n" (infoOf (hybridCodec.decode (encodeCanonical (torrentWith hybridInfo)))) =
      some [⟨["a"], 1, false⟩, ⟨["a", "b"], 1, false⟩] := by decide +kernel
  have htree : v2Files (infoOf (hybridCodec.decode (encodeCanonical (torrentWith hybridInfo)))) =
      some [⟨["c"], 1, false⟩, ⟨["d"], 1, false⟩] := by decide +kernel
  constructor
  · intro h
    have hapart := h hybridCodec asciiPython _ 1000 10 _ validateTorrent_hybrid _ hlist
    have hfirst := (List.pairwise_cons.mp hapart).1 _ List.mem_cons_self
    exact hfirst.1 ⟨["b"], rfl⟩
  · intro h
    have hperm := h hybridCodec asciiPython _ 1000 10 _ validateTorrent_hybrid _ _ hlist htree
    have hmem := hperm.mem_iff.mp (List.mem_cons_self : (["a"], 1) ∈ _)
    exact absurd hmem (by decide)

/-- The dictionaries of the torrent of both versions have no key twice. -/
theorem distinctKeys_hybrid : @DistinctKeys hybridCodec :=
  distinctKeys_soleCodec (by decide +kernel) _ _

theorem canonicalBencode_hybrid : @CanonicalBencode hybridCodec :=
  canonicalBencode_soleCodec _ _ _

/-- The files of the torrent of both versions. -/
theorem validateTorrent_files_hybrid :
    (v1Shape (infoOf (hybridCodec.decode (encodeCanonical (torrentWith hybridInfo)))) →
      ∃ files, v1Files "n" (infoOf (hybridCodec.decode (encodeCanonical (torrentWith hybridInfo)))) =
          some files ∧ (files.map TorrentFile.path).Nodup ∧ totals files = (2, 2)) ∧
    (v2Shape (infoOf (hybridCodec.decode (encodeCanonical (torrentWith hybridInfo)))) →
      ∃ files, v2Files (infoOf (hybridCodec.decode (encodeCanonical (torrentWith hybridInfo)))) =
          some files ∧ Apart files ∧ totals files = (2, 2)) :=
  @validateTorrent_files hybridCodec _ none 1000 10 hybridMetadata asciiPython
    distinctKeys_hybrid validateTorrent_hybrid

/-- What the torrent of both versions guarantees. -/
theorem validateTorrent_guarantees_hybrid :
    @Guarantees hybridCodec (encodeCanonical (torrentWith hybridInfo)) 1000 10
      (infoOf (hybridCodec.decode (encodeCanonical (torrentWith hybridInfo)))) hybridMetadata :=
  @validateTorrent_guarantees hybridCodec _ none 1000 10 hybridMetadata asciiPython
    canonicalBencode_hybrid (by decide) (by decide) validateTorrent_hybrid

end LibSeek.Services
