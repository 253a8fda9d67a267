/-
The limits of the torrent validation.

A torrent is validated twice: by the executor under the limits of the settings, before the
execution is reserved, and by the adapter of the downloader under the limits that are the defaults
of the validation.  The limits only gate a validation: the size of the payload must not exceed one
and the number of files that it declares must not exceed the other.  The settings admit limits
above the defaults, so that the second validation can refuse what the first accepted.

Main definitions:

* `Services.declaredFiles` — the number of files that a payload declares;
* `Services.selectedInfoHash` — the hash under which the executor submits a torrent;
* `Services.executorValidation`, `Services.adapterValidation` — the two validations.

Main results:

* `Services.gated_torrentOf` — the limits only gate a validation;
* `Services.adapterValidation_iff` — **when the adapter accepts what the executor accepted**.
-/

import LibSeek.Core.Ascii
import LibSeek.Lib.Limits
import LibSeek.Services.Bencode

set_option relaxedAutoImplicit false
set_option autoImplicit false

namespace LibSeek.Services

open LibSeek.Core LibSeek.Lib LibSeek.Schemas

/-! ### The files that a torrent declares -/

/-- The number of entries of the file list of a torrent. -/
def listedFiles (info : BDict) : ℕ :=
  match info.get (ascii "files") with
  | some (.list items) => items.toList.length
  | _ => 0

mutual

/-- The number of files of a node of a file tree. -/
def treeFiles : BValue → ℕ
  | .dict node => treeFilesIn node
  | .int _ => 0
  | .bytes _ => 0
  | .list _ => 0

/-- The number of files among the members of a node. -/
def treeFilesIn : BDict → ℕ
  | .nil => 0
  | .cons [] _ members => treeFilesIn members + 1
  | .cons (_ :: _) value members => treeFiles value + treeFilesIn members

end

/-- The number of files of the file tree of a torrent. -/
def fileTreeFiles (info : BDict) : ℕ :=
  match info.get (ascii "file tree") with
  | some tree => treeFiles tree
  | none => 0

/-- The info dictionary of a decoded payload. -/
def infoOf : Option BValue → BDict
  | some (.dict members) =>
      match members.get (ascii "info") with
      | some (.dict info) => info
      | _ => .nil
  | _ => .nil

/-- The number of files that a payload declares, in its file list or in its file tree. -/
def declaredFiles [TorrentCodec] (payload : Bytes) : ℕ :=
  let info := infoOf (TorrentCodec.decode payload)
  max (listedFiles info) (fileTreeFiles info)

/-! ### The limits only gate a validation -/

theorem gated_v1FileList (info : BDict) :
    Gated (v1FileList info) fun maxFiles => listedFiles info ≤ maxFiles := by
  unfold v1FileList
  refine Gated.bind_const fun files hfiles => ?_
  have hlisted : listedFiles info = files.length := by
    obtain ⟨items, hget, rfl⟩ : ∃ items, info.get (ascii "files") = some (.list items) ∧
        items.toList = files := by
      unfold expectList at hfiles
      split at hfiles
      · rename_i items hget
        exact ⟨items, hget, Except.ok.inj hfiles⟩
      · cases hfiles
    simp only [listedFiles, hget]
  refine Gated.bind_of_const ?_
  rw [hlisted]
  exact Gated.ensure (files ≠ []) (fun maxFiles => files.length ≤ maxFiles) _

theorem get_eq_none {key : Bytes} {members : BDict} (h : key ∉ members.keys) :
    members.get key = none := by
  induction members using BDict.keys.induct with
  | case1 => rfl
  | case2 k value members ih =>
      rw [BDict.keys, List.mem_cons, not_or] at h
      rw [BDict.get, if_neg (Ne.symm h.1), ih h.2]

/-- A torrent without a file list lists no file. -/
theorem listedFiles_eq_zero {info : BDict} (h : ascii "files" ∉ info.keys) :
    listedFiles info = 0 := by
  unfold listedFiles
  rw [get_eq_none h]

theorem gated_validateV1Files (info : BDict) :
    Gated (validateV1Files info) fun maxFiles => listedFiles info ≤ maxFiles := by
  unfold validateV1Files
  refine Gated.bind_const fun pieceLength _ => Gated.bind_const fun _ _ =>
    Gated.bind_const fun pieces _ => Gated.bind_const fun _ _ =>
    Gated.bind_const fun _ hone => ?_
  refine Gated.bind_of_const ?_
  by_cases hlength : ascii "length" ∈ info.keys
  · -- one file: no list is declared, and no limit is checked
    have hfiles : ascii "files" ∉ info.keys := by
      intro hfiles
      exact ensure_eq_ok.mp hone ⟨fun _ => hfiles, fun _ => hlength⟩
    simp only [if_pos hlength, listedFiles_eq_zero hfiles, Nat.zero_le]
    exact Gated.const _
  · simp only [if_neg hlength]
    exact gated_v1FileList info

/-! ### The file tree -/

/-- A file adds one to the number of files so far, which must not exceed the limit. -/
theorem gated_v2File (value : BValue) (sofar : ℕ × ℕ) :
    Gated (fun maxFiles => v2File maxFiles value sofar) fun maxFiles => sofar.2 + 1 ≤ maxFiles := by
  unfold v2File
  refine Gated.bind_const fun file _ => Gated.bind_const fun _ _ =>
    Gated.bind_const fun length _ => Gated.bind_const fun _ _ => Gated.bind_const fun _ _ => ?_
  refine Gated.bind_of_const ?_
  have hgate := Gated.ensure (ε := Exn) True (fun maxFiles => sofar.2 + 1 ≤ maxFiles)
    (.app (invalidTorrent "v2 种子的文件数量超过安全限制"))
  simpa [ensureValid] using hgate

theorem count_v2File {maxFiles : ℕ} {value : BValue} {sofar r : ℕ × ℕ}
    (h : v2File maxFiles value sofar = .ok r) : r.2 = sofar.2 + 1 := by
  unfold v2File at h
  obtain ⟨_, -, h⟩ := bind_eq_ok.mp h
  obtain ⟨_, -, h⟩ := bind_eq_ok.mp h
  obtain ⟨_, -, h⟩ := bind_eq_ok.mp h
  obtain ⟨_, -, h⟩ := bind_eq_ok.mp h
  obtain ⟨_, -, h⟩ := bind_eq_ok.mp h
  obtain ⟨_, -, h⟩ := bind_eq_ok.mp h
  rw [← pure_eq_ok.mp h]

mutual

/-- A walk adds the files of its node to the number of files so far. -/
theorem count_v2Walk {maxFiles depth : ℕ} : (value : BValue) → {sofar r : ℕ × ℕ} →
    v2Walk maxFiles depth value sofar = .ok r → r.2 = sofar.2 + treeFiles value
  | .dict node, sofar, r, h => by
      rw [v2Walk] at h
      obtain ⟨_, -, h⟩ := bind_eq_ok.mp h
      obtain ⟨_, -, h⟩ := bind_eq_ok.mp h
      rw [treeFiles]
      exact count_v2WalkMembers node h
  | .int _, _, _, h => by cases h
  | .bytes _, _, _, h => by cases h
  | .list _, _, _, h => by cases h

theorem count_v2WalkMembers {maxFiles depth : ℕ} : (members : BDict) → {sofar r : ℕ × ℕ} →
    v2WalkMembers maxFiles depth members sofar = .ok r → r.2 = sofar.2 + treeFilesIn members
  | .nil, sofar, r, h => by
      rw [v2WalkMembers] at h
      rw [← Except.ok.inj h, treeFilesIn, Nat.add_zero]
  | .cons [] value members, sofar, r, h => by
      rw [v2WalkMembers] at h
      obtain ⟨next, hfile, h⟩ := bind_eq_ok.mp h
      have hcount := count_v2WalkMembers members h
      have hnext := count_v2File hfile
      rw [treeFilesIn]
      omega
  | .cons (_ :: _) value members, sofar, r, h => by
      rw [v2WalkMembers] at h
      obtain ⟨_, -, h⟩ := bind_eq_ok.mp h
      obtain ⟨next, hwalk, h⟩ := bind_eq_ok.mp h
      have hcount := count_v2WalkMembers members h
      have hnext := count_v2Walk value hwalk
      rw [treeFilesIn]
      omega

end

/-- Whether the number of files after a part of a tree is within a limit; a part without files is
not checked. -/
def treeWithin (sofar files maxFiles : ℕ) : Prop :=
  files = 0 ∨ sofar + files ≤ maxFiles

mutual

/-- **The limit only gates a walk.** -/
theorem gated_v2Walk : (value : BValue) → (depth : ℕ) → (sofar : ℕ × ℕ) →
    Gated (fun maxFiles => v2Walk maxFiles depth value sofar)
      (treeWithin sofar.2 (treeFiles value))
  | .dict node, depth, sofar => by
      simp only [v2Walk, treeFiles]
      exact Gated.bind_const fun _ _ => Gated.bind_const fun _ _ =>
        gated_v2WalkMembers node depth sofar
  | .int _, _, _ => fun _ _ h => by cases h
  | .bytes _, _, _ => fun _ _ h => by cases h
  | .list _, _, _ => fun _ _ h => by cases h

theorem gated_v2WalkMembers : (members : BDict) → (depth : ℕ) → (sofar : ℕ × ℕ) →
    Gated (fun maxFiles => v2WalkMembers maxFiles depth members sofar)
      (treeWithin sofar.2 (treeFilesIn members))
  | .nil, depth, sofar => by
      simp only [v2WalkMembers, treeFilesIn]
      exact (Gated.const _).congr fun _ _ _ _ => by simp [treeWithin]
  | .cons [] value members, depth, sofar => by
      simp only [v2WalkMembers, treeFilesIn]
      -- the file is counted first, and the rest of the members go on from that count
      refine ((gated_v2File value sofar).bind
        (g := treeWithin (sofar.2 + 1) (treeFilesIn members)) fun next maxFiles hfile => ?_).congr
          fun _ _ _ maxFiles => ?_
      · rw [← count_v2File hfile]
        exact gated_v2WalkMembers members depth next
      · unfold treeWithin
        omega
  | .cons (_ :: _) value members, depth, sofar => by
      simp only [v2WalkMembers, treeFilesIn]
      refine Gated.bind_const fun _ _ => ?_
      refine ((gated_v2Walk value (depth + 1) sofar).bind
        (g := treeWithin (sofar.2 + treeFiles value) (treeFilesIn members))
          fun next maxFiles hwalk => ?_).congr fun _ _ _ maxFiles => ?_
      · rw [← count_v2Walk value hwalk]
        exact gated_v2WalkMembers members depth next
      · unfold treeWithin
        omega

end

theorem gated_validateV2Files (info : BDict) :
    Gated (validateV2Files info) fun maxFiles => fileTreeFiles info ≤ maxFiles := by
  unfold validateV2Files
  refine Gated.bind_const fun _ _ => Gated.bind_const fun _ _ => Gated.bind_const fun _ _ =>
    Gated.bind_const fun _ _ => Gated.bind_const fun tree htree => Gated.bind_const fun _ _ => ?_
  have hfiles : fileTreeFiles info = treeFiles (.dict tree) := by
    unfold fileTreeFiles
    unfold expectDict at htree
    split at htree
    · rename_i members hget
      rw [hget, Except.ok.inj htree]
    · cases htree
  rw [hfiles]
  exact (gated_v2Walk (.dict tree) 0 (0, 0)).congr fun _ _ _ maxFiles => by
    unfold treeWithin
    omega

/-! ### The whole validation -/

/-- A validation made only of a torrent with a shape. -/
theorem gated_whenShape (shape : Prop) [Decidable shape] {validate : ℕ → Except Exn (ℕ × ℕ)}
    {gate : ℕ → Prop} (h : Gated validate gate) :
    Gated (fun maxFiles => whenShape shape (validate maxFiles)) fun maxFiles =>
      shape → gate maxFiles := by
  unfold whenShape
  by_cases hshape : shape
  · simp only [if_pos hshape]
    exact (h.map some).congr fun _ _ _ _ => by simp [hshape]
  · simp only [if_neg hshape]
    exact (Gated.const _).congr fun _ _ _ _ => by simp [hshape]

section Validations

variable [TorrentCodec]

omit [TorrentCodec] in
/-- A torrent without a file tree has no file in it. -/
theorem fileTreeFiles_eq_zero {info : BDict} (h : ascii "file tree" ∉ info.keys) :
    fileTreeFiles info = 0 := by
  unfold fileTreeFiles
  rw [get_eq_none h]

/-- The files that a payload declares are those of its info dictionary. -/
theorem declaredFiles_eq {payload : Bytes} {root : BValue} {members info : BDict}
    {e : Exn} {message message' : String}
    (hroot : orRaise (TorrentCodec.decode payload) e = .ok root)
    (hmembers : expectDict (some root) message = .ok members)
    (hinfo : expectDict (members.get (ascii "info")) message' = .ok info) :
    declaredFiles payload = max (listedFiles info) (fileTreeFiles info) := by
  have hroot' : root = .dict members := by
    unfold expectDict at hmembers
    split at hmembers
    · rename_i heq
      rw [Option.some.inj heq, Except.ok.inj hmembers]
    · cases hmembers
  have hinfo' : members.get (ascii "info") = some (.dict info) := by
    unfold expectDict at hinfo
    split at hinfo
    · rename_i heq
      rw [heq, Except.ok.inj hinfo]
    · cases hinfo
  unfold declaredFiles
  rw [orRaise_eq_ok.mp hroot, hroot']
  simp only [infoOf, hinfo']

/-- What a validation requires of its limits: the size of the payload and the number of the files
it declares. -/
def withinLimits (payload : Bytes) (limits : ℕ × ℕ) : Prop :=
  payload.length ≤ max 1 limits.1 ∧ declaredFiles payload ≤ limits.2

/-- **The limits only gate the validation of a payload.** -/
theorem gated_torrentOf (payload : Bytes) :
    Gated (fun limits : ℕ × ℕ => torrentOf payload limits.1 limits.2)
      (withinLimits payload) := by
  unfold torrentOf readTorrent afterPrivateFlag
  simp only [bind_assoc, pure_bind]
  refine Gated.bind_const fun _ _ => ?_
  have hsize := Gated.ensure (ι := ℕ × ℕ) (ε := Exn) True
    (fun limits => payload.length ≤ max 1 limits.1) (.app torrentFileTooLarge)
  simp only [true_and] at hsize
  refine hsize.bind (g := fun limits => declaredFiles payload ≤ limits.2) fun _ _ _ => ?_
  refine Gated.bind_const fun root hroot => Gated.bind_const fun _ _ =>
    Gated.bind_const fun members hmembers => Gated.bind_const fun info hinfo =>
    Gated.bind_const fun _ _ => Gated.bind_const fun _ _ => Gated.bind_const fun _ _ =>
    Gated.bind_const fun _ _ => Gated.bind_const fun _ _ => ?_
  -- the two shapes are the only checks of the number of files
  have hv1 := (gated_whenShape (v1Shape info) (gated_validateV1Files info)).comap
    (Prod.snd : ℕ × ℕ → ℕ)
  have hv2 := (gated_whenShape (v2Shape info) (gated_validateV2Files info)).comap
    (Prod.snd : ℕ × ℕ → ℕ)
  refine (hv1.bind fun _ _ _ => Gated.bind_of_const hv2).congr fun _ _ _ limits => ?_
  rw [declaredFiles_eq hroot hmembers hinfo, Nat.max_le]
  constructor
  · rintro ⟨hlisted, htree⟩
    refine ⟨?_, ?_⟩
    · by_cases hshape : v1Shape info
      · exact hlisted hshape
      · rw [listedFiles_eq_zero fun hfiles => hshape (Or.inr (Or.inl hfiles))]
        exact Nat.zero_le _
    · by_cases hshape : v2Shape info
      · exact htree hshape
      · rw [fileTreeFiles_eq_zero hshape]
        exact Nat.zero_le _
  · rintro ⟨hlisted, htree⟩
    exact ⟨fun _ => hlisted, fun _ => htree⟩

/-! ### The two validations -/

variable [Python]

/-- The limits that are the defaults of `validate_torrent`. -/
def defaultLimits : ℕ × ℕ :=
  (10 * 1024 * 1024, 20000)

/-- The validation of the executor, before the execution is reserved. -/
def executorValidation (settings : Settings) (payload : Bytes) (expectedInfoHash : Option String) :
    Except Exn ValidatedTorrent :=
  validateTorrent payload expectedInfoHash settings.torrentMaxBytes settings.torrentMaxFiles

/-- The validation of `QbittorrentAdapter.add_torrent`. -/
def adapterValidation (payload : Bytes) (expectedInfoHash : String) :
    Except Exn ValidatedTorrent :=
  validateTorrent payload (some expectedInfoHash) defaultLimits.1 defaultLimits.2

/-- `_selected_info_hash`. -/
def selectedInfoHash (expectedInfoHash : Option String) (metadata : ValidatedTorrent) :
    Except AppError String :=
  match (expectedInfoHash.filter (· ≠ "")).or metadata.selectedHash with
  | some selected => .ok (casefold selected)
  | none =>
      .error (conflict "DOWNLOAD_EXECUTION_INFO_HASH_INVALID" "种子没有可提交的 info hash")

omit [TorrentCodec] in
/-- The hash that is selected is one that the torrent is known by. -/
theorem selectedInfoHash_mem {expected : Option String} {t : ValidatedTorrent}
    (hexpected : ∀ e ∈ expected, t.matchesHash e = true) :
    ∃ h, selectedInfoHash expected t = .ok h ∧ h ∈ t.identityHashes := by
  unfold selectedInfoHash
  cases hf : expected.filter (· ≠ "") with
  | some e =>
      have he : e ∈ expected := (Option.filter_eq_some_iff.mp hf).1
      refine ⟨casefold e, rfl, ?_⟩
      simpa [ValidatedTorrent.matchesHash] using hexpected e he
  | none =>
      cases hsel : t.selectedHash with
      | none => exact absurd hsel t.selectedHash_ne_none
      | some h =>
          have hmem := ValidatedTorrent.selectedHash_mem hsel
          refine ⟨casefold h, rfl, ?_⟩
          rw [casefold_of_isInfoHash (isInfoHash_of_mem_identityHashes hmem)]
          exact hmem

/-- **When the adapter accepts what the executor accepted.**  A torrent that the executor's
validation accepts under the settings is accepted by the adapter's validation against the selected
hash, with the same metadata, exactly when the payload has at most 10 MiB and declares at most
20,000 files. -/
theorem adapterValidation_iff {settings : Settings} {payload : Bytes} {expected : Option String}
    {t : ValidatedTorrent} (h : executorValidation settings payload expected = .ok t) :
    ∃ hash, selectedInfoHash expected t = .ok hash ∧
      (adapterValidation payload hash = .ok t ↔
        payload.length ≤ 10 * 1024 * 1024 ∧ declaredFiles payload ≤ 20000) := by
  obtain ⟨htorrent, hexpected⟩ := validateTorrent_eq_ok.mp h
  obtain ⟨hash, hselected, hmem⟩ := selectedInfoHash_mem fun e he => (hexpected e he).2
  refine ⟨hash, hselected, ?_⟩
  have hshape := isInfoHash_of_mem_identityHashes hmem
  have hmatches : t.matchesHash hash = true := by
    rw [ValidatedTorrent.matchesHash, casefold_of_isInfoHash hshape]
    exact decide_eq_true hmem
  have hlimits : torrentOf payload defaultLimits.1 defaultLimits.2 = .ok t ↔
      withinLimits payload defaultLimits :=
    (gated_torrentOf payload).ok_iff (i := (settings.torrentMaxBytes, settings.torrentMaxFiles))
      (j := defaultLimits) htorrent
  unfold adapterValidation
  rw [validateTorrent_eq_ok, hlimits]
  constructor
  · rintro ⟨hwithin, -⟩
    exact hwithin
  · intro hwithin
    refine ⟨hwithin, fun e he => ?_⟩
    obtain rfl := Option.some.inj he
    exact ⟨by rw [lowerHex_of_isInfoHash hshape]; exact hshape, hmatches⟩

/-- A payload that is too large is refused. -/
theorem adapterValidation_tooLarge {payload : Bytes} (hne : payload ≠ [])
    (hsize : ¬ payload.length ≤ max 1 defaultLimits.1) (hash : String) :
    adapterValidation payload hash = .error (.app torrentFileTooLarge) := by
  unfold adapterValidation validateTorrent torrentOf readTorrent
  simp only [ensureValid, ensure, if_pos hne, if_neg hsize]
  rfl

end Validations

/-! ### A torrent of more than 10 MiB -/

/-- The info dictionary of a torrent of one file, of one byte to a piece. -/
def largeInfo (pieces : Bytes) : BDict :=
  .cons (ascii "length") (.int 524289) <| .cons (ascii "name") (.bytes (ascii "a")) <|
    .cons (ascii "piece length") (.int 1) <| .cons (ascii "pieces") (.bytes pieces) .nil

/-- The torrent with such an info dictionary. -/
def largeTorrent (pieces : Bytes) : BValue :=
  .dict (.cons (ascii "info") (.dict (largeInfo pieces)) .nil)

theorem largeDigest_isHex :
    Digest.isHex 40 "7d22b8ee244016c9231302cd7e5d8285865753f8" = true := by decide

theorem largeDigest'_isHex :
    Digest.isHex 64 "4b186a0c42146e73779ee2523e3e3e0e85a695a94f631ff72c6cd2f202d53e3d" = true := by
  decide

/-- The codec that decodes this torrent; the digests are those of its info dictionary where all
its pieces are zero. -/
@[reducible] def largeCodec (pieces : Bytes) : TorrentCodec :=
  soleCodec (largeTorrent pieces) "7d22b8ee244016c9231302cd7e5d8285865753f8"
    "4b186a0c42146e73779ee2523e3e3e0e85a695a94f631ff72c6cd2f202d53e3d" largeDigest_isHex
    largeDigest'_isHex

/-- Settings that admit torrents of up to 100 MiB. -/
def largeSettings : Settings :=
  { torrentMaxBytes := 100 * 1024 * 1024 }

/-- The metadata of the torrent. -/
def largeMetadata : ValidatedTorrent where
  name := "a"
  totalSizeBytes := 524289
  fileCount := 1
  infoHashV1 := some "7d22b8ee244016c9231302cd7e5d8285865753f8"
  infoHashV2 := none
  isPrivate := none
  metaVersion := 1
  totalSizeBytes_pos := by decide
  fileCount_pos := Nat.one_pos
  infoHashV1_isHex := by decide
  infoHashV2_isHex := noHash_isHex
  infoHash_isSome := by simp

theorem length_largeTorrent {pieces : Bytes} (h : pieces.length = 10485780) :
    (encodeCanonical (largeTorrent pieces)).length = 10485850 := by
  have hdigits : (ascii (toString (10485780 : ℕ))).length = 8 := by decide +kernel
  have hlength : (ascii (toString (524289 : Int))).length = 6 := by decide +kernel
  have hsorted : sortMembers (encodedMembers (largeInfo pieces)) =
      encodedMembers (largeInfo pieces) := by
    refine List.Pairwise.insertionSort_eq
      ((List.pairwise_map (R := (· ≤ ·)) (f := Prod.fst)).mp ?_)
    change List.Pairwise (· ≤ ·) [ascii "length", ascii "name", ascii "piece length", ascii "pieces"]
    decide
  simp only [largeTorrent, encodeCanonical, encodedMembers, sortMembers, List.insertionSort_cons,
    List.insertionSort_nil, List.orderedInsert_nil] at hsorted ⊢
  rw [hsorted]
  simp only [largeInfo, encodedMembers, encodeCanonical, encodeMembers, encodeBytes,
    List.flatMap_cons, List.flatMap_nil, List.length_append, h]
  rw [hdigits, hlength]
  decide +kernel

theorem validateV1Files_large {pieces : Bytes} (h : pieces.length = 10485780) (maxFiles : ℕ) :
    validateV1Files (largeInfo pieces) maxFiles = .ok (524289, 1) := by
  have hkeys : (largeInfo pieces).keys =
      [ascii "length", ascii "name", ascii "piece length", ascii "pieces"] := rfl
  have hlength : ascii "length" ∈ (largeInfo pieces).keys := by
    rw [hkeys]
    decide
  have hfiles : ascii "files" ∉ (largeInfo pieces).keys := by
    rw [hkeys]
    decide
  have hlink : ascii "symlink path" ∉ (largeInfo pieces).keys := by
    rw [hkeys]
    decide
  have hpieces : pieces ≠ [] := by
    rintro rfl
    cases h
  have hsingle : v1SingleFile (largeInfo pieces) = .ok (524289, 1) := by
    refine bind_eq_ok.mpr ⟨(), bind_eq_ok.mpr ⟨(), rfl, ensure_eq_ok.mpr hlink⟩, ?_⟩
    exact bind_eq_ok.mpr ⟨524289,
      bind_eq_ok.mpr ⟨524289, rfl, bind_eq_ok.mpr ⟨(), ensure_eq_ok.mpr (by decide), rfl⟩⟩, rfl⟩
  unfold validateV1Files
  refine bind_eq_ok.mpr ⟨1, rfl, bind_eq_ok.mpr ⟨(), ensure_eq_ok.mpr (by decide), ?_⟩⟩
  refine bind_eq_ok.mpr ⟨pieces, rfl, bind_eq_ok.mpr ⟨(), ensure_eq_ok.mpr ⟨hpieces, ?_⟩, ?_⟩⟩
  · rw [h]
  · refine bind_eq_ok.mpr ⟨(), ensure_eq_ok.mpr fun hboth => hfiles (hboth.mp hlength), ?_⟩
    refine bind_eq_ok.mpr ⟨(524289, 1), ?_, bind_eq_ok.mpr ⟨(), ensure_eq_ok.mpr ?_, rfl⟩⟩
    · rw [if_pos hlength]
      exact hsingle
    · rw [h]
      decide

/-- The executor's validation accepts the torrent, -/
theorem torrentOf_large {pieces : Bytes} (h : pieces.length = 10485780) :
    @torrentOf (largeCodec pieces) (encodeCanonical (largeTorrent pieces)) largeSettings.torrentMaxBytes
      largeSettings.torrentMaxFiles = .ok largeMetadata := by
  have hkeys : (largeInfo pieces).keys =
      [ascii "length", ascii "name", ascii "piece length", ascii "pieces"] := rfl
  have hv1 : v1Shape (largeInfo pieces) := by
    unfold v1Shape
    rw [hkeys]
    decide
  have hv2 : ¬ v2Shape (largeInfo pieces) := by
    unfold v2Shape
    rw [hkeys]
    decide
  have hlength := length_largeTorrent h
  have hne : encodeCanonical (largeTorrent pieces) ≠ [] := by
    intro hnil
    rw [hnil] at hlength
    cases hlength
  refine bind_eq_ok.mpr ⟨(largeInfo pieces, 1, "a"), ?_, bind_eq_ok.mpr ⟨none, rfl, ?_⟩⟩
  · refine bind_eq_ok.mpr ⟨(), ensure_eq_ok.mpr hne, bind_eq_ok.mpr ⟨(), ensure_eq_ok.mpr ?_, ?_⟩⟩
    · rw [hlength]
      decide
    refine bind_eq_ok.mpr ⟨largeTorrent pieces, orRaise_eq_ok.mpr (if_pos rfl), ?_⟩
    refine bind_eq_ok.mpr ⟨(), ensure_eq_ok.mpr rfl, bind_eq_ok.mpr ⟨_, rfl, ?_⟩⟩
    refine bind_eq_ok.mpr ⟨largeInfo pieces, rfl, bind_eq_ok.mpr ⟨1, rfl, ?_⟩⟩
    exact bind_eq_ok.mpr ⟨(), ensure_eq_ok.mpr (by decide), bind_eq_ok.mpr ⟨"a", rfl, rfl⟩⟩
  · refine bind_eq_ok.mpr ⟨(), ensure_eq_ok.mpr (Or.inl hv1), ?_⟩
    refine bind_eq_ok.mpr ⟨some (524289, 1), ?_, bind_eq_ok.mpr ⟨none, ?_, ?_⟩⟩
    · rw [whenShape, if_pos hv1, validateV1Files_large h]
      rfl
    · rw [whenShape, if_neg hv2]
    · exact bind_eq_ok.mpr ⟨(), rfl, rfl⟩

theorem executorValidation_large {pieces : Bytes} (h : pieces.length = 10485780) :
    @executorValidation (largeCodec pieces) asciiPython largeSettings
      (encodeCanonical (largeTorrent pieces)) none = .ok largeMetadata :=
  (@validateTorrent_eq_ok asciiPython (largeCodec pieces) _ _ _ _ _).mpr
    ⟨torrentOf_large h, fun e he => by cases he⟩

/-- and the adapter's refuses it: its payload has more than 10 MiB. -/
theorem adapterValidation_large :
    ∃ payload, @executorValidation (largeCodec (List.replicate 10485780 0)) asciiPython
        largeSettings payload none = .ok largeMetadata ∧
      ∃ hash, @selectedInfoHash asciiPython none largeMetadata = .ok hash ∧
        @adapterValidation (largeCodec (List.replicate 10485780 0)) asciiPython payload hash =
          .error (.app torrentFileTooLarge) := by
  have h : (List.replicate 10485780 (0 : UInt8)).length = 10485780 := List.length_replicate
  have hsize : ¬ (encodeCanonical (largeTorrent (List.replicate 10485780 0))).length ≤
      max 1 defaultLimits.1 := by
    rw [length_largeTorrent h]
    decide
  have hne : encodeCanonical (largeTorrent (List.replicate 10485780 0)) ≠ [] := by
    intro hnil
    rw [hnil] at hsize
    exact hsize (Nat.zero_le _)
  refine ⟨_, executorValidation_large h, "7d22b8ee244016c9231302cd7e5d8285865753f8",
    by decide +kernel, ?_⟩
  exact @adapterValidation_tooLarge (largeCodec _) asciiPython _ hne hsize _

/-- For the torrent of more than 10 MiB the two validations differ by its size. -/
theorem adapterValidation_iff_large :
    ∃ hash, @selectedInfoHash asciiPython none largeMetadata = .ok hash ∧
      (@adapterValidation (largeCodec (List.replicate 10485780 0)) asciiPython
          (encodeCanonical (largeTorrent (List.replicate 10485780 0))) hash = .ok largeMetadata ↔
        (encodeCanonical (largeTorrent (List.replicate 10485780 0))).length ≤ 10 * 1024 * 1024 ∧
          @declaredFiles (largeCodec (List.replicate 10485780 0))
            (encodeCanonical (largeTorrent (List.replicate 10485780 0))) ≤ 20000) :=
  @adapterValidation_iff (largeCodec _) asciiPython _ _ _ _
    (executorValidation_large List.length_replicate)

end LibSeek.Services
