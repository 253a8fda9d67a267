/-
Validation of a torrent file.

A torrent fetched from a site is decoded, required to be in canonical form, and checked: the shape
of its file list or file tree, the sizes, the number of pieces, the names.  What passes is known
by up to two info hashes.  The bencode format and the hash functions are parameters of the model,
in the class `TorrentCodec`; of the hash functions it is only assumed that they return hexadecimal
digests of their lengths.

Main definitions:

* `Services.BValue` — a bencoded value;
* `Services.ValidatedTorrent` — the metadata of a torrent, with what validation guarantees of it;
* `Services.validateTorrent` — **the validation**.

Main results:

* `Services.validateTorrent_expected` — a torrent validated against a hash is known by that hash;
* `Services.ValidatedTorrent.selectedHash_ne_none` — every validated torrent has an info hash.
-/

import LibSeek.Lib.Transaction
import LibSeek.Schemas.Qbittorrent
import Mathlib.Data.Nat.Bitwise

set_option relaxedAutoImplicit false
set_option autoImplicit false

namespace LibSeek.Services

open LibSeek.Core LibSeek.Lib LibSeek.Schemas

/-- A sequence of bytes. -/
abbrev Bytes := List UInt8

mutual

/-- A bencoded value. -/
inductive BValue where
  | int (value : Int)
  | bytes (value : Bytes)
  | list (items : BList)
  | dict (members : BDict)

/-- The items of a bencoded list. -/
inductive BList where
  | nil
  | cons (item : BValue) (items : BList)

/-- The members of a bencoded dictionary. -/
inductive BDict where
  | nil
  | cons (key : Bytes) (value : BValue) (members : BDict)

end

/-- The items of a list. -/
def BList.toList : BList → List BValue
  | nil => []
  | cons item items => item :: items.toList

/-- `mapping.get(key)`. -/
def BDict.get (key : Bytes) : BDict → Option BValue
  | nil => none
  | cons k value members => if k = key then some value else members.get key

/-- The keys of a dictionary. -/
def BDict.keys : BDict → List Bytes
  | nil => []
  | cons k _ members => k :: members.keys

/-- The bytes of a text of ASCII characters. -/
def ascii (s : String) : Bytes :=
  s.toList.map fun c => UInt8.ofNat c.toNat

/-- The bencode format and the hash functions. -/
class TorrentCodec where
  /-- `bencodepy.decode`; nothing where it raises one of the exceptions that are caught. -/
  decode : Bytes → Option BValue
  /-- `bencodepy.encode`. -/
  encode : BValue → Bytes
  /-- `hashlib.sha1(…).hexdigest()`. -/
  sha1 : Bytes → String
  /-- `hashlib.sha256(…).hexdigest()`. -/
  sha256 : Bytes → String
  sha1_isHex : ∀ b, Digest.isHex 40 (sha1 b) = true
  sha256_isHex : ∀ b, Digest.isHex 64 (sha256 b) = true

/-! ### The metadata of a torrent -/

/-- `ValidatedTorrent`, with what validation guarantees: something to download, and hashes of the
shapes of their columns, of which there is at least one. -/
structure ValidatedTorrent where
  name : String
  totalSizeBytes : ℕ
  fileCount : ℕ
  infoHashV1 : Option String
  infoHashV2 : Option String
  isPrivate : Option Bool
  metaVersion : ℕ
  totalSizeBytes_pos : 0 < totalSizeBytes
  fileCount_pos : 0 < fileCount
  infoHashV1_isHex : ∀ h ∈ infoHashV1, Digest.isHex 40 h = true
  infoHashV2_isHex : ∀ h ∈ infoHashV2, Digest.isHex 64 h = true
  infoHash_isSome : infoHashV1 ≠ none ∨ infoHashV2 ≠ none

instance : DecidableEq ValidatedTorrent := fun t t' =>
  decidable_of_iff (t.name = t'.name ∧ t.totalSizeBytes = t'.totalSizeBytes ∧
      t.fileCount = t'.fileCount ∧ t.infoHashV1 = t'.infoHashV1 ∧ t.infoHashV2 = t'.infoHashV2 ∧
      t.isPrivate = t'.isPrivate ∧ t.metaVersion = t'.metaVersion) (by
    cases t
    cases t'
    simp)

/-- `ValidatedTorrent.identity_hashes`. -/
def ValidatedTorrent.identityHashes (t : ValidatedTorrent) : List String :=
  hashSet t.infoHashV1 t.infoHashV2

/-- `ValidatedTorrent.matches_hash`. -/
def ValidatedTorrent.matchesHash [Python] (t : ValidatedTorrent) (expected : String) : Bool :=
  casefold expected ∈ t.identityHashes

/-- `metadata.info_hash_v1 or metadata.info_hash_v2`. -/
def ValidatedTorrent.selectedHash (t : ValidatedTorrent) : Option String :=
  t.infoHashV1.or t.infoHashV2

/-- **Every validated torrent has an info hash.** -/
theorem ValidatedTorrent.selectedHash_ne_none (t : ValidatedTorrent) : t.selectedHash ≠ none := by
  rcases t.infoHash_isSome with h | h
  · simp [selectedHash, h]
  · simp [selectedHash, h]

theorem ValidatedTorrent.selectedHash_mem {t : ValidatedTorrent} {h : String}
    (hsel : t.selectedHash = some h) : h ∈ t.identityHashes := by
  unfold selectedHash at hsel
  unfold identityHashes hashSet
  cases hv1 : t.infoHashV1 with
  | some v =>
      rw [hv1] at hsel
      obtain rfl := Option.some.inj hsel
      simp
  | none =>
      rw [hv1] at hsel
      simp only [Option.none_or] at hsel
      simp [hsel]

/-- The hashes a torrent can be known by, as the `CHECK` constraint states them. -/
theorem mem_hashSet {v1 v2 : Option String} {h : String} (hmem : h ∈ hashSet v1 v2) :
    (v1 ≠ none ∧ some h = v1) ∨ ∃ v, v2 = some v ∧ (some h = some v ∨ some h = some (takeStr v 40)) := by
  simp only [hashSet, List.mem_append, Option.mem_toList, Option.map_eq_some_iff] at hmem
  rcases hmem with (hv1 | hv2) | ⟨v, hv2, rfl⟩
  · exact Or.inl ⟨by simp [hv1], hv1.symm⟩
  · exact Or.inr ⟨h, hv2, Or.inl rfl⟩
  · exact Or.inr ⟨v, hv2, Or.inr rfl⟩

theorem isHex_takeStr {v : String} (h : Digest.isHex 64 v = true) :
    Digest.isHex 40 (takeStr v 40) = true := by
  simp only [Digest.isHex, Bool.and_eq_true, beq_iff_eq] at h ⊢
  obtain ⟨hlength, hall⟩ := h
  simp only [takeStr, String.toList_ofList]
  refine ⟨by simp [hlength], List.all_eq_true.mpr fun c hc => ?_⟩
  exact List.all_eq_true.mp hall c (List.mem_of_mem_take hc)

/-- Every hash that a torrent can be known by has the shape of one. -/
theorem isInfoHash_of_mem_identityHashes {t : ValidatedTorrent} {h : String}
    (hmem : h ∈ t.identityHashes) : isInfoHash h = true := by
  unfold isInfoHash
  rcases mem_hashSet hmem with ⟨-, hv1⟩ | ⟨v, hv2, hv | hv⟩
  · rw [t.infoHashV1_isHex h hv1.symm]
    rfl
  · rw [Option.some.inj hv, t.infoHashV2_isHex v hv2, Bool.or_true]
  · rw [Option.some.inj hv, isHex_takeStr (t.infoHashV2_isHex v hv2), Bool.true_or]

/-! ### The checks -/

/-- The error for a torrent file that is not valid. -/
def invalidTorrent (message : String) : AppError :=
  { errorCode := "TORRENT_INVALID", message, statusCode := 502 }

/-- A check of the validation. -/
def ensureValid (p : Prop) [Decidable p] (message : String) : Except Exn Unit :=
  ensure p (.app (invalidTorrent message))

/-- A value that must be a dictionary. -/
def expectDict (value : Option BValue) (message : String) : Except Exn BDict :=
  match value with
  | some (.dict members) => .ok members
  | _ => .error (.app (invalidTorrent message))

/-- A value that must be a sequence of bytes. -/
def expectBytes (value : Option BValue) (message : String) : Except Exn Bytes :=
  match value with
  | some (.bytes bytes) => .ok bytes
  | _ => .error (.app (invalidTorrent message))

/-- A value that must be a list. -/
def expectList (value : Option BValue) (message : String) : Except Exn (List BValue) :=
  match value with
  | some (.list items) => .ok items.toList
  | _ => .error (.app (invalidTorrent message))

def MAX_PIECE_LENGTH : Int := 64 * 1024 * 1024
def MAX_TOTAL_SIZE : Int := 16 * 1024 ^ 5

/-- `_positive_integer`. -/
def positiveInteger (value : Option BValue) (default : Option ℕ := none) : Except Exn ℕ :=
  match value, default with
  | none, some d => .ok d
  | some (.int n), _ =>
      if 0 < n then .ok n.toNat else .error (.app (invalidTorrent "种子文件包含无效的正整数字段"))
  | _, _ => .error (.app (invalidTorrent "种子文件包含无效的正整数字段"))

/-- `_private_flag`; a list or a dictionary is not hashable, and the test raises `TypeError`. -/
def privateFlag : Option BValue → Except Exn (Option Bool)
  | none => .ok none
  | some (.int 0) => .ok (some false)
  | some (.int 1) => .ok (some true)
  | some (.list _) => .error (.other "TypeError")
  | some (.dict _) => .error (.other "TypeError")
  | some _ => .error (.app (invalidTorrent "种子文件的 private 字段无效"))

/-- `_decode_component`. -/
def decodeComponent (value : Option BValue) (field : String) : Except Exn String :=
  match value with
  | some (.bytes (b :: bs)) =>
      match String.fromUTF8? ⟨(b :: bs).toArray⟩ with
      | none => .error (.app (invalidTorrent ("种子文件的 " ++ field ++ " 字段不是 UTF-8")))
      | some decoded =>
          if decoded = "." ∨ decoded = ".." ∨ containsChar decoded '/' ∨
              containsChar decoded '\\' ∨ containsChar decoded '\x00' then
            .error (.app (invalidTorrent ("种子文件的 " ++ field ++ " 字段包含不安全路径")))
          else .ok decoded
  | _ => .error (.app (invalidTorrent ("种子文件的 " ++ field ++ " 字段无效")))

/-- Whether the attributes of a file are absent or bytes that do not mark a link. -/
def attributesAllowed : Option BValue → Except Exn Unit
  | none => .ok ()
  | some (.bytes attributes) =>
      ensureValid (UInt8.ofNat 'l'.toNat ∉ attributes) "种子文件包含不允许的符号链接"
  | some _ => .error (.app (invalidTorrent "种子文件的 attr 字段无效"))

/-- `_validate_file_attributes`. -/
def validateFileAttributes (value : BDict) : Except Exn Unit := do
  attributesAllowed (value.get (ascii "attr"))
  ensureValid (ascii "symlink path" ∉ value.keys) "种子文件包含不允许的符号链接"

/-- `_content_length`. -/
def contentLength (value : Option BValue) : Except Exn ℕ := do
  let length ← positiveInteger value
  ensureValid ((length : Int) ≤ MAX_TOTAL_SIZE) "种子声明的内容大小超过安全限制"
  return length

/-- The loop over the files of a version 1 torrent: the size so far and the paths seen. -/
def v1FileLoop : List BValue → ℕ → List (List String) → Except Exn ℕ
  | [], totalSize, _ => .ok totalSize
  | .dict fileItem :: rest, totalSize, seenPaths => do
      validateFileAttributes fileItem
      let length ← contentLength (fileItem.get (ascii "length"))
      ensureValid (((totalSize + length : ℕ) : Int) ≤ MAX_TOTAL_SIZE)
        "种子声明的内容大小超过安全限制"
      let path ← expectList
        ((fileItem.get (ascii "path.utf-8")).or (fileItem.get (ascii "path"))) "v1 种子的文件路径无效"
      ensureValid (path ≠ []) "v1 种子的文件路径无效"
      let decodedPath ← path.mapM fun component => decodeComponent (some component) "path"
      ensureValid (decodedPath ∉ seenPaths) "v1 种子的文件路径重复"
      v1FileLoop rest (totalSize + length) (decodedPath :: seenPaths)
  | _ :: _, _, _ => .error (.app (invalidTorrent "v1 种子的文件条目无效"))

/-- The single file of a version 1 torrent: its size, and the number of files. -/
def v1SingleFile (info : BDict) : Except Exn (ℕ × ℕ) := do
  validateFileAttributes info
  let length ← contentLength (info.get (ascii "length"))
  return (length, 1)

/-- The file list of a version 1 torrent: its size, and the number of files. -/
def v1FileList (info : BDict) (maxFiles : ℕ) : Except Exn (ℕ × ℕ) := do
  let files ← expectList (info.get (ascii "files")) "v1 种子的文件列表无效或过大"
  ensureValid (files ≠ [] ∧ files.length ≤ maxFiles) "v1 种子的文件列表无效或过大"
  let totalSize ← v1FileLoop files 0 []
  return (totalSize, files.length)

/-- `_validate_v1_files`. -/
def validateV1Files (info : BDict) (maxFiles : ℕ) : Except Exn (ℕ × ℕ) := do
  let pieceLength ← positiveInteger (info.get (ascii "piece length"))
  ensureValid ((pieceLength : Int) ≤ MAX_PIECE_LENGTH) "种子分片大小超过安全限制"
  let pieces ← expectBytes (info.get (ascii "pieces")) "v1 种子的 pieces 字段无效"
  ensureValid (pieces ≠ [] ∧ pieces.length % 20 = 0) "v1 种子的 pieces 字段无效"
  ensureValid (¬ (ascii "length" ∈ info.keys ↔ ascii "files" ∈ info.keys))
    "v1 种子必须且只能声明单文件或多文件结构"
  let contents ←
    (if ascii "length" ∈ info.keys then v1SingleFile info else v1FileList info maxFiles : _)
  ensureValid (pieces.length = (contents.1 + pieceLength - 1) / pieceLength * 20)
    "v1 种子的分片数量与内容大小不一致"
  return contents

/-- Whether the attributes of a file mark it as padding. -/
def isPadding : Option BValue → Bool
  | some (.bytes attributes) => attributes.contains (UInt8.ofNat 'p'.toNat)
  | _ => false

/-- Whether a file has a root of its pieces. -/
def hasPiecesRoot : Option BValue → Bool
  | some (.bytes root) => root.length == 32
  | _ => false

/-- The file at the end of a path of a version 2 tree: the size and the number of files so far. -/
def v2File (maxFiles : ℕ) (value : BValue) (sofar : ℕ × ℕ) : Except Exn (ℕ × ℕ) := do
  let file ← expectDict (some value) "v2 种子的文件属性无效"
  validateFileAttributes file
  let length ← contentLength (file.get (ascii "length"))
  ensureValid (isPadding (file.get (ascii "attr")) = true ∨
      hasPiecesRoot (file.get (ascii "pieces root")) = true) "v2 种子的文件缺少有效 pieces root"
  ensureValid (((sofar.1 + length : ℕ) : Int) ≤ MAX_TOTAL_SIZE) "种子声明的内容大小超过安全限制"
  ensureValid (sofar.2 + 1 ≤ maxFiles) "v2 种子的文件数量超过安全限制"
  return (sofar.1 + length, sofar.2 + 1)

mutual

/-- `walk`: a node of a version 2 tree. -/
def v2Walk (maxFiles depth : ℕ) : BValue → ℕ × ℕ → Except Exn (ℕ × ℕ)
  | .dict node, sofar => do
      ensureValid (depth ≤ 100) "v2 种子的文件树层级过深"
      ensureValid ([] ∈ node.keys → node.keys.length = 1) "v2 种子的文件节点不能同时作为目录"
      v2WalkMembers maxFiles depth node sofar
  | .int _, _ => .error (.app (invalidTorrent "v2 种子的文件树节点无效"))
  | .bytes _, _ => .error (.app (invalidTorrent "v2 种子的文件树节点无效"))
  | .list _, _ => .error (.app (invalidTorrent "v2 种子的文件树节点无效"))

/-- The loop of `walk` over the members of a node. -/
def v2WalkMembers (maxFiles depth : ℕ) : BDict → ℕ × ℕ → Except Exn (ℕ × ℕ)
  | .nil, sofar => .ok sofar
  | .cons [] value members, sofar => do
      let sofar ← v2File maxFiles value sofar
      v2WalkMembers maxFiles depth members sofar
  | .cons (b :: bs) value members, sofar => do
      let _ ← decodeComponent (some (.bytes (b :: bs))) "path"
      let sofar ← v2Walk maxFiles (depth + 1) value sofar
      v2WalkMembers maxFiles depth members sofar

end

/-- `_validate_v2_files`. -/
def validateV2Files (info : BDict) (maxFiles : ℕ) : Except Exn (ℕ × ℕ) := do
  let metaVersion ← positiveInteger (info.get (ascii "meta version"))
  ensureValid (metaVersion = 2) "v2 文件树缺少 meta version 2"
  let pieceLength ← positiveInteger (info.get (ascii "piece length"))
  ensureValid ((pieceLength : Int) ≤ MAX_PIECE_LENGTH ∧ pieceLength &&& (pieceLength - 1) = 0)
    "v2 种子的分片大小无效"
  let tree ← expectDict (info.get (ascii "file tree")) "v2 种子的文件树无效"
  ensureValid (tree.keys ≠ []) "v2 种子的文件树无效"
  v2Walk maxFiles 0 (.dict tree) (0, 0)

variable [Python] [TorrentCodec]

/-- The sizes and numbers of files that the two shapes declare must agree. -/
def shapesAgree (v1 v2 : Option (ℕ × ℕ)) : Except Exn Unit :=
  match v1, v2 with
  | some v1, some v2 => do
      ensureValid (v1.1 = v2.1) "混合种子的 v1/v2 文件大小不一致"
      ensureValid (v1.2 = v2.2) "混合种子的 v1/v2 文件数量不一致"
  | _, _ => pure ()

omit [Python] [TorrentCodec] in
/-- A torrent whose file tree is valid is of version 2. -/
theorem metaVersion_of_validateV2Files {info : BDict} {maxFiles metaVersion : ℕ} {r : ℕ × ℕ}
    (hv2 : validateV2Files info maxFiles = .ok r)
    (hmeta : positiveInteger (info.get (ascii "meta version")) (some 1) = .ok metaVersion) :
    metaVersion = 2 := by
  obtain ⟨v, hv, hrest⟩ := bind_eq_ok.mp hv2
  obtain ⟨_, hcheck, -⟩ := bind_eq_ok.mp hrest
  have hv' : v = 2 := by simpa [ensureValid] using hcheck
  cases hget : info.get (ascii "meta version") with
  | none =>
      rw [hget] at hv
      cases hv
  | some value =>
      rw [hget] at hv hmeta
      have hsame : positiveInteger (some value) (some 1) = positiveInteger (some value) := by
        cases value <;> rfl
      rw [hsame, hv] at hmeta
      exact (Except.ok.inj hmeta).symm.trans hv'

/-- The metadata of a torrent whose declared contents have been validated.  A torrent without the
shape of version 1 has a valid file tree, so that it is of version 2
(`metaVersion_of_validateV2Files`) and the last part of the condition holds. -/
def torrentMetadata (name : String) (isPrivate : Option Bool) (metaVersion : ℕ)
    (encodedInfo : Bytes) (v1 v2 : Option (ℕ × ℕ)) : Except Exn ValidatedTorrent :=
  match v1.or v2 with
  | none => .error (.app (invalidTorrent "种子文件的内容大小无效"))
  | some (totalSize, fileCount) =>
      if h : (0 < totalSize ∧ 0 < fileCount) ∧ (v1 ≠ none ∨ metaVersion = 2) then
        if (totalSize : Int) > MAX_TOTAL_SIZE then
          .error (.app (invalidTorrent "种子声明的内容大小超过安全限制"))
        else
          .ok
            { name := name
              totalSizeBytes := totalSize
              fileCount := fileCount
              infoHashV1 := v1.map fun _ => TorrentCodec.sha1 encodedInfo
              infoHashV2 :=
                if metaVersion = 2 then some (TorrentCodec.sha256 encodedInfo) else none
              isPrivate := isPrivate
              metaVersion := metaVersion
              totalSizeBytes_pos := h.1.1
              fileCount_pos := h.1.2
              infoHashV1_isHex := by
                intro d hd
                cases v1 with
                | none => cases hd
                | some v =>
                    obtain rfl := Option.some.inj hd
                    exact TorrentCodec.sha1_isHex encodedInfo
              infoHashV2_isHex := by
                intro d hd
                split at hd
                · obtain rfl := Option.some.inj hd
                  exact TorrentCodec.sha256_isHex encodedInfo
                · cases hd
              infoHash_isSome := by
                rcases h.2 with h | h
                · exact Or.inl (by simpa using h)
                · exact Or.inr (by simp [h]) }
      else .error (.app (invalidTorrent "种子文件的内容大小无效"))

/-- Whether a torrent has the shape of version 1. -/
def v1Shape (info : BDict) : Prop :=
  ascii "length" ∈ info.keys ∨ ascii "files" ∈ info.keys ∨ ascii "pieces" ∈ info.keys

/-- Whether a torrent has the shape of version 2. -/
def v2Shape (info : BDict) : Prop :=
  ascii "file tree" ∈ info.keys

instance (info : BDict) : Decidable (v1Shape info) :=
  inferInstanceAs (Decidable (_ ∨ _ ∨ _))

instance (info : BDict) : Decidable (v2Shape info) :=
  inferInstanceAs (Decidable (_ ∈ _))

/-- The result of a validation that is made only of a torrent with a shape. -/
def whenShape (shape : Prop) [Decidable shape] (validate : Except Exn (ℕ × ℕ)) :
    Except Exn (Option (ℕ × ℕ)) :=
  if shape then validate.map some else .ok none

/-- The error for a torrent that is not the approved one. -/
def torrentInfoHashMismatch : AppError :=
  conflict "TORRENT_INFO_HASH_MISMATCH" "种子文件与已审批候选的 info hash 不一致"

/-- The error for a torrent file that exceeds the limit on its size. -/
def torrentFileTooLarge : AppError :=
  { errorCode := "TORRENT_FILE_TOO_LARGE", message := "种子文件超过安全大小限制", statusCode := 502 }

/-- The checks before the private flag is looked at: the info dictionary, the version and the
name. -/
def readTorrent (payload : Bytes) (maxTorrentBytes : ℕ) : Except Exn (BDict × ℕ × String) := do
  ensureValid (payload ≠ []) "种子文件为空"
  ensure (payload.length ≤ max 1 maxTorrentBytes) (.app torrentFileTooLarge)
  let root ← orRaise (TorrentCodec.decode payload)
    (.app (invalidTorrent "种子文件不是有效的 bencode 数据"))
  ensureValid (TorrentCodec.encode root = payload) "种子文件使用了非规范 bencode 编码"
  let members ← expectDict (some root) "种子文件顶层结构无效"
  let info ← expectDict (members.get (ascii "info")) "种子文件缺少有效的 info 字典"
  let metaVersion ← positiveInteger (info.get (ascii "meta version")) (some 1)
  ensureValid (metaVersion = 1 ∨ metaVersion = 2) "不支持的种子元数据版本"
  let name ← decodeComponent ((info.get (ascii "name.utf-8")).or (info.get (ascii "name"))) "name"
  return (info, metaVersion, name)

/-- The checks after the private flag is looked at. -/
def afterPrivateFlag (info : BDict) (maxFiles : ℕ) (name : String) (metaVersion : ℕ)
    (isPrivate : Option Bool) : Except Exn ValidatedTorrent := do
  ensureValid (v1Shape info ∨ v2Shape info) "种子文件没有可识别的文件结构"
  let v1 ← whenShape (v1Shape info) (validateV1Files info maxFiles)
  let v2 ← whenShape (v2Shape info) (validateV2Files info maxFiles)
  shapesAgree v1 v2
  torrentMetadata name isPrivate metaVersion (TorrentCodec.encode (.dict info)) v1 v2

/-- `validate_torrent` up to its last check: the metadata of a payload. -/
def torrentOf (payload : Bytes) (maxTorrentBytes maxFiles : ℕ) :
    Except Exn ValidatedTorrent := do
  let (info, metaVersion, name) ← readTorrent payload maxTorrentBytes
  let isPrivate ← privateFlag (info.get (ascii "private"))
  afterPrivateFlag info maxFiles name metaVersion isPrivate

/-- **`validate_torrent`.** -/
def validateTorrent (payload : Bytes) (expectedInfoHash : Option String)
    (maxTorrentBytes maxFiles : ℕ) : Except Exn ValidatedTorrent := do
  let result ← torrentOf payload maxTorrentBytes maxFiles
  ensure (∀ e ∈ expectedInfoHash, isInfoHash (lowerHex e) = true ∧ result.matchesHash e = true)
    (.app torrentInfoHashMismatch)
  return result

/-- A torrent is valid against a hash when it is valid and the hash is one it is known by. -/
theorem validateTorrent_eq_ok {payload : Bytes} {expected : Option String}
    {maxTorrentBytes maxFiles : ℕ} {t : ValidatedTorrent} :
    validateTorrent payload expected maxTorrentBytes maxFiles = .ok t ↔
      torrentOf payload maxTorrentBytes maxFiles = .ok t ∧
        ∀ e ∈ expected, isInfoHash (lowerHex e) = true ∧ t.matchesHash e = true := by
  simp only [validateTorrent, bind_eq_ok, ensure_eq_ok, pure_eq_ok]
  constructor
  · rintro ⟨t', ht, -, hexpected, rfl⟩
    exact ⟨ht, hexpected⟩
  · rintro ⟨ht, hexpected⟩
    exact ⟨t, ht, (), hexpected, rfl⟩

/-- **A torrent validated against a hash is known by that hash.** -/
theorem validateTorrent_expected {payload : Bytes} {expected : Option String}
    {maxTorrentBytes maxFiles : ℕ} {t : ValidatedTorrent}
    (h : validateTorrent payload expected maxTorrentBytes maxFiles = .ok t) :
    ∀ e ∈ expected, t.matchesHash e = true :=
  fun e he => ((validateTorrent_eq_ok.mp h).2 e he).2

end LibSeek.Services
