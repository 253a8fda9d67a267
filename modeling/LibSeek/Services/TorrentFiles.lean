/-
The files of a torrent.

A torrent says twice what its files are: version 1 as a list of paths, version 2 as a tree of
directories.  This module says what files each of the two describes, whatever else the torrent
says, and what the validation has checked of them once it accepts a torrent.

Main definitions:

* `Services.v1Files`, `Services.v2Files` — the files that the two versions describe;
* `Services.SafeComponent` — a component of a path that leads nowhere else;
* `Services.Apart` — paths none of which is another one or a directory of it.

Main results:

* `Services.validateV1Files_spec` — **what is checked of the list**;
* `Services.validateV2Files_spec` — **what is checked of the tree**;
* `Services.apart_v2Files` — no file of the tree is a directory of another one.
-/

import LibSeek.Services.TorrentLimits
import Mathlib.Algebra.Order.Floor.Div

set_option relaxedAutoImplicit false
set_option autoImplicit false

namespace LibSeek.Services

open LibSeek.Core LibSeek.Lib LibSeek.Schemas

/-! ### What a torrent describes -/

/-- A file of a torrent. -/
structure TorrentFile where
  path : List String
  length : ℕ
  padding : Bool
  deriving DecidableEq

/-- The sum of the lengths of some files. -/
def totalLength (files : List TorrentFile) : ℕ :=
  (files.map TorrentFile.length).sum

/-- The text of a component of a path. -/
def componentText : BValue → Option String
  | .bytes bytes => String.fromUTF8? ⟨bytes.toArray⟩
  | _ => none

/-- The length of a file. -/
def lengthOf (members : BDict) : Option ℕ :=
  match members.get (ascii "length") with
  | some (.int (.ofNat n)) => some n
  | _ => none

/-- The items of a list. -/
def itemsOf : BValue → Option (List BValue)
  | .list items => some items.toList
  | _ => none

/-- A file of the file list. -/
def listedFile : BValue → Option TorrentFile
  | .dict entry => do
      let length ← lengthOf entry
      let path ← (entry.get (ascii "path.utf-8")).or (entry.get (ascii "path"))
      let components ← itemsOf path
      let path ← components.mapM componentText
      return { path, length, padding := isPadding (entry.get (ascii "attr")) }
  | _ => none

/-- The files that version 1 describes: the one that has the name of the torrent, or a list. -/
def v1Files (name : String) (info : BDict) : Option (List TorrentFile) :=
  if ascii "length" ∈ info.keys then
    (lengthOf info).map fun length =>
      [{ path := [name], length, padding := isPadding (info.get (ascii "attr")) }]
  else do
    let files ← info.get (ascii "files")
    let files ← itemsOf files
    files.mapM listedFile

/-- A file of a directory. -/
def TorrentFile.within (directory : String) (file : TorrentFile) : TorrentFile :=
  { file with path := directory :: file.path }

/-- The file at the end of a path of a tree. -/
def leafFile : BValue → Option TorrentFile
  | .dict file => do
      let length ← lengthOf file
      return { path := [], length, padding := isPadding (file.get (ascii "attr")) }
  | _ => none

mutual

/-- The files of a node of a file tree. -/
def treeFileList : BValue → Option (List TorrentFile)
  | .dict node => treeFileListIn node
  | .int _ => none
  | .bytes _ => none
  | .list _ => none

/-- The files of the members of a node. -/
def treeFileListIn : BDict → Option (List TorrentFile)
  | .nil => some []
  | .cons [] value members => do
      let file ← leafFile value
      let rest ← treeFileListIn members
      return file :: rest
  | .cons (b :: bs) value members => do
      let directory ← componentText (.bytes (b :: bs))
      let files ← treeFileList value
      let rest ← treeFileListIn members
      return files.map (TorrentFile.within directory) ++ rest

end

/-- The files that version 2 describes. -/
def v2Files (info : BDict) : Option (List TorrentFile) :=
  (info.get (ascii "file tree")).bind treeFileList

/-! ### Components of paths -/

/-- A component of a path that names a file or a directory in the directory it is in. -/
structure SafeComponent (text : String) : Prop where
  nonempty : text ≠ ""
  here : text ≠ "."
  up : text ≠ ".."
  slash : '/' ∉ text.toList
  backslash : '\\' ∉ text.toList
  nul : '\x00' ∉ text.toList

theorem fromUTF8?_eq_some {bytes : Bytes} {text : String}
    (h : String.fromUTF8? ⟨bytes.toArray⟩ = some text) :
    text.toByteArray = ⟨bytes.toArray⟩ := by
  unfold String.fromUTF8? at h
  split at h
  · rw [← Option.some.inj h]
    rfl
  · cases h

/-- Different bytes are different texts. -/
theorem componentText_inj {bytes bytes' : Bytes} {text : String}
    (h : componentText (.bytes bytes) = some text)
    (h' : componentText (.bytes bytes') = some text) : bytes = bytes' := by
  have heq := (fromUTF8?_eq_some h).symm.trans (fromUTF8?_eq_some h')
  have harray := congrArg ByteArray.data heq
  simpa using congrArg Array.toList harray

/-- What is checked of a component. -/
theorem decodeComponent_eq_ok {value : Option BValue} {field text : String}
    (h : decodeComponent value field = .ok text) :
    ∃ bytes, value = some (.bytes bytes) ∧ componentText (.bytes bytes) = some text ∧
      SafeComponent text := by
  unfold decodeComponent at h
  split at h
  · rename_i b bs
    split at h
    · cases h
    · rename_i decoded hdecoded
      split at h
      · cases h
      · rename_i hsafe
        obtain rfl := Except.ok.inj h
        refine ⟨b :: bs, rfl, hdecoded, ?_⟩
        simp only [not_or, containsChar, List.contains_iff_mem] at hsafe
        obtain ⟨hhere, hup, hslash, hbackslash, hnul⟩ := hsafe
        refine ⟨?_, hhere, hup, hslash, hbackslash, hnul⟩
        -- an empty text has no bytes
        rintro rfl
        have hbytes := congrArg ByteArray.data (fromUTF8?_eq_some hdecoded)
        simpa using congrArg Array.toList hbytes
  · cases h

/-- What is checked of the components of a path. -/
theorem mapM_decodeComponent {components : List BValue} {texts : List String}
    (h : (components.mapM fun component => decodeComponent (some component) "path") =
      (.ok texts : Except Exn _)) :
    components.mapM componentText = some texts ∧ ∀ text ∈ texts, SafeComponent text := by
  induction components generalizing texts with
  | nil =>
      rw [List.mapM_nil] at h ⊢
      obtain rfl := Except.ok.inj h
      exact ⟨rfl, fun text ht => absurd ht List.not_mem_nil⟩
  | cons component components ih =>
      rw [List.mapM_cons] at h ⊢
      obtain ⟨text, htext, h⟩ := bind_eq_ok.mp h
      obtain ⟨rest, hrest, h⟩ := bind_eq_ok.mp h
      obtain rfl := Except.ok.inj h
      obtain ⟨bytes, hvalue, hdecoded, hsafe⟩ := decodeComponent_eq_ok htext
      obtain rfl := Option.some.inj hvalue
      obtain ⟨hmap, hall⟩ := ih hrest
      rw [hdecoded, hmap]
      exact ⟨rfl, List.forall_mem_cons.mpr ⟨hsafe, hall⟩⟩

/-! ### What is checked of values -/

theorem expectDict_eq_ok {value : Option BValue} {message : String} {members : BDict} :
    expectDict value message = .ok members ↔ value = some (.dict members) := by
  unfold expectDict
  split
  · rw [Except.ok.injEq, Option.some.injEq, BValue.dict.injEq]
  · rename_i hnot
    exact ⟨nofun, fun h => absurd h (hnot members)⟩

theorem expectBytes_eq_ok {value : Option BValue} {message : String} {bytes : Bytes} :
    expectBytes value message = .ok bytes ↔ value = some (.bytes bytes) := by
  unfold expectBytes
  split
  · rw [Except.ok.injEq, Option.some.injEq, BValue.bytes.injEq]
  · rename_i hnot
    exact ⟨nofun, fun h => absurd h (hnot bytes)⟩

theorem expectList_eq_ok {value : Option BValue} {message : String} {items : List BValue}
    (h : expectList value message = .ok items) : value.bind itemsOf = some items := by
  unfold expectList at h
  split at h
  · rw [← Except.ok.inj h]
    rfl
  · cases h

/-- What is checked of an integer that there must be. -/
theorem positiveInteger_eq_ok {value : Option BValue} {n : ℕ}
    (h : positiveInteger value = .ok n) : value = some (.int n) ∧ 0 < n := by
  unfold positiveInteger at h
  split at h
  · rename_i d _ hdefault
    cases hdefault
  · rename_i m _
    split at h
    · rename_i hpos
      obtain rfl := Except.ok.inj h
      refine ⟨?_, by omega⟩
      rw [Int.toNat_of_nonneg hpos.le]
    · cases h
  · cases h

/-- What is checked of a length. -/
theorem contentLength_eq_ok {members : BDict} {n : ℕ}
    (h : contentLength (members.get (ascii "length")) = .ok n) :
    lengthOf members = some n ∧ 0 < n := by
  obtain ⟨m, hm, h⟩ := bind_eq_ok.mp h
  obtain ⟨_, -, h⟩ := bind_eq_ok.mp h
  obtain rfl := Except.ok.inj h
  obtain ⟨hvalue, hpos⟩ := positiveInteger_eq_ok hm
  refine ⟨?_, hpos⟩
  unfold lengthOf
  rw [hvalue]

/-! ### The list -/

/-- What is checked of every file. -/
structure SoundFile (file : TorrentFile) : Prop where
  length_pos : 0 < file.length
  safe : ∀ component ∈ file.path, SafeComponent component

/-- The sum of the lengths of the files, and their number. -/
def totals (files : List TorrentFile) : ℕ × ℕ :=
  (totalLength files, files.length)

@[simp] theorem totalLength_cons (file : TorrentFile) (files : List TorrentFile) :
    totalLength (file :: files) = file.length + totalLength files :=
  rfl

@[simp] theorem totalLength_append (files others : List TorrentFile) :
    totalLength (files ++ others) = totalLength files + totalLength others := by
  unfold totalLength
  rw [List.map_append, List.sum_append]

/-- As many results as arguments. -/
theorem length_of_mapM {α β : Type} {f : α → Option β} {args : List α} {results : List β}
    (h : args.mapM f = some results) : results.length = args.length := by
  induction args generalizing results with
  | nil => rw [← Option.some.inj h]; rfl
  | cons arg args ih =>
      rw [List.mapM_cons] at h
      obtain ⟨result, -, h⟩ := Option.bind_eq_some_iff.mp h
      obtain ⟨rest, hrest, h⟩ := Option.bind_eq_some_iff.mp h
      rw [← Option.some.inj h, List.length_cons, List.length_cons, ih hrest]

/-- **What the loop over the list checks**: the paths are new and distinct. -/
theorem v1FileLoop_spec {entries : List BValue} {total r : ℕ} {seen : List (List String)}
    (h : v1FileLoop entries total seen = .ok r) :
    ∃ files, entries.mapM listedFile = some files ∧ r = total + totalLength files ∧
      (∀ file ∈ files, SoundFile file ∧ file.path ≠ [] ∧ file.path ∉ seen) ∧
      (files.map TorrentFile.path).Nodup := by
  induction entries generalizing total seen with
  | nil =>
      rw [v1FileLoop] at h
      obtain rfl := Except.ok.inj h
      exact ⟨[], rfl, rfl, fun file hfile => absurd hfile List.not_mem_nil, List.nodup_nil⟩
  | cons entry entries ih =>
      cases entry with
      | dict entry =>
          rw [v1FileLoop] at h
          obtain ⟨_, -, h⟩ := bind_eq_ok.mp h
          obtain ⟨length, hlength, h⟩ := bind_eq_ok.mp h
          obtain ⟨_, -, h⟩ := bind_eq_ok.mp h
          obtain ⟨components, hcomponents, h⟩ := bind_eq_ok.mp h
          obtain ⟨_, hsome, h⟩ := bind_eq_ok.mp h
          obtain ⟨path, hpath, h⟩ := bind_eq_ok.mp h
          obtain ⟨_, hnew, h⟩ := bind_eq_ok.mp h
          -- the paths seen so far go on to the rest of the loop
          have hnot : path ∉ seen := ensure_eq_ok.mp hnew
          obtain ⟨hlength, hpos⟩ := contentLength_eq_ok hlength
          obtain ⟨hmap, hsafe⟩ := mapM_decodeComponent hpath
          have hlisted : listedFile (.dict entry) =
              some { path, length, padding := isPadding (entry.get (ascii "attr")) } := by
            have hitems := expectList_eq_ok hcomponents
            rw [Option.bind_eq_some_iff] at hitems
            obtain ⟨value, hvalue, hitems⟩ := hitems
            rw [listedFile, hlength, hvalue]
            change (itemsOf value).bind _ = _
            rw [hitems, Option.bind_some]
            change (components.mapM componentText).bind _ = _
            rw [hmap]
            rfl
          obtain ⟨files, hfiles, hr, hsound, hnodup⟩ := ih h
          refine ⟨{ path, length, padding := isPadding (entry.get (ascii "attr")) } :: files, ?_, ?_,
            ?_, ?_⟩
          · rw [List.mapM_cons, hlisted, hfiles]
            rfl
          · rw [hr, totalLength_cons, Nat.add_assoc]
          · rw [List.forall_mem_cons]
            refine ⟨⟨⟨hpos, hsafe⟩, ?_, hnot⟩, fun file hfile => ?_⟩
            · rintro rfl
              have hnone := (length_of_mapM hmap).symm
              exact ensure_eq_ok.mp hsome (List.length_eq_zero_iff.mp hnone)
            · obtain ⟨hfile, hne, hother⟩ := hsound file hfile
              exact ⟨hfile, hne, fun hmem => hother (List.mem_cons_of_mem _ hmem)⟩
          · rw [List.map_cons, List.nodup_cons]
            refine ⟨fun hmem => ?_, hnodup⟩
            obtain ⟨file, hfile, hsame⟩ := List.mem_map.mp hmem
            exact (hsound file hfile).2.2 (hsame ▸ List.mem_cons_self)
      | int n => cases h
      | bytes b => cases h
      | list items => cases h

/-- What is checked of a torrent of version 1: its files, and the number of its pieces. -/
structure SoundV1 (name : String) (info : BDict) (maxFiles : ℕ) (files : List TorrentFile) :
    Prop where
  listed : v1Files name info = some files
  sound : ∀ file ∈ files, SoundFile file ∧ file.path ≠ []
  nodup : (files.map TorrentFile.path).Nodup
  count : files.length ≤ max 1 maxFiles
  single : ¬ (ascii "length" ∈ info.keys ↔ ascii "files" ∈ info.keys)
  pieces : ∃ pieces pieceLength : _, info.get (ascii "pieces") = some (.bytes pieces) ∧
    info.get (ascii "piece length") = some (.int (pieceLength : ℕ)) ∧ 0 < pieceLength ∧
      pieces.length = 20 * (totalLength files ⌈/⌉ pieceLength)

/-- **What is checked of the list.** -/
theorem validateV1Files_spec {name : String} {info : BDict} {maxFiles : ℕ} {r : ℕ × ℕ}
    (hname : SafeComponent name) (h : validateV1Files info maxFiles = .ok r) :
    ∃ files, SoundV1 name info maxFiles files ∧ r = totals files := by
  obtain ⟨pieceLength, hpieceLength, h⟩ := bind_eq_ok.mp h
  obtain ⟨_, -, h⟩ := bind_eq_ok.mp h
  obtain ⟨pieces, hpieces, h⟩ := bind_eq_ok.mp h
  obtain ⟨_, -, h⟩ := bind_eq_ok.mp h
  obtain ⟨_, hsingle, h⟩ := bind_eq_ok.mp h
  obtain ⟨contents, hcontents, h⟩ := bind_eq_ok.mp h
  obtain ⟨_, hnumber, h⟩ := bind_eq_ok.mp h
  obtain rfl := Except.ok.inj h
  obtain ⟨hget, hpos⟩ := positiveInteger_eq_ok hpieceLength
  have hbytes := expectBytes_eq_ok.mp hpieces
  -- the number of pieces, once the files are known
  have hnumbered : ∀ files, contents = totals files →
      pieces.length = 20 * (totalLength files ⌈/⌉ pieceLength) := by
    rintro files rfl
    rw [Nat.ceilDiv_eq_add_pred_div, mul_comm]
    exact ensure_eq_ok.mp hnumber
  split at hcontents
  · rename_i hlength
    obtain ⟨_, -, hcontents⟩ := bind_eq_ok.mp hcontents
    obtain ⟨length, hcontent, hcontents⟩ := bind_eq_ok.mp hcontents
    obtain ⟨hlengthOf, hlengthPos⟩ := contentLength_eq_ok hcontent
    have hr : contents = totals
        [{ path := [name], length, padding := isPadding (info.get (ascii "attr")) }] := by
      rw [← Except.ok.inj hcontents]
      rfl
    refine ⟨_, ⟨?_, ?_, ?_, ?_, ?_, ?_⟩, hr⟩
    · rw [v1Files, if_pos hlength, hlengthOf]
      rfl
    · rw [List.forall_mem_singleton]
      exact ⟨⟨hlengthPos, List.forall_mem_singleton.mpr hname⟩, List.cons_ne_nil _ _⟩
    · exact List.nodup_singleton _
    · exact le_max_left _ _
    · exact ensure_eq_ok.mp hsingle
    · exact ⟨pieces, pieceLength, hbytes, hget, hpos, hnumbered _ hr⟩
  · rename_i hlength
    obtain ⟨entries, hentries, hcontents⟩ := bind_eq_ok.mp hcontents
    obtain ⟨_, hcount, hcontents⟩ := bind_eq_ok.mp hcontents
    obtain ⟨total, htotal, hcontents⟩ := bind_eq_ok.mp hcontents
    obtain ⟨files, hfiles, htotal, hsound, hnodup⟩ := v1FileLoop_spec htotal
    have hlengths := length_of_mapM hfiles
    have hr : contents = totals files := by
      rw [← Except.ok.inj hcontents, htotal, Nat.zero_add, ← hlengths]
      rfl
    refine ⟨files, ⟨?_, ?_, hnodup, ?_, ?_, ?_⟩, hr⟩
    · rw [v1Files, if_neg hlength]
      obtain ⟨value, hvalue, hitems⟩ := Option.bind_eq_some_iff.mp (expectList_eq_ok hentries)
      rw [hvalue]
      change (itemsOf value).bind _ = _
      rw [hitems]
      exact hfiles
    · exact fun file hfile => ⟨(hsound file hfile).1, (hsound file hfile).2.1⟩
    · rw [hlengths]
      exact ((ensure_eq_ok.mp hcount).2).trans (le_max_right _ _)
    · exact ensure_eq_ok.mp hsingle
    · exact ⟨pieces, pieceLength, hbytes, hget, hpos, hnumbered _ hr⟩

/-! ### The tree -/

/-- The totals after some more files. -/
def addFiles (sofar : ℕ × ℕ) (files : List TorrentFile) : ℕ × ℕ :=
  (sofar.1 + totalLength files, sofar.2 + files.length)

/-- A directory leaves the lengths as they are. -/
theorem totalLength_within (directory : String) (files : List TorrentFile) :
    totalLength (files.map (TorrentFile.within directory)) = totalLength files := by
  unfold totalLength
  rw [List.map_map]
  rfl

/-- What is checked of the files of a part of a tree at a depth. -/
structure SoundTree (maxFiles depth : ℕ) (files : List TorrentFile) (r : ℕ × ℕ) : Prop where
  sound : ∀ file ∈ files, SoundFile file ∧ depth + file.path.length ≤ 100
  count : files ≠ [] → r.2 ≤ maxFiles

/-- What is checked of the file at the end of a path. -/
theorem v2File_spec {maxFiles : ℕ} {value : BValue} {sofar r : ℕ × ℕ}
    (h : v2File maxFiles value sofar = .ok r) :
    ∃ file, leafFile value = some file ∧ file.path = [] ∧ 0 < file.length ∧
      r = (sofar.1 + file.length, sofar.2 + 1) ∧ r.2 ≤ maxFiles := by
  obtain ⟨file, hfile, h⟩ := bind_eq_ok.mp h
  obtain ⟨_, -, h⟩ := bind_eq_ok.mp h
  obtain ⟨length, hlength, h⟩ := bind_eq_ok.mp h
  obtain ⟨_, -, h⟩ := bind_eq_ok.mp h
  obtain ⟨_, -, h⟩ := bind_eq_ok.mp h
  obtain ⟨_, hcount, hr⟩ := bind_eq_ok.mp h
  obtain rfl := Option.some.inj (expectDict_eq_ok.mp hfile)
  obtain ⟨hlengthOf, hpos⟩ := contentLength_eq_ok hlength
  obtain rfl := Except.ok.inj hr
  refine ⟨{ path := [], length, padding := isPadding (file.get (ascii "attr")) }, ?_, rfl, hpos, rfl,
    ensure_eq_ok.mp hcount⟩
  rw [leafFile, hlengthOf]
  rfl

mutual

/-- **What a walk checks.** -/
theorem v2Walk_spec {maxFiles depth : ℕ} : (value : BValue) → {sofar r : ℕ × ℕ} →
    v2Walk maxFiles depth value sofar = .ok r →
      depth ≤ 100 ∧ ∃ files, treeFileList value = some files ∧ r = addFiles sofar files ∧
        SoundTree maxFiles depth files r
  | .dict node, sofar, r, h => by
      rw [v2Walk] at h
      obtain ⟨_, hdepth, h⟩ := bind_eq_ok.mp h
      obtain ⟨_, -, h⟩ := bind_eq_ok.mp h
      have hdepth : depth ≤ 100 := ensure_eq_ok.mp hdepth
      rw [treeFileList]
      exact ⟨hdepth, v2WalkMembers_spec hdepth node h⟩
  | .int _, _, _, h => by cases h
  | .bytes _, _, _, h => by cases h
  | .list _, _, _, h => by cases h

theorem v2WalkMembers_spec {maxFiles depth : ℕ} (hdepth : depth ≤ 100) :
    (members : BDict) → {sofar r : ℕ × ℕ} → v2WalkMembers maxFiles depth members sofar = .ok r →
      ∃ files, treeFileListIn members = some files ∧ r = addFiles sofar files ∧
        SoundTree maxFiles depth files r
  | .nil, sofar, r, h => by
      rw [v2WalkMembers] at h
      obtain rfl := Except.ok.inj h
      exact ⟨[], rfl, rfl, fun file hfile => absurd hfile List.not_mem_nil, fun h => absurd rfl h⟩
  | .cons [] value members, sofar, r, h => by
      rw [v2WalkMembers] at h
      obtain ⟨next, hfile, h⟩ := bind_eq_ok.mp h
      -- an empty name marks a file
      obtain ⟨file, hleaf, hpath, hpos, rfl, hcount⟩ := v2File_spec hfile
      obtain ⟨rest, hrest, hr, hsound⟩ := v2WalkMembers_spec hdepth members h
      refine ⟨file :: rest, ?_, ?_, ?_, fun _ => ?_⟩
      · rw [treeFileListIn, hleaf, hrest]
        rfl
      · rw [hr]
        unfold addFiles
        rw [totalLength_cons, List.length_cons, Nat.add_assoc, Nat.add_assoc, Nat.add_comm 1]
      · rw [List.forall_mem_cons]
        refine ⟨⟨⟨hpos, ?_⟩, ?_⟩, hsound.sound⟩
        · rw [hpath]
          exact fun c hc => absurd hc List.not_mem_nil
        · rw [hpath]
          exact hdepth
      · by_cases hnil : rest = []
        · rw [hr, hnil]
          exact hcount
        · exact hsound.count hnil
  | .cons (b :: bs) value members, sofar, r, h => by
      rw [v2WalkMembers] at h
      obtain ⟨directory, hdirectory, h⟩ := bind_eq_ok.mp h
      obtain ⟨next, hwalk, h⟩ := bind_eq_ok.mp h
      -- any other name is that of a directory, which the walk goes into
      obtain ⟨bytes, hbytes, htext, hsafe⟩ := decodeComponent_eq_ok hdirectory
      obtain rfl := BValue.bytes.inj (Option.some.inj hbytes)
      obtain ⟨-, files, hfiles, hnext, hinside⟩ := v2Walk_spec value hwalk
      obtain ⟨rest, hrest, hr, hsound⟩ := v2WalkMembers_spec hdepth members h
      refine ⟨files.map (TorrentFile.within directory) ++ rest, ?_, ?_, ?_, fun hne => ?_⟩
      · rw [treeFileListIn, htext, hfiles, hrest]
        rfl
      · rw [hr, hnext]
        unfold addFiles
        rw [totalLength_append, totalLength_within, List.length_append, List.length_map,
          Nat.add_assoc, Nat.add_assoc]
      · intro file hfile
        rcases List.mem_append.mp hfile with hfile | hfile
        · obtain ⟨inner, hinner, rfl⟩ := List.mem_map.mp hfile
          obtain ⟨hfileSound, hlength⟩ := hinside.sound inner hinner
          refine ⟨⟨hfileSound.length_pos, List.forall_mem_cons.mpr ⟨hsafe, hfileSound.safe⟩⟩, ?_⟩
          change depth + (inner.path.length + 1) ≤ 100
          omega
        · exact hsound.sound file hfile
      · by_cases hnil : rest = []
        · -- the last file of the tree is one of the directory
          have hfull : files ≠ [] := by
            rintro rfl
            exact hne (by rw [hnil]; rfl)
          have hcount := hinside.count hfull
          rw [hr, hnil]
          exact hcount
        · exact hsound.count hnil

end

/-- What is checked of a torrent of version 2. -/
structure SoundV2 (info : BDict) (maxFiles : ℕ) (files : List TorrentFile) : Prop where
  listed : v2Files info = some files
  sound : ∀ file ∈ files, SoundFile file ∧ file.path.length ≤ 100
  count : files ≠ [] → files.length ≤ maxFiles
  version : info.get (ascii "meta version") = some (.int 2)

/-- **What is checked of the tree.** -/
theorem validateV2Files_spec {info : BDict} {maxFiles : ℕ} {r : ℕ × ℕ}
    (h : validateV2Files info maxFiles = .ok r) :
    ∃ files, SoundV2 info maxFiles files ∧ r = totals files := by
  obtain ⟨version, hversion, h⟩ := bind_eq_ok.mp h
  obtain ⟨_, htwo, h⟩ := bind_eq_ok.mp h
  obtain ⟨_, -, h⟩ := bind_eq_ok.mp h
  obtain ⟨_, -, h⟩ := bind_eq_ok.mp h
  obtain ⟨tree, htree, h⟩ := bind_eq_ok.mp h
  obtain ⟨_, -, hwalk⟩ := bind_eq_ok.mp h
  obtain rfl : version = 2 := ensure_eq_ok.mp htwo
  obtain ⟨-, files, hfiles, hr, hsound⟩ := v2Walk_spec (.dict tree) hwalk
  have htotals : r = totals files := by
    rw [hr]
    unfold addFiles totals
    rw [Nat.zero_add, Nat.zero_add]
  refine ⟨files, ⟨?_, fun file hfile => ?_, fun hne => ?_, ?_⟩, htotals⟩
  · rw [v2Files, expectDict_eq_ok.mp htree]
    exact hfiles
  · obtain ⟨hfileSound, hlength⟩ := hsound.sound file hfile
    exact ⟨hfileSound, by omega⟩
  · have hcount := hsound.count hne
    rw [htotals] at hcount
    exact hcount
  · exact (positiveInteger_eq_ok hversion).1

/-! ### Paths -/

/-- Files none of which has the path of another one, or of a directory of it. -/
def Apart (files : List TorrentFile) : Prop :=
  files.Pairwise fun file other => ¬ file.path <+: other.path ∧ ¬ other.path <+: file.path

/-- Files that are apart have different paths. -/
theorem Apart.nodup {files : List TorrentFile} (h : Apart files) :
    (files.map TorrentFile.path).Nodup := by
  rw [List.Nodup, List.pairwise_map]
  refine h.imp ?_
  rintro file other ⟨hfile, -⟩ heq
  exact hfile (by rw [heq])

/-- A directory keeps files apart. -/
theorem Apart.within {files : List TorrentFile} (h : Apart files) (directory : String) :
    Apart (files.map (TorrentFile.within directory)) := by
  rw [Apart, List.pairwise_map]
  refine h.imp ?_
  rintro file other ⟨hfile, hother⟩
  exact ⟨fun hprefix => hfile (List.cons_prefix_cons.mp hprefix).2,
    fun hprefix => hother (List.cons_prefix_cons.mp hprefix).2⟩

/-- The file at the end of a path has nothing left of it. -/
theorem path_of_leafFile {value : BValue} {file : TorrentFile} (h : leafFile value = some file) :
    file.path = [] := by
  unfold leafFile at h
  split at h
  · obtain ⟨length, -, h⟩ := Option.bind_eq_some_iff.mp h
    rw [← Option.some.inj h]
  · cases h

/-- A file of some members is under the text of one of their keys. -/
theorem path_of_treeFileListIn {members : BDict} {files : List TorrentFile}
    (h : treeFileListIn members = some files) {file : TorrentFile} (hfile : file ∈ files) :
    (file.path = [] ∧ [] ∈ members.keys) ∨ ∃ key ∈ members.keys, ∃ directory rest,
      componentText (.bytes key) = some directory ∧ file.path = directory :: rest := by
  induction members using BDict.keys.induct generalizing files with
  | case1 =>
      rw [← Option.some.inj h] at hfile
      exact absurd hfile List.not_mem_nil
  | case2 key value members ih =>
      -- the files of the rest are under the keys of the rest
      have hlater : ∀ {rest : List TorrentFile}, treeFileListIn members = some rest →
          file ∈ rest → (file.path = [] ∧ [] ∈ (BDict.cons key value members).keys) ∨
            ∃ k ∈ (BDict.cons key value members).keys, ∃ directory rest,
              componentText (.bytes k) = some directory ∧ file.path = directory :: rest := by
        intro rest hrest hmem
        rcases ih hrest hmem with ⟨hpath, hkey⟩ | ⟨k, hk, hunder⟩
        · exact Or.inl ⟨hpath, List.mem_cons_of_mem _ hkey⟩
        · exact Or.inr ⟨k, List.mem_cons_of_mem _ hk, hunder⟩
      cases key with
      | nil =>
          rw [treeFileListIn] at h
          obtain ⟨leaf, hleaf, h⟩ := Option.bind_eq_some_iff.mp h
          obtain ⟨rest, hrest, h⟩ := Option.bind_eq_some_iff.mp h
          rw [← Option.some.inj h] at hfile
          rcases List.mem_cons.mp hfile with rfl | hmem
          · exact Or.inl ⟨path_of_leafFile hleaf, List.mem_cons_self⟩
          · exact hlater hrest hmem
      | cons b bs =>
          rw [treeFileListIn] at h
          obtain ⟨directory, hdirectory, h⟩ := Option.bind_eq_some_iff.mp h
          obtain ⟨inside, -, h⟩ := Option.bind_eq_some_iff.mp h
          obtain ⟨rest, hrest, h⟩ := Option.bind_eq_some_iff.mp h
          rw [← Option.some.inj h] at hfile
          rcases List.mem_append.mp hfile with hmem | hmem
          · obtain ⟨inner, -, rfl⟩ := List.mem_map.mp hmem
            exact Or.inr ⟨b :: bs, List.mem_cons_self, directory, inner.path, hdirectory, rfl⟩
          · exact hlater hrest hmem

mutual

/-- **The walk keeps the files of a tree apart.** -/
theorem apart_v2Walk {maxFiles depth : ℕ} : (value : BValue) → {sofar r : ℕ × ℕ} →
    value.KeysDistinct → v2Walk maxFiles depth value sofar = .ok r →
      ∀ files, treeFileList value = some files → Apart files
  | .dict node, sofar, r, hdistinct, h, files, hfiles => by
      rw [v2Walk] at h
      obtain ⟨_, -, h⟩ := bind_eq_ok.mp h
      obtain ⟨_, hleaf, hmembers⟩ := bind_eq_ok.mp h
      rw [BValue.KeysDistinct] at hdistinct
      rw [treeFileList] at hfiles
      exact apart_v2WalkMembers node hdistinct.1 hdistinct.2 (ensure_eq_ok.mp hleaf) hmembers files
        hfiles
  | .int _, _, _, _, h, _, _ => by cases h
  | .bytes _, _, _, _, h, _, _ => by cases h
  | .list _, _, _, _, h, _, _ => by cases h

theorem apart_v2WalkMembers {maxFiles depth : ℕ} : (members : BDict) → {sofar r : ℕ × ℕ} →
    members.keys.Nodup → members.KeysDistinct → ([] ∈ members.keys → members.keys.length = 1) →
      v2WalkMembers maxFiles depth members sofar = .ok r →
        ∀ files, treeFileListIn members = some files → Apart files
  | .nil, _, _, _, _, _, _, files, hfiles => by
      rw [← Option.some.inj hfiles]
      exact List.Pairwise.nil
  | .cons [] value members, _, _, _, _, hleaf, _, files, hfiles => by
      -- the file at the end of a path is the only one of its node
      have hone : members.keys = [] := by
        have hlength := hleaf List.mem_cons_self
        rw [BDict.keys, List.length_cons] at hlength
        exact List.length_eq_zero_iff.mp (by omega)
      rw [treeFileListIn] at hfiles
      obtain ⟨leaf, -, hfiles⟩ := Option.bind_eq_some_iff.mp hfiles
      obtain ⟨rest, hrest, hfiles⟩ := Option.bind_eq_some_iff.mp hfiles
      have hnone : rest = [] := by
        refine List.eq_nil_iff_forall_not_mem.mpr fun file hfile => ?_
        rcases path_of_treeFileListIn hrest hfile with ⟨-, hkey⟩ | ⟨key, hkey, -⟩
        · rw [hone] at hkey
          exact absurd hkey List.not_mem_nil
        · rw [hone] at hkey
          exact absurd hkey List.not_mem_nil
      rw [← Option.some.inj hfiles, hnone]
      exact List.pairwise_singleton _ _
  | .cons (b :: bs) value members, sofar, r, hnodup, hdistinct, hleaf, h, files, hfiles => by
      rw [v2WalkMembers] at h
      obtain ⟨_, -, h⟩ := bind_eq_ok.mp h
      obtain ⟨next, hwalk, hmembers⟩ := bind_eq_ok.mp h
      rw [BDict.KeysDistinct] at hdistinct
      rw [BDict.keys, List.nodup_cons] at hnodup
      have hnoleaf : [] ∉ members.keys := by
        intro hmem
        have hlength := hleaf (List.mem_cons_of_mem _ hmem)
        rw [BDict.keys, List.length_cons] at hlength
        have hempty := List.length_eq_zero_iff.mp (Nat.succ.inj hlength)
        rw [hempty] at hmem
        exact absurd hmem List.not_mem_nil
      rw [treeFileListIn] at hfiles
      obtain ⟨directory, hdirectory, hfiles⟩ := Option.bind_eq_some_iff.mp hfiles
      obtain ⟨inside, hinside, hfiles⟩ := Option.bind_eq_some_iff.mp hfiles
      obtain ⟨rest, hrest, hfiles⟩ := Option.bind_eq_some_iff.mp hfiles
      rw [← Option.some.inj hfiles, Apart, List.pairwise_append]
      refine ⟨(apart_v2Walk value hdistinct.1 hwalk inside hinside).within directory,
        apart_v2WalkMembers members hnodup.2 hdistinct.2 (fun hmem => absurd hmem hnoleaf) hmembers
          rest hrest, ?_⟩
      intro file hfile other hother
      obtain ⟨inner, -, rfl⟩ := List.mem_map.mp hfile
      rcases path_of_treeFileListIn hrest hother with ⟨-, hkey⟩ | ⟨key, hkey, directory', tail,
        hdirectory', hpath⟩
      · exact absurd hkey hnoleaf
      · -- two directories of one node have different names
        have hne : directory ≠ directory' := by
          rintro rfl
          exact hnodup.1 (componentText_inj hdirectory hdirectory' ▸ hkey)
        rw [hpath]
        exact ⟨fun hprefix => hne (List.cons_prefix_cons.mp hprefix).1,
          fun hprefix => hne (List.cons_prefix_cons.mp hprefix).1.symm⟩

end

/-- **No file of the tree has the path of another one, or of a directory of it.** -/
theorem apart_v2Files {info : BDict} {maxFiles : ℕ} {r : ℕ × ℕ} (hdistinct : info.KeysDistinct)
    (h : validateV2Files info maxFiles = .ok r) {files : List TorrentFile}
    (hfiles : v2Files info = some files) : Apart files := by
  obtain ⟨_, -, h⟩ := bind_eq_ok.mp h
  obtain ⟨_, -, h⟩ := bind_eq_ok.mp h
  obtain ⟨_, -, h⟩ := bind_eq_ok.mp h
  obtain ⟨_, -, h⟩ := bind_eq_ok.mp h
  obtain ⟨tree, htree, h⟩ := bind_eq_ok.mp h
  obtain ⟨_, -, hwalk⟩ := bind_eq_ok.mp h
  have hget := expectDict_eq_ok.mp htree
  rw [v2Files, hget, Option.bind_some] at hfiles
  exact apart_v2Walk (.dict tree) (hdistinct.get hget) hwalk files hfiles

end LibSeek.Services
