/-
The paths of a media import.

The validators compare the keys of the paths, which are normalised and case-folded, and look for a
path that is a directory of another among the neighbours of the sorted keys only.  This module
shows that they find every conflict of two paths and nothing else, and that a path which is
accepted leads below the root it is joined to, on either kind of file system.

Main definitions:

* `Schemas.Conflict` — two paths of a list are in each other's way;
* `Schemas.PathFlavour`, `Schemas.joinPath`, `Schemas.locate` — joining a path to a root, and the
  place where a path leads.

Main results:

* `Schemas.uniquePaths_eq_false_iff` — the validator rejects a list exactly where two of its paths
  are in conflict;
* `Schemas.locate_joinPath` — where an accepted path leads from a root;
* `Schemas.importPaths_safe` — **the proposal is rejected for its sources or its targets exactly
  where two of them are in conflict, and what is accepted stays strictly inside its root**.
-/

import LibSeek.Schemas.MediaImports
import LibSeek.Lib.Prefixes
import Mathlib.Data.String.Basic
import Mathlib.Data.List.DropRight

set_option relaxedAutoImplicit false
set_option autoImplicit false

namespace LibSeek.Schemas

open LibSeek.Core LibSeek.Lib

/-! ### Conflicts -/

/-- The check of the neighbours finds a path that is a directory of the next. -/
theorem prefixCollision_iff (lists : List (List String)) :
    prefixCollision lists = true ↔
      ∃ before parent next after, lists = before ++ parent :: next :: after ∧
        ProperPrefix parent next := by
  have hpair (parent child : List String) :
      isProperPrefix parent child = true ↔ ProperPrefix parent child := by
    simp [isProperPrefix, ProperPrefix, and_comm]
  induction lists using prefixCollision.induct with
  | case1 parent child rest ih =>
      rw [prefixCollision, Bool.or_eq_true, hpair]
      constructor
      · rintro (h | h)
        · exact ⟨[], parent, child, rest, rfl, h⟩
        · obtain ⟨before, p, next, after, hsplit, h⟩ := ih.mp h
          exact ⟨parent :: before, p, next, after, by rw [hsplit, List.cons_append], h⟩
      · rintro ⟨before, p, next, after, hsplit, h⟩
        cases before with
        | nil =>
            simp only [List.nil_append, List.cons.injEq] at hsplit
            obtain ⟨rfl, rfl, -⟩ := hsplit
            exact Or.inl h
        | cons first before =>
            rw [List.cons_append, List.cons.injEq] at hsplit
            exact Or.inr (ih.mpr ⟨before, p, next, after, hsplit.2, h⟩)
  | case2 lists hshort =>
      rw [prefixCollision.eq_2 _ hshort]
      refine iff_of_false (by simp) ?_
      rintro ⟨before, parent, next, after, rfl, -⟩
      cases before with
      | nil => exact hshort parent next after rfl
      | cons first before =>
          cases before with
          | nil => exact hshort first parent (next :: after) rfl
          | cons second before => exact hshort first second _ rfl

section Keys

variable [UnicodeData]

/-- Two different places of a list hold paths with one key, or a path whose key is a directory of
the key of the other. -/
def Conflict (paths : List String) : Prop :=
  ∃ i j : Fin paths.length, i ≠ j ∧
    (pathCollisionKey paths[i] = pathCollisionKey paths[j] ∨
      ProperPrefix (segments (pathCollisionKey paths[i])) (segments (pathCollisionKey paths[j])))

/-- The sorted keys have two neighbours in conflict where two of the paths are. -/
theorem prefixCollision_sorted_iff (paths : List String) :
    prefixCollision (((paths.map pathCollisionKey).map segments).insertionSort
        fun a b => ¬ b < a) = true ↔
      ∃ parent ∈ paths, ∃ child ∈ paths,
        ProperPrefix (segments (pathCollisionKey parent)) (segments (pathCollisionKey child)) := by
  rw [prefixCollision_iff, exists_neighbours_iff (inOrder_insertionSort _)]
  simp only [List.mem_insertionSort, List.mem_map, exists_exists_and_eq_and]

/-- What the validator accepts: different keys, and no two neighbours in conflict. -/
theorem uniquePaths_eq_true_iff (paths : List String) :
    uniquePaths paths true = true ↔
      (paths.map pathCollisionKey).Nodup ∧
        ¬ ∃ parent ∈ paths, ∃ child ∈ paths,
          ProperPrefix (segments (pathCollisionKey parent)) (segments (pathCollisionKey child)) := by
  rw [← prefixCollision_sorted_iff, Bool.not_eq_true]
  have hnodup (h : (paths.map pathCollisionKey).Nodup) : paths.Nodup := List.Nodup.of_map _ h
  simp only [uniquePaths, Bool.not_true, Bool.false_or, Bool.and_eq_true, decide_eq_true_eq,
    Bool.not_eq_true']
  exact ⟨fun h => ⟨h.1.2, h.2⟩, fun h => ⟨⟨hnodup h.1, h.1⟩, h.2⟩⟩

/-- **The validator rejects a list exactly where two of its paths are in conflict.** -/
theorem uniquePaths_eq_false_iff (paths : List String) :
    uniquePaths paths true = false ↔ Conflict paths := by
  rw [← Bool.not_eq_true, uniquePaths_eq_true_iff, not_and_or, not_not]
  constructor
  · rintro (hkeys | ⟨parent, hparent, child, hchild, hprefix⟩)
    · rw [List.nodup_iff_injective_getElem, Function.Injective] at hkeys
      push Not at hkeys
      obtain ⟨i, j, heq, hne⟩ := hkeys
      have hlength : (paths.map pathCollisionKey).length = paths.length := List.length_map _
      refine ⟨⟨i, hlength ▸ i.2⟩, ⟨j, hlength ▸ j.2⟩, ?_, Or.inl (by simpa using heq)⟩
      intro h
      exact hne (Fin.ext (Fin.mk.inj h))
    · obtain ⟨i, hi, rfl⟩ := List.getElem_of_mem hparent
      obtain ⟨j, hj, rfl⟩ := List.getElem_of_mem hchild
      refine ⟨⟨i, hi⟩, ⟨j, hj⟩, ?_, Or.inr hprefix⟩
      rintro heq
      cases heq
      exact lt_irrefl _ hprefix.2
  · rintro ⟨i, j, hne, hkey | hprefix⟩
    · left
      rw [List.nodup_iff_injective_getElem]
      intro hinj
      have := @hinj ⟨i, by simp⟩ ⟨j, by simp⟩ (by simpa using hkey)
      exact hne (Fin.ext (Fin.mk.inj this))
    · exact Or.inr ⟨paths[i], List.getElem_mem _, paths[j], List.getElem_mem _, hprefix⟩

end Keys

/-! ### Places -/

/-- The two kinds of file systems. -/
inductive PathFlavour where
  | posix
  | windows
  deriving DecidableEq, Repr

/-- The characters that separate the segments of a path. -/
def isSeparator : PathFlavour → Char → Bool
  | .posix, c => c = '/'
  | .windows, c => c = '/' || c = '\\'

/-- Whether a path does not start from the root that it is joined to. -/
def isAnchored : PathFlavour → String → Bool
  | .posix, value => startswith value "/"
  | .windows, value =>
      startswith value "/" || startswith value "\\" || (value.toList.drop 1).head? = some ':'

/-- `os.path.join`. -/
def joinPath (flavour : PathFlavour) (root value : String) : String :=
  if isAnchored flavour value then value else root ++ "/" ++ value

/-- The name that a segment of a path has in the file system: one kind of them drops the blanks and
dots at its end. -/
def segmentName : PathFlavour → String → String
  | .posix, part => part
  | .windows, part => String.ofList (part.toList.rdropWhile fun c => c = ' ' || c = '.')

/-- One segment further: it may name the place itself, the one above or one below. -/
def walk (flavour : PathFlavour) (place : List String) (part : String) : List String :=
  if part = "" ∨ part = "." then place
  else if part = ".." then place.dropLast
  else place ++ [segmentName flavour part]

/-- The place where a path leads, by its segments alone: that one of the file systems takes the name
of a device for the device is not modelled. -/
def locate (flavour : PathFlavour) (path : String) : List String :=
  ((path.toList.splitOnP (isSeparator flavour)).map String.ofList).foldl (walk flavour) []

/-- A character that does not separate is in one of the parts. -/
theorem mem_part_of_mem {separates : Char → Bool} {c : Char} (hc : separates c = false)
    {cs : List Char} (h : c ∈ cs) : ∃ part ∈ cs.splitOnP separates, c ∈ part := by
  induction cs with
  | nil => simp at h
  | cons d cs ih =>
      rw [List.splitOnP_cons_eq_if_modifyHead]
      rcases hparts : cs.splitOnP separates with _ | ⟨first, others⟩
      · exact absurd hparts (List.splitOnP_ne_nil _ _)
      · rw [hparts] at ih
        rcases List.mem_cons.mp h with rfl | h
        · simp [hc]
        · obtain ⟨part, hpart, hmem⟩ := ih h
          split_ifs
          · exact ⟨part, List.mem_cons_of_mem _ hpart, hmem⟩
          · rw [List.modifyHead_cons]
            rcases List.mem_cons.mp hpart with rfl | hpart
            · exact ⟨d :: part, List.mem_cons_self, List.mem_cons_of_mem _ hmem⟩
            · exact ⟨part, List.mem_cons_of_mem _ hpart, hmem⟩

/-- Two sets of separators that agree on a text split it alike. -/
theorem splitOnP_congr {p q : Char → Bool} {cs : List Char} (h : ∀ c ∈ cs, p c = q c) :
    cs.splitOnP p = cs.splitOnP q := by
  induction cs with
  | nil => rfl
  | cons c cs ih =>
      rw [List.splitOnP_cons_eq_if_modifyHead, List.splitOnP_cons_eq_if_modifyHead,
        h c List.mem_cons_self, ih fun d hd => h d (List.mem_cons_of_mem c hd)]

section Accepted

variable [UnicodeData]

/-- A segment that is accepted leads to a place of its own name. -/
theorem walk_of_validSegment {part : String} (h : validSegment part = true)
    (flavour : PathFlavour) (place : List String) :
    walk flavour place part = place ++ [part] := by
  simp only [validSegment, Bool.and_eq_true, decide_eq_true_eq] at h
  obtain ⟨⟨⟨⟨⟨⟨hempty, hdot⟩, hup⟩, hspace⟩, hlast⟩, -⟩, -⟩ := h
  have hname : segmentName flavour part = part := by
    cases flavour with
    | posix => rfl
    | windows =>
        have hself : (part.toList.rdropWhile fun c => c = ' ' || c = '.') = part.toList := by
          refine List.rdropWhile_eq_self_iff.mpr fun hne hend => ?_
          have hgetLast := List.getLast?_eq_some_getLast hne
          simp only [Bool.or_eq_true, decide_eq_true_eq] at hend
          rcases hend with hend | hend
          · exact hspace (hgetLast.trans (congrArg some hend))
          · exact hlast (hgetLast.trans (congrArg some hend))
        rw [segmentName, hself, String.ofList_toList]
  rw [walk, if_neg (by simp [hempty, hdot]), if_neg hup, hname]

/-- So do segments that are accepted, one below the other. -/
theorem foldl_walk_of_validSegment {parts : List String} (h : parts.all validSegment = true)
    (flavour : PathFlavour) (place : List String) :
    parts.foldl (walk flavour) place = place ++ parts := by
  induction parts generalizing place with
  | nil => simp
  | cons part parts ih =>
      rw [List.all_cons, Bool.and_eq_true] at h
      rw [List.foldl_cons, walk_of_validSegment h.1, ih h.2, List.append_assoc]
      rfl

/-- An accepted path starts from the root that it is joined to. -/
theorem isAnchored_eq_false {value : String}
    (h : validateNormalizedRelativePath value = true) (flavour : PathFlavour) :
    isAnchored flavour value = false := by
  simp only [validateNormalizedRelativePath, Bool.and_eq_true, Bool.not_eq_true'] at h
  obtain ⟨⟨⟨⟨⟨⟨-, hslash⟩, hback⟩, -⟩, -⟩, -⟩, hsegments⟩ := h
  cases flavour with
  | posix => exact hslash
  | windows =>
      have hcolon : ¬ (value.toList.drop 1).head? = some ':' := by
        intro hhead
        have hmem : ':' ∈ value.toList :=
          List.mem_of_mem_drop (List.mem_of_mem_head? hhead)
        obtain ⟨part, hpart, hc⟩ :=
          @mem_part_of_mem (· == '/') ':' (by decide) value.toList hmem
        have hvalid := List.all_eq_true.mp hsegments (String.ofList part)
          (List.mem_map.mpr ⟨part, hpart, rfl⟩)
        simp only [validSegment, Bool.and_eq_true, Bool.not_eq_true'] at hvalid
        have hcontains : containsChar (String.ofList part) ':' = true := by
          simpa [containsChar] using hc
        rw [hcontains] at hvalid
        exact absurd hvalid.1.2 (by simp)
      rw [isAnchored, hslash, hback, decide_eq_false hcolon]
      rfl

/-- The segments of an accepted path are the same on either kind of file system. -/
theorem splitOnP_isSeparator {value : String}
    (h : validateNormalizedRelativePath value = true) (flavour : PathFlavour) :
    (value.toList.splitOnP (isSeparator flavour)).map String.ofList = segments value := by
  simp only [validateNormalizedRelativePath, Bool.and_eq_true, Bool.not_eq_true'] at h
  have hback : '\\' ∉ value.toList := by
    simpa [containsChar] using h.1.1.2
  rw [segments, List.splitOn_eq_splitOnP]
  refine congrArg (List.map String.ofList) (splitOnP_congr fun c hc => ?_)
  have hne : c ≠ '\\' := fun heq => hback (heq ▸ hc)
  cases flavour with
  | posix => rfl
  | windows => simp [isSeparator, hne, Bool.beq_eq_decide_eq]

/-- **Where an accepted path leads from a root**: to its own segments, one below the other. -/
theorem locate_joinPath {value : String} (h : validateNormalizedRelativePath value = true)
    (flavour : PathFlavour) (root : String) :
    locate flavour (joinPath flavour root value) = locate flavour root ++ segments value := by
  have hseparator : isSeparator flavour '/' = true := by cases flavour <;> rfl
  have hvalid : (segments value).all validSegment = true := by
    simp only [validateNormalizedRelativePath, Bool.and_eq_true] at h
    exact h.2
  have htext : (root ++ "/" ++ value).toList = root.toList ++ '/' :: value.toList := by
    simp [String.toList_append]
  rw [joinPath, isAnchored_eq_false h, if_neg (by simp), locate, htext,
    List.splitOnP_append_cons _ _ hseparator, List.map_append, List.foldl_append,
    splitOnP_isSeparator h, foldl_walk_of_validSegment hvalid]
  rfl

/-- **An accepted path stays strictly inside its root.** -/
theorem properPrefix_locate {value : String} (h : validateNormalizedRelativePath value = true)
    (flavour : PathFlavour) (root : String) :
    ProperPrefix (locate flavour root) (locate flavour (joinPath flavour root value)) := by
  have hsome : segments value ≠ [] := by
    rw [segments, Ne, List.map_eq_nil_iff]
    exact List.splitOn_ne_nil _ _
  rw [locate_joinPath h]
  refine ⟨List.prefix_append _ _, ?_⟩
  rw [List.length_append]
  have := List.length_pos_iff.mpr hsome
  omega

/-! ### The proposal -/

/-- What a source manifest must have apart from its paths not being in conflict. -/
def MediaImportSourceManifest.WellFormed (m : MediaImportSourceManifest) : Prop :=
  validateInternalRootRef m.sourceRootRef = true ∧
    (1 ≤ m.files.length ∧ m.files.length ≤ MAX_MEDIA_IMPORT_FILES) ∧
    (∀ f ∈ m.files, validateNormalizedRelativePath f.relativePath = true) ∧
    aggregatePathBytes (m.files.map MediaImportManifestFile.relativePath) = true

/-- What a target mapping must have apart from its targets not being in conflict. -/
def MediaImportTargetMapping.WellFormed (m : MediaImportTargetMapping) : Prop :=
  validateInternalRootRef m.targetRootRef = true ∧
    (1 ≤ m.files.length ∧ m.files.length ≤ MAX_MEDIA_IMPORT_FILES) ∧
    (∀ f ∈ m.files, validateNormalizedRelativePath f.sourceRelativePath = true ∧
      validateNormalizedRelativePath f.targetRelativePath = true) ∧
    aggregatePathBytes (m.files.flatMap fun f => [f.sourceRelativePath, f.targetRelativePath]) =
      true ∧
    uniquePaths (m.files.map MediaImportTargetEntry.sourceRelativePath) false = true

/-- A well-formed source manifest is rejected for its paths only. -/
theorem MediaImportSourceManifest.valid_iff (m : MediaImportSourceManifest) :
    m.valid = true ↔
      m.WellFormed ∧ ¬ Conflict (m.files.map MediaImportManifestFile.relativePath) := by
  rw [← uniquePaths_eq_false_iff, Bool.not_eq_false, WellFormed]
  simp only [MediaImportSourceManifest.valid, validPaths, List.length_map, List.all_map,
    Bool.and_eq_true, decide_eq_true_eq, List.all_eq_true, Function.comp_apply]
  tauto

/-- A well-formed target mapping is rejected for its targets only. -/
theorem MediaImportTargetMapping.valid_iff (m : MediaImportTargetMapping) :
    m.valid = true ↔
      m.WellFormed ∧ ¬ Conflict (m.files.map MediaImportTargetEntry.targetRelativePath) := by
  rw [← uniquePaths_eq_false_iff, Bool.not_eq_false, WellFormed]
  simp only [MediaImportTargetMapping.valid, Bool.and_eq_true, decide_eq_true_eq,
    List.all_eq_true]
  tauto

/-- **The paths of a proposal are safe.**  A list of sources or targets is rejected exactly where
two of its paths have equal keys or the key of one is a directory of the key of the other; a
manifest or a mapping is rejected for that or for being ill formed; and the segments of each path
that is accepted lead from any root strictly inside it. -/
theorem importPaths_safe :
    (∀ paths : List String, uniquePaths paths true = false ↔ Conflict paths) ∧
      (∀ m : MediaImportSourceManifest,
        (m.valid = false ↔
          ¬ m.WellFormed ∨ Conflict (m.files.map MediaImportManifestFile.relativePath)) ∧
        (m.valid = true → ∀ f ∈ m.files, ∀ flavour root,
          ProperPrefix (locate flavour root)
            (locate flavour (joinPath flavour root f.relativePath)))) ∧
      ∀ m : MediaImportTargetMapping,
        (m.valid = false ↔
          ¬ m.WellFormed ∨ Conflict (m.files.map MediaImportTargetEntry.targetRelativePath)) ∧
        (m.valid = true → ∀ f ∈ m.files, ∀ flavour root,
          ProperPrefix (locate flavour root)
              (locate flavour (joinPath flavour root f.sourceRelativePath)) ∧
            ProperPrefix (locate flavour root)
              (locate flavour (joinPath flavour root f.targetRelativePath))) := by
  refine ⟨uniquePaths_eq_false_iff, fun m => ⟨?_, fun h f hf flavour root => ?_⟩,
    fun m => ⟨?_, fun h f hf flavour root => ?_⟩⟩
  · rw [← Bool.not_eq_true, m.valid_iff, not_and_or, not_not]
  · exact properPrefix_locate ((m.valid_iff.mp h).1.2.2.1 f hf) flavour root
  · rw [← Bool.not_eq_true, m.valid_iff, not_and_or, not_not]
  · obtain ⟨hsource, htarget⟩ := (m.valid_iff.mp h).1.2.2.1 f hf
    exact ⟨properPrefix_locate hsource flavour root, properPrefix_locate htarget flavour root⟩

end Accepted

/-- One file of a download. -/
def sampleManifest : MediaImportSourceManifest :=
  { sourceRootRef := "downloads", files := [⟨"Media 2020/media.mkv", 100⟩] }

/-- The place of the file in a library. -/
def sampleMapping : MediaImportTargetMapping :=
  { targetRootRef := "library", files := [⟨"Media 2020/media.mkv", "Films/media.mkv"⟩] }

/-- The one file comes from below the one root and goes below the other. -/
theorem importPaths_safe_sample :
    ProperPrefix (locate .posix "/downloads")
        (locate .posix (joinPath .posix "/downloads" "Media 2020/media.mkv")) ∧
      ProperPrefix (locate .windows "D:\\library")
        (locate .windows (joinPath .windows "D:\\library" "Films/media.mkv")) := by
  let _ := asciiUnicode
  obtain ⟨-, hmanifest, hmapping⟩ := @importPaths_safe asciiUnicode
  constructor
  · exact (hmanifest sampleManifest).2 (by decide +kernel) ⟨"Media 2020/media.mkv", 100⟩
      (by decide) .posix "/downloads"
  · exact ((hmapping sampleMapping).2 (by decide +kernel)
      ⟨"Media 2020/media.mkv", "Films/media.mkv"⟩ (by decide) .windows "D:\\library").2

end LibSeek.Schemas
