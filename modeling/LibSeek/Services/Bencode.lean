/-
Canonical bencoding.

A value has one canonical encoding: the members of a dictionary stand in the order of their keys.
The value of a key is then a slice of the encoding of the dictionary, and a hash of the encoding of
that value is a hash of the slice.

Main definitions:

* `Services.encodeCanonical` — the canonical encoding;
* `Services.MemberSlice` — the slice of an encoding that is the value of a key;
* `Services.BValue.KeysDistinct` — no dictionary of a value has a key twice;
* `Services.DistinctKeys`, `Services.CanonicalBencode` — what may be relied on of the library;
* `Services.soleCodec` — the library, on the encoding of one value.

Main results:

* `Services.memberSlice_of_get` — **the value of a key is a slice**.
-/

import LibSeek.Services.TorrentValidation
import Mathlib.Data.List.Sort

set_option relaxedAutoImplicit false
set_option autoImplicit false

namespace LibSeek.Services

open LibSeek.Core LibSeek.Lib LibSeek.Schemas

/-! ### The encoding -/

/-- A sequence of bytes: its length, and the bytes. -/
def encodeBytes (bytes : Bytes) : Bytes :=
  ascii (toString bytes.length) ++ ascii ":" ++ bytes

/-- Members whose values are encoded, one after the other. -/
def encodeMembers (members : List (Bytes × Bytes)) : Bytes :=
  members.flatMap fun one => encodeBytes one.1 ++ one.2

/-- Members in the order of their keys. -/
def sortMembers (members : List (Bytes × Bytes)) : List (Bytes × Bytes) :=
  members.insertionSort fun one other => one.1 ≤ other.1

mutual

/-- **The canonical encoding.** -/
def encodeCanonical : BValue → Bytes
  | .int n => ascii "i" ++ ascii (toString n) ++ ascii "e"
  | .bytes bytes => encodeBytes bytes
  | .list items => ascii "l" ++ encodeItems items ++ ascii "e"
  | .dict members => ascii "d" ++ encodeMembers (sortMembers (encodedMembers members)) ++ ascii "e"

/-- The items of a list, one after the other. -/
def encodeItems : BList → Bytes
  | .nil => []
  | .cons item items => encodeCanonical item ++ encodeItems items

/-- The members of a dictionary, with their values encoded. -/
def encodedMembers : BDict → List (Bytes × Bytes)
  | .nil => []
  | .cons key value members => (key, encodeCanonical value) :: encodedMembers members

end

/-- A slice of the encoding of a dictionary that is the value of a key. -/
def MemberSlice (payload key slice : Bytes) : Prop :=
  ∃ before after : List (Bytes × Bytes), payload =
    ascii "d" ++ (encodeMembers before ++ (encodeBytes key ++ slice) ++ encodeMembers after) ++
      ascii "e"

theorem mem_encodedMembers {members : BDict} {key : Bytes} {value : BValue}
    (h : members.get key = some value) : (key, encodeCanonical value) ∈ encodedMembers members := by
  induction members using BDict.keys.induct with
  | case1 => cases h
  | case2 k v members ih =>
      rw [BDict.get] at h
      rw [encodedMembers]
      split at h
      · rename_i hkey
        rw [hkey, Option.some.inj h]
        exact List.mem_cons_self
      · exact List.mem_cons_of_mem _ (ih h)

/-- **The value of a key is a slice of the encoding of its dictionary.** -/
theorem memberSlice_of_get {members : BDict} {key : Bytes} {value : BValue}
    (h : members.get key = some value) :
    MemberSlice (encodeCanonical (.dict members)) key (encodeCanonical value) := by
  have hmem : (key, encodeCanonical value) ∈ sortMembers (encodedMembers members) :=
    (List.mem_insertionSort _).mpr (mem_encodedMembers h)
  obtain ⟨before, after, hsplit⟩ := List.append_of_mem hmem
  refine ⟨before, after, ?_⟩
  rw [encodeCanonical, hsplit]
  unfold encodeMembers
  rw [List.flatMap_append, List.flatMap_cons, List.append_assoc (List.flatMap _ before)]

/-! ### Keys -/

mutual

/-- The dictionaries of a value have no key twice. -/
def BValue.KeysDistinct : BValue → Prop
  | .int _ => True
  | .bytes _ => True
  | .list items => items.KeysDistinct
  | .dict members => members.keys.Nodup ∧ members.KeysDistinct

def BList.KeysDistinct : BList → Prop
  | .nil => True
  | .cons item items => item.KeysDistinct ∧ items.KeysDistinct

def BDict.KeysDistinct : BDict → Prop
  | .nil => True
  | .cons _ value members => value.KeysDistinct ∧ members.KeysDistinct

end

mutual

instance BValue.KeysDistinct.decidable : (value : BValue) → Decidable value.KeysDistinct
  | .int _ => inferInstanceAs (Decidable True)
  | .bytes _ => inferInstanceAs (Decidable True)
  | .list items => BList.KeysDistinct.decidable items
  | .dict members =>
      have := BDict.KeysDistinct.decidable members
      inferInstanceAs (Decidable (members.keys.Nodup ∧ members.KeysDistinct))

instance BList.KeysDistinct.decidable : (items : BList) → Decidable items.KeysDistinct
  | .nil => inferInstanceAs (Decidable True)
  | .cons item items =>
      have := BValue.KeysDistinct.decidable item
      have := BList.KeysDistinct.decidable items
      inferInstanceAs (Decidable (item.KeysDistinct ∧ items.KeysDistinct))

instance BDict.KeysDistinct.decidable : (members : BDict) → Decidable members.KeysDistinct
  | .nil => inferInstanceAs (Decidable True)
  | .cons _ value members =>
      have := BValue.KeysDistinct.decidable value
      have := BDict.KeysDistinct.decidable members
      inferInstanceAs (Decidable (value.KeysDistinct ∧ members.KeysDistinct))

end

theorem BDict.KeysDistinct.get {members : BDict} (h : members.KeysDistinct) {key : Bytes}
    {value : BValue} (hget : members.get key = some value) : value.KeysDistinct := by
  induction members using BDict.keys.induct with
  | case1 => cases hget
  | case2 k v members ih =>
      rw [BDict.KeysDistinct] at h
      rw [BDict.get] at hget
      split at hget
      · rw [← Option.some.inj hget]
        exact h.1
      · exact ih h.2 hget

/-! ### The library -/

/-- A library that decodes every dictionary to one that has no key twice. -/
class DistinctKeys [TorrentCodec] : Prop where
  decode_distinct : ∀ payload root, TorrentCodec.decode payload = some root → root.KeysDistinct

/-- A library that encodes canonically: the keys of a dictionary are sorted, in whatever order the
dictionary has them. -/
class CanonicalBencode [TorrentCodec] : Prop where
  encode_eq : ∀ value, TorrentCodec.encode value = encodeCanonical value

/-- The library, on the encoding of one value, and two digests. -/
@[reducible] def soleCodec (root : BValue) (digest digest' : String)
    (hdigest : Digest.isHex 40 digest = true) (hdigest' : Digest.isHex 64 digest' = true) :
    TorrentCodec where
  decode payload := if payload = encodeCanonical root then some root else none
  encode := encodeCanonical
  sha1 _ := digest
  sha256 _ := digest'
  sha1_isHex _ := hdigest
  sha256_isHex _ := hdigest'

theorem distinctKeys_soleCodec {root : BValue} (hroot : root.KeysDistinct)
    {digest digest' : String} (hdigest : Digest.isHex 40 digest = true)
    (hdigest' : Digest.isHex 64 digest' = true) :
    @DistinctKeys (soleCodec root digest digest' hdigest hdigest') := by
  refine @DistinctKeys.mk (soleCodec root digest digest' hdigest hdigest') ?_
  intro payload value hdecode
  change (if payload = encodeCanonical root then some root else none) = some value at hdecode
  split at hdecode
  · rw [← Option.some.inj hdecode]
    exact hroot
  · cases hdecode

theorem canonicalBencode_soleCodec (root : BValue) {digest digest' : String}
    (hdigest : Digest.isHex 40 digest = true) (hdigest' : Digest.isHex 64 digest' = true) :
    @CanonicalBencode (soleCodec root digest digest' hdigest hdigest') :=
  @CanonicalBencode.mk (soleCodec root digest digest' hdigest hdigest') fun _ => rfl

end LibSeek.Services
