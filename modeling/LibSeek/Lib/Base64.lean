/-
Base64.

Three bytes are written as four characters, six bits each, and an end of one or two bytes is
filled up with padding.  The decoder is the lenient one, which passes over the characters of no
alphabet and stops at a padding that completes a group; what it refuses is a text that ends within
a group.

Main definitions:

* `Lib.Base64.encode`, `Lib.Base64.data` — the encoding with its padding, and without it;
* `Lib.Base64.decodeFrom`, `Lib.Base64.decode` — the decoder's loop, with the place in the group,
  the bits left over and the paddings seen, and the decoder;
* `Lib.Base64.toUrlSafe`, `Lib.Base64.ofUrlSafe`, `Lib.Base64.urlsafeEncode`,
  `Lib.Base64.urlsafeDecode` — the alphabet for addresses;
* `Lib.Base64.missing` — how much padding completes a text.

Main results:

* `Lib.Base64.urlsafeEncode_eq` — what is encoded is the data and the padding it misses;
* `Lib.Base64.urlsafeDecode_urlsafeEncode` — **decoding undoes encoding**;
* `Lib.Base64.mem_urlsafeData` — the characters that encoded bytes are written with;
* `Lib.Base64.length_urlsafeData` — how many characters bytes are written with.
-/

import LibSeek.Lib.Utf8
import Mathlib.Data.List.DropRight

set_option relaxedAutoImplicit false
set_option autoImplicit false

namespace LibSeek.Lib.Base64

/-! ### The alphabet -/

/-- The padding character, `=`. -/
def pad : ℕ := 61

/-- The character of six bits. -/
def char64 (value : ℕ) : ℕ :=
  if value < 26 then 65 + value
  else if value < 52 then 71 + value
  else if value < 62 then value - 4
  else if value = 62 then 43
  else 47

/-- The six bits of a character; none where it is of no alphabet. -/
def value64 (c : ℕ) : Option ℕ :=
  if 65 ≤ c ∧ c < 91 then some (c - 65)
  else if 97 ≤ c ∧ c < 123 then some (c - 71)
  else if 48 ≤ c ∧ c < 58 then some (c + 4)
  else if c = 43 then some 62
  else if c = 47 then some 63
  else none

/-- The alphabet for addresses has `-` for `+` and `_` for `/`. -/
def toUrlSafe (c : ℕ) : ℕ := if c = 43 then 45 else if c = 47 then 95 else c

/-- Back from the alphabet for addresses. -/
def ofUrlSafe (c : ℕ) : ℕ := if c = 45 then 43 else if c = 95 then 47 else c

/-- The six bits of a character are read back. -/
theorem value64_char64 {value : ℕ} (h : value < 64) : value64 (char64 value) = some value := by
  revert value
  decide

/-- The character of six bits is no padding. -/
theorem char64_ne_pad {value : ℕ} (h : value < 64) : char64 value ≠ pad := by
  revert value
  decide

/-- The translations undo each other on the characters of six bits. -/
theorem ofUrlSafe_toUrlSafe {value : ℕ} (h : value < 64) :
    ofUrlSafe (toUrlSafe (char64 value)) = char64 value := by
  revert value
  decide

/-- The characters of the alphabet for addresses. -/
def IsUrlSafe (c : ℕ) : Prop := ∃ value < 64, c = toUrlSafe (char64 value)

/-- A character of the alphabet for addresses is a letter, a digit, `-` or `_`. -/
theorem IsUrlSafe.range {c : ℕ} (h : IsUrlSafe c) :
    c < 0x80 ∧ c ≠ pad ∧ c ≠ 46 := by
  obtain ⟨value, hvalue, rfl⟩ := h
  revert value
  decide

/-! ### Encoding -/

/-- The characters of some bytes, without padding. -/
def data : Octets → CodePoints
  | [] => []
  | [a] => [char64 (a.toNat / 4), char64 (a.toNat % 4 * 16)]
  | [a, b] =>
      [char64 (a.toNat / 4), char64 (a.toNat % 4 * 16 + b.toNat / 16),
        char64 (b.toNat % 16 * 4)]
  | a :: b :: c :: rest =>
      char64 (a.toNat / 4) :: char64 (a.toNat % 4 * 16 + b.toNat / 16) ::
        char64 (b.toNat % 16 * 4 + c.toNat / 64) :: char64 (c.toNat % 64) :: data rest

/-- How many paddings complete a text, `-len(text) % 4`. -/
def missing (length : ℕ) : ℕ := (4 - length % 4) % 4

/-- The characters of some bytes, and the padding that completes the last four. -/
def encode (bytes : Octets) : CodePoints :=
  data bytes ++ List.replicate (missing (data bytes).length) pad

/-- The characters for addresses of some bytes, without padding. -/
def urlsafeData (bytes : Octets) : CodePoints := (data bytes).map toUrlSafe

/-- The characters for addresses of some bytes. -/
def urlsafeEncode (bytes : Octets) : CodePoints := (encode bytes).map toUrlSafe

/-! ### Decoding -/

/-- The loop of the decoder: a padding that completes a group ends it, a character of no alphabet
is passed over, and each other character adds its six bits to those left over. -/
def decodeFrom (quadPos leftchar pads : ℕ) : CodePoints → Option Octets
  | [] => if quadPos = 0 then some [] else none
  | c :: rest =>
      if c = pad then
        if 2 ≤ quadPos ∧ 4 ≤ quadPos + (pads + 1) then some []
        else decodeFrom quadPos leftchar (if 2 ≤ quadPos then pads + 1 else pads) rest
      else
        match value64 c with
        | none => decodeFrom quadPos leftchar pads rest
        | some value =>
            match quadPos with
            | 0 => decodeFrom 1 value 0 rest
            | 1 =>
                (decodeFrom 2 (value % 16) 0 rest).map
                  (UInt8.ofNat (leftchar * 4 + value / 16) :: ·)
            | 2 =>
                (decodeFrom 3 (value % 4) 0 rest).map
                  (UInt8.ofNat (leftchar * 16 + value / 4) :: ·)
            | _ => (decodeFrom 0 0 0 rest).map (UInt8.ofNat (leftchar * 64 + value) :: ·)

/-- The bytes of a text; none where the text ends within a group. -/
def decode (text : CodePoints) : Option Octets := decodeFrom 0 0 0 text

/-- The bytes of a text in the alphabet for addresses; a text that is not ASCII is refused. -/
def urlsafeDecode (text : CodePoints) : Option Octets :=
  if isAsciiText text then decode (text.map ofUrlSafe) else none

/-! ### What is encoded -/

/-- The characters of encoded bytes. -/
theorem mem_data {bytes : Octets} {c : ℕ} (h : c ∈ data bytes) :
    ∃ value < 64, c = char64 value := by
  induction bytes using data.induct with
  | case1 => simp [data] at h
  | case2 a =>
      have ha := a.toNat_lt
      simp only [data, List.mem_cons, List.not_mem_nil, or_false] at h
      rcases h with rfl | rfl
      · exact ⟨_, by omega, rfl⟩
      · exact ⟨_, by omega, rfl⟩
  | case3 a b =>
      have ha := a.toNat_lt
      have hb := b.toNat_lt
      simp only [data, List.mem_cons, List.not_mem_nil, or_false] at h
      rcases h with rfl | rfl | rfl
      · exact ⟨_, by omega, rfl⟩
      · exact ⟨_, by omega, rfl⟩
      · exact ⟨_, by omega, rfl⟩
  | case4 a b d rest ih =>
      have ha := a.toNat_lt
      have hb := b.toNat_lt
      have hd := d.toNat_lt
      simp only [data, List.mem_cons] at h
      rcases h with rfl | rfl | rfl | rfl | h
      · exact ⟨_, by omega, rfl⟩
      · exact ⟨_, by omega, rfl⟩
      · exact ⟨_, by omega, rfl⟩
      · exact ⟨_, by omega, rfl⟩
      · exact ih h

/-- **The characters for addresses of encoded bytes.** -/
theorem mem_urlsafeData {bytes : Octets} {c : ℕ} (h : c ∈ urlsafeData bytes) : IsUrlSafe c := by
  obtain ⟨d, hd, rfl⟩ := List.mem_map.mp h
  obtain ⟨value, hvalue, rfl⟩ := mem_data hd
  exact ⟨value, hvalue, rfl⟩

/-- Encoded bytes are ASCII. -/
theorem isAsciiText_urlsafeData (bytes : Octets) : isAsciiText (urlsafeData bytes) = true :=
  (isAsciiText_iff _).mpr fun _ h => (mem_urlsafeData h).range.1

/-- Three bytes are four characters, rounded up. -/
theorem length_data (bytes : Octets) : (data bytes).length = (bytes.length * 4 + 2) / 3 := by
  induction bytes using data.induct with
  | case1 => rfl
  | case2 a => simp [data]
  | case3 a b => simp [data]
  | case4 a b c rest ih =>
      simp only [data, List.length_cons, ih]
      omega

/-- Three bytes are four characters for addresses, rounded up. -/
theorem length_urlsafeData (bytes : Octets) :
    (urlsafeData bytes).length = (bytes.length * 4 + 2) / 3 := by
  rw [urlsafeData, List.length_map, length_data]

/-- What is encoded is the data and the padding it misses. -/
theorem urlsafeEncode_eq (bytes : Octets) :
    urlsafeEncode bytes =
      urlsafeData bytes ++ List.replicate (missing (urlsafeData bytes).length) pad := by
  simp [urlsafeEncode, encode, urlsafeData, toUrlSafe, pad]

/-- A text is what is left of it with its paddings, stripped of them. -/
theorem rdropWhile_pads {text : CodePoints} (h : ∀ c ∈ text, c ≠ pad) (n : ℕ) :
    (text ++ List.replicate n pad).rdropWhile (· = pad) = text := by
  induction n with
  | zero =>
      rw [List.replicate_zero, List.append_nil]
      refine List.rdropWhile_eq_self_iff.mpr fun hne => ?_
      simpa using h _ (List.getLast_mem hne)
  | succ n ih =>
      rw [List.replicate_succ', ← List.append_assoc, List.rdropWhile_concat_pos _ _ _ (by simp), ih]

/-- Stripping the paddings leaves the data. -/
theorem rdropWhile_urlsafeEncode (bytes : Octets) :
    (urlsafeEncode bytes).rdropWhile (· = pad) = urlsafeData bytes := by
  rw [urlsafeEncode_eq]
  exact rdropWhile_pads (fun _ h => (mem_urlsafeData h).range.2.1) _

/-! ### The round trip -/

/-- Where a group begins, its first character is kept. -/
theorem decodeFrom_zero {value : ℕ} (h : value < 64) (rest : CodePoints) :
    decodeFrom 0 0 0 (char64 value :: rest) = decodeFrom 1 value 0 rest := by
  simp [decodeFrom, char64_ne_pad h, value64_char64 h]

/-- The second character completes a byte. -/
theorem decodeFrom_one {value : ℕ} (h : value < 64) (left : ℕ) (rest : CodePoints) :
    decodeFrom 1 left 0 (char64 value :: rest) =
      (decodeFrom 2 (value % 16) 0 rest).map (UInt8.ofNat (left * 4 + value / 16) :: ·) := by
  simp [decodeFrom, char64_ne_pad h, value64_char64 h]

/-- So does the third. -/
theorem decodeFrom_two {value : ℕ} (h : value < 64) (left : ℕ) (rest : CodePoints) :
    decodeFrom 2 left 0 (char64 value :: rest) =
      (decodeFrom 3 (value % 4) 0 rest).map (UInt8.ofNat (left * 16 + value / 4) :: ·) := by
  simp [decodeFrom, char64_ne_pad h, value64_char64 h]

/-- And the fourth, which ends the group. -/
theorem decodeFrom_three {value : ℕ} (h : value < 64) (left : ℕ) (rest : CodePoints) :
    decodeFrom 3 left 0 (char64 value :: rest) =
      (decodeFrom 0 0 0 rest).map (UInt8.ofNat (left * 64 + value) :: ·) := by
  simp [decodeFrom, char64_ne_pad h, value64_char64 h]

/-- A byte that is put together of its bits. -/
theorem ofNat_eq {n : ℕ} {byte : UInt8} (h : n = byte.toNat) : UInt8.ofNat n = byte := by
  rw [h, UInt8.ofNat_toNat]

/-- Decoding the data and the padding that completes it. -/
theorem decode_encode (bytes : Octets) : decode (encode bytes) = some bytes := by
  rw [decode, encode]
  induction bytes using data.induct with
  | case1 => rfl
  | case2 a =>
      have ha := a.toNat_lt
      simp only [data, List.cons_append, List.nil_append, List.length_cons, List.length_nil]
      rw [decodeFrom_zero (by omega), decodeFrom_one (by omega)]
      rw [@ofNat_eq _ a (by omega)]
      rfl
  | case3 a b =>
      have ha := a.toNat_lt
      have hb := b.toNat_lt
      simp only [data, List.cons_append, List.nil_append, List.length_cons, List.length_nil]
      rw [decodeFrom_zero (by omega), decodeFrom_one (by omega), decodeFrom_two (by omega)]
      rw [@ofNat_eq _ a (by omega), @ofNat_eq _ b (by omega)]
      rfl
  | case4 a b c rest ih =>
      have ha := a.toNat_lt
      have hb := b.toNat_lt
      have hc := c.toNat_lt
      have hmissing : missing ((data rest).length + 1 + 1 + 1 + 1) =
          missing (data rest).length := by
        unfold missing
        omega
      simp only [data, List.cons_append, List.length_cons, hmissing]
      rw [decodeFrom_zero (by omega), decodeFrom_one (by omega), decodeFrom_two (by omega),
        decodeFrom_three (by omega), ih]
      rw [@ofNat_eq _ a (by omega), @ofNat_eq _ b (by omega),
        @ofNat_eq _ c (by omega)]
      rfl

/-- The translations undo each other on what is encoded. -/
theorem translate_encoded {bytes : Octets} {c : ℕ} (h : c ∈ encode bytes) :
    ofUrlSafe (toUrlSafe c) = c := by
  rcases List.mem_append.mp h with h | h
  · obtain ⟨value, hvalue, rfl⟩ := mem_data h
    exact ofUrlSafe_toUrlSafe hvalue
  · rw [List.eq_of_mem_replicate h]
    decide

/-- **Decoding undoes encoding**, in the alphabet for addresses. -/
theorem urlsafeDecode_urlsafeEncode (bytes : Octets) :
    urlsafeDecode (urlsafeEncode bytes) = some bytes := by
  have hback : (urlsafeEncode bytes).map ofUrlSafe = encode bytes := by
    rw [urlsafeEncode, List.map_map]
    conv_rhs => rw [← List.map_id (encode bytes)]
    exact List.map_congr_left fun c hc => translate_encoded hc
  have hascii : isAsciiText (urlsafeEncode bytes) = true := by
    rw [urlsafeEncode_eq, isAsciiText_append, isAsciiText_urlsafeData, Bool.true_and,
      isAsciiText_iff]
    intro c hc
    rw [List.eq_of_mem_replicate hc]
    decide
  rw [urlsafeDecode, if_pos hascii, hback, decode_encode]

end LibSeek.Lib.Base64
