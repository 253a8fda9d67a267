/-
Text and its bytes.

A text is a list of code points, the surrogates among them, as the strings of the languages that
allow a lone surrogate are.  Encoding to UTF-8 refuses a surrogate and what is no code point;
decoding may let the encoded surrogates pass, which is the more lenient of the two usual modes and
the one that is modelled.

Main definitions:

* `Lib.CodePoints`, `Lib.Octets`, `Lib.codePoints` — texts, bytes, and the text of a literal;
* `Lib.isAsciiText` — a text of ASCII characters;
* `Lib.Utf8.encode`, `Lib.Utf8.decode`;
* `Lib.Utf8.size` — how many bytes a text is.

Main results:

* `Lib.Utf8.decode_encode` — **decoding undoes encoding**;
* `Lib.Utf8.length_encode` — the bytes of a text are as many as its size;
* `Lib.Utf8.encode_append`, `Lib.Utf8.encode_ascii` — the encoding of a concatenation and of an
  ASCII text.
-/

import Mathlib

set_option relaxedAutoImplicit false
set_option autoImplicit false

namespace LibSeek.Lib

/-- A text, as the numbers of its characters; a lone surrogate is a character. -/
abbrev CodePoints := List ℕ

/-- A string of bytes. -/
abbrev Octets := List UInt8

/-- The text of a literal. -/
def codePoints (s : String) : CodePoints := s.toList.map Char.toNat

/-- Whether a text has ASCII characters only. -/
def isAsciiText (text : CodePoints) : Bool := text.all (· < 0x80)

@[simp] theorem isAsciiText_nil : isAsciiText [] = true := rfl

@[simp] theorem isAsciiText_cons (c : ℕ) (text : CodePoints) :
    isAsciiText (c :: text) = (decide (c < 0x80) && isAsciiText text) := rfl

@[simp] theorem isAsciiText_append (text rest : CodePoints) :
    isAsciiText (text ++ rest) = (isAsciiText text && isAsciiText rest) := by
  simp [isAsciiText]

/-- A text is ASCII where each of its characters is. -/
theorem isAsciiText_iff (text : CodePoints) : isAsciiText text = true ↔ ∀ c ∈ text, c < 0x80 := by
  simp [isAsciiText]

namespace Utf8

/-! ### Encoding -/

/-- Whether a code point is a surrogate, half of a pair. -/
def isSurrogate (c : ℕ) : Bool := 0xD800 ≤ c && c < 0xE000

/-- The bytes of one character; none for a surrogate. -/
def encodeChar (c : ℕ) : Option Octets :=
  if c < 0x80 then some [.ofNat c]
  else if c < 0x800 then some [.ofNat (0xC0 + c / 64), .ofNat (0x80 + c % 64)]
  else if c < 0x10000 then
    if isSurrogate c then none
    else some [.ofNat (0xE0 + c / 4096), .ofNat (0x80 + c / 64 % 64), .ofNat (0x80 + c % 64)]
  else if c < 0x110000 then
    some
      [.ofNat (0xF0 + c / 262144), .ofNat (0x80 + c / 4096 % 64), .ofNat (0x80 + c / 64 % 64),
        .ofNat (0x80 + c % 64)]
  else none

/-- The bytes of a text; none where one of its characters has none. -/
def encode : CodePoints → Option Octets
  | [] => some []
  | c :: text => do
      let head ← encodeChar c
      let tail ← encode text
      some (head ++ tail)

@[simp] theorem encode_nil : encode [] = some [] := rfl

/-- The encoding of a text with one more character in front. -/
theorem encode_cons (c : ℕ) (text : CodePoints) :
    encode (c :: text) = (encodeChar c).bind fun head => (encode text).map (head ++ ·) := by
  cases hc : encodeChar c <;> cases ht : encode text <;> simp [encode, hc, ht]

/-- The encoding of a concatenation. -/
theorem encode_append (text rest : CodePoints) :
    encode (text ++ rest) = (encode text).bind fun head => (encode rest).map (head ++ ·) := by
  induction text with
  | nil => simp
  | cons c text ih =>
      rw [List.cons_append, encode_cons, encode_cons, ih]
      cases encodeChar c <;> cases encode text <;> cases encode rest <;> simp

/-- A concatenation has an encoding where both of its parts have one. -/
theorem encode_append_isSome (text rest : CodePoints) :
    (encode (text ++ rest)).isSome = ((encode text).isSome && (encode rest).isSome) := by
  rw [encode_append]
  cases encode text <;> cases encode rest <;> simp

/-- An ASCII character is one byte. -/
theorem encodeChar_ascii {c : ℕ} (hc : c < 0x80) : encodeChar c = some [.ofNat c] := by
  simp [encodeChar, hc]

/-- **An ASCII text is as many bytes as it has characters.** -/
theorem encode_ascii {text : CodePoints} (ht : isAsciiText text = true) :
    encode text = some (text.map UInt8.ofNat) := by
  induction text with
  | nil => rfl
  | cons c text ih =>
      simp only [isAsciiText_cons, Bool.and_eq_true, decide_eq_true_eq] at ht
      simp [encode_cons, encodeChar_ascii ht.1, ih ht.2]

/-! ### Sizes -/

/-- How many bytes a character is. -/
def charSize (c : ℕ) : ℕ :=
  if c < 0x80 then 1 else if c < 0x800 then 2 else if c < 0x10000 then 3 else 4

/-- How many bytes a text is. -/
def size (text : CodePoints) : ℕ := (text.map charSize).sum

@[simp] theorem size_nil : size [] = 0 := rfl

@[simp] theorem size_cons (c : ℕ) (text : CodePoints) :
    size (c :: text) = charSize c + size text := rfl

@[simp] theorem size_append (text rest : CodePoints) :
    size (text ++ rest) = size text + size rest := by
  simp [size]

/-- A character is at most four bytes. -/
theorem charSize_le (c : ℕ) : charSize c ≤ 4 := by
  unfold charSize
  split_ifs <;> omega

/-- An ASCII text is as many bytes as it has characters. -/
theorem size_ascii {text : CodePoints} (ht : isAsciiText text = true) :
    size text = text.length := by
  induction text with
  | nil => rfl
  | cons c text ih =>
      simp only [isAsciiText_cons, Bool.and_eq_true, decide_eq_true_eq] at ht
      rw [size_cons, ih ht.2, charSize, if_pos ht.1, List.length_cons, Nat.add_comm]

/-- The bytes of a character are as many as its size. -/
theorem length_encodeChar {c : ℕ} {bytes : Octets} (h : encodeChar c = some bytes) :
    bytes.length = charSize c := by
  unfold encodeChar at h
  unfold charSize
  split_ifs at h ⊢ <;> cases h <;> rfl

/-- **The bytes of a text** are as many as its size. -/
theorem length_encode {text : CodePoints} {bytes : Octets} (h : encode text = some bytes) :
    bytes.length = size text := by
  induction text generalizing bytes with
  | nil =>
      cases h
      rfl
  | cons c text ih =>
      rw [encode_cons] at h
      obtain ⟨head, hhead, h⟩ := Option.bind_eq_some_iff.mp h
      obtain ⟨tail, htail, rfl⟩ := Option.map_eq_some_iff.mp h
      rw [List.length_append, length_encodeChar hhead, ih htail, size_cons]

/-! ### Decoding -/

/-- What a byte that continues a character adds to it. -/
def continuation (byte : UInt8) : Option ℕ :=
  if 0x80 ≤ byte.toNat ∧ byte.toNat < 0xC0 then some (byte.toNat - 0x80) else none

/-- A code point of a form with room for more than it needs is not taken. -/
def within (low high value : ℕ) : Option ℕ :=
  if low ≤ value ∧ value < high then some value else none

/-- The character of a first byte and the two that follow it; an encoded surrogate passes. -/
def threeBytes (a b c : UInt8) : Option ℕ := do
  let b ← continuation b
  let c ← continuation c
  within 0x800 0x10000 ((a.toNat - 0xE0) * 4096 + b * 64 + c)

/-- The character of a first byte and the three that follow it. -/
def fourBytes (a b c d : UInt8) : Option ℕ := do
  let b ← continuation b
  let c ← continuation c
  let d ← continuation d
  within 0x10000 0x110000 ((a.toNat - 0xF0) * 262144 + b * 4096 + c * 64 + d)

/-- The text of a string of bytes; none where they are no encoding of one. -/
def decode : Octets → Option CodePoints
  | [] => some []
  | a :: rest =>
      if a.toNat < 0x80 then (decode rest).map (a.toNat :: ·)
      else if a.toNat < 0xC0 then none
      else if a.toNat < 0xE0 then
        match rest with
        | b :: rest => do
            let b ← continuation b
            let c ← within 0x80 0x800 ((a.toNat - 0xC0) * 64 + b)
            (decode rest).map (c :: ·)
        | [] => none
      else if a.toNat < 0xF0 then
        match rest with
        | b :: c :: rest => do
            let c ← threeBytes a b c
            (decode rest).map (c :: ·)
        | _ => none
      else
        match rest with
        | b :: c :: d :: rest => do
            let c ← fourBytes a b c d
            (decode rest).map (c :: ·)
        | _ => none

/-- The number of a byte that is written as a number. -/
theorem toNat_ofNat_of_lt {n : ℕ} (hn : n < 256) : (UInt8.ofNat n).toNat = n := by
  simpa using Nat.mod_eq_of_lt hn

/-- A continuation of six bits is read back. -/
theorem continuation_ofNat {n : ℕ} (hn : n < 64) :
    continuation (UInt8.ofNat (0x80 + n)) = some n := by
  rw [continuation, toNat_ofNat_of_lt (by omega)]
  simp; omega

/-- A character whose bytes come first is the first that is decoded. -/
theorem decode_encodeChar {c : ℕ} {bytes : Octets} (h : encodeChar c = some bytes) (rest : Octets) :
    decode (bytes ++ rest) = (decode rest).map (c :: ·) := by
  unfold encodeChar at h
  split_ifs at h with h1 h2 h3 hs h4
  · cases h
    have ha := toNat_ofNat_of_lt (show c < 256 by omega)
    rw [List.cons_append, List.nil_append, decode.eq_def]
    simp only [ha, if_pos h1]
  · cases h
    have ha := toNat_ofNat_of_lt (show 0xC0 + c / 64 < 256 by omega)
    have hvalue : c / 64 * 64 + c % 64 = c := by omega
    simp only [decode, List.cons_append, List.nil_append, ha,
      continuation_ofNat (show c % 64 < 64 by omega), within]
    rw [if_neg (by omega), if_neg (by omega), if_pos (by omega)]
    simp [hvalue, show 0x80 ≤ c by omega, h2]
  · cases h
    have ha := toNat_ofNat_of_lt (show 0xE0 + c / 4096 < 256 by omega)
    have hvalue : c / 4096 * 4096 + c / 64 % 64 * 64 + c % 64 = c := by omega
    simp only [decode, List.cons_append, List.nil_append, threeBytes, ha,
      continuation_ofNat (show c % 64 < 64 by omega),
      continuation_ofNat (show c / 64 % 64 < 64 by omega), Option.bind_eq_bind, Option.bind_some,
      within]
    rw [if_neg (by omega), if_neg (by omega), if_neg (by omega), if_pos (by omega)]
    simp [hvalue, show 0x800 ≤ c by omega, h3]
  · cases h
    have ha := toNat_ofNat_of_lt (show 0xF0 + c / 262144 < 256 by omega)
    have hvalue : c / 262144 * 262144 + c / 4096 % 64 * 4096 +
        c / 64 % 64 * 64 + c % 64 = c := by omega
    simp only [decode, List.cons_append, List.nil_append, fourBytes, ha,
      continuation_ofNat (show c % 64 < 64 by omega),
      continuation_ofNat (show c / 64 % 64 < 64 by omega),
      continuation_ofNat (show c / 4096 % 64 < 64 by omega), Option.bind_eq_bind, Option.bind_some,
      within]
    rw [if_neg (by omega), if_neg (by omega), if_neg (by omega), if_neg (by omega)]
    simp [hvalue, show 0x10000 ≤ c by omega, h4]

/-- **Decoding undoes encoding.** -/
theorem decode_encode {text : CodePoints} {bytes : Octets} (h : encode text = some bytes) :
    decode bytes = some text := by
  induction text generalizing bytes with
  | nil => cases h; rfl
  | cons c text ih =>
      rw [encode_cons] at h
      obtain ⟨head, hhead, h⟩ := Option.bind_eq_some_iff.mp h
      obtain ⟨tail, htail, rfl⟩ := Option.map_eq_some_iff.mp h
      rw [decode_encodeChar hhead, ih htail]
      rfl

end Utf8

end LibSeek.Lib
