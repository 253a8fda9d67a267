/-
The text of JSON.

The decoder is a scanner: a value, and what follows it.  The scalars are read by recursion on the
text, and the arrays and objects by one loop over their elements, which is given the scanner of a
value one level further in.  A value that is nested deeper than the depth that is left is an error
of its own kind, which a caller that expects the errors of the format does not handle.  The encoder
is the one for an object of texts and integers, without blanks and with the keys in order.

Main definitions:

* `Lib.JsonText.Value`, `Lib.JsonText.LoadError` — what is read, and what may go wrong;
* `Lib.JsonText.scanString`, `Lib.JsonText.scanNumber`, `Lib.JsonText.scanLiteral` — the scalars;
* `Lib.JsonText.elements`, `Lib.JsonText.sequence` — the loop over the elements;
* `Lib.JsonText.scanValue`, `Lib.JsonText.loads` — the decoder, for a text and for bytes;
* `Lib.JsonText.Scalar`, `Lib.JsonText.dumps` — the encoder.

Main results:

* `Lib.JsonText.scanValue_shrinks` — a value is read from at least one character;
* `Lib.JsonText.sequence_eq_elements` — **the loop does not run out** before the text does.
-/

import LibSeek.Lib.Utf8
import Mathlib.Data.Nat.Digits.Lemmas

set_option relaxedAutoImplicit false
set_option autoImplicit false

namespace LibSeek.Lib.JsonText

/-! ### Values -/

/-- A value; of a number that is no integer only the text is kept, and of an object its members in
the order in which they were read. -/
inductive Value where
  | null
  | bool (value : Bool)
  | int (value : ℤ)
  | float (literal : CodePoints)
  | str (text : CodePoints)
  | arr (items : List Value)
  | obj (members : List (CodePoints × Value))

/-- What the decoder raises: the error of the format, or the one for too deep a nesting. -/
inductive LoadError where
  | value
  | recursion
  deriving DecidableEq, Repr

/-- A scanner reads something from the front of a text, and leaves the rest. -/
abbrev Scan (α : Type) := CodePoints → Except LoadError (α × CodePoints)

/-- The value that an object has under a key: of members with one key, the last. -/
def member? (key : CodePoints) (members : List (CodePoints × Value)) : Option Value :=
  (members.reverse.find? (·.1 = key)).map (·.2)

/-! ### Texts -/

/-- The digit that a character is in the hexadecimal system. -/
def hexValue (c : ℕ) : Option ℕ :=
  if 48 ≤ c ∧ c < 58 then some (c - 48)
  else if 97 ≤ c ∧ c < 103 then some (c - 87)
  else if 65 ≤ c ∧ c < 71 then some (c - 55)
  else none

/-- The code of four hexadecimal digits. -/
def hexCode (a b c d : ℕ) : Option ℕ := do
  let a ← hexValue a
  let b ← hexValue b
  let c ← hexValue c
  let d ← hexValue d
  some (((a * 16 + b) * 16 + c) * 16 + d)

/-- The character of an escape of one character. -/
def unescape (c : ℕ) : Option ℕ :=
  if c = 34 ∨ c = 92 ∨ c = 47 then some c
  else if c = 98 then some 8
  else if c = 102 then some 12
  else if c = 110 then some 10
  else if c = 114 then some 13
  else if c = 116 then some 9
  else none

/-- The characters of a text up to the quote that ends it, each with whether it was written as a
number, and what follows the quote. -/
def scanUnits : CodePoints → Option (List (ℕ × Bool) × CodePoints)
  | [] => none
  | c :: rest =>
      if c = 34 then some ([], rest)
      else if c = 92 then
        match rest with
        | [] => none
        | e :: rest =>
            if e = 117 then
              match rest with
              | h₁ :: h₂ :: h₃ :: h₄ :: rest =>
                  (hexCode h₁ h₂ h₃ h₄).bind fun code =>
                    (scanUnits rest).map fun read => ((code, true) :: read.1, read.2)
              | _ => none
            else
              (unescape e).bind fun code =>
                (scanUnits rest).map fun read => ((code, false) :: read.1, read.2)
      else if c < 0x20 then none
      else (scanUnits rest).map fun read => ((c, false) :: read.1, read.2)

/-- Two surrogates that were written as numbers, and are a pair, are one character. -/
def joinPairs : List (ℕ × Bool) → CodePoints
  | [] => []
  | [unit] => [unit.1]
  | unit :: next :: rest =>
      if unit.2 ∧ next.2 ∧ (0xD800 ≤ unit.1 ∧ unit.1 < 0xDC00) ∧
          (0xDC00 ≤ next.1 ∧ next.1 < 0xE000) then
        (0x10000 + (unit.1 - 0xD800) * 1024 + (next.1 - 0xDC00)) :: joinPairs rest
      else unit.1 :: joinPairs (next :: rest)

/-- A text, from the character after its quote on. -/
def scanString (cs : CodePoints) : Option (CodePoints × CodePoints) :=
  (scanUnits cs).map fun read => (joinPairs read.1, read.2)

/-! ### Numbers -/

/-- Whether a character is a decimal digit. -/
def isDigit (c : ℕ) : Bool := 48 ≤ c && c < 58

/-- The most digits that an integer is read from, or written with. -/
def maxDigits : ℕ := 4300

/-- The number that a run of digits writes. -/
def ofDecimal (digits : CodePoints) : ℕ := Nat.ofDigits 10 (digits.reverse.map (· - 48))

/-- The digits before the point: one zero, or a run that begins with no zero. -/
def scanIntegral : CodePoints → Option (CodePoints × CodePoints)
  | [] => none
  | c :: rest =>
      if c = 48 then some ([c], rest)
      else if isDigit c then some (c :: rest.takeWhile isDigit, rest.dropWhile isDigit)
      else none

/-- The point and the digits after it; nothing where no digit follows the point. -/
def scanFraction (cs : CodePoints) : CodePoints × CodePoints :=
  match cs with
  | point :: digit :: rest =>
      if point = 46 ∧ isDigit digit then
        (point :: digit :: rest.takeWhile isDigit, rest.dropWhile isDigit)
      else ([], cs)
  | _ => ([], cs)

/-- The sign that an exponent may have. -/
def scanSign (cs : CodePoints) : CodePoints × CodePoints :=
  match cs with
  | sign :: rest => if sign = 43 ∨ sign = 45 then ([sign], rest) else ([], cs)
  | [] => ([], cs)

/-- The exponent; nothing where it has no digit. -/
def scanExponent (cs : CodePoints) : CodePoints × CodePoints :=
  match cs with
  | e :: rest =>
      if (e = 101 ∨ e = 69) ∧ (scanSign rest).2.takeWhile isDigit ≠ [] then
        (e :: ((scanSign rest).1 ++ (scanSign rest).2.takeWhile isDigit),
          (scanSign rest).2.dropWhile isDigit)
      else ([], cs)
  | [] => ([], cs)

/-- A number without its sign; an integer of too many digits is an error of the format. -/
def scanUnsigned (negative : Bool) (cs : CodePoints) : Option (Value × CodePoints) :=
  (scanIntegral cs).bind fun integral =>
    let fraction := scanFraction integral.2
    let exponent := scanExponent fraction.2
    if fraction.1 = [] ∧ exponent.1 = [] then
      if integral.1.length ≤ maxDigits then
        some (.int (if negative then -(ofDecimal integral.1 : ℤ) else ofDecimal integral.1),
          exponent.2)
      else none
    else
      some (.float ((if negative then [45] else []) ++ integral.1 ++ fraction.1 ++ exponent.1),
        exponent.2)

/-- A number. -/
def scanNumber (cs : CodePoints) : Option (Value × CodePoints) :=
  match cs with
  | [] => none
  | c :: rest => if c = 45 then scanUnsigned true rest else scanUnsigned false cs

/-! ### Values and their elements -/

/-- The words that are values. -/
def literals : List (CodePoints × Value) :=
  [(codePoints "null", .null), (codePoints "true", .bool true), (codePoints "false", .bool false),
    (codePoints "NaN", .float (codePoints "NaN")),
    (codePoints "Infinity", .float (codePoints "Infinity")),
    (codePoints "-Infinity", .float (codePoints "-Infinity"))]

/-- A word that is a value. -/
def scanLiteral (cs : CodePoints) : Option (Value × CodePoints) :=
  literals.findSome? fun literal =>
    if literal.1.isPrefixOf cs then some (literal.2, cs.drop literal.1.length) else none

/-- The blanks that may stand between two tokens. -/
def isSpace (c : ℕ) : Bool := c = 32 || c = 9 || c = 10 || c = 13

/-- A text without the blanks in front. -/
def skipSpace (cs : CodePoints) : CodePoints := cs.dropWhile isSpace

section Elements

variable {α : Type}

/-- The elements of a sequence up to its closing character, with commas between them. -/
def elements (close : ℕ) (element : Scan α) : (fuel : ℕ) → Scan (List α)
  | 0, _ => .error .value
  | fuel + 1, cs =>
      match element cs with
      | .error e => .error e
      | .ok (item, rest) =>
          match skipSpace rest with
          | [] => .error .value
          | c :: rest =>
              if c = close then .ok ([item], rest)
              else if c = 44 then
                match elements close element fuel (skipSpace rest) with
                | .error e => .error e
                | .ok (items, rest) => .ok (item :: items, rest)
              else .error .value

/-- A sequence, from the character after its opening one on. -/
def sequence (close : ℕ) (element : Scan α) : Scan (List α) := fun cs =>
  match skipSpace cs with
  | [] => .error .value
  | c :: rest =>
      if c = close then .ok ([], rest) else elements close element (c :: rest).length (c :: rest)

/-- A member of an object: its key, a colon and its value. -/
def scanMember (value : Scan Value) : Scan (CodePoints × Value) := fun cs =>
  match cs with
  | [] => .error .value
  | c :: rest =>
      if c = 34 then
        match scanString rest with
        | none => .error .value
        | some (key, rest) =>
            match skipSpace rest with
            | [] => .error .value
            | c :: rest =>
                if c = 58 then
                  match value (skipSpace rest) with
                  | .error e => .error e
                  | .ok (v, rest) => .ok ((key, v), rest)
                else .error .value
      else .error .value

end Elements

/-- A value, with the scanners of what follows an opening bracket and an opening brace. -/
def scanWith (items : Scan (List Value)) (members : Scan (List (CodePoints × Value))) :
    Scan Value := fun cs =>
  match cs with
  | [] => .error .value
  | c :: rest =>
      if c = 91 then (items rest).map fun read => (.arr read.1, read.2)
      else if c = 123 then (members rest).map fun read => (.obj read.1, read.2)
      else if c = 34 then
        match scanString rest with
        | none => .error .value
        | some (text, rest) => .ok (.str text, rest)
      else
        match (scanLiteral cs).orElse fun _ => scanNumber cs with
        | none => .error .value
        | some read => .ok read

/-- A value, with the depth that is left for what is nested in it. -/
def scanValue : (depth : ℕ) → Scan Value
  | 0 => scanWith (fun _ => .error .recursion) (fun _ => .error .recursion)
  | depth + 1 =>
      scanWith (sequence 93 (scanValue depth)) (sequence 125 (scanMember (scanValue depth)))

/-- A text that is one value, with blanks around it. -/
def loadsText (depth : ℕ) (cs : CodePoints) : Except LoadError Value :=
  match scanValue depth (skipSpace cs) with
  | .error e => .error e
  | .ok (value, rest) => if skipSpace rest = [] then .ok value else .error .value

/-! ### Octets -/

/-- The encodings that a document may be in. -/
inductive Encoding where
  | utf8
  | utf8Sig
  | utf16
  | utf16be
  | utf16le
  | utf32
  | utf32be
  | utf32le
  deriving DecidableEq, Repr

/-- The encoding of a document, from its byte order mark and from where its zeros are. -/
def detectEncoding (bytes : Octets) : Encoding :=
  if [0, 0, 0xFE, 0xFF].isPrefixOf bytes ∨ [0xFF, 0xFE, 0, 0].isPrefixOf bytes then .utf32
  else if [0xFE, 0xFF].isPrefixOf bytes ∨ [0xFF, 0xFE].isPrefixOf bytes then .utf16
  else if [0xEF, 0xBB, 0xBF].isPrefixOf bytes then .utf8Sig
  else
    match bytes with
    | [a, b] => if a = 0 then .utf16be else if b = 0 then .utf16le else .utf8
    | a :: b :: c :: d :: _ =>
        if a = 0 then if b = 0 then .utf32be else .utf16be
        else if b = 0 then if c = 0 ∧ d = 0 then .utf32le else .utf16le
        else .utf8
    | _ => .utf8

/-- The text of bytes in an encoding, with the decoder of the encodings that are not UTF-8. -/
def decodeAs (other : Encoding → Octets → Option CodePoints) (encoding : Encoding)
    (bytes : Octets) : Option CodePoints :=
  match encoding with
  | .utf8 => Utf8.decode bytes
  | .utf8Sig => Utf8.decode (bytes.drop 3)
  | encoding => other encoding bytes

/-- The value of a document; bytes that are no text are an error of the format. -/
def loads (other : Encoding → Octets → Option CodePoints) (depth : ℕ) (bytes : Octets) :
    Except LoadError Value :=
  match decodeAs other (detectEncoding bytes) bytes with
  | none => .error .value
  | some text => loadsText depth text

/-! ### Encoding -/

/-- The hexadecimal digit of four bits. -/
def hexDigit (value : ℕ) : ℕ := if value < 10 then 48 + value else 87 + value

/-- A character as it is written in a text. -/
def escape (c : ℕ) : CodePoints :=
  if c = 34 ∨ c = 92 then [92, c]
  else if c = 8 then [92, 98]
  else if c = 12 then [92, 102]
  else if c = 10 then [92, 110]
  else if c = 13 then [92, 114]
  else if c = 9 then [92, 116]
  else if c < 0x20 then [92, 117, 48, 48, hexDigit (c / 16), hexDigit (c % 16)]
  else [c]

/-- A text between its quotes. -/
def dumpString (text : CodePoints) : CodePoints := 34 :: (text.flatMap escape ++ [34])

/-- The decimal digits of a number. -/
def decimal (n : ℕ) : CodePoints :=
  if n = 0 then [48] else (Nat.digits 10 n).reverse.map (48 + ·)

/-- The text of an integer. -/
def dumpInt (z : ℤ) : CodePoints := if z < 0 then 45 :: decimal z.natAbs else decimal z.natAbs

/-- The values of an object that is written. -/
inductive Scalar where
  | str (text : CodePoints)
  | int (value : ℤ)
  deriving DecidableEq, Repr

/-- The value that a scalar is. -/
def Scalar.value : Scalar → Value
  | .str text => .str text
  | .int z => .int z

/-- The text of a scalar; none for an integer of too many digits. -/
def dumpScalar : Scalar → Option CodePoints
  | .str text => some (dumpString text)
  | .int z => if (decimal z.natAbs).length ≤ maxDigits then some (dumpInt z) else none

/-- The text of a member. -/
def dumpMember (item : CodePoints × Scalar) : Option CodePoints :=
  (dumpScalar item.2).map fun text => dumpString item.1 ++ 58 :: text

/-- The text of the members and of the brace that ends them. -/
def dumpMembers : List (CodePoints × Scalar) → Option CodePoints
  | [] => some [125]
  | [item] => (dumpMember item).map (· ++ [125])
  | item :: items =>
      (dumpMember item).bind fun text => (dumpMembers items).map fun rest => text ++ 44 :: rest

/-- The members of an object in the order of their keys. -/
def sortKeys (members : List (CodePoints × Scalar)) : List (CodePoints × Scalar) :=
  members.insertionSort fun a b => a.1 ≤ b.1

/-- The text of an object, with its keys in order and without blanks. -/
def dumps (members : List (CodePoints × Scalar)) : Option CodePoints :=
  (dumpMembers (sortKeys members)).map (123 :: ·)

/-! ### The loop does not run out -/

/-- A scanner reads at least one character. -/
def Shrinks {α : Type} (scan : Scan α) : Prop :=
  ∀ cs value rest, scan cs = .ok (value, rest) → rest.length < cs.length

/-- Blanks are passed over. -/
theorem length_skipSpace_le (cs : CodePoints) : (skipSpace cs).length ≤ cs.length :=
  (List.dropWhile_sublist _).length_le

/-- What follows a text is shorter. -/
theorem scanUnits_shrinks {cs rest : CodePoints} {units : List (ℕ × Bool)}
    (h : scanUnits cs = some (units, rest)) : rest.length < cs.length := by
  fun_induction scanUnits cs generalizing units with
  | case1 => cases h
  | case2 tail =>
      cases h
      simp
  | case3 => cases h
  | case4 h₁ h₂ h₃ h₄ tail _ ih =>
      obtain ⟨code, -, h⟩ := Option.bind_eq_some_iff.mp h
      obtain ⟨read, hread, h⟩ := Option.map_eq_some_iff.mp h
      cases h
      have := ih hread
      simp only [List.length_cons]
      omega
  | case5 => cases h
  | case6 e tail _ _ ih =>
      obtain ⟨code, -, h⟩ := Option.bind_eq_some_iff.mp h
      obtain ⟨read, hread, h⟩ := Option.map_eq_some_iff.mp h
      cases h
      have := ih hread
      simp only [List.length_cons]
      omega
  | case7 => cases h
  | case8 c tail _ _ _ ih =>
      obtain ⟨read, hread, h⟩ := Option.map_eq_some_iff.mp h
      cases h
      have := ih hread
      simp only [List.length_cons]
      omega

/-- What follows a text is shorter, with its characters joined. -/
theorem scanString_shrinks {cs text rest : CodePoints} (h : scanString cs = some (text, rest)) :
    rest.length < cs.length := by
  obtain ⟨read, hread, h⟩ := Option.map_eq_some_iff.mp h
  cases h
  exact scanUnits_shrinks hread

/-- What follows the digits before the point is shorter. -/
theorem scanIntegral_shrinks {cs digits rest : CodePoints}
    (h : scanIntegral cs = some (digits, rest)) : rest.length < cs.length := by
  cases cs with
  | nil => cases h
  | cons c cs =>
      rw [scanIntegral] at h
      split_ifs at h
      · cases h
        simp
      · cases h
        have := (List.dropWhile_sublist (l := cs) isDigit).length_le
        simp only [List.length_cons]
        omega

/-- What follows a fraction is no longer. -/
theorem length_scanFraction_le (cs : CodePoints) : (scanFraction cs).2.length ≤ cs.length := by
  unfold scanFraction
  split
  · split_ifs
    · have := (List.dropWhile_sublist (l := by assumption) isDigit).length_le
      simp only [List.length_cons]
      omega
    · exact le_rfl
  · exact le_rfl

/-- What follows a sign is no longer. -/
theorem length_scanSign_le (cs : CodePoints) : (scanSign cs).2.length ≤ cs.length := by
  unfold scanSign
  split
  · split_ifs
    · simp
    · exact le_rfl
  · exact le_rfl

/-- What follows an exponent is no longer. -/
theorem length_scanExponent_le (cs : CodePoints) : (scanExponent cs).2.length ≤ cs.length := by
  unfold scanExponent
  split
  · next e rest =>
      split_ifs
      · have hsign := length_scanSign_le rest
        have := (List.dropWhile_sublist (l := (scanSign rest).2) isDigit).length_le
        simp only [List.length_cons]
        omega
      · exact le_rfl
  · exact le_rfl

/-- What follows a number without its sign is shorter. -/
theorem scanUnsigned_shrinks {negative : Bool} {cs rest : CodePoints} {value : Value}
    (h : scanUnsigned negative cs = some (value, rest)) : rest.length < cs.length := by
  obtain ⟨integral, hintegral, h⟩ := Option.bind_eq_some_iff.mp h
  have hdigits := scanIntegral_shrinks hintegral
  have hfraction := length_scanFraction_le integral.2
  have hexponent := length_scanExponent_le (scanFraction integral.2).2
  have hrest : rest = (scanExponent (scanFraction integral.2).2).2 := by
    simp only at h
    split_ifs at h <;> cases h <;> rfl
  rw [hrest]
  omega

/-- What follows a number is shorter. -/
theorem scanNumber_shrinks {cs rest : CodePoints} {value : Value}
    (h : scanNumber cs = some (value, rest)) : rest.length < cs.length := by
  cases cs with
  | nil => cases h
  | cons c cs =>
      rw [scanNumber] at h
      split_ifs at h
      · have := scanUnsigned_shrinks h
        simp only [List.length_cons]
        omega
      · exact scanUnsigned_shrinks h

/-- What follows a word is shorter. -/
theorem scanLiteral_shrinks {cs rest : CodePoints} {value : Value}
    (h : scanLiteral cs = some (value, rest)) : rest.length < cs.length := by
  obtain ⟨literal, hmem, h⟩ := List.exists_of_findSome?_eq_some h
  have hlength : 0 < literal.1.length := by
    simp only [literals, List.mem_cons, List.not_mem_nil, or_false] at hmem
    rcases hmem with rfl | rfl | rfl | rfl | rfl | rfl <;> decide
  split_ifs at h with hp
  cases h
  have hle := (List.isPrefixOf_iff_prefix.mp hp).length_le
  rw [List.length_drop]
  omega

section Elements

variable {α : Type} {close : ℕ} {element : Scan α}

/-- What follows the elements of a sequence is shorter. -/
theorem elements_shrinks (hs : Shrinks element) (fuel : ℕ) :
    Shrinks (elements close element fuel) := by
  induction fuel with
  | zero => exact fun _ _ _ h => nomatch h
  | succ fuel ih =>
      intro cs items rest h
      rw [elements] at h
      rcases hitem : element cs with e | ⟨item, tail⟩
      · simp [hitem] at h
      · have hfirst := hs _ _ _ hitem
        have hskip := length_skipSpace_le tail
        simp only [hitem] at h
        rcases htail : skipSpace tail with _ | ⟨c, tail'⟩
        · simp [htail] at h
        · rw [htail, List.length_cons] at hskip
          simp only [htail] at h
          split_ifs at h
          · cases h
            omega
          · have hskip' := length_skipSpace_le tail'
            rcases hmore : elements close element fuel (skipSpace tail') with e | ⟨more, end_⟩
            · simp [hmore] at h
            · simp only [hmore] at h
              cases h
              have := ih _ _ _ hmore
              omega

/-- What follows a sequence is shorter. -/
theorem sequence_shrinks (hs : Shrinks element) : Shrinks (sequence close element) := by
  intro cs items rest h
  have hskip := length_skipSpace_le cs
  rw [sequence] at h
  rcases htail : skipSpace cs with _ | ⟨c, tail⟩
  · simp [htail] at h
  · rw [htail, List.length_cons] at hskip
    simp only [htail] at h
    split_ifs at h
    · cases h
      omega
    · have := elements_shrinks hs _ _ _ _ h
      simp only [List.length_cons] at this
      omega

/-- More fuel than the text has characters changes nothing. -/
theorem elements_of_le (hs : Shrinks element) {cs : CodePoints} {fuel more : ℕ} (hpos : 0 < fuel)
    (hfuel : cs.length ≤ fuel) (hmore : fuel ≤ more) :
    elements close element more cs = elements close element fuel cs := by
  induction fuel generalizing cs more with
  | zero => omega
  | succ fuel ih =>
      obtain ⟨more, rfl⟩ : ∃ n, more = n + 1 := ⟨more - 1, by omega⟩
      rw [elements, elements]
      rcases hitem : element cs with e | ⟨item, tail⟩
      · rfl
      · have hfirst := hs _ _ _ hitem
        have hskip := length_skipSpace_le tail
        rcases htail : skipSpace tail with _ | ⟨c, tail'⟩
        · simp only [htail]
        · rw [htail, List.length_cons] at hskip
          have hskip' := length_skipSpace_le tail'
          have hrest := @ih (skipSpace tail') more (by omega) (by omega) (by omega)
          simp only [htail, hrest]

/-- **The loop does not run out**: a sequence is its elements, with any fuel that is no less than
the text is long. -/
theorem sequence_eq_elements (hs : Shrinks element) {cs tail : CodePoints} {c fuel : ℕ}
    (hcs : skipSpace cs = c :: tail) (hc : c ≠ close) (hfuel : (c :: tail).length ≤ fuel) :
    sequence close element cs = elements close element fuel (c :: tail) := by
  rw [sequence, hcs]
  simp only [if_neg hc]
  exact (elements_of_le hs (by simp) le_rfl hfuel).symm

end Elements

/-- What follows a member is shorter. -/
theorem scanMember_shrinks {value : Scan Value} (hs : Shrinks value) :
    Shrinks (scanMember value) := by
  intro cs member rest h
  rcases cs with _ | ⟨c, cs⟩
  · cases h
  · rw [scanMember] at h
    split_ifs at h
    rcases hkey : scanString cs with _ | ⟨key, tail⟩
    · simp [hkey] at h
    · have hfirst := scanString_shrinks hkey
      have hskip := length_skipSpace_le tail
      simp only [hkey] at h
      rcases htail : skipSpace tail with _ | ⟨c, tail'⟩
      · simp [htail] at h
      · rw [htail, List.length_cons] at hskip
        simp only [htail] at h
        split_ifs at h
        rcases hvalue : value (skipSpace tail') with e | ⟨v, end_⟩
        · simp [hvalue] at h
        · have := hs _ _ _ hvalue
          have hskip' := length_skipSpace_le tail'
          simp only [hvalue] at h
          cases h
          simp only [List.length_cons]
          omega

/-- What follows a value is shorter, where what follows its brackets is. -/
theorem scanWith_shrinks {items : Scan (List Value)} {members : Scan (List (CodePoints × Value))}
    (hitems : Shrinks items) (hmembers : Shrinks members) : Shrinks (scanWith items members) := by
  intro cs value rest h
  rcases cs with _ | ⟨c, cs⟩
  · cases h
  · rw [scanWith] at h
    split_ifs at h
    · rcases hr : items cs with e | ⟨read, tail⟩
      · simp [hr, Except.map] at h
      · have := hitems _ _ _ hr
        simp only [hr, Except.map] at h
        cases h
        simp only [List.length_cons]
        omega
    · rcases hr : members cs with e | ⟨read, tail⟩
      · simp [hr, Except.map] at h
      · have := hmembers _ _ _ hr
        simp only [hr, Except.map] at h
        cases h
        simp only [List.length_cons]
        omega
    · rcases hr : scanString cs with _ | ⟨read, tail⟩
      · simp [hr] at h
      · have := scanString_shrinks hr
        simp only [hr] at h
        cases h
        simp only [List.length_cons]
        omega
    · rcases hl : scanLiteral (c :: cs) with _ | read
      · rcases hn : scanNumber (c :: cs) with _ | read
        · simp [hl, hn] at h
        · simp only [hl, hn, Option.orElse] at h
          cases h
          exact scanNumber_shrinks hn
      · simp only [hl, Option.orElse] at h
        cases h
        exact scanLiteral_shrinks hl

/-- **A value is read from at least one character.** -/
theorem scanValue_shrinks (depth : ℕ) : Shrinks (scanValue depth) := by
  induction depth with
  | zero => exact scanWith_shrinks (fun _ _ _ h => nomatch h) (fun _ _ _ h => nomatch h)
  | succ depth ih =>
      exact scanWith_shrinks (sequence_shrinks ih) (sequence_shrinks (scanMember_shrinks ih))

end LibSeek.Lib.JsonText
