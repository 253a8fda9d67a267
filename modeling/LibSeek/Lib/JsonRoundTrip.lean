/-
Decoding undoes encoding.

What the encoder writes for an object of texts and integers is read back as that object, whatever
characters its texts have, as long as the bytes of the text are the UTF-8 of it.  Each scanner is
shown to read what was written in front of any rest that does not go on with it.

Main definitions:

* `Lib.JsonText.Ends` — a rest that a number does not go on with;
* `Lib.JsonText.objectSize` — how many bytes the encoder writes for an object.

Main results:

* `Lib.JsonText.scanString_written`, `Lib.JsonText.scanNumber_dumpInt` — a text and an integer are
  read back;
* `Lib.JsonText.loads_dumps` — **decoding undoes encoding**;
* `Lib.JsonText.size_dumps` — **how many bytes** the encoding of an object has.
-/

import LibSeek.Lib.JsonText

set_option relaxedAutoImplicit false
set_option autoImplicit false

namespace LibSeek.Lib.JsonText

/-! ### Texts -/

/-- Whether a character is written as a number. -/
def isNumbered (c : ℕ) : Bool :=
  c < 0x20 && !(c == 8 || c == 9 || c == 10 || c == 12 || c == 13)

/-- The number of a control character is read back. -/
theorem hexCode_control :
    ∀ c < 0x20, hexCode 48 48 (hexDigit (c / 16)) (hexDigit (c % 16)) = some c := by
  decide

/-- A quote ends a text. -/
theorem scanUnits_quote (rest : CodePoints) : scanUnits (34 :: rest) = some ([], rest) := by
  rw [scanUnits.eq_def]
  rfl

/-- An escape of one character is read as it. -/
theorem scanUnits_unescape {e code : ℕ} (he : unescape e = some code) (tail : CodePoints) :
    scanUnits (92 :: e :: tail) =
      (scanUnits tail).map fun read => ((code, false) :: read.1, read.2) := by
  have hne : e ≠ 117 := by
    rintro rfl
    cases he
  rw [scanUnits.eq_def]
  simp only [Nat.reduceEqDiff, if_false, if_true, if_neg hne, he,
    Option.bind_some]

/-- An escape of four digits is read as the character of their number. -/
theorem scanUnits_number {a b c d code : ℕ} (h : hexCode a b c d = some code)
    (tail : CodePoints) :
    scanUnits (92 :: 117 :: a :: b :: c :: d :: tail) =
      (scanUnits tail).map fun read => ((code, true) :: read.1, read.2) := by
  rw [scanUnits.eq_def]
  simp only [Nat.reduceEqDiff, if_false, if_true, h, Option.bind_some]

/-- **A character is read back** as it was written. -/
theorem scanUnits_escape (c : ℕ) (tail : CodePoints) :
    scanUnits (escape c ++ tail) =
      (scanUnits tail).map fun read => ((c, isNumbered c) :: read.1, read.2) := by
  unfold escape
  split_ifs with hquoted h8 h12 h10 h13 h9 hcontrol
  · rcases hquoted with rfl | rfl
    · exact scanUnits_unescape rfl tail
    · exact scanUnits_unescape rfl tail
  · subst h8
    exact scanUnits_unescape rfl tail
  · subst h12
    exact scanUnits_unescape rfl tail
  · subst h10
    exact scanUnits_unescape rfl tail
  · subst h13
    exact scanUnits_unescape rfl tail
  · subst h9
    exact scanUnits_unescape rfl tail
  · have hnumbered : isNumbered c = true := by
      simp [isNumbered, hcontrol, h8, h9, h10, h12, h13]
    rw [hnumbered]
    exact scanUnits_number (hexCode_control c hcontrol) tail
  · obtain ⟨hquote, hbackslash⟩ := not_or.mp hquoted
    have hplain : isNumbered c = false := by
      simp only [isNumbered, decide_eq_false hcontrol, Bool.false_and]
    rw [List.singleton_append, scanUnits.eq_def]
    simp only [if_neg hquote, if_neg hbackslash, if_neg hcontrol, hplain]

/-- The characters of a text are read up to its quote. -/
theorem scanUnits_written (text rest : CodePoints) :
    scanUnits (text.flatMap escape ++ 34 :: rest) =
      some (text.map fun c => (c, isNumbered c), rest) := by
  induction text with
  | nil => exact scanUnits_quote rest
  | cons c text ih =>
      rw [List.flatMap_cons, List.append_assoc, scanUnits_escape, ih]
      rfl

/-- No character that is written as a number is half of a pair. -/
theorem joinPairs_written (text : CodePoints) :
    joinPairs (text.map fun c => (c, isNumbered c)) = text := by
  induction text with
  | nil => rfl
  | cons c text ih =>
      cases text with
      | nil => rfl
      | cons d text =>
          have hsingle : ¬ (isNumbered c = true ∧ isNumbered d = true ∧
              (0xD800 ≤ c ∧ c < 0xDC00) ∧ 0xDC00 ≤ d ∧ d < 0xE000) := by
            rintro ⟨hnumbered, -, ⟨hle, -⟩, -⟩
            have hlt : c < 0x20 := by
              simp only [isNumbered, Bool.and_eq_true, decide_eq_true_eq] at hnumbered
              exact hnumbered.1
            omega
          rw [List.map_cons, List.map_cons, joinPairs, if_neg hsingle]
          exact congrArg (c :: ·) ih

/-- **A text is read back.** -/
theorem scanString_written (text rest : CodePoints) :
    scanString (text.flatMap escape ++ 34 :: rest) = some (text, rest) := by
  rw [scanString, scanUnits_written, Option.map_some, joinPairs_written]

/-! ### Integers -/

/-- A rest that a number does not go on with: a comma, or the brace that ends an object. -/
def Ends (rest : CodePoints) : Prop :=
  ∃ c tail, rest = c :: tail ∧ (c = 44 ∨ c = 125)

/-- The digits of a number. -/
theorem isDigit_decimal (n : ℕ) : ∀ c ∈ decimal n, isDigit c = true := by
  intro c hc
  unfold decimal at hc
  split_ifs at hc
  · obtain rfl := List.mem_singleton.mp hc
    rfl
  · obtain ⟨d, hd, rfl⟩ := List.mem_map.mp hc
    have hlt : d < 10 := Nat.digits_lt_base (by decide) (List.mem_reverse.mp hd)
    simp only [isDigit, Bool.and_eq_true, decide_eq_true_eq]
    omega

/-- The digits of a number write it. -/
theorem ofDecimal_decimal (n : ℕ) : ofDecimal (decimal n) = n := by
  unfold decimal ofDecimal
  split_ifs with hn
  · subst hn
    rfl
  · have hmap : (((Nat.digits 10 n).reverse.map (48 + ·)).reverse.map (· - 48)) =
        Nat.digits 10 n := by
      rw [← List.map_reverse, List.reverse_reverse, List.map_map]
      have hid : ((· - 48) ∘ (48 + ·) : ℕ → ℕ) = id := by
        funext d
        simp
      rw [hid, List.map_id]
    rw [hmap, Nat.ofDigits_digits]

/-- A number begins with a digit, which is a zero where it is the only one. -/
theorem decimal_cases (n : ℕ) :
    decimal n = [48] ∨ ∃ c cs, decimal n = c :: cs ∧ c ≠ 48 ∧ isDigit c = true ∧
      ∀ d ∈ cs, isDigit d = true := by
  by_cases hn : n = 0
  · subst hn
    exact Or.inl rfl
  · right
    have hdigits := isDigit_decimal n
    have hne : Nat.digits 10 n ≠ [] := Nat.digits_ne_nil_iff_ne_zero.mpr hn
    have hlast := Nat.getLast_digit_ne_zero 10 hn
    have hform : decimal n = (48 + (Nat.digits 10 n).getLast hne) ::
        ((Nat.digits 10 n).dropLast.reverse.map (48 + ·)) := by
      conv_lhs => rw [decimal, if_neg hn, ← List.dropLast_append_getLast hne]
      rw [List.reverse_append, List.reverse_singleton, List.singleton_append, List.map_cons]
    refine ⟨_, _, hform, by omega, hdigits _ ?_, fun d hd => hdigits d ?_⟩
    · rw [hform]
      exact List.mem_cons_self
    · rw [hform]
      exact List.mem_cons_of_mem _ hd

/-- The digits of a number are read up to the rest. -/
theorem scanIntegral_decimal (n : ℕ) {rest : CodePoints} (hrest : Ends rest) :
    scanIntegral (decimal n ++ rest) = some (decimal n, rest) := by
  obtain ⟨e, tail, rfl, he⟩ := hrest
  have hstop : isDigit e = false := by
    rcases he with rfl | rfl <;> rfl
  rcases decimal_cases n with hzero | ⟨c, cs, hform, hne, hc, hcs⟩
  · rw [hzero]
    rfl
  · rw [hform, List.cons_append, scanIntegral, if_neg hne, if_pos hc]
    rw [List.takeWhile_append_of_pos hcs, List.dropWhile_append_of_pos hcs]
    rw [List.takeWhile_cons_of_neg (by simp [hstop]), List.dropWhile_cons_of_neg (by simp [hstop]),
      List.append_nil]

/-- A rest that a number does not go on with is neither a fraction nor an exponent. -/
theorem scan_ends {rest : CodePoints} (hrest : Ends rest) :
    scanFraction rest = ([], rest) ∧ scanExponent rest = ([], rest) := by
  obtain ⟨e, tail, rfl, he⟩ := hrest
  rcases he with rfl | rfl
  · refine ⟨?_, by simp [scanExponent]⟩
    cases tail <;> simp [scanFraction]
  · refine ⟨?_, by simp [scanExponent]⟩
    cases tail <;> simp [scanFraction]

/-- A number without its sign is read back. -/
theorem scanUnsigned_decimal (negative : Bool) {n : ℕ} (hn : (decimal n).length ≤ maxDigits)
    {rest : CodePoints} (hrest : Ends rest) :
    scanUnsigned negative (decimal n ++ rest) =
      some (.int (if negative then -(n : ℤ) else n), rest) := by
  obtain ⟨hfraction, hexponent⟩ := scan_ends hrest
  rw [scanUnsigned, scanIntegral_decimal n hrest, Option.bind_some]
  simp only [hfraction, hexponent, and_self, if_true, if_pos hn, ofDecimal_decimal]

/-- **An integer is read back.** -/
theorem scanNumber_dumpInt {z : ℤ} (hz : (decimal z.natAbs).length ≤ maxDigits)
    {rest : CodePoints} (hrest : Ends rest) :
    scanNumber (dumpInt z ++ rest) = some (.int z, rest) := by
  unfold dumpInt
  split_ifs with hneg
  · rw [List.cons_append, scanNumber, if_pos rfl, scanUnsigned_decimal true hz hrest]
    have hvalue : -((z.natAbs : ℕ) : ℤ) = z := by omega
    rw [if_pos rfl, hvalue]
  · obtain ⟨c, cs, hform, hc⟩ : ∃ c cs, decimal z.natAbs = c :: cs ∧ c ≠ 45 := by
      rcases decimal_cases z.natAbs with hzero | ⟨c, cs, hform, -, hdigit, -⟩
      · exact ⟨48, [], hzero, by decide⟩
      · refine ⟨c, cs, hform, ?_⟩
        rintro rfl
        cases hdigit
    have hscan := scanUnsigned_decimal false hz hrest
    rw [hform, List.cons_append] at hscan ⊢
    rw [scanNumber, if_neg hc, hscan]
    have hvalue : ((z.natAbs : ℕ) : ℤ) = z := by omega
    rw [if_neg Bool.false_ne_true, hvalue]

/-- What an integer begins with: a digit, or a sign and a digit. -/
theorem dumpInt_cases (z : ℤ) :
    ∃ c cs, isDigit c = true ∧ (dumpInt z = c :: cs ∨ dumpInt z = 45 :: c :: cs) := by
  obtain ⟨c, cs, hform, hc⟩ : ∃ c cs, decimal z.natAbs = c :: cs ∧ isDigit c = true := by
    rcases decimal_cases z.natAbs with hzero | ⟨c, cs, hform, -, hdigit, -⟩
    · exact ⟨48, [], hzero, rfl⟩
    · exact ⟨c, cs, hform, hdigit⟩
  refine ⟨c, cs, hc, ?_⟩
  unfold dumpInt
  split_ifs
  · exact Or.inr (congrArg (45 :: ·) hform)
  · exact Or.inl hform

/-- The code of a digit. -/
theorem isDigit_iff (c : ℕ) : isDigit c = true ↔ 48 ≤ c ∧ c < 58 := by
  simp [isDigit]

/-- No word that is a value begins like an integer. -/
theorem scanLiteral_dumpInt (z : ℤ) (rest : CodePoints) :
    scanLiteral (dumpInt z ++ rest) = none := by
  obtain ⟨c, cs, hc, hform⟩ := dumpInt_cases z
  have hrange := (isDigit_iff c).mp hc
  have hnot : ∀ d : ℕ, d < 48 ∨ 58 ≤ d → (d == c) = false := by
    intro d hd
    rw [beq_eq_false_iff_ne]
    omega
  rw [scanLiteral, List.findSome?_eq_none_iff]
  intro literal hliteral
  have hbegins : literal.1.isPrefixOf (dumpInt z ++ rest) = false := by
    simp only [literals, List.mem_cons, List.not_mem_nil, or_false] at hliteral
    rcases hform with hform | hform
    · rw [hform]
      rcases hliteral with rfl | rfl | rfl | rfl | rfl | rfl <;>
        simp [codePoints, List.isPrefixOf, hnot]
    · rw [hform]
      rcases hliteral with rfl | rfl | rfl | rfl | rfl | rfl <;>
        simp [codePoints, List.isPrefixOf, hnot]
  rw [hbegins]
  rfl

/-! ### Values and members -/

/-- A text that begins with no blank has none in front. -/
theorem skipSpace_cons {c : ℕ} (hc : isSpace c = false) (cs : CodePoints) :
    skipSpace (c :: cs) = c :: cs :=
  List.dropWhile_cons_of_neg (by simp [hc])

/-- What a scalar begins with. -/
theorem dumpScalar_head {scalar : Scalar} {text : CodePoints} (h : dumpScalar scalar = some text) :
    ∃ c cs, text = c :: cs ∧ isSpace c = false ∧ c ≠ 91 ∧ c ≠ 123 := by
  cases scalar with
  | str t =>
      cases h
      exact ⟨34, _, rfl, rfl, by decide, by decide⟩
  | int z =>
      rw [dumpScalar] at h
      split_ifs at h
      cases h
      obtain ⟨c, cs, hc, hform⟩ := dumpInt_cases z
      have hrange := (isDigit_iff c).mp hc
      rcases hform with hform | hform
      · refine ⟨c, cs, hform, ?_, by omega, by omega⟩
        simp only [isSpace, Bool.or_eq_false_iff, decide_eq_false_iff_not]
        omega
      · exact ⟨45, c :: cs, hform, rfl, by decide, by decide⟩

/-- **A scalar is read back.** -/
theorem scanWith_dumpScalar {items : Scan (List Value)}
    {members : Scan (List (CodePoints × Value))} {scalar : Scalar} {text : CodePoints}
    (h : dumpScalar scalar = some text) {rest : CodePoints} (hrest : Ends rest) :
    scanWith items members (text ++ rest) = .ok (scalar.value, rest) := by
  obtain ⟨c, cs, hform, -, hbracket, hbrace⟩ := dumpScalar_head h
  cases scalar with
  | str t =>
      cases h
      have hscan := scanString_written t rest
      simp [dumpString, scanWith, hscan, Scalar.value]
  | int z =>
      rw [dumpScalar] at h
      split_ifs at h with hz
      cases h
      have hliteral := scanLiteral_dumpInt z rest
      have hnumber := scanNumber_dumpInt hz hrest
      have hquote : c ≠ 34 := by
        rintro rfl
        obtain ⟨d, ds, hd, hd' | hd'⟩ := dumpInt_cases z
        · rw [hform] at hd'
          cases hd'
          cases hd
        · rw [hform] at hd'
          cases hd'
      rw [hform, List.cons_append] at hliteral hnumber ⊢
      rw [scanWith, if_neg hbracket, if_neg hbrace, if_neg hquote, hliteral]
      simp only [Option.orElse, hnumber, Scalar.value]

/-- A scalar is read back at every depth. -/
theorem scanValue_dumpScalar (depth : ℕ) {scalar : Scalar} {text : CodePoints}
    (h : dumpScalar scalar = some text) {rest : CodePoints} (hrest : Ends rest) :
    scanValue depth (text ++ rest) = .ok (scalar.value, rest) := by
  cases depth <;> exact scanWith_dumpScalar h hrest

/-- A member as it is read back. -/
def readBack (item : CodePoints × Scalar) : CodePoints × Value := (item.1, item.2.value)

/-- **A member is read back.** -/
theorem scanMember_dumpMember (depth : ℕ) {item : CodePoints × Scalar} {text : CodePoints}
    (h : dumpMember item = some text) {rest : CodePoints} (hrest : Ends rest) :
    scanMember (scanValue depth) (text ++ rest) = .ok (readBack item, rest) := by
  obtain ⟨value, hvalue, rfl⟩ := Option.map_eq_some_iff.mp h
  obtain ⟨c, cs, rfl, hspace, -, -⟩ := dumpScalar_head hvalue
  have hkey := scanString_written item.1 (58 :: (c :: cs ++ rest))
  have hscan := scanValue_dumpScalar depth hvalue hrest
  have hcolon : skipSpace (58 :: (c :: cs ++ rest)) = 58 :: (c :: cs ++ rest) :=
    skipSpace_cons rfl _
  have hblank : skipSpace (c :: cs ++ rest) = c :: cs ++ rest := skipSpace_cons hspace _
  have htext : dumpString item.1 ++ 58 :: (c :: cs) ++ rest =
      34 :: (item.1.flatMap escape ++ 34 :: 58 :: (c :: cs ++ rest)) := by
    simp [dumpString]
  rw [htext, scanMember, if_pos rfl, hkey]
  simp only [hcolon, if_true, hblank, hscan, readBack]

/-! ### Objects -/

/-- What the members begin with, where there are any: the quote of a key. -/
theorem dumpMembers_head {item : CodePoints × Scalar} {items : List (CodePoints × Scalar)}
    {text : CodePoints} (h : dumpMembers (item :: items) = some text) :
    ∃ cs, text = 34 :: cs := by
  have hmember : ∀ {t}, dumpMember item = some t → ∃ cs, t = 34 :: cs := by
    intro t ht
    obtain ⟨value, -, rfl⟩ := Option.map_eq_some_iff.mp ht
    exact ⟨_, rfl⟩
  cases items with
  | nil =>
      obtain ⟨t, ht, rfl⟩ := Option.map_eq_some_iff.mp h
      obtain ⟨cs, rfl⟩ := hmember ht
      exact ⟨_, rfl⟩
  | cons next items =>
      obtain ⟨t, ht, h⟩ := Option.bind_eq_some_iff.mp h
      obtain ⟨more, -, rfl⟩ := Option.map_eq_some_iff.mp h
      obtain ⟨cs, rfl⟩ := hmember ht
      exact ⟨_, rfl⟩

/-- No member is written without a character. -/
theorem length_le_dumpMembers {items : List (CodePoints × Scalar)} {text : CodePoints}
    (h : dumpMembers items = some text) : items.length ≤ text.length := by
  induction items generalizing text with
  | nil => simp
  | cons item items ih =>
      cases items with
      | nil =>
          obtain ⟨t, -, rfl⟩ := Option.map_eq_some_iff.mp h
          simp
      | cons next items =>
          obtain ⟨t, -, h⟩ := Option.bind_eq_some_iff.mp h
          obtain ⟨more, hmore, rfl⟩ := Option.map_eq_some_iff.mp h
          have := ih hmore
          simp only [List.length_append, List.length_cons] at this ⊢
          omega

/-- **The members of an object are read back**, each followed by a comma or by the brace. -/
theorem elements_dumpMembers (depth : ℕ) {item : CodePoints × Scalar}
    {items : List (CodePoints × Scalar)} {text : CodePoints}
    (h : dumpMembers (item :: items) = some text) {fuel : ℕ} (hfuel : items.length < fuel)
    (rest : CodePoints) :
    elements 125 (scanMember (scanValue depth)) fuel (text ++ rest) =
      .ok ((item :: items).map readBack, rest) := by
  induction items generalizing item text fuel with
  | nil =>
      obtain ⟨fuel, rfl⟩ : ∃ n, fuel = n + 1 := ⟨fuel - 1, by omega⟩
      obtain ⟨t, ht, rfl⟩ := Option.map_eq_some_iff.mp h
      have hends : Ends (125 :: rest) := ⟨125, rest, rfl, Or.inr rfl⟩
      have hitem := scanMember_dumpMember depth ht hends
      rw [List.append_assoc, List.singleton_append, elements, hitem]
      simp only [skipSpace_cons (c := 125) rfl, if_true, List.map_cons, List.map_nil]
  | cons next items ih =>
      obtain ⟨fuel, rfl⟩ : ∃ n, fuel = n + 1 := ⟨fuel - 1, by omega⟩
      obtain ⟨t, ht, h⟩ := Option.bind_eq_some_iff.mp h
      obtain ⟨more, hmore, rfl⟩ := Option.map_eq_some_iff.mp h
      obtain ⟨cs, hhead⟩ := dumpMembers_head hmore
      have hends : Ends (44 :: (more ++ rest)) := ⟨44, _, rfl, Or.inl rfl⟩
      have hitem := scanMember_dumpMember depth ht hends
      have hfuel' : items.length < fuel := by simpa using hfuel
      have hmembers := ih hmore hfuel'
      have hblank : skipSpace (more ++ rest) = more ++ rest := by
        rw [hhead]
        exact skipSpace_cons rfl _
      rw [List.append_assoc, List.cons_append, elements, hitem]
      simp only [skipSpace_cons (c := 44) rfl, hblank, hmembers, List.map_cons]
      rfl

/-- The members of an object are read back from the character after its brace on. -/
theorem sequence_dumpMembers (depth : ℕ) {items : List (CodePoints × Scalar)} {text : CodePoints}
    (h : dumpMembers items = some text) (rest : CodePoints) :
    sequence 125 (scanMember (scanValue depth)) (text ++ rest) =
      .ok (items.map readBack, rest) := by
  cases items with
  | nil =>
      cases h
      rfl
  | cons item items =>
      have hlength := length_le_dumpMembers h
      obtain ⟨cs, rfl⟩ := dumpMembers_head h
      have hfuel : items.length < (34 :: (cs ++ rest)).length := by
        simp only [List.length_cons, List.length_append] at hlength ⊢
        omega
      have hscan := elements_dumpMembers depth h hfuel rest
      rw [List.cons_append] at hscan ⊢
      rw [sequence, skipSpace_cons rfl]
      simpa using hscan

/-- An object is read back from its text. -/
theorem loadsText_dumps (depth : ℕ) {members : List (CodePoints × Scalar)} {text : CodePoints}
    (h : dumps members = some text) :
    loadsText (depth + 1) text = .ok (.obj ((sortKeys members).map readBack)) := by
  obtain ⟨inner, hinner, rfl⟩ := Option.map_eq_some_iff.mp h
  have hscan := sequence_dumpMembers depth hinner []
  rw [List.append_nil] at hscan
  rw [loadsText, skipSpace_cons rfl, scanValue, scanWith]
  simp [hscan, Except.map, skipSpace]

/-- Bytes that begin with a brace and are not followed by a zero are UTF-8. -/
theorem detectEncoding_brace {b : UInt8} (hb : b ≠ 0) (bytes : Octets) :
    detectEncoding (123 :: b :: bytes) = .utf8 := by
  rcases bytes with _ | ⟨c, _ | ⟨d, bytes⟩⟩ <;> simp [detectEncoding, List.isPrefixOf, hb]

/-- The text of an object begins with a brace, and with a quote or a brace. -/
theorem dumps_head {members : List (CodePoints × Scalar)} {text : CodePoints}
    (h : dumps members = some text) : ∃ c cs, text = 123 :: c :: cs ∧ (c = 34 ∨ c = 125) := by
  obtain ⟨inner, hinner, rfl⟩ := Option.map_eq_some_iff.mp h
  rcases hmembers : sortKeys members with _ | ⟨item, items⟩
  · rw [hmembers] at hinner
    cases hinner
    exact ⟨125, [], rfl, Or.inr rfl⟩
  · rw [hmembers] at hinner
    obtain ⟨cs, rfl⟩ := dumpMembers_head hinner
    exact ⟨34, cs, rfl, Or.inl rfl⟩

/-- **Decoding undoes encoding**: what is read from the bytes of an object are its members, in the
order of their keys. -/
theorem loads_dumps (other : Encoding → Octets → Option CodePoints) (depth : ℕ)
    {members : List (CodePoints × Scalar)} {text : CodePoints} {bytes : Octets}
    (h : dumps members = some text) (hbytes : Utf8.encode text = some bytes) :
    loads other (depth + 1) bytes = .ok (.obj ((sortKeys members).map readBack)) := by
  have hdecode := Utf8.decode_encode hbytes
  have hencoding : detectEncoding bytes = .utf8 := by
    obtain ⟨c, cs, rfl, hc⟩ := dumps_head h
    have hascii : c < 0x80 := by omega
    rw [Utf8.encode_cons, Utf8.encode_cons, Utf8.encodeChar_ascii (by decide),
      Utf8.encodeChar_ascii hascii] at hbytes
    rw [Option.bind_some, Option.bind_some] at hbytes
    obtain ⟨tail, htail, rfl⟩ := Option.map_eq_some_iff.mp hbytes
    obtain ⟨tail, -, rfl⟩ := Option.map_eq_some_iff.mp htail
    refine detectEncoding_brace ?_ tail
    rcases hc with rfl | rfl <;> decide
  rw [loads, hencoding, decodeAs, hdecode]
  exact loadsText_dumps depth h

/-! ### Sizes -/

/-- How many bytes a text is written with, between its quotes. -/
def writtenSize (text : CodePoints) : ℕ := Utf8.size (text.flatMap escape)

/-- How many bytes a scalar is written with. -/
def Scalar.size : Scalar → ℕ
  | .str text => writtenSize text + 2
  | .int z => (dumpInt z).length

/-- How many bytes a member is written with, and the comma or the brace after it. -/
def memberSize (item : CodePoints × Scalar) : ℕ := writtenSize item.1 + item.2.size + 4

/-- How many bytes an object that has members is written with. -/
def objectSize (members : List (CodePoints × Scalar)) : ℕ := 1 + (members.map memberSize).sum

/-- The digits of an integer, and its sign, are a byte each. -/
theorem size_dumpInt (z : ℤ) : Utf8.size (dumpInt z) = (dumpInt z).length := by
  refine Utf8.size_ascii ((isAsciiText_iff _).mpr fun c hc => ?_)
  have hdigit : ∀ c ∈ decimal z.natAbs, c < 0x80 := by
    intro c hc
    have := (isDigit_iff c).mp (isDigit_decimal _ c hc)
    omega
  unfold dumpInt at hc
  split_ifs at hc
  · rcases List.mem_cons.mp hc with rfl | hc
    · decide
    · exact hdigit c hc
  · exact hdigit c hc

/-- The bytes of a scalar. -/
theorem size_dumpScalar {scalar : Scalar} {text : CodePoints} (h : dumpScalar scalar = some text) :
    Utf8.size text = scalar.size := by
  cases scalar with
  | str t =>
      cases h
      simp [dumpString, Scalar.size, writtenSize, Utf8.charSize]
      omega
  | int z =>
      rw [dumpScalar] at h
      split_ifs at h
      cases h
      exact size_dumpInt z

/-- The bytes of a member, and one for what follows it. -/
theorem size_dumpMember {item : CodePoints × Scalar} {text : CodePoints}
    (h : dumpMember item = some text) : Utf8.size text + 1 = memberSize item := by
  obtain ⟨value, hvalue, rfl⟩ := Option.map_eq_some_iff.mp h
  have := size_dumpScalar hvalue
  simp only [Utf8.size_append, Utf8.size_cons, dumpString, Utf8.size_nil, Utf8.charSize, memberSize,
    writtenSize, this]
  simp
  omega

/-- The bytes of the members. -/
theorem size_dumpMembers {items : List (CodePoints × Scalar)} (hne : items ≠ [])
    {text : CodePoints} (h : dumpMembers items = some text) :
    Utf8.size text = (items.map memberSize).sum := by
  induction items generalizing text with
  | nil => exact absurd rfl hne
  | cons item items ih =>
      cases items with
      | nil =>
          obtain ⟨t, ht, rfl⟩ := Option.map_eq_some_iff.mp h
          have := size_dumpMember ht
          simpa [Utf8.charSize] using this
      | cons next items =>
          obtain ⟨t, ht, h⟩ := Option.bind_eq_some_iff.mp h
          obtain ⟨more, hmore, rfl⟩ := Option.map_eq_some_iff.mp h
          have hmember := size_dumpMember ht
          have hmembers := ih (List.cons_ne_nil _ _) hmore
          rw [List.map_cons, List.sum_cons, ← hmembers, ← hmember, Utf8.size_append, Utf8.size_cons]
          simp only [Utf8.charSize]
          simp
          omega

/-- **How many bytes** an object is written with. -/
theorem size_dumps {members : List (CodePoints × Scalar)} (hne : members ≠ [])
    {text : CodePoints} (h : dumps members = some text) :
    Utf8.size text = objectSize members := by
  obtain ⟨inner, hinner, rfl⟩ := Option.map_eq_some_iff.mp h
  have hperm : (sortKeys members).Perm members := List.perm_insertionSort _ _
  have hsorted : sortKeys members ≠ [] := fun h => hne (List.nil_perm.mp (h ▸ hperm))
  rw [Utf8.size_cons, size_dumpMembers hsorted hinner, (hperm.map memberSize).sum_eq]
  rfl

/-- A character is written with at most six bytes. -/
theorem size_escape_le (c : ℕ) : Utf8.size (escape c) ≤ 6 := by
  unfold escape
  split_ifs with h
  · rcases h with rfl | rfl <;> decide
  · decide
  · decide
  · decide
  · decide
  · decide
  · next hcontrol =>
      have : ∀ c < 0x20, Utf8.size [92, 117, 48, 48, hexDigit (c / 16), hexDigit (c % 16)] ≤ 6 := by
        decide
      exact this c hcontrol
  · have := Utf8.charSize_le c
    simp only [Utf8.size_cons, Utf8.size_nil]
    omega

/-- A text of ASCII characters that need no escape is written as it is. -/
theorem writtenSize_plain {text : CodePoints}
    (h : ∀ c ∈ text, 0x20 ≤ c ∧ c < 0x80 ∧ c ≠ 34 ∧ c ≠ 92) : writtenSize text = text.length := by
  induction text with
  | nil => rfl
  | cons c text ih =>
      obtain ⟨hlow, hhigh, hquote, hbackslash⟩ := h c List.mem_cons_self
      have hrest := ih fun d hd => h d (List.mem_cons_of_mem _ hd)
      have hescape : escape c = [c] := by
        unfold escape
        split_ifs <;> first | omega | rfl
      rw [writtenSize] at hrest ⊢
      rw [List.flatMap_cons, Utf8.size_append, hescape, hrest, List.length_cons, Utf8.size_cons,
        Utf8.charSize, if_pos hhigh, Utf8.size_nil]
      omega

/-- A text is written with at most six bytes for each character. -/
theorem writtenSize_le (text : CodePoints) : writtenSize text ≤ 6 * text.length := by
  induction text with
  | nil => simp [writtenSize]
  | cons c text ih =>
      have := size_escape_le c
      rw [writtenSize] at ih ⊢
      rw [List.flatMap_cons, Utf8.size_append, List.length_cons]
      omega

/-- How many characters an integer is written with. -/
theorem length_dumpInt_le {z : ℤ} {k : ℕ} (hpos : 0 < k) (hz : z.natAbs < 10 ^ k) :
    (dumpInt z).length ≤ k + 1 := by
  have hdigits : (decimal z.natAbs).length ≤ k := by
    unfold decimal
    split_ifs
    · exact hpos
    · rw [List.length_map, List.length_reverse]
      exact (Nat.digits_length_le_iff (by decide) _).mpr hz
  unfold dumpInt
  split_ifs
  · rw [List.length_cons]
    omega
  · omega

end LibSeek.Lib.JsonText
