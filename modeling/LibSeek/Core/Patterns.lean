/-
The patterns of redaction.

Redaction replaces what five patterns match in a text: secrets, headers, addresses, Windows paths
and paths.  Three of them are a word, a separator and a body.  What they put in the place of a match
contains such words again, and the patterns are run on texts that have been redacted before, so it
matters where a pattern can find something in a text with replacements in it.

Main definitions:

* `Core.Tagged` — the rest after a word and a separator is in a given form;
* `Core.Pattern` — what is common to the five patterns;
* `Core.LawfulSpace` — what is assumed of white space;
* `Core.SecretForm`, `Core.HeaderForm` — what stands after a word in a redacted text.

Main results:

* `Core.Subst.tagged` — **tagged texts stay tagged** under a substitution whose replacements do not
  collide with the words;
* `Core.wordRule_settled` — a pattern of words finds nothing but its own replacement in a tagged
  text;
* `Core.SecretForm.subst`, `Core.HeaderForm.subst` — the forms survive every substitution.
-/

import LibSeek.Core.Ascii
import LibSeek.Core.Substitution
import Mathlib.Data.List.Forall2
import Mathlib.Data.List.Infix

set_option relaxedAutoImplicit false
set_option autoImplicit false

namespace LibSeek.Core

/-! ### Words, when case is ignored -/

/-- A small Latin letter. -/
def IsSmall (l : Char) : Prop :=
  'a' ≤ l ∧ l ≤ 'z'

instance (l : Char) : Decidable (IsSmall l) :=
  inferInstanceAs (Decidable (_ ∧ _))

/-- What matches `[a-z]` when case is ignored. -/
def isLatin (c : Char) : Bool :=
  c.isAlpha || c == 'ı' || c == 'İ' || c == 'ſ' || c == '\u212a'

/-- The letter that a character is read as. -/
def readAs (c : Char) : Char :=
  if c = 'ı' ∨ c = 'İ' then 'i'
  else if c = 'ſ' then 's'
  else if c = '\u212a' then 'k'
  else c.toLower

/-- A character is read as one letter at most, -/
theorem readAs_of_eqIgnoreCase {l c : Char} (hl : IsSmall l) (h : eqIgnoreCase l c = true) :
    readAs c = l := by
  have hne : ∀ d : Char, ¬ IsSmall d.toLower → c.toLower = l → c ≠ d := by
    rintro d hd rfl rfl
    exact hd hl
  simp only [eqIgnoreCase, Bool.or_eq_true, Bool.and_eq_true, beq_iff_eq] at h
  rcases h with ((h | ⟨rfl, rfl | rfl⟩) | ⟨rfl, rfl⟩) | ⟨rfl, rfl⟩
  · unfold readAs
    rw [if_neg (not_or.mpr ⟨hne 'ı' (by decide) h, hne 'İ' (by decide) h⟩),
      if_neg (hne 'ſ' (by decide) h), if_neg (hne '\u212a' (by decide) h), h]
  · rfl
  · rfl
  · rfl
  · rfl

/-- and it is a Latin letter then. -/
theorem isLatin_of_eqIgnoreCase {l c : Char} (hl : IsSmall l) (h : eqIgnoreCase l c = true) :
    isLatin c = true := by
  simp only [eqIgnoreCase, Bool.or_eq_true, Bool.and_eq_true, beq_iff_eq] at h
  rcases h with ((h | ⟨rfl, rfl | rfl⟩) | ⟨rfl, rfl⟩) | ⟨rfl, rfl⟩
  · have halpha : c.isAlpha = true := by
      unfold Char.toLower at h
      split at h
      · rename_i hupper
        simp only [Char.isAlpha, Bool.or_eq_true]
        exact Or.inl (by simpa [Char.isUpper] using hupper)
      · subst h
        simp only [Char.isAlpha, Bool.or_eq_true]
        exact Or.inr (by simpa [Char.isLower, IsSmall, Char.le_def] using hl)
    simp [isLatin, halpha]
  · decide
  · decide
  · decide
  · decide

/-- A word of small letters. -/
def SmallWord (w : List Char) : Prop :=
  ∀ l ∈ w, IsSmall l

instance (w : List Char) : Decidable (SmallWord w) :=
  inferInstanceAs (Decidable (∀ l ∈ w, IsSmall l))

/-- A word, as it is spelled when case is ignored. -/
def Spelled (w m : List Char) : Prop :=
  List.Forall₂ (fun l c => eqIgnoreCase l c = true) w m

/-- A word that is found at a position is spelled there. -/
theorem afterWord_eq_some {w cs v : List Char} (h : afterWord w cs = some v) :
    ∃ m, cs = m ++ v ∧ Spelled w m := by
  induction w generalizing cs with
  | nil => exact ⟨[], Option.some.inj h, .nil⟩
  | cons l w ih =>
      cases cs with
      | nil => cases h
      | cons c cs =>
          by_cases hl : eqIgnoreCase l c = true
          · rw [afterWord, if_pos hl] at h
            obtain ⟨m, rfl, hm⟩ := ih h
            exact ⟨c :: m, rfl, .cons hl hm⟩
          · rw [afterWord, if_neg hl] at h
            cases h

theorem afterWord_of_spelled {w m : List Char} (h : Spelled w m) (v : List Char) :
    afterWord w (m ++ v) = some v := by
  induction h with
  | nil => rfl
  | cons hl _ ih => rw [List.cons_append, afterWord, if_pos hl, ih]

/-- A word and a text that differ before either of them ends. -/
def clashes : List Char → List Char → Bool
  | l :: w, c :: cs => !eqIgnoreCase l c || clashes w cs
  | _, _ => false

theorem afterWord_of_clashes {w m : List Char} (h : clashes w m = true) (v : List Char) :
    afterWord w (m ++ v) = none := by
  induction w generalizing m with
  | nil => cases m <;> cases h
  | cons l w ih =>
      cases m with
      | nil => cases h
      | cons c m =>
          rw [List.cons_append, afterWord]
          by_cases hl : eqIgnoreCase l c = true
          · rw [clashes, hl] at h
            rw [if_pos hl, ih h]
          · rw [if_neg hl]

/-- Two words that differ before either of them ends. -/
def lettersClash : List Char → List Char → Bool
  | a :: w, b :: u => (a != b) || lettersClash w u
  | _, _ => false

/-- A word clashes with every spelling of a word that it differs from. -/
theorem clashes_of_spelled {w u m : List Char} (hw : SmallWord w) (hu : SmallWord u)
    (hs : Spelled u m) (h : lettersClash w u = true) : clashes w m = true := by
  induction hs generalizing w with
  | nil => cases w <;> cases h
  | @cons b c u m hb hs ih =>
      cases w with
      | nil => cases h
      | cons a w =>
          have ha : IsSmall a := hw a List.mem_cons_self
          have hb' : IsSmall b := hu b List.mem_cons_self
          rw [clashes, Bool.or_eq_true]
          rw [lettersClash, Bool.or_eq_true] at h
          rcases h with h | h
          · refine Or.inl ?_
            rw [Bool.not_eq_true', ← Bool.not_eq_true]
            intro hac
            have heq := (readAs_of_eqIgnoreCase ha hac).symm.trans (readAs_of_eqIgnoreCase hb' hb)
            exact (bne_iff_ne.mp h) heq
          · exact Or.inr (ih (fun l hl => hw l (List.mem_cons_of_mem _ hl))
              (fun l hl => hu l (List.mem_cons_of_mem _ hl)) h)

/-- A part of the end of a spelling spells a part of the end of the word. -/
theorem Spelled.of_append {u m₁ m₂ : List Char} (h : Spelled u (m₁ ++ m₂)) :
    ∃ u₁ u₂, u = u₁ ++ u₂ ∧ Spelled u₁ m₁ ∧ Spelled u₂ m₂ :=
  ⟨u.take m₁.length, u.drop m₁.length, (List.take_append_drop _ _).symm,
    List.forall₂_take_append _ _ _ h, List.forall₂_drop_append _ _ _ h⟩

/-! ### The patterns of words -/

/-- A pattern of some words, a separator and a body. -/
def wordRule (words : List String) (separator : List Char) (body : List Char → Option ℕ)
    (replacement : List Char → List Char) : Matcher := fun _ cs =>
  words.findSome? fun word => matchWord word.toList separator body replacement cs

section WordRule

variable {words : List String} {separator : List Char} {body : List Char → Option ℕ}
  {replacement : List Char → List Char} {prev : Option Char} {cs : List Char}

variable (prev) in
/-- What a pattern of words has found. -/
theorem wordRule_eq_some {n : ℕ} {r : List Char}
    (h : wordRule words separator body replacement prev cs = some (n, r)) :
    ∃ word ∈ words, ∃ m v k, cs = m ++ (separator ++ v) ∧ Spelled word.toList m ∧
      body v = some k ∧ n = m.length + separator.length + k ∧ r = replacement m := by
  obtain ⟨word, hword, h⟩ := List.exists_of_findSome?_eq_some h
  unfold matchWord at h
  cases hrest : afterWord word.toList cs with
  | none =>
      rw [hrest] at h
      cases h
  | some rest =>
      obtain ⟨m, rfl, hm⟩ := afterWord_eq_some hrest
      rw [hrest] at h
      simp only at h
      split at h
      · rename_i hsep
        obtain ⟨v, rfl⟩ := List.isPrefixOf_iff_prefix.mp hsep
        obtain ⟨k, hk, heq⟩ := Option.map_eq_some_iff.mp h
        obtain ⟨rfl, rfl⟩ := Prod.mk.inj heq
        rw [List.drop_left] at hk
        refine ⟨word, hword, m, v, k, rfl, hm, hk, ?_, ?_⟩
        · rw [hm.length_eq]
        · rw [hm.length_eq, List.take_left]
      · cases h

variable (prev) in
/-- A pattern of words finds nothing where no word is followed by the separator and a body. -/
theorem wordRule_eq_none (h : wordRule words separator body replacement prev cs = none) :
    ∀ word ∈ words, ∀ v, afterWord word.toList cs = some (separator ++ v) → body v = none := by
  intro word hword v hafter
  have hnone := List.findSome?_eq_none_iff.mp h word hword
  unfold matchWord at hnone
  rw [hafter] at hnone
  simp only [List.isPrefixOf_iff_prefix.mpr (List.prefix_append separator v), if_true,
    Option.map_eq_none_iff, List.drop_left] at hnone
  exact hnone

/-- A pattern of words finds nothing at a part of a text that every word clashes with. -/
theorem wordRule_of_clashes {m : List Char}
    (h : (words.all fun word => clashes word.toList m) = true) (v : List Char) :
    wordRule words separator body replacement prev (m ++ v) = none := by
  refine List.findSome?_eq_none_iff.mpr fun word hword => ?_
  unfold matchWord
  rw [afterWord_of_clashes (List.all_eq_true.mp h word hword) v]

end WordRule

/-! ### Runs -/

/-- A text that is at its end, or goes on with a character that is not of a class. -/
def Stops (p : Char → Bool) : List Char → Prop
  | [] => True
  | c :: _ => p c = false

theorem runOf_eq_none {p : Char → Bool} {cs : List Char} : runOf p cs = none ↔ Stops p cs := by
  cases cs with
  | nil => simp [runOf, Stops]
  | cons c cs => cases h : p c <;> simp [runOf, Stops, h]

/-- A run takes all it can. -/
theorem runOf_eq_some {p : Char → Bool} {cs : List Char} {n : ℕ} (h : runOf p cs = some n) :
    0 < n ∧ n ≤ cs.length ∧ Stops p (cs.drop n) := by
  unfold runOf at h
  simp only at h
  split at h
  · cases h
  · rename_i hne
    obtain rfl := Option.some.inj h
    refine ⟨List.length_pos_of_ne_nil hne, (List.takeWhile_prefix p).length_le, ?_⟩
    have hdrop := congrArg (List.drop (cs.takeWhile p).length)
      (List.takeWhile_append_dropWhile (p := p) (l := cs))
    rw [List.drop_left] at hdrop
    rw [← hdrop]
    cases hrest : cs.dropWhile p with
    | nil => trivial
    | cons c rest =>
        have hc := List.head_dropWhile_not p (l := cs) (by rw [hrest]; exact List.cons_ne_nil _ _)
        simpa [hrest, Stops] using hc

/-- A run takes a part of a text, and stops there. -/
theorem runOf_append {p : Char → Bool} {m z : List Char} (hm : m.all p = true) (hne : m ≠ [])
    (hz : Stops p z) : runOf p (m ++ z) = some m.length := by
  have htake : (m ++ z).takeWhile p = m := by
    rw [List.takeWhile_append_of_pos fun c hc => List.all_eq_true.mp hm c hc]
    cases z with
    | nil => rw [List.takeWhile_nil, List.append_nil]
    | cons c z => rw [List.takeWhile_cons_of_neg (by simpa [Stops] using hz), List.append_nil]
  unfold runOf
  simp only [htake, if_neg hne]

/-! ### Where matches begin -/

/-- The characters that a match can begin with. -/
def isStart (c : Char) : Bool :=
  isLatin c || c == '\\' || c == '/'

/-- A pattern whose matches begin with such a character. -/
def Starts (find : Matcher) : Prop :=
  ∀ p c cs m, find p (c :: cs) = some m → isStart c = true

theorem Starts.none {find : Matcher} (h : Starts find) {c : Char} (hc : isStart c = false)
    (p : Option Char) (cs : List Char) : find p (c :: cs) = none := by
  cases hfind : find p (c :: cs) with
  | none => rfl
  | some m => rw [h p c cs m hfind] at hc; cases hc

/-- Where a text stops, it stops after a substitution too, if no match begins there. -/
theorem Subst.stops {find : Matcher} {P : Option Char → List Char → Prop} {prev : Option Char}
    {x y : List Char} {p : Char → Bool} (h : Subst find P prev x y) (hstarts : Starts find)
    (hp : ∀ c, p c = false → isStart c = false) (hx : Stops p x) : Stops p y := by
  cases h with
  | nil => trivial
  | keep => exact hx
  | replace hfind =>
      have hnone := hstarts.none (hp _ hx) prev
      rw [hnone] at hfind
      cases hfind

/-! ### Tagged texts -/

/-- Wherever one of some words is followed by a separator, the rest is in a given form. -/
def Tagged (words : List String) (separator : List Char) (T : List Char → Prop)
    (cs : List Char) : Prop :=
  ∀ word ∈ words, ∀ v, afterWord word.toList cs = some (separator ++ v) → T v

/-- What a pattern puts in the place of a match: a spelling of one of some words, and a mark. -/
def ReplacesBy (find : Matcher) (words : List String) (mark : List Char) : Prop :=
  ∀ p c cs n r, find p (c :: cs) = some (n, r) →
    ∃ word ∈ words, ∃ m, Spelled word.toList m ∧ r = m ++ mark

/-- Words that no part of a replacement can be taken for, but for a word that the replacement
begins with: neither from a position inside of it, nor from a position before it. -/
def collisionFree (words replaced : List String) (mark : List Char) : Bool :=
  words.all fun w => w != "" && w.toList.all (fun l => 'a' ≤ l && l ≤ 'z') &&
    (mark.tails.all fun t => t == [] || clashes w.toList t) &&
    replaced.all fun u => u.toList.all (fun l => 'a' ≤ l && l ≤ 'z') &&
      (u.toList.tails.all fun t =>
        t == [] || lettersClash w.toList t || (t == u.toList && w == u)) &&
      (w.toList.tails.all fun t =>
        t == [] || t == w.toList || lettersClash t u.toList || (u == "" && clashes t mark))

/-- What freedom of collisions says. -/
structure CollisionFree (words replaced : List String) (mark : List Char) : Prop where
  nonempty : ∀ w ∈ words, w.toList ≠ []
  small : ∀ w ∈ words, SmallWord w.toList
  replaced_small : ∀ w ∈ words, ∀ u ∈ replaced, SmallWord u.toList
  mark_clashes : ∀ w ∈ words, ∀ t, t <:+ mark → t ≠ [] → clashes w.toList t = true
  inside : ∀ w ∈ words, ∀ u ∈ replaced, ∀ t, t <:+ u.toList → t ≠ [] →
    lettersClash w.toList t = true ∨ (t = u.toList ∧ w = u)
  before : ∀ w ∈ words, ∀ u ∈ replaced, ∀ t, t <:+ w.toList → t ≠ [] → t ≠ w.toList →
    lettersClash t u.toList = true ∨ (u = "" ∧ clashes t mark = true)

theorem collisionFree_spec {words replaced : List String} {mark : List Char}
    (h : collisionFree words replaced mark = true) : CollisionFree words replaced mark := by
  simp only [collisionFree, List.all_eq_true, Bool.and_eq_true, Bool.or_eq_true,
    List.mem_tails, beq_iff_eq, bne_iff_ne, decide_eq_true_eq] at h
  constructor
  · intro w hw hempty
    exact (h w hw).1.1.1 (String.toList_inj.mp hempty)
  · exact fun w hw => (h w hw).1.1.2
  · exact fun w hw u hu => ((h w hw).2 u hu).1.1
  · exact fun w hw t ht hne => ((h w hw).1.2 t ht).resolve_left hne
  · intro w hw u hu t ht hne
    rcases ((h w hw).2 u hu).1.2 t ht with (hnil | hclash) | hsame
    · exact absurd hnil hne
    · exact Or.inl hclash
    · exact Or.inr hsame
  · intro w hw u hu t ht hne hproper
    rcases ((h w hw).2 u hu).2 t ht with ((hnil | hwhole) | hclash) | hmark
    · exact absurd hnil hne
    · exact absurd hwhole hproper
    · exact Or.inl hclash
    · exact Or.inr hmark

section Tagged

variable {find : Matcher} {words replaced : List String} {separator mark : List Char}
  {T : List Char → Prop}

/-- The end of a word is not found at a replacement. -/
theorem afterWord_replacement {w : String} (hw : w ∈ words)
    (hfree : CollisionFree words replaced mark) (hby : ReplacesBy find replaced mark)
    {t : List Char} (ht : t <:+ w.toList) (hne : t ≠ []) (hproper : t ≠ w.toList)
    {p : Option Char} {c : Char} {cs r : List Char} {n : ℕ}
    (hfind : find p (c :: cs) = some (n, r)) (ds : List Char) : afterWord t (r ++ ds) = none := by
  obtain ⟨u, hu, m, hm, rfl⟩ := hby _ _ _ _ _ hfind
  rw [List.append_assoc]
  rcases hfree.before w hw u hu t ht hne hproper with hclash | ⟨rfl, hclash⟩
  · have hsmall : SmallWord t := fun l hl => hfree.small w hw l (ht.subset hl)
    exact afterWord_of_clashes
      (clashes_of_spelled hsmall (hfree.replaced_small w hw u hu) hm hclash) _
  · obtain rfl : m = [] := List.forall₂_nil_left_iff.mp hm
    exact afterWord_of_clashes hclash _

/-- A replacement does not begin with a character of the separator. -/
theorem head_replacement {w : String} (hw : w ∈ words)
    (hfree : CollisionFree words replaced mark) (hby : ReplacesBy find replaced mark) {d b : Char}
    {tail : List Char} (hmark : mark = b :: tail) (hd : isLatin d = false)
    (hdb : "" ∈ replaced → b ≠ d) {p : Option Char} {c : Char} {cs r : List Char} {n : ℕ}
    (hfind : find p (c :: cs) = some (n, r)) : ∃ b t, r = b :: t ∧ b ≠ d := by
  obtain ⟨u, hu, m, hm, rfl⟩ := hby _ _ _ _ _ hfind
  have hsmall := hfree.replaced_small w hw u hu
  generalize hword : u.toList = letters at hm hsmall
  cases hm with
  | nil =>
      obtain rfl : u = "" := String.toList_inj.mp hword
      exact ⟨b, tail, hmark, hdb hu⟩
  | @cons l e letters m hl hm =>
      refine ⟨e, m ++ mark, rfl, ?_⟩
      rintro rfl
      rw [isLatin_of_eqIgnoreCase (hsmall l List.mem_cons_self) hl] at hd
      cases hd

/-- A pattern of words finds nothing but its own replacement in a tagged text. -/
theorem wordRule_settled {words : List String} {separator : List Char} {T : List Char → Prop}
    {body : List Char → Option ℕ} {replacement : List Char → List Char} (prev : Option Char)
    {cs : List Char}
    (hT : ∀ m v k, T v → body v = some k → replacement m = m ++ (separator ++ v.take k))
    (h : Tagged words separator T cs) {n : ℕ} {r : List Char}
    (hfind : wordRule words separator body replacement prev cs = some (n, r)) : r = cs.take n := by
  obtain ⟨w, hw, m, v, k, rfl, hm, hk, rfl, rfl⟩ := wordRule_eq_some prev hfind
  rw [hT m v k (h w hw v (afterWord_of_spelled hm _)) hk, Nat.add_assoc, List.take_length_add_append,
    List.take_length_add_append]

/-- **Tagged texts stay tagged**, if the words do not collide with the replacements, and the form of
the rest survives the substitution. -/
theorem Subst.tagged (hfree : CollisionFree words replaced mark)
    (hby : ReplacesBy find replaced mark) {b : Char} {tail : List Char} (hmark : mark = b :: tail)
    (hsep : ∀ d ∈ separator, isLatin d = false ∧ ("" ∈ replaced → b ≠ d))
    (hT : ∀ p v v', Subst find (fun _ cs => Tagged words separator T cs) p v v' → T v → T v')
    (hown : ∀ p c cs n r ds, find p (c :: cs) = some (n, r) →
      Subst find (fun _ cs => Tagged words separator T cs) ((c :: cs).take n).getLast?
        ((c :: cs).drop n) ds →
      ∀ word ∈ words, word ∈ replaced → ∀ v, mark ++ ds = separator ++ v → T v)
    {prev : Option Char} {x y : List Char}
    (h : Subst find (fun _ cs => Tagged words separator T cs) prev x y) :
    Everywhere (fun _ cs => Tagged words separator T cs) prev y := by
  have hkeep : ∀ c cs ds, Tagged words separator T (c :: cs) →
      Subst find (fun _ cs => Tagged words separator T cs) (some c) cs ds →
      Tagged words separator T (c :: ds) := by
    intro c cs ds htagged hs w hw v hv
    -- the word begins with the character kept, and its other letters are kept as well
    obtain ⟨l, u, hlu⟩ := List.exists_cons_of_ne_nil (hfree.nonempty w hw)
    rw [hlu, afterWord] at hv
    split at hv
    · rename_i hl
      have hclash : ∀ t, t <:+ u → t ≠ [] → ∀ p c cs n r ds, find p (c :: cs) = some (n, r) →
          afterWord t (r ++ ds) = none := by
        intro t ht hne p c cs n r ds hfind
        refine afterWord_replacement hw hfree hby ?_ hne ?_ hfind ds
        · rw [hlu]
          exact ht.trans (List.suffix_cons l u)
        · intro heq
          have hlength := ht.length_le
          rw [heq, hlu, List.length_cons] at hlength
          omega
      obtain ⟨rest, p, hrest, hs'⟩ := hs.of_afterWord hv hclash
      obtain ⟨v', p', rfl, hs''⟩ := hs'.of_append fun d hd p c cs n r hfind =>
        head_replacement hw hfree hby hmark (hsep d hd).1 (hsep d hd).2 hfind
      refine hT p' v' v hs'' (htagged w hw v' ?_)
      rw [hlu, afterWord, if_pos hl, hrest]
    · cases hv
  refine h.everywhere (fun _ c cs ds _ => hkeep c cs ds)
    (fun _ c cs ds _ _ hP hs _ => hkeep c cs ds hP hs) ?_ prev (Or.inl rfl)
  intro p c cs n r ds hfind hs r₁ r₂ hr hne _ w hw v hv
  obtain ⟨u, hu, m, hm, rfl⟩ := hby _ _ _ _ _ hfind
  rcases List.append_eq_append_iff.mp hr with ⟨m', rfl, rfl⟩ | ⟨m', rfl, hsuffix⟩
  · -- inside of the mark
    have hclash := hfree.mark_clashes w hw r₂ (List.suffix_append _ _) hne
    rw [afterWord_of_clashes hclash] at hv
    cases hv
  · obtain ⟨u₁, u₂, hu₁₂, -, hm₂⟩ := hm.of_append
    subst hsuffix
    cases hm' : m' with
    | nil =>
        rw [hm', List.nil_append] at hv hne
        rw [afterWord_of_clashes (hfree.mark_clashes w hw mark (List.suffix_refl _) hne)] at hv
        cases hv
    | cons e m'' =>
        -- inside of the word of the replacement, or at its beginning
        have hu₂ : u₂ ≠ [] := by
          rintro rfl
          rw [hm'] at hm₂
          cases hm₂
        rcases hfree.inside w hw u hu u₂ ⟨u₁, hu₁₂.symm⟩ hu₂ with hclash | ⟨rfl, rfl⟩
        · have hsmall : SmallWord u₂ := fun l hl =>
            hfree.replaced_small w hw u hu l (hu₁₂ ▸ List.mem_append_right u₁ hl)
          have hclash' := clashes_of_spelled (hfree.small w hw) hsmall hm₂ hclash
          rw [List.append_assoc, afterWord_of_clashes hclash'] at hv
          cases hv
        · rw [List.append_assoc, afterWord_of_spelled hm₂] at hv
          exact hown p c cs n _ ds hfind hs w hw hu v (Option.some.inj hv)

end Tagged

/-! ### The five patterns -/

/-- A part of a text at none of whose positions a pattern finds anything, whatever follows. -/
def Inert (find : Matcher) (m : List Char) : Prop :=
  ∀ m₁ m₂, m = m₁ ++ m₂ → m₂ ≠ [] → ∀ p z, find p (m₂ ++ z) = none

theorem Inert.suffix {find : Matcher} {m t : List Char} (h : Inert find m) (ht : t <:+ m) :
    Inert find t := by
  obtain ⟨s, rfl⟩ := ht
  rintro m₁ m₂ rfl hne p z
  exact h (s ++ m₁) m₂ (List.append_assoc ..).symm hne p z

/-- What stands for a redacted header. -/
def redactedHeader : List Char :=
  " [REDACTED]".toList

/-- What is common to the five patterns: a match is not empty and begins with a letter, a backslash
or a slash, what replaces it is a word and a mark, and nothing is found in the texts that stand for
a secret. -/
structure Pattern (find : Matcher) (replaced : List String) (mark : List Char) : Prop where
  pos : ∀ p cs n r, find p cs = some (n, r) → 0 < n
  starts : Starts find
  inert : Inert find redactedHeader
  replaces : ReplacesBy find replaced mark

/-- A pattern of words is such a pattern. -/
theorem wordRule_pattern {words : List String} {separator mark : List Char}
    {body : List Char → Option ℕ} (hsep : separator ≠ [])
    (hinert : (redactedHeader.tails.all fun t => t == [] || words.all fun w =>
      clashes w.toList t) = true)
    (hwords : (words.all fun w => w != "" && w.toList.all fun l => 'a' ≤ l && l ≤ 'z') = true)
    {replaced : List String} {replacement : List Char → List Char}
    (hreplaces : ∀ w ∈ words, ∀ m, Spelled w.toList m →
      ∃ u ∈ replaced, ∃ m', Spelled u.toList m' ∧ replacement m = m' ++ mark) :
    Pattern (wordRule words separator body replacement) replaced mark where
  pos p cs n r h := by
    obtain ⟨-, -, m, v, k, -, -, -, rfl, -⟩ := wordRule_eq_some p h
    have hlength := List.length_pos_of_ne_nil hsep
    omega
  starts p c cs found h := by
    obtain ⟨n, r⟩ := found
    obtain ⟨w, hw, m, v, k, hcs, hm, -, -, -⟩ := wordRule_eq_some p h
    have hword := List.all_eq_true.mp hwords w hw
    simp only [Bool.and_eq_true, bne_iff_ne, List.all_eq_true, decide_eq_true_eq] at hword
    generalize hletters : w.toList = letters at hm hword
    cases hm with
    | nil => exact absurd (String.toList_inj.mp hletters) hword.1
    | @cons l e letters m hl hm =>
        obtain ⟨rfl, -⟩ := List.cons.inj hcs
        have hlatin := isLatin_of_eqIgnoreCase (hword.2 l List.mem_cons_self) hl
        simp [isStart, hlatin]
  inert m₁ m₂ hm hne p z := by
    refine wordRule_of_clashes ?_ z
    have hall := List.all_eq_true.mp hinert m₂ ((List.mem_tails _ _).mpr ⟨m₁, hm.symm⟩)
    simpa [hne] using hall
  replaces p c cs n r h := by
    obtain ⟨w, hw, m, -, -, -, hm, -, -, rfl⟩ := wordRule_eq_some p h
    exact hreplaces w hw m hm

section Patterns

variable [Python]

/-- The classes of the characters that the bodies of the patterns take. -/
def isSecretChar (c : Char) : Bool :=
  c != '&' && !Python.isspace c

omit [Python] in
def isLineChar (c : Char) : Bool :=
  c != '\r' && c != '\n'

def isUrlChar (c : Char) : Bool :=
  !Python.isspace c && c != '<' && c != '>' && c.toNat != 39 && c.toNat != 34

omit [Python] in
def isWindowsChar (c : Char) : Bool :=
  c != '\r' && c != '\n' && c != ',' && c != ';'

def isPathChar (c : Char) : Bool :=
  !Python.isspace c && c != ',' && c != ';'

def isNameChar (c : Char) : Bool :=
  c != '/' && isPathChar c

def secretMark : List Char := "=[REDACTED]".toList
def headerMark : List Char := ": [REDACTED]".toList
def urlMark : List Char := "[URL_REDACTED]".toList
def pathMark : List Char := "[PATH_REDACTED]".toList

theorem findSecret_eq : findSecret = wordRule ["passkey", "token", "pid"] ['=']
    (runOf isSecretChar) (fun m => m ++ secretMark) :=
  rfl

theorem findHeader_eq : findHeader = wordRule ["authorization", "cookie"] [':'] headerBody
    (fun m => m ++ headerMark) :=
  rfl

theorem findUrl_eq : findUrl = wordRule ["https", "http"] [':', '/', '/'] (runOf isUrlChar)
    (fun _ => urlMark) :=
  rfl

theorem findSecret_pattern : Pattern findSecret ["passkey", "token", "pid"] secretMark := by
  rw [findSecret_eq]
  refine wordRule_pattern (List.cons_ne_nil _ _) (by decide) (by decide) fun w hw m hm => ?_
  exact ⟨w, hw, m, hm, rfl⟩

theorem findHeader_pattern : Pattern findHeader ["authorization", "cookie"] headerMark := by
  rw [findHeader_eq]
  refine wordRule_pattern (List.cons_ne_nil _ _) (by decide) (by decide) fun w hw m hm => ?_
  exact ⟨w, hw, m, hm, rfl⟩

theorem findUrl_pattern : Pattern findUrl [""] urlMark := by
  rw [findUrl_eq]
  refine wordRule_pattern (List.cons_ne_nil _ _) (by decide) (by decide) fun w hw m hm => ?_
  exact ⟨"", List.mem_singleton_self _, [], .nil, rfl⟩

/-! ### The patterns of paths -/

omit [Python] in
/-- What a Windows path begins with, and the rest. -/
inductive WindowsLead : List Char → List Char → Prop
  | drive {letter slash : Char} {v : List Char} (hletter : isLatin letter = true)
      (hslash : slash = '\\' ∨ slash = '/') : WindowsLead (letter :: ':' :: slash :: v) v
  | share {v : List Char} : WindowsLead ('\\' :: '\\' :: v) v

/-- The pattern of the Windows paths finds nothing after a character of a word, and where no path
that begins has a rest. -/
theorem findWindowsPath_eq_none {prev : Option Char} {cs : List Char} :
    findWindowsPath prev cs = none ↔
      prev.any isWordChar = true ∨ ∀ v, WindowsLead cs v → Stops isWindowsChar v := by
  unfold findWindowsPath
  by_cases hprev : prev.any isWordChar = true
  · simp [hprev]
  · simp only [hprev, Option.or_eq_none_iff, false_or, Bool.false_eq_true, if_false]
    constructor
    · rintro ⟨hdrive, hshare⟩ v hlead
      cases hlead with
      | @drive letter slash v hletter hslash =>
          have hcond : ((letter.isAlpha || letter == 'ı' || letter == 'İ' || letter == 'ſ' ||
              letter == '\u212a') && (slash == '\\' || slash == '/')) = true := by
            refine Bool.and_eq_true_iff.mpr ⟨hletter, ?_⟩
            rcases hslash with rfl | rfl <;> decide
          exact runOf_eq_none.mp (Option.map_eq_none_iff.mp ((if_pos hcond).symm.trans hdrive))
      | share =>
          exact runOf_eq_none.mp (Option.map_eq_none_iff.mp hshare)
    · intro h
      refine ⟨?_, ?_⟩
      · split
        · rename_i letter slash rest
          split
          · rename_i hcond
            obtain ⟨hletter, hslash⟩ := Bool.and_eq_true_iff.mp hcond
            rw [Option.map_eq_none_iff]
            refine runOf_eq_none.mpr (h rest (.drive hletter ?_))
            simpa using hslash
          · rfl
        · rfl
      · split
        · rename_i rest
          rw [Option.map_eq_none_iff]
          exact runOf_eq_none.mpr (h rest .share)
        · rfl

/-- What the pattern of the Windows paths finds. -/
theorem findWindowsPath_eq_some {prev : Option Char} {cs r : List Char} {n : ℕ}
    (h : findWindowsPath prev cs = some (n, r)) :
    r = pathMark ∧ ∃ v k, WindowsLead cs v ∧ runOf isWindowsChar v = some k ∧
      cs.drop n = v.drop k ∧ 0 < n := by
  unfold findWindowsPath at h
  split at h
  · cases h
  · rcases Option.or_eq_some_iff.mp h with hdrive | ⟨-, hshare⟩
    · split at hdrive
      · rename_i letter slash rest
        split at hdrive
        · rename_i hcond
          obtain ⟨hletter, hslash⟩ := Bool.and_eq_true_iff.mp hcond
          obtain ⟨k, hk, heq⟩ := Option.map_eq_some_iff.mp hdrive
          obtain ⟨rfl, rfl⟩ := Prod.mk.inj heq
          refine ⟨rfl, rest, k, .drive hletter (by simpa using hslash), hk, ?_, by omega⟩
          rw [Nat.add_comm]
          rfl
        · cases hdrive
      · cases hdrive
    · split at hshare
      · rename_i rest
        obtain ⟨k, hk, heq⟩ := Option.map_eq_some_iff.mp hshare
        obtain ⟨rfl, rfl⟩ := Prod.mk.inj heq
        refine ⟨rfl, rest, k, .share, hk, ?_, by omega⟩
        rw [Nat.add_comm]
        rfl
      · cases hshare

/-- A text at which no Windows path begins, whatever follows. -/
def noWindowsLead : List Char → Bool
  | [] => false
  | [c] => !isLatin c && c != '\\'
  | c :: d :: _ => d != ':' && c != '\\'

omit [Python] in
theorem not_windowsLead {t z v : List Char} (h : noWindowsLead t = true) :
    ¬ WindowsLead (t ++ z) v := by
  intro hlead
  match t, h with
  | [c], h =>
      simp only [noWindowsLead, Bool.and_eq_true, Bool.not_eq_true', bne_iff_ne] at h
      generalize hcs : [c] ++ z = cs at hlead
      cases hlead with
      | drive hletter _ =>
          obtain ⟨rfl, -⟩ := List.cons.inj hcs
          rw [h.1] at hletter
          cases hletter
      | share => exact h.2 (List.cons.inj hcs).1
  | c :: d :: t, h =>
      simp only [noWindowsLead, Bool.and_eq_true, bne_iff_ne] at h
      generalize hcs : c :: d :: t ++ z = cs at hlead
      cases hlead with
      | drive => exact h.1 (List.cons.inj (List.cons.inj hcs).2).1
      | share => exact h.2 (List.cons.inj hcs).1

theorem findWindowsPath_pattern : Pattern findWindowsPath [""] pathMark where
  pos p cs n r h := by
    obtain ⟨-, v, k, -, -, -, hn⟩ := findWindowsPath_eq_some h
    exact hn
  starts p c cs found h := by
    obtain ⟨n, r⟩ := found
    obtain ⟨-, v, k, hlead, -⟩ := findWindowsPath_eq_some h
    cases hlead with
    | drive hletter => simp [isStart, hletter]
    | share => decide
  inert m₁ m₂ hm hne p z := by
    refine findWindowsPath_eq_none.mpr (Or.inr fun v hlead => ?_)
    have hall : (redactedHeader.tails.all fun t => t == [] || noWindowsLead t) = true := by decide
    have hnone := List.all_eq_true.mp hall m₂ ((List.mem_tails _ _).mpr ⟨m₁, hm.symm⟩)
    exact absurd hlead (not_windowsLead (by simpa [hne] using hnone))
  replaces p c cs n r h := by
    obtain ⟨rfl, -⟩ := findWindowsPath_eq_some h
    exact ⟨"", List.mem_singleton_self _, [], .nil, rfl⟩

/-- After which characters no path begins. -/
def blocksPath (prev : Option Char) : Bool :=
  prev.any fun c => isWordChar c || c == ':'

/-- The pattern of the paths finds nothing after such a character, and where no slash is followed by
a name. -/
theorem findPosixPath_eq_none {prev : Option Char} {cs : List Char} :
    findPosixPath prev cs = none ↔
      blocksPath prev = true ∨ ∀ v, cs = '/' :: v → Stops isNameChar v := by
  unfold findPosixPath
  by_cases hprev : blocksPath prev = true
  · simp [hprev, show (prev.any fun c => isWordChar c || c == ':') = true from hprev]
  · simp only [show ¬ (prev.any fun c => isWordChar c || c == ':') = true from hprev, hprev,
      Bool.false_eq_true, if_false, false_or]
    constructor
    · rintro h v rfl
      exact runOf_eq_none.mp (Option.map_eq_none_iff.mp h)
    · intro h
      split
      · rename_i rest
        exact Option.map_eq_none_iff.mpr (runOf_eq_none.mpr (h rest rfl))
      · rfl

/-- What the pattern of the paths finds: a name after a slash.  It ends at the end of the text, at
white space, a comma or a semicolon, or at a slash that is followed by one of these. -/
theorem findPosixPath_eq_some {prev : Option Char} {cs r : List Char} {n : ℕ}
    (h : findPosixPath prev cs = some (n, r)) :
    r = pathMark ∧ 0 < n ∧ (∃ v, cs = '/' :: v ∧ ¬ Stops isNameChar v) ∧
      (Stops isPathChar (cs.drop n) ∨ ∃ more, cs.drop n = '/' :: more ∧ Stops isPathChar more) := by
  unfold findPosixPath at h
  split at h
  · cases h
  · split at h
    · rename_i rest
      obtain ⟨k, hk, heq⟩ := Option.map_eq_some_iff.mp h
      obtain ⟨rfl, rfl⟩ := Prod.mk.inj heq
      have hk' : runOf isNameChar rest = some k := hk
      obtain ⟨hpos, hle, hstops⟩ := runOf_eq_some hk'
      refine ⟨rfl, by omega, ⟨rest, rfl, fun hno => ?_⟩, ?_⟩
      · rw [runOf_eq_none.mpr hno] at hk'
        cases hk'
      · have hdrop : ∀ t : ℕ, ('/' :: rest).drop (1 + k + t) = (rest.drop k).drop t := by
          intro t
          rw [List.drop_drop, show 1 + k + t = (k + t) + 1 by omega, List.drop_succ_cons]
        rw [hdrop]
        generalize rest.drop k = after at hstops
        cases after with
        | nil => exact Or.inl trivial
        | cons c more =>
            by_cases hc : c = '/'
            · subst hc
              cases hmore : runOf isPathChar more with
              | none =>
                  have htail : (Option.map (1 + ·) (runOf isPathChar more)).getD 0 = 0 := by
                    rw [hmore]
                    rfl
                  refine Or.inr ⟨more, ?_, runOf_eq_none.mp hmore⟩
                  exact congrArg (List.drop · ('/' :: more)) htail
              | some j =>
                  have htail : (Option.map (1 + ·) (runOf isPathChar more)).getD 0 = 1 + j := by
                    rw [hmore]
                    rfl
                  have hdone : ('/' :: more).drop (1 + j) = more.drop j := by
                    rw [Nat.add_comm, List.drop_succ_cons]
                  refine Or.inl ?_
                  have hstop := (runOf_eq_some hmore).2.2
                  rw [← hdone, ← htail] at hstop
                  exact hstop
            · -- the name ends at a character that ends a path as well
              have hend : isPathChar c = false := by
                have hname : isNameChar c = false := hstops
                simpa [isNameChar, hc] using hname
              refine Or.inl ?_
              split
              · rename_i more' heq
                exact absurd (List.cons.inj heq).1 hc
              · exact hend
    · cases h

theorem findPosixPath_pattern : Pattern findPosixPath [""] pathMark where
  pos p cs n r h := by
    obtain ⟨-, hn, -⟩ := findPosixPath_eq_some h
    exact hn
  starts p c cs found h := by
    obtain ⟨n, r⟩ := found
    obtain ⟨-, -, ⟨v, hcs, -⟩, -⟩ := findPosixPath_eq_some h
    obtain ⟨rfl, -⟩ := List.cons.inj hcs
    decide
  inert m₁ m₂ hm hne p z := by
    refine findPosixPath_eq_none.mpr (Or.inr fun v hv => ?_)
    have hall : (redactedHeader.tails.all fun t => t.head? != some '/') = true := by decide
    have hhead := List.all_eq_true.mp hall m₂ ((List.mem_tails _ _).mpr ⟨m₁, hm.symm⟩)
    obtain ⟨c, t, rfl⟩ := List.exists_cons_of_ne_nil hne
    obtain ⟨rfl, -⟩ := List.cons.inj hv
    simp at hhead
  replaces p c cs n r h := by
    obtain ⟨rfl, -⟩ := findPosixPath_eq_some h
    exact ⟨"", List.mem_singleton_self _, [], .nil, rfl⟩

/-! ### White space -/

/-- What is assumed of `str.isspace`: letters, slashes, backslashes and brackets are no white space,
and the ends of lines are. -/
class LawfulSpace : Prop where
  isspace_start : ∀ c, isStart c = true → Python.isspace c = false
  isspace_bracket : Python.isspace '[' = false ∧ Python.isspace ']' = false
  isspace_lineBreak : Python.isspace '\r' = true ∧ Python.isspace '\n' = true

variable [LawfulSpace]

theorem isStart_of_isspace {c : Char} (h : Python.isspace c = true) : isStart c = false := by
  rw [← Bool.not_eq_true]
  intro hstart
  rw [LawfulSpace.isspace_start c hstart] at h
  cases h

/-- Where a secret, a header, an address or a path stops, no match begins. -/
theorem isStart_of_not_secretChar {c : Char} (h : isSecretChar c = false) : isStart c = false := by
  simp only [isSecretChar, Bool.and_eq_false_iff, bne_eq_false_iff_eq, Bool.not_eq_false'] at h
  rcases h with rfl | h
  · decide
  · exact isStart_of_isspace h

omit [Python] [LawfulSpace] in
theorem isStart_of_not_lineChar {c : Char} (h : isLineChar c = false) : isStart c = false := by
  simp only [isLineChar, Bool.and_eq_false_iff, bne_eq_false_iff_eq] at h
  rcases h with rfl | rfl <;> decide

theorem isStart_of_not_urlChar {c : Char} (h : isUrlChar c = false) : isStart c = false := by
  simp only [isUrlChar, Bool.and_eq_false_iff, bne_eq_false_iff_eq, Bool.not_eq_false'] at h
  rcases h with (((h | rfl) | rfl) | h) | h
  · exact isStart_of_isspace h
  · decide
  · decide
  · obtain rfl : c = Char.ofNat 39 := by rw [← h, Char.ofNat_toNat]
    decide
  · obtain rfl : c = Char.ofNat 34 := by rw [← h, Char.ofNat_toNat]
    decide

omit [Python] [LawfulSpace] in
theorem isStart_of_not_windowsChar {c : Char} (h : isWindowsChar c = false) :
    isStart c = false := by
  simp only [isWindowsChar, Bool.and_eq_false_iff, bne_eq_false_iff_eq] at h
  rcases h with ((rfl | rfl) | rfl) | rfl <;> decide

theorem isStart_of_not_pathChar {c : Char} (h : isPathChar c = false) : isStart c = false := by
  simp only [isPathChar, Bool.and_eq_false_iff, bne_eq_false_iff_eq, Bool.not_eq_false'] at h
  rcases h with (h | rfl) | rfl
  · exact isStart_of_isspace h
  · decide
  · decide

/-! ### What stands after a word -/

/-- What stands for a redacted secret. -/
def redactedSecret : List Char :=
  "[REDACTED]".toList

/-- After the word of a secret: no secret, or a redacted one. -/
def SecretForm (v : List Char) : Prop :=
  Stops isSecretChar v ∨ ∃ z, v = redactedSecret ++ z ∧ Stops isSecretChar z

/-- After the name of a header: no value, or a redacted one. -/
def HeaderForm (v : List Char) : Prop :=
  (∀ c ∈ v, isLineChar c = false) ∨ ∃ z, v = redactedHeader ++ z ∧ Stops isLineChar z

section Forms

variable {find : Matcher} {replaced : List String} {mark : List Char}
  {P : Option Char → List Char → Prop} {prev : Option Char} {v v' : List Char}

theorem SecretForm.subst (hfind : Pattern find replaced mark) (h : Subst find P prev v v')
    (hv : SecretForm v) : SecretForm v' := by
  rcases hv with hv | ⟨z, rfl, hz⟩
  · exact Or.inl (h.stops hfind.starts (fun _ => isStart_of_not_secretChar) hv)
  · have hinert : Inert find redactedSecret := hfind.inert.suffix ⟨[' '], rfl⟩
    obtain ⟨z', p, rfl, hs⟩ := h.append fun m₁ m₂ hm hne p => hinert m₁ m₂ hm hne p z
    exact Or.inr ⟨z', rfl, hs.stops hfind.starts (fun _ => isStart_of_not_secretChar) hz⟩

omit [Python] [LawfulSpace] in
theorem HeaderForm.subst (hfind : Pattern find replaced mark) (h : Subst find P prev v v')
    (hv : HeaderForm v) : HeaderForm v' := by
  rcases hv with hv | ⟨z, rfl, hz⟩
  · -- the ends of lines are kept
    rw [← List.append_nil v] at h
    obtain ⟨z', p, rfl, hs⟩ := h.append fun m₁ m₂ hm hne p => by
      obtain ⟨c, t, rfl⟩ := List.exists_cons_of_ne_nil hne
      have hc : c ∈ v := hm ▸ List.mem_append_right m₁ List.mem_cons_self
      exact hfind.starts.none (isStart_of_not_lineChar (hv c hc)) p _
    cases hs with
    | nil => exact Or.inl (by rwa [List.append_nil])
  · obtain ⟨z', p, rfl, hs⟩ := h.append fun m₁ m₂ hm hne p => hfind.inert m₁ m₂ hm hne p z
    exact Or.inr ⟨z', rfl, hs.stops hfind.starts (fun _ => isStart_of_not_lineChar) hz⟩

/-- No character of a redacted secret is white space. -/
theorem isspace_redactedSecret : ∀ c ∈ redactedSecret, Python.isspace c = false := by
  intro c hc
  have hall : (redactedSecret.all fun c => isStart c || c == '[' || c == ']') = true := by decide
  have hcases := List.all_eq_true.mp hall c hc
  simp only [Bool.or_eq_true, beq_iff_eq] at hcases
  rcases hcases with (hstart | rfl) | rfl
  · exact LawfulSpace.isspace_start c hstart
  · exact LawfulSpace.isspace_bracket.1
  · exact LawfulSpace.isspace_bracket.2

/-- A redacted secret is all that the body of the pattern takes. -/
theorem SecretForm.take {k : ℕ} (hv : SecretForm v) (hk : runOf isSecretChar v = some k) :
    v.take k = redactedSecret := by
  rcases hv with hv | ⟨z, rfl, hz⟩
  · rw [runOf_eq_none.mpr hv] at hk
    cases hk
  · have hall : redactedSecret.all isSecretChar = true := by
      refine List.all_eq_true.mpr fun c hc => ?_
      have hne : redactedSecret.all (· != '&') = true := by decide
      rw [isSecretChar, List.all_eq_true.mp hne c hc, isspace_redactedSecret c hc]
      rfl
    rw [runOf_append hall (by decide) hz] at hk
    obtain rfl := Option.some.inj hk
    exact List.take_left

omit [LawfulSpace] in
/-- What the body of a header takes: some blanks, and a run to the end of the line. -/
theorem headerBody_eq_some {k : ℕ} (h : headerBody v = some k) :
    ∃ j n, j ≤ (v.takeWhile Python.isspace).length ∧ runOf isLineChar (v.drop j) = some n ∧
      k = j + n := by
  obtain ⟨j, hj, h⟩ := List.exists_of_findSome?_eq_some h
  obtain ⟨n, hn, rfl⟩ := Option.map_eq_some_iff.mp h
  rw [List.mem_reverse, List.mem_range] at hj
  exact ⟨j, n, by omega, hn, rfl⟩

/-- Where there is no value there are ends of lines only. -/
theorem lineBreaks_of_headerBody (h : headerBody v = none) : ∀ c ∈ v, isLineChar c = false := by
  have hstops : ∀ j ≤ (v.takeWhile Python.isspace).length, Stops isLineChar (v.drop j) := by
    intro j hj
    have hmem : j ∈ (List.range ((v.takeWhile Python.isspace).length + 1)).reverse := by
      rw [List.mem_reverse, List.mem_range]
      omega
    exact runOf_eq_none.mp (Option.map_eq_none_iff.mp (List.findSome?_eq_none_iff.mp h j hmem))
  clear h
  induction v with
  | nil => exact fun c hc => absurd hc List.not_mem_nil
  | cons b v ih =>
      have hb : isLineChar b = false := hstops 0 (Nat.zero_le _)
      have hspace : Python.isspace b = true := by
        simp only [isLineChar, Bool.and_eq_false_iff, bne_eq_false_iff_eq] at hb
        rcases hb with rfl | rfl
        · exact LawfulSpace.isspace_lineBreak.1
        · exact LawfulSpace.isspace_lineBreak.2
      rw [List.takeWhile_cons_of_pos hspace, List.length_cons] at hstops
      intro c hc
      rcases List.mem_cons.mp hc with rfl | hc
      · exact hb
      · exact ih (fun j hj => hstops (j + 1) (by omega)) c hc

omit [LawfulSpace] in
/-- The value of a header ends with its line. -/
theorem headerBody_stops {k : ℕ} (h : headerBody v = some k) : Stops isLineChar (v.drop k) := by
  obtain ⟨j, n, -, hn, rfl⟩ := headerBody_eq_some h
  rw [← List.drop_drop]
  exact (runOf_eq_some hn).2.2

/-- A redacted value is all that the body of the pattern takes. -/
theorem HeaderForm.take {k : ℕ} (hv : HeaderForm v) (hk : headerBody v = some k) :
    v.take k = redactedHeader := by
  obtain ⟨j, n, hj, hn, rfl⟩ := headerBody_eq_some hk
  rcases hv with hv | ⟨z, rfl, hz⟩
  · have hstops : Stops isLineChar (v.drop j) := by
      cases hdrop : v.drop j with
      | nil => trivial
      | cons c rest => exact hv c (List.mem_of_mem_drop (hdrop ▸ List.mem_cons_self))
    rw [runOf_eq_none.mpr hstops] at hn
    cases hn
  · -- the bracket ends the blanks
    have hblanks : ((redactedHeader ++ z).takeWhile Python.isspace).length ≤ 1 := by
      have hspace : ¬ Python.isspace '[' = true := by
        rw [LawfulSpace.isspace_bracket.1]
        decide
      have hbracket : (redactedSecret ++ z).takeWhile Python.isspace = [] :=
        List.takeWhile_cons_of_neg hspace
      change ((' ' :: (redactedSecret ++ z)).takeWhile Python.isspace).length ≤ 1
      rw [List.takeWhile_cons, hbracket]
      split <;> simp
    have hshort : ∀ i ≤ 1, (redactedHeader.drop i).all isLineChar = true ∧
        redactedHeader.drop i ≠ [] ∧ i + (redactedHeader.drop i).length = redactedHeader.length ∧
        i ≤ redactedHeader.length := by decide
    obtain ⟨hall, hne, hlength, hle⟩ := hshort j (by omega)
    rw [List.drop_append_of_le_length hle, runOf_append hall hne hz] at hn
    obtain rfl := Option.some.inj hn
    rw [hlength]
    exact List.take_left

end Forms

end Patterns

end LibSeek.Core
