/-
Substitutions, position by position.

A substitution goes through a text from left to right and either keeps a character or replaces a
match.  Here it is a relation between the text before and the text after, so that a position of the
result can be traced back: to a position of the text that was kept, or to the inside of a
replacement.  A property of the positions of the text is carried over to the positions of the
result in this way.

Main definitions:

* `Core.Subst` — a substitution as a relation;
* `Core.Everywhere` — a property of all positions of a text.

Main results:

* `Core.reSub_subst` — `reSub` is such a substitution;
* `Core.Subst.everywhere` — **what holds at the positions of the result**;
* `Core.Subst.of_append`, `Core.Subst.of_afterWord`, `Core.Subst.append` — a part of the result that no
  replacement makes comes from the text, and a part of the text without a match is kept;
* `Core.reSub_eq_self_of_everywhere` — a text whose matches are all replaced by themselves is left
  alone.
-/

import LibSeek.Core.Security

set_option relaxedAutoImplicit false
set_option autoImplicit false

namespace LibSeek.Core

/-- **A substitution**, from a text after a given character to its result; a property holds wherever
a character is kept. -/
inductive Subst (find : Matcher) (P : Option Char → List Char → Prop) :
    Option Char → List Char → List Char → Prop
  | nil {prev : Option Char} : Subst find P prev [] []
  | keep {prev : Option Char} {c : Char} {cs ds : List Char} (h : find prev (c :: cs) = none)
      (hP : P prev (c :: cs)) (hs : Subst find P (some c) cs ds) :
      Subst find P prev (c :: cs) (c :: ds)
  | replace {prev : Option Char} {c : Char} {cs ds r : List Char} {n : ℕ}
      (h : find prev (c :: cs) = some (n, r))
      (hs : Subst find P ((c :: cs).take n).getLast? ((c :: cs).drop n) ds) :
      Subst find P prev (c :: cs) (r ++ ds)

/-- A property of all positions of a text: of the character before, and of what follows. -/
def Everywhere (P : Option Char → List Char → Prop) : Option Char → List Char → Prop
  | _, [] => True
  | prev, c :: cs => P prev (c :: cs) ∧ Everywhere P (some c) cs

variable {find : Matcher} {P Q : Option Char → List Char → Prop} {prev : Option Char}
  {x y : List Char}

/-! ### Positions -/

theorem Everywhere.mono (h : Everywhere P prev x) (hPQ : ∀ p c cs, P p (c :: cs) → Q p (c :: cs)) :
    Everywhere Q prev x := by
  induction x generalizing prev with
  | nil => trivial
  | cons c cs ih => exact ⟨hPQ prev c cs h.1, ih h.2⟩

/-- The positions after the first ones. -/
theorem Everywhere.drop {c : Char} {cs : List Char} (h : Everywhere P prev (c :: cs)) {n : ℕ}
    (hn : 0 < n) : Everywhere P ((c :: cs).take n).getLast? ((c :: cs).drop n) := by
  induction cs generalizing prev c n with
  | nil =>
      obtain ⟨n, rfl⟩ : ∃ k, n = k + 1 := ⟨n - 1, by omega⟩
      simp [Everywhere]
  | cons d cs ih =>
      obtain ⟨n, rfl⟩ : ∃ k, n = k + 1 := ⟨n - 1, by omega⟩
      cases n with
      | zero => exact h.2
      | succ n =>
          have hrest := ih h.2 (Nat.succ_pos n)
          simpa [List.getLast?_cons] using hrest

/-- A text in two parts. -/
theorem everywhere_append {r ds : List Char}
    (hr : ∀ r₁ r₂, r = r₁ ++ r₂ → r₂ ≠ [] → ∀ q, Q q (r₂ ++ ds))
    (hds : Everywhere Q (r.getLast?.or prev) ds) : Everywhere Q prev (r ++ ds) := by
  induction r generalizing prev with
  | nil => simpa using hds
  | cons c r ih =>
      refine ⟨hr [] (c :: r) rfl (List.cons_ne_nil _ _) prev, ih (fun r₁ r₂ h => ?_) ?_⟩
      · exact hr (c :: r₁) r₂ (by rw [h]; rfl)
      · cases r with
        | nil => simpa using hds
        | cons d r => simpa [List.getLast?_cons] using hds

/-! ### Substitutions -/

/-- `reSub` is a substitution. -/
theorem reSub_subst (hpos : ∀ p cs n r, find p cs = some (n, r) → 0 < n) :
    ∀ (fuel : ℕ) (prev : Option Char) (cs : List Char), cs.length ≤ fuel →
      Subst find (fun _ _ => True) prev cs (reSub find fuel prev cs)
  | 0, _, cs, h => by
      obtain rfl := List.length_eq_zero_iff.mp (Nat.le_zero.mp h)
      exact .nil
  | _ + 1, _, [], _ => .nil
  | fuel + 1, prev, c :: cs, h => by
      rw [reSub]
      cases hfind : find prev (c :: cs) with
      | none =>
          refine .keep hfind trivial (reSub_subst hpos fuel (some c) cs ?_)
          simpa using h
      | some m =>
          obtain ⟨n, r⟩ := m
          have hn := hpos _ _ _ _ hfind
          refine .replace hfind (reSub_subst hpos fuel _ _ ?_)
          simp only [List.length_drop, List.length_cons] at h ⊢
          omega

/-- What holds at every position holds wherever a character is kept. -/
theorem Subst.strengthen (hpos : ∀ p cs n r, find p cs = some (n, r) → 0 < n)
    (h : Subst find P prev x y) (hx : Everywhere Q prev x) : Subst find Q prev x y := by
  induction h with
  | nil => exact .nil
  | keep hfind _ _ ih => exact .keep hfind hx.1 (ih hx.2)
  | replace hfind _ ih => exact .replace hfind (ih (hx.drop (hpos _ _ _ _ hfind)))

/-- What holds wherever there is no match holds wherever a character is kept. -/
theorem Subst.of_none (hQ : ∀ p c cs, find p (c :: cs) = none → Q p (c :: cs))
    (h : Subst find P prev x y) : Subst find Q prev x y := by
  induction h with
  | nil => exact .nil
  | keep hfind _ _ ih => exact .keep hfind (hQ _ _ _ hfind) ih
  | replace hfind _ ih => exact .replace hfind ih

/-- A position at which a match has ended. -/
def AfterMatch (find : Matcher) (prev : Option Char) (x : List Char) : Prop :=
  ∃ p c cs n r, find p (c :: cs) = some (n, r) ∧ ((c :: cs).take n).getLast? = prev ∧
    (c :: cs).drop n = x

/-- **What holds at the positions of the result**: it holds where a character is kept after the
same character as in the text, where one is kept right after a match, and inside of every
replacement. -/
theorem Subst.everywhere
    (hkeep : ∀ p c cs ds, find p (c :: cs) = none → P p (c :: cs) → Subst find P (some c) cs ds →
      Q p (c :: ds))
    (hafter : ∀ p c cs ds, AfterMatch find p (c :: cs) → find p (c :: cs) = none →
      P p (c :: cs) → Subst find P (some c) cs ds → ∀ q, Q q (c :: ds))
    (hinside : ∀ p c cs n r ds, find p (c :: cs) = some (n, r) →
      Subst find P ((c :: cs).take n).getLast? ((c :: cs).drop n) ds →
      ∀ r₁ r₂, r = r₁ ++ r₂ → r₂ ≠ [] → ∀ q, Q q (r₂ ++ ds))
    (h : Subst find P prev x y) :
    ∀ q, q = prev ∨ AfterMatch find prev x → Everywhere Q q y := by
  induction h with
  | nil => exact fun _ _ => trivial
  | @keep prev c cs ds hfind hP hs ih =>
      intro q hq
      refine ⟨?_, ih (some c) (Or.inl rfl)⟩
      rcases hq with rfl | hq
      · exact hkeep q c cs ds hfind hP hs
      · exact hafter prev c cs ds hq hfind hP hs q
  | @replace prev c cs ds r n hfind hs ih =>
      intro q _
      refine everywhere_append (hinside prev c cs n r ds hfind hs) (ih _ (Or.inr ?_))
      exact ⟨prev, c, cs, n, r, hfind, rfl, rfl⟩

/-! ### Parts of the result, and of the text -/

/-- A character of the result that no replacement begins with is kept. -/
theorem Subst.of_cons {d : Char} {ds : List Char} (h : Subst find P prev x (d :: ds))
    (hd : ∀ p c cs n r, find p (c :: cs) = some (n, r) → ∃ b t, r = b :: t ∧ b ≠ d) :
    ∃ cs, x = d :: cs ∧ find prev (d :: cs) = none ∧ P prev (d :: cs) ∧
      Subst find P (some d) cs ds := by
  generalize hy : d :: ds = y at h
  cases h with
  | nil => cases hy
  | @keep _ c cs ds' hfind hP hs =>
      obtain ⟨rfl, rfl⟩ := List.cons.inj hy
      exact ⟨cs, rfl, hfind, hP, hs⟩
  | @replace _ c cs ds' r n hfind hs =>
      obtain ⟨b, t, rfl, hb⟩ := hd _ _ _ _ _ hfind
      exact absurd (List.cons.inj hy).1.symm hb

/-- A part of the result whose characters begin no replacement is kept. -/
theorem Subst.of_append {m ds : List Char} (h : Subst find P prev x (m ++ ds))
    (hm : ∀ d ∈ m, ∀ p c cs n r, find p (c :: cs) = some (n, r) → ∃ b t, r = b :: t ∧ b ≠ d) :
    ∃ cs p, x = m ++ cs ∧ Subst find P p cs ds := by
  induction m generalizing prev x with
  | nil => exact ⟨x, prev, rfl, h⟩
  | cons d m ih =>
      obtain ⟨cs, rfl, -, -, hs⟩ := h.of_cons (hm d List.mem_cons_self)
      obtain ⟨cs', p, rfl, hs'⟩ := ih hs fun d hd => hm d (List.mem_cons_of_mem _ hd)
      exact ⟨cs', p, rfl, hs'⟩

/-- A word of the result that no replacement contributes to is a word of the text. -/
theorem Subst.of_afterWord {w v : List Char} (h : Subst find P prev x y)
    (hw : afterWord w y = some v)
    (hclash : ∀ u, u <:+ w → u ≠ [] → ∀ p c cs n r ds, find p (c :: cs) = some (n, r) →
      afterWord u (r ++ ds) = none) :
    ∃ v' p, afterWord w x = some v' ∧ Subst find P p v' v := by
  induction w generalizing prev x y with
  | nil =>
      obtain rfl := Option.some.inj hw
      exact ⟨x, prev, rfl, h⟩
  | cons l w ih =>
      cases h with
      | nil => cases hw
      | @keep _ c cs ds hfind hP hs =>
          have hl : eqIgnoreCase l c = true := by
            by_contra hl
            rw [afterWord, if_neg hl] at hw
            cases hw
          rw [afterWord, if_pos hl] at hw ⊢
          exact ih hs hw fun u hu => hclash u (hu.trans (List.suffix_cons l w))
      | @replace _ c cs ds r n hfind hs =>
          rw [hclash (l :: w) (List.suffix_refl _) (List.cons_ne_nil _ _) _ _ _ _ _ _ hfind] at hw
          cases hw

/-- A part of the text without a match is kept. -/
theorem Subst.append {m z : List Char} (h : Subst find P prev (m ++ z) y)
    (hm : ∀ m₁ m₂, m = m₁ ++ m₂ → m₂ ≠ [] → ∀ p, find p (m₂ ++ z) = none) :
    ∃ z' p, y = m ++ z' ∧ Subst find P p z z' := by
  induction m generalizing prev y with
  | nil => exact ⟨y, prev, rfl, h⟩
  | cons c m ih =>
      have hc : find prev (c :: (m ++ z)) = none := hm [] (c :: m) rfl (List.cons_ne_nil _ _) prev
      generalize hx : c :: m ++ z = x at h
      cases h with
      | nil => cases hx
      | @keep _ d cs ds hfind hP hs =>
          obtain ⟨rfl, rfl⟩ := List.cons.inj hx
          obtain ⟨z', p, rfl, hs'⟩ := ih hs fun m₁ m₂ h => hm (c :: m₁) m₂ (by rw [h]; rfl)
          exact ⟨z', p, rfl, hs'⟩
      | @replace _ d cs ds r n hfind hs =>
          obtain ⟨rfl, rfl⟩ := List.cons.inj hx
          exact absurd (hc.symm.trans hfind) (Option.some_ne_none _).symm

/-! ### Texts that are left alone -/

/-- A text whose matches are all replaced by themselves is left alone. -/
theorem reSub_eq_self_of_everywhere (hpos : ∀ p cs n r, find p cs = some (n, r) → 0 < n) :
    ∀ (fuel : ℕ) (prev : Option Char) (cs : List Char),
      Everywhere (fun p cs => ∀ n r, find p cs = some (n, r) → r = cs.take n) prev cs →
      reSub find fuel prev cs = cs
  | 0, _, cs, _ => by cases cs <;> rfl
  | _ + 1, _, [], _ => rfl
  | fuel + 1, prev, c :: cs, h => by
      rw [reSub]
      cases hfind : find prev (c :: cs) with
      | none =>
          simp only
          rw [reSub_eq_self_of_everywhere hpos fuel (some c) cs h.2]
      | some m =>
          obtain ⟨n, r⟩ := m
          simp only
          rw [reSub_eq_self_of_everywhere hpos fuel _ _ (h.drop (hpos _ _ _ _ hfind)),
            h.1 n r hfind, List.take_append_drop]

end LibSeek.Core
