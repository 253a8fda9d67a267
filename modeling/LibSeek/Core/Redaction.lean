/-
Redaction, twice.

A text that has been redacted is redacted again when the decision that holds it is verified.  The
first four patterns leave a redacted text alone: what they match in it is what they have put there
themselves.  The pattern of the paths does not: where it has left a slash, since another slash
follows, and has replaced the path that begins with the second one, it finds a path in the result
that begins with the first.

Main definitions:

* `Core.rewrittenText` — a text after the first four patterns;
* `Core.exposesPath` — the pattern of the paths leaves a slash in front of a path it replaces.

Main results:

* `Core.rewrittenText_redacted` — the first four patterns leave a redacted text alone;
* `Core.reSub_findPosixPath_twice` — the fifth does exactly where no path is exposed;
* `Core.sanitizePublicText_twice` — **redacting twice is redacting once** exactly where no path is
  exposed.
-/

import LibSeek.Core.Patterns

set_option relaxedAutoImplicit false
set_option autoImplicit false

namespace LibSeek.Core

variable [Python] [LawfulSpace]

/-! ### The words of the first three patterns -/

/-- A pattern of words and a replacement that do not get into each other's way: the replacement is
not made of the words, and does not begin with the separator. -/
def keepsTags (words : List String) (separator : List Char) (replaced : List String)
    (mark : List Char) : Bool :=
  collisionFree words replaced mark &&
    separator.all (fun d => !isLatin d && (!replaced.contains "" || mark.head? != some d)) &&
    words.all fun w => !replaced.contains w

section Tags

variable {find : Matcher} {words replaced : List String} {separator mark : List Char}
  {T : List Char → Prop} {cs : List Char}

omit [Python] [LawfulSpace] in
theorem separator_spec {b : Char} {tail : List Char} (hmark : mark = b :: tail)
    (h : (separator.all fun d =>
      !isLatin d && (!replaced.contains "" || mark.head? != some d)) = true) :
    ∀ d ∈ separator, isLatin d = false ∧ ("" ∈ replaced → b ≠ d) := by
  intro d hd
  have hall := List.all_eq_true.mp h d hd
  rw [hmark] at hall
  simp only [Bool.and_eq_true, Bool.not_eq_true', Bool.or_eq_true, List.head?_cons,
    bne_iff_ne, ne_eq, Option.some.injEq] at hall
  refine ⟨hall.1, fun hmem => hall.2.resolve_left ?_⟩
  simp [hmem]

omit [Python] [LawfulSpace] in
/-- **A substitution by another pattern keeps the tags.** -/
theorem tagged_reSub (hfind : Pattern find replaced mark) {b : Char} {tail : List Char}
    (hmark : mark = b :: tail) (hkeeps : keepsTags words separator replaced mark = true)
    (hT : ∀ (P : Option Char → List Char → Prop) p v v', Subst find P p v v' → T v → T v')
    (h : Everywhere (fun _ cs => Tagged words separator T cs) none cs) :
    Everywhere (fun _ cs => Tagged words separator T cs) none (reSub find cs.length none cs) := by
  simp only [keepsTags, Bool.and_eq_true] at hkeeps
  obtain ⟨⟨hfree, hsep⟩, hother⟩ := hkeeps
  have hsubst := (reSub_subst hfind.pos cs.length none cs le_rfl).strengthen hfind.pos h
  refine hsubst.tagged (collisionFree_spec hfree) hfind.replaces hmark
    (separator_spec hmark hsep) (fun p v v' => hT _ p v v') ?_
  intro p c cs n r ds _ _ w hw hreplaced
  have hne := List.all_eq_true.mp hother w hw
  simp [hreplaced] at hne

end Tags

omit [Python] [LawfulSpace] in
/-- What follows a match of a pattern of words. -/
theorem drop_match (m separator v : List Char) (k : ℕ) :
    (m ++ (separator ++ v)).drop (m.length + separator.length + k) = v.drop k := by
  rw [← List.append_assoc, ← List.length_append, ← List.drop_drop, List.drop_left]

/-- After the pattern of the secrets, -/
theorem secretTagged_reSub (cs : List Char) :
    Everywhere (fun _ cs => Tagged ["passkey", "token", "pid"] ['='] SecretForm cs) none
      (reSub findSecret cs.length none cs) := by
  have hsubst : Subst findSecret
      (fun _ cs => Tagged ["passkey", "token", "pid"] ['='] SecretForm cs) none cs
      (reSub findSecret cs.length none cs) := by
    refine (reSub_subst findSecret_pattern.pos cs.length none cs le_rfl).of_none ?_
    intro p c cs hnone w hw v hv
    exact Or.inl (runOf_eq_none.mp (wordRule_eq_none p hnone w hw v hv))
  have hmark : secretMark = '=' :: redactedSecret := rfl
  refine hsubst.tagged (collisionFree_spec (by decide)) findSecret_pattern.replaces hmark
    (separator_spec hmark (by decide)) (fun _ _ _ hs hv => hv.subst findSecret_pattern hs) ?_
  -- what follows the mark is what followed the secret
  intro p c cs n r ds hfind hs w hw _ v hv
  obtain ⟨-, -, m, rest, k, hcs, -, hk, rfl, -⟩ := wordRule_eq_some p hfind
  rw [hcs, drop_match] at hs
  have hstops := hs.stops findSecret_pattern.starts (fun _ => isStart_of_not_secretChar)
    (runOf_eq_some hk).2.2
  exact Or.inr ⟨ds, (List.cons.inj hv).2.symm, hstops⟩

/-- after that of the headers, -/
theorem headerTagged_reSub (cs : List Char) :
    Everywhere (fun _ cs => Tagged ["authorization", "cookie"] [':'] HeaderForm cs) none
      (reSub findHeader cs.length none cs) := by
  have hsubst : Subst findHeader
      (fun _ cs => Tagged ["authorization", "cookie"] [':'] HeaderForm cs) none cs
      (reSub findHeader cs.length none cs) := by
    refine (reSub_subst findHeader_pattern.pos cs.length none cs le_rfl).of_none ?_
    intro p c cs hnone w hw v hv
    exact Or.inl (lineBreaks_of_headerBody (wordRule_eq_none p hnone w hw v hv))
  have hmark : headerMark = ':' :: redactedHeader := rfl
  refine hsubst.tagged (collisionFree_spec (by decide)) findHeader_pattern.replaces hmark
    (separator_spec hmark (by decide)) (fun _ _ _ hs hv => hv.subst findHeader_pattern hs) ?_
  intro p c cs n r ds hfind hs w hw _ v hv
  obtain ⟨-, -, m, rest, k, hcs, -, hk, rfl, -⟩ := wordRule_eq_some p hfind
  rw [hcs, drop_match] at hs
  have hstops := hs.stops findHeader_pattern.starts (fun _ => isStart_of_not_lineChar)
    (headerBody_stops hk)
  exact Or.inr ⟨ds, (List.cons.inj hv).2.symm, hstops⟩

/-- and after that of the addresses, there is a redacted value or none behind every word. -/
theorem urlTagged_reSub (cs : List Char) :
    Everywhere (fun _ cs => Tagged ["https", "http"] [':', '/', '/'] (Stops isUrlChar) cs) none
      (reSub findUrl cs.length none cs) := by
  have hsubst : Subst findUrl
      (fun _ cs => Tagged ["https", "http"] [':', '/', '/'] (Stops isUrlChar) cs) none cs
      (reSub findUrl cs.length none cs) := by
    refine (reSub_subst findUrl_pattern.pos cs.length none cs le_rfl).of_none ?_
    intro p c cs hnone w hw v hv
    exact runOf_eq_none.mp (wordRule_eq_none p hnone w hw v hv)
  have hmark : urlMark = '[' :: "URL_REDACTED]".toList := rfl
  refine hsubst.tagged (collisionFree_spec (by decide)) findUrl_pattern.replaces hmark
    (separator_spec hmark (by decide))
    (fun _ _ _ hs hv => hs.stops findUrl_pattern.starts (fun _ => isStart_of_not_urlChar) hv) ?_
  intro p c cs n r ds _ _ w hw hempty
  have hne : ∀ w ∈ ["https", "http"], w ∉ [""] := by decide
  exact absurd hempty (hne w hw)

/-- The three patterns of words find nothing but their own replacements. -/
structure WordsSettled (cs : List Char) : Prop where
  secret : Everywhere (fun _ cs => Tagged ["passkey", "token", "pid"] ['='] SecretForm cs) none cs
  header : Everywhere (fun _ cs => Tagged ["authorization", "cookie"] [':'] HeaderForm cs) none cs
  url : Everywhere (fun _ cs => Tagged ["https", "http"] [':', '/', '/'] (Stops isUrlChar) cs)
    none cs

/-- A pattern of paths leaves it so. -/
theorem WordsSettled.reSub {find : Matcher} {cs : List Char} (h : WordsSettled cs)
    (hfind : Pattern find [""] pathMark) : WordsSettled (reSub find cs.length none cs) where
  secret := tagged_reSub hfind rfl (by decide) (fun _ _ _ _ hs hv => hv.subst hfind hs) h.secret
  header := tagged_reSub hfind rfl (by decide) (fun _ _ _ _ hs hv => hv.subst hfind hs) h.header
  url := tagged_reSub hfind rfl (by decide)
    (fun _ _ _ _ hs hv => hs.stops hfind.starts (fun _ => isStart_of_not_urlChar) hv) h.url

/-- The text after the first three patterns. -/
theorem wordsSettled (cs : List Char) :
    let secrets := reSub findSecret cs.length none cs
    let headers := reSub findHeader secrets.length none secrets
    WordsSettled (reSub findUrl headers.length none headers) := by
  intro secrets headers
  have hsecret : Everywhere
      (fun _ cs => Tagged ["passkey", "token", "pid"] ['='] SecretForm cs) none headers :=
    tagged_reSub findHeader_pattern rfl (by decide)
      (fun _ _ _ _ hs hv => hv.subst findHeader_pattern hs) (secretTagged_reSub cs)
  constructor
  · exact tagged_reSub findUrl_pattern rfl (by decide)
      (fun _ _ _ _ hs hv => hv.subst findUrl_pattern hs) hsecret
  · exact tagged_reSub findUrl_pattern rfl (by decide)
      (fun _ _ _ _ hs hv => hv.subst findUrl_pattern hs) (headerTagged_reSub secrets)
  · exact urlTagged_reSub headers

/-- The first three patterns leave such a text alone. -/
theorem WordsSettled.findSecret {cs : List Char} (h : WordsSettled cs) (fuel : ℕ) :
    Core.reSub findSecret fuel none cs = cs := by
  refine reSub_eq_self_of_everywhere findSecret_pattern.pos fuel none cs
    (h.secret.mono fun p c cs hcs n r hfind => wordRule_settled p ?_ hcs hfind)
  intro m v k hv hk
  rw [hv.take hk]
  rfl

theorem WordsSettled.findHeader {cs : List Char} (h : WordsSettled cs) (fuel : ℕ) :
    Core.reSub findHeader fuel none cs = cs := by
  refine reSub_eq_self_of_everywhere findHeader_pattern.pos fuel none cs
    (h.header.mono fun p c cs hcs n r hfind => wordRule_settled p ?_ hcs hfind)
  intro m v k hv hk
  rw [hv.take hk]
  rfl

omit [LawfulSpace] in
theorem WordsSettled.findUrl {cs : List Char} (h : WordsSettled cs) (fuel : ℕ) :
    Core.reSub findUrl fuel none cs = cs := by
  refine reSub_eq_self_of_everywhere findUrl_pattern.pos fuel none cs
    (h.url.mono fun p c cs hcs n r hfind => wordRule_settled p ?_ hcs hfind)
  intro m v k hv hk
  exact absurd ((runOf_eq_none.mpr hv).symm.trans hk) (Option.some_ne_none k).symm

/-! ### Windows paths -/

/-- No Windows path is found at any position. -/
abbrev WindowsSettled (cs : List Char) : Prop :=
  Everywhere (fun p cs => findWindowsPath p cs = none) none cs

section Paths

variable {find : Matcher} {P : Option Char → List Char → Prop} {prev : Option Char}
  {cs ds v : List Char}

omit [Python] [LawfulSpace] in
/-- What replaces a path begins with a bracket. -/
theorem head_pathMark (hfind : Pattern find [""] pathMark) {d : Char} (hd : d ≠ '[')
    (p : Option Char) (c : Char) (cs : List Char) (n : ℕ) (r : List Char)
    (h : find p (c :: cs) = some (n, r)) : ∃ b t, r = b :: t ∧ b ≠ d := by
  obtain ⟨u, hu, m, hm, rfl⟩ := hfind.replaces p c cs n r h
  obtain rfl := List.mem_singleton.mp hu
  obtain rfl : m = [] := List.forall₂_nil_left_iff.mp hm
  exact ⟨'[', "PATH_REDACTED]".toList, rfl, hd.symm⟩

omit [Python] [LawfulSpace] in
/-- Where a Windows path begins in the result, one begins in the text. -/
theorem WindowsLead.of_subst (hfind : Pattern find [""] pathMark) {c : Char}
    (h : Subst find P prev cs ds) (hlead : WindowsLead (c :: ds) v) :
    ∃ v' p, WindowsLead (c :: cs) v' ∧ Subst find P p v' v := by
  generalize hx : c :: ds = x at hlead
  cases hlead with
  | @drive letter slash v hletter hslash =>
      obtain ⟨rfl, rfl⟩ := List.cons.inj hx
      have hslash' : slash ≠ '[' := by rcases hslash with rfl | rfl <;> decide
      obtain ⟨cs, rfl, -, -, hs⟩ := h.of_cons (head_pathMark hfind (by decide))
      obtain ⟨cs, rfl, -, -, hs⟩ := hs.of_cons (head_pathMark hfind hslash')
      exact ⟨cs, some slash, .drive hletter hslash, hs⟩
  | @share v =>
      obtain ⟨rfl, rfl⟩ := List.cons.inj hx
      obtain ⟨cs, rfl, -, -, hs⟩ := h.of_cons (head_pathMark hfind (by decide))
      exact ⟨cs, some '\\', .share, hs⟩

omit [Python] [LawfulSpace] in
/-- No Windows path begins with another character. -/
theorem WindowsLead.isStart {c : Char} (h : WindowsLead (c :: cs) v) :
    isLatin c = true ∨ c = '\\' := by
  generalize hx : c :: cs = x at h
  cases h with
  | drive hletter _ =>
      obtain ⟨rfl, -⟩ := List.cons.inj hx
      exact Or.inl hletter
  | share => exact Or.inr (List.cons.inj hx).1

omit [LawfulSpace] in
/-- **A substitution of paths leaves no Windows path**, if the text has none where a character is
kept, and no match ends in front of a letter or a backslash. -/
theorem windowsSettled_subst (hfind : Pattern find [""] pathMark)
    (hends : ∀ p c cs, AfterMatch find p (c :: cs) → isLatin c = false ∧ c ≠ '\\')
    (h : Subst find (fun p cs => findWindowsPath p cs = none) none cs ds) : WindowsSettled ds := by
  refine h.everywhere ?_ ?_ ?_ none (Or.inl rfl)
  · intro p c cs ds _ hnone hs
    rcases findWindowsPath_eq_none.mp hnone with hword | hstops
    · exact findWindowsPath_eq_none.mpr (Or.inl hword)
    · refine findWindowsPath_eq_none.mpr (Or.inr fun v hlead => ?_)
      obtain ⟨v', p', hlead', hs'⟩ := hlead.of_subst hfind hs
      exact hs'.stops hfind.starts (fun _ => isStart_of_not_windowsChar) (hstops v' hlead')
  · intro p c cs ds hmatch _ _ _ q
    refine findWindowsPath_eq_none.mpr (Or.inr fun v hlead => ?_)
    obtain ⟨hlatin, hslash⟩ := hends p c cs hmatch
    rcases hlead.isStart with hletter | hother
    · rw [hlatin] at hletter
      cases hletter
    · exact absurd hother hslash
  · intro p c cs n r ds hmatch _ r₁ r₂ hr hne q
    obtain ⟨u, hu, m, hm, rfl⟩ := hfind.replaces p c cs n r hmatch
    obtain rfl := List.mem_singleton.mp hu
    obtain rfl : m = [] := List.forall₂_nil_left_iff.mp hm
    refine findWindowsPath_eq_none.mpr (Or.inr fun v hlead => ?_)
    have hall : (pathMark.tails.all fun t => t == [] || noWindowsLead t) = true := by decide
    have htail := List.all_eq_true.mp hall r₂ ((List.mem_tails _ _).mpr ⟨r₁, hr.symm⟩)
    exact absurd hlead (not_windowsLead (by simpa [hne] using htail))

omit [LawfulSpace] in
/-- After the pattern of the Windows paths none is left. -/
theorem windowsSettled_findWindowsPath (cs : List Char) :
    WindowsSettled (reSub findWindowsPath cs.length none cs) := by
  refine windowsSettled_subst findWindowsPath_pattern ?_
    ((reSub_subst findWindowsPath_pattern.pos cs.length none cs le_rfl).of_none
      fun _ _ _ hnone => hnone)
  rintro p c cs ⟨p', c', cs', n, r, hfind, -, hdrop⟩
  obtain ⟨-, v, k, -, hk, hrest, -⟩ := findWindowsPath_eq_some hfind
  have hstops := (runOf_eq_some hk).2.2
  rw [← hrest, hdrop] at hstops
  have hstart := isStart_of_not_windowsChar hstops
  simp only [isStart, Bool.or_eq_false_iff, beq_eq_false_iff_ne] at hstart
  exact hstart.1

/-! ### Paths -/

omit [LawfulSpace] in
/-- A match of a path ends in front of a character that no path has, or of a slash that such a
character follows. -/
theorem afterMatch_findPosixPath {p : Option Char} {c : Char}
    (h : AfterMatch findPosixPath p (c :: cs)) :
    isPathChar c = false ∨ (c = '/' ∧ Stops isPathChar cs) := by
  obtain ⟨p', c', cs', n, r, hfind, -, hdrop⟩ := h
  obtain ⟨-, -, -, hends⟩ := findPosixPath_eq_some hfind
  rw [hdrop] at hends
  rcases hends with hends | ⟨more, hmore, hends⟩
  · exact Or.inl hends
  · obtain ⟨rfl, rfl⟩ := List.cons.inj hmore
    exact Or.inr ⟨rfl, hends⟩

/-- The pattern of the paths leaves no Windows path where there was none. -/
theorem windowsSettled_findPosixPath (h : WindowsSettled cs) :
    WindowsSettled (reSub findPosixPath cs.length none cs) := by
  refine windowsSettled_subst findPosixPath_pattern ?_
    ((reSub_subst findPosixPath_pattern.pos cs.length none cs le_rfl).strengthen
      findPosixPath_pattern.pos h)
  intro p c cs hmatch
  rcases afterMatch_findPosixPath hmatch with hstop | ⟨rfl, -⟩
  · have hstart := isStart_of_not_pathChar hstop
    simp only [isStart, Bool.or_eq_false_iff, beq_eq_false_iff_ne] at hstart
    exact hstart.1
  · decide

omit [LawfulSpace] in
/-- No path is found where a name does not follow a slash. -/
theorem findPosixPath_of_ne {c : Char} (hc : c ≠ '/') (p : Option Char) (cs : List Char) :
    findPosixPath p (c :: cs) = none := by
  refine findPosixPath_eq_none.mpr (Or.inr fun v hv => ?_)
  exact absurd (List.cons.inj hv).1 hc

/-- A character is not a slash in front of a path, or a path may not begin with it. -/
def Covered (p : Option Char) : List Char → Prop
  | [] => True
  | c :: cs => c ≠ '/' ∨ blocksPath p = true ∨ findPosixPath (some '/') cs = none

/-- **A redacted text has no path**, if no slash that was kept stands in front of one. -/
theorem posixSettled_subst (h : Subst findPosixPath Covered none cs ds) :
    Everywhere (fun p cs => findPosixPath p cs = none) none ds := by
  have hname : ∀ {x : List Char}, Stops isPathChar x → Stops isNameChar x := by
    intro x hx
    cases x with
    | nil => trivial
    | cons c x =>
        change isNameChar c = false
        rw [isNameChar, show isPathChar c = false from hx, Bool.and_false]
  -- at a character that is kept, after a match, and within what replaces one
  refine h.everywhere ?_ ?_ ?_ none (Or.inl rfl)
  · intro p c cs ds hnone hcovered hs
    rcases findPosixPath_eq_none.mp hnone with hblocks | hstops
    · exact findPosixPath_eq_none.mpr (Or.inl hblocks)
    rcases hcovered with hc | hblocks | hnext
    · exact findPosixPath_of_ne hc p ds
    · exact findPosixPath_eq_none.mpr (Or.inl hblocks)
    · refine findPosixPath_eq_none.mpr (Or.inr fun v hv => ?_)
      obtain ⟨rfl, rfl⟩ := List.cons.inj hv
      have hcs := hstops cs rfl
      cases hs with
      | nil => trivial
      | keep => exact hcs
      | replace hfind =>
          rw [hnext] at hfind
          cases hfind
  · intro p c cs ds hmatch _ _ hs q
    rcases afterMatch_findPosixPath hmatch with hstop | ⟨rfl, hstops⟩
    · refine findPosixPath_of_ne ?_ q ds
      rintro rfl
      rw [isPathChar, LawfulSpace.isspace_start '/' (by decide)] at hstop
      cases hstop
    · refine findPosixPath_eq_none.mpr (Or.inr fun v hv => ?_)
      obtain ⟨-, rfl⟩ := List.cons.inj hv
      exact hname (hs.stops findPosixPath_pattern.starts (fun _ => isStart_of_not_pathChar) hstops)
  · intro p c cs n r ds hmatch _ r₁ r₂ hr hne q
    obtain ⟨rfl, -⟩ := findPosixPath_eq_some hmatch
    obtain ⟨b, t, rfl⟩ := List.exists_cons_of_ne_nil hne
    have hnoSlash : pathMark.all (· != '/') = true := by decide
    have hmem : b ∈ pathMark := hr ▸ List.mem_append_right r₁ List.mem_cons_self
    exact findPosixPath_of_ne (bne_iff_ne.mp (List.all_eq_true.mp hnoSlash b hmem)) q (t ++ ds)

omit [LawfulSpace] in
/-- A substitution of paths takes slashes away, unless there is no path. -/
theorem Subst.count_slash (h : Subst findPosixPath P prev cs ds) :
    ds.count '/' ≤ cs.count '/' ∧
      (cs.count '/' ≤ ds.count '/' → Everywhere (fun p cs => findPosixPath p cs = none) prev cs) := by
  induction h with
  | nil => exact ⟨le_rfl, fun _ => trivial⟩
  | @keep prev c cs ds hnone _ _ ih =>
      obtain ⟨hle, hall⟩ := ih
      simp only [List.count_cons]
      exact ⟨by omega, fun hge => ⟨hnone, hall (by omega)⟩⟩
  | @replace prev c cs ds r n hfind _ ih =>
      obtain ⟨rfl, hn, ⟨v, hcs, -⟩, -⟩ := findPosixPath_eq_some hfind
      obtain ⟨rfl, rfl⟩ := List.cons.inj hcs
      have hmark : pathMark.count '/' = 0 := by decide
      have hrest : (('/' :: cs).drop n).count '/' ≤ cs.count '/' := by
        obtain ⟨k, rfl⟩ : ∃ k, n = k + 1 := ⟨n - 1, by omega⟩
        exact (List.drop_sublist k cs).count_le '/'
      have hslash : ('/' :: cs).count '/' = cs.count '/' + 1 := List.count_cons_self
      rw [List.count_append, hmark, hslash]
      exact ⟨by omega, fun hge => by omega⟩

end Paths

/-! ### Exposed paths -/

omit [LawfulSpace] in
/-- The pattern of the paths goes through a text of at most `fuel` characters and leaves a slash in
front of a path that it replaces, where a path may begin. -/
def exposesPathFrom : ℕ → Option Char → List Char → Bool
  | 0, _, _ => false
  | _, _, [] => false
  | fuel + 1, prev, c :: cs =>
      match findPosixPath prev (c :: cs) with
      | some (n, _) => exposesPathFrom fuel ((c :: cs).take n).getLast? ((c :: cs).drop n)
      | none =>
          c == '/' && !blocksPath prev && (findPosixPath (some '/') cs).isSome ||
            exposesPathFrom fuel (some c) cs

omit [LawfulSpace] in
/-- Where no path is exposed every slash that is kept is covered. -/
theorem covered_subst : ∀ (fuel : ℕ) (prev : Option Char) (cs : List Char), cs.length ≤ fuel →
    exposesPathFrom fuel prev cs = false →
    Subst findPosixPath Covered prev cs (reSub findPosixPath fuel prev cs)
  | 0, _, cs, hlength, _ => by
      obtain rfl := List.length_eq_zero_iff.mp (Nat.le_zero.mp hlength)
      exact .nil
  | _ + 1, _, [], _, _ => .nil
  | fuel + 1, prev, c :: cs, hlength, h => by
      rw [reSub]
      rw [exposesPathFrom] at h
      cases hfind : findPosixPath prev (c :: cs) with
      | none =>
          rw [hfind] at h
          simp only [Bool.or_eq_false_iff] at h
          refine .keep hfind ?_ (covered_subst fuel (some c) cs ?_ h.2)
          · have hcovered := h.1
            simp only [Bool.and_eq_false_iff, beq_eq_false_iff_ne, Bool.not_eq_false',
              Option.isSome_eq_false_iff, Option.isNone_iff_eq_none, or_assoc] at hcovered
            exact hcovered
          · simpa using hlength
      | some m =>
          obtain ⟨n, r⟩ := m
          have hn := findPosixPath_pattern.pos _ _ _ _ hfind
          rw [hfind] at h
          refine .replace hfind (covered_subst fuel _ _ ?_ h)
          simp only [List.length_drop, List.length_cons] at hlength ⊢
          omega

omit [Python] [LawfulSpace] in
/-- What holds at all positions of a text holds at those of its end. -/
theorem Everywhere.of_append {Q : Option Char → List Char → Prop} {prev : Option Char}
    {r ds : List Char} (h : Everywhere Q prev (r ++ ds)) :
    Everywhere Q (r.getLast?.or prev) ds := by
  induction r generalizing prev with
  | nil => simpa using h
  | cons c r ih =>
      have hrest := ih h.2
      cases r with
      | nil => simpa using hrest
      | cons d r => simpa [List.getLast?_cons] using hrest

/-- **Where a path is exposed the result has a path.** -/
theorem exposed_reSub : ∀ (fuel : ℕ) (prev : Option Char) (cs : List Char), cs.length ≤ fuel →
    exposesPathFrom fuel prev cs = true → ∀ q, q = prev ∨ AfterMatch findPosixPath prev cs →
    ¬ Everywhere (fun p cs => findPosixPath p cs = none) q (reSub findPosixPath fuel prev cs)
  | 0, _, _, _, h => by cases h
  | _ + 1, _, [], _, h => by cases h
  | fuel + 1, prev, c :: cs, hlength, h => by
      intro q hq hall
      rw [reSub] at hall
      rw [exposesPathFrom] at h
      cases hfind : findPosixPath prev (c :: cs) with
      | some m =>
          obtain ⟨n, r⟩ := m
          have hn := findPosixPath_pattern.pos _ _ _ _ hfind
          rw [hfind] at h hall
          refine exposed_reSub fuel _ _ ?_ h _ (Or.inr ?_) hall.of_append
          · simp only [List.length_drop, List.length_cons] at hlength ⊢
            omega
          · exact ⟨prev, c, cs, n, r, hfind, rfl, rfl⟩
      | none =>
          rw [hfind] at h hall
          have hlength' : cs.length ≤ fuel := by simpa using hlength
          rcases Bool.or_eq_true_iff.mp h with hslash | hlater
          · simp only [Bool.and_eq_true, beq_iff_eq, Bool.not_eq_true', Option.isSome_iff_exists]
              at hslash
            obtain ⟨⟨rfl, hblocks⟩, ⟨n, r⟩, hnext⟩ := hslash
            obtain ⟨rfl, -, ⟨v, rfl, -⟩, -⟩ := findPosixPath_eq_some hnext
            -- the slash is not where a match has ended, since a name follows
            have hq' : q = prev := by
              refine hq.resolve_right fun hmatch => ?_
              have hpath : isPathChar '/' = true := by
                rw [isPathChar, LawfulSpace.isspace_start '/' (by decide)]
                rfl
              rcases afterMatch_findPosixPath hmatch with hstop | ⟨-, hstop⟩
              · rw [hpath] at hstop
                cases hstop
              · exact absurd (hpath.symm.trans hstop) (by decide)
            subst hq'
            obtain ⟨fuel, rfl⟩ : ∃ k, fuel = k + 1 := ⟨fuel - 1, by
              simp only [List.length_cons] at hlength'
              omega⟩
            -- and the mark is a name that follows it in the result
            have hpath := hall.1
            rw [reSub, hnext] at hpath
            rcases findPosixPath_eq_none.mp hpath with hblocked | hstops
            · rw [hblocks] at hblocked
              cases hblocked
            · have hbracket : isNameChar '[' = false := hstops _ rfl
              rw [isNameChar, isPathChar, LawfulSpace.isspace_bracket.1] at hbracket
              exact absurd hbracket (by decide)
          · exact exposed_reSub fuel (some c) cs hlength' hlater (some c) (Or.inl rfl) hall.2

/-- **The pattern of the paths, twice.** -/
theorem reSub_findPosixPath_twice (cs : List Char) :
    let out := reSub findPosixPath cs.length none cs
    reSub findPosixPath out.length none out = out ↔ exposesPathFrom cs.length none cs = false := by
  intro out
  constructor
  · intro htwice
    have hsubst := reSub_subst findPosixPath_pattern.pos out.length none out le_rfl
    rw [htwice] at hsubst
    have hnone := hsubst.count_slash.2 le_rfl
    rw [← Bool.not_eq_true]
    exact fun hexposed => exposed_reSub cs.length none cs le_rfl hexposed none (Or.inl rfl) hnone
  · intro hcovered
    have hnone := posixSettled_subst (covered_subst cs.length none cs le_rfl hcovered)
    refine reSub_eq_self_of_everywhere findPosixPath_pattern.pos _ none out
      (hnone.mono fun p c cs hcs n r hfind => ?_)
    rw [hcs] at hfind
    cases hfind

/-! ### A text -/

omit [LawfulSpace] in
/-- A text after the first four patterns. -/
def rewrittenText (cs : List Char) : List Char :=
  [findSecret, findHeader, findUrl, findWindowsPath].foldl
    (fun cs find => reSub find cs.length none cs) cs

/-- A redacted text. -/
def redactedText (cs : List Char) : List Char :=
  reSub findPosixPath (rewrittenText cs).length none (rewrittenText cs)

omit [LawfulSpace] in
theorem sanitizePublicText_eq (value : String) :
    sanitizePublicText value = String.ofList (redactedText value.toList) := by
  simp only [sanitizePublicText, redactedText, rewrittenText, List.foldl_cons, List.foldl_nil]

/-- **The first four patterns leave a redacted text alone.** -/
theorem rewrittenText_redacted (cs : List Char) :
    rewrittenText (redactedText cs) = redactedText cs := by
  have hwords : WordsSettled (redactedText cs) :=
    ((wordsSettled cs).reSub findWindowsPath_pattern).reSub findPosixPath_pattern
  have hwindows : WindowsSettled (redactedText cs) :=
    windowsSettled_findPosixPath (windowsSettled_findWindowsPath _)
  have hwindowsFixed : ∀ fuel : ℕ,
      reSub findWindowsPath fuel none (redactedText cs) = redactedText cs := by
    intro fuel
    refine reSub_eq_self_of_everywhere findWindowsPath_pattern.pos fuel none _
      (hwindows.mono fun p c cs hcs n r hfind => ?_)
    rw [hcs] at hfind
    cases hfind
  unfold rewrittenText
  simp only [List.foldl_cons, List.foldl_nil]
  rw [hwords.findSecret, hwords.findHeader, hwords.findUrl, hwindowsFixed]

/-- Redaction of a text leaves a slash in front of a path that it replaces. -/
def exposesPath (value : String) : Bool :=
  exposesPathFrom (rewrittenText value.toList).length none (rewrittenText value.toList)

/-- **Redacting a text twice is redacting it once** exactly where no path is exposed. -/
theorem sanitizePublicText_twice (value : String) :
    sanitizePublicText (sanitizePublicText value) = sanitizePublicText value ↔
      exposesPath value = false := by
  rw [sanitizePublicText_eq (sanitizePublicText value), sanitizePublicText_eq value,
    String.toList_ofList, String.ofList_inj]
  conv_lhs => rw [redactedText, rewrittenText_redacted]
  exact reSub_findPosixPath_twice (rewrittenText value.toList)

end LibSeek.Core
