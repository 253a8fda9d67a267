/-
Redaction.

Whatever is stored for an audit passes through `sanitize_details`, which replaces the values of
members with a sensitive key and, in every text, secrets, addresses and file paths.  The evidence
of an automation decision is stored in this form, and its digest is checked against the form again
whenever the decision is verified.

Main definitions:

* `Core.reSub` — the substitution of a pattern, from left to right;
* `Core.sanitizePublicText`, `Core.sanitizeDetails` — redaction of a text and of a document.

Main results:

* `Core.reSub_eq_self` — a text in which the pattern never matches is left alone;
* `Core.sanitizePublicText_eq_self` — **a text with none of the characters `=`, `:`, `/` and `\`
  is left alone**, since each of the patterns needs one of them.
-/

import LibSeek.Core.Runtime
import LibSeek.Lib.Json

set_option relaxedAutoImplicit false
set_option autoImplicit false

namespace LibSeek.Core

open LibSeek.Lib

/-! ### Substitution -/

/-- A match at a position: its length, which is positive, and the replacement.  `prev` is the
character before the position. -/
abbrev Matcher := Option Char → List Char → Option (ℕ × List Char)

/-- `re.sub` on a text of at most `fuel` characters. -/
def reSub (find : Matcher) : ℕ → Option Char → List Char → List Char
  | 0, _, cs => cs
  | _, _, [] => []
  | fuel + 1, prev, c :: cs =>
      match find prev (c :: cs) with
      | some (n, replacement) =>
          replacement ++ reSub find fuel ((c :: cs).take n).getLast? ((c :: cs).drop n)
      | none => c :: reSub find fuel (some c) cs

/-- A text in which the pattern never matches is left alone. -/
theorem reSub_eq_self {find : Matcher} {ok : Char → Prop}
    (hfind : ∀ prev cs, (∀ c ∈ cs, ok c) → find prev cs = none) :
    ∀ (fuel : ℕ) (prev : Option Char) (cs : List Char), (∀ c ∈ cs, ok c) →
      reSub find fuel prev cs = cs
  | 0, _, _, _ => by simp [reSub]
  | _ + 1, _, [], _ => by simp [reSub]
  | fuel + 1, prev, c :: cs, h => by
      rw [reSub, hfind prev (c :: cs) h]
      simp only
      rw [reSub_eq_self hfind fuel (some c) cs fun x hx => h x (List.mem_cons_of_mem c hx)]

/-- Whether a character matches a lower-case letter when case is ignored. -/
def eqIgnoreCase (letter c : Char) : Bool :=
  c.toLower == letter || (letter == 'i' && (c == 'ı' || c == 'İ')) ||
    (letter == 's' && c == 'ſ') || (letter == 'k' && c == '\u212a')

/-- What follows a word at a position, when case is ignored. -/
def afterWord : List Char → List Char → Option (List Char)
  | [], cs => some cs
  | _ :: _, [] => none
  | w :: ws, c :: cs => if eqIgnoreCase w c then afterWord ws cs else none

theorem afterWord_subset {word cs rest : List Char} (h : afterWord word cs = some rest) :
    ∀ c ∈ rest, c ∈ cs := by
  induction word generalizing cs with
  | nil =>
      obtain rfl := Option.some.inj h
      exact fun c hc => hc
  | cons w ws ih =>
      cases cs with
      | nil => cases h
      | cons c cs =>
          by_cases hw : eqIgnoreCase w c = true
          · rw [afterWord, if_pos hw] at h
            exact fun x hx => List.mem_cons_of_mem c (ih h x hx)
          · rw [afterWord, if_neg hw] at h
            cases h

/-- The match of a word, a separator and a body, whose length `body` gives. -/
def matchWord (word : List Char) (separator : List Char) (body : List Char → Option ℕ)
    (replacement : List Char → List Char) (cs : List Char) : Option (ℕ × List Char) :=
  match afterWord word cs with
  | none => none
  | some rest =>
      if separator.isPrefixOf rest then
        (body (rest.drop separator.length)).map fun n =>
          (word.length + separator.length + n, replacement (cs.take word.length))
      else none

theorem matchWord_eq_none {word : List Char} {s : Char} {separator : List Char}
    {body : List Char → Option ℕ} {replacement : List Char → List Char} {cs : List Char}
    (hs : s ∉ cs) : matchWord word (s :: separator) body replacement cs = none := by
  unfold matchWord
  cases h : afterWord word cs with
  | none => rfl
  | some rest =>
      have hrest : (s :: separator).isPrefixOf rest = false := by
        cases rest with
        | nil => rfl
        | cons c rest =>
            have hc : c ∈ cs := afterWord_subset h c List.mem_cons_self
            have hne : s ≠ c := fun hsc => hs (hsc ▸ hc)
            simp [List.isPrefixOf, hne]
      simp [hrest]

/-- The length of a run of at least one character. -/
def runOf (p : Char → Bool) (cs : List Char) : Option ℕ :=
  let run := cs.takeWhile p
  if run = [] then none else some run.length

/-! ### The patterns -/

variable [Python]

/-- `(?i)(passkey|token|pid)=([^&\s]+)`. -/
def findSecret : Matcher := fun _ cs =>
  ["passkey", "token", "pid"].findSome? fun word =>
    matchWord word.toList ['='] (runOf fun c => c != '&' && !Python.isspace c)
      (fun matched => matched ++ "=[REDACTED]".toList) cs

/-- The length of `\s*[^\r\n]+`: the white space gives back what the rest needs. -/
def headerBody (cs : List Char) : Option ℕ :=
  let blanks := (cs.takeWhile Python.isspace).length
  (List.range (blanks + 1)).reverse.findSome? fun j =>
    (runOf (fun c => c != '\r' && c != '\n') (cs.drop j)).map (j + ·)

/-- `(?i)(authorization|cookie):\s*[^\r\n]+`. -/
def findHeader : Matcher := fun _ cs =>
  ["authorization", "cookie"].findSome? fun word =>
    matchWord word.toList [':'] headerBody
      (fun matched => matched ++ ": [REDACTED]".toList) cs

/-- `(?i)https?://[^\s<>'"]+`. -/
def findUrl : Matcher := fun _ cs =>
  ["https", "http"].findSome? fun word =>
    matchWord word.toList [':', '/', '/']
      (runOf fun c =>
        !Python.isspace c && c != '<' && c != '>' && c.toNat != 39 && c.toNat != 34)
      (fun _ => "[URL_REDACTED]".toList) cs

/-- `\w`. -/
def isWordChar (c : Char) : Bool :=
  Python.isalnum c || c == '_'

/-- `(?i)(?<![\w])(?:[a-z]:[\\/]|\\\\)[^\r\n,;]+`. -/
def findWindowsPath : Matcher := fun prev cs =>
  if prev.any isWordChar then none
  else
    let body := runOf fun c => c != '\r' && c != '\n' && c != ',' && c != ';'
    let replacement := "[PATH_REDACTED]".toList
    let drive : Option (ℕ × List Char) :=
      match cs with
      | letter :: ':' :: slash :: rest =>
          if (letter.isAlpha || letter == 'ı' || letter == 'İ' || letter == 'ſ' || letter == '\u212a')
              && (slash == '\\' || slash == '/') then
            (body rest).map fun n => (3 + n, replacement)
          else none
      | _ => none
    drive.or <|
      match cs with
      | '\\' :: '\\' :: rest => (body rest).map fun n => (2 + n, replacement)
      | _ => none

/-- `(?<![\w:])/(?!/)[^/\s,;]+(?:/[^\s,;]+)*`. -/
def findPosixPath : Matcher := fun prev cs =>
  if prev.any fun c => isWordChar c || c == ':' then none
  else
    match cs with
    | '/' :: rest =>
        let inPath (c : Char) : Bool := !Python.isspace c && c != ',' && c != ';'
        (runOf (fun c => c != '/' && inPath c) rest).map fun n =>
          let tail : ℕ :=
            match rest.drop n with
            | '/' :: more => ((runOf inPath more).map (1 + ·)).getD 0
            | _ => 0
          (1 + n + tail, "[PATH_REDACTED]".toList)
    | _ => none

/-- `sanitize_public_text`: the patterns one after the other. -/
def sanitizePublicText (value : String) : String :=
  String.ofList <|
    [findSecret, findHeader, findUrl, findWindowsPath, findPosixPath].foldl
      (fun cs find => reSub find cs.length none cs) value.toList

/-! ### Redaction of a document -/

/-- `SENSITIVE_KEY.search`. -/
def isSensitiveKey (key : String) : Bool :=
  ["password", "passwd", "cookie", "authorization", "token", "pid", "passkey", "download_url",
    "tracker", "announce"].any fun word =>
      (List.range (key.toList.length + 1)).any fun i =>
        (afterWord word.toList (key.toList.drop i)).isSome

/-- `sanitize_details`. -/
def sanitizeDetails (value : Json) : Json :=
  value.mapText sanitizePublicText fun key =>
    if isSensitiveKey key then some (.str "[REDACTED]") else none

/-! ### Texts with nothing to redact -/

/-- A character that no pattern needs. -/
def PlainChar (c : Char) : Prop :=
  c ≠ '=' ∧ c ≠ ':' ∧ c ≠ '/' ∧ c ≠ '\\'

instance (c : Char) : Decidable (PlainChar c) :=
  inferInstanceAs (Decidable (_ ∧ _))

omit [Python] in
theorem notMem_of_plain {cs : List Char} (h : ∀ c ∈ cs, PlainChar c) {s : Char}
    (hs : ¬ PlainChar s) : s ∉ cs :=
  fun hmem => hs (h s hmem)

theorem findSecret_plain (prev : Option Char) (cs : List Char) (h : ∀ c ∈ cs, PlainChar c) :
    findSecret prev cs = none := by
  have hs : '=' ∉ cs := notMem_of_plain h (by decide)
  simp [findSecret, matchWord_eq_none hs]

theorem findHeader_plain (prev : Option Char) (cs : List Char) (h : ∀ c ∈ cs, PlainChar c) :
    findHeader prev cs = none := by
  have hs : ':' ∉ cs := notMem_of_plain h (by decide)
  simp [findHeader, matchWord_eq_none hs]

theorem findUrl_plain (prev : Option Char) (cs : List Char) (h : ∀ c ∈ cs, PlainChar c) :
    findUrl prev cs = none := by
  have hs : ':' ∉ cs := notMem_of_plain h (by decide)
  simp [findUrl, matchWord_eq_none hs]

theorem findWindowsPath_plain (prev : Option Char) (cs : List Char)
    (h : ∀ c ∈ cs, PlainChar c) : findWindowsPath prev cs = none := by
  have hcolon : ':' ∉ cs := notMem_of_plain h (by decide)
  have hslash : '\\' ∉ cs := notMem_of_plain h (by decide)
  unfold findWindowsPath
  split
  · rfl
  · simp only [Option.or_eq_none_iff]
    refine ⟨?_, ?_⟩
    · split
      · simp at hcolon
      · rfl
    · split
      · simp at hslash
      · rfl

theorem findPosixPath_plain (prev : Option Char) (cs : List Char)
    (h : ∀ c ∈ cs, PlainChar c) : findPosixPath prev cs = none := by
  have hslash : '/' ∉ cs := notMem_of_plain h (by decide)
  unfold findPosixPath
  split
  · rfl
  · split
    · simp at hslash
    · rfl

/-- **A text with none of the characters that the patterns need is left alone.** -/
theorem sanitizePublicText_eq_self {value : String} (h : ∀ c ∈ value.toList, PlainChar c) :
    sanitizePublicText value = value := by
  unfold sanitizePublicText
  simp only [List.foldl_cons, List.foldl_nil]
  rw [reSub_eq_self findSecret_plain _ _ _ h, reSub_eq_self findHeader_plain _ _ _ h,
    reSub_eq_self findUrl_plain _ _ _ h, reSub_eq_self findWindowsPath_plain _ _ _ h,
    reSub_eq_self findPosixPath_plain _ _ _ h, String.ofList_toList]

end LibSeek.Core
