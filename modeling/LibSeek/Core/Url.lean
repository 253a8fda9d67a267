/-
The parser of URLs.

Most services take what `urllib.parse.urlsplit` answers as given.  The stored configuration needs
more: an address is written back without its trailing slashes and parsed again when it is read, so
what the parser says of the shorter text matters.  This module embeds the parser on lists of
characters, with the rules of it that rest on Unicode data or on the grammar of numeric
addresses as parameters.

Main definitions:

* `Core.UrlText` — the runtime with these parameters;
* `Core.splitScheme`, `Core.splitNetloc` — the two cuts of the parser;
* `Core.urlsplit` — `urllib.parse.urlsplit`, with the properties of its result.

Main results:

* `Core.urlsplit_rstripSlash` — **an origin is still the same origin without its trailing
  slashes**.
-/

import LibSeek.Core.Ascii
import Mathlib.Data.List.TakeDrop
import Mathlib.Data.List.TakeWhile

set_option relaxedAutoImplicit false
set_option autoImplicit false

namespace LibSeek.Core

/-! ### Cutting a text -/

/-- `str.rpartition`: the part before the last occurrence of a character, if it occurs, and the
part after it. -/
def rpartitionAt (separator : Char) (cs : List Char) : Option (List Char) × List Char :=
  let tail := (cs.reverse.takeWhile (· ≠ separator)).reverse
  if cs.contains separator then (some (cs.take (cs.length - tail.length - 1)), tail)
  else (none, cs)

/-- What is cut off at the first character of a kind is cut off in every longer text. -/
theorem cut_append {p : Char → Bool} {cs back : List Char} {c : Char}
    (h : cs.dropWhile p = c :: back) (ds : List Char) :
    (cs ++ ds).takeWhile p = cs.takeWhile p ∧ (cs ++ ds).dropWhile p = c :: back ++ ds := by
  have hdrop : (cs ++ ds).dropWhile p = c :: back ++ ds := by
    rw [List.dropWhile_append, h]
    rfl
  refine ⟨?_, hdrop⟩
  -- both cuts leave the same text behind, so they take the same one
  have hwhole := List.takeWhile_append_dropWhile (p := p) (l := cs ++ ds)
  rw [hdrop, ← h, ← List.append_assoc] at hwhole
  have hfront := List.append_cancel_right hwhole
  have hcs := List.takeWhile_append_dropWhile (p := p) (l := cs)
  exact List.append_cancel_right (hfront.trans hcs.symm)

/-- A text without a character of a kind is taken as a whole. -/
theorem takeWhile_eq_of_dropWhile_eq_nil {p : Char → Bool} {cs : List Char}
    (h : cs.dropWhile p = []) : cs.takeWhile p = cs := by
  have hwhole := List.takeWhile_append_dropWhile (p := p) (l := cs)
  rwa [h, List.append_nil] at hwhole

/-- The first character that is not taken. -/
theorem head_dropWhile {p : Char → Bool} {cs back : List Char} {c : Char}
    (h : cs.dropWhile p = c :: back) : p c = false := by
  have hhead := List.head?_dropWhile_not p cs
  rw [h] at hhead
  simpa using hhead

/-- A text with nothing after the first occurrence of a character that is not its last one is not
cut at all. -/
theorem partitionAt_concat {separator x : Char} {cs : List Char} (hx : x ≠ separator)
    (h : (partitionAt separator (cs ++ [x])).2 = []) :
    partitionAt separator (cs ++ [x]) = (cs ++ [x], []) := by
  rw [partitionAt, List.span_eq_takeWhile_dropWhile] at h ⊢
  cases hdrop : (cs ++ [x]).dropWhile (· ≠ separator) with
  | nil =>
      have htake := takeWhile_eq_of_dropWhile_eq_nil hdrop
      simp only [htake, List.drop_nil]
  | cons c back =>
      -- the text would end in the separator
      simp only [hdrop, List.drop_succ_cons, List.drop_zero] at h
      have hc : c = separator := by
        have hhead := head_dropWhile hdrop
        simpa using hhead
      have hwhole := List.takeWhile_append_dropWhile (p := (· ≠ separator)) (l := cs ++ [x])
      rw [hdrop, h, hc] at hwhole
      have hlast := List.append_inj_right' hwhole rfl
      exact absurd (List.cons.inj hlast).1.symm hx

/-! ### The parser -/

/-- The runtime with the parts of the parser that are parameters: `str.lower` on the text of a
host, and the checks of a network location, which are that its compatibility normalisation has no
delimiter and that what it has between brackets is a numeric address.  Of the white space it is
only assumed that no Latin letter is white space. -/
class UrlText extends Python where
  lower : List Char → List Char
  checkNetloc : List Char → Bool
  isspace_letter : ∀ c : Char, c.isAlpha = true → isspace c = false

/-- `_WHATWG_C0_CONTROL_OR_SPACE`. -/
def isC0OrSpace (c : Char) : Bool :=
  c.toNat ≤ 32

/-- `_UNSAFE_URL_BYTES_TO_REMOVE`. -/
def isUnsafeByte (c : Char) : Bool :=
  c == '\t' || c == '\r' || c == '\n'

/-- `scheme_chars`. -/
def isSchemeChar (c : Char) : Bool :=
  c.isAlphanum || c == '+' || c == '-' || c == '.'

/-- The text that is parsed: without the control characters and blanks at its front, and without
the tabs and line breaks anywhere. -/
def cleanUrl (cs : List Char) : List Char :=
  (cs.dropWhile isC0OrSpace).filter fun c => !isUnsafeByte c

/-- The scheme, in lower case, and what follows its colon. -/
def splitScheme (url : List Char) : List Char × List Char :=
  match url.takeWhile (· ≠ ':'), url.dropWhile (· ≠ ':') with
  | c :: cs, _ :: rest =>
      if c.isAlpha && (c :: cs).all isSchemeChar then ((c :: cs).map Char.toLower, rest)
      else ([], url)
  | _, _ => ([], url)

/-- The characters that end a network location. -/
def endsNetloc (c : Char) : Bool :=
  c == '/' || c == '?' || c == '#'

/-- The network location, which follows two slashes, and what follows it. -/
def splitNetloc : List Char → List Char × List Char
  | '/' :: '/' :: rest => (rest.takeWhile (!endsNetloc ·), rest.dropWhile (!endsNetloc ·))
  | url => ([], url)

/-- `SplitResult.port` of the text after the colon of a host. -/
def portValue (digits : List Char) : Option (Option ℕ) :=
  if digits = [] then some none
  else if digits.all (fun c => '0' ≤ c && c ≤ '9') && decimalValue digits ≤ 65535 then
    some (some (decimalValue digits))
  else none

/-- `_hostinfo`: the host of a network location, and the text of its port. -/
def hostinfo (netloc : List Char) : List Char × List Char :=
  let info := (rpartitionAt '@' netloc).2
  if info.contains '[' then
    let bracketed := (partitionAt '[' info).2
    ((partitionAt ']' bracketed).1, (partitionAt ':' (partitionAt ']' bracketed).2).2)
  else partitionAt ':' info

section Parser

variable [UrlText]

/-- `SplitResult.hostname`: in lower case, but for the zone of a numeric address. -/
def hostnameOf (netloc : List Char) : Option String :=
  let host := (hostinfo netloc).1
  if host = [] then none
  else
    let (name, zone) := (host.takeWhile (· ≠ '%'), host.dropWhile (· ≠ '%'))
    some (String.ofList (UrlText.lower name ++ zone))

/-- The parts of a text whose scheme, network location and rest are given. -/
def splitResult (scheme netloc rest : List Char) : SplitResult :=
  let body := (partitionAt '#' rest).1
  let userinfo := (rpartitionAt '@' netloc).1
  { scheme := String.ofList scheme
    hostname := hostnameOf netloc
    port := portValue (hostinfo netloc).2
    username := userinfo.map fun u => String.ofList (partitionAt ':' u).1
    password := (userinfo.filter (·.contains ':')).map fun u =>
      String.ofList (partitionAt ':' u).2
    path := String.ofList (partitionAt '?' body).1
    query := String.ofList (partitionAt '?' body).2
    fragment := String.ofList (partitionAt '#' rest).2 }

/-- `urllib.parse.urlsplit`; nothing where it raises `ValueError`. -/
def urlsplit (s : String) : Option SplitResult :=
  let scheme := splitScheme (cleanUrl s.toList)
  let netloc := splitNetloc scheme.2
  if netloc.1.contains '[' ≠ netloc.1.contains ']' ∨ UrlText.checkNetloc netloc.1 = false then none
  else some (splitResult scheme.1 netloc.1 netloc.2)

/-! ### The trailing slash -/

omit [UrlText] in
/-- Only the front of a text is cleaned of blanks. -/
theorem cleanUrl_concat_slash (cs : List Char) : cleanUrl (cs ++ ['/']) = cleanUrl cs ++ ['/'] := by
  rw [cleanUrl, cleanUrl, List.dropWhile_append]
  cases h : cs.dropWhile isC0OrSpace with
  | nil => rfl
  | cons c back =>
      simp only [List.isEmpty_cons, Bool.false_eq_true, if_false, List.filter_append]
      rfl

omit [UrlText] in
/-- A slash at the end does not belong to the scheme. -/
theorem splitScheme_concat_slash {url : List Char} (h : (splitScheme (url ++ ['/'])).1 ≠ []) :
    splitScheme (url ++ ['/']) = ((splitScheme url).1, (splitScheme url).2 ++ ['/']) := by
  cases hcut : url.dropWhile (· ≠ ':') with
  | nil =>
      -- without a colon there is no scheme
      have hnone : (url ++ ['/']).dropWhile (· ≠ ':') = [] := by
        rw [List.dropWhile_append, hcut]
        rfl
      refine absurd ?_ h
      rw [splitScheme, hnone]
      split
      · contradiction
      · rfl
  | cons c rest =>
      obtain ⟨htake, hdrop⟩ := cut_append hcut ['/']
      rw [splitScheme, splitScheme, htake, hdrop, hcut]
      rw [splitScheme, htake, hdrop] at h
      cases hscheme : url.takeWhile (· ≠ ':') with
      | nil => rfl
      | cons d scheme =>
          simp only [hscheme, List.cons_append] at h ⊢
          by_cases hok : (d.isAlpha && (d :: scheme).all isSchemeChar) = true
          · rw [if_pos hok, if_pos hok]
          · rw [if_neg hok] at h
            exact absurd rfl h

omit [UrlText] in
/-- The scheme is cut off at the front. -/
theorem splitScheme_suffix (url : List Char) : ∃ front, url = front ++ (splitScheme url).2 := by
  rw [splitScheme]
  split
  case h_1 c cs d rest htake hdrop =>
      split
      · refine ⟨url.takeWhile (· ≠ ':') ++ [d], ?_⟩
        rw [List.append_assoc, List.singleton_append, ← hdrop, List.takeWhile_append_dropWhile]
      · exact ⟨[], rfl⟩
  · exact ⟨[], rfl⟩

omit [UrlText] in
/-- A network location follows two slashes. -/
theorem splitNetloc_cases (url : List Char) :
    splitNetloc url = ([], url) ∨ ∃ rest, url = '/' :: '/' :: rest ∧
      splitNetloc url = (rest.takeWhile (!endsNetloc ·), rest.dropWhile (!endsNetloc ·)) := by
  unfold splitNetloc
  split
  · exact Or.inr ⟨_, rfl, rfl⟩
  · exact Or.inl rfl

omit [UrlText] in
/-- A slash at the end does not belong to the network location. -/
theorem splitNetloc_concat_slash {url : List Char} (h : (splitNetloc (url ++ ['/'])).1 ≠ []) :
    splitNetloc (url ++ ['/']) = ((splitNetloc url).1, (splitNetloc url).2 ++ ['/']) := by
  rcases splitNetloc_cases (url ++ ['/']) with hnone | ⟨rest, hurl, hcut⟩
  · rw [hnone] at h
    exact absurd rfl h
  · cases hrest : rest.reverse with
    | nil =>
        -- nothing follows the two slashes
        rw [List.reverse_eq_nil_iff] at hrest
        rw [hcut, hrest] at h
        exact absurd rfl h
    | cons c front =>
        have hconcat : rest = front.reverse ++ [c] := by
          rw [← List.reverse_reverse rest, hrest, List.reverse_cons]
        rw [hconcat, ← List.cons_append, ← List.cons_append] at hurl
        obtain ⟨rfl, hslash⟩ := List.append_inj' hurl rfl
        obtain rfl := (List.cons.inj hslash).1
        rw [hcut, hconcat, splitNetloc]
        cases hdrop : front.reverse.dropWhile (!endsNetloc ·) with
        | nil =>
            have htake := takeWhile_eq_of_dropWhile_eq_nil hdrop
            have hall : ∀ c ∈ front.reverse, (!endsNetloc c) = true := by
              intro c hc
              rw [← htake] at hc
              exact List.mem_takeWhile_imp (p := (!endsNetloc ·)) hc
            rw [List.takeWhile_append_of_pos hall, List.dropWhile_append, hdrop, htake]
            simp [endsNetloc]
        | cons e back =>
            obtain ⟨htake, hdrop'⟩ := cut_append hdrop ['/']
            rw [htake, hdrop']

omit [UrlText] in
/-- A text that ends with its network location does not end with a slash. -/
theorem getLast?_ne_slash {url : List Char} (hlocation : (splitNetloc (splitScheme url).2).1 ≠ [])
    (hrest : (splitNetloc (splitScheme url).2).2 = []) : url.getLast? ≠ some '/' := by
  obtain ⟨front, hfront⟩ := splitScheme_suffix url
  rcases splitNetloc_cases (splitScheme url).2 with hnone | ⟨rest, hafter, hcut⟩
  · rw [hnone] at hlocation
    exact absurd rfl hlocation
  · rw [hcut] at hlocation hrest
    have htake := takeWhile_eq_of_dropWhile_eq_nil hrest
    rw [hafter] at hfront
    intro hlast
    have hne : rest ≠ [] := by
      rintro rfl
      exact hlocation rfl
    have hmem : '/' ∈ rest := by
      rw [hfront, List.getLast?_append, List.getLast?_cons_cons, List.getLast?_cons] at hlast
      rw [List.getLast?_eq_some_getLast hne] at hlast
      have hslash : rest.getLast hne = '/' := by simpa using hlast
      rw [← hslash]
      exact List.getLast_mem hne
    rw [← htake] at hmem
    have hkept := List.mem_takeWhile_imp hmem
    cases hkept

omit [UrlText] in
/-- A text that does not end with a slash has no trailing slashes. -/
theorem rstripSlash_eq_self {s : String} (h : s.toList.getLast? ≠ some '/') :
    rstripSlash s = s := by
  rw [rstripSlash]
  cases hrev : s.toList.reverse with
  | nil =>
      rw [List.reverse_eq_nil_iff] at hrev
      rw [← String.toList_inj, hrev]
      rfl
  | cons c cs =>
      have hlast : s.toList.getLast? = some c := by
        rw [← List.head?_reverse, hrev]
        rfl
      have hc : (c == '/') = false := by
        rw [hlast] at h
        exact beq_false_of_ne fun hc => h (congrArg some hc)
      rw [List.dropWhile_cons_of_neg (by simp [hc]), ← hrev, List.reverse_reverse,
        String.ofList_toList]

omit [UrlText] in
/-- Removing the trailing slashes leaves none. -/
theorem getLast?_rstripSlash (s : String) : (rstripSlash s).toList.getLast? ≠ some '/' := by
  intro h
  rw [rstripSlash, String.toList_ofList, List.getLast?_reverse] at h
  have hhead := List.head?_dropWhile_not (· == '/') s.toList.reverse
  rw [h] at hhead
  cases hhead

omit [UrlText] in
/-- Removing the trailing slashes twice is removing them once. -/
theorem rstripSlash_rstripSlash (s : String) : rstripSlash (rstripSlash s) = rstripSlash s :=
  rstripSlash_eq_self (getLast?_rstripSlash s)

omit [UrlText] in
/-- One slash at the end of a text that does not end with one is the only one that is removed. -/
theorem rstripSlash_concat {cs : List Char} (h : cs.getLast? ≠ some '/') :
    rstripSlash (String.ofList (cs ++ ['/'])) = String.ofList cs := by
  have hself := rstripSlash_eq_self (s := String.ofList cs) (by rwa [String.toList_ofList])
  rw [← hself, rstripSlash, rstripSlash, String.toList_ofList, String.toList_ofList,
    List.reverse_append, List.reverse_singleton, List.singleton_append,
    List.dropWhile_cons_of_pos (by decide)]

/-- The parsed text of an address that ends with its only slash. -/
theorem urlsplit_concat_slash {cs : List Char} {r : SplitResult}
    (h : urlsplit (String.ofList (cs ++ ['/'])) = some r) (hscheme : r.scheme ≠ "")
    (hhost : r.hostname ≠ none) (hpath : r.path = "" ∨ r.path = "/") (hquery : r.query = "")
    (hfragment : r.fragment = "") :
    cs.getLast? ≠ some '/' ∧ urlsplit (String.ofList cs) = some { r with path := "" } := by
  rw [urlsplit, String.toList_ofList, cleanUrl_concat_slash] at h
  split at h
  · cases h
  rename_i hchecks
  rw [Option.some_inj] at h
  subst h
  -- the slash is neither in the scheme nor in the location
  have hne : (splitScheme (cleanUrl cs ++ ['/'])).1 ≠ [] := by
    intro hnil
    exact hscheme (by rw [splitResult, hnil])
  have hcut := splitScheme_concat_slash hne
  rw [hcut] at hchecks hscheme hhost hpath hquery hfragment ⊢
  have hlocation : (splitNetloc ((splitScheme (cleanUrl cs)).2 ++ ['/'])).1 ≠ [] := by
    intro hnil
    exact hhost (by rw [splitResult, hnil]; rfl)
  have hcut' := splitNetloc_concat_slash hlocation
  rw [hcut'] at hchecks hscheme hhost hpath hquery hfragment hlocation ⊢
  generalize hrest : (splitNetloc (splitScheme (cleanUrl cs)).2).2 = rest at *
  -- nor behind a mark of a fragment or of a query, so it is the path
  have hbody := @partitionAt_concat '#' '/' rest (by decide)
    (by rw [← String.toList_inj, splitResult, String.toList_ofList] at hfragment; exact hfragment)
  have hwhole := @partitionAt_concat '?' '/' rest (by decide)
    (by
      rw [← String.toList_inj, splitResult, String.toList_ofList, hbody] at hquery
      exact hquery)
  have hnil : rest = [] := by
    rw [← String.toList_inj, ← String.toList_inj, splitResult, String.toList_ofList, hbody,
      hwhole] at hpath
    rcases hpath with hpath | hpath
    · exact absurd hpath (List.append_ne_nil_of_right_ne_nil _ (List.cons_ne_nil _ _))
    · exact List.append_cancel_right (hpath : rest ++ ['/'] = [] ++ ['/'])
  subst hnil
  refine ⟨?_, ?_⟩
  · have hlast := getLast?_ne_slash hlocation hrest
    intro hslash
    obtain ⟨front, rfl⟩ := List.getLast?_eq_some_iff.mp hslash
    rw [cleanUrl_concat_slash, List.getLast?_concat] at hlast
    exact hlast rfl
  · rw [urlsplit, String.toList_ofList]
    rw [if_neg hchecks, hrest]
    rfl

/-- **An origin is still the same origin without its trailing slashes**: only its path, which is
empty or one slash, may change. -/
theorem urlsplit_rstripSlash {s : String} {r : SplitResult} (h : urlsplit s = some r)
    (hscheme : r.scheme ≠ "") (hhost : r.hostname ≠ none) (hpath : r.path = "" ∨ r.path = "/")
    (hquery : r.query = "") (hfragment : r.fragment = "") :
    ∃ path, (path = "" ∨ path = "/") ∧
      urlsplit (rstripSlash s) = some { r with path := path } := by
  by_cases hlast : s.toList.getLast? = some '/'
  · obtain ⟨front, hfront⟩ := List.getLast?_eq_some_iff.mp hlast
    rw [← String.ofList_toList (s := s), hfront] at h ⊢
    obtain ⟨hfront, hsplit⟩ := urlsplit_concat_slash h hscheme hhost hpath hquery hfragment
    rw [rstripSlash_concat hfront]
    exact ⟨"", Or.inl rfl, hsplit⟩
  · rw [rstripSlash_eq_self hlast]
    exact ⟨r.path, hpath, h⟩

end Parser

/-- The parameters of the parser on ASCII texts without brackets. -/
@[reducible] def asciiUrlText : UrlText where
  toPython := asciiPython
  lower := List.map Char.toLower
  checkNetloc _ := true
  isspace_letter c h := by
    have hbounds : (65 ≤ c.toNat ∧ c.toNat ≤ 90) ∨ (97 ≤ c.toNat ∧ c.toNat ≤ 122) := by
      simpa [Char.isAlpha, Char.isUpper, Char.isLower, UInt32.le_iff_toNat_le] using h
    show latinIsspace c = false
    simp only [latinIsspace, Bool.or_eq_false_iff, Bool.and_eq_false_iff, decide_eq_false_iff_not,
      beq_eq_false_iff_ne]
    omega

end LibSeek.Core
