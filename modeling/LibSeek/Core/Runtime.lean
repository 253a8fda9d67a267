/-
The runtime the services are written against.

The services are written in a language whose strings are sequences of Unicode code points and
whose string methods consult the Unicode database; they report a refused request by an `AppError`
and learn of a violated database constraint by an `IntegrityError`.  This module fixes what the
model uses of that runtime.  The Unicode database and the parsers of URLs and of Windows paths are
parameters of the model, in the class `Python`.

Main definitions:

* `Core.AppError`, `Core.Exn` — the exceptions of the services;
* `Core.DateTime` — an instant, in microseconds of coordinated universal time;
* `Core.Python` — the Unicode database and the parsers that are parameters;
* `Core.strip`, `Core.split`, `Core.casefold`, `Core.lowerHex` — the string methods used;
* `Core.isInfoHash`, `Core.portableHexCheck` — the shapes of the hash columns;
* `Core.Uuid` — an identifier that `new_id` returns.
-/

import LibSeek.Lib.Digest

set_option relaxedAutoImplicit false
set_option autoImplicit false

namespace LibSeek.Core

/-! ### Exceptions -/

/-- A value in the details of an error or of a pre-flight check. -/
inductive Scalar where
  | str (value : String)
  | int (value : Int)
  | bool (value : Bool)
  | list (values : List String)
  deriving DecidableEq, Repr

/-- An error of a service. -/
structure AppError where
  errorCode : String
  message : String
  statusCode : ℕ := 400
  retryable : Bool := false
  details : List (String × Scalar) := []
  deriving DecidableEq, Repr

/-- What a unit of work can raise: an error of a service, the violation of a database constraint,
or any other exception. -/
inductive Exn where
  | app (error : AppError)
  | integrity
  | other (name : String)
  deriving DecidableEq, Repr

/-- The code of an error of a service. -/
def Exn.errorCode? : Exn → Option String
  | app e => some e.errorCode
  | _ => none

/-- The error of a refused request. -/
abbrev conflict (errorCode message : String) : AppError :=
  { errorCode, message, statusCode := 409 }

/-! ### Instants -/

/-- An instant, in microseconds of coordinated universal time.  A naive date of the source stands
for the same instant (`_as_utc`). -/
abbrev DateTime := Int

/-- `timedelta(seconds=…)`. -/
def seconds (n : Int) : Int :=
  n * 1000000

/-- `timedelta(minutes=…)`. -/
def minutes (n : Int) : Int :=
  seconds (n * 60)

/-! ### Strings -/

/-- The parts of a URL that `urlsplit` returns. -/
structure SplitResult where
  scheme : String
  hostname : Option String
  /-- The port, or nothing where reading it raises `ValueError`. -/
  port : Option (Option ℕ)
  username : Option String
  password : Option String
  path : String
  query : String
  fragment : String
  deriving DecidableEq, Repr

/-- A parsed path: its drive and root, and the names below it. -/
structure PurePath where
  anchor : String
  isAbsolute : Bool
  names : List String
  deriving DecidableEq, Repr

/-- The parts of the runtime that are not modelled: the Unicode database behind the string
methods, and the parsers of URLs and of Windows paths.  Of the case folding it is only assumed
that it leaves the digits and the small Latin letters as they are. -/
class Python where
  /-- The full case folding of a code point. -/
  casefoldChar : Char → List Char
  casefoldChar_lower : ∀ c : Char, ('0' ≤ c ∧ c ≤ '9') ∨ ('a' ≤ c ∧ c ≤ 'z') → casefoldChar c = [c]
  /-- Whether `str.isprintable` accepts a code point. -/
  isprintable : Char → Bool
  /-- Whether `str.isspace` accepts a code point. -/
  isspace : Char → Bool
  /-- Whether `str.isalnum` accepts a code point. -/
  isalnum : Char → Bool
  /-- `datetime.isoformat`. -/
  isoformat : DateTime → String
  /-- `urllib.parse.urlsplit`; nothing where it raises `ValueError`. -/
  urlsplit : String → Option SplitResult
  /-- `pathlib.PureWindowsPath`. -/
  pureWindowsPath : String → PurePath

section Strings

variable [Python]

/-- `str.casefold`. -/
def casefold (s : String) : String :=
  String.ofList (s.toList.flatMap Python.casefoldChar)

/-- Case folding leaves a text of digits and small Latin letters as it is. -/
theorem casefold_eq_self {s : String}
    (h : ∀ c ∈ s.toList, ('0' ≤ c ∧ c ≤ '9') ∨ ('a' ≤ c ∧ c ≤ 'z')) : casefold s = s := by
  have hflat : ∀ cs : List Char, (∀ c ∈ cs, ('0' ≤ c ∧ c ≤ '9') ∨ ('a' ≤ c ∧ c ≤ 'z')) →
      cs.flatMap Python.casefoldChar = cs := by
    intro cs
    induction cs with
    | nil => exact fun _ => rfl
    | cons c cs ih =>
        intro hcs
        rw [List.flatMap_cons, Python.casefoldChar_lower c (hcs c List.mem_cons_self),
          ih fun d hd => hcs d (List.mem_cons_of_mem c hd)]
        rfl
  rw [casefold, hflat _ h, String.ofList_toList]

/-- `str.isprintable`. -/
def isprintable (s : String) : Bool :=
  s.toList.all Python.isprintable

/-- `str.strip` of a list of characters. -/
def stripList (cs : List Char) : List Char :=
  ((cs.dropWhile Python.isspace).reverse.dropWhile Python.isspace).reverse

/-- `str.strip`. -/
def strip (s : String) : String :=
  String.ofList (stripList s.toList)

/-- `str.split` without a separator: the maximal runs of characters that are not white space. -/
def split (s : String) : List String :=
  ((s.toList.splitOnP Python.isspace).filter (· ≠ [])).map String.ofList

/-- `" ".join(s.split())`. -/
def joinWords (s : String) : String :=
  String.ofList ([' '].intercalate ((split s).map String.toList))

/-- The truth value of `s.strip()`. -/
def isBlank (s : String) : Bool :=
  s.toList.all Python.isspace

end Strings

/-- `str.lower` on the characters of a hexadecimal text. -/
def lowerHex (s : String) : String :=
  String.ofList (s.toList.map Char.toLower)

/-- `s.startswith(p)`. -/
def startswith (s p : String) : Bool :=
  p.toList.isPrefixOf s.toList

/-- `s[:n]`. -/
def takeStr (s : String) (n : ℕ) : String :=
  String.ofList (s.toList.take n)

/-- `c in s` for a character. -/
def containsChar (s : String) (c : Char) : Bool :=
  s.toList.contains c

/-- `s.rstrip("/")`. -/
def rstripSlash (s : String) : String :=
  String.ofList ((s.toList.reverse.dropWhile (· == '/')).reverse)

/-! ### Shapes of the hash columns -/

/-- `^(?:[0-9a-f]{40}|[0-9a-f]{64})$`. -/
def isInfoHash (s : String) : Bool :=
  Lib.Digest.isHex 40 s || Lib.Digest.isHex 64 s

/-- A digit or a small letter is its own lower case. -/
theorem toLower_eq_self {c : Char} (h : ('0' ≤ c ∧ c ≤ '9') ∨ ('a' ≤ c ∧ c ≤ 'z')) :
    c.toLower = c := by
  have hupper : ¬ (c.val ≥ 'A'.val ∧ c.val ≤ 'Z'.val) := by
    rintro ⟨hA, hZ⟩
    rcases h with ⟨-, h9⟩ | ⟨ha, -⟩
    · exact absurd (UInt32.le_trans hA h9) (by decide)
    · exact absurd (UInt32.le_trans ha hZ) (by decide)
  rw [Char.toLower, dif_neg hupper]

/-- The characters of a hexadecimal text. -/
theorem char_of_isHex {n : ℕ} {s : String} (h : Lib.Digest.isHex n s = true) :
    ∀ c ∈ s.toList, ('0' ≤ c ∧ c ≤ '9') ∨ ('a' ≤ c ∧ c ≤ 'z') := by
  intro c hc
  have hall := (Bool.and_eq_true_iff.mp h).2
  have hchar := List.all_eq_true.mp hall c hc
  simp only [Bool.or_eq_true, Bool.and_eq_true, decide_eq_true_eq] at hchar
  rcases hchar with hdigit | hletter
  · exact Or.inl hdigit
  · exact Or.inr ⟨hletter.1, Nat.le_trans hletter.2 (by decide : 'f' ≤ 'z')⟩

/-- Turning a hexadecimal text to lower case leaves it as it is. -/
theorem lowerHex_of_isInfoHash {s : String} (h : isInfoHash s = true) : lowerHex s = s := by
  have hchars : ∀ c ∈ s.toList, ('0' ≤ c ∧ c ≤ '9') ∨ ('a' ≤ c ∧ c ≤ 'z') := by
    rcases Bool.or_eq_true_iff.mp h with h | h
    · exact char_of_isHex h
    · exact char_of_isHex h
  rw [lowerHex, List.map_congr_left fun c hc => toLower_eq_self (hchars c hc), List.map_id',
    String.ofList_toList]

/-- Case folding leaves a hexadecimal text as it is. -/
theorem casefold_of_isHex [Python] {n : ℕ} {s : String} (h : Lib.Digest.isHex n s = true) :
    casefold s = s :=
  casefold_eq_self (char_of_isHex h)

theorem casefold_of_isInfoHash [Python] {s : String} (h : isInfoHash s = true) :
    casefold s = s := by
  rcases Bool.or_eq_true_iff.mp h with h | h
  · exact casefold_of_isHex h
  · exact casefold_of_isHex h

/-- There are ten digits. -/
instance neZero_ten : NeZero (10 : ℕ) := ⟨by decide⟩

instance lawfulBEq_texts : LawfulBEq (List String) := inferInstance

instance lawfulBEq_bytes : LawfulBEq (List UInt8) := inferInstance

/-- A text that `new_id` returns: 36 lower-case hexadecimal digits and dashes. -/
structure Uuid where
  text : String
  shape : text.toList.length = 36 ∧
    text.toList.all (fun c => ('0' ≤ c && c ≤ '9') || ('a' ≤ c && c ≤ 'f') || c == '-') = true
  deriving DecidableEq, Repr

/-- `portable_hex_check`: an absent hash, or lower-case hexadecimal digits of one of the given
lengths. -/
def portableHexCheck (lengths : List ℕ) : Option String → Bool
  | none => true
  | some s => lengths.any fun n => Lib.Digest.isHex n s

end LibSeek.Core
