/-
The runtime on ASCII.

An instance of the parameters of the model that behaves as the standard library does on ASCII
texts, on addresses without brackets and on absolute Windows paths.  Concrete runs of the services
are evaluated with it.

Main definitions:

* `Core.asciiUrlsplit`, `Core.asciiWindowsPath` — the parsers of URLs and of Windows paths;
* `Core.asciiPython` — the instance.
-/

import LibSeek.Core.Runtime

set_option relaxedAutoImplicit false
set_option autoImplicit false

namespace LibSeek.Core

/-! ### URLs -/

/-- The number that a run of decimal digits writes. -/
def decimalValue (cs : List Char) : ℕ :=
  cs.foldl (fun n c => 10 * n + (c.toNat - 48)) 0

/-- The port of a network location, which follows a colon; nothing where it is not a number. -/
def asciiPort : List Char → Option (Option ℕ)
  | [] => some none
  | [_] => some none
  | _ :: digits =>
      if digits.all (fun c => '0' ≤ c && c ≤ '9') && decimalValue digits ≤ 65535 then
        some (some (decimalValue digits))
      else none

/-- The part of a text before a character, and the part after it. -/
def partitionAt (separator : Char) (cs : List Char) : List Char × List Char :=
  let parts := cs.span (· ≠ separator)
  (parts.1, parts.2.drop 1)

/-- `urllib.parse.urlsplit` on an address with a scheme and a network location. -/
def asciiUrlsplit (s : String) : Option SplitResult :=
  let (scheme, rest) := s.toList.span (· ≠ ':')
  match rest with
  | ':' :: '/' :: '/' :: rest =>
      let (netloc, rest) := rest.span fun c => c ≠ '/' && c ≠ '?' && c ≠ '#'
      let (body, fragment) := partitionAt '#' rest
      let (path, query) := partitionAt '?' body
      let userinfo : Option (List Char) :=
        if netloc.contains '@' then some (netloc.takeWhile (· ≠ '@')) else none
      let hostinfo := if netloc.contains '@' then (partitionAt '@' netloc).2 else netloc
      let (host, port) := hostinfo.span (· ≠ ':')
      some
        { scheme := String.ofList (scheme.map Char.toLower)
          hostname := if host = [] then none else some (String.ofList (host.map Char.toLower))
          port := asciiPort port
          username := userinfo.map fun u => String.ofList (u.takeWhile (· ≠ ':'))
          password := (userinfo.filter (·.contains ':')).map fun u =>
            String.ofList (partitionAt ':' u).2
          path := String.ofList path
          query := String.ofList query
          fragment := String.ofList fragment }
  | _ =>
      some
        { scheme := ""
          hostname := none
          port := some none
          username := none
          password := none
          path := s
          query := ""
          fragment := "" }

/-! ### Windows paths -/

/-- `pathlib.PureWindowsPath` on a path that begins with a drive letter; the comparison of such
paths ignores case. -/
def asciiWindowsPath (s : String) : PurePath :=
  let cs := s.toList.map fun c => if c = '/' then '\\' else c.toLower
  match cs with
  | letter :: ':' :: rest =>
      { anchor := String.ofList (letter :: ':' :: rest.take 1)
        isAbsolute := rest.head? = some '\\'
        names := ((rest.splitOn '\\').filter fun n => n != [] && n != ['.']).map String.ofList }
  | _ =>
      { anchor := ""
        isAbsolute := false
        names := ((cs.splitOn '\\').filter fun n => n != [] && n != ['.']).map String.ofList }

/-! ### The instance -/

/-- The case folding of an ASCII character. -/
def asciiCasefold (c : Char) : List Char :=
  [c.toLower]

/-- The white space among the characters of Latin-1. -/
def latinIsspace (c : Char) : Bool :=
  (9 ≤ c.toNat && c.toNat ≤ 13) || (28 ≤ c.toNat && c.toNat ≤ 32) || c.toNat == 133 ||
    c.toNat == 160

/-- The runtime on ASCII.  The instant that `isoformat` writes is the first one of 1970. -/
@[reducible] def asciiPython : Python where
  casefoldChar := asciiCasefold
  casefoldChar_lower _ h := congrArg (fun c => [c]) (toLower_eq_self h)
  isprintable c := !(c.toNat < 32 || (127 ≤ c.toNat && c.toNat ≤ 160))
  isspace := latinIsspace
  isalnum := Char.isAlphanum
  isoformat _ := "1970-01-01T00:00:00+00:00"
  urlsplit := asciiUrlsplit
  pureWindowsPath := asciiWindowsPath

end LibSeek.Core
