/-
Shell patterns and file paths.

The version rules of the pre-flight are shell patterns, and the save path is compared with the
allowed ones as a path rather than as a text.  This module embeds the two functions of the
standard library that do it: `fnmatch.fnmatchcase`, and `pathlib.PurePosixPath` with its order of
ancestors.

Main definitions:

* `Core.fnmatchcase` — matching a shell pattern;
* `Core.purePosixPath`, `Core.PurePath.isAtOrBelow` — a parsed path, and the paths below another.
-/

import LibSeek.Core.Runtime

set_option relaxedAutoImplicit false
set_option autoImplicit false

namespace LibSeek.Core

/-! ### Shell patterns -/

/-- A piece of a shell pattern. -/
inductive GlobToken where
  | star
  | any
  | literal (c : Char)
  | set (negated : Bool) (ranges : List (Char × Char))
  deriving DecidableEq, Repr

/-- The ranges of the body of a bracket: `a-z` is a range, any other character stands for itself. -/
def globRanges : List Char → List (Char × Char)
  | a :: '-' :: b :: cs => (a, b) :: globRanges cs
  | a :: cs => (a, a) :: globRanges cs
  | [] => []

/-- The end of the body of a bracket: a `]` that is not the first character of the body. -/
def globBody (cs : List Char) : Option (List Char × List Char) :=
  match cs with
  | ']' :: rest =>
      match rest.span (· ≠ ']') with
      | (_, []) => none
      | (body, _ :: rest') => some (']' :: body, rest')
  | _ =>
      match cs.span (· ≠ ']') with
      | (_, []) => none
      | (body, _ :: rest') => some (body, rest')

/-- The pieces of a shell pattern of at most `fuel` characters. -/
def globTokens : ℕ → List Char → List GlobToken
  | 0, _ => []
  | _, [] => []
  | fuel + 1, '*' :: cs => .star :: globTokens fuel cs
  | fuel + 1, '?' :: cs => .any :: globTokens fuel cs
  | fuel + 1, '[' :: '!' :: cs =>
      match globBody cs with
      | some (body, rest) => .set true (globRanges body) :: globTokens fuel rest
      | none => .literal '[' :: globTokens fuel ('!' :: cs)
  | fuel + 1, '[' :: cs =>
      match globBody cs with
      | some (body, rest) => .set false (globRanges body) :: globTokens fuel rest
      | none => .literal '[' :: globTokens fuel cs
  | fuel + 1, c :: cs => .literal c :: globTokens fuel cs

/-- Whether a text matches the pieces of a pattern. -/
def globMatch : List GlobToken → List Char → Bool
  | [], cs => cs.isEmpty
  | .star :: ts, cs => (List.range (cs.length + 1)).any fun i => globMatch ts (cs.drop i)
  | .any :: ts, _ :: cs => globMatch ts cs
  | .literal l :: ts, c :: cs => l == c && globMatch ts cs
  | .set negated ranges :: ts, c :: cs =>
      (ranges.any fun r => decide (r.1 ≤ c ∧ c ≤ r.2)) != negated && globMatch ts cs
  | _ :: _, [] => false

/-- `fnmatch.fnmatchcase`. -/
def fnmatchcase (name pattern : String) : Bool :=
  globMatch (globTokens pattern.toList.length pattern.toList) name.toList

/-! ### Paths -/

/-- The anchor of a POSIX path: exactly two leading slashes are kept apart from one. -/
def posixAnchor : List Char → String
  | '/' :: '/' :: '/' :: _ => "/"
  | '/' :: '/' :: _ => "//"
  | '/' :: _ => "/"
  | _ => ""

/-- `pathlib.PurePosixPath`. -/
def purePosixPath (s : String) : PurePath where
  anchor := posixAnchor s.toList
  isAbsolute := posixAnchor s.toList != ""
  names := ((s.toList.splitOn '/').filter fun n => n != [] && n != ['.']).map String.ofList

/-- `path == root or root in path.parents`. -/
def PurePath.isAtOrBelow (path root : PurePath) : Bool :=
  path.anchor == root.anchor && root.names.isPrefixOf path.names

/-- `path_class` of `is_allowed_save_path`: a drive letter or a backslash makes a Windows path. -/
def purePathOf [Python] (target : String) : String → PurePath :=
  match target.toList with
  | c :: ':' :: _ =>
      if c.isAlpha || containsChar target '\\' then Python.pureWindowsPath else purePosixPath
  | _ => if containsChar target '\\' then Python.pureWindowsPath else purePosixPath

end LibSeek.Core
