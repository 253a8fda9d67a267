/-
Symbolic digests and stored documents.

A digest column binds one record to the contents of another.  What such a binding is worth rests
on two facts about the function behind it: two documents with one digest are the same document,
and a text that was not computed from a document is not its digest.  No function into the words of
a fixed length has the first of them, so they are not assumed of one; they are built into the
type.  A digest here is either the digest *of a document* or a text that is the digest of no
document at all.

A column of documents holds either what the program wrote when it serialised an instance of the
document's type, or any other value of the store's own document format, of which all that is known
is what validation reads from it.

Main definitions:

* `Lib.Digest` — the digest of a document, or another text;
* `Lib.Digest.wellShaped` — the shape check, which every digest of a document passes;
* `Lib.JsonColumn` — a stored document;
* `Lib.JsonColumn.parse` — the instance that a stored document is read as;
* `Lib.JsonColumn.modelValidate` — validation of a stored document.

Main results:

* `Lib.Digest.sha256_inj` — documents with one digest are equal;
* `Lib.JsonColumn.modelValidate_dump` — a serialised instance validates to itself.
-/

import Mathlib

set_option relaxedAutoImplicit false
set_option autoImplicit false

namespace LibSeek.Lib

/-- A digest: that of a document, or a text that is the digest of no document. -/
inductive Digest (α : Type) where
  | sha256 (document : α)
  | raw (text : String)
  deriving DecidableEq, Repr

namespace Digest

variable {α : Type}

/-- **Documents with one digest are the same document.** -/
theorem sha256_inj {a b : α} : sha256 a = sha256 b ↔ a = b :=
  Digest.sha256.injEq a b ▸ Iff.rfl

/-- Whether a text has the given length and consists of lower-case hexadecimal digits. -/
def isHex (length : ℕ) (text : String) : Bool :=
  text.toList.length == length &&
    text.toList.all fun c => ('0' ≤ c && c ≤ '9') || ('a' ≤ c && c ≤ 'f')

/-- The shape check of a digest column: 64 lower-case hexadecimal digits.  The digest of a
document always has this shape. -/
def wellShaped : Digest α → Bool
  | sha256 _ => true
  | raw text => isHex 64 text

@[simp] theorem wellShaped_sha256 (a : α) : (sha256 a).wellShaped = true :=
  rfl

end Digest

/-- A stored document: the serialisation of an instance, or any other value of the store's
document format, given by its text and by the instance that validation reads from it, if any. -/
inductive JsonColumn (α : Type) where
  | dump (value : α)
  | other (text : String) (parsed : Option α)
  deriving DecidableEq, Repr

namespace JsonColumn

variable {α : Type}

/-- The instance that a stored document is read as, before the type's own check. -/
def parse : JsonColumn α → Option α
  | dump value => some value
  | other _ parsed => parsed

@[simp] theorem parse_dump (a : α) : (dump a).parse = some a :=
  rfl

/-- Validation of a stored document against the document's type; `valid` is the check that the
type makes of its instances. -/
def modelValidate (valid : α → Bool) (c : JsonColumn α) : Option α :=
  c.parse.filter valid

/-- A serialised instance that passes the type's check validates to itself. -/
@[simp] theorem modelValidate_dump {valid : α → Bool} {a : α} (h : valid a = true) :
    (dump a).modelValidate valid = some a := by
  simp [modelValidate, h]

/-- What validation returns passes the type's check. -/
theorem valid_of_modelValidate {valid : α → Bool} {c : JsonColumn α} {a : α}
    (h : c.modelValidate valid = some a) : valid a = true :=
  (Option.filter_eq_some_iff.mp h).2

end JsonColumn

end LibSeek.Lib
