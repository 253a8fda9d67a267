/-
Documents.

The values of the JSON format, as three types by mutual recursion: a document, the items of a
list, and the members of an object in the order in which they were inserted.

Main definitions:

* `Lib.Json`, `Lib.JsonList`, `Lib.JsonObject`;
* `Lib.Json.mapText` — rewriting a document by a function of its texts and a function that may
  replace the value of a member by its key;
* `Lib.Json.canonical` — a document with the members of its objects in the order of their keys;
* `Lib.Json.everyText` — a condition on every text that is rewritten.

Main results:

* `Lib.Json.mapText_eq_self` — a document whose texts and keys are left alone is left alone;
* `Lib.Json.mapText_twice` — **rewriting twice is rewriting once** exactly where it is for every
  text;
* `Lib.Json.canonical_mapText_twice` — and the canonical forms do not hide a difference.
-/

import Mathlib.Data.Rat.Defs

set_option relaxedAutoImplicit false
set_option autoImplicit false

namespace LibSeek.Lib

mutual

/-- A document. -/
inductive Json where
  | null
  | bool (value : Bool)
  | num (value : Rat)
  | str (value : String)
  | list (items : JsonList)
  | object (members : JsonObject)
  deriving DecidableEq, Repr

/-- The items of a list. -/
inductive JsonList where
  | nil
  | cons (item : Json) (items : JsonList)
  deriving DecidableEq, Repr

/-- The members of an object. -/
inductive JsonObject where
  | nil
  | cons (key : String) (value : Json) (members : JsonObject)
  deriving DecidableEq, Repr

end

/-- The members of an object, from a list of them. -/
def JsonObject.ofList : List (String × Json) → JsonObject
  | [] => nil
  | (key, value) :: members => cons key value (ofList members)

/-! ### The canonical form -/

/-- A member put among members that are in the order of their keys. -/
def JsonObject.insertMember (key : String) (value : Json) : JsonObject → JsonObject
  | .nil => .cons key value .nil
  | .cons key' value' members =>
      if key' < key then .cons key' value' (members.insertMember key value)
      else .cons key value (.cons key' value' members)

mutual

/-- A document with the members of its objects in the order of their keys. -/
def Json.canonical : Json → Json
  | .list items => .list items.canonical
  | .object members => .object members.canonical
  | .null => .null
  | .bool value => .bool value
  | .num value => .num value
  | .str value => .str value

/-- The items of a list, in their canonical form. -/
def JsonList.canonical : JsonList → JsonList
  | .nil => .nil
  | .cons item items => .cons item.canonical items.canonical

/-- The members of an object, in the order of their keys. -/
def JsonObject.canonical : JsonObject → JsonObject
  | .nil => .nil
  | .cons key value members => members.canonical.insertMember key value.canonical

end

/-! ### Rewriting -/

section MapText

variable (text : String → String) (replace? : String → Option Json)

mutual

/-- A document with every text rewritten by `text`, and with the value of every member whose key
`replace?` speaks of replaced by what it says. -/
def Json.mapText : Json → Json
  | .str value => .str (text value)
  | .list items => .list items.mapText
  | .object members => .object members.mapText
  | .null => .null
  | .bool value => .bool value
  | .num value => .num value

/-- The items of a list, rewritten. -/
def JsonList.mapText : JsonList → JsonList
  | .nil => .nil
  | .cons item items => .cons item.mapText items.mapText

/-- The members of an object, rewritten. -/
def JsonObject.mapText : JsonObject → JsonObject
  | .nil => .nil
  | .cons key value members =>
      .cons key ((replace? key).getD value.mapText) members.mapText

end

mutual

/-- Every text of a document is one that `text` leaves alone, and no key is one that `replace?`
speaks of. -/
def Json.Untouched : Json → Prop
  | .str value => text value = value
  | .list items => items.Untouched
  | .object members => members.Untouched
  | .null => True
  | .bool _ => True
  | .num _ => True

/-- The items of a list, likewise. -/
def JsonList.Untouched : JsonList → Prop
  | .nil => True
  | .cons item items => item.Untouched ∧ items.Untouched

/-- The members of an object, likewise. -/
def JsonObject.Untouched : JsonObject → Prop
  | .nil => True
  | .cons key value members => replace? key = none ∧ value.Untouched ∧ members.Untouched

end

variable {text : String → String} {replace? : String → Option Json}

mutual

/-- **A document with nothing to rewrite is left alone.** -/
theorem Json.mapText_eq_self : (x : Json) → x.Untouched text replace? →
    x.mapText text replace? = x
  | .str _, h => congrArg Json.str h
  | .list items, h => congrArg Json.list (items.mapText_eq_self h)
  | .object members, h => congrArg Json.object (members.mapText_eq_self h)
  | .null, _ => rfl
  | .bool _, _ => rfl
  | .num _, _ => rfl

theorem JsonList.mapText_eq_self : (xs : JsonList) → xs.Untouched text replace? →
    xs.mapText text replace? = xs
  | .nil, _ => rfl
  | .cons item items, h => by
      rw [JsonList.mapText, item.mapText_eq_self h.1, items.mapText_eq_self h.2]

theorem JsonObject.mapText_eq_self : (xs : JsonObject) → xs.Untouched text replace? →
    xs.mapText text replace? = xs
  | .nil, _ => rfl
  | .cons key value members, h => by
      rw [JsonObject.mapText, h.1, value.mapText_eq_self h.2.1, members.mapText_eq_self h.2.2,
        Option.getD_none]

end

/-! ### Rewriting twice -/

mutual

/-- Every text of a document satisfies a condition, the replaced members apart. -/
def Json.everyText (replace? : String → Option Json) (p : String → Bool) : Json → Bool
  | .str value => p value
  | .list items => items.everyText replace? p
  | .object members => members.everyText replace? p
  | .null => true
  | .bool _ => true
  | .num _ => true

/-- Every text of the items of a list, likewise. -/
def JsonList.everyText (replace? : String → Option Json) (p : String → Bool) : JsonList → Bool
  | .nil => true
  | .cons item items => item.everyText replace? p && items.everyText replace? p

/-- Every text of the members of an object, likewise. -/
def JsonObject.everyText (replace? : String → Option Json) (p : String → Bool) : JsonObject → Bool
  | .nil => true
  | .cons key value members =>
      ((replace? key).isSome || value.everyText replace? p) && members.everyText replace? p

end

section Twice

variable {p : String → Bool}

mutual

/-- **Rewriting twice is rewriting once** exactly where it is for every text. -/
theorem Json.mapText_twice (hp : ∀ v, text (text v) = text v ↔ p v = true) : (x : Json) →
    ((x.mapText text replace?).mapText text replace? = x.mapText text replace? ↔
      x.everyText replace? p = true)
  | .str value => by
      simp only [Json.mapText, Json.str.injEq, Json.everyText]
      exact hp value
  | .list items => by
      simp only [Json.mapText, Json.list.injEq, Json.everyText]
      exact items.mapText_twice hp
  | .object members => by
      simp only [Json.mapText, Json.object.injEq, Json.everyText]
      exact members.mapText_twice hp
  | .null => by simp [Json.mapText, Json.everyText]
  | .bool _ => by simp [Json.mapText, Json.everyText]
  | .num _ => by simp [Json.mapText, Json.everyText]

theorem JsonList.mapText_twice (hp : ∀ v, text (text v) = text v ↔ p v = true) :
    (xs : JsonList) →
    ((xs.mapText text replace?).mapText text replace? = xs.mapText text replace? ↔
      xs.everyText replace? p = true)
  | .nil => by simp [JsonList.mapText, JsonList.everyText]
  | .cons item items => by
      simp only [JsonList.mapText, JsonList.cons.injEq, JsonList.everyText, Bool.and_eq_true]
      rw [item.mapText_twice hp, items.mapText_twice hp]

theorem JsonObject.mapText_twice (hp : ∀ v, text (text v) = text v ↔ p v = true) :
    (xs : JsonObject) →
    ((xs.mapText text replace?).mapText text replace? = xs.mapText text replace? ↔
      xs.everyText replace? p = true)
  | .nil => by simp [JsonObject.mapText, JsonObject.everyText]
  | .cons key value members => by
      simp only [JsonObject.mapText, JsonObject.cons.injEq, JsonObject.everyText,
        Bool.and_eq_true, Bool.or_eq_true, true_and]
      rw [members.mapText_twice hp]
      cases replace? key with
      | none =>
          simp only [Option.getD_none, Option.isSome_none, Bool.false_eq_true, false_or]
          rw [value.mapText_twice hp]
      | some replacement => simp

end

/-! ### Rewriting and the canonical form -/

theorem JsonObject.mapText_insertMember (key : String) (value : Json) : (xs : JsonObject) →
    (xs.insertMember key value).mapText text replace? =
      (xs.mapText text replace?).insertMember key
        ((replace? key).getD (value.mapText text replace?))
  | .nil => rfl
  | .cons key' value' members => by
      rw [JsonObject.insertMember, JsonObject.mapText, JsonObject.insertMember]
      by_cases h : key' < key
      · rw [if_pos h, if_pos h, JsonObject.mapText, members.mapText_insertMember key value]
      · rw [if_neg h, if_neg h, JsonObject.mapText, JsonObject.mapText]

theorem JsonObject.everyText_insertMember (key : String) (value : Json) : (xs : JsonObject) →
    (xs.insertMember key value).everyText replace? p =
      (JsonObject.cons key value xs).everyText replace? p
  | .nil => rfl
  | .cons key' value' members => by
      rw [JsonObject.insertMember]
      by_cases h : key' < key
      · rw [if_pos h]
        simp only [JsonObject.everyText, members.everyText_insertMember key value]
        rw [Bool.and_left_comm]
      · rw [if_neg h]

mutual

/-- The canonical form of a rewritten document is the rewritten canonical form, where what replaces
a member is in its canonical form. -/
theorem Json.canonical_mapText (hreplace : ∀ key r, replace? key = some r → r.canonical = r) :
    (x : Json) →
    (x.mapText text replace?).canonical = x.canonical.mapText text replace?
  | .str _ => rfl
  | .list items => congrArg Json.list (items.canonical_mapText hreplace)
  | .object members => congrArg Json.object (members.canonical_mapText hreplace)
  | .null => rfl
  | .bool _ => rfl
  | .num _ => rfl

theorem JsonList.canonical_mapText (hreplace : ∀ key r, replace? key = some r → r.canonical = r) :
    (xs : JsonList) →
    (xs.mapText text replace?).canonical = xs.canonical.mapText text replace?
  | .nil => rfl
  | .cons item items => by
      simp only [JsonList.mapText, JsonList.canonical]
      rw [item.canonical_mapText hreplace, items.canonical_mapText hreplace]

theorem JsonObject.canonical_mapText
    (hreplace : ∀ key r, replace? key = some r → r.canonical = r) : (xs : JsonObject) →
    (xs.mapText text replace?).canonical = xs.canonical.mapText text replace?
  | .nil => rfl
  | .cons key value members => by
      simp only [JsonObject.mapText, JsonObject.canonical]
      rw [JsonObject.mapText_insertMember, members.canonical_mapText hreplace]
      cases hkey : replace? key with
      | none =>
          rw [Option.getD_none, Option.getD_none, value.canonical_mapText hreplace]
      | some replacement =>
          rw [Option.getD_some, Option.getD_some, hreplace key replacement hkey]

end

mutual

theorem Json.everyText_canonical : (x : Json) →
    x.canonical.everyText replace? p = x.everyText replace? p
  | .str _ => rfl
  | .list items => items.everyText_canonical
  | .object members => members.everyText_canonical
  | .null => rfl
  | .bool _ => rfl
  | .num _ => rfl

theorem JsonList.everyText_canonical : (xs : JsonList) →
    xs.canonical.everyText replace? p = xs.everyText replace? p
  | .nil => rfl
  | .cons item items => by
      simp only [JsonList.canonical, JsonList.everyText]
      rw [item.everyText_canonical, items.everyText_canonical]

theorem JsonObject.everyText_canonical : (xs : JsonObject) →
    xs.canonical.everyText replace? p = xs.everyText replace? p
  | .nil => rfl
  | .cons key value members => by
      rw [JsonObject.canonical, JsonObject.everyText_insertMember]
      simp only [JsonObject.everyText]
      rw [value.everyText_canonical, members.everyText_canonical]

end

/-- **The canonical forms differ where rewriting twice differs from rewriting once.** -/
theorem Json.canonical_mapText_twice (hp : ∀ v, text (text v) = text v ↔ p v = true)
    (hreplace : ∀ key r, replace? key = some r → r.canonical = r) (x : Json) :
    ((x.mapText text replace?).mapText text replace?).canonical =
        (x.mapText text replace?).canonical ↔ x.everyText replace? p = true := by
  rw [Json.canonical_mapText hreplace, Json.canonical_mapText hreplace,
    Json.mapText_twice hp x.canonical, Json.everyText_canonical]

end Twice

end MapText

end LibSeek.Lib
