/-
What the session tokens guarantee.

Reading a token and comparing the tokens against forged requests raise errors of the service,
unless a text that is not ASCII is compared, one with a lone surrogate is signed, or a payload that
the server itself signed is nested too deep.  A token that the server made is read back as the
session that it was made from, unless it is longer than a token may be.  And where no signature is
presented that the server did not make, a token that is accepted is one that the server made.

Main definitions:

* `Core.Auth.Contained` — a call that returns or raises an `AppError`;
* `Core.Auth.Readable`, `Core.Auth.Comparable` — the texts for which the calls do;
* `Core.Auth.payloadSize` — how many bytes a payload has;
* `Core.Auth.Issue`, `Core.Auth.Unforgeable` — what the server signs, and that no other signature
  is presented.

Main results:

* `Core.Auth.parseSessionToken_contained`, `Core.Auth.validateSessionCsrf_contained`,
  `Core.Auth.validateBootstrapCsrf_contained` — **when another exception escapes**;
* `Core.Auth.parseSessionToken_created` — **the session of a token is read back**, where its
  payload has at most 3036 bytes;
* `Core.Auth.created_of_accepted` — **a token that is accepted is one that was made**;
* `Core.Auth.session_tokens` — the three together.
-/

import LibSeek.Core.Auth
import LibSeek.Lib.JsonRoundTrip
import LibSeek.Lib.Transaction

set_option relaxedAutoImplicit false
set_option autoImplicit false

namespace LibSeek.Core.Auth

open LibSeek.Lib

/-! ### Calls that return or raise an error of the service -/

/-- A call returns, or raises an `AppError`. -/
def Contained {α : Type} (r : Except Exn α) : Prop :=
  ∀ e, r = .error e → ∃ error, e = .app error

section Contained

variable {α β : Type}

@[simp] theorem contained_ok (a : α) : Contained (.ok a : Except Exn α) :=
  fun _ h => nomatch h

/-- What is raised is to be an `AppError`. -/
theorem contained_error (e : Exn) :
    Contained (.error e : Except Exn α) ↔ ∃ error, e = .app error := by
  constructor
  · intro h
    exact h e rfl
  · intro h e' he
    cases he
    exact h

@[simp] theorem contained_app (error : AppError) : Contained (.error (.app error) : Except Exn α) :=
  (contained_error _).mpr ⟨error, rfl⟩

@[simp] theorem not_contained_other (name : String) :
    ¬ Contained (.error (.other name) : Except Exn α) := by
  rw [contained_error]
  rintro ⟨error, h⟩
  cases h

/-- Of two calls in turn the second is reached where the first returns. -/
theorem contained_bind {x : Except Exn α} {f : α → Except Exn β} :
    Contained (x >>= f) ↔ Contained x ∧ ∀ a, x = .ok a → Contained (f a) := by
  rcases x with e | a
  · have hstops : (.error e >>= f : Except Exn β) = .error e := rfl
    rw [hstops, contained_error, contained_error]
    exact ⟨fun h => ⟨h, fun a ha => nomatch ha⟩, And.left⟩
  · have hgoes : (.ok a >>= f : Except Exn β) = f a := rfl
    rw [hgoes]
    constructor
    · intro h
      refine ⟨contained_ok a, fun b hb => ?_⟩
      cases hb
      exact h
    · intro h
      exact h.2 a rfl

/-- The check of the times raises errors of the service only. -/
theorem contained_checkTimes (principal : Principal) (now : ℤ) :
    Contained (checkTimes principal now) := by
  unfold checkTimes
  split_ifs
  · exact contained_app _
  · exact contained_app _
  · exact contained_ok _

/-- Two texts can be compared where both are ASCII. -/
theorem contained_compareDigest (a b : CodePoints) :
    Contained (compareDigest a b) ↔ isAsciiText a = true ∧ isAsciiText b = true := by
  unfold compareDigest
  split_ifs with h
  · simp [h]
  · simp [h]

/-- The comparison of two texts returns whether they are one. -/
theorem compareDigest_eq_ok {a b : CodePoints} {same : Bool} (h : compareDigest a b = .ok same) :
    isAsciiText a = true ∧ isAsciiText b = true ∧ same = decide (a = b) := by
  unfold compareDigest at h
  split_ifs at h with hascii
  cases h
  exact ⟨hascii.1, hascii.2, rfl⟩

end Contained

/-! ### The comparison of two tokens -/

/-- Two tokens that can be compared: where both are given, neither is empty and neither is too
long, both are ASCII. -/
def Comparable (cookieToken headerToken : Option CodePoints) : Prop :=
  ∀ cookie header, cookieToken = some cookie → headerToken = some header →
    cookie ≠ [] → header ≠ [] → cookie.length ≤ 1024 → header.length ≤ 1024 →
      isAsciiText cookie = true ∧ isAsciiText header = true

/-- A token that is sent twice, and taken. -/
structure Matching (token : CodePoints) (cookieToken headerToken : Option CodePoints) : Prop where
  cookie : cookieToken = some token
  header : headerToken = some token
  nonempty : token ≠ []
  length_le : token.length ≤ 1024
  ascii : isAsciiText token = true

/-- When another exception escapes from the comparison. -/
theorem contained_matchingCsrfTokens (cookieToken headerToken : Option CodePoints) :
    Contained (matchingCsrfTokens cookieToken headerToken) ↔
      Comparable cookieToken headerToken := by
  unfold matchingCsrfTokens Comparable
  split
  · next cookie header =>
      split_ifs with hempty hlength
      · simp only [contained_app, true_iff]
        rintro _ _ ⟨⟩ ⟨⟩ hcookie hheader
        exact absurd hempty (not_or.mpr ⟨hcookie, hheader⟩)
      · simp only [contained_app, true_iff]
        rintro _ _ ⟨⟩ ⟨⟩ - - hcookie hheader
        omega
      · obtain ⟨hcookie, hheader⟩ := not_or.mp hempty
        rw [contained_bind, contained_compareDigest]
        constructor
        · rintro ⟨hascii, -⟩ _ _ ⟨⟩ ⟨⟩ - - - -
          exact hascii
        · intro h
          refine ⟨h _ _ rfl rfl hcookie hheader (by omega) (by omega), fun same _ => ?_⟩
          split_ifs
          · exact contained_app _
          · exact contained_ok _
  · next hnone =>
      simp only [contained_app, true_iff]
      intro cookie header hcookie hheader
      exact absurd hheader (hnone cookie header hcookie)

/-- The token that is taken is the one that was sent twice. -/
theorem matchingCsrfTokens_eq_ok {cookieToken headerToken : Option CodePoints}
    {token : CodePoints} :
    matchingCsrfTokens cookieToken headerToken = .ok token ↔
      Matching token cookieToken headerToken := by
  constructor
  · intro h
    unfold matchingCsrfTokens at h
    split at h
    · next cookie header =>
        split_ifs at h with hempty hlength
        obtain ⟨same, hsame, h⟩ := bind_eq_ok.mp h
        obtain ⟨hascii, -, rfl⟩ := compareDigest_eq_ok hsame
        split_ifs at h with hdiffer
        cases h
        have heq : token = header := by simpa using hdiffer
        obtain ⟨hcookie, -⟩ := not_or.mp hempty
        exact ⟨rfl, congrArg some heq.symm, hcookie, by omega, hascii⟩
    · cases h
  · rintro ⟨rfl, rfl, hempty, hlength, hascii⟩
    have hcompare : compareDigest token token = .ok true := by
      rw [compareDigest, if_pos ⟨hascii, hascii⟩, decide_eq_true rfl]
    simp only [matchingCsrfTokens, hempty, or_self, if_false, if_neg (not_lt.mpr hlength), hcompare]
    rfl

/-! ### Texts with dots -/

/-- Two texts with a dot between them can be encoded where both can be. -/
theorem encode_dotted_isSome (a b : CodePoints) :
    (Utf8.encode (a ++ 46 :: b)).isSome ↔ (Utf8.encode a).isSome ∧ (Utf8.encode b).isSome := by
  have hdot : Utf8.encode [46] = some [46] := rfl
  have happend : a ++ 46 :: b = a ++ ([46] ++ b) := rfl
  rw [happend, Utf8.encode_append_isSome, Utf8.encode_append_isSome, hdot]
  simp

/-- An ASCII text can be encoded. -/
theorem encode_isSome_of_ascii {text : CodePoints} (h : isAsciiText text = true) :
    (Utf8.encode text).isSome := by
  rw [Utf8.encode_ascii h]
  rfl

/-- A text that is split into parts is their concatenation. -/
theorem eq_of_splitOn {text : CodePoints} {parts : List CodePoints}
    (h : text.splitOn 46 = parts) : text = [46].intercalate parts := by
  rw [← h, List.intercalate_splitOn]

/-- Three parts without dots are what their concatenation is split into. -/
theorem splitOn_three {a b c : CodePoints} (ha : 46 ∉ a) (hb : 46 ∉ b) (hc : 46 ∉ c) :
    (a ++ 46 :: (b ++ 46 :: c)).splitOn 46 = [a, b, c] := by
  rw [List.splitOn_append_cons_self_of_not_mem ha, List.splitOn_append_cons_self_of_not_mem hb,
    List.splitOn_eq_singleton hc]

/-! ### Payloads -/

/-- The members of a payload in the order of their keys. -/
theorem sortKeys_payloadOf (username : CodePoints) (role : AuthRole) (issuedAt expiresAt : ℤ)
    (digest : CodePoints) :
    JsonText.sortKeys (payloadOf username role issuedAt expiresAt digest) =
      [(codePoints "csrf", .str digest), (codePoints "exp", .int expiresAt),
        (codePoints "iat", .int issuedAt), (codePoints "role", .str role.value),
        (codePoints "sub", .str username)] := by
  rfl

/-- A role is read back from its value. -/
theorem roleOf?_value (role : AuthRole) : roleOf? (.str role.value) = some role := by
  cases role <;> decide

/-- The claims of a payload are read back. -/
theorem claimsOf?_payloadOf (username : CodePoints) (role : AuthRole) (issuedAt expiresAt : ℤ)
    (digest : CodePoints) :
    claimsOf? (.obj ((JsonText.sortKeys
      (payloadOf username role issuedAt expiresAt digest)).map JsonText.readBack)) =
      some { username := .str username, role, issuedAt := .int issuedAt,
             expiresAt := .int expiresAt, csrfDigest := .str digest } := by
  rw [sortKeys_payloadOf]
  have hrole := roleOf?_value role
  simp [claimsOf?, JsonText.member?, JsonText.readBack, JsonText.Scalar.value, codePoints, hrole]

/-- How many bytes the payload of a session token has. -/
def payloadSize (username : CodePoints) (role : AuthRole) (issuedAt expiresAt : ℤ) : ℕ :=
  108 + JsonText.writtenSize username + role.value.length + (JsonText.dumpInt issuedAt).length +
    (JsonText.dumpInt expiresAt).length

/-- A payload has as many bytes as it is written with. -/
theorem objectSize_payloadOf (username : CodePoints) (role : AuthRole) (issuedAt expiresAt : ℤ)
    {digest : CodePoints} (hdigest : JsonText.writtenSize digest = 64) :
    JsonText.objectSize (payloadOf username role issuedAt expiresAt digest) =
      payloadSize username role issuedAt expiresAt := by
  have hrole : JsonText.writtenSize role.value = role.value.length := by
    cases role <;> decide
  have hsub : JsonText.writtenSize (codePoints "sub") = 3 := by decide
  have hkey : JsonText.writtenSize (codePoints "role") = 4 := by decide
  have hiat : JsonText.writtenSize (codePoints "iat") = 3 := by decide
  have hexp : JsonText.writtenSize (codePoints "exp") = 3 := by decide
  have hcsrf : JsonText.writtenSize (codePoints "csrf") = 4 := by decide
  simp only [JsonText.objectSize, payloadOf, List.map_cons, List.map_nil, List.sum_cons,
    List.sum_nil, JsonText.memberSize, JsonText.Scalar.size, hdigest, hrole, hsub, hkey, hiat, hexp,
    hcsrf, payloadSize]
  omega

/-- A payload is short enough for every user, with times of at most a thousand digits. -/
theorem payloadSize_le {username : CodePoints} (role : AuthRole) {issuedAt expiresAt : ℤ}
    (husername : username.length ≤ 120) (hissued : issuedAt.natAbs < 10 ^ 1000)
    (hexpires : expiresAt.natAbs < 10 ^ 1000) :
    payloadSize username role issuedAt expiresAt ≤ 3036 := by
  have hname := JsonText.writtenSize_le username
  have hrole : role.value.length ≤ 8 := by
    cases role <;> decide
  have hiat := JsonText.length_dumpInt_le (by decide) hissued
  have hexp := JsonText.length_dumpInt_le (by decide) hexpires
  unfold payloadSize
  omega

/-! ### Signatures -/

/-- The Base64 of the tokens is without padding. -/
theorem b64encode_eq (value : Octets) : b64encode value = Base64.urlsafeData value :=
  Base64.rdropWhile_urlsafeEncode value

/-- No part of a token that is Base64 has a dot. -/
theorem notMem_b64encode (value : Octets) : 46 ∉ b64encode value := by
  rw [b64encode_eq]
  intro h
  exact (Base64.mem_urlsafeData h).range.2.2 rfl

/-- A part of a token that is Base64 is ASCII. -/
theorem isAsciiText_b64encode (value : Octets) : isAsciiText (b64encode value) = true := by
  rw [b64encode_eq]
  exact Base64.isAsciiText_urlsafeData value

/-- What is encoded is read back. -/
theorem b64decode_b64encode (value : Octets) : b64decode (b64encode value) = .ok value := by
  rw [b64decode, b64encode_eq, ← Base64.urlsafeEncode_eq, Base64.urlsafeDecode_urlsafeEncode]

section Tokens

variable [AuthRuntime]

/-- A signature is the Base64 of a code of the bytes. -/
theorem sign_eq_ok {key value tag : CodePoints} (h : sign key value = .ok tag) :
    ∃ code : Octets, code.length = 32 ∧ tag = b64encode code := by
  unfold sign encodeUtf8 at h
  cases hkey : Utf8.encode key with
  | none =>
      rw [hkey] at h
      cases h
  | some k =>
      cases hvalue : Utf8.encode value with
      | none =>
          rw [hkey, hvalue] at h
          cases h
      | some v =>
          rw [hkey, hvalue] at h
          cases h
          exact ⟨_, AuthRuntime.length_hmacSha256 k v, rfl⟩

/-- A signature is ASCII. -/
theorem isAsciiText_sign {key value tag : CodePoints} (h : sign key value = .ok tag) :
    isAsciiText tag = true := by
  obtain ⟨code, -, rfl⟩ := sign_eq_ok h
  exact isAsciiText_b64encode code

/-- A signature has no dot. -/
theorem notMem_sign {key value tag : CodePoints} (h : sign key value = .ok tag) : 46 ∉ tag := by
  obtain ⟨code, -, rfl⟩ := sign_eq_ok h
  exact notMem_b64encode code

/-- A signature has 43 characters. -/
theorem length_sign {key value tag : CodePoints} (h : sign key value = .ok tag) :
    tag.length = 43 := by
  obtain ⟨code, hcode, rfl⟩ := sign_eq_ok h
  rw [b64encode_eq, Base64.length_urlsafeData, hcode]

/-- A text can be signed where it and the key can be encoded. -/
theorem contained_sign (key value : CodePoints) :
    Contained (sign key value) ↔ (Utf8.encode key).isSome ∧ (Utf8.encode value).isSome := by
  unfold sign encodeUtf8
  cases Utf8.encode key with
  | none => simp [Bind.bind, Except.bind]
  | some k =>
      cases Utf8.encode value with
      | none => simp [Bind.bind, Except.bind]
      | some v => simp [Bind.bind, Except.bind, pure, Except.pure]

/-! ### When another exception escapes -/

/-- What a token must be so that reading it only raises errors of the service: where it is no
longer than it may be and has the parts of a session token, the key and the payload can be
encoded, the signature is ASCII, and a payload that the server signed is not nested too deep. -/
def Readable (token signingKey : CodePoints) : Prop :=
  token.length ≤ 4096 → ∀ encoded presented,
    token.splitOn 46 = [codePoints "v1", encoded, presented] →
    (Utf8.encode signingKey).isSome ∧ (Utf8.encode encoded).isSome ∧ isAsciiText presented = true ∧
      (sign signingKey (codePoints "v1" ++ 46 :: encoded) = .ok presented →
        ∀ bytes, b64decode encoded = .ok bytes →
          JsonText.loads decodeOther (nestingLimit + 1) bytes ≠ .error .recursion)

/-- The claims of a payload are read, unless it is nested too deep. -/
theorem contained_readClaims (encoded : CodePoints) :
    Contained (readClaims encoded) ↔
      ∀ bytes, b64decode encoded = .ok bytes →
        JsonText.loads decodeOther (nestingLimit + 1) bytes ≠ .error .recursion := by
  have hdecode : Contained (b64decode encoded) := by
    unfold b64decode
    split
    · exact contained_ok _
    · exact contained_app _
  rw [readClaims, contained_bind]
  simp only [hdecode, true_and]
  refine forall_congr' fun bytes => imp_congr_right fun _ => ?_
  rcases JsonText.loads decodeOther (nestingLimit + 1) bytes with error | document
  · cases error <;> simp
  · simp only [ne_eq, reduceCtorEq, not_false_eq_true, iff_true]
    split
    · exact contained_ok _
    · exact contained_app _

/-- When another exception escapes, once the parts of a token are known. -/
theorem contained_parseParts (encoded presented signingKey : CodePoints) (now : ℤ) :
    Contained (parseParts (codePoints "v1") encoded presented signingKey now) ↔
      (Utf8.encode signingKey).isSome ∧ (Utf8.encode encoded).isSome ∧
        isAsciiText presented = true ∧
          (sign signingKey (codePoints "v1" ++ 46 :: encoded) = .ok presented →
            ∀ bytes, b64decode encoded = .ok bytes →
              JsonText.loads decodeOther (nestingLimit + 1) bytes ≠ .error .recursion) := by
  have hversion : (Utf8.encode (codePoints "v1")).isSome := rfl
  rw [parseParts, contained_bind, contained_sign, encode_dotted_isSome]
  simp only [hversion, true_and, and_assoc]
  refine and_congr_right fun hkey => and_congr_right fun hencoded => ?_
  obtain ⟨tag, htag⟩ : ∃ tag, sign signingKey (codePoints "v1" ++ 46 :: encoded) = .ok tag := by
    obtain ⟨k, hk⟩ := Option.isSome_iff_exists.mp hkey
    obtain ⟨v, hv⟩ := Option.isSome_iff_exists.mp
      ((encode_dotted_isSome (codePoints "v1") encoded).mpr ⟨hversion, hencoded⟩)
    simp only [sign, encodeUtf8, hk, hv]
    exact ⟨_, rfl⟩
  have hascii := isAsciiText_sign htag
  simp only [htag, Except.ok.injEq, forall_eq']
  rw [contained_bind, contained_compareDigest]
  simp only [hascii, and_true]
  refine and_congr_right fun hpresented => ?_
  have hcompare : compareDigest presented tag = .ok (decide (presented = tag)) := by
    rw [compareDigest, if_pos ⟨hpresented, hascii⟩]
  simp only [hcompare, Except.ok.injEq, forall_eq']
  split_ifs with hsame
  · simp only [contained_app, true_iff]
    intro htag
    simp [htag] at hsame
  · have heq : presented = tag := by simpa using hsame
    subst heq
    simp only [true_imp_iff]
    rw [contained_bind, contained_readClaims]
    refine and_iff_left fun claims _ => ?_
    split
    · exact contained_app _
    · exact contained_checkTimes _ _

/-- **When another exception escapes** from the reading of a token. -/
theorem parseSessionToken_contained (token signingKey : CodePoints) (now : ℤ) :
    Contained (parseSessionToken token signingKey now) ↔ Readable token signingKey := by
  unfold parseSessionToken Readable
  split_ifs with hlength
  · simp only [contained_app, true_iff]
    intro hle
    omega
  · simp only [not_lt.mp hlength, true_imp_iff]
    split
    · next version encoded presented hsplit =>
        split_ifs with hversion
        · simp only [contained_app, true_iff]
          intro encoded' presented' hparts
          rw [hsplit] at hparts
          cases hparts
          exact absurd rfl hversion
        · obtain rfl := not_not.mp hversion
          rw [contained_parseParts]
          constructor
          · rintro h encoded' presented' hparts
            rw [hsplit] at hparts
            cases hparts
            exact h
          · intro h
            exact h encoded presented hsplit
    · next hparts =>
        simp only [contained_app, true_iff]
        intro encoded presented hsplit
        exact absurd hsplit (hparts _ _ _)

/-- The digest of a text is ASCII. -/
theorem isAsciiText_csrfDigestOf {value digest : CodePoints} (h : csrfDigestOf value = .ok digest) :
    isAsciiText digest = true := by
  obtain ⟨bytes, -, h⟩ := bind_eq_ok.mp h
  cases h
  refine (isAsciiText_iff _).mpr fun c hc => ?_
  have := AuthRuntime.sha256Hexdigest_hex bytes c hc
  omega

/-- **When another exception escapes** from the check of a session's token: where the two tokens
cannot be compared, or the session that it is checked against has a digest that is not ASCII. -/
theorem validateSessionCsrf_contained (cookieToken headerToken : Option CodePoints)
    (principal : Principal) :
    Contained (validateSessionCsrf cookieToken headerToken principal) ↔
      Comparable cookieToken headerToken ∧
        ∀ token, Matching token cookieToken headerToken →
          isAsciiText principal.csrfDigest = true := by
  rw [validateSessionCsrf, contained_bind, contained_matchingCsrfTokens]
  refine and_congr_right fun _ => forall_congr' fun token => ?_
  rw [matchingCsrfTokens_eq_ok]
  refine imp_congr_right fun hmatching => ?_
  obtain ⟨bytes, hbytes⟩ := Option.isSome_iff_exists.mp (encode_isSome_of_ascii hmatching.ascii)
  have hdigest : csrfDigestOf token = .ok (sha256Hexdigest bytes) := by
    simp only [csrfDigestOf, encodeUtf8, hbytes]
    rfl
  have hascii := isAsciiText_csrfDigestOf hdigest
  rw [contained_bind, hdigest]
  simp only [contained_ok, true_and, Except.ok.injEq, forall_eq']
  rw [contained_bind, contained_compareDigest]
  simp only [hascii, true_and]
  refine and_iff_left fun same _ => ?_
  split_ifs
  · exact contained_app _
  · exact contained_ok _

/-- **When another exception escapes** from the check of the token before a login: where the two
tokens cannot be compared, or the key that the token is to be signed with cannot be encoded. -/
theorem validateBootstrapCsrf_contained (cookieToken headerToken : Option CodePoints)
    (signingKey : CodePoints) (ttlSeconds now : ℤ) :
    Contained (validateBootstrapCsrf cookieToken headerToken signingKey ttlSeconds now) ↔
      Comparable cookieToken headerToken ∧
        ∀ token, Matching token cookieToken headerToken →
          ∀ issued random presented,
            token.splitOn 46 = [codePoints "b1", issued, random, presented] →
              (Utf8.encode signingKey).isSome := by
  rw [validateBootstrapCsrf, contained_bind, contained_matchingCsrfTokens]
  refine and_congr_right fun _ => forall_congr' fun token => ?_
  rw [matchingCsrfTokens_eq_ok]
  refine imp_congr_right fun hmatching => ?_
  split
  · next version issued random presented hsplit =>
      split_ifs with hversion
      · simp only [contained_app, true_iff]
        intro issued' random' presented' hparts
        rw [hsplit] at hparts
        cases hparts
        exact absurd rfl hversion
      · obtain rfl := not_not.mp hversion
        have hparts : (Utf8.encode signingKey).isSome ↔
            ∀ issued' random' presented',
              token.splitOn 46 = [codePoints "b1", issued', random', presented'] →
                (Utf8.encode signingKey).isSome :=
          ⟨fun h _ _ _ _ => h, fun h => h _ _ _ hsplit⟩
        -- tokens that could be compared are ASCII, so their parts can be encoded
        have hascii := hmatching.ascii
        rw [eq_of_splitOn hsplit] at hascii
        simp only [List.intercalate, List.intersperse, List.flatten_cons, List.flatten_nil,
          List.append_nil, isAsciiText_append, Bool.and_eq_true] at hascii
        obtain ⟨-, -, hissued, -, hrandom, -, hpresented⟩ := hascii
        have hsigned :
            (Utf8.encode (codePoints "b1" ++ 46 :: (issued ++ 46 :: random))).isSome := by
          rw [encode_dotted_isSome, encode_dotted_isSome]
          exact ⟨rfl, encode_isSome_of_ascii hissued, encode_isSome_of_ascii hrandom⟩
        rw [← hparts, contained_bind, contained_sign]
        simp only [hsigned, and_true]
        refine and_iff_left fun tag htag => ?_
        rw [contained_bind, contained_compareDigest]
        refine ⟨⟨hpresented, isAsciiText_sign htag⟩, fun same _ => ?_⟩
        split_ifs
        · exact contained_app _
        · split
          · exact contained_app _
          · split_ifs
            · exact contained_app _
            · exact contained_ok _
  · next hparts =>
      simp only [contained_app, true_iff]
      intro issued random presented hsplit
      exact absurd hsplit (hparts _ _ _ _)

/-! ### The session of a token is read back -/

/-- The parts of a token that the server made. -/
theorem createSessionToken_eq_ok {username csrfToken signingKey token : CodePoints}
    {role : AuthRole} {ttlSeconds now : ℤ}
    (h : createSessionToken username role csrfToken signingKey ttlSeconds now = .ok token) :
    ∃ digest text bytes tag, csrfDigestOf csrfToken = .ok digest ∧
      JsonText.dumps (payloadOf username role now (now + ttlSeconds) digest) = some text ∧
      Utf8.encode text = some bytes ∧
      sign signingKey (codePoints "v1" ++ 46 :: b64encode bytes) = .ok tag ∧
      token = codePoints "v1" ++ 46 :: (b64encode bytes ++ 46 :: tag) := by
  obtain ⟨digest, hdigest, h⟩ := bind_eq_ok.mp h
  obtain ⟨text, htext, h⟩ := bind_eq_ok.mp h
  obtain ⟨bytes, hbytes, h⟩ := bind_eq_ok.mp h
  obtain ⟨tag, htag, h⟩ := bind_eq_ok.mp h
  cases h
  refine ⟨digest, text, bytes, tag, hdigest, ?_, ?_, htag, rfl⟩
  · unfold dumpsPayload at htext
    split at htext
    · next hdumps =>
        cases htext
        exact hdumps
    · cases htext
  · unfold encodeUtf8 at hbytes
    split at hbytes
    · next hencode =>
        cases hbytes
        exact hencode
    · cases hbytes

/-- The claims of a token that the server made are read back. -/
theorem readClaims_b64encode {username digest text : CodePoints} {role : AuthRole}
    {issuedAt expiresAt : ℤ} {bytes : Octets}
    (htext : JsonText.dumps (payloadOf username role issuedAt expiresAt digest) = some text)
    (hbytes : Utf8.encode text = some bytes) :
    readClaims (b64encode bytes) =
      .ok { username := .str username, role, issuedAt := .int issuedAt,
            expiresAt := .int expiresAt, csrfDigest := .str digest } := by
  have hloads := JsonText.loads_dumps decodeOther nestingLimit htext hbytes
  rw [readClaims, b64decode_b64encode]
  simp only [Bind.bind, Except.bind, hloads, claimsOf?_payloadOf]

/-- The digest of a text is written as it is. -/
theorem writtenSize_csrfDigestOf {value digest : CodePoints} (h : csrfDigestOf value = .ok digest) :
    JsonText.writtenSize digest = 64 ∧ digest.length = 64 := by
  obtain ⟨bytes, -, h⟩ := bind_eq_ok.mp h
  cases h
  have hlength := AuthRuntime.length_sha256Hexdigest bytes
  refine ⟨?_, hlength⟩
  rw [JsonText.writtenSize_plain, hlength]
  intro c hc
  have := AuthRuntime.sha256Hexdigest_hex bytes c hc
  omega

/-- **The session of a token is read back**, with the key it was signed with and within its time,
exactly where its payload has at most 3036 bytes. -/
theorem parseSessionToken_created {username csrfToken signingKey token : CodePoints}
    {role : AuthRole} {ttlSeconds issuedAt now : ℤ}
    (h : createSessionToken username role csrfToken signingKey ttlSeconds issuedAt = .ok token)
    (hname : 1 ≤ username.length ∧ username.length ≤ 120) (hissued : issuedAt ≤ now + 60)
    (hexpires : now < issuedAt + ttlSeconds) :
    parseSessionToken token signingKey now =
        (csrfDigestOf csrfToken).map (Principal.mk username role issuedAt (issuedAt + ttlSeconds)) ↔
      payloadSize username role issuedAt (issuedAt + ttlSeconds) ≤ 3036 := by
  obtain ⟨digest, text, bytes, tag, hdigest, htext, hbytes, htag, rfl⟩ := createSessionToken_eq_ok h
  obtain ⟨hwritten, hlength⟩ := writtenSize_csrfDigestOf hdigest
  have hsize : bytes.length = payloadSize username role issuedAt (issuedAt + ttlSeconds) := by
    have hne : payloadOf username role issuedAt (issuedAt + ttlSeconds) digest ≠ [] :=
      List.cons_ne_nil _ _
    rw [Utf8.length_encode hbytes, JsonText.size_dumps hne htext,
      objectSize_payloadOf _ _ _ _ hwritten]
  -- only its length can still refuse the token
  have htoken : (codePoints "v1" ++ 46 :: (b64encode bytes ++ 46 :: tag)).length =
      47 + (bytes.length * 4 + 2) / 3 := by
    have hversion : (codePoints "v1").length = 2 := rfl
    rw [List.length_append, List.length_cons, List.length_append, List.length_cons,
      length_sign htag, b64encode_eq, Base64.length_urlsafeData, hversion]
    omega
  have hsplit : (codePoints "v1" ++ 46 :: (b64encode bytes ++ 46 :: tag)).splitOn 46 =
      [codePoints "v1", b64encode bytes, tag] :=
    splitOn_three (by decide) (notMem_b64encode bytes) (notMem_sign htag)
  have hcompare : compareDigest tag tag = .ok true := by
    rw [compareDigest, if_pos ⟨isAsciiText_sign htag, isAsciiText_sign htag⟩, decide_eq_true rfl]
  have hparts : parseParts (codePoints "v1") (b64encode bytes) tag signingKey now =
      .ok (Principal.mk username role issuedAt (issuedAt + ttlSeconds) digest) := by
    have hclaims := readClaims_b64encode htext hbytes
    have hlate : ¬ now + 60 < issuedAt := by omega
    have hover : ¬ issuedAt + ttlSeconds ≤ now := by omega
    simp [parseParts, htag, hcompare, hclaims, Bind.bind, Except.bind, principalOf?, strOf?, intOf?,
      hname.1, hname.2, hlength, checkTimes, hlate, hover]
  rw [parseSessionToken, htoken, hsplit, hdigest, ← hsize]
  split_ifs with hlong
  · refine iff_of_false (fun h => nomatch h) ?_
    omega
  · refine iff_of_true ?_ (by omega)
    simp only [ne_eq, not_true_eq_false, if_false, hparts]
    rfl

/-! ### A token that is accepted is one that was made -/

/-- What the server makes a token of: a session, or the random part of a token before a login. -/
inductive Issue where
  | session (username : CodePoints) (role : AuthRole) (csrfToken : CodePoints) (ttlSeconds now : ℤ)
  | bootstrap (random : CodePoints) (now : ℤ)

/-- The token that is made. -/
def Issue.token (signingKey : CodePoints) : Issue → Except Exn CodePoints
  | session username role csrfToken ttlSeconds now =>
      createSessionToken username role csrfToken signingKey ttlSeconds now
  | bootstrap random now => createBootstrapCsrf signingKey random now

/-- The text that a token signs is what precedes its last dot. -/
def Issue.Signs (signingKey : CodePoints) (issue : Issue) (message : CodePoints) : Prop :=
  ∃ tag, issue.token signingKey = .ok (message ++ 46 :: tag) ∧ 46 ∉ tag

/-- **No signature is presented that the server did not make**: where a presented text ends in the
signature of what precedes it, the server has made a token that signs the same. -/
def Unforgeable (signingKey : CodePoints) (issues : Set Issue) (presented : Set CodePoints) :
    Prop :=
  ∀ token ∈ presented, ∀ message tag, token = message ++ 46 :: tag →
    sign signingKey message = .ok tag → ∃ issue ∈ issues, issue.Signs signingKey message

/-- A token that is accepted has the signature of its payload, which is read as the session. -/
theorem parseSessionToken_eq_ok {token signingKey : CodePoints} {now : ℤ} {principal : Principal}
    (h : parseSessionToken token signingKey now = .ok principal) :
    ∃ encoded presented claims,
      token = codePoints "v1" ++ 46 :: (encoded ++ 46 :: presented) ∧
        sign signingKey (codePoints "v1" ++ 46 :: encoded) = .ok presented ∧
          readClaims encoded = .ok claims ∧ principalOf? claims = some principal := by
  unfold parseSessionToken at h
  split_ifs at h with hlength
  split at h
  · next version encoded presented hsplit =>
      split_ifs at h with hversion
      obtain rfl := not_not.mp hversion
      obtain ⟨tag, htag, h⟩ := bind_eq_ok.mp h
      obtain ⟨same, hsame, h⟩ := bind_eq_ok.mp h
      obtain ⟨-, -, rfl⟩ := compareDigest_eq_ok hsame
      split_ifs at h with hdiffer
      have heq : presented = tag := by simpa using hdiffer
      obtain ⟨claims, hclaims, h⟩ := bind_eq_ok.mp h
      have hprincipal : principalOf? claims = some principal := by
        split at h
        · cases h
        · next made hmade =>
            unfold checkTimes at h
            split_ifs at h
            cases h
            exact hmade
      refine ⟨encoded, presented, claims, ?_, heq ▸ htag, hclaims, hprincipal⟩
      rw [eq_of_splitOn hsplit]
      simp [List.intercalate]
  · cases h

/-- A token before a login signs no session. -/
theorem not_signs_bootstrap {signingKey random encoded : CodePoints} {now : ℤ} :
    ¬ (Issue.bootstrap random now).Signs signingKey (codePoints "v1" ++ 46 :: encoded) := by
  rintro ⟨tag, htoken, -⟩
  obtain ⟨issuedAt, -, htoken⟩ := bind_eq_ok.mp htoken
  obtain ⟨signature, -, htoken⟩ := bind_eq_ok.mp htoken
  cases htoken

/-- **A token that is accepted is one that was made**, and it is read as the session that it was
made from. -/
theorem created_of_accepted {signingKey token : CodePoints} {issues : Set Issue}
    {presented : Set CodePoints} (hunforgeable : Unforgeable signingKey issues presented)
    (htoken : token ∈ presented) {now : ℤ} {principal : Principal}
    (h : parseSessionToken token signingKey now = .ok principal) :
    ∃ username role csrfToken ttlSeconds issuedAt,
      Issue.session username role csrfToken ttlSeconds issuedAt ∈ issues ∧
        createSessionToken username role csrfToken signingKey ttlSeconds issuedAt = .ok token ∧
          (csrfDigestOf csrfToken).map
            (Principal.mk username role issuedAt (issuedAt + ttlSeconds)) = .ok principal := by
  obtain ⟨encoded, tag, claims, rfl, htag, hclaims, hprincipal⟩ := parseSessionToken_eq_ok h
  have hform : codePoints "v1" ++ 46 :: (encoded ++ 46 :: tag) =
      (codePoints "v1" ++ 46 :: encoded) ++ 46 :: tag := by simp
  -- a tag that verifies was made by an issue
  obtain ⟨issue, hissue, hsigns⟩ := hunforgeable _ htoken _ _ hform htag
  cases issue with
  | bootstrap random issuedAt => exact absurd hsigns not_signs_bootstrap
  | session username role csrfToken ttlSeconds issuedAt =>
      obtain ⟨signature, hmade, -⟩ := hsigns
      obtain ⟨digest, text, bytes, tag', hdigest, htext, hbytes, htag', hsame⟩ :=
        createSessionToken_eq_ok hmade
      have hparts : b64encode bytes ++ 46 :: tag' = encoded ++ 46 :: signature := by
        have : codePoints "v1" ++ 46 :: (encoded ++ 46 :: signature) =
            codePoints "v1" ++ 46 :: (b64encode bytes ++ 46 :: tag') := by
          rw [← hsame]
          simp
        exact ((List.cons.inj (List.append_cancel_left this)).2).symm
      obtain ⟨rfl, -, rfl⟩ := (List.append_cons_inj_of_notMem (notMem_b64encode bytes)
        (notMem_sign htag')).mp hparts
      obtain rfl : tag = tag' := Except.ok.inj (htag.symm.trans htag')
      refine ⟨username, role, csrfToken, ttlSeconds, issuedAt, hissue, ?_, ?_⟩
      · rw [hform]
        exact hmade
      · rw [hdigest]
        rw [readClaims_b64encode htext hbytes] at hclaims
        cases hclaims
        unfold principalOf? at hprincipal
        simp only [strOf?, intOf?, Option.bind_eq_bind, Option.bind_some] at hprincipal
        split_ifs at hprincipal
        cases hprincipal
        rfl

/-- **What the session tokens guarantee.**  Reading a token, and comparing the tokens against forged
requests, raise errors of the service only, exactly where the texts are such that they can be
compared and signed; a token that was made is read back as its session, exactly where its payload
has at most 3036 bytes; and where no other signature is presented, a token that is accepted is one
that was made. -/
theorem session_tokens (signingKey : CodePoints) :
    (∀ token now,
      Contained (parseSessionToken token signingKey now) ↔ Readable token signingKey) ∧
    (∀ cookieToken headerToken principal,
      Contained (validateSessionCsrf cookieToken headerToken principal) ↔
        Comparable cookieToken headerToken ∧
          ∀ token, Matching token cookieToken headerToken →
            isAsciiText principal.csrfDigest = true) ∧
    (∀ cookieToken headerToken ttlSeconds now,
      Contained (validateBootstrapCsrf cookieToken headerToken signingKey ttlSeconds now) ↔
        Comparable cookieToken headerToken ∧
          ∀ token, Matching token cookieToken headerToken →
            ∀ issued random presented,
              token.splitOn 46 = [codePoints "b1", issued, random, presented] →
                (Utf8.encode signingKey).isSome) ∧
    (∀ username role csrfToken ttlSeconds issuedAt token,
      createSessionToken username role csrfToken signingKey ttlSeconds issuedAt = .ok token →
        1 ≤ username.length ∧ username.length ≤ 120 →
          ∀ now, issuedAt ≤ now + 60 → now < issuedAt + ttlSeconds →
            (parseSessionToken token signingKey now =
                (csrfDigestOf csrfToken).map
                  (Principal.mk username role issuedAt (issuedAt + ttlSeconds)) ↔
              payloadSize username role issuedAt (issuedAt + ttlSeconds) ≤ 3036)) ∧
    ∀ issues presented, Unforgeable signingKey issues presented →
      ∀ token ∈ presented, ∀ now principal, parseSessionToken token signingKey now = .ok principal →
        ∃ username role csrfToken ttlSeconds issuedAt,
          Issue.session username role csrfToken ttlSeconds issuedAt ∈ issues ∧
            createSessionToken username role csrfToken signingKey ttlSeconds issuedAt = .ok token ∧
              (csrfDigestOf csrfToken).map
                (Principal.mk username role issuedAt (issuedAt + ttlSeconds)) = .ok principal :=
  ⟨fun token now => parseSessionToken_contained token signingKey now,
    fun cookieToken headerToken principal =>
      validateSessionCsrf_contained cookieToken headerToken principal,
    fun cookieToken headerToken ttlSeconds now =>
      validateBootstrapCsrf_contained cookieToken headerToken signingKey ttlSeconds now,
    fun _ _ _ _ _ _ h hname _ hissued hexpires =>
      parseSessionToken_created h hname hissued hexpires,
    fun _ _ hunforgeable _ htoken _ _ h => created_of_accepted hunforgeable htoken h⟩

end Tokens

/-- A runtime with the two values of the hash functions that the session below takes. -/
@[reducible] def sampleAuth : AuthRuntime where
  hmacSha256 _ _ :=
    [77, 245, 59, 137, 253, 62, 195, 229, 219, 28, 159, 100, 235, 175, 102, 43, 48, 201, 20, 40, 78,
      245, 164, 251, 104, 180, 13, 153, 55, 74, 60, 203]
  length_hmacSha256 _ _ := rfl
  sha256Hexdigest _ :=
    codePoints "bb5bfe755fd14a4ba8f384d91b2a67725af7b90314db54cfe5a1b1c780c653c5"
  length_sha256Hexdigest _ := rfl
  sha256Hexdigest_hex _ := by decide
  decodeOther _ _ := none
  nestingLimit := 900
  intOfText _ := none

/-- The session of a user is what the server signed. -/
def aliceIssue : Issue :=
  .session (codePoints "alice") .admin (codePoints "s1_token") 3600 1700000000

/-- The session of a user, ten minutes after it was made: it is read back, and where no other token
is presented the server has made it. -/
theorem session_tokens_alice :
    ∃ token,
      @createSessionToken sampleAuth (codePoints "alice") .admin (codePoints "s1_token")
        (codePoints "signing-key") 3600 1700000000 = .ok token ∧
      @parseSessionToken sampleAuth token (codePoints "signing-key") 1700000600 =
        .ok { username := codePoints "alice", role := .admin, issuedAt := 1700000000,
              expiresAt := 1700003600, csrfDigest := sampleAuth.sha256Hexdigest [] } ∧
      @Unforgeable sampleAuth (codePoints "signing-key") {aliceIssue} {token} ∧
      ∃ username role csrfToken ttlSeconds issuedAt,
        Issue.session username role csrfToken ttlSeconds issuedAt ∈ ({aliceIssue} : Set Issue) ∧
          @createSessionToken sampleAuth username role csrfToken (codePoints "signing-key")
            ttlSeconds issuedAt = .ok token := by
  let _ := sampleAuth
  have hmade : (createSessionToken (codePoints "alice") .admin (codePoints "s1_token")
      (codePoints "signing-key") 3600 1700000000).isOk = true := by
    decide +kernel
  obtain ⟨token, hcreated⟩ := exists_eq_ok hmade
  obtain ⟨-, -, -, hback, hgenuine⟩ := @session_tokens sampleAuth (codePoints "signing-key")
  have hread := (hback _ _ _ _ _ _ hcreated (by decide) 1700000600 (by decide) (by decide)).mpr
    (by decide +kernel)
  have hunforgeable : Unforgeable (codePoints "signing-key") {aliceIssue} {token} := by
    rintro _ rfl message tag rfl hsigned
    exact ⟨aliceIssue, rfl, tag, hcreated, notMem_sign hsigned⟩
  obtain ⟨username, role, csrfToken, ttlSeconds, issuedAt, hissue, hsame, -⟩ :=
    hgenuine {aliceIssue} {token} hunforgeable token rfl 1700000600 _ hread
  exact ⟨token, hcreated, hread, hunforgeable, username, role, csrfToken, ttlSeconds, issuedAt,
    hissue, hsame⟩

/-- A signature that is not ASCII: its comparison raises another exception. -/
theorem foreign_signature_escapes :
    ¬ ∀ token now,
      Contained (@parseSessionToken sampleAuth token (codePoints "signing-key") now) := by
  intro h
  have hraised : @parseSessionToken sampleAuth (codePoints "v1.x.é") (codePoints "signing-key") 0 =
      .error (.other "TypeError") := by
    decide +kernel
  obtain ⟨error, he⟩ := h _ _ _ hraised
  cases he

end LibSeek.Core.Auth
