/-
The session tokens.

A session token is `v1`, a payload in Base64 and a signature of the two, with dots between them; a
token against forged requests is sent twice, as a cookie and as a header, and must be the same.
What the client sends is any text.  The hash functions are parameters, and so are the decoders of
the encodings of JSON that are not UTF-8 and the parser of integers.

Main definitions:

* `Core.Auth.AuthRuntime` — the parts of the runtime that are parameters;
* `Core.Auth.createSessionToken`, `Core.Auth.parseSessionToken`, `Core.Auth.createBootstrapCsrf` —
  the tokens;
* `Core.Auth.matchingCsrfTokens`, `Core.Auth.validateSessionCsrf`,
  `Core.Auth.validateBootstrapCsrf` — the comparison of the tokens against forged requests.
-/

import LibSeek.Core.Runtime
import LibSeek.Lib.Base64
import LibSeek.Lib.JsonText
import LibSeek.Lib.Transaction

set_option relaxedAutoImplicit false
set_option autoImplicit false

namespace LibSeek.Core.Auth

open LibSeek.Lib

/-! ### The runtime -/

/-- The parts of the runtime that are not modelled.  Of the hash functions it is only assumed how
long their results are, and that the one in hexadecimal consists of its digits. -/
class AuthRuntime where
  /-- `hmac.new(key, message, hashlib.sha256).digest()`. -/
  hmacSha256 : Octets → Octets → Octets
  length_hmacSha256 : ∀ key message, (hmacSha256 key message).length = 32
  /-- `hashlib.sha256(data).hexdigest()`. -/
  sha256Hexdigest : Octets → CodePoints
  length_sha256Hexdigest : ∀ data, (sha256Hexdigest data).length = 64
  sha256Hexdigest_hex :
    ∀ data, ∀ c ∈ sha256Hexdigest data, (48 ≤ c ∧ c < 58) ∨ (97 ≤ c ∧ c < 103)
  /-- The decoders of the encodings that are not UTF-8; nothing where they raise. -/
  decodeOther : JsonText.Encoding → Octets → Option CodePoints
  /-- How deep a JSON document may be nested within its outermost value. -/
  nestingLimit : ℕ
  /-- `int` of a text; nothing where it raises `ValueError`. -/
  intOfText : CodePoints → Option ℤ

export AuthRuntime (hmacSha256 sha256Hexdigest decodeOther nestingLimit intOfText)

/-! ### Users and errors -/

/-- `AuthRole`. -/
inductive AuthRole where
  | viewer
  | operator
  | admin
  deriving DecidableEq, Repr

/-- The value of a role. -/
def AuthRole.value : AuthRole → CodePoints
  | viewer => codePoints "viewer"
  | operator => codePoints "operator"
  | admin => codePoints "admin"

/-- `Principal`. -/
structure Principal where
  username : CodePoints
  role : AuthRole
  issuedAt : ℤ
  expiresAt : ℤ
  csrfDigest : CodePoints
  deriving DecidableEq, Repr

/-- `_invalid_session`. -/
def invalidSession : AppError :=
  { errorCode := "AUTH_SESSION_INVALID", message := "登录会话无效，请重新登录", statusCode := 401 }

/-- The error of a session that is over. -/
def sessionExpired : AppError :=
  { errorCode := "AUTH_SESSION_EXPIRED", message := "登录会话已过期，请重新登录",
    statusCode := 401 }

/-- `_invalid_csrf`. -/
def invalidCsrf : AppError :=
  { errorCode := "CSRF_TOKEN_INVALID", message := "CSRF 令牌无效", statusCode := 403 }

/-- The error of a request without a token. -/
def csrfRequired : AppError :=
  { errorCode := "CSRF_TOKEN_REQUIRED", message := "状态变更请求缺少 CSRF 令牌",
    statusCode := 403 }

/-- The error of a token that is over. -/
def csrfExpired : AppError :=
  { errorCode := "CSRF_TOKEN_EXPIRED", message := "CSRF 令牌已过期，请重新获取",
    statusCode := 403 }

/-! ### Texts and bytes -/

/-- `text.encode("utf-8")`. -/
def encodeUtf8 (text : CodePoints) : Except Exn Octets :=
  match Utf8.encode text with
  | some bytes => .ok bytes
  | none => .error (.other "UnicodeEncodeError")

/-- `hmac.compare_digest` of two texts. -/
def compareDigest (a b : CodePoints) : Except Exn Bool :=
  if isAsciiText a ∧ isAsciiText b then .ok (a = b) else .error (.other "TypeError")

/-- `_b64encode`. -/
def b64encode (value : Octets) : CodePoints :=
  (Base64.urlsafeEncode value).rdropWhile (· = Base64.pad)

/-- `_b64decode`. -/
def b64decode (value : CodePoints) : Except Exn Octets :=
  match Base64.urlsafeDecode
    (value ++ List.replicate (Base64.missing value.length) Base64.pad) with
  | some bytes => .ok bytes
  | none => .error (.app invalidSession)

/-- `str` of an integer. -/
def strOfInt (n : ℤ) : Except Exn CodePoints :=
  match JsonText.dumpScalar (.int n) with
  | some text => .ok text
  | none => .error (.other "ValueError")

section Tokens

variable [AuthRuntime]

/-- `_sign`. -/
def sign (key value : CodePoints) : Except Exn CodePoints := do
  let key ← encodeUtf8 key
  let value ← encodeUtf8 value
  return b64encode (hmacSha256 key value)

/-- `_csrf_digest`. -/
def csrfDigestOf (value : CodePoints) : Except Exn CodePoints := do
  let value ← encodeUtf8 value
  return sha256Hexdigest value

/-! ### Session tokens -/

/-- The payload of a session token. -/
def payloadOf (username : CodePoints) (role : AuthRole) (issuedAt expiresAt : ℤ)
    (digest : CodePoints) : List (CodePoints × JsonText.Scalar) :=
  [(codePoints "sub", .str username), (codePoints "role", .str role.value),
    (codePoints "iat", .int issuedAt), (codePoints "exp", .int expiresAt),
    (codePoints "csrf", .str digest)]

/-- `json.dumps` of a payload, with its keys in order and no character escaped that need not. -/
def dumpsPayload (payload : List (CodePoints × JsonText.Scalar)) : Except Exn CodePoints :=
  match JsonText.dumps payload with
  | some text => .ok text
  | none => .error (.other "ValueError")

/-- `create_session_token`. -/
def createSessionToken (username : CodePoints) (role : AuthRole) (csrfToken signingKey : CodePoints)
    (ttlSeconds now : ℤ) : Except Exn CodePoints := do
  let digest ← csrfDigestOf csrfToken
  let text ← dumpsPayload (payloadOf username role now (now + ttlSeconds) digest)
  let bytes ← encodeUtf8 text
  let signed := codePoints "v1." ++ b64encode bytes
  let signature ← sign signingKey signed
  return signed ++ 46 :: signature

/-- What `isinstance` takes for an integer: also a truth value. -/
def intOf? : JsonText.Value → Option ℤ
  | .int z => some z
  | .bool b => some (if b then 1 else 0)
  | _ => none

/-- A text of a document. -/
def strOf? : JsonText.Value → Option CodePoints
  | .str text => some text
  | _ => none

/-- `AuthRole` of a value; nothing where it raises. -/
def roleOf? (value : JsonText.Value) : Option AuthRole :=
  (strOf? value).bind fun text => [AuthRole.viewer, .operator, .admin].find? (·.value = text)

/-- The members of a payload, as they are read from it. -/
structure Claims where
  username : JsonText.Value
  role : AuthRole
  issuedAt : JsonText.Value
  expiresAt : JsonText.Value
  csrfDigest : JsonText.Value

/-- The claims of a document; nothing where it is no object, lacks one of them, or has another
role. -/
def claimsOf? : JsonText.Value → Option Claims
  | .obj members => do
      let username ← JsonText.member? (codePoints "sub") members
      let role ← (JsonText.member? (codePoints "role") members).bind roleOf?
      let issuedAt ← JsonText.member? (codePoints "iat") members
      let expiresAt ← JsonText.member? (codePoints "exp") members
      let csrfDigest ← JsonText.member? (codePoints "csrf") members
      return { username, role, issuedAt, expiresAt, csrfDigest }
  | _ => none

/-- The claims of a payload: of what goes wrong, only too deep a nesting is not taken for an
invalid session. -/
def readClaims (encoded : CodePoints) : Except Exn Claims := do
  let bytes ← b64decode encoded
  match JsonText.loads decodeOther (nestingLimit + 1) bytes with
  | .error .recursion => .error (.other "RecursionError")
  | .error .value => .error (.app invalidSession)
  | .ok document =>
      match claimsOf? document with
      | some claims => .ok claims
      | none => .error (.app invalidSession)

/-- The session of the claims; nothing where one of them is of another type, or of another
length. -/
def principalOf? (claims : Claims) : Option Principal := do
  let username ← strOf? claims.username
  let issuedAt ← intOf? claims.issuedAt
  let expiresAt ← intOf? claims.expiresAt
  let csrfDigest ← strOf? claims.csrfDigest
  if 1 ≤ username.length ∧ username.length ≤ 120 ∧ csrfDigest.length = 64 then
    some { username, role := claims.role, issuedAt, expiresAt, csrfDigest }
  else none

/-- A session within its time. -/
def checkTimes (principal : Principal) (now : ℤ) : Except Exn Principal :=
  if now + 60 < principal.issuedAt then .error (.app invalidSession)
  else if principal.expiresAt ≤ now then .error (.app sessionExpired)
  else .ok principal

/-- What `parse_session_token` does with the three parts of a token: the signature is compared, and
only then is the payload read. -/
def parseParts (version encoded presented signingKey : CodePoints) (now : ℤ) :
    Except Exn Principal := do
  let signature ← sign signingKey (version ++ 46 :: encoded)
  let same ← compareDigest presented signature
  if !same then .error (.app invalidSession)
  else
    let claims ← readClaims encoded
    match principalOf? claims with
    | none => .error (.app invalidSession)
    | some principal => checkTimes principal now

/-- `parse_session_token`. -/
def parseSessionToken (token signingKey : CodePoints) (now : ℤ) : Except Exn Principal :=
  if 4096 < token.length then .error (.app invalidSession)
  else
    match token.splitOn 46 with
    | [version, encoded, presented] =>
        if version ≠ codePoints "v1" then .error (.app invalidSession)
        else parseParts version encoded presented signingKey now
    | _ => .error (.app invalidSession)

/-! ### Tokens against forged requests -/

/-- `create_bootstrap_csrf`, with the random part of the token. -/
def createBootstrapCsrf (signingKey random : CodePoints) (now : ℤ) : Except Exn CodePoints := do
  let issuedAt ← strOfInt now
  let signed := codePoints "b1." ++ issuedAt ++ 46 :: random
  let signature ← sign signingKey signed
  return signed ++ 46 :: signature

/-- `_matching_csrf_tokens`. -/
def matchingCsrfTokens (cookieToken headerToken : Option CodePoints) : Except Exn CodePoints :=
  match cookieToken, headerToken with
  | some cookie, some header =>
      if cookie = [] ∨ header = [] then .error (.app csrfRequired)
      else if 1024 < cookie.length ∨ 1024 < header.length then .error (.app invalidCsrf)
      else do
        let same ← compareDigest cookie header
        if !same then .error (.app invalidCsrf) else .ok cookie
  | _, _ => .error (.app csrfRequired)

/-- `validate_session_csrf`. -/
def validateSessionCsrf (cookieToken headerToken : Option CodePoints) (principal : Principal) :
    Except Exn Unit := do
  let token ← matchingCsrfTokens cookieToken headerToken
  let digest ← csrfDigestOf token
  let same ← compareDigest digest principal.csrfDigest
  if !same then .error (.app invalidCsrf) else .ok ()

/-- `validate_bootstrap_csrf`. -/
def validateBootstrapCsrf (cookieToken headerToken : Option CodePoints) (signingKey : CodePoints)
    (ttlSeconds now : ℤ) : Except Exn Unit := do
  let token ← matchingCsrfTokens cookieToken headerToken
  match token.splitOn 46 with
  | [version, issued, random, presented] =>
      if version ≠ codePoints "b1" then .error (.app invalidCsrf)
      else do
        let signature ← sign signingKey (version ++ 46 :: (issued ++ 46 :: random))
        let same ← compareDigest presented signature
        if !same then .error (.app invalidCsrf)
        else
          match intOfText issued with
          | none => .error (.app invalidCsrf)
          | some issuedAt =>
              if now + 60 < issuedAt ∨ ttlSeconds < now - issuedAt then .error (.app csrfExpired)
              else .ok ()
  | _ => .error (.app invalidCsrf)

end Tokens

end LibSeek.Core.Auth
