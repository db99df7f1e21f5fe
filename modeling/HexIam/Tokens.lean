import HexIam.LruCache
import HexIam.PythonText

/-!
# Signed tokens

The claims the service signs, its signing keys, and the functions of
`signing_keys` and `jwt_utils` that mint and verify tokens.  PyJWT itself is a
parameter: `JwtLibrary` holds its three functions and the facts about compact
tokens that the service relies on.
-/

namespace HexIam

/-! ## Errors -/

/-- The exceptions PyJWT raises. -/
inductive JwtError : Type
  | expiredSignature
  | invalidSignature
  | decode
  | invalidAlgorithm
  | invalidToken
  | invalidKey
  deriving DecidableEq, Repr

/-- The subclasses of `jwt.InvalidTokenError`. -/
def JwtError.isInvalidToken : JwtError → Bool
  | .invalidKey => false
  | _ => true

/-- The subclasses of `AppError` in `exceptions.domain`. -/
inductive AppErrorKind : Type
  | businessValidation
  | authentication
  | authorization
  | notFound
  | conflict
  | internal
  deriving DecidableEq, Repr

/-- An exception that leaves a function of the service. -/
inductive Exn : Type
  | app (kind : AppErrorKind) (message : String)
  | jwt (error : JwtError)
  | database (message : String)
  | redis (message : String)
  | value (message : String)
  | other (name : String)
  deriving DecidableEq, Repr

/-! ## Claims -/

/-- The `aud` claim: one audience or a list. -/
inductive Audience : Type
  | one (audience : String)
  | many (audiences : List String)
  deriving DecidableEq, Repr

/-- The payload of a token the service signs.  A claim that is absent and one
that is null are read alike by `payload.get`. -/
structure Claims where
  sub : Option String := none
  iss : Option String := none
  aud : Option Audience := none
  exp : Option Int := none
  iat : Option Int := none
  jti : Option String := none
  userId : Option String := none
  tenantId : Option String := none
  clientId : Option String := none
  role : Option String := none
  policy : Option (List (String × Nat)) := none
  scope : Option String := none
  grantType : Option String := none
  email : Option String := none
  emailVerified : Option Bool := none
  nonce : Option String := none
  name : Option String := none
  givenName : Option String := none
  familyName : Option String := none
  firstName : Option String := none
  lastName : Option String := none
  amr : Option (List String) := none
  brokerIss : Option String := none
  purpose : Option String := none
  invitationId : Option String := none
  deriving DecidableEq, Repr

/-- The header of a token. -/
structure TokenHeader where
  alg : Option String := none
  kid : Option String := none
  jti : Option String := none
  deriving DecidableEq, Repr

/-! ## PyJWT -/

/-- The options of `jwt.decode` the service sets. -/
structure DecodeOptions where
  audience : Option String := none
  verifyAud : Bool := false
  verifyExp : Bool := true
  deriving DecidableEq, Repr

/-- PyJWT: `jwt.encode`, `jwt.get_unverified_header` and `jwt.decode` at a
given time.  The laws say that the header survives encoding, that a token
without a dot has no header, and that a token whose signature verifies has no
blank in the part that is signed, everything before its last dot. -/
structure JwtLibrary where
  encode : Claims → (key algorithm : String) → TokenHeader → String
  unverifiedHeader : (token : String) → Except JwtError TokenHeader
  decode : (token key : String) → (algorithms : List String) →
    DecodeOptions → (now : Int) → Except JwtError Claims
  header_encode : ∀ claims key algorithm header,
    ∃ found, unverifiedHeader (encode claims key algorithm header) = .ok found ∧
      found.jti = header.jti
  header_dot : ∀ token header, unverifiedHeader token = .ok header →
    '.' ∈ token.toList
  signed_no_blank : ∀ token key algorithms options now claims front back,
    decode token key algorithms options now = .ok claims →
    token.toList = front ++ '.' :: back → '.' ∉ back → ' ' ∉ front

/-- An unsigned rendering of tokens that satisfies the laws: the compact form
shows the id of the header, and the tokens in `known` decode to their claims
until they expire. -/
def JwtLibrary.plain (known : List (String × Claims)) : JwtLibrary where
  encode _ _ _ header :=
    match header.jti with
    | some jti => String.ofList ('j' :: '.' :: jti.toList)
    | none => "n."
  unverifiedHeader token :=
    match token.toList with
    | 'j' :: '.' :: jti => .ok { jti := some (String.ofList jti) }
    | 'n' :: '.' :: _ => .ok {}
    | _ => .error .decode
  decode token _ _ options now :=
    if ' ' ∈ token.toList then .error .invalidSignature
    else
      match known.lookup token with
      | none => .error .invalidSignature
      | some claims =>
          if options.verifyExp && claims.exp.any fun exp => exp ≤ now then
            .error .expiredSignature
          else .ok claims
  header_encode := by
    intro claims key algorithm header
    cases jtiEq : header.jti with
    | none => exact ⟨_, rfl, rfl⟩
    | some jti => exact ⟨{ jti := some jti }, by simp, rfl⟩
  header_dot := by
    intro token header headerEq
    split at headerEq
    case h_1 jti charsEq => simp [charsEq]
    case h_2 charsEq => simp [charsEq]
    case h_3 => cases headerEq
  signed_no_blank := by
    intro token key algorithms options now claims front back decoded charsEq _
      blank
    have inToken : ' ' ∈ token.toList := by
      rw [charsEq]
      exact List.mem_append_left _ blank
    simp [inToken] at decoded

/-! ## Signing keys -/

/-- One record of the key set. -/
structure KeyRecord where
  kid : String
  createdAt : Int
  privatePem : String
  publicPem : String
  deriving DecidableEq, Repr

/-- The signing-key manager with its key set loaded. -/
structure SigningKeyManager where
  algorithm : String
  secret : String
  activeKid : String
  keys : List KeyRecord
  deriving DecidableEq, Repr

/-- A minted token: what was signed, and its compact form. -/
structure SignedToken where
  header : TokenHeader
  payload : Claims
  compact : String
  deriving DecidableEq, Repr

/-- `first or second` on optional strings. -/
def orElse (first second : Option String) : Option String :=
  if given first then first else second

namespace SigningKeyManager

variable (jwt : JwtLibrary) (manager : SigningKeyManager)

/-- `_get_active_key_locked`. -/
def getActiveKey : Except Exn KeyRecord :=
  match manager.keys.find? fun item => item.kid = manager.activeKid with
  | some item => .ok item
  | none => .error (.value "Active signing key is missing from keyset")

/-- `_get_candidate_keys_locked`. -/
def getCandidateKeys (kid : Option String) : List KeyRecord :=
  let found := manager.keys.filter fun item => kid = some item.kid
  if given kid && !found.isEmpty then found else manager.keys

/-- `sign_token`. -/
def signToken (payload : Claims) (headers : TokenHeader)
    (algorithm secretKey : Option String) : Except Exn SignedToken :=
  let resolved := upper ((orElse algorithm (some manager.algorithm)).getD "")
  if resolved = "HS256" then
    let key := (orElse secretKey (some manager.secret)).getD ""
    .ok ⟨headers, payload, jwt.encode payload key resolved headers⟩
  else if resolved ≠ manager.algorithm then
    .error (.value
      ("Configured signer uses " ++ manager.algorithm ++ ", not " ++ resolved))
  else do
    let activeKey ← manager.getActiveKey
    let headers := { headers with kid := some activeKey.kid }
    .ok ⟨headers, payload,
      jwt.encode payload activeKey.privatePem resolved headers⟩

/-- The loop over candidate keys of `decode_token`. -/
def decodeWithKeys (token resolved : String) (options : DecodeOptions)
    (now : Int) :
    List KeyRecord → (lastError : JwtError) → Except JwtError Claims
  | [], lastError => .error lastError
  | candidate :: rest, _ =>
      match jwt.decode token candidate.publicPem [resolved] options now with
      | .ok claims => .ok claims
      | .error error =>
          if error.isInvalidToken then
            decodeWithKeys token resolved options now rest error
          else .error error

/-- `decode_token`. -/
def decodeToken (token : String) (options : DecodeOptions)
    (algorithm secretKey : Option String) (now : Int) :
    Except JwtError Claims := do
  let header ← jwt.unverifiedHeader token
  let resolved := upper
    ((orElse algorithm (orElse header.alg (some manager.algorithm))).getD "")
  if resolved = "HS256" then
    jwt.decode token ((orElse secretKey (some manager.secret)).getD "")
      [resolved] options now
  else if resolved ≠ manager.algorithm then
    .error .invalidAlgorithm
  else
    decodeWithKeys jwt token resolved options now
      (manager.getCandidateKeys header.kid) .invalidToken

end SigningKeyManager

/-- The part of a deployment that mints and verifies tokens. -/
structure TokenService where
  jwt : JwtLibrary
  manager : SigningKeyManager
  jwtSecret : String

namespace TokenService

variable (service : TokenService)

/-- `decode_jwt_token`, as every caller uses it: no algorithm and no key. -/
def decodeJwtToken (token : String) (now : Int) (verifyExp : Bool) :
    Except JwtError Claims :=
  service.manager.decodeToken service.jwt token
    { verifyAud := false, verifyExp := verifyExp } none none now

/-- The principal a token's id is built from. -/
def principal (payload : Claims) : Except Exn String :=
  match orElse payload.userId payload.sub with
  | some userId => .ok userId
  | none => .error (.other "KeyError")

/-- `create_jwt_token(payload, JWT_SECRET)` at a reading of `time.time_ns()`. -/
def createJwtToken (payload : Claims) (timeNs : Nat) :
    Except Exn SignedToken := do
  let userId ← principal payload
  let jti := userId ++ "-" ++ toString timeNs
  service.manager.signToken service.jwt { payload with jti := some jti }
    { jti := some jti } none (some service.jwtSecret)

/-- The id in the header of a presented token, as the middleware reads it. -/
def headerJti (token : String) : Option String :=
  match service.jwt.unverifiedHeader token with
  | .ok header => header.jti
  | .error _ => none

/-! ### Verification of a bearer token -/

/-- `VerifiedTokenData`. -/
structure VerifiedTokenData where
  email : String
  tenantId : String
  policy : Option (List (String × Nat))
  role : Option String
  userId : String
  exp : Option Int
  iat : Option Int
  aud : Option Audience
  deriving DecidableEq, Repr

/-- An error text with its status code. -/
structure TokenFailure where
  message : String
  code : Nat
  deriving DecidableEq, Repr

/-- `token[:10]` followed by an ellipsis. -/
def shown (token : String) : String :=
  String.ofList (token.toList.take 10) ++ "..."

/-- The `except` clauses of `VerifyToken`. -/
def failureOf (token : String) : JwtError → TokenFailure
  | .expiredSignature => ⟨"Expired token: " ++ shown token, 401⟩
  | .invalidSignature => ⟨"Invalid signature: " ++ shown token, 401⟩
  | .decode => ⟨"Decode error: " ++ shown token, 401⟩
  | .invalidAlgorithm => ⟨"Invalid token: " ++ shown token, 401⟩
  | .invalidToken => ⟨"Invalid token: " ++ shown token, 401⟩
  | .invalidKey => ⟨"JWT secret key error", 500⟩

/-- `VerifyToken.__call__`. -/
def verifyToken (token : String) (now : Int) :
    Except TokenFailure VerifiedTokenData :=
  match service.decodeJwtToken token now true with
  | .error error => .error (failureOf token error)
  | .ok payload =>
      let missing (claim : String) : TokenFailure :=
        ⟨"Token missing '" ++ claim ++ "' for token: " ++ shown token, 401⟩
      let userId := orElse payload.userId payload.sub
      if !given payload.sub then .error (missing "sub")
      else if !given userId then .error (missing "user_id")
      else if !given payload.tenantId then .error (missing "tenant_id")
      else .ok {
        email := payload.sub.getD ""
        tenantId := payload.tenantId.getD ""
        policy := payload.policy
        role := payload.role
        userId := userId.getD ""
        exp := payload.exp
        iat := payload.iat
        aud := payload.aud }

/-- `extract_token`. -/
def extractToken (authorization : Option String) :
    Except TokenFailure String :=
  if !given authorization then
    .error ⟨"Authorization header missing", 401⟩
  else
    match splitOnce (authorization.getD "") ' ' with
    | none => .error ⟨"Malformed Authorization header", 401⟩
    | some (scheme, token) =>
        if lower scheme ≠ "bearer" then
          .error ⟨"Invalid scheme. Expected 'Bearer'", 401⟩
        else .ok token

/-- `maxsize` of the cache. -/
def cacheSize : Nat :=
  10000

/-- The exception raised for a failed verification. -/
def TokenFailure.raised (failure : TokenFailure) : Exn :=
  if failure.code = 401 then .app .authentication failure.message
  else .app .internal "Internal server error"

/-- The cache of `cached_verify_token`.  The logger is the other part of its
key; a process has only one. -/
abbrev VerifyCache :=
  LruCache String VerifiedTokenData cacheSize

/-- `cached_verify_token` without its cache. -/
def uncachedVerifyToken (token : String) (now : Int) :
    Except Exn VerifiedTokenData :=
  (service.verifyToken token now).mapError TokenFailure.raised

/-- `cached_verify_token`. -/
def cachedVerifyToken (cache : VerifyCache) (token : String) (now : Int) :
    Except Exn VerifiedTokenData × VerifyCache :=
  cache.call (fun token => service.uncachedVerifyToken token now) token

/-- `verify_and_return_jwt_payload`. -/
def verifyAndReturnJwtPayload (cache : VerifyCache)
    (authorization : Option String) (now : Int) :
    Except Exn VerifiedTokenData × VerifyCache :=
  match extractToken authorization with
  | .error failure => (.error failure.raised, cache)
  | .ok token => service.cachedVerifyToken cache token now

variable {service}

/-! ### What minting and verifying give -/

theorem headerJti_encode (payload : Claims) (key algorithm : String)
    (header : TokenHeader) :
    service.headerJti (service.jwt.encode payload key algorithm header) =
      header.jti := by
  obtain ⟨found, headerEq, jtiEq⟩ :=
    service.jwt.header_encode payload key algorithm header
  rw [headerJti, headerEq]
  exact jtiEq

theorem headerJti_of_signToken {payload : Claims} {headers : TokenHeader}
    {algorithm secretKey : Option String} {token : SignedToken}
    (signed : service.manager.signToken service.jwt payload headers algorithm
      secretKey = .ok token) :
    token.payload = payload ∧
      service.headerJti token.compact = headers.jti := by
  unfold SigningKeyManager.signToken at signed
  simp only at signed
  split at signed
  · cases signed
    exact ⟨rfl, headerJti_encode ..⟩
  · split at signed
    · cases signed
    · cases keyEq : service.manager.getActiveKey with
      | error error =>
          rw [keyEq] at signed
          cases signed
      | ok activeKey =>
          rw [keyEq] at signed
          cases signed
          exact ⟨rfl, headerJti_encode ..⟩

/-- A minted token carries its id in its payload and in the header of its
compact form. -/
theorem createJwtToken_eq_ok {payload : Claims} {timeNs : Nat}
    {token : SignedToken}
    (minted : service.createJwtToken payload timeNs = .ok token) :
    ∃ userId, principal payload = .ok userId ∧
      token.payload =
        { payload with jti := some (userId ++ "-" ++ toString timeNs) } ∧
      service.headerJti token.compact = token.payload.jti := by
  unfold createJwtToken at minted
  cases userEq : principal payload with
  | error error =>
      rw [userEq] at minted
      cases minted
  | ok userId =>
      rw [userEq] at minted
      obtain ⟨payloadEq, headerEq⟩ := headerJti_of_signToken minted
      exact ⟨userId, rfl, payloadEq, by rw [headerEq, payloadEq]⟩

/-- The configured algorithm is symmetric or has an active key. -/
def canSign (service : TokenService) : Prop :=
  upper service.manager.algorithm = "HS256" ∨
    (upper service.manager.algorithm = service.manager.algorithm ∧
      ∃ key, service.manager.getActiveKey = .ok key)

theorem createJwtToken_ok_iff {payload : Claims} {timeNs : Nat}
    (hasSub : payload.sub.isSome = true) :
    (∃ token, service.createJwtToken payload timeNs = .ok token) ↔
      service.canSign := by
  obtain ⟨userId, userEq⟩ : ∃ userId, principal payload = .ok userId := by
    obtain ⟨sub, subEq⟩ := Option.isSome_iff_exists.mp hasSub
    unfold principal orElse
    cases payload.userId with
    | none => exact ⟨sub, by simp [given, subEq]⟩
    | some userId =>
        cases filledEq : filled userId with
        | false => exact ⟨sub, by simp [given, filledEq, subEq]⟩
        | true => exact ⟨userId, by simp [given, filledEq]⟩
  have resolvedEq :
      (orElse none (some service.manager.algorithm)).getD "" =
        service.manager.algorithm := rfl
  unfold createJwtToken SigningKeyManager.signToken canSign
  simp only [userEq, resolvedEq, bind, Except.bind]
  split
  case isTrue symmetric => simp [symmetric]
  case isFalse asymmetric =>
    split
    case isTrue other => simp [asymmetric, other]
    case isFalse same =>
      rw [not_not] at same
      rw [same] at asymmetric
      cases service.manager.getActiveKey <;> simp [asymmetric, same]

theorem decode_of_decodeWithKeys {jwt : JwtLibrary} {token resolved : String}
    {options : DecodeOptions} {now : Int} {keys : List KeyRecord}
    {lastError : JwtError} {claims : Claims}
    (decoded : SigningKeyManager.decodeWithKeys jwt token resolved options now
      keys lastError = .ok claims) :
    ∃ key, jwt.decode token key [resolved] options now = .ok claims := by
  induction keys generalizing lastError with
  | nil => cases decoded
  | cons candidate rest ih =>
      simp only [SigningKeyManager.decodeWithKeys] at decoded
      split at decoded
      case h_1 found result =>
        cases decoded
        exact ⟨_, result⟩
      case h_2 error result =>
        split at decoded
        · exact ih decoded
        · cases decoded

/-- A token that `decode_token` accepts decodes under some key. -/
theorem decode_of_decodeToken {token : String} {options : DecodeOptions}
    {algorithm secretKey : Option String} {now : Int} {claims : Claims}
    (decoded : service.manager.decodeToken service.jwt token options algorithm
      secretKey now = .ok claims) :
    ∃ key algorithms,
      service.jwt.decode token key algorithms options now = .ok claims := by
  unfold SigningKeyManager.decodeToken at decoded
  cases headerEq : service.jwt.unverifiedHeader token with
  | error error => simp [headerEq, bind, Except.bind] at decoded
  | ok header =>
      simp only [headerEq, bind, Except.bind] at decoded
      split at decoded
      · exact ⟨_, _, decoded⟩
      · split at decoded
        · cases decoded
        · obtain ⟨key, result⟩ := decode_of_decodeWithKeys decoded
          exact ⟨key, _, result⟩

theorem decode_of_decodeJwtToken {token : String} {now : Int}
    {verifyExp : Bool} {claims : Claims}
    (decoded : service.decodeJwtToken token now verifyExp = .ok claims) :
    ∃ key algorithms options,
      service.jwt.decode token key algorithms options now = .ok claims := by
  obtain ⟨key, algorithms, result⟩ := decode_of_decodeToken decoded
  exact ⟨key, algorithms, _, result⟩

/-- A verified token has a header with a dot-separated compact form. -/
theorem header_of_decodeJwtToken {token : String} {now : Int}
    {verifyExp : Bool} {claims : Claims}
    (decoded : service.decodeJwtToken token now verifyExp = .ok claims) :
    ∃ header, service.jwt.unverifiedHeader token = .ok header := by
  unfold decodeJwtToken SigningKeyManager.decodeToken at decoded
  cases headerEq : service.jwt.unverifiedHeader token with
  | error error => simp [headerEq, bind, Except.bind] at decoded
  | ok header => exact ⟨header, rfl⟩

/-- A token that verifies is not empty. -/
theorem filled_of_decodeJwtToken {token : String} {now : Int}
    {verifyExp : Bool} {claims : Claims}
    (decoded : service.decodeJwtToken token now verifyExp = .ok claims) :
    filled token = true := by
  obtain ⟨header, headerEq⟩ := header_of_decodeJwtToken decoded
  have dot := service.jwt.header_dot token header headerEq
  have nonempty : token ≠ "" := by
    rintro rfl
    cases dot
  simpa [filled] using nonempty

theorem decodeJwtToken_of_verifyToken {token : String} {now : Int}
    {data : VerifiedTokenData}
    (verified : service.verifyToken token now = .ok data) :
    ∃ claims, service.decodeJwtToken token now true = .ok claims := by
  unfold verifyToken at verified
  split at verified
  · cases verified
  · exact ⟨_, ‹_›⟩

theorem uncachedVerifyToken_eq_ok {token : String} {now : Int}
    {data : VerifiedTokenData} :
    service.uncachedVerifyToken token now = .ok data ↔
      service.verifyToken token now = .ok data := by
  unfold uncachedVerifyToken
  cases service.verifyToken token now <;> simp [Except.mapError]

end TokenService

end HexIam
