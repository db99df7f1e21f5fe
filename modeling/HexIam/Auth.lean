import HexIam.PolicyService
import HexIam.OidcService

/-!
# Login, logout and refresh

`authenticate`, `logout` and `refresh` of `core.auth`.  A login records the
session of the token it mints.  A refresh copies the payload of the token it is
given into a new one; it writes nothing.
-/

namespace HexIam

/-! ## `authenticate` -/

/-- `[orjson.loads(row["policy"]) for row in rows]`: a NULL is no document. -/
def loadPolicies :
    List (UserRow × Option PolicyDoc) → Except Exn (List PolicyDoc)
  | [] => .ok []
  | (_, none) :: _ => .error (.value "JSONDecodeError")
  | (_, some policy) :: rest => do
      let others ← loadPolicies rest
      return policy :: others

/-- The payload of the token a login mints. -/
def loginPayload (utcNow : Int) (email userId : String)
    (tenantId role : Option String) (policy : List (String × Nat)) : Claims where
  sub := some email
  userId := some userId
  tenantId := tenantId
  role := role
  policy := some policy
  exp := some (utcNow + 3600)

/-- The body of the `try` in `authenticate`. -/
def authenticateUnguarded (deployment : Deployment) (db : Connection)
    (readings : Readings) (ip email tenantId password : String)
    (deviceInfo : Option String) : App SignedToken := do
  match deployment.normalizeEmail email with
  | none => throw (.value "EmailNotValidError")
  | some normalizedEmail =>
      let userData ← ask (.user db (.withPolicies normalizedEmail))
      match userData with
      | [] => throw (.app .authentication "Invalid credentials")
      | (persona, _) :: _ =>
          if !(← ofExcept (deployment.verifyPassword password persona.password))
          then
            throw (.app .authentication "Invalid credentials")
          else
            let policies ← ofExcept (loadPolicies userData)
            let userPolicy ← ofExcept (policyClaim policies [])
            let accessToken ← ofExcept (deployment.tokens.createJwtToken
              (loginPayload (readings.utcNow 0) normalizedEmail persona.id
                (some tenantId) persona.role userPolicy) (readings.timeNs 0))
            let jti := (deployment.tokens.headerJti accessToken.compact).getD ""
            createSession jti persona.id tenantId (readings.utcNow 0 + 3600)
              (some ip) deviceInfo
            return accessToken

/-- The `except` clauses of `authenticate`. -/
def authenticateError : Exn → Exn
  | .jwt _ => .app .authentication "Unexpected authorization error"
  | .app kind message => .app kind message
  | _ => .app .internal "Internal server error"

/-- `authenticate`. -/
def authenticate (deployment : Deployment) (db : Connection)
    (readings : Readings) (ip email tenantId password : String)
    (deviceInfo : Option String) : App SignedToken :=
  tryCatch (authenticateUnguarded deployment db readings ip email tenantId
    password deviceInfo) fun error => throw (authenticateError error)

/-! ## `logout` -/

/-- The id, user and tenant that `logout` reads from its header. -/
def logoutSession (deployment : Deployment) (authorization : Option String)
    (now : Int) : Except Exn (Option String × Option String × Option String) :=
  if !given authorization then
    .error (.app .businessValidation "Invalid authorization header")
  else
    match splitOnce (authorization.getD "") ' ' with
    | none => .error (.app .businessValidation
        "Malformed Authorization header. Expected 'Bearer <token>'")
    | some (scheme, token) =>
        if lower scheme ≠ "bearer" then
          .error (.app .businessValidation
            "Invalid authentication scheme. Expected 'Bearer'")
        else
          match deployment.tokens.jwt.unverifiedHeader token,
              deployment.tokens.decodeJwtToken token now false with
          | .ok header, .ok decoded =>
              .ok (header.jti, decoded.userId, decoded.tenantId)
          | _, _ => .error (.app .internal "Internal server error")

/-- `logout`. -/
def logout (deployment : Deployment) (worker : Nat) (readings : Readings)
    (authorization : Option String) : App Unit := do
  let (jti, userId, tenantId) ←
    ofExcept (logoutSession deployment authorization (readings.utcNow 0))
  tryCatch
    (do let _ ← revokeSession worker jti userId tenantId "logout")
    fun _ => throw (.app .internal "Failed to blacklist token")

/-! ## `refresh` -/

/-- The headers `refresh` reads. -/
structure RefreshRequest where
  refreshHeader : Option String := none
  tenantHeader : Option String := none
  deriving DecidableEq, Repr

/-- What `refresh` answers. -/
structure RefreshedTokens where
  accessToken : SignedToken
  refreshToken : SignedToken
  deriving DecidableEq, Repr

/-- The token of an `X-Refresh-Token` header. -/
def RefreshRequest.token (request : RefreshRequest) : Except Exn String :=
  if !given request.refreshHeader then
    .error (.app .businessValidation "Invalid authorization header")
  else
    match splitOnce (request.refreshHeader.getD "") ' ' with
    | none => .error (.app .businessValidation "Malformed authorization header")
    | some (scheme, token) =>
        if lower scheme ≠ "refresh" then
          .error (.app .businessValidation
            "Invalid authentication scheme. Expected 'Refresh'")
        else .ok token

/-- The email and `iat` of a decoded refresh token, with the email
normalized. -/
def refreshSubject (deployment : Deployment) (decoded : Claims) :
    Except Exn (String × Int) :=
  if !given decoded.email then
    .error (.app .authentication "Invalid authorization header")
  else
    let iat := decoded.iat.getD 0
    if iat = 0 then
      .error (.app .businessValidation "Malformed authorization header")
    else
      match deployment.normalizeEmail (decoded.email.getD "") with
      | none => .error (.value "EmailNotValidError")
      | some normalizedEmail => .ok (normalizedEmail, iat)

/-- The part of `refresh` after the profile was found unmodified. -/
def reissue (deployment : Deployment) (db : Connection) (readings : Readings)
    (tenantHeader : Option String) (decoded : Claims) (normalizedEmail : String) :
    App RefreshedTokens := do
  let refreshToken ← ofExcept (deployment.tokens.createJwtToken
    { decoded with iat := some (readings.utcNow 1) } (readings.timeNs 0))
  let userData ← ask (.user db (.withPolicies normalizedEmail))
  match userData with
  | [] => throw (.app .authentication "Invalid credentials")
  | (persona, _) :: _ =>
      if decoded.tenantId ≠ tenantHeader then
        throw (.app .authentication "Invalid tenant ID")
      else
        let userPolicy ← ofExcept (policyClaim (userData.filterMap Prod.snd) [])
        let accessToken ← ofExcept (deployment.tokens.createJwtToken
          (loginPayload (readings.utcNow 2) normalizedEmail persona.id
            tenantHeader persona.role userPolicy) (readings.timeNs 1))
        return { accessToken := accessToken, refreshToken := refreshToken }

/-- `refresh`. -/
def refresh (deployment : Deployment) (worker : Nat) (db : Connection)
    (readings : Readings) (request : RefreshRequest) : App RefreshedTokens := do
  let token ← ofExcept request.token
  match deployment.tokens.decodeJwtToken token (readings.utcNow 0) true with
  | .error _ => throw (.app .authentication "Invalid refresh token")
  | .ok decoded =>
      let (normalizedEmail, iat) ← ofExcept (refreshSubject deployment decoded)
      if ← ask (.user db (.checkModified normalizedEmail iat)) then
        let _ ← revokeToken worker (deployment.tokens.headerJti token)
          (decoded.userId.getD "unknown") (request.tenantHeader.getD "unknown")
          "profile_modified"
        throw (.app .authorization
          "Sensitive profile info updated, login again")
      else
        reissue deployment db readings request.tenantHeader decoded
          normalizedEmail

end HexIam
