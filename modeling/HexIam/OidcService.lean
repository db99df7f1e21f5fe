import HexIam.Statement

/-!
# The OIDC service

`OIDCService`: clients, authorization codes with PKCE, ID tokens and OIDC
refresh tokens.  What a call reads from the clock and from `secrets` is an
argument.
-/

namespace HexIam

/-- What a call reads from the clocks and the random source, in order. -/
structure Readings where
  utcNow : Nat → Int
  timeNs : Nat → Nat
  secret : Nat → String

/-! ## Clients -/

/-- `verify_password(client_secret, stored_secret)`, which encodes its
arguments. -/
def verifySecret (deployment : Deployment) (clientSecret : PyValue)
    (stored : String) : Except Exn Bool :=
  match clientSecret with
  | .text secret => deployment.verifyPassword secret stored
  | _ => .error (.other "AttributeError")

/-- `validate_client`. -/
def validateClient (deployment : Deployment) (clientId clientSecret : PyValue) :
    App (Option ClientRow) := do
  let id ← ofExcept (bindText clientId)
  match ← ask (.client (.active id)) with
  | none => return none
  | some client =>
      if clientSecret.truthy then
        let verified ←
          ofExcept (verifySecret deployment clientSecret client.clientSecret)
        return if verified then some client else none
      else
        return some client

/-- `validate_redirect_uri`. -/
def validateRedirectUri (clientId redirectUri : String) : App Bool := do
  match ← ask (.client (.redirectUris clientId)) with
  | none => return false
  | some uris => return redirectUri ∈ uris

/-! ## Authorization codes -/

/-- `store_authorization_code`, with the id and the time it reads. -/
def storeAuthorizationCode (codeId : String) (utcNow : Int)
    (code clientId userId tenantId redirectUri scope : String)
    (codeChallenge codeChallengeMethod nonce : Option String) : App Unit :=
  ask (.code (.insert {
    id := codeId
    code := code
    clientId := clientId
    userId := userId
    tenantId := tenantId
    redirectUri := redirectUri
    scope := scope
    codeChallenge := codeChallenge
    codeChallengeMethod := codeChallengeMethod
    nonce := nonce
    used := false
    expiresAt := utcNow + 600 }))

/-- The PKCE check of `validate_authorization_code`: a row without a challenge
passes. -/
def challengeMet (deployment : Deployment) (row : CodeRow)
    (codeVerifier : PyValue) : Except Exn Bool :=
  if !given row.codeChallenge then .ok true
  else if !codeVerifier.truthy then .ok false
  else if row.codeChallengeMethod = some "S256" then
    match codeVerifier with
    | .text verifier => .ok (row.codeChallenge = some (deployment.s256 verifier))
    | _ => .error (.other "AttributeError")
  else
    match codeVerifier with
    | .text verifier => .ok (row.codeChallenge = some verifier)
    | _ => .ok false

/-- `validate_authorization_code`. -/
def validateAuthorizationCode (deployment : Deployment)
    (code clientId redirectUri codeVerifier : PyValue) :
    App (Option CodeRow) := do
  let boundCode ← ofExcept (bindText code)
  let boundClient ← ofExcept (bindText clientId)
  let boundUri ← ofExcept (bindText redirectUri)
  match ← ask (.code (.validate boundCode boundClient boundUri)) with
  | none => return none
  | some row =>
      if ← ofExcept (challengeMet deployment row codeVerifier) then
        ask (.code (.markUsed boundCode))
        return some row
      else
        return none

/-! ## ID tokens -/

/-- The payload of `create_id_token`. -/
def idTokenPayload (deployment : Deployment) (utcNow : Int)
    (userId email tenantId clientId : String)
    (nonce firstName lastName role : Option String) : Claims :=
  let named := given firstName && given lastName
  { iss := some (stripEnd deployment.appBaseUrl '/')
    sub := some userId
    aud := some (.one clientId)
    exp := some (utcNow + 3600)
    iat := some utcNow
    email := some email
    emailVerified := some true
    tenantId := some tenantId
    nonce := if given nonce then nonce else none
    name := if named then
        some (firstName.getD "" ++ " " ++ lastName.getD "") else none
    givenName := if named then firstName else none
    familyName := if named then lastName else none
    role := if given role then role else none }

/-- `create_id_token`. -/
def createIdToken (deployment : Deployment) (utcNow : Int) (timeNs : Nat)
    (userId email tenantId clientId : String)
    (nonce firstName lastName role : Option String) : Except Exn SignedToken :=
  deployment.tokens.createJwtToken
    (idTokenPayload deployment utcNow userId email tenantId clientId nonce
      firstName lastName role) timeNs

/-! ## OIDC refresh tokens -/

/-- `create_refresh_token`, with the random part of the id and the time it
reads. -/
def createRefreshToken (random : String) (utcNow : Int)
    (userId tenantId clientId : String) : App String := do
  let jti := userId ++ "-refresh-" ++ random
  ask (.refreshToken (.insert {
    jti := jti
    userId := userId
    tenantId := tenantId
    clientId := clientId
    expiresAt := utcNow + 604800
    revoked := false
    createdAt := 0 }))
  return jti

/-- `validate_refresh_token`. -/
def validateRefreshToken (refreshToken clientId : PyValue) :
    App (Option RefreshTokenRow) := do
  let jti ← ofExcept (bindText refreshToken)
  let boundClient ← ofExcept (bindText clientId)
  ask (.refreshToken (.validate jti boundClient))

/-- `revoke_refresh_token`. -/
def revokeRefreshToken (refreshToken : PyValue) : App Unit := do
  let jti ← ofExcept (bindText refreshToken)
  ask (.refreshToken (.revoke jti))

end HexIam
