import HexIam.AuthorizationFlow
import HexIam.PolicyService

/-!
# The token endpoints

`token_endpoint` with its four grants, `introspect` and `userinfo`.  A body is
what `request.form()` and `request.json()` make of it; the values in it are
whatever the client sent.
-/

namespace HexIam

/-! ## Requests -/

/-- A request of `token_endpoint` or `introspect`. -/
structure TokenRequest where
  tenantHeader : Option String := none
  queryClientId : Option String := none
  authorization : Option String := none
  contentType : String := ""
  form : List (String × PyValue) := []
  json : Option PyValue := none

/-- The dictionary `data` of a request, or the exception of reading it. -/
def TokenRequest.data (request : TokenRequest) :
    Except Exn (List (String × PyValue)) :=
  if occursIn "application/x-www-form-urlencoded" request.contentType then
    .ok request.form
  else
    match request.json with
    | none => .error (.value "JSONDecodeError")
    | some (.dict fields) => .ok fields
    | some _ => .error (.other "AttributeError")

/-- `value == text` in Python. -/
def PyValue.isText (value : PyValue) (text : String) : Bool :=
  match value with
  | .text held => held = text
  | _ => false

/-- The credentials of a Basic header; `none` stands for an exception on the
way. -/
def basicCredentials (deployment : Deployment) (header : String) :
    Option (String × String) :=
  (deployment.decodeBasic (dropFront header 6)).bind fun decoded =>
    splitOnce decoded ':'

/-- `_extract_client_credentials`. -/
def extractClientCredentials (deployment : Deployment)
    (authorization : Option String) (data : List (String × PyValue)) :
    PyValue × PyValue :=
  let fromBody := (PyValue.get data "client_id", PyValue.get data "client_secret")
  let header := authorization.getD ""
  if startsWith header "Basic " then
    match basicCredentials deployment header with
    | some (clientId, clientSecret) => (.text clientId, .text clientSecret)
    | none => fromBody
  else fromBody

/-! ## Responses -/

/-- The answer of a successful grant. -/
structure TokenData where
  accessToken : SignedToken
  tokenType : String := "Bearer"
  expiresIn : Nat := 3600
  refreshToken : Option String := none
  issuedTokenType : Option String := none
  scope : Option String := none
  idToken : Option SignedToken := none

/-- What `token_endpoint` answers.  The texts of an unsupported grant and of a
failed exchange quote a value and an exception. -/
inductive TokenResponse : Type
  | tokens (data : TokenData)
  | failure (status : Nat) (error description : String)
  | exchangeFailed (cause : Exn)
  | unsupportedGrantType (grantType : PyValue)

/-! ## Grants -/

/-- `fetch_user_policies`. -/
def fetchUserPolicies (db : Connection) (userId tenantId : String) :
    App (List (String × Nat)) := do
  let policies ← ask (.policy db (.valid userId tenantId))
  return bitmaskClaim policies

/-- The issuer of the tokens of a tenant. -/
def tenantIssuer (deployment : Deployment) (tenantId : String) : String :=
  "https://" ++ deployment.hexDomain ++ "/" ++ tenantId

/-- The access token payload of a grant for a user. -/
def accessPayload (deployment : Deployment) (utcNow : Int)
    (issuerTenant tenantId audience : String) (user : UserRow)
    (scope : Option String) (policy : List (String × Nat)) : Claims where
  sub := some user.email
  iss := some (tenantIssuer deployment issuerTenant)
  userId := some user.id
  tenantId := some tenantId
  aud := some (.one audience)
  role := user.role
  scope := scope
  policy := some policy
  exp := some (utcNow + 3600)
  iat := some utcNow

/-- The `authorization_code` branch of `token_endpoint`.  The client row was
selected by the presented id, so `client.id` is that id. -/
def authorizationCodeGrant (deployment : Deployment) (db : Connection)
    (readings : Readings) (client : ClientRow) (clientId : PyValue)
    (data : List (String × PyValue)) : App TokenResponse := do
  let code := PyValue.get data "code"
  let redirectUri := PyValue.get data "redirect_uri"
  if !code.truthy || !redirectUri.truthy then
    return .failure 400 "invalid_request" "Missing code or redirect_uri"
  else
    match ← validateAuthorizationCode deployment code clientId redirectUri
      (PyValue.get data "code_verifier") with
    | none =>
        return .failure 400 "invalid_grant"
          "Invalid or expired authorization code"
    | some authCode =>
        match ← ask (.user db (.byId authCode.userId)) with
        | none => return .failure 400 "invalid_grant" "User not found"
        | some user =>
            let policies ← fetchUserPolicies db user.id authCode.tenantId
            let accessToken ← ofExcept (deployment.tokens.createJwtToken
              (accessPayload deployment (readings.utcNow 0) client.tenantId
                authCode.tenantId client.id user (some authCode.scope) policies)
              (readings.timeNs 0))
            let refreshToken ← createRefreshToken (readings.secret 0)
              (readings.utcNow 1) user.id authCode.tenantId client.id
            let idToken ← ofExcept (if occursIn "openid" authCode.scope then
                (createIdToken deployment (readings.utcNow 2)
                  (readings.timeNs 1) user.id user.email authCode.tenantId
                  client.id authCode.nonce (some user.firstName)
                  (some user.lastName) user.role).map some
              else .ok none)
            return .tokens {
              accessToken := accessToken
              refreshToken := some refreshToken
              scope := some authCode.scope
              idToken := idToken }

/-- The `refresh_token` branch of `token_endpoint`. -/
def refreshTokenGrant (deployment : Deployment) (db : Connection)
    (readings : Readings) (client : ClientRow) (clientId : PyValue)
    (data : List (String × PyValue)) : App TokenResponse := do
  let refreshToken := PyValue.get data "refresh_token"
  if !refreshToken.truthy then
    return .failure 400 "invalid_request" "Missing refresh_token"
  else
    match ← validateRefreshToken refreshToken clientId with
    | none =>
        return .failure 400 "invalid_grant" "Invalid or expired refresh token"
    | some tokenData =>
        match ← ask (.user db (.byId tokenData.userId)) with
        | none => return .failure 400 "invalid_grant" "User not found"
        | some user =>
            revokeRefreshToken refreshToken
            let policies ← fetchUserPolicies db user.id tokenData.tenantId
            let accessToken ← ofExcept (deployment.tokens.createJwtToken
              (accessPayload deployment (readings.utcNow 0) client.tenantId
                tokenData.tenantId client.id user none policies)
              (readings.timeNs 0))
            let newRefreshToken ← createRefreshToken (readings.secret 0)
              (readings.utcNow 1) user.id tokenData.tenantId client.id
            return .tokens {
              accessToken := accessToken
              refreshToken := some newRefreshToken }

/-- The payload of the `client_credentials` grant. -/
def clientCredentialsPayload (deployment : Deployment) (utcNow : Int)
    (client : ClientRow) : Claims where
  sub := some client.id
  iss := some (tenantIssuer deployment client.tenantId)
  clientId := some client.id
  aud := some (.one client.id)
  tenantId := some client.tenantId
  grantType := some "client_credentials"
  exp := some (utcNow + 3600)
  iat := some utcNow

/-- The `client_credentials` branch of `token_endpoint`. -/
def clientCredentialsGrant (deployment : Deployment) (readings : Readings)
    (client : ClientRow) : App TokenResponse := do
  let accessToken ← ofExcept (deployment.tokens.createJwtToken
    (clientCredentialsPayload deployment (readings.utcNow 0) client)
    (readings.timeNs 0))
  return .tokens { accessToken := accessToken }

/-- The token-exchange branch of `token_endpoint`.  A scope that is not a
string fails at its `split`, after both tokens were made. -/
def tokenExchangeGrant (deployment : Deployment) (db : Connection)
    (readings : Readings) (client : ClientRow)
    (data : List (String × PyValue)) : App TokenResponse := do
  let requestedAudience := PyValue.get data "audience"
  let subjectToken := PyValue.get data "subject_token"
  if requestedAudience.truthy && !requestedAudience.isText client.id then
    return .failure 400 "invalid_target"
      "Token exchange audience must match the authenticated client"
  else if !subjectToken.truthy then
    return .failure 400 "invalid_request" "Missing subject_token"
  else
    let resolved ← tryCatch
      (do
        let resolved ← resolveOrProvisionFederatedUser deployment db readings
          client.tenantId subjectToken (some client.id)
          (PyValue.get data "issuer_hint")
        return .ok resolved)
      fun cause => return .error cause
    match (resolved : Except Exn (UserRow × ProviderRow × UpstreamClaims)) with
    | .error cause => return .exchangeFailed cause
    | .ok (user, provider, claims) =>
        let scope :=
          (PyValue.get claims "scope").orElse (.text "openid profile email")
        let scopeText : Option String := match scope with
          | .text scope => some scope
          | _ => none
        let policies ← fetchUserPolicies db user.id client.tenantId
        let payload := accessPayload deployment (readings.utcNow 2)
          client.tenantId client.tenantId client.id user scopeText policies
        let accessToken ← ofExcept (deployment.tokens.createJwtToken
          { payload with
            amr := some ["broker"]
            brokerIss := some provider.issuerUrl } (readings.timeNs 0))
        let refreshToken ← createRefreshToken (readings.secret 3)
          (readings.utcNow 3) user.id client.tenantId client.id
        match scopeText with
        | none => throw (.other "AttributeError")
        | some scope =>
            let idToken ← ofExcept (if "openid" ∈ splitWhitespace scope then
                (createIdToken deployment (readings.utcNow 4)
                  (readings.timeNs 1) user.id user.email client.tenantId
                  client.id none (some user.firstName) (some user.lastName)
                  user.role).map some
              else .ok none)
            return .tokens {
              accessToken := accessToken
              refreshToken := some refreshToken
              issuedTokenType :=
                some "urn:ietf:params:oauth:token-type:access_token"
              scope := some scope
              idToken := idToken }

/-- The branch of `token_endpoint` for an active client. -/
def grant (deployment : Deployment) (db : Connection) (readings : Readings)
    (client : ClientRow) (clientId : PyValue) (data : List (String × PyValue)) :
    App TokenResponse :=
  let grantType := PyValue.get data "grant_type"
  if grantType.isText "authorization_code" then
    authorizationCodeGrant deployment db readings client clientId data
  else if grantType.isText "refresh_token" then
    refreshTokenGrant deployment db readings client clientId data
  else if grantType.isText "client_credentials" then
    clientCredentialsGrant deployment readings client
  else if grantType.isText
      "urn:ietf:params:oauth:grant-type:token-exchange" then
    tokenExchangeGrant deployment db readings client data
  else
    return .unsupportedGrantType grantType

/-- `token_endpoint` on the connection of its dependency. -/
def tokenEndpoint (deployment : Deployment) (db : Connection)
    (readings : Readings) (request : TokenRequest) : App TokenResponse := do
  let data ← ofExcept request.data
  let credentials :=
    extractClientCredentials deployment request.authorization data
  match ← validateClient deployment credentials.1 credentials.2 with
  | none => return .failure 401 "invalid_client" "Invalid client credentials"
  | some client =>
      grant deployment db readings client credentials.1 data

/-- A request of `token_endpoint`, with the dependency that gives it a
connection. -/
def postToken (deployment : Deployment) (readings : Readings)
    (request : TokenRequest) : App TokenResponse := do
  let db ← getDatabasePool request.tenantHeader request.queryClientId
    (PyValue.get request.form "client_id")
  tokenEndpoint deployment db readings request

/-! ## `introspect` -/

/-- What `introspect` answers. -/
inductive IntrospectResponse : Type
  | inactive
  | accessToken (clientId : String) (payload : Claims)
  | refreshToken (row : RefreshTokenRow)
  | failure (status : Nat) (error description : String)

/-- An `active: true` answer. -/
def IntrospectResponse.active : IntrospectResponse → Bool
  | accessToken .. => true
  | refreshToken _ => true
  | _ => false

/-- `_client_matches_token`. -/
def clientMatchesToken (payload : Claims) (clientId : String) : Bool :=
  match payload.aud with
  | none => payload.clientId = some clientId
  | some (.many audiences) => clientId ∈ audiences
  | some (.one audience) => audience = clientId

/-- `_token_is_revoked`. -/
def tokenIsRevoked (worker : Nat) (jti : Option String) : App Bool :=
  if given jti then isRevoked worker (jti.getD "") else return false

/-- The part of `introspect` for refresh tokens. -/
def introspectRefreshToken (token : PyValue) (client : ClientRow) :
    App IntrospectResponse := do
  match ← validateRefreshToken token (.text client.id) with
  | none => return .inactive
  | some row => return .refreshToken row

/-- `introspect`. -/
def introspect (deployment : Deployment) (worker : Nat) (readings : Readings)
    (request : TokenRequest) : App IntrospectResponse := do
  let data ← ofExcept request.data
  let token := PyValue.get data "token"
  let credentials :=
    extractClientCredentials deployment request.authorization data
  if !token.truthy then
    return .failure 400 "invalid_request" "Missing token"
  else
    match ← validateClient deployment credentials.1 credentials.2 with
    | none => return .failure 401 "invalid_client" "Invalid client credentials"
    | some client =>
        if (PyValue.get data "token_type_hint").isText "refresh_token" then
          introspectRefreshToken token client
        else
          let decoded : Except JwtError Claims := match token with
            | .text token =>
                deployment.tokens.decodeJwtToken token (readings.utcNow 0) true
            | _ => .error .decode
          match decoded with
          | .error _ => introspectRefreshToken token client
          | .ok payload =>
              if !clientMatchesToken payload client.id then
                return .inactive
              else if ← tokenIsRevoked worker payload.jti then
                return .inactive
              else
                return .accessToken client.id payload

/-! ## `userinfo` -/

/-- What `userinfo` answers. -/
inductive UserinfoResponse : Type
  | subject (sub : Option String)
  | claims (user : UserRow) (tenantId : Option String)
  | failure (description : String)

/-- The token `userinfo` reads. -/
def userinfoToken (authorization : Option String) : Option String :=
  let header := authorization.getD ""
  if startsWith header "Bearer " then some (dropFront header 7) else none

/-- `userinfo`. -/
def userinfo (deployment : Deployment) (db : Connection) (readings : Readings)
    (authorization : Option String) : App UserinfoResponse := do
  match userinfoToken authorization with
  | none => return .failure "Missing or invalid Authorization header"
  | some token =>
      match deployment.tokens.decodeJwtToken token (readings.utcNow 0) true with
      | .error _ => return .failure "Invalid or expired token"
      | .ok payload =>
          if !given payload.userId then
            return .subject payload.sub
          else
            match ← ask (.user db (.byId (payload.userId.getD ""))) with
            | none => return .failure "User not found"
            | some user => return .claims user payload.tenantId

end HexIam
