import HexIam.OidcService

/-!
# Federation

`federation_service`: identity providers, the transactions that carry an
authorization request across the upstream login, and the users provisioned
from upstream claims.  The answers of a provider are answers of statements;
a cached discovery document is one that the provider gave before.
-/

namespace HexIam

/-! ## Identity providers -/

/-- `list_enabled_identity_providers`. -/
def listEnabledIdentityProviders (tenantId protocol : String) :
    App (List ProviderRow) :=
  ask (.provider (.enabled tenantId protocol))

/-- `get_identity_provider`. -/
def getIdentityProvider (tenantId providerId : String) :
    App (Option ProviderRow) :=
  ask (.provider (.byId tenantId providerId))

/-- The address `_resolve_discovery` fetches. -/
def discoveryUrl (provider : ProviderRow) : String :=
  if given provider.discoveryUrl then provider.discoveryUrl.getD ""
  else stripEnd provider.issuerUrl '/' ++ "/.well-known/openid-configuration"

/-- `_resolve_discovery`. -/
def resolveDiscovery (provider : ProviderRow) : App Discovery :=
  ask (.upstream (.discovery (discoveryUrl provider)))

/-- A configured address, or the one in the discovery document; it is an error
when both are missing. -/
def resolveEndpoint (provider : ProviderRow) (configured : Option String)
    (discovered : Discovery → Option String) (missing : Exn) : App String := do
  if given configured then
    return configured.getD ""
  else
    let discovery ← resolveDiscovery provider
    if given (discovered discovery) then
      return (discovered discovery).getD ""
    else
      throw missing

/-- A result of PyJWT as a result of the service. -/
def ofJwt {α : Type} : Except JwtError α → App α
  | .ok value => return value
  | .error error => throw (.jwt error)

/-- `_verify_jwt`. -/
def verifyJwt (deployment : Deployment) (subjectToken : String)
    (provider : ProviderRow) (audience : Option String) (utcNow : Int) :
    App UpstreamClaims := do
  if given provider.jwtValidationSecret then
    ofJwt (deployment.upstreamDecode subjectToken
      (provider.jwtValidationSecret.getD "") ["HS256", "HS384", "HS512"]
      audience provider.issuerUrl utcNow)
  else
    let jwksUri ← resolveEndpoint provider provider.jwksUri Discovery.jwksUri
      (.jwt .invalidToken)
    let signingKey ← ask (.upstream (.signingKey subjectToken jwksUri))
    ofJwt (deployment.upstreamDecode subjectToken signingKey
      ["RS256", "RS384", "RS512", "ES256", "ES384", "ES512"] audience
      provider.issuerUrl utcNow)

/-- `validate_broker_subject_token`. -/
def validateBrokerSubjectToken (deployment : Deployment) (tenantId : String)
    (subjectToken : PyValue) (audience : Option String) (issuerHint : PyValue)
    (utcNow : Int) : App (Option (ProviderRow × UpstreamClaims)) := do
  match subjectToken with
  | .text token =>
      let unverified ← ofJwt (deployment.upstreamUnverified token)
      let issuer := issuerHint.orElse (PyValue.get unverified "iss")
      if !issuer.truthy then
        return none
      else
        let issuer ← ofExcept (bindText issuer)
        match ← ask (.provider (.byIssuer tenantId (issuer.getD ""))) with
        | none => return none
        | some provider =>
            let claims ← verifyJwt deployment token provider audience utcNow
            return some (provider, claims)
  | _ => throw (.jwt .decode)

/-! ## Local users -/

/-- `_normalized_email_verified`. -/
def normalizedEmailVerified (claims : UpstreamClaims) : Bool :=
  match PyValue.get claims "email_verified" with
  | .text value => lower value = "true"
  | value => value.truthy

/-- `name.split(' ')`. -/
def nameParts (name : PyValue) : Except Exn (List String) :=
  match name with
  | .text name => .ok (split name ' ')
  | name => if name.truthy then .error (.other "AttributeError") else .ok [""]

/-- The first name of a provisioned user. -/
def firstNameOf (claims : UpstreamClaims) : Except Exn PyValue := do
  let name := PyValue.get claims "name"
  if (PyValue.get claims "given_name").truthy then
    return PyValue.get claims "given_name"
  else if name.truthy then
    return .text ((← nameParts name).headD "")
  else
    return .text "Federated"

/-- The last name of a provisioned user. -/
def lastNameOf (claims : UpstreamClaims) : Except Exn PyValue := do
  let family := PyValue.get claims "family_name"
  if family.truthy then
    return family
  else
    let parts ← nameParts (PyValue.get claims "name")
    let rest := " ".intercalate parts.tail
    return .text (if parts.length ≤ 1 || !filled rest then "User" else rest)

/-- The row `_find_or_create_local_user` inserts for claims without a local
user. -/
def provisionedUser (deployment : Deployment) (readings : Readings)
    (tenantId : String) (provider : ProviderRow) (claims : UpstreamClaims)
    (externalSubject externalEmail : Option String) : Except Exn UserRow := do
  let firstName ← bindText (← firstNameOf claims)
  let lastName ← bindText (← lastNameOf claims)
  return {
    id := readings.secret 0
    tenantId := tenantId
    email := if given externalEmail then externalEmail.getD ""
      else "federated-" ++ externalSubject.getD "None" ++ "@" ++ tenantId ++
        ".local"
    password := deployment.hashPassword (readings.secret 1)
    firstName := firstName.getD ""
    lastName := lastName.getD ""
    role := provider.defaultRole
    isActive := true
    emailVerified := normalizedEmailVerified claims || given externalEmail
    lastModified := 0 }

/-- The columns of a provisioned user that do not come from the claims
alone. -/
theorem provisionedUser_eq_ok {deployment : Deployment} {readings : Readings}
    {tenantId : String} {provider : ProviderRow} {claims : UpstreamClaims}
    {subject email : Option String} {row : UserRow}
    (made : provisionedUser deployment readings tenantId provider claims subject
      email = .ok row) :
    row.id = readings.secret 0 ∧ row.tenantId = tenantId ∧
      row.email = (if given email then email.getD ""
        else "federated-" ++ subject.getD "None" ++ "@" ++ tenantId ++
          ".local") ∧
      row.isActive = true ∧
      row.emailVerified = (normalizedEmailVerified claims || given email) := by
  simp only [provisionedUser, except_bind_eq_ok] at made
  obtain ⟨_, -, _, -, _, -, _, -, made⟩ := made
  cases made
  exact ⟨rfl, rfl, rfl, rfl, rfl⟩

/-- The local user with the email of the claims, if it may be linked. -/
def userToLink (db : Connection) (tenantId : String) (provider : ProviderRow)
    (claims : UpstreamClaims) : App (Option UserRow) := do
  let email := PyValue.get claims "email"
  if email.truthy then
    let email ← ofExcept (bindText email)
    let user ← ask (.user db (.byTenantEmail tenantId (email.getD "")))
    if user.isSome && provider.linkByEmailVerifiedOnly &&
        !normalizedEmailVerified claims then
      throw (.value
        "Provider email must be verified before auto-linking to an existing user")
    else
      return user
  else
    return none

/-- The part of `_find_or_create_local_user` that makes a user. -/
def provisionUser (deployment : Deployment) (db : Connection)
    (readings : Readings) (tenantId : String) (provider : ProviderRow)
    (claims : UpstreamClaims) (externalSubject : Option String) :
    App UserRow := do
  let email := PyValue.get claims "email"
  let externalEmail ←
    ofExcept (if email.truthy then bindText email else .ok none)
  let row ← ofExcept (provisionedUser deployment readings tenantId provider
    claims externalSubject externalEmail)
  ask (.user db (.insert row))
  match ← ask (.user db (.byId row.id)) with
  | some user => return user
  | none => throw (.other "TypeError")

/-- The local user to link: the one with the email of the claims, or a new
one. -/
def linkOrProvision (deployment : Deployment) (db : Connection)
    (readings : Readings) (tenantId : String) (provider : ProviderRow)
    (claims : UpstreamClaims) (externalSubject : Option String) :
    App UserRow := do
  match ← userToLink db tenantId provider claims with
  | some user => return user
  | none =>
      provisionUser deployment db readings tenantId provider claims
        externalSubject

/-- `_find_or_create_local_user`. -/
def findOrCreateLocalUser (deployment : Deployment) (db : Connection)
    (readings : Readings) (tenantId : String) (provider : ProviderRow)
    (claims : UpstreamClaims) : App UserRow := do
  match (claims.find? fun claim => claim.1 = "sub").map Prod.snd with
  | none => throw (.other "KeyError")
  | some sub =>
      let externalSubject ← ofExcept (bindText sub)
      match ← ask (.identity db
        (.linkedUser tenantId provider.id externalSubject)) with
      | some user => return user
      | none =>
          if !provider.autoLink then
            throw (.value
              "Federated account is not linked to a local user yet")
          else
            let user ← linkOrProvision deployment db readings tenantId provider
              claims externalSubject
            let externalEmail ← ofExcept (bindText (PyValue.get claims "email"))
            ask (.identity db (.upsert (readings.secret 2) tenantId provider.id
              user.id externalSubject externalEmail))
            return user

/-- `resolve_or_provision_federated_user`. -/
def resolveOrProvisionFederatedUser (deployment : Deployment) (db : Connection)
    (readings : Readings) (tenantId : String) (subjectToken : PyValue)
    (audience : Option String) (issuerHint : PyValue) :
    App (UserRow × ProviderRow × UpstreamClaims) := do
  match ← validateBrokerSubjectToken deployment tenantId subjectToken audience
    issuerHint (readings.utcNow 0) with
  | none => throw (.value
      "No enabled identity provider matched the broker token issuer")
  | some (provider, claims) =>
      let user ← findOrCreateLocalUser deployment db readings tenantId provider
        claims
      return (user, provider, claims)

/-! ## Federation transactions -/

/-- `create_federation_auth_transaction` for a request whose columns are in
`row`; the id, the expiry and the upstream values are its own. -/
def createFederationAuthTransaction (readings : Readings)
    (row : TransactionRow) : App (Option TransactionRow) := do
  let id := readings.secret 2
  ask (.transaction (.insert { row with
    id := id
    expiresAt := readings.utcNow 1 + 600
    consumedAt := none }))
  ask (.transaction (.byId id))

/-- `get_federation_auth_transaction_by_state`. -/
def getFederationAuthTransactionByState (providerId upstreamState : String) :
    App (Option TransactionRow) :=
  ask (.transaction (.byState providerId upstreamState))

/-- `consume_federation_auth_transaction`. -/
def consumeFederationAuthTransaction (transactionId : String) : App Unit :=
  ask (.transaction (.consume transactionId))

/-- `authorization_scopes` with its default. -/
def scopesOrDefault (scopes : Option String) : String :=
  if given scopes then scopes.getD "" else "openid profile email"

/-- `build_provider_authorize_url`. -/
def buildProviderAuthorizeUrl (deployment : Deployment) (provider : ProviderRow)
    (redirectUri upstreamState : String) (upstreamNonce : Option String) :
    App String := do
  let endpoint ← resolveEndpoint provider provider.authorizationEndpoint
    Discovery.authorizationEndpoint
    (.value "Provider missing authorization endpoint")
  let params := [
    ("client_id", provider.clientId.getD "None"),
    ("redirect_uri", redirectUri),
    ("response_type", "code"),
    ("scope", scopesOrDefault provider.authorizationScopes),
    ("state", upstreamState)] ++
      if given upstreamNonce then [("nonce", upstreamNonce.getD "")] else []
  return endpoint ++ "?" ++ deployment.urlencode params

/-- `exchange_code_for_provider_tokens`. -/
def exchangeCodeForProviderTokens (deployment : Deployment)
    (provider : ProviderRow) (code redirectUri : String) :
    App UpstreamTokens := do
  let endpoint ← resolveEndpoint provider provider.tokenEndpoint
    Discovery.tokenEndpoint (.value "Provider missing token endpoint")
  let form := [
    ("grant_type", some "authorization_code"),
    ("code", some code),
    ("redirect_uri", some redirectUri),
    ("client_id", provider.clientId)]
  let method := (orElse provider.tokenEndpointAuthMethod
    (some "client_secret_post")).getD ""
  let secret := provider.clientSecret.getD ""
  if method = "client_secret_basic" && filled secret then
    ask (.upstream (.exchangeCode endpoint form (some (deployment.encodeBasic
      (provider.clientId.getD "None" ++ ":" ++ secret)))))
  else if filled secret then
    ask (.upstream (.exchangeCode endpoint
      (form ++ [("client_secret", some secret)]) none))
  else
    ask (.upstream (.exchangeCode endpoint form none))

/-- `fetch_userinfo`. -/
def fetchUserinfo (provider : ProviderRow) (accessToken : String) :
    App UpstreamClaims := do
  let endpoint ← resolveEndpoint provider provider.userinfoEndpoint
    Discovery.userinfoEndpoint (.value "Provider missing userinfo endpoint")
  ask (.upstream (.userinfo endpoint accessToken))

/-- The claims `resolve_or_provision_from_provider_tokens` uses. -/
def providerClaims (deployment : Deployment) (provider : ProviderRow)
    (tokens : UpstreamTokens) (utcNow : Int) : App UpstreamClaims := do
  let source := (orElse provider.claimsSource (some "auto")).getD ""
  if (source = "auto" || source = "id_token") && given tokens.idToken then
    verifyJwt deployment (tokens.idToken.getD "") provider provider.clientId
      utcNow
  else if (source = "auto" || source = "userinfo") &&
      given tokens.accessToken then
    let claims ← fetchUserinfo provider (tokens.accessToken.getD "")
    return if claims.any fun claim => claim.1 = "iss" then claims
      else claims ++ [("iss", .text provider.issuerUrl)]
  else
    throw (.value "Provider did not return usable identity claims")

/-- `resolve_or_provision_from_provider_tokens`. -/
def resolveOrProvisionFromProviderTokens (deployment : Deployment)
    (db : Connection) (readings : Readings) (tenantId : String)
    (provider : ProviderRow) (tokens : UpstreamTokens) :
    App (UserRow × UpstreamClaims) := do
  let claims ← providerClaims deployment provider tokens (readings.utcNow 0)
  let user ← findOrCreateLocalUser deployment db readings tenantId provider
    claims
  return (user, claims)

end HexIam
