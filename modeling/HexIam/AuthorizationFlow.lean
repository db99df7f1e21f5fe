import HexIam.FederationService

/-!
# The authorization endpoints

`authorize`, `login_submit`, `federation_callback` and `consent_submit`.  The
parameters of an authorization request travel from one to the next through
HTML forms, so each endpoint takes whatever the browser sends.
-/

namespace HexIam

/-! ## Requests -/

/-- The tenant of the `X-TENANT-ID` header, or of the client that the query or
the form names. -/
def requestTenant (tenantHeader queryClientId : Option String)
    (formClientId : PyValue) : App (Option String) := do
  let clientId := PyValue.orElse (.text (queryClientId.getD "")) formClientId
  if given tenantHeader then
    return tenantHeader
  else if clientId.truthy then
    let id ← ofExcept (bindText clientId)
    ask (.client (.tenantOf (id.getD "")))
  else
    return none

/-- `get_database_pool`. -/
def getDatabasePool (tenantHeader queryClientId : Option String)
    (formClientId : PyValue) : App Connection := do
  let tenantId ← requestTenant tenantHeader queryClientId formClientId
  if given tenantId then
    return .forTenant (tenantId.getD "")
  else
    throw (.app .businessValidation "Tenant ID or valid client_id required")

/-- The credentials of a browser: the `hex_iam_session` cookie and the
`Authorization` header. -/
structure BrowserSession where
  cookie : Option String := none
  authorization : Option String := none
  deriving DecidableEq, Repr

/-- The token `get_session_user` reads. -/
def BrowserSession.token (session : BrowserSession) : Option String :=
  let token :=
    if given session.cookie then session.cookie
    else if startsWith (session.authorization.getD "") "Bearer " then
      (split (session.authorization.getD "") ' ')[1]?
    else none
  token.filter filled

/-- `get_session_user`. -/
def getSessionUser (service : TokenService) (session : BrowserSession)
    (now : Int) : Option Claims :=
  match session.token with
  | none => none
  | some token => (service.decodeJwtToken token now true).toOption

/-- The parameters of an authorization request, as forms carry them on. -/
structure AuthorizationParams where
  clientId : String
  redirectUri : String
  responseType : String := "code"
  scope : String := "openid"
  state : Option String := none
  nonce : Option String := none
  codeChallenge : Option String := none
  codeChallengeMethod : Option String := none
  deriving DecidableEq, Repr

/-- `value or None` for each optional parameter of a form. -/
def AuthorizationParams.orNone (params : AuthorizationParams) :
    AuthorizationParams :=
  { params with
    state := params.state.filter filled
    nonce := params.nonce.filter filled
    codeChallenge := params.codeChallenge.filter filled
    codeChallengeMethod := params.codeChallengeMethod.filter filled }

/-! ## Responses -/

/-- What the endpoints of the flow answer. -/
inductive FlowResponse : Type
  | failure (html : Bool) (title message code : String)
  | consentRequired (clientName : String) (scopes : List String)
      (userEmail : Option String)
  | loginRequired (clientName : String)
      (providers : List (String × String × String))
  | consentPage (clientName : String) (userEmail : Option String)
      (scopes : List String) (params : AuthorizationParams)
      (cookie : Option SignedToken)
  | loginPage (clientName : String) (params : AuthorizationParams)
      (error : Option String)
  | providerChooser (clientName : String) (providers : List ProviderRow)
      (params : AuthorizationParams)
  | redirect (url : String)
  | clientRedirect (redirectUri : String) (params : List (String × String))

/-- The `Location` of a redirect to a client. -/
def clientLocation (deployment : Deployment) (redirectUri : String)
    (params : List (String × String)) : String :=
  redirectUri ++ "?" ++ deployment.urlencode params

/-! ## `authorize` -/

/-- `_provider_callback_uri`. -/
def providerCallbackUri (deployment : Deployment) (providerId : String) :
    String :=
  stripEnd deployment.appBaseUrl '/' ++ "/api/v1/oidc/federation/callback/" ++
    providerId

/-- `_begin_federated_authorization`. -/
def beginFederatedAuthorization (deployment : Deployment) (readings : Readings)
    (provider : ProviderRow) (tenantId : String)
    (params : AuthorizationParams) : App FlowResponse := do
  let upstreamState := readings.secret 0
  let upstreamNonce := readings.secret 1
  let _ ← createFederationAuthTransaction readings {
    id := ""
    tenantId := tenantId
    providerId := provider.id
    clientId := params.clientId
    redirectUri := params.redirectUri
    scope := params.scope
    state := params.state
    nonce := params.nonce
    codeChallenge := params.codeChallenge
    codeChallengeMethod := params.codeChallengeMethod
    upstreamState := upstreamState
    upstreamNonce := some upstreamNonce
    expiresAt := 0
    consumedAt := none }
  let url ← buildProviderAuthorizeUrl deployment provider
    (providerCallbackUri deployment provider.id) upstreamState
    (some upstreamNonce)
  return .redirect url

/-- A request of `authorize`. -/
structure AuthorizeRequest where
  session : BrowserSession := {}
  accept : String := ""
  params : AuthorizationParams
  providerId : Option String := none
  localLogin : Bool := false

/-- What `authorize` does for a valid request without a session. -/
def chooseLogin (deployment : Deployment) (readings : Readings)
    (request : AuthorizeRequest) (client : ClientRow) : App FlowResponse := do
  let loginPage := FlowResponse.loginPage client.name request.params none
  if request.localLogin then
    return loginPage
  else
    let providers ← listEnabledIdentityProviders client.tenantId "oidc"
    if given request.providerId then
      match providers.find? fun provider =>
          some provider.id = request.providerId with
      | none =>
          return .failure true "Unknown identity provider"
            "The requested identity provider is not enabled for this tenant."
            "invalid_identity_provider"
      | some selected =>
          beginFederatedAuthorization deployment readings selected
            client.tenantId request.params
    else
      match providers with
      | [] => return loginPage
      | [provider] =>
          beginFederatedAuthorization deployment readings provider
            client.tenantId request.params
      | _ => return .providerChooser client.name providers request.params

/-- `authorize`. -/
def authorize (deployment : Deployment) (readings : Readings)
    (request : AuthorizeRequest) : App FlowResponse := do
  let isApiRequest := occursIn "application/json" request.accept &&
    !occursIn "text/html" request.accept
  let params := request.params
  match ← validateClient deployment (.text params.clientId) .none with
  | none =>
      return if isApiRequest then
        .failure false "" "Unknown client" "invalid_client"
      else
        .failure true "Invalid Client" ("The application you're trying to " ++
          "sign in to is not registered. Please contact the application " ++
          "administrator.") "invalid_client"
  | some client =>
      if !(← validateRedirectUri params.clientId params.redirectUri) then
        return if isApiRequest then
          .failure false "" "Invalid redirect URI" "invalid_redirect_uri"
        else
          .failure true "Invalid Redirect" ("The application provided an " ++
            "invalid redirect URL. This may be a misconfiguration. Please " ++
            "contact the application administrator.") "invalid_redirect_uri"
      else
        let scopes := splitWhitespace params.scope
        match getSessionUser deployment.tokens request.session
            (readings.utcNow 0) with
        | some user =>
            return if isApiRequest then
              .consentRequired client.name scopes user.sub
            else
              .consentPage client.name user.sub scopes params none
        | none =>
            if isApiRequest then
              let providers ←
                listEnabledIdentityProviders client.tenantId "oidc"
              return .loginRequired client.name (providers.map fun provider =>
                (provider.id, provider.name, provider.issuerUrl))
            else
              chooseLogin deployment readings request client

/-! ## `login_submit` -/

/-- `_build_session_payload`. -/
def buildSessionPayload (deployment : Deployment) (utcNow : Int)
    (user : UserRow) (tenantId clientId : String) : Claims where
  sub := some user.email
  iss := some ("https://" ++ deployment.hexDomain ++ "/" ++ tenantId)
  aud := some (.one clientId)
  userId := some user.id
  tenantId := some tenantId
  firstName := some user.firstName
  lastName := some user.lastName
  role := user.role
  exp := some (utcNow + 3600)
  iat := some utcNow

/-- A request of `login_submit`. -/
structure LoginRequest where
  email : String
  password : String
  params : AuthorizationParams

/-- `login_submit`. -/
def loginSubmit (deployment : Deployment) (db : Connection)
    (readings : Readings) (request : LoginRequest) : App FlowResponse := do
  let params := request.params.orNone
  match ← validateClient deployment (.text params.clientId) .none with
  | none =>
      return .failure true "Unknown Client" ("The application you're " ++
        "trying to sign in to is not registered. Please contact the " ++
        "application administrator.") "invalid_client"
  | some client =>
      let loginPage (error : String) : FlowResponse :=
        .loginPage client.name params (some error)
      match ← ask (.user db (.forLogin request.email client.tenantId)) with
      | none => return loginPage "Invalid email or password"
      | some user =>
          if !(← ofExcept
              (deployment.verifyPassword request.password user.password)) then
            return loginPage "Invalid email or password"
          else if !user.isActive then
            return loginPage "Account is disabled"
          else if !user.emailVerified then
            return loginPage "Please verify your email before signing in"
          else
            let sessionToken ← ofExcept (deployment.tokens.createJwtToken
              (buildSessionPayload deployment (readings.utcNow 0) user
                client.tenantId params.clientId) (readings.timeNs 0))
            return .consentPage client.name (some user.email)
              (splitWhitespace params.scope) params (some sessionToken)

/-! ## `federation_callback` -/

/-- A request of `federation_callback`. -/
structure CallbackRequest where
  providerId : String
  code : Option String := none
  state : Option String := none
  error : Option String := none
  errorDescription : Option String := none

/-- `federation_callback`. -/
def federationCallback (deployment : Deployment) (readings : Readings)
    (request : CallbackRequest) : App FlowResponse := do
  if given request.error then
    return .failure true "External sign-in failed"
      ((orElse request.errorDescription
        (some "The external identity provider returned an error.")).getD "")
      (request.error.getD "")
  else if !given request.code || !given request.state then
    return .failure true "Invalid federation callback"
      "The external identity provider callback was missing required parameters."
      "invalid_callback"
  else
    match ← getFederationAuthTransactionByState request.providerId
      (request.state.getD "") with
    | none =>
        return .failure true "Expired or unknown sign-in request"
          "The federation handoff could not be resumed. Please try signing in again."
          "invalid_transaction"
    | some txn =>
        match (← getIdentityProvider txn.tenantId request.providerId).filter
          ProviderRow.enabled with
        | none =>
            return .failure true "Identity provider unavailable"
              "The selected identity provider is no longer available for this tenant."
              "identity_provider_unavailable"
        | some provider =>
            let resolved : Option UserRow ← tryCatch
              (do
                let tokens ← exchangeCodeForProviderTokens deployment provider
                  (request.code.getD "")
                  (providerCallbackUri deployment request.providerId)
                let (user, _) ← resolveOrProvisionFromProviderTokens deployment
                  .owner readings txn.tenantId provider tokens
                return some user)
              fun _ => return none
            match resolved with
            | none =>
                return .failure true "Federated sign-in failed"
                  "HEX IAM could not complete authentication with the external provider."
                  "federation_callback_failed"
            | some user =>
                consumeFederationAuthTransaction txn.id
                match ← validateClient deployment (.text txn.clientId) .none with
                | none =>
                    return .failure true "Client no longer available"
                      "The downstream client application is no longer active."
                      "invalid_client"
                | some client =>
                    let sessionToken ← ofExcept
                      (deployment.tokens.createJwtToken
                        (buildSessionPayload deployment (readings.utcNow 1) user
                          txn.tenantId txn.clientId) (readings.timeNs 0))
                    let scope :=
                      if filled txn.scope then txn.scope else "openid"
                    return .consentPage client.name (some user.email)
                      (splitWhitespace scope) {
                        clientId := txn.clientId
                        redirectUri := txn.redirectUri
                        scope := txn.scope
                        state := txn.state
                        nonce := txn.nonce
                        codeChallenge := txn.codeChallenge
                        codeChallengeMethod := txn.codeChallengeMethod }
                      (some sessionToken)

/-! ## `consent_submit` -/

/-- A request of `consent_submit`. -/
structure ConsentRequest where
  session : BrowserSession := {}
  action : String
  params : AuthorizationParams

/-- `state` as a query parameter, when it is given. -/
def stateParam (params : AuthorizationParams) : List (String × String) :=
  if given params.state then [("state", params.state.getD "")] else []

/-- `consent_submit`. -/
def consentSubmit (deployment : Deployment) (readings : Readings)
    (request : ConsentRequest) : App FlowResponse := do
  let params := request.params.orNone
  match getSessionUser deployment.tokens request.session
      (readings.utcNow 0) with
  | none =>
      return .redirect ("/api/v1/oidc/authorize?client_id=" ++
        params.clientId ++ "&redirect_uri=" ++ params.redirectUri ++
        "&response_type=" ++ params.responseType ++ "&scope=" ++ params.scope ++
        "&state=" ++ params.state.getD "")
  | some user =>
      if request.action = "deny" then
        return .clientRedirect params.redirectUri
          ([("error", "access_denied"),
            ("error_description", "User denied the request")] ++
            stateParam params)
      else
        match user.userId, user.tenantId with
        | some userId, some tenantId =>
            let code := readings.secret 0
            storeAuthorizationCode (readings.secret 1) (readings.utcNow 1) code
              params.clientId userId tenantId params.redirectUri params.scope
              params.codeChallenge params.codeChallengeMethod params.nonce
            return .clientRedirect params.redirectUri
              ([("code", code)] ++ stateParam params)
        | _, _ => throw (.other "KeyError")

end HexIam
