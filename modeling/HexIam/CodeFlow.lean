import HexIam.ClientAuthentication
import HexIam.KeyedDeployment
import HexIam.LoginRoutes

/-!
# The authorization code flow from its first page to its tokens

A browser opens `authorize`, fills in the login form, agrees on the consent
form, and the client redeems the code.  Between the four requests the database
may change in any way that leaves in place what each request looks up.  Then
every request is answered as the next one needs it, and the client holds the
tokens of the user who signed in.
-/

namespace HexIam

open LoginRoutes
open ConsentBinding (FlowCall codeOf)

namespace CodeFlow

/-! ## The parties -/

/-- What the browser and the client bring along, and what the server reads from
clocks and `secrets` at each of the four requests. -/
structure SignIn where
  query : AuthorizeQuery
  accept : String
  email : String
  password : String
  clientSecret : String
  codeVerifier : Option String
  authorizing : Readings
  loggingIn : Readings
  consenting : Readings
  redeeming : Readings

namespace SignIn

variable (signIn : SignIn)

/-- The request parameters as `authorize` reads them. -/
def params : AuthorizationParams :=
  signIn.query.params

/-- The scope of the code. -/
def scope : String :=
  scopeOrOpenid signIn.params.scope

/-- The parameters that the login form sends. -/
def loginParams : AuthorizationParams where
  clientId := signIn.params.clientId
  redirectUri := signIn.params.redirectUri
  responseType :=
    if filled signIn.params.responseType then signIn.params.responseType
    else "code"
  scope := signIn.scope
  state := some (signIn.params.state.getD "")
  nonce := some (signIn.params.nonce.getD "")
  codeChallenge := some (signIn.params.codeChallenge.getD "")
  codeChallengeMethod := some (signIn.params.codeChallengeMethod.getD "")

/-- The request for the first page. -/
def authorizeCall : FlowCall :=
  Context.authorize { accept := signIn.accept, readings := signIn.authorizing }
    signIn.query

/-- The login form. -/
def loginCall (params : AuthorizationParams) : FlowCall :=
  Context.login { readings := signIn.loggingIn } signIn.email signIn.password
    params

/-- The consent form, sent with the session cookie. -/
def consentCall (session : SignedToken) (params : AuthorizationParams) :
    FlowCall :=
  Context.consent {
    session := { cookie := some session.compact }
    readings := signIn.consenting } "allow" params

/-- The code that consent makes. -/
def code : String :=
  signIn.consenting.secret 0

/-- The row of the code. -/
def codeRow (client : ClientRow) (user : UserRow) : CodeRow where
  id := signIn.consenting.secret 1
  code := signIn.code
  clientId := signIn.params.clientId
  userId := user.id
  tenantId := client.tenantId
  redirectUri := signIn.params.redirectUri
  scope := signIn.scope
  codeChallenge := signIn.params.codeChallenge.filter filled
  codeChallengeMethod := signIn.params.codeChallengeMethod.filter filled
  nonce := signIn.params.nonce.filter filled
  used := false
  expiresAt := signIn.consenting.utcNow 1 + 600

/-- The form the client sends with its code. -/
def tokenForm : List (String × PyValue) :=
  [("grant_type", .text "authorization_code"),
    ("client_id", .text signIn.params.clientId),
    ("client_secret", .text signIn.clientSecret), ("code", .text signIn.code),
    ("redirect_uri", .text signIn.params.redirectUri)] ++
    signIn.codeVerifier.toList.map fun verifier =>
      ("code_verifier", .text verifier)

/-- The token request of the client. -/
def tokenRequest : TokenRequest where
  contentType := "application/x-www-form-urlencoded"
  form := signIn.tokenForm

end SignIn

/-! ## What each request looks up -/

/-- The client is active, with the redirect address of the request, and of a
tenant with a name. -/
structure Serves (signIn : SignIn) (world : World) (client : ClientRow) :
    Prop where
  active : world.activeClient signIn.params.clientId = some client
  registered : signIn.params.redirectUri ∈ client.redirectUris
  hasTenant : filled client.tenantId = true
  hasClientId : filled signIn.params.clientId = true
  hasRedirectUri : filled signIn.params.redirectUri = true

/-- The browser takes HTML and is offered the login form: it asks for it, or no
provider is enabled and none is asked for. -/
def OffersLogin (signIn : SignIn) (world : World) (client : ClientRow) : Prop :=
  occursIn "text/html" signIn.accept = true ∧
    (signIn.query.localLogin = true ∨
      given signIn.query.providerId = false ∧
        (world.providers.select fun row => row.tenantId = client.tenantId &&
          row.enabled && row.protocol = "oidc") = [])

/-- The client is active, and the user may sign in with the password. -/
structure Admits (deployment : Deployment) (signIn : SignIn) (world : World)
    (client : ClientRow) (user : UserRow) : Prop where
  active : world.activeClient signIn.params.clientId = some client
  found : (world.users.select fun held => held.email = signIn.email &&
    held.tenantId = client.tenantId &&
      (Connection.forTenant client.tenantId).sees held.tenantId).head? = some user
  password : deployment.verifyPassword signIn.password user.password = .ok true
  isActive : user.isActive = true
  verified : user.emailVerified = true

/-- The session is valid from the login to the consent, and the code can be
stored. -/
structure Stores (signIn : SignIn) (world : World) (client : ClientRow)
    (user : UserRow) : Prop where
  inTime : signIn.loggingIn.utcNow 0 ≤ signIn.consenting.utcNow 0 ∧
    signIn.consenting.utcNow 0 < signIn.loggingIn.utcNow 0 + 3600
  hasClient : world.clients.lookup signIn.params.clientId = some client
  hasUser : world.hasUser user.id = true
  hasTenant : world.hasTenant client.tenantId = true
  short : (fits 255 (signIn.codeRow client user).codeChallenge &&
    fits 10 (signIn.codeRow client user).codeChallengeMethod &&
    fits 255 (signIn.codeRow client user).nonce) = true
  freshId : ∀ held ∈ world.codes, held.id ≠ signIn.consenting.secret 1
  freshCode : ∀ held ∈ world.codes, held.code ≠ signIn.code

/-- The code is there, unused and in time, for the active client, whose secret
and verifier are right, and for a user of its tenant. -/
structure Redeems (deployment : Deployment) (signIn : SignIn) (world : World)
    (client : ClientRow) (user holder : UserRow) : Prop where
  stored : world.codes.lookup signIn.code = some (signIn.codeRow client user)
  inTime : world.now < signIn.consenting.utcNow 1 + 600
  active : world.activeClient signIn.params.clientId = some client
  hasCode : filled signIn.code = true
  secret : filled signIn.clientSecret = true →
    deployment.verifyPassword signIn.clientSecret client.clientSecret = .ok true
  verifier : challengeMet deployment (signIn.codeRow client user)
    (PyValue.get signIn.tokenForm "code_verifier") = .ok true
  found : world.seenUser (.forTenant client.tenantId) user.id = some holder
  refreshable : world.AcceptsRefreshToken
    (holder.id ++ "-refresh-" ++ signIn.redeeming.secret 0) holder.id
    client.tenantId client.id

/-- What the client gets: an access token and a refresh token of the user, and
an ID token where the scope asks for one.  The code is used. -/
structure Issues (deployment : Deployment) (signIn : SignIn) (client : ClientRow)
    (holder : UserRow) (policies : List PolicyDoc) (tokens : TokenData)
    (after : World) : Prop where
  access : ∃ jti, tokens.accessToken.payload =
    { accessPayload deployment (signIn.redeeming.utcNow 0) client.tenantId
        client.tenantId client.id holder (some signIn.scope)
        (bitmaskClaim policies) with
      jti := some jti }
  scope : tokens.scope = some signIn.scope
  refresh : ∃ row, tokens.refreshToken = some row.jti ∧
    after.refreshTokens.lookup row.jti = some row ∧ row.userId = holder.id ∧
    row.tenantId = client.tenantId ∧ row.clientId = client.id ∧
    row.revoked = false ∧ row.expiresAt = signIn.redeeming.utcNow 1 + 604800
  id : if occursIn "openid" signIn.scope then
      ∃ token, tokens.idToken = some token ∧ token.payload.sub = some holder.id ∧
        token.payload.aud = some (.one client.id) ∧
        token.payload.nonce = signIn.params.nonce.filter filled
    else tokens.idToken = none
  used : (after.codes.lookup signIn.code).map CodeRow.used = some true

/-! ## The requests -/

section Requests

variable {α : Type} {deployment : Deployment} {world : World} {signIn : SignIn}
variable {client : ClientRow} {user holder : UserRow}

theorem gives_getDatabasePool {query : Option String} {form : PyValue}
    {id : String} {continuation : Connection → App α} {post : α → World → Prop}
    (named : PyValue.orElse (.text (query.getD "")) form = .text id)
    (hasId : filled id = true) (found : world.clients.lookup id = some client)
    (hasTenant : filled client.tenantId = true) :
    App.Gives deployment (getDatabasePool none query form >>= continuation) world
        post ↔
      App.Gives deployment (continuation (.forTenant client.tenantId)) world
        post := by
  have truthy : (PyValue.text id).truthy = true := hasId
  have noHeader : given none = false := rfl
  unfold getDatabasePool requestTenant
  simp only [named, truthy, noHeader, if_true, Bool.false_eq_true, if_false]
  rw [App.gives_bind, App.gives_bind, App.gives_bind, App.gives_ofExcept]
  simp only [bindText, Except.ok.injEq, exists_eq_left']
  rw [App.gives_tenantOfClient]
  simp [found, hasTenant]

theorem gives_validateClient {id : String}
    {continuation : Option ClientRow → App α} {post : α → World → Prop}
    (active : world.activeClient id = some client) :
    App.Gives deployment
        (validateClient deployment (.text id) .none >>= continuation) world post ↔
      App.Gives deployment (continuation (some client)) world post := by
  unfold validateClient
  rw [App.gives_bind, App.gives_bind, App.gives_ofExcept]
  simp only [bindText, Except.ok.injEq, exists_eq_left']
  rw [App.gives_bind, App.gives_activeClient, Option.bind_some, active]
  simp

theorem lookup_of_activeClient {id : String}
    (active : world.activeClient id = some client) :
    world.clients.lookup id = some client :=
  (Option.filter_eq_some_iff.mp active).1

/-- Without a session `authorize` lets the browser choose how to sign in. -/
theorem gives_authorize_iff {query : AuthorizeQuery} {accept : String}
    {readings : Readings} {post : FlowResponse → World → Prop}
    (active : world.activeClient query.params.clientId = some client)
    (registered : query.params.redirectUri ∈ client.redirectUris)
    (hasClientId : filled query.params.clientId = true)
    (hasTenant : filled client.tenantId = true)
    (isHtml : occursIn "text/html" accept = true) :
    App.Gives deployment ((Context.authorize { accept, readings }
        query).program deployment) world post ↔
      App.Gives deployment (chooseLogin deployment readings
        { accept
          params := query.params
          providerId := query.providerId
          localLogin := query.localLogin } client) world post := by
  have isPage : (occursIn "application/json" accept &&
      !occursIn "text/html" accept) = false := by
    rw [isHtml, Bool.not_true, Bool.and_false]
  have named : PyValue.orElse (.text ((some query.params.clientId).getD ""))
      .none = .text query.params.clientId := by
    simp [PyValue.orElse, PyValue.truthy, hasClientId]
  have noSession : getSessionUser deployment.tokens {} (readings.utcNow 0) =
      none := rfl
  have asked : App.run deployment (validateRedirectUri query.params.clientId
      query.params.redirectUri) world = (.ok true, world) := by
    have answered : App.run deployment
        (ask (.client (.redirectUris query.params.clientId))) world =
          (.ok (some client.redirectUris), world) := by
      rw [App.run_ask]
      simp [perform, ClientStmt.perform, active]
    unfold validateRedirectUri
    rw [App.run_bind_of_ok answered]
    simp [registered]
  change App.Gives deployment (getDatabasePool none
    (some query.params.clientId) .none >>= fun _ => HexIam.authorize deployment
      readings _) world _ ↔ _
  rw [gives_getDatabasePool named hasClientId (lookup_of_activeClient active)
    hasTenant]
  unfold HexIam.authorize
  dsimp only
  rw [gives_validateClient active]
  dsimp only
  rw [App.gives_bind]
  refine (StatementTree.gives_of_run asked).trans ?_
  simp only [Bool.not_true, Bool.false_eq_true, if_false, noSession, isPage]

theorem gives_authorize (serves : Serves signIn world client)
    (offers : OffersLogin signIn world client) :
    App.Gives deployment (signIn.authorizeCall.program deployment) world
      fun answer after => answer = .loginPage client.name signIn.params none ∧
        after = world := by
  refine (gives_authorize_iff serves.active serves.registered serves.hasClientId
    serves.hasTenant offers.1).mpr ?_
  unfold chooseLogin
  dsimp only
  by_cases localLogin : signIn.query.localLogin = true
  · rw [if_pos localLogin, App.gives_pure]
    exact ⟨rfl, rfl⟩
  · obtain ⟨noProvider, noneEnabled⟩ := offers.2.resolve_left localLogin
    rw [if_neg localLogin, App.gives_bind]
    unfold listEnabledIdentityProviders
    rw [App.gives_ask]
    refine ⟨[], ?_, ?_⟩
    · simp [perform, ProviderStmt.perform, noneEnabled]
    · rw [noProvider, if_neg Bool.false_ne_true, App.gives_pure]
      exact ⟨rfl, rfl⟩

/-- The form of the login page carries the request on. -/
theorem params_hiddenInputs (hasClientId : filled signIn.params.clientId = true)
    (hasRedirectUri : filled signIn.params.redirectUri = true) :
    (hiddenInputs signIn.params).params = some signIn.loginParams := by
  have both : (filled signIn.params.clientId &&
      filled signIn.params.redirectUri) = true := by
    rw [hasClientId, hasRedirectUri, Bool.and_self]
  exact if_pos both

theorem getD_filter_filled (value : Option String) :
    ((some (value.getD "")).filter filled).getD "" = value.getD "" := by
  rw [Option.filter_some]
  split
  case isTrue => rfl
  case isFalse isEmpty =>
    rw [Option.getD_none]
    simpa [filled] using isEmpty

/-- So does the form of the consent page. -/
theorem params_hiddenInputs_orNone
    (hasClientId : filled signIn.params.clientId = true)
    (hasRedirectUri : filled signIn.params.redirectUri = true) :
    (hiddenInputs signIn.loginParams.orNone).params = some signIn.loginParams := by
  have both : (filled signIn.params.clientId &&
      filled signIn.params.redirectUri) = true := by
    rw [hasClientId, hasRedirectUri, Bool.and_self]
  have responseType : (if filled signIn.loginParams.responseType then
      signIn.loginParams.responseType else "code") =
        signIn.loginParams.responseType := by
    by_cases isFilled : filled signIn.params.responseType = true
    · simp [SignIn.loginParams, isFilled]
    · simp only [SignIn.loginParams, isFilled, if_false, ite_self,
        Bool.false_eq_true]
  have scope : scopeOrOpenid signIn.loginParams.scope =
      signIn.loginParams.scope :=
    scopeOrOpenid_idem _
  refine (if_pos both).trans (congrArg some ?_)
  change { signIn.loginParams with
      responseType := if filled signIn.loginParams.responseType then
        signIn.loginParams.responseType else "code"
      scope := scopeOrOpenid signIn.loginParams.scope
      state := some (signIn.loginParams.orNone.state.getD "")
      nonce := some (signIn.loginParams.orNone.nonce.getD "")
      codeChallenge := some (signIn.loginParams.orNone.codeChallenge.getD "")
      codeChallengeMethod :=
        some (signIn.loginParams.orNone.codeChallengeMethod.getD "") } = _
  rw [responseType, scope]
  simp only [SignIn.loginParams, AuthorizationParams.orNone, getD_filter_filled]

theorem gives_login (signs : deployment.tokens.canSign)
    (hasClientId : filled signIn.params.clientId = true)
    (hasTenant : filled client.tenantId = true)
    (admits : Admits deployment signIn world client user) :
    ∃ session, deployment.tokens.createJwtToken
        (buildSessionPayload deployment (signIn.loggingIn.utcNow 0) user
          client.tenantId signIn.params.clientId) (signIn.loggingIn.timeNs 0) =
          .ok session ∧
      App.Gives deployment
        ((signIn.loginCall signIn.loginParams).program deployment) world
        fun answer after => answer = .consentPage client.name (some user.email)
          (splitWhitespace signIn.scope) signIn.loginParams.orNone
            (some session) ∧ after = world := by
  have hasSub : (buildSessionPayload deployment (signIn.loggingIn.utcNow 0) user
      client.tenantId signIn.params.clientId).sub.isSome = true := rfl
  obtain ⟨session, minted⟩ :=
    (TokenService.createJwtToken_ok_iff hasSub).mpr signs
  refine ⟨session, minted, ?_⟩
  have named : PyValue.orElse (.text ((none : Option String).getD ""))
      (.text signIn.params.clientId) = .text signIn.params.clientId := rfl
  have found := lookup_of_activeClient admits.active
  change App.Gives deployment (getDatabasePool none none
    (.text signIn.params.clientId) >>= fun db => loginSubmit deployment db
      signIn.loggingIn _) world _
  rw [gives_getDatabasePool named hasClientId found hasTenant]
  unfold loginSubmit
  dsimp only
  have active : world.activeClient signIn.loginParams.orNone.clientId =
      some client := admits.active
  rw [gives_validateClient active]
  dsimp only
  rw [App.gives_bind, App.gives_ask]
  refine ⟨some user, congrArg Except.ok admits.found, ?_⟩
  dsimp only
  rw [App.gives_bind, App.gives_ofExcept]
  refine ⟨true, admits.password, ?_⟩
  simp only [admits.isActive, admits.verified, Bool.not_true, Bool.false_eq_true,
    if_false]
  rw [App.gives_bind, App.gives_ofExcept]
  exact ⟨session, minted, by rw [App.gives_pure]; exact ⟨rfl, rfl⟩⟩

theorem gives_consent {session : SignedToken} {payload : Claims}
    (hasClientId : filled signIn.params.clientId = true)
    (hasTenant : filled client.tenantId = true)
    (stores : Stores signIn world client user)
    (hasSession : filled session.compact = true)
    (reads : deployment.tokens.decodeJwtToken session.compact
      (signIn.consenting.utcNow 0) true = .ok payload)
    (userId : payload.userId = some user.id)
    (tenantId : payload.tenantId = some client.tenantId) :
    App.Gives deployment
      ((signIn.consentCall session signIn.loginParams).program deployment) world
      fun answer after => answer = .clientRedirect signIn.params.redirectUri
          (("code", signIn.code) :: stateParam signIn.params) ∧
        after.codes.lookup signIn.code = some (signIn.codeRow client user) := by
  have named : PyValue.orElse (.text ((none : Option String).getD ""))
      (.text signIn.params.clientId) = .text signIn.params.clientId := rfl
  change App.Gives deployment (getDatabasePool none none
    (.text signIn.params.clientId) >>= fun _ => consentSubmit deployment
      signIn.consenting _) world _
  rw [gives_getDatabasePool named hasClientId stores.hasClient hasTenant]
  have token : BrowserSession.token { cookie := some session.compact } =
      some session.compact := by
    simp [BrowserSession.token, given, hasSession]
  have sessionUser : getSessionUser deployment.tokens
      { cookie := some session.compact } (signIn.consenting.utcNow 0) =
        some payload := by
    rw [getSessionUser, token]
    dsimp only
    rw [reads]
    rfl
  have notDenied : ¬ "allow" = "deny" := by decide
  unfold consentSubmit storeAuthorizationCode
  simp only [sessionUser, notDenied, if_false, userId, tenantId]
  have rowEq : codeOf signIn.consenting signIn.loginParams user.id
      client.tenantId = signIn.codeRow client user := by
    simp only [codeOf, SignIn.loginParams, filter_getD_filled]
    rfl
  have storable : ConsentBinding.Storable world (signIn.codeRow client user) :=
    ⟨stores.short, stores.freshId, by
      rw [show (signIn.codeRow client user).clientId = signIn.params.clientId
        from rfl, stores.hasClient]; rfl,
      stores.hasUser, stores.hasTenant, stores.freshCode⟩
  have state : stateParam signIn.loginParams.orNone =
      stateParam signIn.params := by
    have stateEq : signIn.loginParams.orNone.state =
        signIn.params.state.filter filled :=
      filter_getD_filled _
    unfold stateParam
    rw [stateEq]
    cases signIn.params.state with
    | none => rfl
    | some text =>
        by_cases isFilled : filled text = true <;>
          simp [given, isFilled, Option.filter_some]
  change App.Gives deployment (ask (.code (.insert
    (codeOf signIn.consenting signIn.loginParams user.id client.tenantId))) >>=
      fun _ => pure (FlowResponse.clientRedirect signIn.params.redirectUri
        (("code", signIn.code) :: stateParam signIn.loginParams.orNone))) world _
  rw [rowEq, state, App.gives_bind, App.gives_ask]
  rcases @ConsentBinding.perform_insert_code world (signIn.codeRow client user) with
    ⟨-, answered, rowsEq⟩ | ⟨refused, -, -⟩
  · refine ⟨(), answered, ?_⟩
    rw [App.gives_pure]
    refine ⟨rfl, KeyedTable.lookup_eq_some.mpr ⟨?_, rfl⟩⟩
    have inserted : signIn.codeRow client user ∈
        (CodeStmt.perform world (.insert (signIn.codeRow client user))).2.rows := by
      rw [rowsEq]
      exact List.mem_append_right _ (List.mem_singleton.mpr rfl)
    exact KeyedTable.mem_def.mpr inserted
  · exact absurd storable refused

/-! ### The token request -/

theorem gives_validateSecret {id secret : String}
    {continuation : Option ClientRow → App α} {post : α → World → Prop}
    (active : world.activeClient id = some client)
    (right : filled secret = true →
      deployment.verifyPassword secret client.clientSecret = .ok true) :
    App.Gives deployment
        (validateClient deployment (.text id) (.text secret) >>= continuation)
        world post ↔
      App.Gives deployment (continuation (some client)) world post := by
  unfold validateClient
  rw [App.gives_bind, App.gives_bind, App.gives_ofExcept]
  simp only [bindText, Except.ok.injEq, exists_eq_left']
  rw [App.gives_bind, App.gives_activeClient, Option.bind_some, active]
  dsimp only
  by_cases presented : filled secret = true
  · have truthy : (PyValue.text secret).truthy = true := presented
    rw [if_pos truthy, App.gives_bind, App.gives_ofExcept]
    simp [verifySecret, right presented]
  · have notTruthy : ¬ (PyValue.text secret).truthy = true := presented
    rw [if_neg notTruthy, App.gives_pure]

theorem get_tokenForm :
    PyValue.get signIn.tokenForm "grant_type" = .text "authorization_code" ∧
      PyValue.get signIn.tokenForm "client_id" = .text signIn.params.clientId ∧
      PyValue.get signIn.tokenForm "client_secret" = .text signIn.clientSecret ∧
      PyValue.get signIn.tokenForm "code" = .text signIn.code ∧
      PyValue.get signIn.tokenForm "redirect_uri" =
        .text signIn.params.redirectUri :=
  ⟨rfl, rfl, rfl, rfl, rfl⟩

theorem ite_given_filter (value : Option String) :
    (if given (value.filter filled) then value.filter filled else none) =
      value.filter filled := by
  cases valueEq : value.filter filled with
  | none => rfl
  | some text => exact if_pos (Option.filter_eq_some_iff.mp valueEq).2

theorem exists_idToken (signIn : SignIn) (signs : deployment.tokens.canSign)
    (client : ClientRow) (user holder : UserRow) :
    ∃ idToken : Option SignedToken,
      (if occursIn "openid" (signIn.codeRow client user).scope then
        (createIdToken deployment (signIn.redeeming.utcNow 2)
          (signIn.redeeming.timeNs 1) holder.id holder.email
          (signIn.codeRow client user).tenantId client.id
          (signIn.codeRow client user).nonce (some holder.firstName)
          (some holder.lastName) holder.role).map some
      else .ok none) = .ok idToken ∧
      if occursIn "openid" signIn.scope then
        ∃ token, idToken = some token ∧ token.payload.sub = some holder.id ∧
          token.payload.aud = some (.one client.id) ∧
          token.payload.nonce = signIn.params.nonce.filter filled
      else idToken = none := by
  by_cases openid : occursIn "openid" signIn.scope = true
  · have hasSub : (idTokenPayload deployment (signIn.redeeming.utcNow 2) holder.id
        holder.email client.tenantId client.id
        (signIn.params.nonce.filter filled) (some holder.firstName)
        (some holder.lastName) holder.role).sub.isSome = true := rfl
    obtain ⟨token, minted⟩ :=
      (TokenService.createJwtToken_ok_iff hasSub).mpr signs
    obtain ⟨subject, -, payloadEq, -⟩ := TokenService.createJwtToken_eq_ok minted
    refine ⟨some token, ?_, ?_⟩
    · exact (if_pos openid).trans (congrArg (Except.map some) minted)
    · rw [if_pos openid]
      refine ⟨token, rfl, ?_, ?_, ?_⟩
      · rw [payloadEq]
        rfl
      · rw [payloadEq]
        rfl
      · rw [payloadEq]
        exact ite_given_filter _
  · exact ⟨none, if_neg openid, by rw [if_neg openid]⟩

theorem used_markUsed {code : String} {row : CodeRow}
    (stored : world.codes.lookup code = some row) (same : row.code = code) :
    ((CodeStmt.perform world (.markUsed (some code))).2.lookup code).map
      CodeRow.used = some true := by
  simp only [CodeStmt.perform]
  rw [KeyedTable.lookup_update, stored]
  simp [same, CodeRow.markUsed]

/-- The row of the refresh token that `token_endpoint` stores. -/
def refreshRow (signIn : SignIn) (client : ClientRow) (holder : UserRow) :
    RefreshTokenRow where
  jti := holder.id ++ "-refresh-" ++ signIn.redeeming.secret 0
  userId := holder.id
  tenantId := client.tenantId
  clientId := client.id
  expiresAt := signIn.redeeming.utcNow 1 + 604800
  revoked := false
  createdAt := 0

theorem lookup_insert {row : RefreshTokenRow}
    (accepts : world.AcceptsRefreshToken row.jti row.userId row.tenantId
      row.clientId) :
    (RefreshTokenStmt.perform world (.insert row)).2.lookup row.jti =
      some { row with revoked := false, createdAt := world.now } := by
  have inserted := RefreshTokenStmt.insert_of_ok
    (App.perform_insert_refreshToken.mpr accepts)
  exact KeyedTable.lookup_eq_some.mpr
    ⟨(KeyedTable.mem_of_insert inserted).mpr (.inr rfl), rfl⟩

theorem gives_token (signs : deployment.tokens.canSign)
    {policies : List PolicyDoc}
    (hasClientId : filled signIn.params.clientId = true)
    (hasRedirectUri : filled signIn.params.redirectUri = true)
    (hasTenant : filled client.tenantId = true)
    (redeems : Redeems deployment signIn world client user holder)
    (valid : world.currentPolicies deployment (.forTenant client.tenantId)
      holder.id client.tenantId = .ok policies) :
    App.Gives deployment
      (postToken deployment signIn.redeeming signIn.tokenRequest) world
      fun answer after => ∃ tokens, answer = .tokens tokens ∧
        (∃ payload, deployment.tokens.createJwtToken payload
          (signIn.redeeming.timeNs 0) = .ok tokens.accessToken ∧
          payload.exp = some (signIn.redeeming.utcNow 0 + 3600) ∧
          payload.iat = some (signIn.redeeming.utcNow 0)) ∧
        Issues deployment signIn client holder policies tokens after := by
  obtain ⟨grantType, clientId, clientSecret, code, redirectUri⟩ :=
    @get_tokenForm signIn
  have idEq := ClientAuthentication.id_of_activeClient redeems.active
  have named : PyValue.orElse (.text ((none : Option String).getD ""))
      (PyValue.get signIn.tokenForm "client_id") =
        .text signIn.params.clientId := rfl
  change App.Gives deployment (getDatabasePool none none
    (PyValue.get signIn.tokenForm "client_id") >>= fun db =>
      tokenEndpoint deployment db signIn.redeeming signIn.tokenRequest) world _
  rw [gives_getDatabasePool named hasClientId
    (lookup_of_activeClient redeems.active) hasTenant]
  unfold tokenEndpoint
  rw [App.gives_bind, App.gives_ofExcept]
  have contentType : occursIn "application/x-www-form-urlencoded"
      "application/x-www-form-urlencoded" = true := by
    decide +kernel
  have isForm : signIn.tokenRequest.data = .ok signIn.tokenForm :=
    if_pos contentType
  refine ⟨signIn.tokenForm, isForm, ?_⟩
  have credentials : extractClientCredentials deployment
      signIn.tokenRequest.authorization signIn.tokenForm =
        (.text signIn.params.clientId, .text signIn.clientSecret) := by
    simp [extractClientCredentials, SignIn.tokenRequest, startsWith, clientId,
      clientSecret]
  dsimp only
  rw [credentials, gives_validateSecret redeems.active redeems.secret, ← idEq]
  unfold grant authorizationCodeGrant
  have selected : world.selectedCode signIn.code client.id
      signIn.params.redirectUri = some (signIn.codeRow client user) := by
    rw [World.selectedCode, redeems.stored, idEq]
    simp [SignIn.codeRow, redeems.inTime]
  have codeTruthy : (PyValue.text signIn.code).truthy = true := redeems.hasCode
  have uriTruthy : (PyValue.text signIn.params.redirectUri).truthy = true :=
    hasRedirectUri
  simp only [grantType, code, redirectUri, PyValue.isText, decide_true, if_true,
    codeTruthy, uriTruthy, Bool.not_true, Bool.or_self, Bool.false_eq_true,
    if_false]
  rw [ClientAuthentication.gives_validateAuthorizationCode codeTruthy uriTruthy
    (by simp)]
  refine ⟨_, rfl, redeems.hasCode, _, rfl, hasRedirectUri, _, selected,
    redeems.verifier, ?_⟩
  dsimp only
  rw [App.gives_bind, App.gives_userById]
  have found : World.seenUser { world with
      codes := (CodeStmt.perform world (.markUsed (some signIn.code))).2 }
      (.forTenant client.tenantId) (signIn.codeRow client user).userId =
        some holder := redeems.found
  rw [found]
  unfold fetchUserPolicies createRefreshToken
  dsimp only
  rw [App.gives_bind, App.gives_bind, App.gives_validPolicies]
  refine ⟨policies, valid, ?_⟩
  rw [App.gives_pure, App.gives_bind, App.gives_ofExcept]
  have hasSub : (accessPayload deployment (signIn.redeeming.utcNow 0)
      client.tenantId client.tenantId client.id holder (some signIn.scope)
      (bitmaskClaim policies)).sub.isSome = true := rfl
  obtain ⟨accessToken, minted⟩ :=
    (TokenService.createJwtToken_ok_iff hasSub).mpr signs
  refine ⟨accessToken, minted, ?_⟩
  rw [App.gives_bind, App.gives_bind, App.gives_insertRefreshToken]
  refine ⟨redeems.refreshable, ?_⟩
  rw [App.gives_pure, App.gives_bind, App.gives_ofExcept]
  obtain ⟨idToken, made, shown⟩ := exists_idToken signIn signs client user holder
  refine ⟨idToken, made, ?_⟩
  rw [App.gives_pure]
  obtain ⟨subject, -, payloadEq, -⟩ := TokenService.createJwtToken_eq_ok minted
  refine ⟨_, rfl, ⟨_, minted, rfl, rfl⟩, ⟨_, payloadEq⟩, rfl, ?_, shown, ?_⟩
  · have lookedUp := @lookup_insert { world with
      codes := (CodeStmt.perform world (.markUsed (some signIn.code))).2 }
      (refreshRow signIn client holder) redeems.refreshable
    exact ⟨{ refreshRow signIn client holder with createdAt := world.now }, rfl,
      lookedUp, rfl, rfl, rfl, rfl, rfl⟩
  · exact used_markUsed redeems.stored rfl

end Requests

/-! ## The flow -/

section Flow

variable {keyed : KeyedDeployment} {signing consenting redeeming : Keyset}
variable {signIn : SignIn} {client : ClientRow} {user holder : UserRow}
variable {third : World}

theorem gives_consent_of_session {session : SignedToken}
    (holds : keyed.Holds signing) (consentHolds : keyed.Holds consenting)
    (keeps : keyed.Keeps signing consenting)
    (hasClientId : filled signIn.params.clientId = true)
    (hasTenant : filled client.tenantId = true)
    (stores : Stores signIn third client user)
    (minted : (keyed.under signing).tokens.createJwtToken
      (buildSessionPayload (keyed.under signing) (signIn.loggingIn.utcNow 0) user
        client.tenantId signIn.params.clientId) (signIn.loggingIn.timeNs 0) =
          .ok session) :
    App.Gives (keyed.under consenting) ((signIn.consentCall session
        signIn.loginParams).program (keyed.under consenting)) third
      fun answer after =>
        answer = .clientRedirect signIn.params.redirectUri
          (("code", signIn.code) :: stateParam signIn.params) ∧
        after.codes.lookup signIn.code = some (signIn.codeRow client user) := by
  obtain ⟨subject, -, payloadEq, -⟩ := TokenService.createJwtToken_eq_ok minted
  have unexpired : ∀ exp ∈ (buildSessionPayload (keyed.under signing)
      (signIn.loggingIn.utcNow 0) user client.tenantId
      signIn.params.clientId).exp, signIn.consenting.utcNow 0 < exp := by
    simpa [buildSessionPayload] using stores.inTime.2
  have issued : ∀ iat ∈ (buildSessionPayload (keyed.under signing)
      (signIn.loggingIn.utcNow 0) user client.tenantId
      signIn.params.clientId).iat, iat ≤ signIn.consenting.utcNow 0 := by
    simpa [buildSessionPayload] using stores.inTime.1
  have reads := holds.decode_minted consentHolds keeps minted unexpired issued
  have hasSession := TokenService.filled_of_decodeJwtToken reads
  refine gives_consent hasClientId hasTenant stores hasSession reads ?_ ?_
  · rw [payloadEq]
    rfl
  · rw [payloadEq]
    rfl

/-- The client gets its tokens, and whatever key set still has the key of the
access token accepts it until it expires. -/
theorem gives_token_accepted (holds : keyed.Holds redeeming)
    {policies : List PolicyDoc}
    (hasClientId : filled signIn.params.clientId = true)
    (hasRedirectUri : filled signIn.params.redirectUri = true)
    (hasTenant : filled client.tenantId = true)
    (redeems : Redeems (keyed.under redeeming) signIn third client user holder)
    (valid : third.currentPolicies (keyed.under redeeming)
      (.forTenant client.tenantId) holder.id client.tenantId = .ok policies) :
    App.Gives (keyed.under redeeming) (postToken (keyed.under redeeming)
        signIn.redeeming signIn.tokenRequest) third
      fun answer after => ∃ tokens, answer = .tokens tokens ∧
        Issues (keyed.under redeeming) signIn client holder policies tokens
          after ∧
        ∀ later now, keyed.Holds later → keyed.Keeps redeeming later →
          signIn.redeeming.utcNow 0 ≤ now →
          now < signIn.redeeming.utcNow 0 + 3600 →
          (keyed.under later).tokens.decodeJwtToken tokens.accessToken.compact
            now true = .ok tokens.accessToken.payload := by
  refine (gives_token holds.canSign hasClientId hasRedirectUri hasTenant redeems
    valid).mono ?_
  rintro answer after ⟨tokens, answered, ⟨payload, minted, exp, iat⟩, issues⟩
  refine ⟨tokens, answered, issues, ?_⟩
  intro later now laterHolds keepsKey started unexpired
  refine holds.decode_minted laterHolds keepsKey minted ?_ ?_
  · simpa [exp] using unexpired
  · simpa [iat] using started

end Flow

/-- A browser that opens the page, signs in and agrees, and a client that
redeems its code, end with the tokens of the user.  Between the requests the
database may become any other one that answers what the next request looks up,
and the keys may rotate as long as the key of the session is kept; whatever key
set still has the key of the access token accepts it until it expires. -/
theorem code_flow_completes {keyed : KeyedDeployment}
    {opening signing consenting redeeming : Keyset}
    {first second third fourth : World} {signIn : SignIn} {client : ClientRow}
    {user holder : UserRow} {policies : List PolicyDoc}
    (holds : ∀ state ∈ [signing, consenting, redeeming], keyed.Holds state)
    (keeps : keyed.Keeps signing consenting)
    (serves : Serves signIn first client)
    (offers : OffersLogin signIn first client)
    (admits : Admits (keyed.under signing) signIn second client user)
    (stores : Stores signIn third client user)
    (redeems : Redeems (keyed.under redeeming) signIn fourth client user holder)
    (valid : fourth.currentPolicies (keyed.under redeeming)
      (.forTenant client.tenantId) holder.id client.tenantId = .ok policies) :
    ∃ session,
      App.Gives (keyed.under opening)
        (signIn.authorizeCall.program (keyed.under opening)) first
        (fun answer _ => answer = .loginPage client.name signIn.params none) ∧
      (hiddenInputs signIn.params).params = some signIn.loginParams ∧
      App.Gives (keyed.under signing) ((signIn.loginCall
          signIn.loginParams).program (keyed.under signing)) second
        (fun answer _ => answer = .consentPage client.name (some user.email)
          (splitWhitespace signIn.scope) signIn.loginParams.orNone
            (some session)) ∧
      (hiddenInputs signIn.loginParams.orNone).params = some signIn.loginParams ∧
      App.Gives (keyed.under consenting) ((signIn.consentCall session
          signIn.loginParams).program (keyed.under consenting)) third
        (fun answer after =>
          answer = .clientRedirect signIn.params.redirectUri
            (("code", signIn.code) :: stateParam signIn.params) ∧
          after.codes.lookup signIn.code = some (signIn.codeRow client user)) ∧
      App.Gives (keyed.under redeeming) (postToken (keyed.under redeeming)
          signIn.redeeming signIn.tokenRequest) fourth
        fun answer after => ∃ tokens, answer = .tokens tokens ∧
          Issues (keyed.under redeeming) signIn client holder policies tokens
            after ∧
          ∀ later now, keyed.Holds later → keyed.Keeps redeeming later →
            signIn.redeeming.utcNow 0 ≤ now →
            now < signIn.redeeming.utcNow 0 + 3600 →
            (keyed.under later).tokens.decodeJwtToken tokens.accessToken.compact
              now true = .ok tokens.accessToken.payload := by
  have signHolds := holds signing (by simp)
  obtain ⟨session, minted, login⟩ := gives_login signHolds.canSign
    serves.hasClientId serves.hasTenant admits
  have opened : App.Gives (keyed.under opening)
      (signIn.authorizeCall.program (keyed.under opening)) first
      (fun answer after => answer = .loginPage client.name signIn.params none ∧
        after = first) :=
    gives_authorize serves offers
  refine ⟨session, ?_, ?_, ?_, ?_, ?_, ?_⟩
  · exact opened.mono fun _ _ answered => answered.1
  · exact params_hiddenInputs serves.hasClientId serves.hasRedirectUri
  · exact login.mono fun _ _ answered => answered.1
  · exact params_hiddenInputs_orNone serves.hasClientId serves.hasRedirectUri
  · exact gives_consent_of_session signHolds (holds consenting (by simp)) keeps
      serves.hasClientId serves.hasTenant stores minted
  · exact gives_token_accepted (holds redeeming (by simp)) serves.hasClientId
      serves.hasRedirectUri serves.hasTenant redeems valid

/-! ## A sign-in -/

theorem isAsymmetric_RS256 : "RS256" ∈ asymmetricSigningAlgorithms :=
  List.mem_cons_self

/-- A deployment whose tokens show how they were made. -/
def shownKeys : KeyedDeployment where
  deployment :=
    { Deployment.plain [] with
      tokens := {
        jwt := KeyTokens.shownJwt KeyTokens.markedKeys.publicOf
        manager := ⟨"RS256", "secret", "", []⟩
        jwtSecret := "secret" } }
  generator := KeyTokens.markedKeys
  config := {
    algorithm := "RS256"
    rotationEnabled := true
    rotationInterval := 10
    retention := 100
    checkInterval := 1
    checked := Int.le_refl _ }
  secret := "secret"
  roundTrip := KeyTokens.shownJwt_roundTrip isAsymmetric_RS256
  asymmetric := isAsymmetric_RS256

def firstKeys : Keyset :=
  Keyset.buildInitialState shownKeys.config
    (KeyTokens.markedKeys.generateKeyRecord 0 0)

theorem holds_firstKeys : shownKeys.Holds firstKeys where
  wellFormed := Keyset.wellFormed_buildInitialState _
  generated record recordMem := by
    obtain rfl := List.mem_singleton.mp recordMem
    exact ⟨0, rfl⟩

theorem keeps_firstKeys : shownKeys.Keeps firstKeys firstKeys := by
  intro record active
  obtain ⟨last, found, lastEq⟩ := holds_firstKeys.wellFormed.getActiveKey_isOk
  cases active.symm.trans found
  exact List.mem_of_getLast? lastEq

/-- A request with a challenge, ten seconds for each page. -/
def annasSignIn : SignIn where
  query := {
    clientId := "app"
    redirectUri := "https://app/back"
    scope := some "openid profile"
    state := some "s"
    nonce := some "n"
    codeChallenge := some "sha256:v" }
  accept := "text/html"
  email := "anna@x"
  password := "pw"
  clientSecret := "cs"
  codeVerifier := some "v"
  authorizing := ⟨fun _ => 0, fun _ => 0, fun _ => ""⟩
  loggingIn := ⟨fun _ => 10, fun _ => 1, fun _ => ""⟩
  consenting := ⟨fun _ => 20, fun _ => 2, fun draw => if draw = 0 then "c" else "i"⟩
  redeeming := ⟨fun _ => 30, fun _ => 3, fun _ => "r"⟩

def app : ClientRow where
  id := "app"
  tenantId := "t"
  clientSecret := "cs"
  name := "App"
  redirectUris := ["https://app/back"]
  scopes := ["openid"]
  isActive := true

def anna : UserRow where
  id := "u"
  tenantId := "t"
  email := "anna@x"
  password := "pw"
  firstName := "Anna"
  lastName := "A"
  role := none
  isActive := true
  emailVerified := true
  lastModified := 0

def annasTenant : World where
  tenants := .single { id := "t" }
  users := .single anna
  clients := .single app

/-- Anna's client gets her tokens. -/
theorem annas_flow_completes :
    ∃ session,
      App.Gives (shownKeys.under firstKeys)
        (annasSignIn.authorizeCall.program (shownKeys.under firstKeys)) annasTenant
        (fun answer _ => answer = .loginPage "App" annasSignIn.params none) ∧
      (hiddenInputs annasSignIn.params).params = some annasSignIn.loginParams ∧
      App.Gives (shownKeys.under firstKeys) ((annasSignIn.loginCall
          annasSignIn.loginParams).program (shownKeys.under firstKeys)) annasTenant
        (fun answer _ => answer = .consentPage "App" (some "anna@x")
          (splitWhitespace annasSignIn.scope) annasSignIn.loginParams.orNone
            (some session)) ∧
      (hiddenInputs annasSignIn.loginParams.orNone).params =
        some annasSignIn.loginParams ∧
      App.Gives (shownKeys.under firstKeys) ((annasSignIn.consentCall session
          annasSignIn.loginParams).program (shownKeys.under firstKeys)) annasTenant
        (fun answer after =>
          answer = .clientRedirect "https://app/back"
            (("code", "c") :: stateParam annasSignIn.params) ∧
          after.codes.lookup "c" = some (annasSignIn.codeRow app anna)) ∧
      App.Gives (shownKeys.under firstKeys) (postToken (shownKeys.under firstKeys)
          annasSignIn.redeeming annasSignIn.tokenRequest)
        { annasTenant with codes := .single (annasSignIn.codeRow app anna) }
        fun answer after => ∃ tokens, answer = .tokens tokens ∧
          Issues (shownKeys.under firstKeys) annasSignIn app anna [] tokens
            after ∧
          ∀ later now, shownKeys.Holds later → shownKeys.Keeps firstKeys later →
            30 ≤ now → now < 30 + 3600 →
            (shownKeys.under later).tokens.decodeJwtToken
              tokens.accessToken.compact now true =
                .ok tokens.accessToken.payload := by
  have holds : ∀ state ∈ [firstKeys, firstKeys, firstKeys],
      shownKeys.Holds state := by
    intro state stateMem
    obtain rfl : state = firstKeys := by simpa using stateMem
    exact holds_firstKeys
  have serves : Serves annasSignIn annasTenant app :=
    ⟨rfl, List.mem_cons_self, by decide, by decide, by decide⟩
  have offers : OffersLogin annasSignIn annasTenant app :=
    ⟨by decide, .inr ⟨rfl, rfl⟩⟩
  have admits : Admits (shownKeys.under firstKeys) annasSignIn annasTenant app
      anna := ⟨rfl, rfl, rfl, rfl, rfl⟩
  have stores : Stores annasSignIn annasTenant app anna :=
    ⟨by decide, rfl, rfl, rfl, by decide, (fun _ held => by cases held),
      (fun _ held => by cases held)⟩
  have redeems : Redeems (shownKeys.under firstKeys) annasSignIn
      { annasTenant with codes := .single (annasSignIn.codeRow app anna) } app anna
      anna := by
    refine ⟨rfl, by decide, rfl, by decide, fun _ => rfl, rfl, rfl, ?_⟩
    exact ⟨by decide, by decide, rfl, rfl, (fun _ held => by cases held)⟩
  exact code_flow_completes holds keeps_firstKeys serves offers admits stores
    redeems rfl

end CodeFlow

end HexIam
