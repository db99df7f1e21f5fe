import HexIam.Footprint
import HexIam.StatementRules

/-!
# Authentication of clients

`validate_client` checks a secret only when one is presented: a request without
a secret, or with an empty one, acts for any active client it names.  Such a
request is answered with tokens, or with an active introspection result, unless
something else about it fails.  This file says what else there is, and that
only a challenge on a redeemed code makes up for the secret.
-/

namespace HexIam

open StatementTree

namespace ClientAuthentication

variable {deployment : Deployment} {world : World}

/-! ## Requests and answers -/

/-- A request to `token_endpoint`, or to `introspect` on a worker. -/
inductive ClientRequest : Type
  | token (readings : Readings) (request : TokenRequest)
  | introspect (worker : Nat) (readings : Readings) (request : TokenRequest)

/-- The body and the headers of a request. -/
def ClientRequest.request : ClientRequest → TokenRequest
  | .token _ request => request
  | .introspect _ _ request => request

/-- The answer carries tokens. -/
abbrev carriesTokens : TokenResponse → World → Prop :=
  fun response _ => ∃ tokens, response = .tokens tokens

/-- The answer says that the token is active. -/
abbrev saysActive : IntrospectResponse → World → Prop :=
  fun response _ => response.active = true

/-- The request is answered with tokens or with an active result. -/
def Answered (deployment : Deployment) (world : World) : ClientRequest → Prop
  | .token readings request =>
      App.Gives deployment (postToken deployment readings request) world
        carriesTokens
  | .introspect worker readings request =>
      App.Gives deployment (introspect deployment worker readings request) world
        saysActive

/-! ## The property -/

/-- The presented secret verifies against the stored hash of the client. -/
def Verifies (deployment : Deployment) (client : ClientRow) (secret : PyValue) :
    Prop :=
  verifySecret deployment secret client.clientSecret = .ok true

/-- The request redeems a code with a challenge that its verifier meets. -/
def RedeemsChallenge (deployment : Deployment) (world : World)
    (clientId : String) (data : List (String × PyValue)) : Prop :=
  (PyValue.get data "grant_type").isText "authorization_code" = true ∧
    ∃ code redirectUri row, PyValue.get data "code" = .text code ∧
      PyValue.get data "redirect_uri" = .text redirectUri ∧
      world.selectedCode code clientId redirectUri = some row ∧
      given row.codeChallenge = true ∧
      challengeMet deployment row (PyValue.get data "code_verifier") = .ok true

/-- The named client is active, and its secret or a redeemed challenge
authenticates it. -/
def Authenticated (deployment : Deployment) (world : World)
    (request : ClientRequest) : Prop :=
  ∃ data clientId client, request.request.data = .ok data ∧
    (extractClientCredentials deployment request.request.authorization data).1 =
      .text clientId ∧
    world.activeClient clientId = some client ∧
    (Verifies deployment client (extractClientCredentials deployment
        request.request.authorization data).2 ∨
      (∃ readings token, request = .token readings token) ∧
        RedeemsChallenge deployment world clientId data)

/-! ## The condition -/

/-- The tokens of a user can be made and stored. -/
def Issuable (deployment : Deployment) (world : World) (db : Connection)
    (random : String) (user : UserRow) (tenantId clientId : String) : Prop :=
  (∃ policies, world.currentPolicies deployment db user.id tenantId =
    .ok policies) ∧
  deployment.tokens.canSign ∧
  world.AcceptsRefreshToken (user.id ++ "-refresh-" ++ random) user.id tenantId
    clientId

/-- The connection `get_database_pool` gives a request. -/
def Connects (world : World) (request : TokenRequest) (db : Connection) : Prop :=
  ∃ tenantId, filled tenantId = true ∧ db = .forTenant tenantId ∧
    if given request.tenantHeader then request.tenantHeader = some tenantId
    else ∃ clientId client,
      PyValue.orElse (.text (request.queryClientId.getD ""))
        (PyValue.get request.form "client_id") = .text clientId ∧
      filled clientId = true ∧ world.clients.lookup clientId = some client ∧
      client.tenantId = tenantId

/-- A code without a challenge can be redeemed. -/
def OpenCode (deployment : Deployment) (world : World) (db : Connection)
    (readings : Readings) (client : ClientRow) (data : List (String × PyValue)) :
    Prop :=
  ∃ code, PyValue.get data "code" = .text code ∧ filled code = true ∧
    ∃ redirectUri, PyValue.get data "redirect_uri" = .text redirectUri ∧
    filled redirectUri = true ∧
    ∃ row, world.selectedCode code client.id redirectUri = some row ∧
    given row.codeChallenge = false ∧
    ∃ user, world.seenUser db row.userId = some user ∧
    Issuable deployment world db (readings.secret 0) user row.tenantId client.id

/-- A refresh token can be rotated. -/
def OpenRefresh (deployment : Deployment) (world : World) (db : Connection)
    (readings : Readings) (client : ClientRow) (data : List (String × PyValue)) :
    Prop :=
  ∃ jti, PyValue.get data "refresh_token" = .text jti ∧ filled jti = true ∧
    ∃ row, world.liveRefreshToken jti client.id = some row ∧
    ∃ user, world.seenUser db row.userId = some user ∧
    Issuable deployment world db (readings.secret 0) user row.tenantId client.id

/-- A subject token resolves to a user of the client's tenant. -/
def OpenExchange (deployment : Deployment) (world : World) (db : Connection)
    (readings : Readings) (client : ClientRow) (data : List (String × PyValue)) :
    Prop :=
  ((PyValue.get data "audience").truthy = true →
    (PyValue.get data "audience").isText client.id = true) ∧
  (PyValue.get data "subject_token").truthy = true ∧
  App.Gives deployment
    (resolveOrProvisionFederatedUser deployment db readings client.tenantId
      (PyValue.get data "subject_token") (some client.id)
      (PyValue.get data "issuer_hint")) world
    fun (user, _, claims) after =>
      Issuable deployment after db (readings.secret 3) user client.tenantId
        client.id ∧
      ∃ scope, (PyValue.get claims "scope").orElse
        (.text "openid profile email") = .text scope

/-- A token request for an active client is served by a grant that rests on no
challenge. -/
def OpenGrant (deployment : Deployment) (world : World) (db : Connection)
    (readings : Readings) (client : ClientRow) (data : List (String × PyValue)) :
    Prop :=
  let grantType := PyValue.get data "grant_type"
  (grantType.isText "authorization_code" = true ∧
    OpenCode deployment world db readings client data) ∨
  (grantType.isText "refresh_token" = true ∧
    OpenRefresh deployment world db readings client data) ∨
  (grantType.isText "client_credentials" = true ∧ deployment.tokens.canSign) ∨
  (grantType.isText "urn:ietf:params:oauth:grant-type:token-exchange" = true ∧
    OpenExchange deployment world db readings client data)

/-- A presented token is active for a client. -/
def OpenIntrospection (deployment : Deployment) (world : World) (worker : Nat)
    (readings : Readings) (client : ClientRow) (data : List (String × PyValue)) :
    Prop :=
  ∃ token, PyValue.get data "token" = .text token ∧ filled token = true ∧
    let decoded := if (PyValue.get data "token_type_hint").isText "refresh_token"
      then .error .decode
      else deployment.tokens.decodeJwtToken token (readings.utcNow 0) true
    match decoded with
    | .ok payload => clientMatchesToken payload client.id = true ∧
        (given payload.jti = true → payload.jti.getD "" ∉ world.bloom worker)
    | .error _ => (world.liveRefreshToken token client.id).isSome = true

/-- Whoever names the active client gets an answer, whatever the secret. -/
def Open (deployment : Deployment) (world : World) (client : ClientRow)
    (data : List (String × PyValue)) : ClientRequest → Prop
  | .token readings request => ∃ db, Connects world request db ∧
      OpenGrant deployment world db readings client data
  | .introspect worker readings _ =>
      OpenIntrospection deployment world worker readings client data

/-- The request presents a secret, or an empty one that verifies, unless it
fails for another reason: it names no active client, or it is not open. -/
def Careful (deployment : Deployment) (world : World) (request : ClientRequest) :
    Prop :=
  ∀ data clientId client, request.request.data = .ok data →
    (extractClientCredentials deployment request.request.authorization data).1 =
      .text clientId →
    world.activeClient clientId = some client →
    Open deployment world client data request →
    let secret := (extractClientCredentials deployment
      request.request.authorization data).2
    secret.truthy = true ∨ Verifies deployment client secret

/-! ## When each step succeeds -/

section Steps

variable {α : Type} {post : α → World → Prop} {db : Connection}
variable {readings : Readings} {client : ClientRow}
variable {data : List (String × PyValue)}

/-- A step that asks for the client continues with an active client whose
secret verifies when one is presented. -/
theorem gives_validateClient {clientId secret : PyValue}
    {continuation : Option ClientRow → App α}
    (refuses : ¬ App.Gives deployment (continuation none) world post) :
    App.Gives deployment
        (validateClient deployment clientId secret >>= continuation) world post ↔
      ∃ id client, clientId = .text id ∧ world.activeClient id = some client ∧
        (secret.truthy = true → Verifies deployment client secret) ∧
        App.Gives deployment (continuation (some client)) world post := by
  unfold validateClient Verifies
  rw [App.gives_bind, App.gives_bind, App.gives_ofExcept]
  cases clientId with
  | text id =>
      simp only [bindText, Except.ok.injEq, exists_eq_left', PyValue.text.injEq]
      rw [App.gives_bind, App.gives_activeClient, Option.bind_some]
      cases activeEq : world.activeClient id with
      | none => simp [refuses, activeEq]
      | some client =>
          by_cases presented : secret.truthy = true
          · simp [activeEq, presented, App.gives_bind, refuses]
          · simp [activeEq, presented]
  | none =>
      simp only [bindText, Except.ok.injEq, exists_eq_left']
      rw [App.gives_bind, App.gives_activeClient]
      simp [refuses]
  | _ => simp [bindText]

theorem gives_getDatabasePool {request : TokenRequest}
    {continuation : Connection → App α} :
    App.Gives deployment
        (getDatabasePool request.tenantHeader request.queryClientId
          (PyValue.get request.form "client_id") >>= continuation) world post ↔
      ∃ db, Connects world request db ∧
        App.Gives deployment (continuation db) world post := by
  unfold getDatabasePool requestTenant Connects
  rw [App.gives_bind, App.gives_bind]
  by_cases header : given request.tenantHeader = true
  · obtain ⟨tenantId, headerEq, isFilled⟩ := given_eq_true.mp header
    simp [headerEq, isFilled]
  · simp only [header]
    generalize PyValue.orElse (.text (request.queryClientId.getD ""))
      (PyValue.get request.form "client_id") = named
    by_cases truthy : named.truthy = true
    · simp only [truthy, if_true, if_false, Bool.false_eq_true]
      rw [App.gives_bind, App.gives_ofExcept]
      cases named with
      | text id =>
          have isFilled : filled id = true := truthy
          simp only [bindText, Except.ok.injEq, exists_eq_left', PyValue.text.injEq]
          rw [App.gives_tenantOfClient]
          cases found : world.clients.lookup id with
          | none => simp [found]
          | some client =>
              by_cases tenantFilled : filled client.tenantId = true <;>
                simp [found, tenantFilled, isFilled]
      | none => cases truthy
      | _ => simp [bindText]
    · cases named with
      | text id => simp_all
      | _ => simp [truthy]

theorem gives_issue {user : UserRow} {tenantId clientId random : String}
    {utcNow : Int} {timeNs : Nat} {payload : List (String × Nat) → Claims}
    (hasSub : ∀ policies, (payload policies).sub.isSome = true)
    {continuation : SignedToken → String → App TokenResponse} {rest : Prop}
    (ends : deployment.tokens.canSign → ∀ accessToken refreshToken after,
      (App.Gives deployment (continuation accessToken refreshToken) after
        carriesTokens ↔ rest)) :
    App.Gives deployment (do
        let policies ← fetchUserPolicies db user.id tenantId
        let accessToken ← ofExcept
          (deployment.tokens.createJwtToken (payload policies) timeNs)
        let refreshToken ←
          createRefreshToken random utcNow user.id tenantId clientId
        continuation accessToken refreshToken) world carriesTokens ↔
      Issuable deployment world db random user tenantId clientId ∧ rest := by
  unfold fetchUserPolicies createRefreshToken Issuable
  rw [App.gives_bind, App.gives_bind, App.gives_validPolicies]
  constructor
  · rintro ⟨policies, policiesEq, gives⟩
    rw [App.gives_pure, App.gives_bind, App.gives_ofExcept] at gives
    obtain ⟨accessToken, minted, gives⟩ := gives
    rw [App.gives_bind, App.gives_bind, App.gives_insertRefreshToken] at gives
    obtain ⟨accepts, gives⟩ := gives
    have signs := (TokenService.createJwtToken_ok_iff (hasSub _)).mp ⟨_, minted⟩
    rw [App.gives_pure] at gives
    exact ⟨⟨⟨policies, policiesEq⟩, signs, accepts⟩, (ends signs _ _ _).mp gives⟩
  · rintro ⟨⟨⟨policies, policiesEq⟩, signs, accepts⟩, holds⟩
    refine ⟨policies, policiesEq, ?_⟩
    obtain ⟨accessToken, minted⟩ :=
      (TokenService.createJwtToken_ok_iff (hasSub _)).mpr signs
    rw [App.gives_pure, App.gives_bind, App.gives_ofExcept]
    refine ⟨accessToken, minted, ?_⟩
    rw [App.gives_bind, App.gives_bind, App.gives_insertRefreshToken]
    refine ⟨accepts, ?_⟩
    rw [App.gives_pure]
    exact (ends signs _ _ _).mpr holds

/-- An ID token is made for the scopes that ask for one whenever the service
can sign. -/
theorem gives_idToken {condition : Prop} [Decidable condition] {payload : Claims}
    {timeNs : Nat} {continuation : Option SignedToken → App TokenResponse}
    (hasSub : payload.sub.isSome = true) (signs : deployment.tokens.canSign)
    (ends : ∀ idToken, App.Gives deployment (continuation idToken) world
      carriesTokens) :
    App.Gives deployment (ofExcept (if condition then
        (deployment.tokens.createJwtToken payload timeNs).map some
      else .ok none) >>= continuation) world carriesTokens := by
  rw [App.gives_bind, App.gives_ofExcept]
  obtain ⟨token, minted⟩ := (TokenService.createJwtToken_ok_iff hasSub).mpr signs
  split
  · exact ⟨some token, by rw [minted]; rfl, ends _⟩
  · exact ⟨none, rfl, ends _⟩

theorem gives_validateAuthorizationCode {code redirectUri verifier : PyValue}
    {clientId : String} {continuation : Option CodeRow → App α}
    (codeTruthy : code.truthy = true) (uriTruthy : redirectUri.truthy = true)
    (refuses : ∀ after, ¬ App.Gives deployment (continuation none) after post) :
    App.Gives deployment (validateAuthorizationCode deployment code
        (.text clientId) redirectUri verifier >>= continuation) world post ↔
      ∃ codeText, code = .text codeText ∧ filled codeText = true ∧
        ∃ uriText, redirectUri = .text uriText ∧ filled uriText = true ∧
        ∃ row, world.selectedCode codeText clientId uriText = some row ∧
          challengeMet deployment row verifier = .ok true ∧
          App.Gives deployment (continuation (some row)) { world with
            codes := (CodeStmt.perform world (.markUsed (some codeText))).2 }
            post := by
  unfold validateAuthorizationCode
  rw [App.gives_bind, App.gives_bind, App.gives_ofExcept,
    bindText_of_truthy codeTruthy]
  refine exists_congr fun codeText => and_congr_right fun _ =>
    and_congr_right fun _ => ?_
  rw [App.gives_bind, App.gives_ofExcept, bindText_text]
  simp only [Except.ok.injEq, exists_eq_left']
  rw [App.gives_bind, App.gives_ofExcept, bindText_of_truthy uriTruthy]
  refine exists_congr fun uriText => and_congr_right fun _ =>
    and_congr_right fun _ => ?_
  rw [App.gives_bind, App.gives_validateCode]
  cases selected : world.selectedCode codeText clientId uriText with
  | none => simp [refuses]
  | some row =>
      simp only [Option.some.injEq, exists_eq_left']
      rw [App.gives_bind, App.gives_ofExcept]
      cases metEq : challengeMet deployment row verifier with
      | error error => simp
      | ok met =>
          cases met with
          | false => simp [refuses]
          | true =>
              simp only [Except.ok.injEq, exists_eq_left', if_true, true_and]
              rw [App.gives_bind, App.gives_markUsed, App.gives_pure]

/-- Tokens are issued for a code that is redeemed for a user the connection
sees. -/
theorem gives_authorizationCodeGrant :
    App.Gives deployment (authorizationCodeGrant deployment db readings client
        (.text client.id) data) world carriesTokens ↔
      ∃ code, PyValue.get data "code" = .text code ∧ filled code = true ∧
        ∃ redirectUri, PyValue.get data "redirect_uri" = .text redirectUri ∧
        filled redirectUri = true ∧
        ∃ row, world.selectedCode code client.id redirectUri = some row ∧
        challengeMet deployment row (PyValue.get data "code_verifier") = .ok true ∧
        ∃ user, world.seenUser db row.userId = some user ∧
        Issuable deployment world db (readings.secret 0) user row.tenantId
          client.id := by
  unfold authorizationCodeGrant
  dsimp only
  split
  case isTrue missing =>
    rw [App.gives_pure]
    refine iff_of_false (by simp) ?_
    rintro ⟨code, codeEq, codeFilled, redirectUri, uriEq, uriFilled, -⟩
    simp [codeEq, uriEq, codeFilled, uriFilled] at missing
  case isFalse present =>
    simp only [Bool.or_eq_true, Bool.not_eq_true', not_or, Bool.not_eq_false]
      at present
    rw [gives_validateAuthorizationCode present.1 present.2 (by simp)]
    refine exists_congr fun code => and_congr_right fun _ =>
      and_congr_right fun _ => exists_congr fun redirectUri =>
      and_congr_right fun _ => and_congr_right fun _ => exists_congr fun row =>
      and_congr_right fun _ => and_congr_right fun _ => ?_
    rw [App.gives_bind, App.gives_userById]
    change _ ↔ ∃ user, World.seenUser { world with
      codes := (CodeStmt.perform world (.markUsed (some code))).2 } db row.userId =
        some user ∧ _
    cases World.seenUser { world with
        codes := (CodeStmt.perform world (.markUsed (some code))).2 } db
        row.userId with
    | none => simp
    | some user =>
        simp only [Option.some.injEq, exists_eq_left']
        refine (gives_issue (fun _ => rfl) fun signs _ _ _ => iff_true_intro ?_).trans
          (and_iff_left trivial)
        exact gives_idToken rfl signs (by simp)

/-- Revoking a token leaves open what can be issued. -/
theorem issuable_revoke {random tenantId clientId : String} {user : UserRow}
    {jti : Option String} :
    Issuable deployment { world with
        refreshTokens := (RefreshTokenStmt.perform world (.revoke jti)).2 } db
        random user tenantId clientId ↔
      Issuable deployment world db random user tenantId clientId := by
  refine and_congr_right fun _ => and_congr_right fun _ => and_congr_right fun _ =>
    and_congr_right fun _ => and_congr_right fun _ => and_congr_right fun _ => ?_
  simp only [RefreshTokenStmt.perform, KeyedTable.mem_update]
  constructor
  · intro free held heldMem
    have keyEq (row : RefreshTokenRow) (revoked : Bool) :
        (if revoked then row.revoke else row).jti = row.jti := by
      cases revoked <;> rfl
    rw [← keyEq held (some held.jti = jti)]
    exact free _ ⟨held, heldMem, rfl⟩
  · rintro free _ ⟨held, heldMem, rfl⟩
    split
    · exact free held heldMem
    · exact free held heldMem

/-- Tokens are issued for a live refresh token of a user the connection
sees. -/
theorem gives_refreshTokenGrant :
    App.Gives deployment (refreshTokenGrant deployment db readings client
        (.text client.id) data) world carriesTokens ↔
      OpenRefresh deployment world db readings client data := by
  unfold refreshTokenGrant validateRefreshToken revokeRefreshToken OpenRefresh
  dsimp only
  split
  case isTrue missing =>
    rw [App.gives_pure]
    refine iff_of_false (by simp) ?_
    rintro ⟨jti, jtiEq, jtiFilled, -⟩
    simp [jtiEq, jtiFilled] at missing
  case isFalse present =>
    rw [Bool.not_eq_true', Bool.not_eq_false] at present
    rw [App.gives_bind, App.gives_bind, App.gives_ofExcept,
      bindText_of_truthy present]
    refine exists_congr fun jti => and_congr_right fun jtiEq =>
      and_congr_right fun _ => ?_
    rw [App.gives_bind, App.gives_ofExcept, bindText_text]
    simp only [Except.ok.injEq, exists_eq_left']
    rw [App.gives_validateRefreshToken]
    cases world.liveRefreshToken jti client.id with
    | none => simp
    | some row =>
        simp only [Option.some.injEq, exists_eq_left']
        rw [App.gives_bind, App.gives_userById]
        cases world.seenUser db row.userId with
        | none => simp
        | some user =>
            simp only [Option.some.injEq, exists_eq_left', jtiEq]
            rw [App.gives_bind, App.gives_bind, App.gives_ofExcept, bindText_text]
            simp only [Except.ok.injEq, exists_eq_left']
            rw [App.gives_revokeRefreshToken, ← issuable_revoke]
            refine (gives_issue (fun _ => rfl)
              fun _ _ _ _ => iff_true_intro ?_).trans (and_iff_left trivial)
            simp

/-- The client credentials suffice to get tokens whenever the service can
sign. -/
theorem gives_clientCredentialsGrant :
    App.Gives deployment (clientCredentialsGrant deployment readings client)
        world carriesTokens ↔ deployment.tokens.canSign := by
  unfold clientCredentialsGrant
  rw [App.gives_bind, App.gives_ofExcept]
  have hasSub : (clientCredentialsPayload deployment (readings.utcNow 0)
      client).sub.isSome = true := rfl
  refine (exists_congr fun token => and_iff_left ?_).trans
    (TokenService.createJwtToken_ok_iff hasSub)
  simp

/-- Tokens are issued for a subject token that resolves to a user. -/
theorem gives_tokenExchangeGrant :
    App.Gives deployment (tokenExchangeGrant deployment db readings client data)
        world carriesTokens ↔
      OpenExchange deployment world db readings client data := by
  unfold tokenExchangeGrant OpenExchange
  dsimp only
  split
  case isTrue mismatch =>
    rw [App.gives_pure]
    refine iff_of_false (by simp) ?_
    rintro ⟨matches', -⟩
    simp_all
  case isFalse audience =>
    split
    case isTrue missing =>
      rw [App.gives_pure]
      refine iff_of_false (by simp) ?_
      rintro ⟨-, present, -⟩
      simp [present] at missing
    case isFalse present =>
      simp only [Bool.and_eq_true, Bool.not_eq_true', not_and, Bool.not_eq_false]
        at audience present
      rw [App.gives_bind, App.gives_tryCatch, App.gives_bind,
        and_iff_right audience, and_iff_right present]
      simp only [App.gives_pure]
      refine Iff.trans (or_iff_left ?_) ?_
      · simp
      refine StatementTree.gives_congr ?_
      · rintro ⟨user, provider, claims⟩ after
        refine gives_issue (fun _ => rfl) fun signs accessToken refreshToken after => ?_
        cases (PyValue.get claims "scope").orElse (.text "openid profile email") with
        | text scope =>
            exact iff_of_true (gives_idToken rfl signs (by simp)) ⟨scope, rfl⟩
        | _ => simp

/-! ## When an endpoint answers -/

theorem id_of_activeClient {id : String}
    (active : world.activeClient id = some client) : client.id = id :=
  (KeyedTable.lookup_eq_some.mp (Option.filter_eq_some_iff.mp active).1).2

theorem isText_iff {value : PyValue} {text : String} :
    value.isText text = true ↔ value = .text text := by
  cases value <;> simp [PyValue.isText]

theorem gives_grant_of_open
    (isOpen : OpenGrant deployment world db readings client data) :
    App.Gives deployment
      (grant deployment db readings client (.text client.id) data) world
      carriesTokens := by
  unfold grant
  simp only [OpenGrant, isText_iff] at isOpen ⊢
  rcases isOpen with ⟨grantType, isOpen⟩ | ⟨grantType, isOpen⟩ |
    ⟨grantType, signs⟩ | ⟨grantType, isOpen⟩
  · obtain ⟨code, codeEq, codeFilled, redirectUri, uriEq, uriFilled, row, selected,
      unchallenged, user, seen, issuable⟩ := isOpen
    have met : challengeMet deployment row (PyValue.get data "code_verifier") =
        .ok true := by
      simp [challengeMet, unchallenged]
    simp only [grantType]
    exact gives_authorizationCodeGrant.mpr ⟨code, codeEq, codeFilled, redirectUri,
      uriEq, uriFilled, row, selected, met, user, seen, issuable⟩
  · simp only [grantType]
    exact gives_refreshTokenGrant.mpr isOpen
  · simp only [grantType]
    exact gives_clientCredentialsGrant.mpr signs
  · simp only [grantType]
    exact gives_tokenExchangeGrant.mpr isOpen

/-- A grant that issues tokens is open, or redeems a code whose challenge is
met. -/
theorem open_or_redeems_of_grant
    (gives : App.Gives deployment
      (grant deployment db readings client (.text client.id) data) world
      carriesTokens) :
    OpenGrant deployment world db readings client data ∨
      RedeemsChallenge deployment world client.id data := by
  unfold grant at gives
  simp only at gives
  split at gives
  case isTrue grantType =>
    obtain ⟨code, codeEq, codeFilled, redirectUri, uriEq, uriFilled, row, selected,
      met, user, seen, issuable⟩ := gives_authorizationCodeGrant.mp gives
    cases challenged : given row.codeChallenge with
    | true =>
        exact .inr ⟨grantType, code, redirectUri, row, codeEq, uriEq, selected,
          challenged, met⟩
    | false =>
        exact .inl (.inl ⟨grantType, code, codeEq, codeFilled, redirectUri, uriEq,
          uriFilled, row, selected, challenged, user, seen, issuable⟩)
  case isFalse =>
    split at gives
    case isTrue grantType =>
      exact .inl (.inr (.inl ⟨grantType, gives_refreshTokenGrant.mp gives⟩))
    case isFalse =>
      split at gives
      case isTrue grantType =>
        exact .inl (.inr (.inr (.inl
          ⟨grantType, gives_clientCredentialsGrant.mp gives⟩)))
      case isFalse =>
        split at gives
        case isTrue grantType =>
          exact .inl (.inr (.inr (.inr
            ⟨grantType, gives_tokenExchangeGrant.mp gives⟩)))
        case isFalse =>
          obtain ⟨_, ⟨⟩⟩ := App.gives_pure.mp gives

/-- `token_endpoint` answers with tokens when its connection is found, its
client passes and the grant issues them. -/
theorem gives_postToken {request : TokenRequest} :
    App.Gives deployment (postToken deployment readings request) world
        carriesTokens ↔
      ∃ db, Connects world request db ∧ ∃ data, request.data = .ok data ∧
        ∃ id client, (extractClientCredentials deployment request.authorization
            data).1 = .text id ∧
          world.activeClient id = some client ∧
          ((extractClientCredentials deployment request.authorization
              data).2.truthy = true →
            Verifies deployment client (extractClientCredentials deployment
              request.authorization data).2) ∧
          App.Gives deployment (grant deployment db readings client
            (extractClientCredentials deployment request.authorization data).1
            data) world carriesTokens := by
  unfold postToken
  rw [gives_getDatabasePool]
  refine exists_congr fun db => and_congr_right fun _ => ?_
  unfold tokenEndpoint
  rw [App.gives_bind, App.gives_ofExcept]
  refine exists_congr fun data => and_congr_right fun _ => ?_
  exact gives_validateClient (by simp)

theorem gives_introspectRefreshToken {token : PyValue}
    {post : IntrospectResponse → World → Prop} (truthy : token.truthy = true) :
    App.Gives deployment (introspectRefreshToken token client) world post ↔
      ∃ text, token = .text text ∧ filled text = true ∧
        post (match world.liveRefreshToken text client.id with
          | none => .inactive
          | some row => .refreshToken row) world := by
  unfold introspectRefreshToken validateRefreshToken
  rw [App.gives_bind, App.gives_bind, App.gives_ofExcept,
    bindText_of_truthy truthy]
  refine exists_congr fun text => and_congr_right fun _ => and_congr_right fun _ => ?_
  rw [App.gives_bind, App.gives_ofExcept, bindText_text]
  simp only [Except.ok.injEq, exists_eq_left']
  rw [App.gives_validateRefreshToken]
  cases world.liveRefreshToken text client.id <;> simp

theorem saysActive_refreshToken {text : String} :
    saysActive (match world.liveRefreshToken text client.id with
      | none => .inactive
      | some row => .refreshToken row) world ↔
      (world.liveRefreshToken text client.id).isSome = true := by
  cases world.liveRefreshToken text client.id <;>
    simp [saysActive, IntrospectResponse.active]

theorem gives_introspectAccessToken {worker : Nat} {payload : Claims}
    {post : IntrospectResponse → World → Prop}
    (refuses : ¬ post .inactive world) :
    App.Gives deployment (do
        if !clientMatchesToken payload client.id then
          return .inactive
        else if ← tokenIsRevoked worker payload.jti then
          return .inactive
        else
          return .accessToken client.id payload) world post ↔
      clientMatchesToken payload client.id = true ∧
        (given payload.jti = true → payload.jti.getD "" ∉ world.bloom worker) ∧
        post (.accessToken client.id payload) world := by
  unfold tokenIsRevoked isRevoked
  cases matching : clientMatchesToken payload client.id with
  | false => simp [refuses]
  | true =>
      simp only [Bool.not_true, Bool.false_eq_true, if_false, true_and]
      rw [App.gives_bind]
      cases hasJti : given payload.jti with
      | false => simp
      | true =>
          simp only [if_true, true_implies]
          rw [App.gives_bloomHas]
          by_cases revoked : payload.jti.getD "" ∈ world.bloom worker <;>
            simp [revoked, refuses]

theorem gives_introspect {worker : Nat} {request : TokenRequest} :
    App.Gives deployment (introspect deployment worker readings request) world
        saysActive ↔
      ∃ data, request.data = .ok data ∧
        ∃ id client, (extractClientCredentials deployment request.authorization
            data).1 = .text id ∧
          world.activeClient id = some client ∧
          ((extractClientCredentials deployment request.authorization
              data).2.truthy = true →
            Verifies deployment client (extractClientCredentials deployment
              request.authorization data).2) ∧
          OpenIntrospection deployment world worker readings client data := by
  unfold introspect
  rw [App.gives_bind, App.gives_ofExcept]
  refine exists_congr fun data => and_congr_right fun _ => ?_
  dsimp only
  split
  case isTrue missing =>
    rw [App.gives_pure]
    refine iff_of_false (by simp [IntrospectResponse.active]) ?_
    rintro ⟨id, client, -, -, -, token, tokenEq, tokenFilled, -⟩
    simp [tokenEq, tokenFilled] at missing
  case isFalse present =>
    rw [Bool.not_eq_true', Bool.not_eq_false] at present
    rw [gives_validateClient (by simp [IntrospectResponse.active])]
    refine exists_congr fun id => exists_congr fun client =>
      and_congr_right fun _ => and_congr_right fun _ => and_congr_right fun _ => ?_
    unfold OpenIntrospection
    by_cases hint : (PyValue.get data "token_type_hint").isText "refresh_token" =
        true
    · simp only [hint, if_true]
      refine (gives_introspectRefreshToken present).trans ?_
      simp only [saysActive_refreshToken]
    · simp only [hint]
      cases tokenEq : PyValue.get data "token" with
      | text token =>
          rw [tokenEq] at present
          have isFilled : filled token = true := present
          cases decoded : deployment.tokens.decodeJwtToken token
              (readings.utcNow 0) true with
          | error error =>
              simp only [Bool.false_eq_true, if_false, decoded]
              refine (gives_introspectRefreshToken present).trans ?_
              simp only [saysActive_refreshToken]
              simp [decoded]
          | ok payload =>
              simp only [Bool.false_eq_true, if_false, decoded]
              refine (gives_introspectAccessToken nofun).trans ?_
              simp [decoded, isFilled, saysActive, IntrospectResponse.active]
      | _ =>
          rw [tokenEq] at present
          refine iff_of_false (fun gives => ?_) (by simp)
          obtain ⟨_, ⟨⟩, -⟩ := (gives_introspectRefreshToken present).mp gives

end Steps

/-! ## The result -/

/-- A request that is answered names an active client, whose secret verifies
when one is presented; without one it is open or redeems a challenge. -/
theorem answered_names {request : ClientRequest}
    (answered : Answered deployment world request) :
    ∃ data, request.request.data = .ok data ∧
      let credentials := extractClientCredentials deployment
        request.request.authorization data
      ∃ clientId client, credentials.1 = .text clientId ∧
        world.activeClient clientId = some client ∧
        (credentials.2.truthy = true →
          Verifies deployment client credentials.2) ∧
        (Open deployment world client data request ∨
          (∃ readings token, request = .token readings token) ∧
            RedeemsChallenge deployment world clientId data) := by
  cases request with
  | token readings request =>
      obtain ⟨db, connects, data, dataEq, clientId, client, named, active, verifies,
        gives⟩ := gives_postToken.mp answered
      have sameId : client.id = clientId := id_of_activeClient active
      rw [named, ← sameId] at gives
      refine ⟨data, dataEq, clientId, client, named, active, verifies, ?_⟩
      rcases open_or_redeems_of_grant gives with isOpen | redeems
      · exact .inl ⟨db, connects, isOpen⟩
      · exact .inr ⟨⟨readings, request, rfl⟩, sameId ▸ redeems⟩
  | introspect worker readings request =>
      obtain ⟨data, dataEq, clientId, client, named, active, verifies, isOpen⟩ :=
        gives_introspect.mp answered
      exact ⟨data, dataEq, clientId, client, named, active, verifies, .inl isOpen⟩

theorem answered_of_open {request : ClientRequest}
    {data : List (String × PyValue)} {clientId : String} {client : ClientRow}
    (dataEq : request.request.data = .ok data)
    (named : (extractClientCredentials deployment request.request.authorization
      data).1 = .text clientId)
    (active : world.activeClient clientId = some client)
    (noSecret : ¬ (extractClientCredentials deployment
      request.request.authorization data).2.truthy = true)
    (isOpen : Open deployment world client data request) :
    Answered deployment world request := by
  cases request with
  | token readings request =>
      obtain ⟨db, connects, isOpen⟩ := isOpen
      refine gives_postToken.mpr ⟨db, connects, data, dataEq, clientId, client,
        named, active, fun presented => absurd presented noSecret, ?_⟩
      have sameId : client.id = clientId := id_of_activeClient active
      have named : (extractClientCredentials deployment request.authorization
        data).1 = .text clientId := named
      rw [named, ← sameId]
      exact gives_grant_of_open isOpen
  | introspect worker readings request =>
      exact gives_introspect.mpr ⟨data, dataEq, clientId, client, named, active,
        fun presented => absurd presented noSecret, isOpen⟩

theorem not_redeems_of_open {readings : Readings} {request : TokenRequest}
    {data : List (String × PyValue)} {client : ClientRow}
    (isOpen : Open deployment world client data (.token readings request)) :
    ¬ RedeemsChallenge deployment world client.id data := by
  rintro ⟨grantType, code, redirectUri, row, codeEq, uriEq, selected, challenged,
    -⟩
  obtain ⟨db, -, isOpen⟩ := isOpen
  simp only [OpenGrant, isText_iff] at isOpen grantType
  rcases isOpen with ⟨-, isOpen⟩ | ⟨other, -⟩ | ⟨other, -⟩ | ⟨other, -⟩
  · obtain ⟨openCode, openEq, -, openUri, openUriEq, -, openRow, openSelected,
      unchallenged, -⟩ := isOpen
    cases codeEq.symm.trans openEq
    cases uriEq.symm.trans openUriEq
    cases selected.symm.trans openSelected
    rw [challenged] at unchallenged
    cases unchallenged
  all_goals
    rw [grantType] at other
    simp at other

/-- For every database and every request, an answer implies that the client is
authenticated exactly when the request presents a secret or is refused without
one. -/
theorem authenticated_iff_careful (deployment : Deployment) (world : World)
    (request : ClientRequest) :
    (Answered deployment world request →
      Authenticated deployment world request) ↔
        Careful deployment world request := by
  constructor
  · intro sound data clientId client dataEq named active isOpen
    by_contra unchecked
    rw [not_or] at unchecked
    obtain ⟨noSecret, unverified⟩ := unchecked
    obtain ⟨data', clientId', client', dataEq', named', active', authentic⟩ :=
      sound (answered_of_open dataEq named active noSecret isOpen)
    cases dataEq.symm.trans dataEq'
    cases named.symm.trans named'
    cases active.symm.trans active'
    rcases authentic with verifies | ⟨⟨readings, token, rfl⟩, redeems⟩
    · exact unverified verifies
    · rw [← id_of_activeClient active] at redeems
      exact not_redeems_of_open isOpen redeems
  · intro careful answered
    obtain ⟨data, dataEq, clientId, client, named, active, verifies, served⟩ :=
      answered_names answered
    refine ⟨data, clientId, client, dataEq, named, active, ?_⟩
    rcases served with isOpen | redeems
    · rcases careful data clientId client dataEq named active isOpen with
        presented | verified
      · exact .inl (verifies presented)
      · exact .inl verified
    · exact .inr redeems

/-! ## A grant without a secret -/

/-- A database with one active client. -/
def oneClient : World where
  clients :=
    .single ⟨"c", "t", "secret", "App", ["https://app/cb"], ["openid"], true⟩

/-- A `client_credentials` request that names the client and nothing else. -/
def secretless : ClientRequest :=
  .token ⟨fun _ => 0, fun _ => 0, fun _ => ""⟩ {
    contentType := "application/x-www-form-urlencoded"
    form := [("grant_type", .text "client_credentials"),
      ("client_id", .text "c")] }

/-- It is answered with an access token of the client. -/
theorem secretless_request_gets_token :
    ¬ (Answered (.plain []) oneClient secretless →
      Authenticated (.plain []) oneClient secretless) := by
  intro sound
  have answered : Answered (.plain []) oneClient secretless :=
    ⟨_, rfl, _, rfl⟩
  obtain ⟨data, clientId, client, dataEq, -, active, verifies | ⟨-, redeems⟩⟩ :=
    sound answered
  · cases dataEq
    cases verifies
  · cases dataEq
    exact absurd redeems.1 (by decide)

end ClientAuthentication

end HexIam
