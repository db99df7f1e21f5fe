import HexIam.TenantRows

/-!
# The tenants a token names

A token names a tenant in its claims, and through them a client and a user.
They come from different requests: the client from the one that asks for the
token, the user and the tenant from the session of an earlier consent.  This
file follows them through the stored codes and refresh tokens.  In the runs
whose approvals name a client of the session's tenant, the tenants of every
token agree.
-/

namespace HexIam

open StatementTree GuardedRun

namespace TenantCoherence

open ConsentBinding

/-! ## The property -/

/-- The tenants of an access token: its own claim, the one in its issuer, the
one of its client and, if it is for a user, the one of the user. -/
def CoherentAccess (deployment : Deployment) (world : World)
    (claims : Claims) : Prop :=
  ∃ tenantId clientId, claims.tenantId = some tenantId ∧
    claims.iss = some (tenantIssuer deployment tenantId) ∧
    claims.aud = some (.one clientId) ∧
    world.clientTenant clientId = some tenantId ∧
    ∀ userId, claims.userId = some userId →
      world.userTenant userId = some tenantId

/-- The tenants of an ID token: its own claim, the one of its client and the
one of its user. -/
def CoherentId (world : World) (claims : Claims) : Prop :=
  ∃ tenantId clientId userId, claims.tenantId = some tenantId ∧
    claims.aud = some (.one clientId) ∧ claims.sub = some userId ∧
    Belongs world clientId userId tenantId

/-- The tenants of a session token: its own claim and the one of its user. -/
def CoherentSession (world : World) (claims : Claims) : Prop :=
  ∃ tenantId userId, claims.tenantId = some tenantId ∧
    claims.userId = some userId ∧ world.userTenant userId = some tenantId

/-- The tokens in an answer of `token_endpoint` are coherent. -/
def CoherentTokens (deployment : Deployment) (world : World) :
    TokenResponse → Prop
  | .tokens data => CoherentAccess deployment world data.accessToken.payload ∧
      ∀ idToken, data.idToken = some idToken →
        CoherentId world idToken.payload
  | _ => True

/-- The session in an answer of the authorization endpoints is coherent. -/
def CoherentPage (world : World) : FlowResponse → Prop
  | .consentPage _ _ _ _ (some session) => CoherentSession world session.payload
  | _ => True
/-! ## Runs -/

/-- A request of the authorization flow, a request of `token_endpoint`, or the
passing of time. -/
inductive IssuingEvent : Type
  | flow (call : FlowCall)
  | token (readings : Readings) (request : TokenRequest)
  | wait (seconds : Nat)

/-- The world after an event. -/
def issuingStep (deployment : Deployment) (world : World) :
    IssuingEvent → Option World
  | .flow call => some (App.run deployment (call.program deployment) world).2
  | .token readings request =>
      some (App.run deployment (postToken deployment readings request) world).2
  | .wait seconds => some { world with now := world.now + seconds }

/-- What an event issues is coherent in the world after it. -/
def Coherent (deployment : Deployment) (world : World) : IssuingEvent → Prop
  | .flow call =>
      let outcome := App.run deployment (call.program deployment) world
      ∀ response, outcome.1 = .ok response → CoherentPage outcome.2 response
  | .token readings request =>
      let outcome :=
        App.run deployment (postToken deployment readings request) world
      ∀ response, outcome.1 = .ok response →
        CoherentTokens deployment outcome.2 response
  | .wait _ => True
/-! ## The condition -/

/-- An approval names a client of the tenant of its session, and the session
is of a user of that tenant. -/
def SameTenant (deployment : Deployment) (world : World) : IssuingEvent → Prop
  | .flow call => ∀ consent queryClientId session userId tenantId,
      call.request = .consent consent queryClientId → consent.action ≠ "deny" →
      getSessionUser deployment.tokens consent.session (call.readings.utcNow 0) =
        some session →
      session.userId = some userId → session.tenantId = some tenantId →
      OfTenant world consent.params.clientId userId tenantId
  | _ => True
/-! ## Programs -/

section Programs

variable {deployment : Deployment} {world : World} {db : Connection}
variable {readings : Readings}

/-- The dependency of a form that names a client leaves the world as it
is. -/
theorem keeps_getDatabasePool_of_form {tenantHeader queryClientId : Option String}
    {clientId : String} :
    Keeps deployment
      (getDatabasePool tenantHeader queryClientId (.text clientId)) world
      fun _ after => after = world := by
  have unmoved : (App.run deployment
      (getDatabasePool tenantHeader queryClientId (.text clientId)) world).2 =
        world := congrArg Prod.snd run_getDatabasePool
  refine ⟨?_, fun _ _ => unmoved⟩
  have moves : Evolves world (App.run deployment
      (getDatabasePool tenantHeader queryClientId (.text clientId)) world).2 := by
    rw [unmoved]
    exact refl_of Evolves world
  exact moves

theorem keeps_getDatabasePool {tenantHeader queryClientId : Option String}
    {formClientId : PyValue} :
    Keeps deployment (getDatabasePool tenantHeader queryClientId formClientId)
      world fun _ _ => True :=
  keeps_of_uses [.clients] (uses_getDatabasePool (by decide)) (by decide)
    (by decide) (by decide)

/-- The client that was presented, as its row holds it. -/
theorem keeps_validateClient {clientId clientSecret : PyValue} :
    Keeps deployment (validateClient deployment clientId clientSecret) world
      fun found after => ∀ client, found = some client →
        bindText clientId = .ok (some client.id) ∧
          after.clientTenant client.id = some client.tenantId := by
  unfold validateClient
  refine App.ensures_ofExcept_bind fun id bound => keeps_ask_bind trivial ?_
  rintro found _ ⟨⟩ rfl -
  cases activeEq : id.bind world.activeClient with
  | none => exact ensures_value nofun
  | some client =>
      obtain ⟨id, rfl, active⟩ := Option.bind_eq_some_iff.mp activeEq
      have found := (Option.filter_eq_some_iff.mp active).1
      have same : client.id = id := (KeyedTable.lookup_eq_some.mp found).2
      have here : bindText clientId = .ok (some client.id) ∧
          world.clientTenant client.id = some client.tenantId :=
        ⟨same ▸ bound,
          World.clientTenant_eq_some.mpr ⟨client, same ▸ found, rfl⟩⟩
      dsimp only
      split
      · refine App.ensures_ofExcept_bind fun verified _ => ensures_value ?_
        cases verified
        · exact nofun
        · rintro _ ⟨⟩
          exact here
      · refine ensures_value ?_
        rintro _ ⟨⟩
        exact here

theorem keeps_validateAuthorizationCode
    {code clientId redirectUri codeVerifier : PyValue}
    (rows : CoherentRows world) :
    Keeps deployment (validateAuthorizationCode deployment code clientId
        redirectUri codeVerifier) world
      fun found after => ∀ row, found = some row →
        bindText clientId = .ok (some row.clientId) ∧
          Belongs after row.clientId row.userId row.tenantId := by
  unfold validateAuthorizationCode
  refine App.ensures_ofExcept_bind fun boundCode _ =>
    App.ensures_ofExcept_bind fun boundClient bound =>
      App.ensures_ofExcept_bind fun boundUri _ => keeps_ask_bind trivial ?_
  rintro found _ ⟨⟩ rfl -
  cases selectedEq : (boundCode.bind world.codes.lookup).filter fun row =>
      some row.clientId = boundClient && some row.redirectUri = boundUri &&
        !row.used && world.now < row.expiresAt with
  | none => exact ensures_value nofun
  | some row =>
      obtain ⟨found, selected⟩ := Option.filter_eq_some_iff.mp selectedEq
      simp only [Bool.and_eq_true, decide_eq_true_eq] at selected
      obtain ⟨code, -, held⟩ := Option.bind_eq_some_iff.mp found
      have belongs := rows.codes row (KeyedTable.lookup_eq_some.mp held).1
      refine App.ensures_ofExcept_bind fun met _ => ?_
      cases met
      · exact ensures_value nofun
      · refine keeps_ask_bind trivial fun _ after _ _ evolves =>
          ensures_value ?_
        rintro _ ⟨⟩
        exact ⟨selected.1.1.1 ▸ bound, evolves.belongs belongs⟩

theorem keeps_validateRefreshToken {refreshToken clientId : PyValue}
    (rows : CoherentRows world) :
    Keeps deployment (validateRefreshToken refreshToken clientId) world
      fun found after => ∀ row, found = some row →
        bindText clientId = .ok (some row.clientId) ∧
          Belongs after row.clientId row.userId row.tenantId := by
  unfold validateRefreshToken
  refine App.ensures_ofExcept_bind fun jti _ => App.ensures_ofExcept_bind fun boundClient
    bound => ensures_ask (evolves_perform trivial) ?_
  rintro found ⟨⟩ row selectedEq
  obtain ⟨found, selected⟩ := Option.filter_eq_some_iff.mp selectedEq
  simp only [Bool.and_eq_true, decide_eq_true_eq] at selected
  obtain ⟨jti, -, held⟩ := Option.bind_eq_some_iff.mp found
  exact ⟨selected.1.1 ▸ bound,
    rows.refreshTokens row (KeyedTable.lookup_eq_some.mp held).1⟩

theorem keeps_revokeRefreshToken {refreshToken : PyValue} :
    Keeps deployment (revokeRefreshToken refreshToken) world
      fun _ _ => True :=
  App.ensures_ofExcept_bind fun _ _ =>
    ensures_ask (evolves_perform trivial) fun _ _ => trivial

theorem keeps_createRefreshToken {random userId tenantId clientId : String}
    {utcNow : Int} (belongs : Belongs world clientId userId tenantId) :
    Keeps deployment (createRefreshToken random utcNow userId tenantId clientId)
      world fun _ _ => True :=
  keeps_ask_bind belongs fun _ _ _ _ _ => ensures_value trivial

theorem keeps_fetchUserPolicies {userId tenantId : String} :
    Keeps deployment (fetchUserPolicies db userId tenantId) world
      fun _ _ => True :=
  keeps_of_uses [.policies] (uses_fetchUserPolicies (by decide)) (by decide)
    (by decide) (by decide)

/-! ### Local users of upstream identities -/

variable {provider : ProviderRow} {claims : UpstreamClaims}

/-- A user of the tenant. -/
def UserOf (tenantId : String) (user : UserRow) (world : World) : Prop :=
  world.userTenant user.id = some tenantId

theorem UserOf.evolves {tenantId : String} {user : UserRow}
    {before after : World} (evolves : Evolves before after)
    (ofTenant : UserOf tenantId user before) : UserOf tenantId user after :=
  evolves.users _ _ ofTenant

theorem keeps_userToLink {tenantId : String} :
    Keeps deployment (userToLink db tenantId provider claims) world
      fun found after => ∀ user, found = some user →
        UserOf tenantId user after := by
  unfold userToLink
  dsimp only
  split
  · refine App.ensures_ofExcept_bind fun email _ => keeps_ask_bind trivial ?_
    rintro found _ ⟨⟩ rfl -
    split
    · exact ensures_throw
    · refine ensures_value fun user firstEq => ?_
      have userMem := List.mem_of_mem_head? firstEq
      rw [KeyedTable.mem_select] at userMem
      obtain ⟨userMem, selected⟩ := userMem
      simp only [Bool.and_eq_true, decide_eq_true_eq] at selected
      exact selected.1.1 ▸ World.userTenant_of_mem userMem
  · exact ensures_value nofun

theorem keeps_provisionUser {tenantId : String}
    {externalSubject : Option String} :
    Keeps deployment (provisionUser deployment db readings tenantId provider
      claims externalSubject) world (UserOf tenantId) := by
  unfold provisionUser
  refine App.ensures_ofExcept_bind fun email _ =>
    App.ensures_ofExcept_bind fun row made => ?_
  refine keeps_ask_bind trivial fun _ after inserted afterEq evolves =>
    keeps_ask_bind trivial ?_
  rintro found _ ⟨⟩ rfl -
  have held : after.userTenant row.id = some tenantId := by
    rcases @perform_insert_user deployment world db row with
      ⟨-, insertEq⟩ | ⟨⟨error, failed⟩, -⟩
    · have stored : { row with lastModified := world.now } ∈ after.users := by
        rw [← afterEq]
        exact (KeyedTable.mem_of_insert insertEq).mpr (.inr rfl)
      have ofRow := World.userTenant_of_mem stored
      rwa [(provisionedUser_eq_ok made).2.1] at ofRow
    · cases failed.symm.trans inserted
  cases foundEq : (after.users.lookup row.id).filter fun user =>
      db.sees user.tenantId with
  | none => exact ensures_throw
  | some user =>
      have seen := (Option.filter_eq_some_iff.mp foundEq).1
      have idEq : user.id = row.id := (KeyedTable.lookup_eq_some.mp seen).2
      exact ensures_value (idEq ▸ held)

theorem keeps_linkOrProvision {tenantId : String}
    {externalSubject : Option String} :
    Keeps deployment (linkOrProvision deployment db readings tenantId provider
      claims externalSubject) world (UserOf tenantId) := by
  refine keeps_userToLink.bind fun found between _ ofTenant => ?_
  cases found with
  | none => exact keeps_provisionUser
  | some user => exact ensures_value (ofTenant user rfl)

/-- Whatever way the local user is found, it belongs to the tenant. -/
theorem keeps_findOrCreateLocalUser {tenantId : String}
    (rows : CoherentRows world) :
    Keeps deployment (findOrCreateLocalUser deployment db readings tenantId
      provider claims) world (UserOf tenantId) := by
  unfold findOrCreateLocalUser
  split
  · exact ensures_throw
  · refine App.ensures_ofExcept_bind fun subject _ => keeps_ask_bind trivial ?_
    rintro linked _ ⟨⟩ rfl -
    cases linkedEq : subject.bind fun subject =>
        (world.identities.lookup (tenantId, provider.id, subject)).bind
          fun row => (world.users.lookup row.userId).filter fun user =>
            db.sees user.tenantId with
    | some user =>
        obtain ⟨subject, -, linkedEq⟩ := Option.bind_eq_some_iff.mp linkedEq
        obtain ⟨row, found, linkedEq⟩ := Option.bind_eq_some_iff.mp linkedEq
        obtain ⟨rowMem, keyEq⟩ := KeyedTable.lookup_eq_some.mp found
        have seen := (Option.filter_eq_some_iff.mp linkedEq).1
        have idEq : user.id = row.userId := (KeyedTable.lookup_eq_some.mp seen).2
        have ofTenant : row.tenantId = tenantId := congrArg Prod.fst keyEq
        have held : UserOf tenantId user world := by
          rw [UserOf, idEq, rows.identities row rowMem, ofTenant]
        exact ensures_value held
    | none =>
        dsimp only
        split
        · exact ensures_throw
        · refine keeps_linkOrProvision.bind fun user between _ ofTenant =>
            App.ensures_ofExcept_bind fun email _ => keeps_ask_bind ofTenant ?_
          intro _ after _ _ evolves
          exact ensures_value (ofTenant.evolves evolves)

theorem keeps_resolveOrProvisionFederatedUser {tenantId : String}
    {subjectToken issuerHint : PyValue} {audience : Option String}
    (rows : CoherentRows world) :
    Keeps deployment (resolveOrProvisionFederatedUser deployment db readings
        tenantId subjectToken audience issuerHint) world
      fun resolved after => UserOf tenantId resolved.1 after := by
  unfold resolveOrProvisionFederatedUser
  have validated : Keeps deployment (validateBrokerSubjectToken deployment
      tenantId subjectToken audience issuerHint (readings.utcNow 0)) world
      fun _ _ => True :=
    keeps_of_uses [.providers, .upstream]
      (uses_validateBrokerSubjectToken (by decide) (by decide)) (by decide)
      (by decide) (by decide)
  refine validated.bind fun found between evolves _ => ?_
  rcases found with - | ⟨provider, claims⟩
  · exact ensures_throw
  · refine (keeps_findOrCreateLocalUser (evolves.rows rows)).bind
      fun user after _ ofTenant => ensures_value ofTenant

/-! ### Grants -/

section Minted

variable {payload : Claims} {timeNs : Nat} {token : SignedToken}
variable (minted : deployment.tokens.createJwtToken payload timeNs = .ok token)
include minted

theorem coherentAccess_of_minted
    (coherent : CoherentAccess deployment world payload) :
    CoherentAccess deployment world token.payload := by
  obtain ⟨_, -, payloadEq, -⟩ := TokenService.createJwtToken_eq_ok minted
  rw [payloadEq]
  exact coherent

theorem coherentSession_of_minted (coherent : CoherentSession world payload) :
    CoherentSession world token.payload := by
  obtain ⟨_, -, payloadEq, -⟩ := TokenService.createJwtToken_eq_ok minted
  rw [payloadEq]
  exact coherent

end Minted

section Payloads

variable {client : ClientRow} {user : UserRow} {tenantId : String}

theorem coherentAccess_accessPayload {utcNow : Int} {scope : Option String}
    {policy : List (String × Nat)}
    (belongs : Belongs world client.id user.id tenantId) :
    CoherentAccess deployment world (accessPayload deployment utcNow tenantId
      tenantId client.id user scope policy) := by
  refine ⟨tenantId, client.id, rfl, rfl, rfl, belongs.client, ?_⟩
  rintro _ ⟨⟩
  exact belongs.user

theorem coherentId_of_minted {wanted : Prop} [Decidable wanted] {utcNow : Int}
    {timeNs : Nat} {nonce : Option String} {idToken : Option SignedToken}
    (belongs : Belongs world client.id user.id tenantId)
    (minted : (if wanted then
        (createIdToken deployment utcNow timeNs user.id user.email tenantId
          client.id nonce (some user.firstName) (some user.lastName)
          user.role).map some
      else .ok none) = .ok idToken) :
    ∀ token, idToken = some token → CoherentId world token.payload := by
  rintro token rfl
  split at minted
  · cases createdEq : createIdToken deployment utcNow timeNs user.id user.email
        tenantId client.id nonce (some user.firstName) (some user.lastName)
        user.role with
    | error error =>
        rw [createdEq] at minted
        cases minted
    | ok created =>
        rw [createdEq] at minted
        cases minted
        obtain ⟨_, -, payloadEq, -⟩ :=
          TokenService.createJwtToken_eq_ok createdEq
        rw [payloadEq]
        exact ⟨tenantId, client.id, user.id, rfl, rfl, rfl, belongs⟩
  · cases minted

end Payloads

theorem belongs_of_row {client : ClientRow} {user : UserRow}
    {clientId : PyValue} {rowClient rowUser rowTenant : String}
    (owned : world.clientTenant client.id = some client.tenantId)
    (bound : bindText clientId = .ok (some client.id))
    (presented : bindText clientId = .ok (some rowClient))
    (belongs : Belongs world rowClient rowUser rowTenant)
    (same : user.id = rowUser) :
    rowTenant = client.tenantId ∧ Belongs world client.id user.id rowTenant := by
  cases bound.symm.trans presented
  have tenantEq := belongs.client.symm.trans owned
  exact ⟨Option.some.inj tenantEq, belongs.client, same ▸ belongs.user⟩

theorem id_of_seen {id : String} {user : UserRow}
    (seen : (world.users.lookup id).filter (fun user => db.sees user.tenantId) =
      some user) : user.id = id :=
  (KeyedTable.lookup_eq_some.mp (Option.filter_eq_some_iff.mp seen).1).2

theorem coherentTokens_of_access {data : TokenData}
    (noIdToken : data.idToken = none)
    (coherent : CoherentAccess deployment world data.accessToken.payload) :
    CoherentTokens deployment world (.tokens data) :=
  ⟨coherent, by simp [noIdToken]⟩

section Grants

variable {client : ClientRow} {clientId : PyValue}
variable {data : List (String × PyValue)}

theorem keeps_authorizationCodeGrant (rows : CoherentRows world)
    (owned : world.clientTenant client.id = some client.tenantId)
    (bound : bindText clientId = .ok (some client.id)) :
    Keeps deployment (authorizationCodeGrant deployment db readings client
        clientId data) world
      fun response after => CoherentTokens deployment after response := by
  unfold authorizationCodeGrant
  dsimp only
  split
  · exact ensures_value trivial
  · refine (keeps_validateAuthorizationCode rows).bind
      fun found redeemed toRedeemed holds => ?_
    cases found with
    | none => exact ensures_value trivial
    | some authCode =>
        obtain ⟨presented, belongs⟩ := holds authCode rfl
        refine keeps_ask_bind trivial ?_
        rintro seen _ ⟨⟩ rfl -
        cases seenEq : (redeemed.users.lookup authCode.userId).filter
            fun user => db.sees user.tenantId with
        | none => exact ensures_value trivial
        | some user =>
            have ownedThen := toRedeemed.clientTenant.trans owned
            obtain ⟨tenantEq, belongs⟩ := belongs_of_row ownedThen bound
              presented belongs (id_of_seen seenEq)
            refine keeps_fetchUserPolicies.bind fun policies _ toPolicies _ =>
              App.ensures_ofExcept_bind fun accessToken minted => ?_
            have belongs := toPolicies.belongs belongs
            refine (keeps_createRefreshToken belongs).bind
              fun refreshToken _ toStored _ =>
                App.ensures_ofExcept_bind fun idToken identified => ?_
            have belongs := toStored.belongs belongs
            refine ensures_value ⟨?_, coherentId_of_minted belongs identified⟩
            rw [← tenantEq] at minted
            exact coherentAccess_of_minted minted
              (coherentAccess_accessPayload belongs)

theorem keeps_refreshTokenGrant (rows : CoherentRows world)
    (owned : world.clientTenant client.id = some client.tenantId)
    (bound : bindText clientId = .ok (some client.id)) :
    Keeps deployment (refreshTokenGrant deployment db readings client clientId
        data) world
      fun response after => CoherentTokens deployment after response := by
  unfold refreshTokenGrant
  dsimp only
  split
  · exact ensures_value trivial
  · refine (keeps_validateRefreshToken rows).bind
      fun found validated toValidated holds => ?_
    cases found with
    | none => exact ensures_value trivial
    | some tokenData =>
        obtain ⟨presented, belongs⟩ := holds tokenData rfl
        refine keeps_ask_bind trivial ?_
        rintro seen _ ⟨⟩ rfl -
        cases seenEq : (validated.users.lookup tokenData.userId).filter
            fun user => db.sees user.tenantId with
        | none => exact ensures_value trivial
        | some user =>
            have ownedThen := toValidated.clientTenant.trans owned
            obtain ⟨tenantEq, belongs⟩ := belongs_of_row ownedThen bound
              presented belongs (id_of_seen seenEq)
            refine keeps_revokeRefreshToken.bind fun _ _ toRevoked _ =>
              keeps_fetchUserPolicies.bind fun policies _ toPolicies _ =>
                App.ensures_ofExcept_bind fun accessToken minted => ?_
            have belongs := toPolicies.belongs (toRevoked.belongs belongs)
            refine (keeps_createRefreshToken belongs).bind
              fun refreshToken _ toStored _ => ensures_value ?_
            rw [← tenantEq] at minted
            exact coherentTokens_of_access rfl (coherentAccess_of_minted minted
              (coherentAccess_accessPayload (toStored.belongs belongs)))

theorem keeps_clientCredentialsGrant
    (owned : world.clientTenant client.id = some client.tenantId) :
    Keeps deployment (clientCredentialsGrant deployment readings client) world
      fun response after => CoherentTokens deployment after response := by
  refine App.ensures_ofExcept_bind fun accessToken minted =>
    ensures_value (coherentTokens_of_access rfl
      (coherentAccess_of_minted minted ?_))
  refine ⟨client.tenantId, client.id, rfl, rfl, rfl, owned, ?_⟩
  rintro userId ⟨⟩

/-- The user of an exchanged token belongs to the tenant of the client. -/
theorem keeps_tokenExchangeGrant (rows : CoherentRows world)
    (owned : world.clientTenant client.id = some client.tenantId) :
    Keeps deployment (tokenExchangeGrant deployment db readings client data)
      world fun response after => CoherentTokens deployment after response := by
  unfold tokenExchangeGrant
  dsimp only
  split
  · exact ensures_value trivial
  · split
    · exact ensures_value trivial
    · have resolves : Keeps deployment (tryCatch
          (do
            let resolved ← resolveOrProvisionFederatedUser deployment db readings
              client.tenantId (PyValue.get data "subject_token") (some client.id)
              (PyValue.get data "issuer_hint")
            return Except.ok resolved)
          fun cause => return Except.error cause) world
          fun resolved after => ∀ found, resolved = .ok found →
            UserOf client.tenantId found.1 after := by
        refine Ensures.tryCatch ?_ fun error _ _ =>
          ensures_value (by rintro _ ⟨⟩)
        refine (keeps_resolveOrProvisionFederatedUser rows).bind
          fun resolved _ _ ofTenant => ensures_value ?_
        rintro _ ⟨⟩
        exact ofTenant
      refine resolves.bind fun resolved between toResolved ofTenant => ?_
      rcases resolved with cause | ⟨user, provider, claims⟩ <;> dsimp only
      · exact ensures_value trivial
      · have belongs : Belongs between client.id user.id client.tenantId :=
          ⟨toResolved.clientTenant.trans owned, ofTenant _ rfl⟩
        refine keeps_fetchUserPolicies.bind fun policies _ toPolicies _ =>
          App.ensures_ofExcept_bind fun accessToken minted => ?_
        have belongs := toPolicies.belongs belongs
        refine (keeps_createRefreshToken belongs).bind
          fun refreshToken _ toStored _ => ?_
        have belongs := toStored.belongs belongs
        split
        · exact ensures_throw
        · refine App.ensures_ofExcept_bind fun idToken identified =>
            ensures_value ⟨?_, coherentId_of_minted belongs identified⟩
          refine coherentAccess_of_minted minted
            ⟨client.tenantId, client.id, rfl, rfl, rfl, belongs.client, ?_⟩
          rintro _ ⟨⟩
          exact belongs.user

theorem keeps_postToken {request : TokenRequest} (rows : CoherentRows world) :
    Keeps deployment (postToken deployment readings request) world
      fun response after => CoherentTokens deployment after response := by
  refine keeps_getDatabasePool.bind fun db pooled toPooled _ =>
    App.ensures_ofExcept_bind fun data _ => ?_
  refine keeps_validateClient.bind fun found between toValidated holds => ?_
  have rows := toValidated.rows (toPooled.rows rows)
  cases found with
  | none => exact ensures_value trivial
  | some client =>
      obtain ⟨bound, owned⟩ := holds client rfl
      unfold grant
      dsimp only
      split
      · exact keeps_authorizationCodeGrant rows owned bound
      · split
        · exact keeps_refreshTokenGrant rows owned bound
        · split
          · exact keeps_clientCredentialsGrant owned
          · split
            · exact keeps_tokenExchangeGrant rows owned
            · exact ensures_value trivial

end Grants

/-! ### The authorization flow -/

theorem coherentSession_sessionPayload {utcNow : Int} {user : UserRow}
    {tenantId clientId : String} (ofTenant : UserOf tenantId user world) :
    CoherentSession world
      (buildSessionPayload deployment utcNow user tenantId clientId) :=
  ⟨tenantId, user.id, rfl, rfl, ofTenant⟩

theorem keeps_loginSubmit {request : LoginRequest} :
    Keeps deployment (loginSubmit deployment db readings request) world
      fun response after => CoherentPage after response := by
  unfold loginSubmit
  refine keeps_validateClient.bind fun found between _ _ => ?_
  cases found with
  | none => exact ensures_value trivial
  | some client =>
      refine keeps_ask_bind trivial ?_
      rintro seen _ ⟨⟩ rfl -
      cases seenEq : (between.users.select fun user =>
          user.email = request.email && user.tenantId = client.tenantId &&
            db.sees user.tenantId).head? with
      | none => exact ensures_value trivial
      | some user =>
          obtain ⟨userMem, selected⟩ :=
            KeyedTable.mem_select.mp (List.mem_of_mem_head? seenEq)
          simp only [Bool.and_eq_true, decide_eq_true_eq] at selected
          have ofTenant : UserOf client.tenantId user between :=
            selected.1.2 ▸ World.userTenant_of_mem userMem
          refine App.ensures_ofExcept_bind fun verified _ => ?_
          split
          · exact ensures_value trivial
          · split
            · exact ensures_value trivial
            · split
              · exact ensures_value trivial
              · refine App.ensures_ofExcept_bind fun session minted =>
                  ensures_value ?_
                exact coherentSession_of_minted minted
                  (coherentSession_sessionPayload ofTenant)

theorem keeps_resolveOrProvisionFromProviderTokens {tenantId : String}
    {tokens : UpstreamTokens} (rows : CoherentRows world) :
    Keeps deployment (resolveOrProvisionFromProviderTokens deployment db readings
        tenantId provider tokens) world
      fun resolved after => UserOf tenantId resolved.1 after := by
  have asked : Keeps deployment (providerClaims deployment provider tokens
      (readings.utcNow 0)) world fun _ _ => True :=
    keeps_of_uses [.upstream] (uses_providerClaims (by decide)) (by decide)
      (by decide) (by decide)
  refine asked.bind fun claims between evolves _ => ?_
  refine (keeps_findOrCreateLocalUser (evolves.rows rows)).bind
    fun user after _ ofTenant => ensures_value ofTenant

/-- The user of a sign-in is of the tenant; a failed one is no user. -/
theorem keeps_signIn {tenantId code callbackUri : String} (rows : CoherentRows world) :
    Keeps deployment (tryCatch
      (do
        let tokens ← exchangeCodeForProviderTokens deployment provider code callbackUri
        let (user, _) ← resolveOrProvisionFromProviderTokens deployment db readings
          tenantId provider tokens
        return some user)
      fun _ => return none) world
      fun resolved after => ∀ user, resolved = some user →
        UserOf tenantId user after := by
  refine Ensures.tryCatch ?_ fun error _ _ => ensures_value (by rintro _ ⟨⟩)
  have exchanged : Keeps deployment (exchangeCodeForProviderTokens deployment provider
      code callbackUri) world fun _ _ => True :=
    keeps_of_uses [.upstream] (uses_exchangeCodeForProviderTokens (by decide))
      (by decide) (by decide) (by decide)
  refine exchanged.bind fun tokens _ toTokens _ => ?_
  refine (keeps_resolveOrProvisionFromProviderTokens (toTokens.rows rows)).bind
    fun resolved _ _ ofTenant => ensures_value ?_
  rintro _ ⟨⟩
  exact ofTenant

theorem keeps_federationCallback {request : CallbackRequest}
    (rows : CoherentRows world) :
    Keeps deployment (federationCallback deployment readings request) world
      fun response after => CoherentPage after response := by
  unfold federationCallback
  split
  · exact ensures_value trivial
  split
  · exact ensures_value trivial
  refine keeps_ask_bind trivial fun found between _ _ toFound => ?_
  cases found with
  | none => exact ensures_value trivial
  | some txn =>
      refine keeps_ask_bind trivial fun listed between _ _ toListed => ?_
      cases listed.filter ProviderRow.enabled with
      | none => exact ensures_value trivial
      | some provider =>
          have rows := toListed.rows (toFound.rows rows)
          refine (keeps_signIn rows).bind fun resolved after _ ofTenant => ?_
          cases resolved with
          | none => exact ensures_value trivial
          | some user =>
              refine keeps_ask_bind trivial fun _ consumed _ _ toConsumed =>
                keeps_validateClient.bind fun client final toFinal _ => ?_
              cases client with
              | none => exact ensures_value trivial
              | some client =>
                  have ofTenant := (ofTenant user rfl).evolves
                    (trans_of Evolves toConsumed toFinal)
                  refine App.ensures_ofExcept_bind fun session minted =>
                    ensures_value ?_
                  exact coherentSession_of_minted minted
                    (coherentSession_sessionPayload ofTenant)

theorem keeps_beginFederatedAuthorization {tenantId : String}
    {params : AuthorizationParams} :
    Keeps deployment (beginFederatedAuthorization deployment readings provider
        tenantId params) world
      fun response after => CoherentPage after response := by
  refine (?stored : Keeps deployment _ world fun _ _ => True).bind
    fun _ between _ _ => ?_
  case stored =>
    exact keeps_ask_bind trivial fun _ _ _ _ _ =>
      ensures_ask (evolves_perform trivial) fun _ _ => trivial
  have built : Keeps deployment (buildProviderAuthorizeUrl deployment provider
      (providerCallbackUri deployment provider.id) (readings.secret 0)
      (some (readings.secret 1))) between fun _ _ => True := by
    refine keeps_of_uses [.upstream] ?_ (by decide) (by decide) (by decide)
    exact (uses_resolveEndpoint (by decide)).bind fun _ => within_done
  exact built.bind fun _ _ _ _ => ensures_value trivial

theorem keeps_chooseLogin {request : AuthorizeRequest} {client : ClientRow} :
    Keeps deployment (chooseLogin deployment readings request client) world
      fun response after => CoherentPage after response := by
  unfold chooseLogin
  dsimp only
  split
  · exact ensures_value trivial
  · refine keeps_ask_bind trivial fun providers _ _ _ _ => ?_
    split
    · split
      · exact ensures_value trivial
      · exact keeps_beginFederatedAuthorization
    · split
      · exact ensures_value trivial
      · exact keeps_beginFederatedAuthorization
      · exact ensures_value trivial

/-- `authorize` hands out no session. -/
theorem keeps_authorize {request : AuthorizeRequest} :
    Keeps deployment (authorize deployment readings request) world
      fun response after => CoherentPage after response := by
  unfold authorize
  refine keeps_validateClient.bind fun found between _ _ => ?_
  cases found with
  | none =>
      dsimp only
      split <;> exact ensures_value trivial
  | some client =>
      have checked : Keeps deployment (validateRedirectUri
          request.params.clientId request.params.redirectUri) between
          fun _ _ => True :=
        keeps_of_uses [.clients] (uses_validateRedirectUri (by decide))
          (by decide) (by decide) (by decide)
      refine checked.bind fun registered _ _ _ => ?_
      split
      · split <;> exact ensures_value trivial
      · split
        · split <;> exact ensures_value trivial
        · split
          · exact keeps_ask_bind trivial fun _ _ _ _ _ => ensures_value trivial
          · exact keeps_chooseLogin

/-- Consent stores a code of the tenant of its session when the form names a
client of that tenant. -/
theorem keeps_consentSubmit {request : ConsentRequest}
    (sameTenant : ∀ session userId tenantId, request.action ≠ "deny" →
      getSessionUser deployment.tokens request.session (readings.utcNow 0) =
        some session →
      session.userId = some userId → session.tenantId = some tenantId →
      OfTenant world request.params.clientId userId tenantId) :
    Keeps deployment (consentSubmit deployment readings request) world
      fun response after => CoherentPage after response := by
  unfold consentSubmit
  dsimp only
  cases sessionEq : getSessionUser deployment.tokens request.session
      (readings.utcNow 0) with
  | none => exact ensures_value trivial
  | some session =>
      dsimp only
      split
      · exact ensures_value trivial
      · rename_i approved
        cases userEq : session.userId with
        | none => exact ensures_throw
        | some userId =>
            cases tenantEq : session.tenantId with
            | none => exact ensures_throw
            | some tenantId =>
                have fitting := sameTenant session userId tenantId approved
                  sessionEq userEq tenantEq
                exact keeps_ask_bind fitting fun _ _ _ _ _ =>
                  ensures_value trivial

/-- A request of the flow keeps the stored rows coherent when its approval
names a client of its session's tenant. -/
theorem keeps_flow {call : FlowCall} (rows : CoherentRows world)
    (sameTenant : SameTenant deployment world (.flow call)) :
    Keeps deployment (call.program deployment) world
      fun response after => CoherentPage after response := by
  unfold FlowCall.program
  cases requestEq : call.request with
  | authorize request formClientId =>
      exact keeps_getDatabasePool.bind fun _ _ _ _ => keeps_authorize
  | login request queryClientId =>
      exact keeps_getDatabasePool.bind fun _ _ _ _ => keeps_loginSubmit
  | callback request => exact keeps_federationCallback rows
  | consent request queryClientId =>
      dsimp only
      refine keeps_getDatabasePool_of_form.bind fun db after _ unmoved =>
        keeps_consentSubmit ?_
      rw [unmoved]
      intro session userId tenantId approved signedIn
      exact sameTenant request queryClientId session userId tenantId requestEq
        approved signedIn

end Programs

/-! ## The result -/

section Run

variable {deployment : Deployment} {world : World} {event : IssuingEvent}

theorem coherentRows_step {next : World} (rows : CoherentRows world)
    (sameTenant : SameTenant deployment world event)
    (stepEq : issuingStep deployment world event = some next) :
    CoherentRows next := by
  cases event with
  | flow call =>
      cases stepEq
      exact (keeps_flow rows sameTenant).1.rows rows
  | token readings request =>
      cases stepEq
      exact (keeps_postToken rows).1.rows rows
  | wait seconds =>
      cases stepEq
      constructor
      · exact fun row rowMem =>
          ⟨(rows.codes row rowMem).client, (rows.codes row rowMem).user⟩
      · exact fun row rowMem => ⟨(rows.refreshTokens row rowMem).client,
          (rows.refreshTokens row rowMem).user⟩
      · exact rows.identities

theorem coherent_event (rows : CoherentRows world)
    (sameTenant : SameTenant deployment world event) :
    Coherent deployment world event := by
  cases event with
  | flow call => exact (keeps_flow rows sameTenant).2
  | token readings request => exact (keeps_postToken rows).2
  | wait seconds => trivial

end Run

/-- In a run whose approvals name a client of their session's tenant, every
token issued is of one tenant. -/
theorem coherent_of_run (deployment : Deployment) (world : World)
    (events : List IssuingEvent) (rows : CoherentRows world)
    (sameTenant : Along (issuingStep deployment) (SameTenant deployment) world
      events) :
    Along (issuingStep deployment) (Coherent deployment) world events :=
  along_of_invariant (fun _ _ _ => coherentRows_step)
    (fun _ _ => coherent_event) rows sameTenant

/-! ## A client of another tenant -/

/-- Two tenants with a client each, and a user of the first. -/
def twoTenants : World where
  tenants := ⟨[{ id := "a" }, { id := "b" }], by decide⟩
  users := .single ⟨"u", "a", "u@a", "password", "U", "A", none, true, true, 0⟩
  clients := ⟨[
    ⟨"ca", "a", "secret", "App A", ["https://a/cb"], ["openid"], true⟩,
    ⟨"cb", "b", "secret", "App B", ["https://b/cb"], ["openid"], true⟩], by decide⟩

/-- The user's browser holds a session. -/
def session : Deployment :=
  .plain [("j.u-1", {
    sub := some "u@a"
    userId := some "u"
    tenantId := some "a"
    exp := some 3600 })]

/-- What the requests read. -/
def readings : Readings :=
  ⟨fun _ => 0, fun _ => 0, fun _ => "code"⟩

/-- The user approves a client. -/
def approval (clientId redirectUri : String) : IssuingEvent :=
  .flow {
    readings := readings
    request := .consent {
      session := { cookie := some "j.u-1" }
      action := "approve"
      params := { clientId := clientId, redirectUri := redirectUri } } none }

/-- The client redeems the code in the tenant of the user. -/
def redemption (clientId redirectUri : String) : IssuingEvent :=
  .token readings {
    tenantHeader := some "a"
    contentType := "application/x-www-form-urlencoded"
    form := [
      ("grant_type", .text "authorization_code"),
      ("client_id", .text clientId),
      ("code", .text "code"),
      ("redirect_uri", .text redirectUri)] }

/-- A client of the tenant gets coherent tokens. -/
theorem own_client_coherent :
    Along (issuingStep session) (Coherent session) twoTenants
      [approval "ca" "https://a/cb", redemption "ca" "https://a/cb"] := by
  refine coherent_of_run session twoTenants _ ?_ ?_
  · constructor <;> exact fun _ rowMem => absurd rowMem KeyedTable.not_mem_empty
  · refine ⟨?_, fun _ _ => ⟨trivial, fun _ _ => trivial⟩⟩
    rintro consent queryClientId claims userId tenantId ⟨⟩ - ⟨⟩ ⟨⟩ ⟨⟩
    constructor
    · rintro client ⟨⟩
      rfl
    · rintro user ⟨⟩
      rfl

/-- A client of the second tenant gets an access token that names the first,
with an issuer of the second. -/
theorem other_client_mixes_tenants :
    ¬ Along (issuingStep session) (Coherent session) twoTenants
      [approval "cb" "https://b/cb", redemption "cb" "https://b/cb"] := by
  rintro ⟨-, redeemed⟩
  obtain ⟨tokens, -⟩ := redeemed _ rfl
  obtain ⟨⟨tenantId, clientId, tenantEq, -, audienceEq, owned, -⟩, -⟩ :=
    tokens _ rfl
  cases tenantEq
  cases audienceEq
  have owner : some "b" = some "a" := owned
  simp at owner

end TenantCoherence

end HexIam
