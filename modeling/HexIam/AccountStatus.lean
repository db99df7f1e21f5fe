import HexIam.ClientAuthentication
import HexIam.FederatedSignIn
import HexIam.LoginAgreement
import HexIam.LogoutCoverage
import HexIam.Management

/-!
# Disabled principals

A user has an `is_active` and an `email_verified` column and a tenant an
`is_active` column.  Of the paths that issue tokens only `login_submit` reads
the columns of the user, and none reads that of the tenant.  No disabled
principal gets a token in the runs whose requests name enabled ones.
-/

namespace HexIam

open StatementTree GuardedRun

namespace AccountStatus

open ClientAuthentication (Connects gives_getDatabasePool)
open ConsentBinding (FlowCall FlowRequest)
open FederatedSignIn
open LogoutCoverage

/-! ## Runs -/

/-- The ids of the users for whom a request issues tokens. -/
def recipients (deployment : Deployment) : IssueRequest → App (List String)
  | .authenticate db readings ip email tenantId password deviceInfo => do
      let token ← HexIam.authenticate deployment db readings ip email tenantId
        password deviceInfo
      return token.payload.userId.toList
  | .refresh worker db readings request => do
      let tokens ← HexIam.refresh deployment worker db readings request
      return tokens.accessToken.payload.userId.toList ++
        tokens.refreshToken.payload.userId.toList
  | .flow call => do
      let response ← call.program deployment
      return (sessionsOf response).filterMap Claims.userId
  | .token readings request => do
      let response ← postToken deployment readings request
      match response with
      | .tokens data =>
          return data.accessToken.payload.userId.toList ++
            (data.idToken.bind fun token => token.payload.sub).toList
      | _ => return []

/-- A request, a change of the status of a user or a tenant, or the passing of
time. -/
inductive AccountEvent : Type
  | request (request : IssueRequest)
  | setUserActive (userId : String) (active : Bool)
  | setTenantActive (db : Connection) (tenantId : String) (active : Bool)
  | wait (seconds : Nat)

/-- `SET is_active = ..`. -/
def setActive (active : Bool) (row : UserRow) : UserRow :=
  { row with isActive := active }

theorem setActive_id (active : Bool) (row : UserRow) :
    (setActive active row).id = row.id :=
  rfl

/-- The world after an event. -/
def accountStep (deployment : Deployment) (world : World) :
    AccountEvent → Option World
  | .request request =>
      some (App.run deployment (recipients deployment request) world).2
  | .setUserActive userId active => some { world with
      users := world.users.update (fun row => row.id = userId)
        (setActive active) (setActive_id active) }
  | .setTenantActive db tenantId active =>
      some (ManagementApp.run deployment (setTenantActive db tenantId active)
        world).2
  | .wait seconds => some { world with now := world.now + seconds }

/-! ## The property -/

/-- The tenant is not deactivated. -/
def TenantEnabled (world : World) (tenantId : String) : Prop :=
  ∀ tenant, world.tenants.lookup tenantId = some tenant → tenant.isActive = true

/-- Neither the user nor its tenant is deactivated. -/
structure Enabled (world : World) (user : UserRow) : Prop where
  active : user.isActive = true
  tenant : TenantEnabled world user.tenantId

/-- A request of a password path. -/
def ByPassword : IssueRequest → Prop
  | .authenticate .. => True
  | .flow call => ∃ request clientId, call.request = .login request clientId
  | _ => False

/-- The users for whom a request issues tokens are enabled, and those of a
password path have a verified email. -/
def OnlyEnabled (deployment : Deployment) (world : World) :
    AccountEvent → Prop
  | .request request => ∀ ids after,
      App.run deployment (recipients deployment request) world =
          (.ok ids, after) →
        ∀ id ∈ ids, ∀ user, after.users.lookup id = some user →
          Enabled after user ∧ (ByPassword request → user.emailVerified = true)
  | _ => True

/-! ## The condition -/

/-- The user that a sign-in with these claims resolves to is enabled, and the
tenant in which it may make a new one. -/
structure SignInEnabled (world : World) (db : Connection) (tenantId : String)
    (provider : ProviderRow) (claims : UpstreamClaims) : Prop where
  tenant : TenantEnabled world tenantId
  linked : ∀ subject user, Subject claims subject →
    linkedUser world db tenantId provider.id subject = some user →
      Enabled world user
  withEmail : ∀ subject email user, Subject claims subject →
    linkedUser world db tenantId provider.id subject = none →
    Email claims email → userWithEmail world db tenantId email = some user →
      Enabled world user

/-- The principals of a request to `token_endpoint` are enabled. -/
structure GrantEnabled (deployment : Deployment) (world : World)
    (readings : Readings) (request : TokenRequest)
    (data : List (String × PyValue)) : Prop where
  code : ∀ code row user,
    (PyValue.get data "grant_type").isText "authorization_code" = true →
    PyValue.get data "code" = .text code →
    world.codes.lookup code = some row → row.used = false →
    world.users.lookup row.userId = some user → Enabled world user
  refreshToken : ∀ jti row user,
    (PyValue.get data "grant_type").isText "refresh_token" = true →
    PyValue.get data "refresh_token" = .text jti →
    world.refreshTokens.lookup jti = some row → row.revoked = false →
    world.users.lookup row.userId = some user → Enabled world user
  exchange : ∀ db id client provider claims between, Connects world request db →
    (PyValue.get data "grant_type").isText
      "urn:ietf:params:oauth:grant-type:token-exchange" = true →
    (extractClientCredentials deployment request.authorization data).1 =
      .text id →
    world.activeClient id = some client →
    Presents deployment client.tenantId (PyValue.get data "subject_token")
      (some client.id) (PyValue.get data "issuer_hint") (readings.utcNow 0)
      provider claims world between →
    SignInEnabled world db client.tenantId provider claims

/-- The principals a request names are enabled. -/
def NamesEnabled (deployment : Deployment) (world : World) :
    AccountEvent → Prop
  | .request (.authenticate db _ _ email _ password _) =>
      ∀ normalized user, deployment.normalizeEmail email = some normalized →
        (world.usersWithEmail db normalized).head? = some user →
        deployment.verifyPassword password user.password = .ok true →
          Enabled world user ∧ user.emailVerified = true
  | .request (.refresh _ db readings request) =>
      ∀ token decoded normalized iat, request.token = .ok token →
        deployment.tokens.decodeJwtToken token (readings.utcNow 0) true =
          .ok decoded →
        refreshSubject deployment decoded = .ok (normalized, iat) →
          (∀ user, (world.usersWithEmail db normalized).head? = some user →
            Enabled world user) ∧
          ∀ userId user, decoded.userId = some userId →
            world.users.lookup userId = some user → Enabled world user
  | .request (.flow call) =>
      match call.request with
      | .login request _ =>
          ∀ client, world.activeClient request.params.clientId = some client →
            TenantEnabled world client.tenantId
      | .callback request =>
          ∀ txn provider claims between,
            transactionFor world request.providerId (request.state.getD "") =
              some txn →
            providerFor world txn.tenantId request.providerId = some provider →
            Asserts deployment call.readings provider (request.code.getD "")
              (providerCallbackUri deployment request.providerId) claims world
              between →
            SignInEnabled world .owner txn.tenantId provider claims
      | _ => True
  | .request (.token readings request) =>
      ∀ data, request.data = .ok data →
        GrantEnabled deployment world readings request data
  | _ => True

/-! ## What a request leaves -/

section Frame

variable {deployment : Deployment} {world after : World} {user : UserRow}

/-- No request deletes or changes a user. -/
theorem users_grow {α : Type} (program : App α) (userMem : user ∈ world.users) :
    user ∈ (App.run deployment program world).2.users := by
  have keeps (stmt : Stmt) (before : World) (held : user ∈ before.users) :
      user ∈ (perform deployment stmt before).2.users := by
    by_cases table : stmt.table = .users
    case neg => rwa [users_perform deployment table]
    case pos =>
      cases stmt with
      | user db stmt =>
          cases stmt with
          | insert row =>
              rcases @TenantCoherence.perform_insert_user deployment before db
                row with ⟨-, inserted⟩ | ⟨-, unchanged⟩
              · exact (KeyedTable.mem_of_insert inserted).mpr (.inl held)
              · rw [← unchanged] at held
                exact held
          | _ => exact held
      | _ => cases table
  exact StatementTree.run_preserves _ keeps program userMem

theorem tenants_run {α : Type} (program : App α) :
    (App.run deployment program world).2.tenants = world.tenants :=
  frame_of_all World.tenants fun _ _ => (managed_perform deployment).1

theorem TenantEnabled.run {α : Type} {tenantId : String} (program : App α)
    (enabled : TenantEnabled world tenantId) :
    TenantEnabled (App.run deployment program world).2 tenantId := by
  rwa [TenantEnabled, tenants_run]

theorem Enabled.run {α : Type} {program : App α} {ids : α}
    (ran : App.run deployment program world = (.ok ids, after))
    (userMem : user ∈ world.users) (enabled : Enabled world user) {other : UserRow}
    (found : after.users.lookup user.id = some other) :
    other = user ∧ Enabled after other := by
  have afterEq : (App.run deployment program world).2 = after := by rw [ran]
  obtain ⟨otherMem, same⟩ := KeyedTable.lookup_eq_some.mp found
  have stays : user ∈ after.users := afterEq ▸ users_grow program userMem
  have otherEq := KeyedTable.eq_of_key_eq otherMem stays same
  exact ⟨otherEq, otherEq ▸ enabled.active,
    otherEq ▸ afterEq ▸ enabled.tenant.run program⟩

end Frame

/-! ## Login and refresh -/

section Logins

variable {deployment : Deployment} {world after : World} {db : Connection}
variable {readings : Readings}

theorem head_joinAll {users : List UserRow}
    {rows : List (UserRow × Option PolicyDoc)}
    (joined : world.joinAll deployment db users = .ok rows) :
    rows.head?.map Prod.fst = users.head? := by
  cases users with
  | nil =>
      cases joined
      rfl
  | cons user rest =>
      obtain ⟨first, firstEq, joined⟩ := except_bind_eq_ok.mp joined
      obtain ⟨others, -, joined⟩ := except_bind_eq_ok.mp joined
      cases joined
      rw [LoginAgreement.joinPolicies_eq] at firstEq
      cases fetched : validPolicies deployment world.now
          (world.policiesOf db user.id) with
      | error error =>
          rw [fetched] at firstEq
          cases firstEq
      | ok policies =>
          rw [fetched] at firstEq
          cases firstEq
          cases policies <;> rfl

theorem authenticate_eq_ok {ip email tenantId password : String}
    {deviceInfo : Option String} {token : SignedToken}
    (ran : App.run deployment (authenticate deployment db readings ip email
      tenantId password deviceInfo) world = (.ok token, after)) :
    ∃ normalized user, deployment.normalizeEmail email = some normalized ∧
      (world.usersWithEmail db normalized).head? = some user ∧
      deployment.verifyPassword password user.password = .ok true ∧
      token.payload.userId = some user.id := by
  have body : App.run deployment (authenticateUnguarded deployment db readings ip
      email tenantId password deviceInfo) world = (.ok token, after) := by
    unfold App.run authenticate at ran
    rw [StatementTree.run_tryCatch] at ran
    split at ran
    case h_1 found between done =>
      rw [← ran]
      exact done
    case h_2 => cases ran
  unfold authenticateUnguarded at body
  cases normalized : deployment.normalizeEmail email with
  | none =>
      rw [normalized] at body
      cases body
  | some address =>
      rw [normalized] at body
      obtain ⟨rows, _, asked, rest⟩ := App.run_bind_eq_ok.mp body
      obtain ⟨joined, rfl⟩ := Prod.mk.inj asked
      cases rows with
      | nil => cases rest
      | cons first others =>
          obtain ⟨user, document⟩ := first
          obtain ⟨verified, _, checked, rest⟩ := App.run_bind_eq_ok.mp rest
          obtain ⟨verifiedEq, rfl⟩ := Prod.mk.inj checked
          cases verified with
          | false => cases rest
          | true =>
              obtain ⟨policies, _, loaded, rest⟩ := App.run_bind_eq_ok.mp rest
              obtain ⟨-, rfl⟩ := Prod.mk.inj loaded
              obtain ⟨claim, _, compiled, rest⟩ := App.run_bind_eq_ok.mp rest
              obtain ⟨-, rfl⟩ := Prod.mk.inj compiled
              obtain ⟨minted, _, minting, rest⟩ := App.run_bind_eq_ok.mp rest
              obtain ⟨mintedEq, rfl⟩ := Prod.mk.inj minting
              obtain ⟨stored, _, -, rest⟩ := App.run_bind_eq_ok.mp rest
              cases rest
              exact ⟨address, user, rfl, (head_joinAll joined).symm, verifiedEq,
                (userId_of_createJwtToken mintedEq).1⟩

theorem refresh_eq_ok {worker : Nat} {request : RefreshRequest}
    {tokens : RefreshedTokens}
    (ran : App.run deployment (refresh deployment worker db readings request)
      world = (.ok tokens, after)) :
    ∃ token decoded normalized iat user, request.token = .ok token ∧
      deployment.tokens.decodeJwtToken token (readings.utcNow 0) true =
        .ok decoded ∧
      refreshSubject deployment decoded = .ok (normalized, iat) ∧
      (world.usersWithEmail db normalized).head? = some user ∧
      tokens.accessToken.payload.userId = some user.id ∧
      tokens.refreshToken.payload.userId = decoded.userId ∧ after = world := by
  obtain ⟨token, _, first, rest⟩ := App.run_bind_eq_ok.mp ran
  obtain ⟨tokenEq, rfl⟩ := Prod.mk.inj first
  cases decodedEq : deployment.tokens.decodeJwtToken token (readings.utcNow 0)
      true with
  | error error =>
      rw [decodedEq] at rest
      cases rest
  | ok decoded =>
      rw [decodedEq] at rest
      obtain ⟨⟨normalized, iat⟩, _, second, rest⟩ := App.run_bind_eq_ok.mp rest
      obtain ⟨subjectEq, rfl⟩ := Prod.mk.inj second
      obtain ⟨modified, _, third, rest⟩ := App.run_bind_eq_ok.mp rest
      obtain ⟨-, rfl⟩ := Prod.mk.inj third
      cases modified with
      | true =>
          obtain ⟨revoked, revoking, -, rest⟩ := App.run_bind_eq_ok.mp rest
          cases rest
      | false =>
          obtain ⟨refreshToken, _, minting, rest⟩ := App.run_bind_eq_ok.mp rest
          obtain ⟨refreshEq, rfl⟩ := Prod.mk.inj minting
          obtain ⟨rows, _, asked, rest⟩ := App.run_bind_eq_ok.mp rest
          obtain ⟨joined, rfl⟩ := Prod.mk.inj asked
          cases rows with
          | nil => cases rest
          | cons head others =>
              obtain ⟨user, document⟩ := head
              dsimp only at rest
              split at rest
              case isTrue => cases rest
              case isFalse =>
                obtain ⟨claim, _, compiled, rest⟩ := App.run_bind_eq_ok.mp rest
                obtain ⟨-, rfl⟩ := Prod.mk.inj compiled
                obtain ⟨access, _, minting, rest⟩ := App.run_bind_eq_ok.mp rest
                obtain ⟨accessEq, rfl⟩ := Prod.mk.inj minting
                cases rest
                exact ⟨token, decoded, normalized, iat, user, tokenEq, decodedEq,
                  subjectEq, (head_joinAll joined).symm,
                  (userId_of_createJwtToken accessEq).1,
                  (userId_of_createJwtToken refreshEq).1, rfl⟩

theorem mem_of_usersWithEmail {email : String} {user : UserRow}
    (isFirst : (world.usersWithEmail db email).head? = some user) :
    user ∈ world.users :=
  (KeyedTable.mem_select.mp (List.mem_of_mem_head? isFirst)).1

end Logins

/-! ## The authorization endpoints -/

section Flows

variable {deployment : Deployment} {world after : World} {db : Connection}
variable {readings : Readings}

theorem validateClient_eq_ok {clientId clientSecret : PyValue}
    {client : ClientRow}
    (ran : App.run deployment (validateClient deployment clientId clientSecret)
      world = (.ok (some client), after)) :
    after = world ∧ ∃ id, clientId = .text id ∧
      world.activeClient id = some client := by
  have same := @run_clients deployment world _ _
    (@uses_validateClient [.clients] deployment clientId clientSecret (by decide))
  rw [ran] at same
  refine ⟨same, ?_⟩
  obtain ⟨bound, _, first, rest⟩ := App.run_bind_eq_ok.mp ran
  obtain ⟨boundEq, rfl⟩ := Prod.mk.inj first
  obtain ⟨found, _, asked, rest⟩ := App.run_bind_eq_ok.mp rest
  obtain ⟨foundEq, rfl⟩ := Prod.mk.inj asked
  cases bound with
  | none =>
      cases foundEq
      cases rest
  | some id =>
      have foundEq : world.activeClient id = found := Except.ok.inj foundEq
      refine ⟨id, bindText_eq_some.mp boundEq, ?_⟩
      cases found with
      | none => cases rest
      | some active =>
          dsimp only at rest
          split at rest
          case isFalse =>
            cases rest
            exact foundEq
          case isTrue =>
            obtain ⟨verified, _, -, rest⟩ := App.run_bind_eq_ok.mp rest
            cases verified with
            | false => cases rest
            | true =>
                cases rest
                exact foundEq

/-- The user of the session of a login: an active one of the tenant of the
client, with a verified email. -/
theorem loginSubmit_eq_ok {request : LoginRequest} {clientName : String}
    {email : Option String} {scopes : List String} {params : AuthorizationParams}
    {session : SignedToken}
    (ran : App.run deployment (loginSubmit deployment db readings request) world =
      (.ok (.consentPage clientName email scopes params (some session)), after)) :
    ∃ client user, world.activeClient request.params.clientId = some client ∧
      user ∈ world.users ∧ user.tenantId = client.tenantId ∧
      user.isActive = true ∧ user.emailVerified = true ∧
      session.payload.userId = some user.id := by
  obtain ⟨found, _, validated, rest⟩ := App.run_bind_eq_ok.mp ran
  cases found with
  | none => cases rest
  | some client =>
      obtain ⟨same, id, isId, active⟩ := validateClient_eq_ok validated
      have idEq : request.params.clientId = id := PyValue.text.inj isId
      rw [same] at rest
      have asked : App.run deployment
          (ask (.user db (.forLogin request.email client.tenantId))) world =
          (.ok ((world.users.select fun user => user.email = request.email &&
            user.tenantId = client.tenantId && db.sees user.tenantId).head?),
            world) := rfl
      dsimp only at rest
      rw [App.run_bind_of_ok asked] at rest
      cases selected : (world.users.select fun user =>
          user.email = request.email && user.tenantId = client.tenantId &&
            db.sees user.tenantId).head? with
      | none =>
          rw [selected] at rest
          cases rest
      | some user =>
          rw [selected] at rest
          obtain ⟨userMem, isSelected⟩ :=
            KeyedTable.mem_select.mp (List.mem_of_mem_head? selected)
          simp only [Bool.and_eq_true, decide_eq_true_eq] at isSelected
          obtain ⟨verified, _, checked, rest⟩ := App.run_bind_eq_ok.mp rest
          obtain ⟨-, rfl⟩ := Prod.mk.inj checked
          cases verified with
          | false => cases rest
          | true =>
              rw [Bool.not_true, if_neg Bool.false_ne_true] at rest
              cases isActive : user.isActive with
              | false =>
                  rw [isActive] at rest
                  cases rest
              | true =>
                  rw [isActive, Bool.not_true, if_neg Bool.false_ne_true]
                    at rest
                  cases isVerified : user.emailVerified with
                  | false =>
                      rw [isVerified] at rest
                      cases rest
                  | true =>
                      rw [isVerified, Bool.not_true, if_neg Bool.false_ne_true]
                        at rest
                      obtain ⟨token, _, minting, rest⟩ :=
                        App.run_bind_eq_ok.mp rest
                      obtain ⟨minted, rfl⟩ := Prod.mk.inj minting
                      cases rest
                      exact ⟨client, user, idEq ▸ active, userMem,
                        isSelected.1.2, isActive, isVerified,
                        (userId_of_createJwtToken minted).1⟩

theorem authorizationCodeGrant_eq_ok {client : ClientRow} {clientId : PyValue}
    {data : List (String × PyValue)} {tokens : TokenData}
    (ran : App.run deployment (authorizationCodeGrant deployment db readings
      client clientId data) world = (.ok (.tokens tokens), after)) :
    ∃ code row user, PyValue.get data "code" = .text code ∧
      world.codes.lookup code = some row ∧ row.used = false ∧
      world.users.lookup row.userId = some user ∧
      tokens.accessToken.payload.userId = some user.id ∧
      ∀ token ∈ tokens.idToken, token.payload.sub = some user.id := by
  unfold authorizationCodeGrant at ran
  dsimp only at ran
  split at ran
  case isTrue => cases ran
  obtain ⟨redeemed, between, redeeming, rest⟩ := App.run_bind_eq_ok.mp ran
  cases redeemed with
  | none => cases rest
  | some row =>
      obtain ⟨boundCode, _, first, redeeming⟩ := App.run_bind_eq_ok.mp redeeming
      obtain ⟨codeEq, rfl⟩ := Prod.mk.inj first
      obtain ⟨boundClient, _, second, redeeming⟩ :=
        App.run_bind_eq_ok.mp redeeming
      obtain ⟨-, rfl⟩ := Prod.mk.inj second
      obtain ⟨boundUri, _, third, redeeming⟩ := App.run_bind_eq_ok.mp redeeming
      obtain ⟨-, rfl⟩ := Prod.mk.inj third
      have asked : App.run deployment
          (ask (.code (.validate boundCode boundClient boundUri))) world =
          (.ok ((boundCode.bind world.codes.lookup).filter fun row =>
            some row.clientId = boundClient && some row.redirectUri = boundUri &&
              !row.used && world.now < row.expiresAt), world) := rfl
      rw [App.run_bind_of_ok asked] at redeeming
      split at redeeming
      case h_1 => cases redeeming
      case h_2 found foundEq =>
        obtain ⟨isBound, selected⟩ := Option.filter_eq_some_iff.mp foundEq
        simp only [Bool.and_eq_true, Bool.not_eq_true'] at selected
        obtain ⟨code, rfl, isHeld⟩ := Option.bind_eq_some_iff.mp isBound
        obtain ⟨met, _, checked, redeeming⟩ := App.run_bind_eq_ok.mp redeeming
        obtain ⟨-, rfl⟩ := Prod.mk.inj checked
        cases met with
        | false => cases redeeming
        | true =>
            cases redeeming
            have asked : App.run deployment (ask (.user db (.byId row.userId)))
                (perform deployment (.code (.markUsed (some code))) world).2 =
                (.ok ((world.users.lookup row.userId).filter fun user =>
                  db.sees user.tenantId),
                  (perform deployment (.code (.markUsed (some code))) world).2) :=
              rfl
            rw [App.run_bind_of_ok asked] at rest
            split at rest
            case h_1 => cases rest
            case h_2 user userEq =>
              have isUser := (Option.filter_eq_some_iff.mp userEq).1
              obtain ⟨policies, _, -, rest⟩ := App.run_bind_eq_ok.mp rest
              obtain ⟨access, _, minting, rest⟩ := App.run_bind_eq_ok.mp rest
              obtain ⟨accessEq, rfl⟩ := Prod.mk.inj minting
              obtain ⟨refreshToken, _, -, rest⟩ := App.run_bind_eq_ok.mp rest
              obtain ⟨idToken, _, minting, rest⟩ := App.run_bind_eq_ok.mp rest
              obtain ⟨idEq, rfl⟩ := Prod.mk.inj minting
              cases rest
              exact ⟨code, row, user, bindText_eq_some.mp codeEq, isHeld,
                selected.1.2, isUser, (userId_of_createJwtToken accessEq).1,
                sub_of_createIdToken idEq⟩

theorem refreshTokenGrant_eq_ok {client : ClientRow} {clientId : PyValue}
    {data : List (String × PyValue)} {tokens : TokenData}
    (ran : App.run deployment (refreshTokenGrant deployment db readings client
      clientId data) world = (.ok (.tokens tokens), after)) :
    ∃ jti row user, PyValue.get data "refresh_token" = .text jti ∧
      world.refreshTokens.lookup jti = some row ∧ row.revoked = false ∧
      world.users.lookup row.userId = some user ∧
      tokens.accessToken.payload.userId = some user.id ∧
      tokens.idToken = none := by
  unfold refreshTokenGrant at ran
  dsimp only at ran
  split at ran
  case isTrue => cases ran
  obtain ⟨validated, between, validating, rest⟩ := App.run_bind_eq_ok.mp ran
  obtain ⟨boundJti, _, first, validating⟩ := App.run_bind_eq_ok.mp validating
  obtain ⟨jtiEq, rfl⟩ := Prod.mk.inj first
  obtain ⟨boundClient, _, second, validating⟩ := App.run_bind_eq_ok.mp validating
  obtain ⟨-, rfl⟩ := Prod.mk.inj second
  obtain ⟨foundEq, sameWorld⟩ := Prod.mk.inj validating
  have same : between = world := sameWorld.symm
  rw [same] at rest
  cases validated with
  | none => cases rest
  | some row =>
      obtain ⟨isBound, selected⟩ :=
        Option.filter_eq_some_iff.mp (Except.ok.inj foundEq)
      simp only [Bool.and_eq_true, Bool.not_eq_true'] at selected
      obtain ⟨jti, rfl, isHeld⟩ := Option.bind_eq_some_iff.mp isBound
      have asked : App.run deployment (ask (.user db (.byId row.userId))) world =
          (.ok ((world.users.lookup row.userId).filter fun user =>
            db.sees user.tenantId), world) := rfl
      dsimp only at rest
      rw [App.run_bind_of_ok asked] at rest
      split at rest
      case h_1 => cases rest
      case h_2 user userEq =>
        have isUser := (Option.filter_eq_some_iff.mp userEq).1
        obtain ⟨revoked, _, -, rest⟩ := App.run_bind_eq_ok.mp rest
        obtain ⟨policies, _, -, rest⟩ := App.run_bind_eq_ok.mp rest
        obtain ⟨access, _, minting, rest⟩ := App.run_bind_eq_ok.mp rest
        obtain ⟨accessEq, rfl⟩ := Prod.mk.inj minting
        obtain ⟨refreshToken, _, -, rest⟩ := App.run_bind_eq_ok.mp rest
        cases rest
        exact ⟨jti, row, user, bindText_eq_some.mp jtiEq, isHeld, selected.1.2,
          isUser, (userId_of_createJwtToken accessEq).1, rfl⟩

theorem postToken_eq_ok {request : TokenRequest} {tokens : TokenData}
    (ran : App.run deployment (postToken deployment readings request) world =
      (.ok (.tokens tokens), after)) :
    ∃ db data id client, Connects world request db ∧ request.data = .ok data ∧
      (extractClientCredentials deployment request.authorization data).1 =
        .text id ∧
      world.activeClient id = some client ∧
      App.run deployment (grant deployment db readings client
        (extractClientCredentials deployment request.authorization data).1 data)
          world = (.ok (.tokens tokens), after) := by
  have gives : App.Gives deployment (postToken deployment readings request) world
      fun response final => response = .tokens tokens ∧ final = after := by
    rw [App.Gives, StatementTree.gives_of_run ran]
    exact ⟨rfl, rfl⟩
  unfold postToken at gives
  obtain ⟨db, connects, response, answered, rfl, final⟩ :=
    gives_getDatabasePool.mp gives
  have rest : App.run deployment (tokenEndpoint deployment db readings request)
      world = (.ok (.tokens tokens), after) := Prod.ext answered final
  obtain ⟨data, _, first, rest⟩ := App.run_bind_eq_ok.mp rest
  obtain ⟨dataEq, rfl⟩ := Prod.mk.inj first
  obtain ⟨found, validated, validating, rest⟩ := App.run_bind_eq_ok.mp rest
  cases found with
  | none => cases rest
  | some client =>
      obtain ⟨unchanged, id, isId, active⟩ := validateClient_eq_ok validating
      rw [unchanged] at rest
      exact ⟨db, data, id, client, connects, dataEq, isId, active, rest⟩

theorem sessionsOf_chooseLogin {request : AuthorizeRequest} {client : ClientRow}
    {response : FlowResponse}
    (ran : App.run deployment (chooseLogin deployment readings request client)
      world = (.ok response, after)) : sessionsOf response = [] := by
  have started {provider : ProviderRow} {tenantId : String} {between : World}
      (ran : App.run deployment (beginFederatedAuthorization deployment readings
        provider tenantId request.params) between = (.ok response, after)) :
      sessionsOf response = [] := by
    obtain ⟨stored, _, -, rest⟩ := App.run_bind_eq_ok.mp ran
    obtain ⟨url, _, -, rest⟩ := App.run_bind_eq_ok.mp rest
    cases rest
    rfl
  unfold chooseLogin at ran
  dsimp only at ran
  split at ran
  case isTrue =>
    cases ran
    rfl
  case isFalse =>
    obtain ⟨providers, _, -, rest⟩ := App.run_bind_eq_ok.mp ran
    split at rest
    case isTrue =>
      split at rest
      · cases rest
        rfl
      · exact started rest
    case isFalse =>
      split at rest
      · cases rest
        rfl
      · exact started rest
      · cases rest
        rfl

theorem sessionsOf_authorize {request : AuthorizeRequest}
    {response : FlowResponse}
    (ran : App.run deployment (authorize deployment readings request) world =
      (.ok response, after)) : sessionsOf response = [] := by
  obtain ⟨found, _, -, rest⟩ := App.run_bind_eq_ok.mp ran
  cases found with
  | none =>
      cases rest
      split <;> rfl
  | some client =>
      obtain ⟨registered, _, -, rest⟩ := App.run_bind_eq_ok.mp rest
      split at rest
      case isTrue =>
        cases rest
        split <;> rfl
      case isFalse =>
        split at rest
        case h_1 =>
          cases rest
          split <;> rfl
        case h_2 =>
          split at rest
          case isTrue =>
            obtain ⟨providers, _, -, rest⟩ := App.run_bind_eq_ok.mp rest
            cases rest
            rfl
          case isFalse => exact sessionsOf_chooseLogin rest

theorem sessionsOf_consentSubmit {request : ConsentRequest}
    {response : FlowResponse}
    (ran : App.run deployment (consentSubmit deployment readings request) world =
      (.ok response, after)) : sessionsOf response = [] := by
  unfold consentSubmit at ran
  dsimp only at ran
  split at ran
  case h_1 =>
    cases ran
    rfl
  case h_2 session signedIn =>
    split at ran
    case isTrue =>
      cases ran
      rfl
    case isFalse =>
      split at ran
      case h_1 =>
        obtain ⟨stored, _, -, rest⟩ := App.run_bind_eq_ok.mp ran
        cases rest
        rfl
      case h_2 => cases ran

end Flows

/-! ## One request -/

section Requests

variable {deployment : Deployment} {world between after : World}
variable {db : Connection} {readings : Readings} {tenantId : String}
variable {provider : ProviderRow} {claims : UpstreamClaims} {user other : UserRow}

/-- The user of an enabled sign-in is enabled, a new one included. -/
theorem enabled_of_resolves {subject : String} {calls : Nat}
    (resolves : Resolves deployment db readings tenantId provider claims subject
      { world with upstreamCalls := calls } user between)
    (isSubject : Subject claims subject)
    (enabled : SignInEnabled world db tenantId provider claims)
    (users : after.users = between.users)
    (tenants : after.tenants = world.tenants)
    (found : after.users.lookup user.id = some other) : Enabled after other := by
  obtain ⟨otherMem, same⟩ := KeyedTable.lookup_eq_some.mp found
  rw [users] at otherMem
  have otherEq : other = user :=
    KeyedTable.eq_of_key_eq otherMem resolves.user_mem same
  have active (before : Enabled world user) : Enabled after other := by
    rw [otherEq]
    exact ⟨before.active, by rw [TenantEnabled, tenants]; exact before.tenant⟩
  cases resolves with
  | linked linked => exact active (enabled.linked subject user isSubject linked)
  | unlinked _ _ missing autoLink chosen links =>
      cases chosen with
      | existing email isEmail found verified =>
          exact active (enabled.withEmail subject email user isSubject missing
            isEmail found)
      | provisioned email users isEmail row isRow isUser inserted =>
          obtain ⟨-, tenantEq, -, isActive, -⟩ := provisionedUser_eq_ok isRow
          rw [otherEq, isUser]
          refine ⟨isActive, ?_⟩
          change TenantEnabled after row.tenantId
          rw [TenantEnabled, tenants, tenantEq]
          exact enabled.tenant

/-- A token of a response is for the user. -/
def For (tokens : TokenData) (userId : String) : Prop :=
  tokens.accessToken.payload.userId = some userId ∨
    ∃ token ∈ tokens.idToken, token.payload.sub = some userId

theorem For.unique {tokens : TokenData} {userId : String}
    (isFor : For tokens userId)
    (access : tokens.accessToken.payload.userId = some user.id)
    (identity : ∀ token ∈ tokens.idToken, token.payload.sub = some user.id) :
    userId = user.id := by
  rcases isFor with isFor | ⟨token, isToken, isFor⟩
  · exact Option.some.inj (isFor.symm.trans access)
  · exact Option.some.inj (isFor.symm.trans (identity token isToken))

theorem grant_enabled {request : TokenRequest} {client : ClientRow}
    {id userId : String} {data : List (String × PyValue)} {tokens : TokenData}
    (enabled : GrantEnabled deployment world readings request data)
    (connects : Connects world request db)
    (isId : (extractClientCredentials deployment request.authorization data).1 =
      .text id)
    (active : world.activeClient id = some client)
    (ran : App.run deployment (grant deployment db readings client
      (extractClientCredentials deployment request.authorization data).1 data)
        world = (.ok (.tokens tokens), after))
    (isFor : For tokens userId)
    (found : after.users.lookup userId = some other) : Enabled after other := by
  have ofOwner {owner : UserRow} {held : String}
      (isUser : world.users.lookup held = some owner)
      (before : Enabled world owner) (isOwner : userId = owner.id) :
      Enabled after other := by
    rw [isOwner] at found
    exact (before.run ran (KeyedTable.lookup_eq_some.mp isUser).1 found).2
  unfold grant at ran
  dsimp only at ran
  split at ran
  case isTrue byCode =>
    obtain ⟨code, row, owner, codeEq, isHeld, unused, isUser, access, identity⟩ :=
      authorizationCodeGrant_eq_ok ran
    exact ofOwner isUser
      (enabled.code code row owner byCode codeEq isHeld unused isUser)
      (isFor.unique access identity)
  case isFalse =>
    split at ran
    case isTrue byRefresh =>
      obtain ⟨jti, row, owner, jtiEq, isHeld, live, isUser, access, identity⟩ :=
        refreshTokenGrant_eq_ok ran
      refine ofOwner isUser
        (enabled.refreshToken jti row owner byRefresh jtiEq isHeld live isUser)
        (isFor.unique access ?_)
      rw [identity]
      exact fun token isToken => nomatch isToken
    case isFalse =>
      split at ran
      case isTrue =>
        obtain ⟨access, _, minting, rest⟩ := App.run_bind_eq_ok.mp ran
        obtain ⟨accessEq, rfl⟩ := Prod.mk.inj minting
        cases rest
        rcases isFor with isFor | ⟨token, isToken, -⟩
        · have none := (userId_of_createJwtToken accessEq).1
          rw [isFor] at none
          cases none
        · cases isToken
      case isFalse =>
        split at ran
        case isTrue byExchange =>
          obtain ⟨provider, claims, subject, owner, signIn, access, identity⟩ :=
            tokenExchangeGrant_eq_ok ran
          obtain ⟨presented, resolved, refreshTokens, presents, resolves,
            afterEq⟩ := signIn.resolves
          have allowed := enabled.exchange db id client provider claims presented
            connects byExchange isId active presents
          obtain ⟨calls, presentedEq⟩ := presents.after_eq
          rw [presentedEq] at resolves
          have isOwner := isFor.unique access identity
          rw [isOwner] at found
          obtain ⟨users, identities, resolvedEq⟩ := resolves.after_eq
          refine enabled_of_resolves resolves signIn.isSubject allowed ?_ ?_ found
          · rw [afterEq]
          · rw [afterEq, resolvedEq]
        case isFalse => cases ran

theorem mem_sessionsOf {response : FlowResponse} {userId : String}
    (isMem : userId ∈ (sessionsOf response).filterMap Claims.userId) :
    ∃ clientName email scopes params session,
      response = .consentPage clientName email scopes params (some session) ∧
        session.payload.userId = some userId := by
  obtain ⟨claims, claimsMem, isUser⟩ := List.mem_filterMap.mp isMem
  unfold sessionsOf at claimsMem
  split at claimsMem
  case h_1 clientName email scopes params session =>
    obtain rfl := List.mem_singleton.mp claimsMem
    exact ⟨clientName, email, scopes, params, session, rfl, isUser⟩
  case h_2 => cases claimsMem

/-- The session of an enabled sign-in at one of the flow's endpoints is for an
enabled user. -/
theorem flow_enabled {call : FlowCall} {response : FlowResponse}
    {userId : String}
    (names : NamesEnabled deployment world (.request (.flow call)))
    (ran : App.run deployment (call.program deployment) world =
      (.ok response, after))
    (isMem : userId ∈ (sessionsOf response).filterMap Claims.userId)
    (found : after.users.lookup userId = some other) :
    Enabled after other ∧
      (ByPassword (.flow call) → other.emailVerified = true) := by
  obtain ⟨tenantHeader, readings, request⟩ := call
  cases request with
  | authorize request formClientId =>
      obtain ⟨db, _, -, rest⟩ := App.run_bind_eq_ok.mp ran
      rw [sessionsOf_authorize rest] at isMem
      cases isMem
  | consent request queryClientId =>
      obtain ⟨db, _, -, rest⟩ := App.run_bind_eq_ok.mp ran
      rw [sessionsOf_consentSubmit rest] at isMem
      cases isMem
  | login request queryClientId =>
      obtain ⟨db, between, connected, rest⟩ := App.run_bind_eq_ok.mp ran
      have same := @run_clients deployment world _ _
        (@uses_getDatabasePool [.clients] tenantHeader queryClientId
          (.text request.params.clientId) (by decide))
      rw [connected] at same
      dsimp only at same
      rw [same] at rest
      obtain ⟨clientName, email, scopes, params, session, rfl, isUser⟩ :=
        mem_sessionsOf isMem
      obtain ⟨client, user, active, userMem, ofTenant, isActive, verified,
        isOwner⟩ := loginSubmit_eq_ok rest
      obtain rfl : userId = user.id := Option.some.inj (isUser.symm.trans isOwner)
      have before : Enabled world user :=
        ⟨isActive, ofTenant ▸ names client active⟩
      obtain ⟨rfl, enabled⟩ := before.run rest userMem found
      exact ⟨enabled, fun _ => verified⟩
  | callback request =>
      obtain ⟨clientName, email, scopes, params, session, rfl, isUser⟩ :=
        mem_sessionsOf isMem
      obtain ⟨txn, provider, claims, subject, user, signIn, minted⟩ :=
        federationCallback_eq_ok ran
      have isOwner := (userId_of_createJwtToken minted).1
      obtain rfl : userId = user.id := Option.some.inj (isUser.symm.trans isOwner)
      obtain ⟨asserted, resolved, asserts, isSubject, resolves, afterEq⟩ :=
        signIn.resolves
      have allowed := names txn provider claims asserted signIn.isTransaction
        signIn.isProvider asserts
      obtain ⟨calls, assertedEq⟩ := asserts.after_eq
      rw [assertedEq] at resolves
      obtain ⟨users, identities, resolvedEq⟩ := resolves.after_eq
      refine ⟨enabled_of_resolves resolves isSubject allowed ?_ ?_ found, ?_⟩
      · rw [afterEq]
        rfl
      · rw [afterEq, resolvedEq]
        rfl
      · rintro ⟨_, _, ⟨⟩⟩

/-- A request that names enabled principals issues tokens for enabled users
only. -/
theorem onlyEnabled_of_namesEnabled {event : AccountEvent}
    (names : NamesEnabled deployment world event) :
    OnlyEnabled deployment world event := by
  cases event with
  | request request =>
      intro ids after ran id isMem other found
      cases request with
      | authenticate db readings ip email tenantId password deviceInfo =>
          obtain ⟨token, _, logged, rest⟩ := App.run_bind_eq_ok.mp ran
          cases rest
          obtain ⟨normalized, user, isEmail, isFirst, verified, isUser⟩ :=
            authenticate_eq_ok logged
          obtain ⟨before, emailVerified⟩ :=
            names normalized user isEmail isFirst verified
          rw [isUser] at isMem
          obtain rfl := List.mem_singleton.mp isMem
          obtain ⟨rfl, enabled⟩ :=
            before.run logged (mem_of_usersWithEmail isFirst) found
          exact ⟨enabled, fun _ => emailVerified⟩
      | refresh worker db readings request =>
          obtain ⟨tokens, _, refreshed, rest⟩ := App.run_bind_eq_ok.mp ran
          cases rest
          obtain ⟨token, decoded, normalized, iat, user, tokenEq, decodedEq,
            subjectEq, isFirst, isUser, isHolder, same⟩ := refresh_eq_ok refreshed
          obtain ⟨ofEmail, ofHolder⟩ :=
            names token decoded normalized iat tokenEq decodedEq subjectEq
          refine ⟨?_, nofun⟩
          rw [isUser, isHolder] at isMem
          rcases List.mem_append.mp isMem with isMem | isMem
          · obtain rfl := List.mem_singleton.mp isMem
            exact ((ofEmail user isFirst).run refreshed
              (mem_of_usersWithEmail isFirst) found).2
          · have isHolder := Option.mem_toList.mp isMem
            rw [same] at found ⊢
            exact ofHolder id other isHolder found
      | flow call =>
          obtain ⟨response, _, answered, rest⟩ := App.run_bind_eq_ok.mp ran
          cases rest
          exact flow_enabled names answered isMem found
      | token readings request =>
          obtain ⟨response, _, answered, rest⟩ := App.run_bind_eq_ok.mp ran
          refine ⟨?_, nofun⟩
          cases response with
          | tokens data =>
              cases rest
              obtain ⟨db, fields, clientId, client, connects, dataEq, isId,
                active, granted⟩ := postToken_eq_ok answered
              refine grant_enabled (names fields dataEq) connects isId active
                granted ?_ found
              rcases List.mem_append.mp isMem with isMem | isMem
              · exact .inl (Option.mem_toList.mp isMem)
              · obtain ⟨token, isToken, isSub⟩ :=
                  Option.bind_eq_some_iff.mp (Option.mem_toList.mp isMem)
                exact .inr ⟨token, isToken, isSub⟩
          | _ =>
              cases rest
              cases isMem
  | _ => trivial

end Requests

/-! ## The result -/

/-- In the runs whose requests name enabled principals, whatever is deactivated
in between, tokens are issued for enabled users only. -/
theorem onlyEnabled_of_run (deployment : Deployment) (world : World)
    (events : List AccountEvent)
    (names : Along (accountStep deployment) (NamesEnabled deployment) world
      events) :
    Along (accountStep deployment) (OnlyEnabled deployment) world events :=
  along_mono (fun _ _ => onlyEnabled_of_namesEnabled) names

/-- The API login of the user of the first tenant. -/
def login : AccountEvent :=
  .request (.authenticate (.forTenant "t") LogoutCoverage.readings "127.0.0.1"
    "u@t" "t" "password" none)

/-- A tenant is deactivated and activated again before its user logs in. -/
theorem reactivated_tenant_enabled :
    Along (accountStep (.plain [])) (OnlyEnabled (.plain [])) oneUser
      [.setTenantActive .owner "t" false, .setTenantActive .owner "t" true,
        login] := by
  refine onlyEnabled_of_run _ _ _ ⟨trivial, ?_⟩
  rintro _ ⟨⟩
  refine ⟨trivial, ?_⟩
  rintro _ ⟨⟩
  refine ⟨?_, fun _ _ => trivial⟩
  rintro normalized user ⟨⟩ ⟨⟩ -
  refine ⟨⟨rfl, ?_⟩, rfl⟩
  rintro tenant ⟨⟩
  rfl

/-- A user that is deactivated logs in and gets a token. -/
theorem deactivated_user_logs_in :
    ¬ Along (accountStep (.plain [])) (OnlyEnabled (.plain [])) oneUser
      [.setUserActive "u" false, login] := by
  rintro ⟨-, loggedIn⟩
  obtain ⟨only, -⟩ := loggedIn _ rfl
  obtain ⟨enabled, -⟩ := only _ _ rfl "u" (List.mem_singleton.mpr rfl) _ rfl
  cases enabled.active

end AccountStatus

end HexIam
