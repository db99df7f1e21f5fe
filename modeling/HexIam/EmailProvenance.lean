import HexIam.AccountStatus
import HexIam.PolicyWrites
import HexIam.TokenKinds

/-!
# Where a verified email comes from

`email_verified` is set by `verify_email` and for users that a federated
sign-in provisions.  The first takes every token that carries a `user_id` and
no purpose, the second trusts every email of the claims.  In the runs without
such tokens and such claims each verified user has presented the token of a
mail, or a provider has asserted its email as verified.
-/

namespace HexIam

open StatementTree GuardedRun

namespace EmailProvenance

open AccountStatus (validateClient_eq_ok)
open ClientAuthentication (Connects gives_getDatabasePool)
open ConsentBinding (FlowCall)
open FederatedSignIn
open LogoutCoverage (IssueRequest)
open TokenKinds (Minted)

/-! ## Runs -/

/-- The world, the tokens that `create_verification_token` made for mails, those
presented to `verify_email` and the claims that providers asserted. -/
structure ProvenanceState where
  world : World
  mailed : SignedToken → Prop
  presented : String → Prop
  asserted : UpstreamClaims → Prop

/-- A request, or the passing of time.  The mail of an onboarding is sent
later. -/
inductive ProvenanceEvent : Type
  | signupSubmit (db : Connection) (readings : Readings)
      (request : SignupRequest)
  | signupApi (db : Connection) (readings : Readings) (request : SignupRequest)
  | onboard (db : Connection) (readings mailReadings : Readings)
      (request : TenantOnboardingRequest)
  | verifyEmail (db : Connection) (readings : Readings) (token : String)
  | issue (request : IssueRequest)
  | wait (seconds : Nat)

/-- The claims that a token exchange presents for an active client. -/
structure ExchangePresents (deployment : Deployment) (readings : Readings)
    (request : TokenRequest) (world : World) (db : Connection)
    (client : ClientRow) (provider : ProviderRow) (claims : UpstreamClaims)
    (between : World) : Prop where
  connects : Connects world request db
  presents : ∃ data id, request.data = .ok data ∧
    (extractClientCredentials deployment request.authorization data).1 =
      .text id ∧
    world.activeClient id = some client ∧
    (PyValue.get data "grant_type").isText
      "urn:ietf:params:oauth:grant-type:token-exchange" = true ∧
    Presents deployment client.tenantId (PyValue.get data "subject_token")
      (some client.id) (PyValue.get data "issuer_hint") (readings.utcNow 0)
      provider claims world between

namespace ProvenanceEvent

variable (deployment : Deployment) (world : World)

/-- The world after an event. -/
def after : ProvenanceEvent → World
  | signupSubmit db readings request =>
      (ManagementApp.run deployment
        (HexIam.signupSubmit deployment db readings request) world).2
  | signupApi db readings request =>
      (ManagementApp.run deployment
        (HexIam.signupApi deployment db readings request) world).2
  | onboard db readings _ request =>
      (onboardTenant deployment db readings request world).2
  | verifyEmail db readings token =>
      (ManagementApp.run deployment
        (HexIam.verifyEmail deployment db readings token) world).2
  | issue request =>
      (App.run deployment (request.program deployment) world).2
  | wait seconds => { world with now := world.now + seconds }

/-- The event mails the verification token. -/
def Mails : ProvenanceEvent → SignedToken → Prop
  | signupSubmit db readings request, token => ∃ userId,
      (ManagementApp.run deployment (HexIam.signupSubmit deployment db readings
        request) world).1 = .ok (.success (userId, token))
  | signupApi db readings request, token => ∃ userId,
      (ManagementApp.run deployment (HexIam.signupApi deployment db readings
        request) world).1 = .ok (.success (userId, token))
  | onboard db readings mailReadings request, token => ∃ tenantId userId,
      (onboardTenant deployment db readings request world).1 =
        .ok (tenantId, userId) ∧
      onboardingToken deployment mailReadings tenantId userId = .ok token
  | _, _ => False

/-- The token is presented to `verify_email`. -/
def Presents : ProvenanceEvent → String → Prop
  | verifyEmail _ _ presented, token => presented = token
  | _, _ => False

/-- A provider asserts the claims. -/
def Asserts : ProvenanceEvent → UpstreamClaims → Prop
  | issue (.flow call), claims => ∃ request txn provider between,
      call.request = .callback request ∧
      CallbackAsserts deployment call.readings request world txn provider claims
        between
  | issue (.token readings request), claims => ∃ db client provider between,
      ExchangePresents deployment readings request world db client provider claims
        between
  | _, _ => False

end ProvenanceEvent

/-- The state after an event. -/
def provenanceStep (deployment : Deployment) (state : ProvenanceState)
    (event : ProvenanceEvent) : Option ProvenanceState :=
  some {
    world := event.after deployment state.world
    mailed := fun token =>
      state.mailed token ∨ event.Mails deployment state.world token
    presented := fun token => state.presented token ∨ event.Presents token
    asserted := fun claims =>
      state.asserted claims ∨ event.Asserts deployment state.world claims }

/-! ## The property -/

/-- A mailed token of the user was presented, or a provider asserted the email
of the user as verified. -/
def Proven (state : ProvenanceState) (user : UserRow) : Prop :=
  (∃ token, state.mailed token ∧ token.payload.userId = some user.id ∧
    state.presented token.compact) ∨
  ∃ claims, state.asserted claims ∧ Email claims user.email ∧
    normalizedEmailVerified claims = true

/-- Every verified email is proven. -/
def Provenance (state : ProvenanceState) : Prop :=
  ∀ user ∈ state.world.users, user.emailVerified = true → Proven state user

/-! ## The condition -/

/-- What a token decodes to was signed: for a mail, or by a function for
another kind of token. -/
def Genuine (deployment : Deployment) (state : ProvenanceState) :
    ProvenanceEvent → Prop
  | .verifyEmail _ readings compact => ∀ claims,
      deployment.tokens.decodeJwtToken compact (readings.utcNow 0) true =
        .ok claims →
      ∃ token, token.compact = compact ∧ token.payload = claims ∧
        (state.mailed token ∨
          ∃ kind, kind ≠ .verification ∧ Minted deployment kind token)
  | _ => True

/-- A new user is made for claims whose email the provider asserts as verified,
or for claims without both. -/
def Vouching (deployment : Deployment) (db : Connection) (readings : Readings)
    (tenantId : String) (provider : ProviderRow) (claims : UpstreamClaims)
    (world : World) : Prop :=
  ∀ subject row users, Provisions deployment db readings tenantId provider claims
    subject row world users →
      (normalizedEmailVerified claims = true ↔ ∃ email, Email claims email)

/-- A token without a purpose names no unverified user, and new users are made
for claims that vouch for their email. -/
def Vouched (deployment : Deployment) (world : World) :
    ProvenanceEvent → Prop
  | .verifyEmail db readings compact => ∀ claims userId,
      deployment.tokens.decodeJwtToken compact (readings.utcNow 0) true =
        .ok claims →
      claims.purpose = none → claims.userId = some userId →
      ∀ user ∈ world.users, user.id = userId → db.sees user.tenantId = true →
        user.emailVerified = true
  | .issue (.flow call) => ∀ request txn provider claims between,
      call.request = .callback request →
      CallbackAsserts deployment call.readings request world txn provider claims
        between →
      Vouching deployment .owner call.readings txn.tenantId provider claims
        between
  | .issue (.token readings request) => ∀ db client provider claims between,
      ExchangePresents deployment readings request world db client provider claims
        between →
      Vouching deployment db readings client.tenantId provider claims between
  | _ => True

/-- Tokens are signed by the service, and the event is vouched for. -/
structure Careful (deployment : Deployment) (state : ProvenanceState)
    (event : ProvenanceEvent) : Prop where
  genuine : Genuine deployment state event
  vouched : Vouched deployment state.world event

/-! ## Requests that insert no user -/

/-- The statement inserts no user. -/
def InsertsNoUser : Stmt → Prop
  | .user _ (.insert _) => False
  | _ => True

section Reads

variable {deployment : Deployment} {world : World} {db : Connection}
variable {readings : Readings}

theorem users_of_reads {α : Type} {program : App α}
    (reads : Within InsertsNoUser program) :
    (App.run deployment program world).2.users = world.users := by
  have keeps (stmt : Stmt) (before : World) (reading : InsertsNoUser stmt)
      (same : before.users = world.users) :
      (perform deployment stmt before).2.users = world.users := by
    rw [← same]
    by_cases table : stmt.table = .users
    case neg => exact users_perform deployment table
    case pos =>
      cases stmt with
      | user db stmt =>
          cases stmt with
          | insert => exact reading.elim
          | _ => rfl
      | _ => cases table
  exact reads.run_preserves keeps rfl

theorem reads_of_uses {α : Type} (tables : List Table) {program : App α}
    (uses : Uses tables program) (unused : .users ∉ tables) :
    Within InsertsNoUser program := by
  refine uses.mono fun stmt mem => ?_
  cases stmt with
  | user db stmt => exact absurd mem unused
  | _ => trivial

theorem reads_ask {stmt : Stmt} (reading : InsertsNoUser stmt) :
    Within InsertsNoUser (ask stmt) :=
  ⟨reading, fun _ => trivial⟩

theorem reads_ofExcept {α : Type} (result : Except Exn α) :
    Within InsertsNoUser (ofExcept result) :=
  trivial

theorem reads_getDatabasePool {tenantHeader queryClientId : Option String}
    {formClientId : PyValue} :
    Within InsertsNoUser
      (getDatabasePool tenantHeader queryClientId formClientId) :=
  reads_of_uses [.clients] (uses_getDatabasePool (by decide)) (by decide)

theorem reads_validateClient {clientId clientSecret : PyValue} :
    Within InsertsNoUser (validateClient deployment clientId clientSecret) :=
  reads_of_uses [.clients] (uses_validateClient (by decide)) (by decide)

theorem reads_authenticate {ip email tenantId password : String}
    {deviceInfo : Option String} :
    Within InsertsNoUser (authenticate deployment db readings ip email tenantId
      password deviceInfo) := by
  unfold authenticate authenticateUnguarded createSession
  refine Within.tryCatch ?_ fun _ => within_done
  split
  · exact within_done
  refine Within.bind (reads_ask (by exact trivial)) fun rows => ?_
  split
  · exact within_done
  refine (reads_ofExcept _).bind fun verified => ?_
  split
  · exact within_done
  exact (reads_ofExcept _).bind fun _ => (reads_ofExcept _).bind fun _ =>
    (reads_ofExcept _).bind fun _ =>
    (reads_ask (by exact trivial)).bind fun _ => within_done

theorem reads_refresh {worker : Nat} {request : RefreshRequest} :
    Within InsertsNoUser (refresh deployment worker db readings request) := by
  unfold refresh reissue
  refine (reads_ofExcept _).bind fun token => ?_
  split
  · exact within_done
  refine (reads_ofExcept _).bind fun subject =>
    (reads_ask (by exact trivial)).bind fun modified => ?_
  split
  · exact (reads_of_uses [.redis] (uses_revokeToken (by decide)) (by decide)).bind
      fun _ => within_done
  · refine (reads_ofExcept _).bind fun _ =>
      (reads_ask (by exact trivial)).bind fun rows => ?_
    split
    · exact within_done
    split
    · exact within_done
    exact (reads_ofExcept _).bind fun _ => (reads_ofExcept _).bind fun _ =>
      within_done

theorem reads_loginSubmit {request : LoginRequest} :
    Within InsertsNoUser (loginSubmit deployment db readings request) := by
  unfold loginSubmit
  refine reads_validateClient.bind fun found => ?_
  cases found with
  | none => exact within_done
  | some client =>
      refine (reads_ask (by exact trivial)).bind fun user => ?_
      cases user with
      | none => exact within_done
      | some user =>
          refine (reads_ofExcept _).bind fun verified => ?_
          dsimp only
          split
          · exact within_done
          split
          · exact within_done
          split
          · exact within_done
          exact (reads_ofExcept _).bind fun _ => within_done

theorem reads_authorizationCodeGrant {client : ClientRow} {clientId : PyValue}
    {data : List (String × PyValue)} :
    Within InsertsNoUser (authorizationCodeGrant deployment db readings client
      clientId data) := by
  unfold authorizationCodeGrant
  dsimp only
  split
  · exact within_done
  refine Within.bind (reads_of_uses [.codes]
    (uses_validateAuthorizationCode (by decide)) (by decide)) fun found => ?_
  cases found with
  | none => exact within_done
  | some row =>
      refine (reads_ask (by exact trivial)).bind fun user => ?_
      cases user with
      | none => exact within_done
      | some user =>
          refine reads_of_uses [.policies, .refreshTokens] ?_ (by decide)
          exact (uses_fetchUserPolicies (by decide)).bind fun _ =>
            (uses_ofExcept _).bind fun _ =>
            (uses_createRefreshToken (by decide)).bind fun _ =>
            (uses_ofExcept _).bind fun _ => within_done

theorem reads_refreshTokenGrant {client : ClientRow} {clientId : PyValue}
    {data : List (String × PyValue)} :
    Within InsertsNoUser (refreshTokenGrant deployment db readings client
      clientId data) := by
  unfold refreshTokenGrant
  dsimp only
  split
  · exact within_done
  refine Within.bind (reads_of_uses [.refreshTokens]
    (uses_validateRefreshToken (by decide)) (by decide)) fun found => ?_
  cases found with
  | none => exact within_done
  | some row =>
      refine (reads_ask (by exact trivial)).bind fun user => ?_
      cases user with
      | none => exact within_done
      | some user =>
          refine reads_of_uses [.policies, .refreshTokens] ?_ (by decide)
          exact (uses_revokeRefreshToken (by decide)).bind fun _ =>
            (uses_fetchUserPolicies (by decide)).bind fun _ =>
            (uses_ofExcept _).bind fun _ =>
            (uses_createRefreshToken (by decide)).bind fun _ => within_done

end Reads

/-! ## The users a sign-in leaves -/

section Users

variable {deployment : Deployment} {world : World}

/-- The users stay, or one is provisioned for claims that a provider asserts in
the request. -/
def IssueUsers (deployment : Deployment) (world : World) (request : IssueRequest)
    (users : UserTable) : Prop :=
  users = world.users ∨ ∃ db readings tenantId provider claims between subject row,
    (ProvenanceEvent.issue request).Asserts deployment world claims ∧
    (Vouched deployment world (.issue request) →
      Vouching deployment db readings tenantId provider claims between) ∧
    between.users = world.users ∧
    Provisions deployment db readings tenantId provider claims subject row between
      users

theorem ends_flow {call : FlowCall} :
    App.Ends deployment (call.program deployment) world fun after =>
      IssueUsers deployment world (.flow call) after.users := by
  obtain ⟨tenantHeader, readings, request⟩ := call
  cases request with
  | authorize request formClientId =>
      refine .inl (users_of_uses [.clients, .providers, .transactions, .upstream]
        ?_ (by decide))
      exact (uses_getDatabasePool (by decide)).bind fun _ =>
        uses_authorize (by decide) (by decide) (by decide) (by decide)
  | login request queryClientId =>
      exact .inl (users_of_reads
        (reads_getDatabasePool.bind fun _ => reads_loginSubmit))
  | consent request queryClientId =>
      refine .inl (users_of_uses [.clients, .codes] ?_ (by decide))
      exact (uses_getDatabasePool (by decide)).bind fun _ =>
        uses_consentSubmit (by decide)
  | callback request =>
      refine ends_federationCallback.mono fun after ends => ends.imp_right ?_
      rintro ⟨txn, provider, claims, between, subject, row, asserts, provisions⟩
      obtain ⟨calls, betweenEq⟩ := asserts.asserts.after_eq
      refine ⟨.owner, readings, txn.tenantId, provider, claims, between, subject,
        row, ⟨request, txn, provider, between, rfl, asserts⟩, ?_, ?_, provisions⟩
      · exact fun vouched =>
          vouched request txn provider claims between rfl asserts
      · rw [betweenEq]

theorem connects_of_run {request : TokenRequest} {db : Connection}
    {between : World}
    (connected : App.run deployment (getDatabasePool request.tenantHeader
      request.queryClientId (PyValue.get request.form "client_id")) world =
        (.ok db, between)) :
    between = world ∧ Connects world request db := by
  have same := @run_clients deployment world _ _
    (@uses_getDatabasePool [.clients] request.tenantHeader request.queryClientId
      (PyValue.get request.form "client_id") (by decide))
  rw [connected] at same
  have gives : App.Gives deployment (getDatabasePool request.tenantHeader
      request.queryClientId (PyValue.get request.form "client_id") >>= pure) world
        fun found _ => found = db := by
    rw [App.gives_bind, App.Gives, StatementTree.gives_of_run connected]
    exact App.gives_pure.mpr rfl
  obtain ⟨found, connects, isFound⟩ := gives_getDatabasePool.mp gives
  exact ⟨same, App.gives_pure.mp isFound ▸ connects⟩

attribute [local irreducible] SigningKeyManager.signToken in
theorem ends_grant {readings : Readings} {request : TokenRequest} {db : Connection}
    {data : List (String × PyValue)} {client : ClientRow} {id : String}
    (connects : Connects world request db) (dataEq : request.data = .ok data)
    (isId : (extractClientCredentials deployment request.authorization data).1 =
      .text id)
    (active : world.activeClient id = some client) :
    App.Ends deployment (grant deployment db readings client
        (extractClientCredentials deployment request.authorization data).1 data)
      world fun after =>
        IssueUsers deployment world (.token readings request) after.users := by
  unfold grant
  dsimp only
  split
  case isTrue => exact .inl (users_of_reads reads_authorizationCodeGrant)
  case isFalse =>
    split
    case isTrue => exact .inl (users_of_reads reads_refreshTokenGrant)
    case isFalse =>
      split
      case isTrue =>
        exact .inl (users_of_uses [] TokenCalls.uses_clientCredentialsGrant
          (by decide))
      case isFalse =>
        split
        case isFalse => exact .inl rfl
        case isTrue byExchange =>
          refine ends_tokenExchangeGrant.mono fun after ends => ends.imp_right ?_
          rintro ⟨provider, claims, between, subject, row, presents, provisions⟩
          obtain ⟨calls, betweenEq⟩ := presents.after_eq
          have exchanged : ExchangePresents deployment readings request world db
              client provider claims between :=
            ⟨connects, data, id, dataEq, isId, active, byExchange, presents⟩
          refine ⟨db, readings, client.tenantId, provider, claims, between,
            subject, row, ⟨db, client, provider, between, exchanged⟩, ?_, ?_,
            provisions⟩
          · exact fun vouched =>
              vouched db client provider claims between exchanged
          · rw [betweenEq]

theorem ends_postToken {readings : Readings} {request : TokenRequest} :
    App.Ends deployment (postToken deployment readings request) world
      fun after =>
        IssueUsers deployment world (.token readings request) after.users := by
  unfold postToken
  refine ends_bind_of_uses [.clients] (uses_getDatabasePool (by decide))
    (by decide) (.inl rfl) fun db between connected _ => ?_
  obtain ⟨same, connects⟩ := connects_of_run connected
  rw [same]
  unfold tokenEndpoint
  refine App.ends_ofExcept_bind (fun data dataEq => ?_) (.inl rfl)
  refine ends_bind_of_uses [.clients] (uses_validateClient (by decide))
    (by decide) (.inl rfl) fun found between validated _ => ?_
  cases found with
  | none =>
      have same := @run_clients deployment world _ _
        (@uses_validateClient [.clients] deployment (extractClientCredentials
          deployment request.authorization data).1 (extractClientCredentials
          deployment request.authorization data).2 (by decide))
      rw [validated] at same
      exact .inl (congrArg World.users same)
  | some client =>
      obtain ⟨same, id, isId, active⟩ := validateClient_eq_ok validated
      rw [same]
      exact ends_grant connects dataEq isId active

theorem users_issue (request : IssueRequest) :
    IssueUsers deployment world request
      (App.run deployment (request.program deployment) world).2.users := by
  cases request with
  | authenticate db readings ip email tenantId password deviceInfo =>
      exact .inl (users_of_reads (reads_authenticate.bind fun _ => within_done))
  | refresh worker db readings request =>
      exact .inl (users_of_reads (reads_refresh.bind fun _ => within_done))
  | flow call => exact ends_bind_of_frame ends_flow fun _ _ => rfl
  | token readings request =>
      exact ends_bind_of_frame ends_postToken fun _ _ => rfl

end Users

/-! ## The users a registration leaves -/

/-- The statement changes no user and inserts only unverified ones. -/
def Registers : ManagementStmt → Prop
  | .core (.user _ (.insert row)) => row.emailVerified = false
  | .verification .. => False
  | _ => True

/-- New users are unverified. -/
def Registered (before after : UserTable) : Prop :=
  ∀ user ∈ after, user ∈ before ∨ user.emailVerified = false

section Registrations

variable {deployment : Deployment} {world : World} {db : Connection}
variable {readings : Readings}

theorem users_clientUpdate (stmt : ClientUpdateStmt) :
    (stmt.perform world).2.users = world.users := by
  cases stmt with
  | byId => rfl
  | delete => rfl
  | insert row =>
      simp only [ClientUpdateStmt.perform]
      split <;> rfl
  | _ =>
      simp only [ClientUpdateStmt.perform]
      split <;> rfl

theorem users_providerUpdate (stmt : ProviderUpdateStmt) :
    (stmt.perform world).2.users = world.users := by
  cases stmt with
  | delete => rfl
  | insert row =>
      simp only [ProviderUpdateStmt.perform]
      split <;> rfl
  | update tenantId id row =>
      simp only [ProviderUpdateStmt.perform]
      split
      · rfl
      · split <;> rfl

theorem registered_insert {row : UserRow} (unverified : row.emailVerified = false) :
    Registered world.users
      (perform deployment (.user db (.insert row)) world).2.users := by
  intro user userMem
  rcases @TenantCoherence.perform_insert_user deployment world db row with
    ⟨-, inserted⟩ | ⟨-, unchanged⟩
  · refine ((KeyedTable.mem_of_insert inserted).mp userMem).imp_right ?_
    rintro rfl
    exact unverified
  · rw [← unchanged]
    exact .inl userMem

theorem Registered.trans {first second third : UserTable}
    (early : Registered first second) (late : Registered second third) :
    Registered first third :=
  fun user userMem => (late user userMem).elim (early user) .inr

theorem registered_of_registers {α : Type} {program : ManagementApp α}
    (registers : Within Registers program) :
    Registered world.users (ManagementApp.run deployment program world).2.users := by
  have keeps (stmt : ManagementStmt) (before : World) (allowed : Registers stmt)
      (held : Registered world.users before.users) :
      Registered world.users (manage deployment stmt before).2.users := by
    refine held.trans fun user userMem => ?_
    cases stmt with
    | core stmt =>
        by_cases table : stmt.table = .users
        case neg =>
          have same : (manage deployment (.core stmt) before).2.users =
              before.users := users_perform deployment table
          rw [same] at userMem
          exact .inl userMem
        case pos =>
          cases stmt with
          | user db stmt =>
              cases stmt with
              | insert row =>
                  exact @registered_insert deployment before db row allowed user
                    userMem
              | _ => exact .inl userMem
          | _ => cases table
    | verification => exact allowed.elim
    | client stmt =>
        have same : (manage deployment (.client stmt) before).2.users =
            before.users := users_clientUpdate stmt
        rw [same] at userMem
        exact .inl userMem
    | provider stmt =>
        have same : (manage deployment (.provider stmt) before).2.users =
            before.users := users_providerUpdate stmt
        rw [same] at userMem
        exact .inl userMem
    | _ => exact .inl userMem
  exact registers.run_preserves keeps fun user => .inl

theorem registers_send {stmt : ManagementStmt} (allowed : Registers stmt) :
    Within Registers (ManagementApp.send stmt) :=
  ⟨allowed, fun _ => trivial⟩

theorem registers_lift {α : Type} (result : Except Exn α) :
    Within Registers (ManagementApp.lift result) :=
  trivial

theorem registers_signupTenant {clientId : String} :
    Within Registers (signupTenant deployment clientId) := by
  unfold signupTenant
  split
  · refine Within.bind (Within.embed ?_) fun _ => within_done
    refine (uses_validateClient (by decide) : Uses [.clients] _).mono
      fun stmt mem => ?_
    cases stmt with
    | client stmt => trivial
    | _ => simp [Stmt.table] at mem
  · exact within_done

theorem registers_signupSubject {invitedEmail : Bool} {request : SignupRequest} :
    Within Registers (signupSubject deployment readings invitedEmail request) := by
  unfold signupSubject signupInvitation
  refine registers_signupTenant.bind fun tenantId => ?_
  split
  · refine Within.bind (Within.tryCatch ?_ fun _ => within_done) fun invite => ?_
    · exact Within.bind ((registers_lift _).bind fun _ =>
        registers_send (by exact trivial)) fun _ => within_done
    · split <;> exact within_done
  · exact within_done

attribute [local irreducible] SigningKeyManager.signToken in
theorem registers_insertSignup {tenantId email : String} {role : Option String}
    {request : SignupRequest} :
    Within Registers (insertSignup deployment db readings tenantId email role
      request) := by
  unfold insertSignup acceptInvitation
  refine Within.bind (registers_send (by exact rfl)) fun _ => ?_
  refine Within.bind ?_ fun _ => (registers_lift _).bind fun _ => within_done
  split
  · refine Within.tryCatch ?_ fun _ => within_done
    exact (registers_lift _).bind fun _ => registers_send (by exact trivial)
  · exact within_done

theorem registers_signupSubmit {request : SignupRequest} :
    Within Registers (signupSubmit deployment db readings request) := by
  unfold signupSubmit
  split
  · exact registers_signupTenant.bind fun _ => within_done
  split
  · exact registers_signupTenant.bind fun _ => within_done
  refine registers_signupSubject.bind fun subject => ?_
  cases subject with
  | failure => exact within_done
  | success subject =>
      obtain ⟨tenantId, role, email⟩ := subject
      dsimp only
      split
      · exact within_done
      refine Within.bind (registers_send (by exact trivial)) fun existing => ?_
      split
      · exact within_done
      · exact registers_insertSignup

theorem registers_signupApi {request : SignupRequest} :
    Within Registers (signupApi deployment db readings request) := by
  unfold signupApi
  refine registers_signupSubject.bind fun subject => ?_
  cases subject with
  | failure => exact within_done
  | success subject =>
      obtain ⟨tenantId, role, email⟩ := subject
      dsimp only
      split
      · exact within_done
      refine Within.bind (registers_send (by exact trivial)) fun existing => ?_
      split
      · exact within_done
      split
      · exact within_done
      · exact registers_insertSignup

theorem registers_onboardTransaction {request : TenantOnboardingRequest} :
    Within Registers (onboardTransaction deployment db readings request) := by
  unfold onboardTransaction assignDefaultPolicies createTenantPolicies
  refine Within.bind (registers_send (by exact trivial)) fun _ =>
    Within.bind (registers_send (by exact rfl)) fun _ => ?_
  refine Within.bind ?_ fun _ => Within.bind ?_ fun _ => within_done
  · refine Within.bind (registers_send (by exact trivial)) fun inserted => ?_
    split <;> exact within_done
  · split <;> exact within_done

/-- A transaction that fails leaves the users. -/
theorem registered_onboardTenant {request : TenantOnboardingRequest} :
    Registered world.users
      (onboardTenant deployment db readings request world).2.users := by
  have registered := @registered_of_registers deployment world _ _
    (@registers_onboardTransaction deployment db readings request)
  unfold onboardTenant ManagementApp.runAtomic StatementTree.runAtomic
  unfold ManagementApp.run at registered
  split
  case h_1 found after ran =>
    rw [ran] at registered
    exact registered
  case h_2 => exact fun user => .inl

/-- `verify_email` verifies the user that its token names. -/
theorem users_verifyEmail {compact : String} {user : UserRow}
    (userMem : user ∈ (ManagementApp.run deployment (verifyEmail deployment db
      readings compact) world).2.users) :
    user ∈ world.users ∨ ∃ held ∈ world.users, user = held.verifyEmail ∧
      db.sees held.tenantId = true ∧
      verifiedUser deployment compact (readings.utcNow 0) = .ok held.id := by
  unfold verifyEmail at userMem
  cases verified : verifiedUser deployment compact (readings.utcNow 0) with
  | error error =>
      rw [verified] at userMem
      exact .inl userMem
  | ok userId =>
      rw [verified] at userMem
      obtain ⟨held, heldMem, isUser⟩ := 
        (KeyedTable.mem_update UserRow.verifyEmail_id).mp userMem
      split at isUser
      case isTrue selected =>
        simp only [Bool.and_eq_true, decide_eq_true_eq] at selected
        exact .inr ⟨held, heldMem, isUser, selected.2, by rw [selected.1.1]⟩
      case isFalse => exact .inl (isUser ▸ heldMem)

end Registrations

/-! ## The result -/

section Run

variable {deployment : Deployment} {state next : ProvenanceState}
variable {event : ProvenanceEvent} {user : UserRow}

/-- What proves an email goes on proving it. -/
theorem Proven.step (proven : Proven state user)
    (stepEq : provenanceStep deployment state event = some next) :
    Proven next user := by
  cases stepEq
  rcases proven with ⟨token, mailed, isUser, presented⟩ |
    ⟨claims, asserted, isEmail, verified⟩
  · exact .inl ⟨token, .inl mailed, isUser, .inl presented⟩
  · exact .inr ⟨claims, .inl asserted, isEmail, verified⟩

/-- A user whose email `verify_email` verifies presented the token of a mail. -/
theorem proven_of_verifyEmail {db : Connection} {readings : Readings}
    {compact : String}
    (genuine : Genuine deployment state (.verifyEmail db readings compact))
    (vouched : Vouched deployment state.world (.verifyEmail db readings compact))
    (stepEq : provenanceStep deployment state (.verifyEmail db readings compact) =
      some next)
    (userMem : user ∈ state.world.users) (seen : db.sees user.tenantId = true)
    (unverified : user.emailVerified ≠ true)
    (verified : verifiedUser deployment compact (readings.utcNow 0) =
      .ok user.id) : Proven next user.verifyEmail := by
  unfold verifiedUser at verified
  split at verified
  case h_1 => cases verified
  case h_2 claims decoded =>
    have decoded := (TokenService.decodePurposeToken_eq_ok.mp decoded).1
    split at verified
    case isTrue => cases verified
    case isFalse purpose =>
      split at verified
      case h_1 => cases verified
      case h_2 userId userEq =>
        obtain rfl : userId = user.id := Except.ok.inj verified
        have isMail : claims.purpose = some "email_verify" := by
          by_contra other
          have without : claims.purpose = none := by
            by_contra named
            simp [named, other] at purpose
          exact unverified
            (vouched claims user.id decoded without userEq user userMem rfl seen)
        obtain ⟨token, isToken, rfl, signed⟩ := genuine claims decoded
        rcases signed with mailed | ⟨kind, other, minted⟩
        · cases stepEq
          exact .inl ⟨token, .inl mailed, userEq, .inr isToken.symm⟩
        · have purposeEq := minted.carries.purpose
          rw [isMail] at purposeEq
          cases kind with
          | verification => exact absurd rfl other
          | _ => simp [TokenKinds.TokenKind.purpose] at purposeEq

/-- A user that is provisioned as verified has an email that a provider asserts
as verified. -/
theorem proven_of_provisions {db : Connection} {readings : Readings}
    {tenantId : String} {provider : ProviderRow} {claims : UpstreamClaims}
    {world : World} {subject : Option String} {row : UserRow} {users : UserTable}
    (vouching : Vouching deployment db readings tenantId provider claims world)
    (provisions : Provisions deployment db readings tenantId provider claims
      subject row world users)
    (verified : row.emailVerified = true) :
    Email claims row.email ∧ normalizedEmailVerified claims = true := by
  have vouches := vouching subject row users provisions
  obtain ⟨email, isEmail, made⟩ := provisions.made
  obtain ⟨-, -, emailEq, -, verifiedEq⟩ := provisionedUser_eq_ok made
  have asserted : normalizedEmailVerified claims = true := by
    rcases isEmail with ⟨rfl, -⟩ | ⟨address, -, isAddress, -⟩
    · simpa [verified] using verifiedEq
    · exact vouches.mpr ⟨address, isAddress⟩
  obtain ⟨other, isOther⟩ := vouches.mp asserted
  rcases isEmail with ⟨-, falsy⟩ | ⟨address, rfl, isAddress, -⟩
  · rw [isOther.1, PyValue.truthy, isOther.2] at falsy
    cases falsy
  · have given : given (some address) = true := isAddress.2
    rw [if_pos given, Option.getD_some] at emailEq
    exact ⟨emailEq ▸ isAddress, asserted⟩

theorem provenance_of_registered
    (registered : Registered state.world.users next.world.users)
    (holds : Provenance state)
    (stepEq : provenanceStep deployment state event = some next) :
    Provenance next := by
  intro user userMem verified
  rcases registered user userMem with old | unverified
  · exact (holds user old verified).step stepEq
  · rw [verified] at unverified
    cases unverified

theorem provenance_step (holds : Provenance state)
    (careful : Careful deployment state event)
    (stepEq : provenanceStep deployment state event = some next) :
    Provenance next := by
  have nextEq := Option.some.inj stepEq
  cases event with
  | signupSubmit db readings request =>
      refine provenance_of_registered ?_ holds stepEq
      rw [← nextEq]
      exact registered_of_registers registers_signupSubmit
  | signupApi db readings request =>
      refine provenance_of_registered ?_ holds stepEq
      rw [← nextEq]
      exact registered_of_registers registers_signupApi
  | onboard db readings mailReadings request =>
      refine provenance_of_registered ?_ holds stepEq
      rw [← nextEq]
      exact registered_onboardTenant
  | wait seconds =>
      refine provenance_of_registered ?_ holds stepEq
      rw [← nextEq]
      exact fun user => .inl
  | verifyEmail db readings compact =>
      intro user userMem verified
      have userMem : user ∈ (ManagementApp.run deployment (verifyEmail deployment
          db readings compact) state.world).2.users := by
        rw [← nextEq] at userMem
        exact userMem
      rcases users_verifyEmail userMem with
        old | ⟨held, heldMem, rfl, seen, names⟩
      · exact (holds user old verified).step stepEq
      · by_cases before : held.emailVerified = true
        · exact (holds held heldMem before).step stepEq
        · exact proven_of_verifyEmail careful.genuine careful.vouched stepEq
            heldMem seen before names
  | issue request =>
      intro user userMem verified
      have userMem : user ∈ (App.run deployment (request.program deployment)
          state.world).2.users := by
        rw [← nextEq] at userMem
        exact userMem
      rcases @users_issue deployment state.world request with
        same | ⟨db, readings, tenantId, provider, claims, between, subject, row,
          asserts, vouching, sameUsers, provisions⟩
      · rw [same] at userMem
        exact (holds user userMem verified).step stepEq
      · rcases (KeyedTable.mem_of_insert provisions.inserted).mp userMem with
          old | rfl
        · rw [sameUsers] at old
          exact (holds user old verified).step stepEq
        · obtain ⟨isEmail, asserted⟩ := proven_of_provisions
            (vouching careful.vouched) provisions verified
          rw [← nextEq]
          exact .inr ⟨claims, .inr asserts, isEmail, asserted⟩

/-- Along every run in which signatures are genuine and nothing unvouched
verifies an email, every verified email is proven. -/
theorem always_provenance (deployment : Deployment) (start : ProvenanceState)
    (events : List ProvenanceEvent) (holds : Provenance start)
    (careful : Along (provenanceStep deployment) (Careful deployment) start
      events) :
    Always (provenanceStep deployment) Provenance start events :=
  always_of_along (fun _ _ _ => provenance_step) holds careful

end Run

/-! ## A signup -/

/-- A tenant with a client. -/
def oneTenant : World where
  tenants := .single { id := "t" }
  clients :=
    .single ⟨"c", "t", "secret", "App", ["https://app/cb"], ["openid"], true⟩

/-- The tenant with a user that has a policy and no verified email. -/
def unverifiedUser : World where
  tenants := oneTenant.tenants
  clients := oneTenant.clients
  users := .single ⟨"u", "t", "u@t", "password", "U", "T", none, true, false, 0⟩
  userPolicies := .single ⟨"t", "u", "p", ⟨"documents", ["READ"], []⟩⟩

/-- A state without a history. -/
def fresh (world : World) : ProvenanceState :=
  ⟨world, fun _ => False, fun _ => False, fun _ => False⟩

/-- What the requests read. -/
def readings : Readings :=
  ⟨fun _ => 0, fun _ => 0, fun _ => "u"⟩

/-- A deployment that knows the verification token of the user. -/
def withMail : Deployment :=
  .plain [("n.", TokenService.verificationPayload 0 0 "u" "t")]

def signup : ProvenanceEvent :=
  .signupApi (.forTenant "t") readings {
    email := "u@t"
    password := "password"
    confirmPassword := "password"
    firstName := "U"
    lastName := "T"
    clientId := "c" }

/-- A user signs up and presents the token of the mail. -/
theorem signed_up_user_proven :
    Always (provenanceStep withMail) Provenance (fresh oneTenant)
      [signup, .verifyEmail .owner readings "n."] := by
  refine always_provenance _ _ _ (fun user userMem => ?_) ⟨⟨trivial, trivial⟩, ?_⟩
  · exact absurd userMem KeyedTable.not_mem_empty
  rintro _ ⟨⟩
  refine ⟨⟨?_, ?_⟩, fun _ _ => trivial⟩
  · rintro claims ⟨⟩
    exact ⟨_, rfl, rfl, .inl (.inr ⟨"u", rfl⟩)⟩
  · rintro claims userId ⟨⟩ ⟨⟩

/-- A deployment that knows the access token of the user. -/
def withLogin : Deployment :=
  .plain [("j.u-0", { loginPayload 0 "u@t" "u" (some "t") none [("documents", 1)]
    with jti := some "u-0" })]

/-- A user that has never had a mail presents an access token. -/
theorem access_token_verifies_email :
    ¬ Always (provenanceStep withLogin) Provenance (fresh unverifiedUser) [
      .issue (.authenticate (.forTenant "t") readings "127.0.0.1" "u@t" "t"
        "password" none),
      .verifyEmail .owner readings "j.u-0"] := by
  rintro ⟨-, loggedIn⟩
  obtain ⟨-, presented⟩ := loggedIn _ rfl
  have provenance := always_here (presented _ rfl)
  rcases provenance _ (.head _) rfl with ⟨token, mailed, -⟩ | ⟨claims, asserted, -⟩
  · exact mailed.elim (fun earlier => earlier.elim id id) id
  · exact asserted.elim (fun earlier => earlier.elim id id) id

end EmailProvenance

end HexIam
