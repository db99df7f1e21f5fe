import HexIam.TokenEndpoint

/-!
# Which tables a program uses

A statement belongs to one table.  For each program of the service this file
says which tables its statements belong to, so that a proof about one table
passes over the programs that do not use it.
-/

namespace HexIam

open StatementTree

/-! ## Tables -/

/-- The groups of statements. -/
inductive Table : Type
  | users
  | policies
  | templates
  | sessions
  | clients
  | codes
  | refreshTokens
  | providers
  | identities
  | transactions
  | redis
  | upstream
  deriving DecidableEq, Repr

/-- The table of a statement. -/
def Stmt.table : Stmt → Table
  | .user .. => .users
  | .policy .. => .policies
  | .template .. => .templates
  | .session _ => .sessions
  | .client _ => .clients
  | .code _ => .codes
  | .refreshToken _ => .refreshTokens
  | .provider _ => .providers
  | .identity .. => .identities
  | .transaction _ => .transactions
  | .redis _ => .redis
  | .upstream _ => .upstream

theorem perform_redis (deployment : Deployment) (stmt : RedisStmt)
    (world : World) :
    ∃ stream workers, (perform deployment (.redis stmt) world).2 =
      { world with stream := stream, workers := workers } := by
  cases stmt with
  | bloomHas worker jti => exact ⟨world.stream, world.workers, rfl⟩
  | bloomAdd worker jti => cases jti <;> exact ⟨_, _, rfl⟩
  | xadd jti userId tenantId reason => cases jti <;> exact ⟨_, _, rfl⟩
  | publish jti => cases jti <;> exact ⟨_, _, rfl⟩

section Frame

variable (deployment : Deployment) {stmt : Stmt} {world : World}

theorem codes_perform (other : stmt.table ≠ .codes) :
    (perform deployment stmt world).2.codes = world.codes := by
  cases stmt with
  | code stmt => exact absurd rfl other
  | redis stmt =>
      obtain ⟨stream, workers, same⟩ := perform_redis deployment stmt world
      rw [same]
  | _ => rfl

theorem refreshTokens_perform (other : stmt.table ≠ .refreshTokens) :
    (perform deployment stmt world).2.refreshTokens = world.refreshTokens := by
  cases stmt with
  | refreshToken stmt => exact absurd rfl other
  | redis stmt =>
      obtain ⟨stream, workers, same⟩ := perform_redis deployment stmt world
      rw [same]
  | _ => rfl

theorem identities_perform (other : stmt.table ≠ .identities) :
    (perform deployment stmt world).2.identities = world.identities := by
  cases stmt with
  | identity db stmt => exact absurd rfl other
  | redis stmt =>
      obtain ⟨stream, workers, same⟩ := perform_redis deployment stmt world
      rw [same]
  | _ => rfl

theorem transactions_perform (other : stmt.table ≠ .transactions) :
    (perform deployment stmt world).2.transactions = world.transactions := by
  cases stmt with
  | transaction stmt => exact absurd rfl other
  | redis stmt =>
      obtain ⟨stream, workers, same⟩ := perform_redis deployment stmt world
      rw [same]
  | _ => rfl

theorem users_perform (other : stmt.table ≠ .users) :
    (perform deployment stmt world).2.users = world.users := by
  cases stmt with
  | user db stmt => exact absurd rfl other
  | redis stmt =>
      obtain ⟨stream, workers, same⟩ := perform_redis deployment stmt world
      rw [same]
  | _ => rfl

theorem userSessions_perform (other : stmt.table ≠ .sessions) :
    (perform deployment stmt world).2.userSessions = world.userSessions := by
  cases stmt with
  | session stmt => exact absurd rfl other
  | redis stmt =>
      obtain ⟨stream, workers, same⟩ := perform_redis deployment stmt world
      rw [same]
  | _ => rfl

theorem userPolicies_perform (other : stmt.table ≠ .policies) :
    (perform deployment stmt world).2.userPolicies = world.userPolicies := by
  cases stmt with
  | policy db stmt => exact absurd rfl other
  | redis stmt =>
      obtain ⟨stream, workers, same⟩ := perform_redis deployment stmt world
      rw [same]
  | _ => rfl

/-- No statement of the service writes `oidc_clients`. -/
theorem clients_perform :
    (perform deployment stmt world).2.clients = world.clients := by
  cases stmt with
  | redis stmt =>
      obtain ⟨stream, workers, same⟩ := perform_redis deployment stmt world
      rw [same]
  | _ => rfl

/-- No statement of the service writes the tables of the management
endpoints. -/
theorem managed_perform :
    (perform deployment stmt world).2.tenants = world.tenants ∧
      (perform deployment stmt world).2.templates = world.templates ∧
      (perform deployment stmt world).2.providers = world.providers ∧
      (perform deployment stmt world).2.invitations = world.invitations := by
  cases stmt with
  | redis stmt =>
      obtain ⟨stream, workers, same⟩ := perform_redis deployment stmt world
      rw [same]
      exact ⟨rfl, rfl, rfl, rfl⟩
  | _ => exact ⟨rfl, rfl, rfl, rfl⟩

/-- No statement advances the clock. -/
theorem now_perform :
    (perform deployment stmt world).2.now = world.now := by
  cases stmt with
  | redis stmt =>
      obtain ⟨stream, workers, same⟩ := perform_redis deployment stmt world
      rw [same]
  | _ => rfl

end Frame

/-! ## Programs -/

/-- Every statement of the program belongs to one of the tables. -/
abbrev Uses {α : Type} (tables : List Table) (program : App α) : Prop :=
  Within (fun stmt => stmt.table ∈ tables) program

/-- What the statements on other tables leave, a program that does not use the
table leaves. -/
theorem frame_of_uses {α β : Type} {deployment : Deployment}
    (field : World → β) (tables : List Table) {table : Table} {program : App α}
    {world : World}
    (frame : ∀ (stmt : Stmt) (before : World), stmt.table ≠ table →
      field (perform deployment stmt before).2 = field before)
    (uses : Uses tables program) (unused : table ∉ tables) :
    field (App.run deployment program world).2 = field world := by
  have keeps (stmt : Stmt) (before : World) (mem : stmt.table ∈ tables)
      (same : field before = field world) :
      field (perform deployment stmt before).2 = field world := by
    rw [frame stmt before fun isTable => unused (isTable ▸ mem), same]
  exact uses.run_preserves keeps rfl

/-- What every statement leaves, every program leaves. -/
theorem frame_of_all {α β : Type} {deployment : Deployment} (field : World → β)
    {program : App α} {world : World}
    (frame : ∀ (stmt : Stmt) (before : World),
      field (perform deployment stmt before).2 = field before) :
    field (App.run deployment program world).2 = field world := by
  have keeps (stmt : Stmt) (before : World)
      (same : field before = field world) :
      field (perform deployment stmt before).2 = field world := by
    rw [frame stmt before, same]
  exact StatementTree.run_preserves _ keeps program rfl

section Obeys

variable {guard : List (LogEntry Stmt Stmt.Resp Exn) → Stmt → Prop}
variable {answers : (stmt : Stmt) → Except Exn stmt.Resp → Prop}
variable {α β : Type} {log : List (LogEntry Stmt Stmt.Resp Exn)}

/-- The rule for a computation without statements. -/
theorem obeys_ofExcept_bind {result : Except Exn α} {continuation : α → App β}
    {post : List (LogEntry Stmt Stmt.Resp Exn) → Except Exn β → Prop}
    (onValue : ∀ value, result = .ok value →
      Obeys guard answers post (continuation value) log)
    (onError : ∀ error, result = .error error → post log (.error error)) :
    Obeys guard answers post (ofExcept result >>= continuation) log :=
  Obeys.done_bind onValue onError

/-- The rule for one statement followed by the rest of a program. -/
theorem obeys_ask_bind {stmt : Stmt} {continuation : stmt.Resp → App β}
    {post : List (LogEntry Stmt Stmt.Resp Exn) → Except Exn β → Prop}
    (allowed : guard log stmt)
    (onValue : ∀ value, answers stmt (.ok value) →
      Obeys guard answers post (continuation value)
        (⟨stmt, .ok value⟩ :: log))
    (onError : ∀ error, answers stmt (.error error) →
      post (⟨stmt, .error error⟩ :: log) (.error error)) :
    Obeys guard answers post (ask stmt >>= continuation) log :=
  Obeys.perform_bind allowed onValue onError

/-- No statement of the log belongs to the table. -/
def Untouched (table : Table) (log : List (LogEntry Stmt Stmt.Resp Exn)) :
    Prop :=
  ∀ entry ∈ log, entry.1.table ≠ table

@[simp]
theorem untouched_nil (table : Table) : Untouched table [] :=
  fun _ entryMem => absurd entryMem List.not_mem_nil

theorem untouched_append {table : Table}
    {first second : List (LogEntry Stmt Stmt.Resp Exn)} :
    Untouched table (first ++ second) ↔
      Untouched table first ∧ Untouched table second := by
  simp only [Untouched, List.mem_append]
  exact ⟨fun both => ⟨fun entry entryMem => both entry (.inl entryMem),
    fun entry entryMem => both entry (.inr entryMem)⟩,
    fun ⟨first, second⟩ entry entryMem =>
      entryMem.elim (first entry) (second entry)⟩

theorem untouched_cons {table : Table} {entry : LogEntry Stmt Stmt.Resp Exn} :
    Untouched table (entry :: log) ↔
      entry.1.table ≠ table ∧ Untouched table log := by
  simp [Untouched]

/-- A program that does not use the table only adds statements on others to
the log, and a guard on that table never stops it. -/
theorem obeys_of_uses (tables : List Table) {program : App α} {table : Table}
    (uses : Uses tables program) (unused : table ∉ tables)
    (free : ∀ log stmt, stmt.table ≠ table → guard log stmt) :
    Obeys guard answers
      (fun after _ => ∃ added, after = added ++ log ∧ Untouched table added)
      program log := by
  refine (Within.obeys uses (fun log stmt mem => free log stmt ?_) log).mono ?_
  · exact fun same => unused (same ▸ mem)
  · rintro after result ⟨added, logEq, addedMem⟩
    exact ⟨added, logEq, fun entry entryMem same =>
      unused (same ▸ addedMem entry entryMem)⟩

end Obeys

section Programs

variable {tables : List Table}

theorem uses_ofExcept {α : Type} (result : Except Exn α) :
    Uses tables (ofExcept result) :=
  trivial

theorem uses_ask {stmt : Stmt} (mem : stmt.table ∈ tables) :
    Uses tables (ask stmt) :=
  ⟨mem, fun _ => trivial⟩

theorem uses_ofJwt {α : Type} (result : Except JwtError α) :
    Uses tables (ofJwt result) := by
  cases result <;> exact trivial

variable {deployment : Deployment} {db : Connection} {readings : Readings}

theorem uses_getDatabasePool {tenantHeader queryClientId : Option String}
    {formClientId : PyValue} (clients : .clients ∈ tables) :
    Uses tables (getDatabasePool tenantHeader queryClientId formClientId) := by
  unfold getDatabasePool requestTenant
  refine Within.bind ?_ fun tenantId => ?_
  · dsimp only
    split
    · exact within_done
    · split
      · exact (uses_ofExcept _).bind fun id => uses_ask clients
      · exact within_done
  · split <;> exact within_done

theorem uses_validateClient {clientId clientSecret : PyValue}
    (clients : .clients ∈ tables) :
    Uses tables (validateClient deployment clientId clientSecret) := by
  unfold validateClient
  refine (uses_ofExcept _).bind fun id => (uses_ask clients).bind fun found => ?_
  cases found with
  | none => exact within_done
  | some client =>
      dsimp only
      split
      · exact (uses_ofExcept _).bind fun verified => within_done
      · exact within_done

theorem uses_validateRedirectUri {clientId redirectUri : String}
    (clients : .clients ∈ tables) :
    Uses tables (validateRedirectUri clientId redirectUri) :=
  (uses_ask clients).bind fun uris => by cases uris <;> exact within_done

theorem uses_fetchUserPolicies {userId tenantId : String}
    (policies : .policies ∈ tables) :
    Uses tables (fetchUserPolicies db userId tenantId) :=
  (uses_ask policies).bind fun _ => within_done

theorem uses_createRefreshToken {random userId tenantId clientId : String}
    {utcNow : Int} (refreshTokens : .refreshTokens ∈ tables) :
    Uses tables (createRefreshToken random utcNow userId tenantId clientId) :=
  (uses_ask refreshTokens).bind fun _ => within_done

theorem uses_validateRefreshToken {refreshToken clientId : PyValue}
    (refreshTokens : .refreshTokens ∈ tables) :
    Uses tables (validateRefreshToken refreshToken clientId) :=
  (uses_ofExcept _).bind fun _ => (uses_ofExcept _).bind fun _ =>
    uses_ask refreshTokens

theorem uses_revokeRefreshToken {refreshToken : PyValue}
    (refreshTokens : .refreshTokens ∈ tables) :
    Uses tables (revokeRefreshToken refreshToken) :=
  (uses_ofExcept _).bind fun _ => uses_ask refreshTokens

theorem uses_validateAuthorizationCode
    {code clientId redirectUri codeVerifier : PyValue}
    (codes : .codes ∈ tables) :
    Uses tables (validateAuthorizationCode deployment code clientId redirectUri
      codeVerifier) := by
  unfold validateAuthorizationCode
  refine (uses_ofExcept _).bind fun _ => (uses_ofExcept _).bind fun _ =>
    (uses_ofExcept _).bind fun _ => (uses_ask codes).bind fun found => ?_
  cases found with
  | none => exact within_done
  | some row =>
      refine (uses_ofExcept _).bind fun met => ?_
      split
      · exact (uses_ask codes).bind fun _ => within_done
      · exact within_done

/-! ### Federation -/

variable {provider : ProviderRow}

theorem uses_resolveEndpoint {configured : Option String}
    {discovered : Discovery → Option String} {missing : Exn}
    (upstream : .upstream ∈ tables) :
    Uses tables (resolveEndpoint provider configured discovered missing) := by
  unfold resolveEndpoint
  split
  · exact within_done
  · refine Within.bind (uses_ask upstream) fun discovery => ?_
    split <;> exact within_done

theorem uses_verifyJwt {subjectToken : String} {audience : Option String}
    {utcNow : Int} (upstream : .upstream ∈ tables) :
    Uses tables (verifyJwt deployment subjectToken provider audience utcNow) := by
  unfold verifyJwt
  split
  · exact uses_ofJwt _
  · exact (uses_resolveEndpoint upstream).bind fun _ =>
      (uses_ask upstream).bind fun _ => uses_ofJwt _

theorem uses_validateBrokerSubjectToken {tenantId : String}
    {subjectToken issuerHint : PyValue} {audience : Option String}
    {utcNow : Int} (providers : .providers ∈ tables)
    (upstream : .upstream ∈ tables) :
    Uses tables (validateBrokerSubjectToken deployment tenantId subjectToken
      audience issuerHint utcNow) := by
  unfold validateBrokerSubjectToken
  split
  · refine (uses_ofJwt _).bind fun unverified => ?_
    dsimp only
    split
    · exact within_done
    · refine (uses_ofExcept _).bind fun issuer =>
        (uses_ask providers).bind fun found => ?_
      cases found with
      | none => exact within_done
      | some provider =>
          exact (uses_verifyJwt upstream).bind fun _ => within_done
  · exact within_done

theorem uses_userToLink {tenantId : String} {claims : UpstreamClaims}
    (users : .users ∈ tables) :
    Uses tables (userToLink db tenantId provider claims) := by
  unfold userToLink
  dsimp only
  split
  · refine (uses_ofExcept _).bind fun email => (uses_ask users).bind fun user => ?_
    split <;> exact within_done
  · exact within_done

theorem uses_linkOrProvision {tenantId : String} {claims : UpstreamClaims}
    {externalSubject : Option String} (users : .users ∈ tables) :
    Uses tables (linkOrProvision deployment db readings tenantId provider claims
      externalSubject) := by
  unfold linkOrProvision provisionUser
  refine (uses_userToLink users).bind fun found => ?_
  cases found with
  | some user => exact within_done
  | none =>
      refine (uses_ofExcept _).bind fun email => (uses_ofExcept _).bind fun row =>
        (uses_ask users).bind fun _ => (uses_ask users).bind fun after => ?_
      cases after <;> exact within_done

theorem uses_findOrCreateLocalUser {tenantId : String} {claims : UpstreamClaims}
    (users : .users ∈ tables) (identities : .identities ∈ tables) :
    Uses tables (findOrCreateLocalUser deployment db readings tenantId provider
      claims) := by
  unfold findOrCreateLocalUser
  split
  · exact within_done
  · refine (uses_ofExcept _).bind fun subject =>
      (uses_ask identities).bind fun linked => ?_
    cases linked with
    | some user => exact within_done
    | none =>
        dsimp only
        split
        · exact within_done
        · exact (uses_linkOrProvision users).bind fun user =>
            (uses_ofExcept _).bind fun email =>
              (uses_ask identities).bind fun _ => within_done

theorem uses_resolveOrProvisionFederatedUser {tenantId : String}
    {subjectToken issuerHint : PyValue} {audience : Option String}
    (users : .users ∈ tables) (identities : .identities ∈ tables)
    (providers : .providers ∈ tables) (upstream : .upstream ∈ tables) :
    Uses tables (resolveOrProvisionFederatedUser deployment db readings tenantId
      subjectToken audience issuerHint) := by
  unfold resolveOrProvisionFederatedUser
  refine (uses_validateBrokerSubjectToken providers upstream).bind fun found => ?_
  rcases found with - | ⟨provider, claims⟩
  · exact within_done
  · exact (uses_findOrCreateLocalUser users identities).bind fun _ => within_done

theorem uses_exchangeCodeForProviderTokens {code redirectUri : String}
    (upstream : .upstream ∈ tables) :
    Uses tables (exchangeCodeForProviderTokens deployment provider code
      redirectUri) := by
  unfold exchangeCodeForProviderTokens
  refine (uses_resolveEndpoint upstream).bind fun endpoint => ?_
  dsimp only
  split
  · exact uses_ask upstream
  · split <;> exact uses_ask upstream

theorem uses_providerClaims {tokens : UpstreamTokens} {utcNow : Int}
    (upstream : .upstream ∈ tables) :
    Uses tables (providerClaims deployment provider tokens utcNow) := by
  unfold providerClaims fetchUserinfo
  dsimp only
  split
  · exact uses_verifyJwt upstream
  · split
    · refine Within.bind ?_ fun _ => within_done
      exact (uses_resolveEndpoint upstream).bind fun _ => uses_ask upstream
    · exact within_done

theorem uses_resolveOrProvisionFromProviderTokens {tenantId : String}
    {tokens : UpstreamTokens} (users : .users ∈ tables)
    (identities : .identities ∈ tables) (upstream : .upstream ∈ tables) :
    Uses tables (resolveOrProvisionFromProviderTokens deployment db readings
      tenantId provider tokens) :=
  (uses_providerClaims upstream).bind fun _ =>
    (uses_findOrCreateLocalUser users identities).bind fun _ => within_done

/-! ### The authorization endpoints -/

theorem uses_beginFederatedAuthorization {tenantId : String}
    {params : AuthorizationParams} (transactions : .transactions ∈ tables)
    (upstream : .upstream ∈ tables) :
    Uses tables (beginFederatedAuthorization deployment readings provider
      tenantId params) := by
  unfold beginFederatedAuthorization createFederationAuthTransaction
    buildProviderAuthorizeUrl
  refine Within.bind ?_ fun _ => Within.bind ?_ fun _ => within_done
  · exact (uses_ask transactions).bind fun _ => uses_ask transactions
  · exact (uses_resolveEndpoint upstream).bind fun _ => within_done

theorem uses_chooseLogin {request : AuthorizeRequest} {client : ClientRow}
    (providers : .providers ∈ tables) (transactions : .transactions ∈ tables)
    (upstream : .upstream ∈ tables) :
    Uses tables (chooseLogin deployment readings request client) := by
  unfold chooseLogin listEnabledIdentityProviders
  dsimp only
  split
  · exact within_done
  · refine (uses_ask providers).bind fun enabled => ?_
    split
    · split
      · exact within_done
      · exact uses_beginFederatedAuthorization transactions upstream
    · split
      · exact within_done
      · exact uses_beginFederatedAuthorization transactions upstream
      · exact within_done

theorem uses_authorize {request : AuthorizeRequest}
    (clients : .clients ∈ tables) (providers : .providers ∈ tables)
    (transactions : .transactions ∈ tables) (upstream : .upstream ∈ tables) :
    Uses tables (authorize deployment readings request) := by
  unfold authorize listEnabledIdentityProviders
  refine (uses_validateClient clients).bind fun found => ?_
  cases found with
  | none => exact within_done
  | some client =>
      refine (uses_validateRedirectUri clients).bind fun registered => ?_
      dsimp only
      split
      · exact within_done
      · split
        · exact within_done
        · split
          · exact (uses_ask providers).bind fun _ => within_done
          · exact uses_chooseLogin providers transactions upstream

theorem uses_loginSubmit {request : LoginRequest} (clients : .clients ∈ tables)
    (users : .users ∈ tables) :
    Uses tables (loginSubmit deployment db readings request) := by
  unfold loginSubmit
  refine (uses_validateClient clients).bind fun found => ?_
  cases found with
  | none => exact within_done
  | some client =>
      refine (uses_ask users).bind fun user => ?_
      cases user with
      | none => exact within_done
      | some user =>
          refine (uses_ofExcept _).bind fun verified => ?_
          dsimp only
          split
          · exact within_done
          · split
            · exact within_done
            · split
              · exact within_done
              · exact (uses_ofExcept _).bind fun _ => within_done

theorem uses_federationCallback {request : CallbackRequest}
    (users : .users ∈ tables) (clients : .clients ∈ tables)
    (providers : .providers ∈ tables) (identities : .identities ∈ tables)
    (transactions : .transactions ∈ tables) (upstream : .upstream ∈ tables) :
    Uses tables (federationCallback deployment readings request) := by
  unfold federationCallback getFederationAuthTransactionByState
    getIdentityProvider consumeFederationAuthTransaction
  split
  · exact within_done
  · split
    · exact within_done
    · refine (uses_ask transactions).bind fun txn => ?_
      cases txn with
      | none => exact within_done
      | some txn =>
          refine (uses_ask providers).bind fun provider => ?_
          dsimp only
          split
          · exact within_done
          · refine Within.bind (Within.tryCatch ?_ fun _ => within_done)
              fun resolved => ?_
            · exact (uses_exchangeCodeForProviderTokens upstream).bind fun _ =>
                (uses_resolveOrProvisionFromProviderTokens users identities
                  upstream).bind fun _ => within_done
            · cases resolved with
              | none => exact within_done
              | some user =>
                  refine (uses_ask transactions).bind fun _ =>
                    (uses_validateClient clients).bind fun client => ?_
                  cases client with
                  | none => exact within_done
                  | some client =>
                      exact (uses_ofExcept _).bind fun _ => within_done

theorem uses_consentSubmit {request : ConsentRequest}
    (codes : .codes ∈ tables) :
    Uses tables (consentSubmit deployment readings request) := by
  unfold consentSubmit storeAuthorizationCode
  dsimp only
  split
  · exact within_done
  · split
    · exact within_done
    · split
      · exact (uses_ask codes).bind fun _ => within_done
      · exact within_done

end Programs

end HexIam
