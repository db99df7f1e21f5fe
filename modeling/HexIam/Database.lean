import HexIam.KeyedTable
import HexIam.Tokens
import Mathlib.Logic.Function.Basic

/-!
# The state of a deployment

The tables of the migrations, with their primary keys, the revocation stream
in Redis and the revocation manager of each worker.  A column that no modelled
statement reads or writes is left out.  Times are whole seconds.
-/

namespace HexIam

/-! ## Rows -/

/-- The JSON document of a policy, as the policy service writes it. -/
structure PolicyDoc where
  resource : String
  actions : List String
  conditions : List (String × PyValue)

structure TenantRow where
  id : String
  name : String := ""
  domain : String := ""
  root : String := ""
  isActive : Bool := true
  deriving DecidableEq, Repr

structure UserRow where
  id : String
  tenantId : String
  email : String
  password : String
  firstName : String
  lastName : String
  role : Option String
  isActive : Bool
  emailVerified : Bool
  lastModified : Int
  deriving DecidableEq, Repr

structure PolicyRow where
  tenantId : String
  userId : String
  policyId : String
  policy : PolicyDoc

/-- The primary key of `user_policies`. -/
def PolicyRow.key (row : PolicyRow) : String × String × String :=
  (row.tenantId, row.userId, row.policyId)

structure TemplateRow where
  id : String
  tenantId : String
  policies : List (String × PyValue)
  roles : List String

structure SessionRow where
  jti : String
  userId : String
  tenantId : String
  deviceInfo : Option String
  ipAddress : Option String
  expiresAt : Int
  revokedAt : Option Int
  revokedReason : Option String
  deriving DecidableEq, Repr

structure ClientRow where
  id : String
  tenantId : String
  clientSecret : String
  name : String
  redirectUris : List String
  scopes : List String
  isActive : Bool
  deriving DecidableEq, Repr

structure CodeRow where
  id : String
  code : String
  clientId : String
  userId : String
  tenantId : String
  redirectUri : String
  scope : String
  codeChallenge : Option String
  codeChallengeMethod : Option String
  nonce : Option String
  used : Bool
  expiresAt : Int
  deriving DecidableEq, Repr

structure RefreshTokenRow where
  jti : String
  userId : String
  tenantId : String
  clientId : String
  expiresAt : Int
  revoked : Bool
  createdAt : Int
  deriving DecidableEq, Repr

structure ProviderRow where
  id : String
  tenantId : String
  name : String
  protocol : String
  issuerUrl : String
  clientId : Option String
  clientSecret : Option String
  discoveryUrl : Option String
  authorizationEndpoint : Option String
  tokenEndpoint : Option String
  userinfoEndpoint : Option String
  jwksUri : Option String
  jwtValidationSecret : Option String
  enabled : Bool
  autoLink : Bool
  authorizationScopes : Option String
  tokenEndpointAuthMethod : Option String
  claimsSource : Option String
  linkByEmailVerifiedOnly : Bool
  defaultRole : Option String
  createdAt : Int
  deriving DecidableEq, Repr

structure IdentityRow where
  id : String
  tenantId : String
  providerId : String
  userId : String
  externalSubject : String
  externalEmail : Option String
  deriving DecidableEq, Repr

/-- The conflict target of the insert into `federated_identities`. -/
def IdentityRow.key (row : IdentityRow) : String × String × String :=
  (row.tenantId, row.providerId, row.externalSubject)

structure TransactionRow where
  id : String
  tenantId : String
  providerId : String
  clientId : String
  redirectUri : String
  scope : String
  state : Option String
  nonce : Option String
  codeChallenge : Option String
  codeChallengeMethod : Option String
  upstreamState : String
  upstreamNonce : Option String
  expiresAt : Int
  consumedAt : Option Int
  deriving DecidableEq, Repr

structure InvitationRow where
  id : String
  tenantId : String
  clientId : Option String
  email : String
  role : Option String
  invitedBy : Option String
  expiresAt : Int
  acceptedAt : Option Int
  deriving DecidableEq, Repr

/-- The fields of an entry of the revocation stream. -/
structure StreamEntry where
  jti : String
  userId : String
  tenantId : String
  reason : String
  deriving DecidableEq, Repr

/-! ## Tables -/

abbrev TenantTable := KeyedTable TenantRow TenantRow.id
abbrev UserTable := KeyedTable UserRow UserRow.id
abbrev PolicyTable := KeyedTable PolicyRow PolicyRow.key
abbrev TemplateTable := KeyedTable TemplateRow TemplateRow.id
abbrev SessionTable := KeyedTable SessionRow SessionRow.jti
abbrev ClientTable := KeyedTable ClientRow ClientRow.id
abbrev CodeTable := KeyedTable CodeRow CodeRow.code
abbrev RefreshTokenTable := KeyedTable RefreshTokenRow RefreshTokenRow.jti
abbrev ProviderTable := KeyedTable ProviderRow ProviderRow.id
abbrev IdentityTable := KeyedTable IdentityRow IdentityRow.key
abbrev TransactionTable := KeyedTable TransactionRow TransactionRow.id
abbrev InvitationTable := KeyedTable InvitationRow InvitationRow.id

/-! ## Workers -/

/-- How far `TokenRevocationManager.initialize` has come on a worker: not
started, replaying the stream with the number of entries read so far, started
with its Pub/Sub task still to subscribe, or subscribed. -/
inductive WorkerPhase : Type
  | stopped
  | replaying (position : Nat)
  | started
  | subscribed
  deriving DecidableEq, Repr

/-- The revocation manager of a worker: its bloom filter, as the set of what
was added, the stream entries it has read but not added yet, and the Pub/Sub
messages it has not handled yet. -/
structure Worker where
  phase : WorkerPhase := .stopped
  bloom : List String := []
  received : List String := []
  inbox : List String := []
  deriving DecidableEq, Repr

/-! ## World -/

/-- Everything that outlives a call.  The identity a row was inserted under is
its key: the jti of a session, the code of an authorization code. -/
structure World where
  tenants : TenantTable := .empty
  users : UserTable := .empty
  userPolicies : PolicyTable := .empty
  templates : TemplateTable := .empty
  userSessions : SessionTable := .empty
  clients : ClientTable := .empty
  codes : CodeTable := .empty
  refreshTokens : RefreshTokenTable := .empty
  providers : ProviderTable := .empty
  identities : IdentityTable := .empty
  transactions : TransactionTable := .empty
  invitations : InvitationTable := .empty
  /-- The entries of `token:revocations`, oldest first. -/
  stream : List StreamEntry := []
  /-- How many entries the consumer group has handed out; `none` before the
  group is created. -/
  delivered : Option Nat := none
  workers : Nat → Worker := fun _ => {}
  /-- How many requests were sent to identity providers. -/
  upstreamCalls : Nat := 0
  /-- The clock `NOW()` reads. -/
  now : Int := 0

/-- The ids in the revocation stream. -/
def World.revokedJtis (world : World) : List String :=
  world.stream.map StreamEntry.jti

/-- The bloom filter of a worker. -/
def World.bloom (world : World) (worker : Nat) : List String :=
  (world.workers worker).bloom

/-- Replace the state of one worker. -/
def World.setWorker (world : World) (worker : Nat) (state : Worker) : World :=
  { world with workers := Function.update world.workers worker state }

@[simp]
theorem World.setWorker_workers (world : World) (worker : Nat)
    (state : Worker) :
    (world.setWorker worker state).workers =
      Function.update world.workers worker state :=
  rfl

@[simp]
theorem World.setWorker_stream (world : World) (worker : Nat)
    (state : Worker) : (world.setWorker worker state).stream = world.stream :=
  rfl

@[simp]
theorem World.setWorker_userSessions (world : World) (worker : Nat)
    (state : Worker) :
    (world.setWorker worker state).userSessions = world.userSessions :=
  rfl

/-! ## What surrounds the service -/

/-- The claims an identity provider asserts. -/
abbrev UpstreamClaims := List (String × PyValue)

/-- A discovery document. -/
structure Discovery where
  authorizationEndpoint : Option String := none
  tokenEndpoint : Option String := none
  userinfoEndpoint : Option String := none
  jwksUri : Option String := none
  deriving DecidableEq, Repr

/-- The answer of a provider's token endpoint. -/
structure UpstreamTokens where
  idToken : Option String := none
  accessToken : Option String := none
  deriving DecidableEq, Repr

/-- A request to an identity provider. -/
inductive UpstreamStmt : Type
  | discovery (url : String)
  | exchangeCode (endpoint : String) (form : List (String × Option String))
      (basic : Option String)
  | userinfo (endpoint accessToken : String)
  | signingKey (subjectToken jwksUri : String)

/-- What each request is answered with. -/
@[reducible]
def UpstreamStmt.Resp : UpstreamStmt → Type
  | .discovery _ => Discovery
  | .exchangeCode .. => UpstreamTokens
  | .userinfo .. => UpstreamClaims
  | .signingKey .. => String

/-- The configuration of a deployment and the third-party code it runs on:
PyJWT with the signing keys, bcrypt, `email_validator`, SHA-256, base64, the
casts of PostgreSQL, the parameter binding of asyncpg and the identity
providers, which may answer the same request differently every time. -/
structure Deployment where
  tokens : TokenService
  appBaseUrl : String
  hexDomain : String
  /-- `verify_password(password, hashed)`. -/
  verifyPassword : String → String → Except Exn Bool
  /-- `hash_password(password)`. -/
  hashPassword : String → String
  /-- `validate_email(..).normalized`, or its exception. -/
  normalizeEmail : String → Option String
  /-- The unpadded base64url SHA-256 of a code verifier. -/
  s256 : String → String
  /-- `base64.b64decode(..).decode("utf-8")`, or its exception. -/
  decodeBasic : String → Option String
  /-- `base64.b64encode(..)`. -/
  encodeBasic : String → String
  /-- `urlencode(params)`. -/
  urlencode : List (String × String) → String
  /-- The cast of a JSON value to `timestamptz`. -/
  timestamptz : PyValue → Option Int
  /-- Whether asyncpg binds this integer to a `timestamp` parameter, and the
  time it binds. -/
  bindTimestamp : Int → Option Int
  /-- Whether a text casts to `inet`. -/
  isInet : String → Bool
  /-- The answer of the providers to their n-th request. -/
  upstream : Nat → (request : UpstreamStmt) → Except Exn request.Resp
  /-- `jwt.decode` without verification. -/
  upstreamUnverified : String → Except JwtError UpstreamClaims
  /-- `jwt.decode` of a provider's token: token, key, algorithms, audience,
  issuer, time. -/
  upstreamDecode : String → String → List String → Option String → String →
    Int → Except JwtError UpstreamClaims

/-- A deployment over plain stand-ins: tokens of the plain library, passwords
stored as they are, and no identity provider that answers. -/
def Deployment.plain (known : List (String × Claims)) : Deployment where
  tokens := {
    jwt := .plain known
    manager := ⟨"HS256", "secret", "", []⟩
    jwtSecret := "secret" }
  appBaseUrl := "https://iam"
  hexDomain := "hexalgon.com"
  verifyPassword password hashed := .ok (password = hashed)
  hashPassword password := password
  normalizeEmail email := some email
  s256 verifier := "sha256:" ++ verifier
  decodeBasic text := some text
  encodeBasic text := text
  urlencode params :=
    "&".intercalate (params.map fun param => param.1 ++ "=" ++ param.2)
  timestamptz value :=
    match value with
    | .number time => some time.floor
    | _ => none
  bindTimestamp time := some time
  isInet _ := true
  upstream _ _ := .error (.other "ConnectError")
  upstreamUnverified _ := .error .decode
  upstreamDecode _ _ _ _ _ _ := .error .invalidSignature

/-- A database connection: of the owner pool, which row-level security does
not bind, or with `app.tenant_id` set. -/
structure Connection where
  tenant : Option String
  deriving DecidableEq, Repr

namespace Connection

/-- `get_database_pool_no_tenant`. -/
def owner : Connection :=
  ⟨none⟩

/-- `get_database_pool` after `set_config('app.tenant_id', ..)`. -/
def forTenant (tenantId : String) : Connection :=
  ⟨some tenantId⟩

/-- Whether row-level security shows the rows of a tenant. -/
def sees (db : Connection) (tenantId : String) : Bool :=
  match db.tenant with
  | none => true
  | some current => tenantId = current

/-- Whether row-level security lets a row of a tenant be inserted. -/
def mayInsert (db : Connection) (tenantId : String) : Bool :=
  db.tenant = some "" || db.sees tenantId

@[simp]
theorem owner_sees (tenantId : String) : owner.sees tenantId = true :=
  rfl

@[simp]
theorem forTenant_sees (current tenantId : String) :
    (forTenant current).sees tenantId = true ↔ tenantId = current := by
  simp [sees, forTenant]

end Connection

end HexIam
