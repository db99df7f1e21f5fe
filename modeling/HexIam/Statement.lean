import HexIam.Database
import HexIam.StatementTree

/-!
# Database, Redis and upstream statements

Every call the service awaits is a statement: its arguments, the type of its
answer, and its effect on the world.  The statements are grouped by the table
they write, so that the effect of one group leaves every other table as it is.
A violated constraint, a failing cast or a value the driver cannot bind is an
error without effect.
-/

namespace HexIam

/-! ## Users -/

/-- The statements on `users`. -/
inductive UserStmt : Type
  | withPolicies (email : String)
  | checkModified (email : String) (iat : Int)
  | forLogin (email tenantId : String)
  | byId (id : String)
  | byTenantEmail (tenantId email : String)
  | existsInTenant (id tenantId : String)
  | insert (row : UserRow)

@[reducible]
def UserStmt.Resp : UserStmt → Type
  | .withPolicies _ => List (UserRow × Option PolicyDoc)
  | .checkModified .. => Bool
  | .forLogin .. => Option UserRow
  | .byId _ => Option UserRow
  | .byTenantEmail .. => Option UserRow
  | .existsInTenant .. => Bool
  | .insert _ => Unit

/-- The validity test of the policy queries.  A JSON null compares as SQL
NULL, and a policy without the condition is valid. -/
def PolicyDoc.valid (deployment : Deployment) (policy : PolicyDoc)
    (now : Int) : Except Exn Bool :=
  match (policy.conditions.find? fun field => field.1 = "validity_time").map
      Prod.snd with
  | none => .ok true
  | some .none => .ok false
  | some value =>
      match deployment.timestamptz value with
      | some time => .ok (now ≤ time)
      | none => .error (.database "invalid input syntax for type timestamp")

/-- The documents among `rows` that pass the validity test. -/
def validPolicies (deployment : Deployment) (now : Int) :
    List PolicyRow → Except Exn (List PolicyDoc)
  | [] => .ok []
  | row :: rest => do
      let valid ← row.policy.valid deployment now
      let others ← validPolicies deployment now rest
      return if valid then row.policy :: others else others

namespace World

/-- The policy rows of a user that a connection sees. -/
def policiesOf (world : World) (db : Connection) (userId : String) :
    List PolicyRow :=
  world.userPolicies.select fun row =>
    row.userId = userId && db.sees row.tenantId

/-- The rows one user contributes to `fetch_user_with_policy`. -/
def joinPolicies (world : World) (deployment : Deployment) (db : Connection)
    (user : UserRow) : Except Exn (List (UserRow × Option PolicyDoc)) := do
  let policies ← validPolicies deployment world.now (world.policiesOf db user.id)
  return match policies with
    | [] => [(user, none)]
    | first :: rest => (first :: rest).map fun policy => (user, some policy)

/-- The users with an email that a connection sees. -/
def usersWithEmail (world : World) (db : Connection) (email : String) :
    List UserRow :=
  world.users.select fun user => user.email = email && db.sees user.tenantId

/-- The joins of several users, one after the other. -/
def joinAll (world : World) (deployment : Deployment) (db : Connection) :
    List UserRow → Except Exn (List (UserRow × Option PolicyDoc))
  | [] => .ok []
  | user :: rest => do
      let rows ← world.joinPolicies deployment db user
      let others ← joinAll world deployment db rest
      return rows ++ others

/-- A foreign key to `tenants`. -/
def hasTenant (world : World) (tenantId : String) : Bool :=
  (world.tenants.lookup tenantId).isSome

/-- A foreign key to `users`. -/
def hasUser (world : World) (userId : String) : Bool :=
  (world.users.lookup userId).isSome

end World

theorem except_bind_eq_ok {α β : Type} {result : Except Exn α}
    {continuation : α → Except Exn β} {value : β} :
    result >>= continuation = .ok value ↔
      ∃ middle, result = .ok middle ∧ continuation middle = .ok value := by
  cases result <;> simp [bind, Except.bind]

/-- An error for a row that breaks a constraint. -/
def require (holds : Bool) (constraint : String) : Except Exn Unit :=
  if holds then .ok () else .error (.database constraint)

theorem require_bind_eq_ok {holds : Bool} {constraint : String} {α : Type}
    {continuation : Unit → Except Exn α} {value : α} :
    (require holds constraint >>= continuation) = .ok value ↔
      holds = true ∧ continuation () = .ok value := by
  cases holds <;> simp [require, bind, Except.bind]

theorem require_true_bind {constraint : String} {α : Type}
    {continuation : Unit → Except Exn α} :
    (require true constraint >>= continuation) = continuation () :=
  rfl

/-- A value that fits a `varchar(limit)` column, or NULL. -/
def fits (limit : Nat) : Option String → Bool
  | none => true
  | some value => value.length ≤ limit

namespace UserStmt

/-- The answer of a statement on `users` and the table after it.  The insert
leaves `last_modified` to its default. -/
def perform (deployment : Deployment) (db : Connection) (world : World) :
    (stmt : UserStmt) → Except Exn stmt.Resp × UserTable
  | .withPolicies email =>
      (world.joinAll deployment db (world.usersWithEmail db email), world.users)
  | .checkModified email iat =>
      (match deployment.bindTimestamp iat with
        | none => .error (.database "DataError: expected a datetime")
        | some time => .ok ((world.usersWithEmail db email).any fun user =>
            time < user.lastModified), world.users)
  | .forLogin email tenantId =>
      (.ok ((world.users.select fun user => user.email = email &&
        user.tenantId = tenantId && db.sees user.tenantId).head?), world.users)
  | .byId id =>
      (.ok ((world.users.lookup id).filter fun user => db.sees user.tenantId),
        world.users)
  | .byTenantEmail tenantId email =>
      (.ok ((world.users.select fun user => user.tenantId = tenantId &&
        user.email = email && db.sees user.tenantId).head?), world.users)
  | .existsInTenant id tenantId =>
      (.ok (!(world.users.select fun user => user.id = id &&
        user.tenantId = tenantId && db.sees user.tenantId).isEmpty),
        world.users)
  | .insert row =>
      match do
        require (row.email.length ≤ 255 && row.firstName.length ≤ 100 &&
          row.lastName.length ≤ 100 && fits 100 row.role)
          "value too long for varchar"
        require (db.mayInsert row.tenantId) "row-level security"
        require (world.hasTenant row.tenantId) "users_tenant_id_fkey"
        require (world.users.select fun user => user.tenantId = row.tenantId &&
          user.email = row.email).isEmpty "users_tenant_id_email_key"
        match world.users.insert { row with lastModified := world.now } with
          | some users => .ok users
          | none => .error (.database "users_pkey") with
      | .ok users => (.ok (), users)
      | .error error => (.error error, world.users)

end UserStmt

/-! ## Policies -/

/-- The statements on `user_policies`. -/
inductive PolicyStmt : Type
  | single (tenantId userId policyId : String)
  | insert (row : PolicyRow)
  | update (row : PolicyRow)
  | delete (tenantId userId policyId : String)
  | bulkUpsert (rows : List PolicyRow)
  | valid (userId tenantId : String)

@[reducible]
def PolicyStmt.Resp : PolicyStmt → Type
  | .single .. => Option PolicyRow
  | .insert _ => Nat
  | .update _ => Nat
  | .delete .. => Nat
  | .bulkUpsert _ => Unit
  | .valid .. => List PolicyDoc

/-- The constraints on a row of `user_policies` other than its key. -/
def World.acceptsPolicy (world : World) (db : Connection) (row : PolicyRow) :
    Except Exn Unit := do
  require (row.policyId.length ≤ 40) "value too long for varchar(40)"
  require (db.mayInsert row.tenantId) "row-level security"
  require (world.hasTenant row.tenantId) "user_policies_tenant_id_fkey"
  require (world.hasUser row.userId) "user_policies_user_id_fkey"

/-- `SET policy = ..`. -/
def PolicyRow.setPolicy (policy : PolicyDoc) (row : PolicyRow) : PolicyRow :=
  { row with policy := policy }

theorem PolicyRow.setPolicy_key (policy : PolicyDoc) (row : PolicyRow) :
    (row.setPolicy policy).key = row.key :=
  rfl

namespace PolicyTable

/-- The row with these key columns, if the connection sees it. -/
def seen (table : PolicyTable) (db : Connection)
    (key : String × String × String) : Option PolicyRow :=
  (table.lookup key).filter fun row => db.sees row.tenantId

/-- `ON CONFLICT .. DO UPDATE SET policy = EXCLUDED.policy`. -/
def putPolicy (table : PolicyTable) (row : PolicyRow) : PolicyTable :=
  table.upsert row (PolicyRow.setPolicy row.policy)
    (PolicyRow.setPolicy_key row.policy)

end PolicyTable

namespace PolicyStmt

/-- The records of an `executemany`, which is one transaction. -/
def upsertAll (world : World) (db : Connection) :
    List PolicyRow → PolicyTable → Except Exn PolicyTable
  | [], table => .ok table
  | row :: rest, table => do
      world.acceptsPolicy db row
      require ((table.lookup row.key).isNone || db.sees row.tenantId)
        "row-level security"
      upsertAll world db rest (table.putPolicy row)

/-- The answer of a statement on `user_policies` and the table after it. -/
def perform (deployment : Deployment) (db : Connection) (world : World) :
    (stmt : PolicyStmt) → Except Exn stmt.Resp × PolicyTable
  | .single tenantId userId policyId =>
      (.ok (world.userPolicies.seen db (tenantId, userId, policyId)),
        world.userPolicies)
  | .insert row =>
      match require (row.policyId.length ≤ 40) "value too long for varchar(40)",
          world.userPolicies.insert row with
      | .error error, _ => (.error error, world.userPolicies)
      | .ok (), none =>
          (if db.mayInsert row.tenantId then .ok 0
            else .error (.database "row-level security"), world.userPolicies)
      | .ok (), some table =>
          match world.acceptsPolicy db row with
          | .ok () => (.ok 1, table)
          | .error error => (.error error, world.userPolicies)
  | .update row =>
      (.ok (world.userPolicies.seen db row.key).toList.length,
        world.userPolicies.update
          (fun held => held.key = row.key && db.sees held.tenantId)
          (PolicyRow.setPolicy row.policy) (PolicyRow.setPolicy_key row.policy))
  | .delete tenantId userId policyId =>
      (.ok (world.userPolicies.seen db
        (tenantId, userId, policyId)).toList.length,
        world.userPolicies.delete fun held =>
          held.key = (tenantId, userId, policyId) && db.sees held.tenantId)
  | .bulkUpsert rows =>
      match upsertAll world db rows world.userPolicies with
      | .ok table => (.ok (), table)
      | .error error => (.error error, world.userPolicies)
  | .valid userId tenantId =>
      (validPolicies deployment world.now
        (world.userPolicies.select fun row => row.userId = userId &&
          row.tenantId = tenantId && db.sees row.tenantId), world.userPolicies)

end PolicyStmt

/-! ## Policy templates -/

/-- The statements on `tenant_policies`. -/
inductive TemplateStmt : Type
  | byId (id tenantId : String)

@[reducible]
def TemplateStmt.Resp : TemplateStmt → Type
  | .byId .. => Option TemplateRow

/-- The answer of a statement on `tenant_policies`. -/
def TemplateStmt.perform (db : Connection) (world : World) :
    (stmt : TemplateStmt) → Except Exn stmt.Resp
  | .byId id tenantId =>
      .ok ((world.templates.lookup id).filter fun row =>
        row.tenantId = tenantId && db.sees row.tenantId)

/-! ## Sessions -/

/-- The statements on `user_sessions`, which has no row-level security. -/
inductive SessionStmt : Type
  | insert (row : SessionRow)
  | revokeOne (jti userId tenantId : Option String) (reason : String)
  | ofUser (userId tenantId : String) (excludeJti : Option String)
  | revokeOfUser (userId tenantId reason : String) (excludeJti : Option String)
  | holder (jti tenantId : String)
  | revokeInTenant (jti tenantId reason : String)
  | among (jtis : List String) (tenantId : String)
  | revokeAmong (jtis : List String) (tenantId reason : String)

@[reducible]
def SessionStmt.Resp : SessionStmt → Type
  | .insert _ => Unit
  | .revokeOne .. => Nat
  | .ofUser .. => List String
  | .revokeOfUser .. => Nat
  | .holder .. => Option String
  | .revokeInTenant .. => Nat
  | .among .. => List (String × String)
  | .revokeAmong .. => Nat

namespace SessionRow

/-- Not revoked yet. -/
def active (row : SessionRow) : Bool :=
  row.revokedAt.isNone

/-- `WHERE jti = $1 AND user_id = $2 AND tenant_id = $3`, where a NULL
parameter selects nothing. -/
def isOne (jti userId tenantId : Option String) (row : SessionRow) : Bool :=
  some row.jti = jti && some row.userId = userId && some row.tenantId = tenantId

/-- `WHERE user_id = $1 AND tenant_id = $2 [AND jti != ..]`. -/
def isOfUser (userId tenantId : String) (excludeJti : Option String)
    (row : SessionRow) : Bool :=
  row.userId = userId && row.tenantId = tenantId && some row.jti ≠ excludeJti

/-- `WHERE jti = $1 AND tenant_id = $2`. -/
def isInTenant (jti tenantId : String) (row : SessionRow) : Bool :=
  row.jti = jti && row.tenantId = tenantId

/-- `WHERE jti = ANY($1) AND tenant_id = $2`. -/
def isAmong (jtis : List String) (tenantId : String) (row : SessionRow) :
    Bool :=
  row.jti ∈ jtis && row.tenantId = tenantId

/-- The row an `INSERT` stores: the columns it does not list are NULL. -/
def fresh (row : SessionRow) : SessionRow :=
  { row with revokedAt := none, revokedReason := none }

/-- `SET revoked_at = NOW(), revoked_reason = ..`. -/
def revoke (now : Int) (reason : String) (row : SessionRow) : SessionRow :=
  { row with revokedAt := some now, revokedReason := some reason }

theorem revoke_jti (now : Int) (reason : String) (row : SessionRow) :
    (row.revoke now reason).jti = row.jti :=
  rfl

end SessionRow

namespace SessionTable

/-- The rows a clause selects that are not revoked. -/
def activeRows (table : SessionTable) (selected : SessionRow → Bool) :
    List SessionRow :=
  table.select fun row => selected row && row.active

/-- `UPDATE user_sessions SET revoked_at = NOW() .. AND revoked_at IS NULL`,
with the number of rows it changes. -/
def revokeWhere (table : SessionTable) (selected : SessionRow → Bool)
    (now : Int) (reason : String) : Nat × SessionTable :=
  ((table.activeRows selected).length,
    table.update (fun row => selected row && row.active)
      (SessionRow.revoke now reason) (SessionRow.revoke_jti now reason))

end SessionTable

namespace SessionStmt

/-- The answer of a statement on `user_sessions` and the table after it. -/
def perform (deployment : Deployment) (world : World) :
    (stmt : SessionStmt) → Except Exn stmt.Resp × SessionTable
  | .insert row =>
      match require (row.jti.length ≤ 64) "value too long for varchar(64)",
          require (row.ipAddress.all deployment.isInet) "invalid inet",
          world.userSessions.insert row.fresh with
      | .error error, _, _ => (.error error, world.userSessions)
      | _, .error error, _ => (.error error, world.userSessions)
      | .ok (), .ok (), none => (.ok (), world.userSessions)
      | .ok (), .ok (), some table =>
          if world.hasUser row.userId && world.hasTenant row.tenantId then
            (.ok (), table)
          else
            (.error (.database "user_sessions_fkey"), world.userSessions)
  | .revokeOne jti userId tenantId reason =>
      let revoked := world.userSessions.revokeWhere
        (SessionRow.isOne jti userId tenantId) world.now reason
      (.ok revoked.1, revoked.2)
  | .ofUser userId tenantId excludeJti =>
      (.ok ((world.userSessions.activeRows
        (SessionRow.isOfUser userId tenantId excludeJti)).map SessionRow.jti),
        world.userSessions)
  | .revokeOfUser userId tenantId reason excludeJti =>
      let revoked := world.userSessions.revokeWhere
        (SessionRow.isOfUser userId tenantId excludeJti) world.now reason
      (.ok revoked.1, revoked.2)
  | .holder jti tenantId =>
      (.ok ((world.userSessions.select
        (SessionRow.isInTenant jti tenantId)).head?.map SessionRow.userId),
        world.userSessions)
  | .revokeInTenant jti tenantId reason =>
      let revoked := world.userSessions.revokeWhere
        (SessionRow.isInTenant jti tenantId) world.now reason
      (.ok revoked.1, revoked.2)
  | .among jtis tenantId =>
      (.ok ((world.userSessions.activeRows
        (SessionRow.isAmong jtis tenantId)).map fun row =>
          (row.jti, row.userId)), world.userSessions)
  | .revokeAmong jtis tenantId reason =>
      let revoked := world.userSessions.revokeWhere
        (SessionRow.isAmong jtis tenantId) world.now reason
      (.ok revoked.1, revoked.2)

end SessionStmt

/-! ## Clients -/

/-- The statements on `oidc_clients`, which has no row-level security. -/
inductive ClientStmt : Type
  | active (id : Option String)
  | redirectUris (id : String)
  | tenantOf (id : String)

@[reducible]
def ClientStmt.Resp : ClientStmt → Type
  | .active _ => Option ClientRow
  | .redirectUris _ => Option (List String)
  | .tenantOf _ => Option String

namespace World

/-- `SELECT * FROM oidc_clients WHERE id = $1 AND is_active = TRUE`. -/
def activeClient (world : World) (id : String) : Option ClientRow :=
  (world.clients.lookup id).filter ClientRow.isActive

end World

/-- The answer of a statement on `oidc_clients`. -/
def ClientStmt.perform (world : World) :
    (stmt : ClientStmt) → Except Exn stmt.Resp
  | .active id => .ok (id.bind world.activeClient)
  | .redirectUris id => .ok ((world.activeClient id).map ClientRow.redirectUris)
  | .tenantOf id => .ok ((world.clients.lookup id).map ClientRow.tenantId)

/-! ## Authorization codes -/

/-- The statements on `authorization_codes`. -/
inductive CodeStmt : Type
  | insert (row : CodeRow)
  | validate (code clientId redirectUri : Option String)
  | markUsed (code : Option String)

@[reducible]
def CodeStmt.Resp : CodeStmt → Type
  | .insert _ => Unit
  | .validate .. => Option CodeRow
  | .markUsed _ => Unit

/-- `SET used = TRUE`. -/
def CodeRow.markUsed (row : CodeRow) : CodeRow :=
  { row with used := true }

theorem CodeRow.markUsed_code (row : CodeRow) : row.markUsed.code = row.code :=
  rfl

namespace CodeStmt

/-- The answer of a statement on `authorization_codes` and the table after
it.  The insert leaves `used` to its default. -/
def perform (world : World) :
    (stmt : CodeStmt) → Except Exn stmt.Resp × CodeTable
  | .insert row =>
      match do
        require (fits 255 row.codeChallenge && fits 10 row.codeChallengeMethod &&
          fits 255 row.nonce) "value too long for varchar"
        require (world.codes.select fun held => held.id = row.id).isEmpty
          "authorization_codes_pkey"
        require (world.clients.lookup row.clientId).isSome
          "authorization_codes_client_id_fkey"
        require (world.hasUser row.userId) "authorization_codes_user_id_fkey"
        require (world.hasTenant row.tenantId)
          "authorization_codes_tenant_id_fkey"
        match world.codes.insert { row with used := false } with
          | some codes => .ok codes
          | none => .error (.database "authorization_codes_code_key") with
      | .ok codes => (.ok (), codes)
      | .error error => (.error error, world.codes)
  | .validate code clientId redirectUri =>
      (.ok ((code.bind world.codes.lookup).filter fun row =>
        some row.clientId = clientId && some row.redirectUri = redirectUri &&
          !row.used && world.now < row.expiresAt), world.codes)
  | .markUsed code =>
      (.ok (), world.codes.update (fun row => some row.code = code)
        CodeRow.markUsed CodeRow.markUsed_code)

end CodeStmt

/-! ## OIDC refresh tokens -/

/-- The statements on `refresh_tokens`. -/
inductive RefreshTokenStmt : Type
  | insert (row : RefreshTokenRow)
  | validate (jti clientId : Option String)
  | revoke (jti : Option String)

@[reducible]
def RefreshTokenStmt.Resp : RefreshTokenStmt → Type
  | .insert _ => Unit
  | .validate .. => Option RefreshTokenRow
  | .revoke _ => Unit

/-- `SET revoked = TRUE`. -/
def RefreshTokenRow.revoke (row : RefreshTokenRow) : RefreshTokenRow :=
  { row with revoked := true }

theorem RefreshTokenRow.revoke_jti (row : RefreshTokenRow) :
    row.revoke.jti = row.jti :=
  rfl

namespace RefreshTokenStmt

/-- The answer of a statement on `refresh_tokens` and the table after it.  The
insert leaves `revoked` and `created_at` to their defaults. -/
def perform (world : World) :
    (stmt : RefreshTokenStmt) → Except Exn stmt.Resp × RefreshTokenTable
  | .insert row =>
      match do
        require (row.jti.length ≤ 255 && row.clientId.length ≤ 100)
          "value too long for varchar"
        require (world.hasUser row.userId) "refresh_tokens_user_id_fkey"
        require (world.hasTenant row.tenantId) "refresh_tokens_tenant_id_fkey"
        match world.refreshTokens.insert
            { row with revoked := false, createdAt := world.now } with
          | some table => .ok table
          | none => .error (.database "refresh_tokens_pkey") with
      | .ok table => (.ok (), table)
      | .error error => (.error error, world.refreshTokens)
  | .validate jti clientId =>
      (.ok ((jti.bind world.refreshTokens.lookup).filter fun row =>
        some row.clientId = clientId && !row.revoked &&
          world.now < row.expiresAt), world.refreshTokens)
  | .revoke jti =>
      (.ok (), world.refreshTokens.update (fun row => some row.jti = jti)
        RefreshTokenRow.revoke RefreshTokenRow.revoke_jti)

/-- An insert leaves the table as it is and fails, or adds the row. -/
theorem perform_insert (world : World) (row : RefreshTokenRow) :
    (perform world (.insert row)).2 = world.refreshTokens ∨
      world.refreshTokens.insert
        { row with revoked := false, createdAt := world.now } =
          some (perform world (.insert row)).2 := by
  simp only [perform]
  split
  case h_2 => exact .inl rfl
  case h_1 table inserted =>
    simp only [require_bind_eq_ok] at inserted
    obtain ⟨-, -, -, inserted⟩ := inserted
    split at inserted
    case h_1 found => exact .inr (Except.ok.inj inserted ▸ found)
    case h_2 => cases inserted

theorem insert_of_ok {world : World} {row : RefreshTokenRow}
    (answered : (perform world (.insert row)).1 = .ok ()) :
    world.refreshTokens.insert
      { row with revoked := false, createdAt := world.now } =
        some (perform world (.insert row)).2 := by
  simp only [perform] at answered ⊢
  split at answered
  case h_2 => cases answered
  case h_1 table inserted =>
    simp only [require_bind_eq_ok] at inserted
    obtain ⟨-, -, -, inserted⟩ := inserted
    split at inserted
    case h_1 found => exact Except.ok.inj inserted ▸ found
    case h_2 => cases inserted

end RefreshTokenStmt

/-! ## Federation -/

/-- The statements on `identity_providers`. -/
inductive ProviderStmt : Type
  | enabled (tenantId protocol : String)
  | byId (tenantId id : String)
  | byIssuer (tenantId issuer : String)

@[reducible]
def ProviderStmt.Resp : ProviderStmt → Type
  | .enabled .. => List ProviderRow
  | .byId .. => Option ProviderRow
  | .byIssuer .. => Option ProviderRow

/-- The answer of a statement on `identity_providers`; `enabled` lists them by
`created_at`. -/
def ProviderStmt.perform (world : World) :
    (stmt : ProviderStmt) → Except Exn stmt.Resp
  | .enabled tenantId protocol =>
      .ok ((world.providers.select fun row => row.tenantId = tenantId &&
        row.enabled && row.protocol = protocol).mergeSort
          fun first second => first.createdAt ≤ second.createdAt)
  | .byId tenantId id =>
      .ok ((world.providers.lookup id).filter fun row => row.tenantId = tenantId)
  | .byIssuer tenantId issuer =>
      .ok ((world.providers.select fun row => row.tenantId = tenantId &&
        row.issuerUrl = issuer && row.enabled && row.protocol = "oidc").head?)

/-- The statements on `federated_identities`. -/
inductive IdentityStmt : Type
  | linkedUser (tenantId providerId : String) (externalSubject : Option String)
  | upsert (id tenantId providerId userId : String)
      (externalSubject externalEmail : Option String)

@[reducible]
def IdentityStmt.Resp : IdentityStmt → Type
  | .linkedUser .. => Option UserRow
  | .upsert .. => Unit

/-- `SET external_email = ..`. -/
def IdentityRow.setEmail (email : Option String) (row : IdentityRow) :
    IdentityRow :=
  { row with externalEmail := email }

theorem IdentityRow.setEmail_key (email : Option String) (row : IdentityRow) :
    (row.setEmail email).key = row.key :=
  rfl

namespace IdentityStmt

/-- The constraints on a row that `federated_identities` does not hold yet. -/
def accepts (world : World) (row : IdentityRow) : Except Exn Unit := do
  require (world.identities.select fun held => held.id = row.id ||
    (held.tenantId = row.tenantId && held.providerId = row.providerId &&
      held.userId = row.userId)).isEmpty "federated_identities_key"
  require (world.hasTenant row.tenantId && world.hasUser row.userId &&
    (world.providers.lookup row.providerId).isSome) "federated_identities_fkey"

/-- The answer of a statement on `federated_identities` and the table after
it. -/
def perform (db : Connection) (world : World) :
    (stmt : IdentityStmt) → Except Exn stmt.Resp × IdentityTable
  | .linkedUser tenantId providerId externalSubject =>
      (.ok (externalSubject.bind fun subject =>
        (world.identities.lookup (tenantId, providerId, subject)).bind fun row =>
          (world.users.lookup row.userId).filter fun user =>
            db.sees user.tenantId), world.identities)
  | .upsert id tenantId providerId userId externalSubject externalEmail =>
      match externalSubject with
      | none => (.error (.database "null value in external_subject"),
          world.identities)
      | some subject =>
          let row : IdentityRow :=
            ⟨id, tenantId, providerId, userId, subject, externalEmail⟩
          let after := world.identities.upsert row
            (IdentityRow.setEmail externalEmail)
            (IdentityRow.setEmail_key externalEmail)
          if (world.identities.lookup row.key).isSome then (.ok (), after)
          else
            match accepts world row with
            | .ok () => (.ok (), after)
            | .error error => (.error error, world.identities)

end IdentityStmt

/-- The statements on `federation_auth_transactions`. -/
inductive TransactionStmt : Type
  | insert (row : TransactionRow)
  | byId (id : String)
  | byState (providerId upstreamState : String)
  | consume (id : String)

@[reducible]
def TransactionStmt.Resp : TransactionStmt → Type
  | .insert _ => Unit
  | .byId _ => Option TransactionRow
  | .byState .. => Option TransactionRow
  | .consume _ => Unit

/-- `SET consumed_at = NOW()`. -/
def TransactionRow.consume (now : Int) (row : TransactionRow) :
    TransactionRow :=
  { row with consumedAt := some now }

theorem TransactionRow.consume_id (now : Int) (row : TransactionRow) :
    (row.consume now).id = row.id :=
  rfl

namespace TransactionStmt

/-- The answer of a statement on `federation_auth_transactions` and the table
after it. -/
def perform (world : World) :
    (stmt : TransactionStmt) → Except Exn stmt.Resp × TransactionTable
  | .insert row =>
      match do
        require (world.transactions.select fun held =>
          held.providerId = row.providerId &&
            held.upstreamState = row.upstreamState).isEmpty
          "federation_auth_transactions_state_key"
        require (world.hasTenant row.tenantId &&
          (world.providers.lookup row.providerId).isSome &&
          (world.clients.lookup row.clientId).isSome)
          "federation_auth_transactions_fkey"
        match world.transactions.insert { row with consumedAt := none } with
          | some table => .ok table
          | none => .error (.database "federation_auth_transactions_pkey") with
      | .ok table => (.ok (), table)
      | .error error => (.error error, world.transactions)
  | .byId id => (.ok (world.transactions.lookup id), world.transactions)
  | .byState providerId upstreamState =>
      (.ok ((world.transactions.select fun row => row.providerId = providerId &&
        row.upstreamState = upstreamState && row.consumedAt.isNone &&
          world.now < row.expiresAt).head?), world.transactions)
  | .consume id =>
      (.ok (), world.transactions.update (fun row => row.id = id)
        (TransactionRow.consume world.now) (TransactionRow.consume_id world.now))

end TransactionStmt

/-! ## Redis and the bloom filter of a worker -/

/-- The calls of the revocation manager.  A missing id is `None`, which the
Redis client refuses to send. -/
inductive RedisStmt : Type
  | bloomAdd (worker : Nat) (jti : Option String)
  | bloomHas (worker : Nat) (jti : String)
  | xadd (jti : Option String) (userId tenantId reason : String)
  | publish (jti : Option String)

@[reducible]
def RedisStmt.Resp : RedisStmt → Type
  | .bloomAdd .. => Unit
  | .bloomHas .. => Bool
  | .xadd .. => Unit
  | .publish _ => Unit

namespace World

/-- Add an id to the bloom filter of a worker. -/
def bloomAdd (world : World) (worker : Nat) (jti : String) : World :=
  world.setWorker worker
    { world.workers worker with bloom := jti :: world.bloom worker }

/-- Pub/Sub hands a message to the clients subscribed when it is published. -/
def publish (world : World) (jti : String) : World :=
  { world with
    workers := fun worker =>
      let state := world.workers worker
      if state.phase = .subscribed then
        { state with inbox := state.inbox ++ [jti] }
      else state }

end World

/-- The answer of a Redis or bloom-filter call and the world after it. -/
def RedisStmt.perform (world : World) :
    (stmt : RedisStmt) → Except Exn stmt.Resp × World
  | .bloomAdd worker jti =>
      (.ok (), match jti with
        | some jti => world.bloomAdd worker jti
        | none => world)
  | .bloomHas worker jti => (.ok (jti ∈ world.bloom worker), world)
  | .xadd jti userId tenantId reason =>
      match jti with
      | some jti =>
          (.ok (), { world with
            stream := world.stream ++ [⟨jti, userId, tenantId, reason⟩] })
      | none => (.error (.redis "DataError: Invalid input of type: 'NoneType'"),
          world)
  | .publish jti =>
      (.ok (), match jti with
        | some jti => world.publish jti
        | none => world)

/-! ## All statements -/

/-- A statement of the service; those on tables under row-level security name
their connection. -/
inductive Stmt : Type
  | user (db : Connection) (stmt : UserStmt)
  | policy (db : Connection) (stmt : PolicyStmt)
  | template (db : Connection) (stmt : TemplateStmt)
  | session (stmt : SessionStmt)
  | client (stmt : ClientStmt)
  | code (stmt : CodeStmt)
  | refreshToken (stmt : RefreshTokenStmt)
  | provider (stmt : ProviderStmt)
  | identity (db : Connection) (stmt : IdentityStmt)
  | transaction (stmt : TransactionStmt)
  | redis (stmt : RedisStmt)
  | upstream (stmt : UpstreamStmt)

@[reducible]
def Stmt.Resp : Stmt → Type
  | .user _ stmt => stmt.Resp
  | .policy _ stmt => stmt.Resp
  | .template _ stmt => stmt.Resp
  | .session stmt => stmt.Resp
  | .client stmt => stmt.Resp
  | .code stmt => stmt.Resp
  | .refreshToken stmt => stmt.Resp
  | .provider stmt => stmt.Resp
  | .identity _ stmt => stmt.Resp
  | .transaction stmt => stmt.Resp
  | .redis stmt => stmt.Resp
  | .upstream stmt => stmt.Resp

/-- Perform one statement. -/
def perform (deployment : Deployment) :
    (stmt : Stmt) → World → Except Exn stmt.Resp × World
  | .user db stmt, world =>
      let outcome := stmt.perform deployment db world
      (outcome.1, { world with users := outcome.2 })
  | .policy db stmt, world =>
      let outcome := stmt.perform deployment db world
      (outcome.1, { world with userPolicies := outcome.2 })
  | .template db stmt, world => (stmt.perform db world, world)
  | .session stmt, world =>
      let outcome := stmt.perform deployment world
      (outcome.1, { world with userSessions := outcome.2 })
  | .client stmt, world => (stmt.perform world, world)
  | .code stmt, world =>
      let outcome := stmt.perform world
      (outcome.1, { world with codes := outcome.2 })
  | .refreshToken stmt, world =>
      let outcome := stmt.perform world
      (outcome.1, { world with refreshTokens := outcome.2 })
  | .provider stmt, world => (stmt.perform world, world)
  | .identity db stmt, world =>
      let outcome := stmt.perform db world
      (outcome.1, { world with identities := outcome.2 })
  | .transaction stmt, world =>
      let outcome := stmt.perform world
      (outcome.1, { world with transactions := outcome.2 })
  | .redis stmt, world => stmt.perform world
  | .upstream stmt, world =>
      (deployment.upstream world.upstreamCalls stmt,
        { world with upstreamCalls := world.upstreamCalls + 1 })

/-- The id an `xadd` adds to the revocation stream. -/
def Stmt.xaddJti : Stmt → Option String
  | .redis (.xadd jti _ _ _) => jti
  | _ => none

/-- The stream only grows, by the ids of the `xadd` calls. -/
theorem revokedJtis_perform (deployment : Deployment) (stmt : Stmt)
    (world : World) :
    (perform deployment stmt world).2.revokedJtis =
      world.revokedJtis ++ stmt.xaddJti.toList := by
  cases stmt with
  | redis stmt =>
      cases stmt with
      | xadd jti userId tenantId reason =>
          cases jti <;>
            simp [perform, RedisStmt.perform, World.revokedJtis, Stmt.xaddJti]
      | bloomAdd worker jti =>
          cases jti <;>
            simp [perform, RedisStmt.perform, World.revokedJtis, Stmt.xaddJti,
              World.bloomAdd]
      | publish jti =>
          cases jti <;>
            simp [perform, RedisStmt.perform, World.revokedJtis, Stmt.xaddJti,
              World.publish]
      | bloomHas worker jti => exact (List.append_nil _).symm
  | _ => exact (List.append_nil _).symm

/-- A program of the service. -/
abbrev App := StatementTree Stmt Stmt.Resp Exn

/-- Perform one statement and return its answer. -/
def ask (stmt : Stmt) : App stmt.Resp :=
  .perform stmt .done

/-- A computation without statements. -/
def ofExcept {α : Type} (result : Except Exn α) : App α :=
  .done result

/-- A value bound to a text parameter: `None` becomes NULL, and asyncpg
refuses what is not a string. -/
def bindText : PyValue → Except Exn (Option String)
  | .none => .ok none
  | .text value => .ok (some value)
  | _ => .error (.database "DataError: expected str")

@[simp]
theorem bindText_text (text : String) :
    bindText (.text text) = .ok (some text) :=
  rfl

theorem bindText_eq_some {value : PyValue} {text : String} :
    bindText value = .ok (some text) ↔ value = .text text := by
  cases value <;> simp [bindText]

theorem bindText_of_truthy {value : PyValue} {holds : Option String → Prop}
    (truthy : value.truthy = true) :
    (∃ bound, bindText value = .ok bound ∧ holds bound) ↔
      ∃ text, value = .text text ∧ filled text = true ∧ holds (some text) := by
  cases value with
  | none => cases truthy
  | text text =>
      have isFilled : filled text = true := truthy
      simp [isFilled]
  | _ => simp [bindText]

/-- Run a program alone. -/
def App.run {α : Type} (deployment : Deployment) (program : App α)
    (world : World) : Except Exn α × World :=
  StatementTree.run (perform deployment) program world

namespace App

variable {deployment : Deployment} {α β : Type} {world after : World} {value : β}

@[simp]
theorem run_done (result : Except Exn α) :
    App.run deployment (.done result) world = (result, world) :=
  rfl

@[simp]
theorem run_pure (value : α) :
    App.run deployment (pure value) world = (.ok value, world) :=
  rfl

@[simp]
theorem run_throw (error : Exn) :
    App.run deployment (throw error : App α) world = (.error error, world) :=
  rfl

@[simp]
theorem run_ofExcept (result : Except Exn α) :
    App.run deployment (ofExcept result) world = (result, world) :=
  rfl

@[simp]
theorem run_ask (stmt : Stmt) :
    App.run deployment (ask stmt) world = perform deployment stmt world :=
  rfl

theorem run_bind_of_ok {program : App α} {continuation : α → App β} {middle : α}
    (ran : App.run deployment program world = (.ok middle, after)) :
    App.run deployment (program >>= continuation) world =
      App.run deployment (continuation middle) after :=
  StatementTree.run_bind_of_ok _ ran

theorem run_bind_of_error {program : App α} {continuation : α → App β}
    {error : Exn}
    (ran : App.run deployment program world = (.error error, after)) :
    App.run deployment (program >>= continuation) world = (.error error, after) :=
  StatementTree.run_bind_of_error _ ran

theorem run_bind_eq_ok {program : App α} {continuation : α → App β} :
    App.run deployment (program >>= continuation) world = (.ok value, after) ↔
      ∃ middle between, App.run deployment program world = (.ok middle, between) ∧
        App.run deployment (continuation middle) between = (.ok value, after) :=
  StatementTree.run_bind_eq_ok _

theorem run_bind_eq_error {program : App α} {continuation : α → App β}
    {error : Exn} :
    App.run deployment (program >>= continuation) world = (.error error, after) ↔
      App.run deployment program world = (.error error, after) ∨
      ∃ middle between, App.run deployment program world = (.ok middle, between) ∧
        App.run deployment (continuation middle) between = (.error error, after) :=
  StatementTree.run_bind_eq_error _

/-- Run alone, the program returns a value, and `post` holds of the value and
the world after. -/
abbrev Gives (deployment : Deployment) (program : App α) (world : World)
    (post : α → World → Prop) : Prop :=
  StatementTree.Gives (perform deployment) program world post

variable {post : β → World → Prop} {continuation : α → App β}

@[simp]
theorem gives_pure :
    App.Gives deployment (pure value) world post ↔ post value world := by
  simp [App.Gives]

@[simp]
theorem gives_throw {error : Exn} :
    ¬ App.Gives deployment (throw error) world post := by
  simp [App.Gives]

@[simp]
theorem gives_ofExcept {result : Except Exn β} :
    App.Gives deployment (ofExcept result) world post ↔
      ∃ value, result = .ok value ∧ post value world :=
  Iff.rfl

@[simp]
theorem gives_ask {stmt : Stmt} {post : stmt.Resp → World → Prop} :
    App.Gives deployment (ask stmt) world post ↔
      ∃ answer, (perform deployment stmt world).1 = .ok answer ∧
        post answer (perform deployment stmt world).2 :=
  Iff.rfl

theorem gives_bind {program : App α} :
    App.Gives deployment (program >>= continuation) world post ↔
      App.Gives deployment program world fun middle between =>
        App.Gives deployment (continuation middle) between post :=
  StatementTree.gives_bind

theorem gives_tryCatch {program : App β} {handler : Exn → App β} :
    App.Gives deployment (tryCatch program handler) world post ↔
      App.Gives deployment program world post ∨
        ∃ error, (App.run deployment program world).1 = .error error ∧
          App.Gives deployment (handler error)
            (App.run deployment program world).2 post :=
  StatementTree.gives_tryCatch

/-- Run alone, the program only moves to a world that `may` follow, and `post`
holds of what it returns. -/
abbrev Ensures (deployment : Deployment) (may : World → World → Prop)
    (program : App α) (world : World) (post : α → World → Prop) : Prop :=
  StatementTree.Ensures (perform deployment) may program world post

variable {may : World → World → Prop} [IsPreorder World may]

theorem ensures_ofExcept_bind {result : Except Exn α}
    (onValue : ∀ value, result = .ok value →
      App.Ensures deployment may (continuation value) world post) :
    App.Ensures deployment may (ofExcept result >>= continuation) world post := by
  cases result with
  | ok value => exact onValue value rfl
  | error error => exact StatementTree.ensures_throw

theorem ensures_ask_bind {stmt : Stmt} {continuation : stmt.Resp → App β}
    (moves : may world (perform deployment stmt world).2)
    (onValue : ∀ answer after, (perform deployment stmt world).1 = .ok answer →
      (perform deployment stmt world).2 = after → may world after →
      App.Ensures deployment may (continuation answer) after post) :
    App.Ensures deployment may (ask stmt >>= continuation) world post := by
  have asked : App.Ensures deployment may (ask stmt) world fun answer after =>
      (perform deployment stmt world).1 = .ok answer ∧
        (perform deployment stmt world).2 = after :=
    StatementTree.ensures_ask moves fun answer answered => ⟨answered, rfl⟩
  refine asked.bind fun answer between moved ⟨answered, same⟩ => ?_
  exact onValue answer between answered same moved

/-- Run alone, the program leaves a world of which `ended` holds. -/
abbrev Ends (deployment : Deployment) (program : App α) (world : World)
    (ended : World → Prop) : Prop :=
  StatementTree.Ends (perform deployment) program world ended

variable {ended : World → Prop}

theorem ends_ofExcept_bind {result : Except Exn α}
    (onValue : ∀ value, result = .ok value →
      App.Ends deployment (continuation value) world ended)
    (onError : ended world) :
    App.Ends deployment (ofExcept result >>= continuation) world ended := by
  cases result with
  | ok value => exact onValue value rfl
  | error error => exact onError

theorem ends_ask_bind {stmt : Stmt} {continuation : stmt.Resp → App β}
    (onValue : ∀ answer, (perform deployment stmt world).1 = .ok answer →
      App.Ends deployment (continuation answer) (perform deployment stmt world).2
        ended)
    (onError : ended (perform deployment stmt world).2) :
    App.Ends deployment (ask stmt >>= continuation) world ended := by
  refine StatementTree.ends_bind ?_ ?_
  · intro answer after ran
    obtain ⟨answered, rfl⟩ := Prod.mk.inj ran
    exact onValue answer answered
  · intro error after ran
    obtain ⟨-, rfl⟩ := Prod.mk.inj ran
    exact onError

end App

end HexIam
