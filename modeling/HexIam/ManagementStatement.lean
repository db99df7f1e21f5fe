import HexIam.Statement

/-!
# The statements of the management endpoints

Tenants, policy templates, clients, invitations and identity providers are
written by the management endpoints alone.  Their statements stand beside those
of the login and token endpoints, whose programs run among them unchanged.
-/

namespace HexIam

open StatementTree

/-! ## Tenants -/

/-- The statements on `tenants`. -/
inductive TenantStmt : Type
  | insert (row : TenantRow)
  | setActive (id : String) (active : Bool)

@[reducible]
def TenantStmt.Resp : TenantStmt → Type
  | .insert _ => Unit
  | .setActive .. => Unit

/-- `SET is_active = ..`. -/
def TenantRow.setActive (active : Bool) (row : TenantRow) : TenantRow :=
  { row with isActive := active }

theorem TenantRow.setActive_id (active : Bool) (row : TenantRow) :
    (row.setActive active).id = row.id :=
  rfl

/-- The answer of a statement on `tenants` and the table after it.  The insert
leaves `is_active` to its default. -/
def TenantStmt.perform (db : Connection) (world : World) :
    (stmt : TenantStmt) → Except Exn stmt.Resp × TenantTable
  | .insert row =>
      match do
        require (row.id.length ≤ 50 && row.name.length ≤ 100 &&
          row.domain.length ≤ 100 && row.root.length ≤ 255)
          "value too long for varchar"
        require (db.mayInsert row.id) "row-level security"
        require (world.tenants.select fun held =>
          held.domain = row.domain).isEmpty "tenants_domain_key"
        match world.tenants.insert { row with isActive := true } with
          | some tenants => .ok tenants
          | none => .error (.database "tenants_pkey") with
      | .ok tenants => (.ok (), tenants)
      | .error error => (.error error, world.tenants)
  | .setActive id active =>
      (.ok (), world.tenants.update (fun row => row.id = id && db.sees row.id)
        (TenantRow.setActive active) (TenantRow.setActive_id active))

/-! ## Users -/

/-- The statements of `verify_email` on `users`. -/
inductive VerificationStmt : Type
  | tenantOf (id : String)
  | verifyEmail (id : String) (tenantId : Option String)

@[reducible]
def VerificationStmt.Resp : VerificationStmt → Type
  | .tenantOf _ => Option String
  | .verifyEmail .. => Unit

/-- `SET email_verified = TRUE`. -/
def UserRow.verifyEmail (row : UserRow) : UserRow :=
  { row with emailVerified := true }

theorem UserRow.verifyEmail_id (row : UserRow) : row.verifyEmail.id = row.id :=
  rfl

/-- The answer of a statement of `verify_email` and the users after it. -/
def VerificationStmt.perform (db : Connection) (world : World) :
    (stmt : VerificationStmt) → Except Exn stmt.Resp × UserTable
  | .tenantOf id =>
      (.ok (((world.users.lookup id).filter fun user =>
        db.sees user.tenantId).map UserRow.tenantId), world.users)
  | .verifyEmail id tenantId =>
      (.ok (), world.users.update
        (fun user => user.id = id && some user.tenantId = tenantId &&
          db.sees user.tenantId)
        UserRow.verifyEmail UserRow.verifyEmail_id)

/-! ## Policy templates -/

/-- The statements that write `tenant_policies`. -/
inductive TemplateUpdateStmt : Type
  | insert (row : TemplateRow)
  | update (id tenantId : String) (policies : List (String × PyValue))
      (roles : List String)
  | delete (id tenantId : String)

@[reducible]
def TemplateUpdateStmt.Resp : TemplateUpdateStmt → Type
  | .insert _ => Nat
  | .update .. => Unit
  | .delete .. => Nat

/-- `SET policies = .., roles = ..`. -/
def TemplateRow.set (policies : List (String × PyValue)) (roles : List String)
    (row : TemplateRow) : TemplateRow :=
  { row with policies := policies, roles := roles }

theorem TemplateRow.set_id (policies : List (String × PyValue))
    (roles : List String) (row : TemplateRow) :
    (row.set policies roles).id = row.id :=
  rfl

/-- `WHERE id = $1 AND tenant_id = $2`, among the rows a connection sees. -/
def TemplateRow.isOne (db : Connection) (id tenantId : String)
    (row : TemplateRow) : Bool :=
  row.id = id && row.tenantId = tenantId && db.sees row.tenantId

/-- The number of rows a write on `tenant_policies` changes and the table after
it. -/
def TemplateUpdateStmt.perform (db : Connection) (world : World) :
    (stmt : TemplateUpdateStmt) → Except Exn stmt.Resp × TemplateTable
  | .insert row =>
      match do
        require (row.id.length ≤ 50) "value too long for varchar(50)"
        require (db.sees row.tenantId) "row-level security" with
      | .error error => (.error error, world.templates)
      | .ok () =>
          match world.templates.insert row with
          | none => (.ok 0, world.templates)
          | some table =>
              if world.hasTenant row.tenantId then (.ok 1, table)
              else (.error (.database "tenant_policies_tenant_id_fkey"),
                world.templates)
  | .update id tenantId policies roles =>
      (.ok (), world.templates.update (TemplateRow.isOne db id tenantId)
        (TemplateRow.set policies roles) (TemplateRow.set_id policies roles))
  | .delete id tenantId =>
      (.ok (world.templates.select (TemplateRow.isOne db id tenantId)).length,
        world.templates.delete (TemplateRow.isOne db id tenantId))

/-! ## Clients -/

/-- The statements that administer `oidc_clients`. -/
inductive ClientUpdateStmt : Type
  | byId (id tenantId : String)
  | insert (row : ClientRow)
  | update (id tenantId name : String) (redirectUris scopes : List String)
  | rotateSecret (id tenantId clientSecret : String)
  | delete (id tenantId : String)

@[reducible]
def ClientUpdateStmt.Resp : ClientUpdateStmt → Type
  | .byId .. => Option ClientRow
  | .insert _ => Unit
  | .update .. => Unit
  | .rotateSecret .. => Unit
  | .delete .. => Nat

namespace ClientRow

/-- `SET name = .., redirect_uris = .., scopes = ..`. -/
def set (name : String) (redirectUris scopes : List String) (row : ClientRow) :
    ClientRow :=
  { row with name := name, redirectUris := redirectUris, scopes := scopes }

theorem set_id (name : String) (redirectUris scopes : List String)
    (row : ClientRow) : (row.set name redirectUris scopes).id = row.id :=
  rfl

/-- `SET client_secret = ..`. -/
def setSecret (clientSecret : String) (row : ClientRow) : ClientRow :=
  { row with clientSecret := clientSecret }

theorem setSecret_id (clientSecret : String) (row : ClientRow) :
    (row.setSecret clientSecret).id = row.id :=
  rfl

/-- `WHERE id = $1 AND tenant_id = $2`. -/
def isOne (id tenantId : String) (row : ClientRow) : Bool :=
  row.id = id && row.tenantId = tenantId

end ClientRow

/-- `ON DELETE SET NULL`. -/
def InvitationRow.clearClient (row : InvitationRow) : InvitationRow :=
  { row with clientId := none }

theorem InvitationRow.clearClient_id (row : InvitationRow) :
    row.clearClient.id = row.id :=
  rfl

/-- The world after `DELETE FROM oidc_clients`: the codes and the transactions
of the clients go with them. -/
def World.deleteClients (world : World) (deleted : ClientRow → Bool) : World :=
  let gone (clientId : String) : Bool :=
    (world.clients.lookup clientId).any deleted
  { world with
    clients := world.clients.delete deleted
    codes := world.codes.delete fun row => gone row.clientId
    transactions := world.transactions.delete fun row => gone row.clientId
    invitations := world.invitations.update
      (fun row => row.clientId.any gone) InvitationRow.clearClient
      InvitationRow.clearClient_id }

/-- The answer of a statement that administers `oidc_clients` and the world
after it. -/
def ClientUpdateStmt.perform (world : World) :
    (stmt : ClientUpdateStmt) → Except Exn stmt.Resp × World
  | .byId id tenantId =>
      (.ok ((world.clients.lookup id).filter fun row => row.tenantId = tenantId),
        world)
  | .insert row =>
      match do
        require (row.id.length ≤ 50 && row.clientSecret.length ≤ 255 &&
          row.name.length ≤ 100) "value too long for varchar"
        require (world.hasTenant row.tenantId) "oidc_clients_tenant_id_fkey"
        match world.clients.insert { row with isActive := true } with
          | some clients => .ok clients
          | none => .error (.database "oidc_clients_pkey") with
      | .ok clients => (.ok (), { world with clients := clients })
      | .error error => (.error error, world)
  | .update id tenantId name redirectUris scopes =>
      if name.length ≤ 100 then
        (.ok (), { world with
          clients := world.clients.update (ClientRow.isOne id tenantId)
            (ClientRow.set name redirectUris scopes)
            (ClientRow.set_id name redirectUris scopes) })
      else (.error (.database "value too long for varchar(100)"), world)
  | .rotateSecret id tenantId clientSecret =>
      if clientSecret.length ≤ 255 then
        (.ok (), { world with
          clients := world.clients.update (ClientRow.isOne id tenantId)
            (ClientRow.setSecret clientSecret)
            (ClientRow.setSecret_id clientSecret) })
      else (.error (.database "value too long for varchar(255)"), world)
  | .delete id tenantId =>
      (.ok (world.clients.select (ClientRow.isOne id tenantId)).length,
        world.deleteClients (ClientRow.isOne id tenantId))

/-! ## Invitations -/

/-- The statements on `user_invitations`. -/
inductive InvitationStmt : Type
  | pendingFor (email tenantId : String)
  | pending (id : Option String)
  | insert (row : InvitationRow)
  | accept (id : Option String)
  | deletePending (id tenantId : String)

@[reducible]
def InvitationStmt.Resp : InvitationStmt → Type
  | .pendingFor .. => Option InvitationRow
  | .pending _ => Option InvitationRow
  | .insert _ => Unit
  | .accept _ => Unit
  | .deletePending .. => Unit

namespace InvitationRow

/-- `accepted_at IS NULL`. -/
def unaccepted (row : InvitationRow) : Bool :=
  row.acceptedAt.isNone

/-- `accepted_at IS NULL AND expires_at > NOW()`. -/
def pending (now : Int) (row : InvitationRow) : Bool :=
  row.unaccepted && now < row.expiresAt

/-- `SET accepted_at = NOW()`. -/
def accept (now : Int) (row : InvitationRow) : InvitationRow :=
  { row with acceptedAt := some now }

theorem accept_id (now : Int) (row : InvitationRow) :
    (row.accept now).id = row.id :=
  rfl

end InvitationRow

/-- The answer of a statement on `user_invitations` and the table after it. -/
def InvitationStmt.perform (world : World) :
    (stmt : InvitationStmt) → Except Exn stmt.Resp × InvitationTable
  | .pendingFor email tenantId =>
      (.ok ((world.invitations.select fun row => row.email = email &&
        row.tenantId = tenantId && row.pending world.now).head?),
        world.invitations)
  | .pending id =>
      (.ok ((id.bind world.invitations.lookup).filter
        (InvitationRow.pending world.now)), world.invitations)
  | .insert row =>
      match do
        require (row.id.length ≤ 50 && row.email.length ≤ 255 &&
          fits 100 row.role && fits 50 row.invitedBy && fits 50 row.clientId)
          "value too long for varchar"
        require (world.hasTenant row.tenantId) "user_invitations_tenant_id_fkey"
        require (row.clientId.all fun clientId =>
          (world.clients.lookup clientId).isSome)
          "user_invitations_client_id_fkey"
        require (world.invitations.select fun held =>
          held.tenantId = row.tenantId && held.email = row.email).isEmpty
          "user_invitations_tenant_id_email_key"
        match world.invitations.insert { row with acceptedAt := none } with
          | some table => .ok table
          | none => .error (.database "user_invitations_pkey") with
      | .ok table => (.ok (), table)
      | .error error => (.error error, world.invitations)
  | .accept id =>
      (.ok (), world.invitations.update (fun row => some row.id = id)
        (InvitationRow.accept world.now) (InvitationRow.accept_id world.now))
  | .deletePending id tenantId =>
      (.ok (), world.invitations.delete fun row =>
        row.id = id && row.tenantId = tenantId && row.unaccepted)

/-! ## Identity providers -/

/-- The statements that write `identity_providers`. -/
inductive ProviderUpdateStmt : Type
  | insert (row : ProviderRow)
  | update (tenantId id : String) (row : ProviderRow)
  | delete (tenantId id : String)

@[reducible]
def ProviderUpdateStmt.Resp : ProviderUpdateStmt → Type
  | .insert _ => Unit
  | .update .. => Unit
  | .delete .. => Nat

namespace ProviderRow

/-- The columns that both writes list, as they come from `row`. -/
def set (row held : ProviderRow) : ProviderRow :=
  { row with id := held.id, tenantId := held.tenantId, createdAt := held.createdAt }

theorem set_id (row held : ProviderRow) : (row.set held).id = held.id :=
  rfl

/-- `WHERE tenant_id = $1 AND id = $2`. -/
def isOne (tenantId id : String) (row : ProviderRow) : Bool :=
  row.tenantId = tenantId && row.id = id

/-- The checks on the columns of a row. -/
def accepted (row : ProviderRow) : Except Exn Unit := do
  require (row.name.length ≤ 100 && fits 255 row.clientId &&
    fits 40 row.tokenEndpointAuthMethod && fits 20 row.claimsSource &&
    fits 50 row.defaultRole) "value too long for varchar"
  require (row.protocol = "oidc" || row.protocol = "saml")
    "check_identity_provider_protocol"

end ProviderRow

/-- The world after `DELETE FROM identity_providers`: the links and the
transactions of the providers go with them. -/
def World.deleteProviders (world : World) (deleted : ProviderRow → Bool) :
    World :=
  let gone (providerId : String) : Bool :=
    (world.providers.lookup providerId).any deleted
  { world with
    providers := world.providers.delete deleted
    identities := world.identities.delete fun row => gone row.providerId
    transactions := world.transactions.delete fun row => gone row.providerId }

/-- The answer of a write on `identity_providers` and the world after it. -/
def ProviderUpdateStmt.perform (world : World) :
    (stmt : ProviderUpdateStmt) → Except Exn stmt.Resp × World
  | .insert row =>
      match do
        row.accepted
        require (row.id.length ≤ 50) "value too long for varchar(50)"
        require (world.hasTenant row.tenantId) "identity_providers_tenant_id_fkey"
        require (world.providers.select fun held =>
          held.tenantId = row.tenantId && held.issuerUrl = row.issuerUrl).isEmpty
          "identity_providers_tenant_id_issuer_url_key"
        match world.providers.insert { row with createdAt := world.now } with
          | some providers => .ok providers
          | none => .error (.database "identity_providers_pkey") with
      | .ok providers => (.ok (), { world with providers := providers })
      | .error error => (.error error, world)
  | .update tenantId id row =>
      if (world.providers.select (ProviderRow.isOne tenantId id)).isEmpty then
        (.ok (), world)
      else
        match do
          row.accepted
          require (world.providers.select fun held =>
            held.tenantId = tenantId && held.issuerUrl = row.issuerUrl &&
              held.id ≠ id).isEmpty
            "identity_providers_tenant_id_issuer_url_key" with
        | .error error => (.error error, world)
        | .ok () =>
            (.ok (), { world with
              providers := world.providers.update (ProviderRow.isOne tenantId id)
                row.set row.set_id })
  | .delete tenantId id =>
      (.ok (world.providers.select (ProviderRow.isOne tenantId id)).length,
        world.deleteProviders (ProviderRow.isOne tenantId id))

/-! ## All statements -/

/-- A statement of a management endpoint, or one of the login and token
endpoints. -/
inductive ManagementStmt : Type
  | core (stmt : Stmt)
  | tenant (db : Connection) (stmt : TenantStmt)
  | verification (db : Connection) (stmt : VerificationStmt)
  | template (db : Connection) (stmt : TemplateUpdateStmt)
  | client (stmt : ClientUpdateStmt)
  | invitation (stmt : InvitationStmt)
  | provider (stmt : ProviderUpdateStmt)

@[reducible]
def ManagementStmt.Resp : ManagementStmt → Type
  | .core stmt => stmt.Resp
  | .tenant _ stmt => stmt.Resp
  | .verification _ stmt => stmt.Resp
  | .template _ stmt => stmt.Resp
  | .client stmt => stmt.Resp
  | .invitation stmt => stmt.Resp
  | .provider stmt => stmt.Resp

/-- Perform one statement. -/
def manage (deployment : Deployment) :
    (stmt : ManagementStmt) → World → Except Exn stmt.Resp × World
  | .core stmt, world => perform deployment stmt world
  | .tenant db stmt, world =>
      let outcome := stmt.perform db world
      (outcome.1, { world with tenants := outcome.2 })
  | .verification db stmt, world =>
      let outcome := stmt.perform db world
      (outcome.1, { world with users := outcome.2 })
  | .template db stmt, world =>
      let outcome := stmt.perform db world
      (outcome.1, { world with templates := outcome.2 })
  | .client stmt, world => stmt.perform world
  | .invitation stmt, world =>
      let outcome := stmt.perform world
      (outcome.1, { world with invitations := outcome.2 })
  | .provider stmt, world => stmt.perform world

/-- A program of a management endpoint. -/
abbrev ManagementApp := StatementTree ManagementStmt ManagementStmt.Resp Exn

namespace ManagementApp

variable {α β : Type}

/-- Perform one statement and return its answer. -/
def send (stmt : ManagementStmt) : ManagementApp stmt.Resp :=
  .perform stmt .done

/-- A program of the other endpoints. -/
def core (program : App α) : ManagementApp α :=
  embed ManagementStmt.core (fun _ answer => answer) program

/-- A computation without statements. -/
def lift (result : Except Exn α) : ManagementApp α :=
  .done result

/-- Run a program alone. -/
def run (deployment : Deployment) (program : ManagementApp α) (world : World) :
    Except Exn α × World :=
  StatementTree.run (manage deployment) program world

/-- Run a program in a transaction. -/
def runAtomic (deployment : Deployment) (program : ManagementApp α)
    (world : World) : Except Exn α × World :=
  StatementTree.runAtomic (manage deployment) program world

variable {deployment : Deployment} {world : World}

@[simp]
theorem run_core (program : App α) :
    run deployment (core program) world = App.run deployment program world :=
  run_embed (fun _ _ => rfl) program world

@[simp]
theorem run_send (stmt : ManagementStmt) :
    run deployment (send stmt) world = manage deployment stmt world :=
  rfl

theorem run_bind_of_ok {program : ManagementApp α}
    {continuation : α → ManagementApp β} {middle : α} {after : World}
    (ran : run deployment program world = (.ok middle, after)) :
    run deployment (program >>= continuation) world =
      run deployment (continuation middle) after :=
  StatementTree.run_bind_of_ok _ ran

theorem run_bind_of_error {program : ManagementApp α}
    {continuation : α → ManagementApp β} {error : Exn} {after : World}
    (ran : run deployment program world = (.error error, after)) :
    run deployment (program >>= continuation) world = (.error error, after) :=
  StatementTree.run_bind_of_error _ ran

theorem run_bind_eq_ok {program : ManagementApp α}
    {continuation : α → ManagementApp β} {value : β} {after : World} :
    run deployment (program >>= continuation) world = (.ok value, after) ↔
      ∃ middle between,
        run deployment program world = (.ok middle, between) ∧
        run deployment (continuation middle) between = (.ok value, after) :=
  StatementTree.run_bind_eq_ok _

end ManagementApp

end HexIam
