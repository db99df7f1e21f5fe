import HexIam.Management

/-!
# The lists of a tenant

The policy templates and the identity providers of one tenant.  Their lists are
kept in Redis for a while, under one key each, and every function that writes
the table deletes its key afterwards.  Row-level security is on for the table of
the templates, so what is done there depends on the connection.
-/

namespace HexIam

namespace TenantLists

/-! ## Rows and items -/

/-- A row of `tenant_policies`, with the columns its list adds. -/
structure TemplateRecord extends TemplateRow where
  createdAt : Option Int
  lastModified : Option Int

/-- A row of `identity_providers`, likewise. -/
structure ProviderRecord extends ProviderRow where
  lastModified : Option Int

/-- A template as `get_tenant_policy_templates` lists it. -/
structure TemplateItem where
  id : String
  tenantId : String
  policies : List (String × PyValue)
  roles : List String
  createdAt : Option String
  lastModified : Option String

/-- A provider as `list_identity_providers` lists it, without its secrets. -/
structure ProviderItem where
  id : String
  tenantId : String
  name : String
  protocol : String
  issuerUrl : String
  clientId : Option String
  discoveryUrl : Option String
  authorizationEndpoint : Option String
  tokenEndpoint : Option String
  userinfoEndpoint : Option String
  jwksUri : Option String
  enabled : Bool
  autoLink : Bool
  authorizationScopes : Option String
  tokenEndpointAuthMethod : Option String
  claimsSource : Option String
  linkByEmailVerifiedOnly : Bool
  defaultRole : Option String
  createdAt : Option String
  lastModified : Option String

def TemplateRecord.item (isoformat : Int → String) (row : TemplateRecord) :
    TemplateItem where
  id := row.id
  tenantId := row.tenantId
  policies := row.policies
  roles := row.roles
  createdAt := row.createdAt.map isoformat
  lastModified := row.lastModified.map isoformat

def ProviderRecord.item (isoformat : Int → String) (row : ProviderRecord) :
    ProviderItem where
  id := row.id
  tenantId := row.tenantId
  name := row.name
  protocol := row.protocol
  issuerUrl := row.issuerUrl
  clientId := row.clientId
  discoveryUrl := row.discoveryUrl
  authorizationEndpoint := row.authorizationEndpoint
  tokenEndpoint := row.tokenEndpoint
  userinfoEndpoint := row.userinfoEndpoint
  jwksUri := row.jwksUri
  enabled := row.enabled
  autoLink := row.autoLink
  authorizationScopes := row.authorizationScopes
  tokenEndpointAuthMethod := row.tokenEndpointAuthMethod
  claimsSource := row.claimsSource
  linkByEmailVerifiedOnly := row.linkByEmailVerifiedOnly
  defaultRole := row.defaultRole
  createdAt := some (isoformat row.createdAt)
  lastModified := row.lastModified.map isoformat

/-- `ORDER BY created_at DESC`, where NULL comes first. -/
def newest : Option Int → Option Int → Bool
  | none, _ => true
  | some _, none => false
  | some first, some second => second ≤ first

/-! ## Statements -/

/-- The keys `policy_templates:{tenant_id}` and `fed_providers:{tenant_id}`. -/
inductive ListName : Type
  | policyTemplates
  | fedProviders
  deriving DecidableEq

/-- What a key holds a list of. -/
@[reducible]
def ListName.Item : ListName → Type
  | .policyTemplates => TemplateItem
  | .fedProviders => ProviderItem

/-- The statements on the rows of the tenant and on its keys. -/
inductive ListStmt : Type
  | get (name : ListName)
  | setex (name : ListName) (items : List name.Item)
  | delete (name : ListName)
  | templates (db : Connection)
  | templateById (db : Connection) (id : String)
  | insertTemplate (db : Connection) (row : TemplateRow)
  | updateTemplate (db : Connection) (id : String)
      (policies : List (String × PyValue)) (roles : List String)
  | deleteTemplate (db : Connection) (id : String)
  | providers
  | providerById (id : String)
  | insertProvider (row : ProviderRow)
  | updateProvider (id : String) (row : ProviderRow)
  | deleteProvider (id : String)

@[reducible]
def ListStmt.Resp : ListStmt → Type
  | .get name => Option (List name.Item)
  | .setex .. => Unit
  | .delete _ => Unit
  | .templates _ => List TemplateRecord
  | .templateById .. => Option TemplateRecord
  | .insertTemplate .. => Nat
  | .updateTemplate .. => Unit
  | .deleteTemplate .. => Nat
  | .providers => List ProviderRecord
  | .providerById _ => Option ProviderRecord
  | .insertProvider _ => Unit
  | .updateProvider .. => Unit
  | .deleteProvider _ => Nat

/-- The rows of the tenant, its keys in Redis, and the clock of the database. -/
structure ListWorld where
  tenantId : String
  now : Int
  templates : KeyedTable TemplateRecord fun row => row.id
  providers : KeyedTable ProviderRecord fun row => row.id
  cache : (name : ListName) → Option (List name.Item) := fun _ => none

namespace ListWorld

/-- `tenant_policy_template_list.sql`. -/
def listTemplates (world : ListWorld) : List TemplateRecord :=
  (world.templates.select fun _ => true).mergeSort fun first second =>
    newest first.createdAt second.createdAt

def listProviders (world : ListWorld) : List ProviderRecord :=
  (world.providers.select fun _ => true).mergeSort fun first second =>
    second.createdAt ≤ first.createdAt

/-- The templates that a connection sees. -/
def seenTemplates (world : ListWorld) (db : Connection) : List TemplateRecord :=
  if db.sees world.tenantId then world.listTemplates else []

/-- What the list of a key would be without Redis. -/
def listed (world : ListWorld) (isoformat : Int → String) :
    (name : ListName) → List name.Item
  | .policyTemplates => world.listTemplates.map (TemplateRecord.item isoformat)
  | .fedProviders => world.listProviders.map (ProviderRecord.item isoformat)

def setCache (world : ListWorld) (name : ListName)
    (items : Option (List name.Item)) : ListWorld :=
  { world with cache := Function.update world.cache name items }

/-- `SET policies = .., roles = .., last_modified = NOW()`. -/
def setTemplate (now : Int) (policies : List (String × PyValue))
    (roles : List String) (row : TemplateRecord) : TemplateRecord :=
  { row with
    toTemplateRow := row.toTemplateRow.set policies roles
    lastModified := some now }

/-- The columns of `row`, and `last_modified = NOW()`. -/
def setProvider (now : Int) (row : ProviderRow) (held : ProviderRecord) :
    ProviderRecord where
  toProviderRow := row.set held.toProviderRow
  lastModified := some now

/-- `ON CONFLICT DO NOTHING`. -/
def insertTemplate (world : ListWorld) (db : Connection) (row : TemplateRow) :
    Except Exn Nat × ListWorld :=
  if db.sees world.tenantId then
    match world.templates.insert ⟨row, some world.now, some world.now⟩ with
    | some templates => (.ok 1, { world with templates := templates })
    | none => (.ok 0, world)
  else (.error (.database "row-level security"), world)

def insertProvider (world : ListWorld) (row : ProviderRow) :
    Except Exn Unit × ListWorld :=
  match do
    row.accepted
    require (world.providers.select fun held =>
      held.issuerUrl = row.issuerUrl).isEmpty
      "identity_providers_tenant_id_issuer_url_key"
    match world.providers.insert ⟨{ row with createdAt := world.now },
        some world.now⟩ with
      | some providers => .ok providers
      | none => .error (.database "identity_providers_pkey") with
  | .ok providers => (.ok (), { world with providers := providers })
  | .error error => (.error error, world)

def updateProvider (world : ListWorld) (id : String) (row : ProviderRow) :
    Except Exn Unit × ListWorld :=
  if (world.providers.select fun held => held.id = id).isEmpty then
    (.ok (), world)
  else
    match do
      row.accepted
      require (world.providers.select fun held =>
        held.issuerUrl = row.issuerUrl && held.id ≠ id).isEmpty
        "identity_providers_tenant_id_issuer_url_key" with
    | .error error => (.error error, world)
    | .ok () =>
        (.ok (), { world with
          providers := world.providers.update (fun held => held.id = id)
            (setProvider world.now row) fun _ => rfl })

def perform (world : ListWorld) : (stmt : ListStmt) → Except Exn stmt.Resp × ListWorld
  | .get name => (.ok (world.cache name), world)
  | .setex name items => (.ok (), world.setCache name (some items))
  | .delete name => (.ok (), world.setCache name none)
  | .templates db => (.ok (world.seenTemplates db), world)
  | .templateById db id =>
      (.ok (if db.sees world.tenantId then world.templates.lookup id else none), world)
  | .insertTemplate db row => world.insertTemplate db row
  | .updateTemplate db id policies roles =>
      (.ok (), { world with
        templates := if db.sees world.tenantId then
            world.templates.update (fun row => row.id = id)
              (setTemplate world.now policies roles) fun _ => rfl
          else world.templates })
  | .deleteTemplate db id =>
      (.ok (world.templates.select fun row =>
          db.sees world.tenantId && row.id = id).length,
        { world with
          templates := world.templates.delete fun row =>
            db.sees world.tenantId && row.id = id })
  | .providers => (.ok world.listProviders, world)
  | .providerById id => (.ok (world.providers.lookup id), world)
  | .insertProvider row => world.insertProvider row
  | .updateProvider id row => world.updateProvider id row
  | .deleteProvider id =>
      (.ok (world.providers.select fun row => row.id = id).length,
        { world with providers := world.providers.delete fun row => row.id = id })

end ListWorld

/-! ## Functions -/

abbrev Code := StatementTree ListStmt ListStmt.Resp Exn

def send (stmt : ListStmt) : Code stmt.Resp :=
  .perform stmt .done

/-- A part of a function that runs `if redis_conn`. -/
def ifRedis (redisConn : Bool) (code : Code Unit) : Code Unit :=
  if redisConn then code else pure ()

/-- `redis_conn.get`, if there is a connection. -/
def cachedList (redisConn : Bool) (name : ListName) : Code (Option (List name.Item)) :=
  if redisConn then send (.get name) else pure none

/-- `items[start:stop]`. -/
def slice {α : Type} (items : List α) (start stop : Int) : List α :=
  let index (position : Int) : Nat :=
    if position < 0 then (items.length + position).toNat else position.toNat
  (items.take (index stop)).drop (index start)

structure PaginationInfo where
  page : Int
  pageSize : Int
  totalItems : Nat
  totalPages : Int
  deriving DecidableEq, Repr

structure PolicyTemplateListResponse where
  templates : List TemplateItem
  pagination : PaginationInfo

section Functions

variable (isoformat : Int → String) (db : Connection) (redisConn : Bool)

/-- The list of `get_tenant_policy_templates` before it is cut into pages. -/
def allTemplates : Code (List TemplateItem) := do
  match ← cachedList redisConn .policyTemplates with
  | some templates => return templates
  | none =>
      let rows ← send (.templates db)
      let templates := rows.map (TemplateRecord.item isoformat)
      ifRedis redisConn (send (.setex .policyTemplates templates))
      return templates

def getTenantPolicyTemplates (page pageSize : Int) :
    Code PolicyTemplateListResponse := do
  let templates ← allTemplates isoformat db redisConn
  let offset := (page - 1) * pageSize
  return {
    templates := slice templates offset (offset + pageSize)
    pagination := {
      page := page
      pageSize := pageSize
      totalItems := templates.length
      totalPages := if 0 < pageSize then
        (templates.length + pageSize - 1) / pageSize else 0 } }

def listIdentityProviders : Code (List ProviderItem) := do
  match ← cachedList redisConn .fedProviders with
  | some cached => return cached
  | none =>
      let rows ← send .providers
      let result := rows.map (ProviderRecord.item isoformat)
      ifRedis redisConn (send (.setex .fedProviders result))
      return result

def createTenantPolicyTemplate (templateId tenantId : String)
    (policies : List (String × PyValue)) (roles : List String) :
    Code TemplateRow := do
  let inserted ← send (.insertTemplate db ⟨templateId, tenantId, policies, roles⟩)
  if inserted = 0 then
    throw (.app .conflict "Policy template creation failed")
  else do
    ifRedis redisConn (send (.delete .policyTemplates))
    return ⟨templateId, tenantId, policies, roles⟩

def updateTenantPolicyTemplate (tenantId templateId : String)
    (policies : Option (List (String × PyValue))) (roles : Option (List String)) :
    Code TemplateRow := do
  match ← send (.templateById db templateId) with
  | none => throw (templateNotFound templateId)
  | some existing => do
      let newPolicies := policies.getD existing.policies
      let newRoles := roles.getD existing.roles
      send (.updateTemplate db templateId newPolicies newRoles)
      ifRedis redisConn (send (.delete .policyTemplates))
      return ⟨templateId, tenantId, newPolicies, newRoles⟩

def deleteTenantPolicyTemplate (templateId : String) : Code Bool := do
  let deleted ← send (.deleteTemplate db templateId)
  if deleted = 0 then
    throw (templateNotFound templateId)
  else do
    ifRedis redisConn (send (.delete .policyTemplates))
    return true

def createIdentityProvider (providerId tenantId : String)
    (payload : IdentityProviderCreate) : Code (Option ProviderRecord) := do
  if payload.protocol ≠ "oidc" then
    throw onlyOidc
  else do
    send (.insertProvider (payload.row providerId tenantId))
    ifRedis redisConn (send (.delete .fedProviders))
    send (.providerById providerId)

def updateIdentityProvider (providerId : String) (payload : IdentityProviderUpdate) :
    Code (Option ProviderRecord) := do
  match ← send (.providerById providerId) with
  | none => return none
  | some current =>
      let merged := payload.merge current.toProviderRow
      if merged.protocol ≠ "oidc" then
        throw onlyOidc
      else do
        send (.updateProvider providerId merged)
        ifRedis redisConn (send (.delete .fedProviders))
        send (.providerById providerId)

/-- The ids are keys, so that no count but 1 ends in `'1'`. -/
def deleteIdentityProvider (providerId : String) : Code Bool := do
  let _ ← send (.providerById providerId)
  let deleted ← send (.deleteProvider providerId)
  ifRedis redisConn (send (.delete .fedProviders))
  return deleted = 1

end Functions

/-- The calls on the lists of a tenant, with a connection where it matters. -/
inductive ListCall : Type
  | getTenantPolicyTemplates (db : Connection) (page pageSize : Int)
  | listIdentityProviders
  | createTenantPolicyTemplate (db : Connection) (templateId : String)
      (policies : List (String × PyValue)) (roles : List String)
  | updateTenantPolicyTemplate (db : Connection) (templateId : String)
      (policies : Option (List (String × PyValue))) (roles : Option (List String))
  | deleteTenantPolicyTemplate (db : Connection) (templateId : String)
  | createIdentityProvider (providerId : String) (payload : IdentityProviderCreate)
  | updateIdentityProvider (providerId : String) (payload : IdentityProviderUpdate)
  | deleteIdentityProvider (providerId : String)

/-- What a call runs: the endpoints pass their connection to Redis on. -/
def ListCall.program (isoformat : Int → String) (tenantId : String) :
    ListCall → Code Unit
  | .getTenantPolicyTemplates db page pageSize => do
      let _ ← TenantLists.getTenantPolicyTemplates isoformat db true page pageSize
  | .listIdentityProviders => do
      let _ ← TenantLists.listIdentityProviders isoformat true
  | .createTenantPolicyTemplate db templateId policies roles => do
      let _ ← TenantLists.createTenantPolicyTemplate db true templateId tenantId
        policies roles
  | .updateTenantPolicyTemplate db templateId policies roles => do
      let _ ← TenantLists.updateTenantPolicyTemplate db true tenantId templateId
        policies roles
  | .deleteTenantPolicyTemplate db templateId => do
      let _ ← TenantLists.deleteTenantPolicyTemplate db true templateId
  | .createIdentityProvider providerId payload => do
      let _ ← TenantLists.createIdentityProvider true providerId tenantId payload
  | .updateIdentityProvider providerId payload => do
      let _ ← TenantLists.updateIdentityProvider true providerId payload
  | .deleteIdentityProvider providerId => do
      let _ ← TenantLists.deleteIdentityProvider true providerId

end TenantLists

end HexIam
