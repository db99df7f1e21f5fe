import HexIam.ManagementStatement
import HexIam.OidcService
import HexIam.PolicyService
import HexIam.PurposeTokens

/-!
# The management endpoints

Policy templates, clients, invitations, identity providers and the activation
of tenants.  The audit log, the mails and the cached lists are left out.
-/

namespace HexIam

open ManagementApp

/-! ## Principals -/

/-- The fields of a verified token that the endpoints read. -/
structure Principal where
  userId : String
  tenantId : String
  role : Option String
  deriving DecidableEq, Repr

/-- The principal of a verified token. -/
def TokenService.VerifiedTokenData.principal
    (token : TokenService.VerifiedTokenData) : Principal :=
  ⟨token.userId, token.tenantId, token.role⟩

namespace Principal

/-- `role in ("admin", "superadmin", "root")`. -/
def isAdmin (principal : Principal) : Bool :=
  principal.role ∈ [some "admin", some "superadmin", some "root"]

/-- `role in ("superadmin", "root")`. -/
def isSuperadmin (principal : Principal) : Bool :=
  principal.role ∈ [some "superadmin", some "root"]

theorem isAdmin_of_isSuperadmin {principal : Principal}
    (superadmin : principal.isSuperadmin = true) : principal.isAdmin = true := by
  simp only [isSuperadmin, isAdmin, decide_eq_true_eq, List.mem_cons,
    List.not_mem_nil, or_false] at superadmin ⊢
  exact .inr superadmin

end Principal

/-- An error response, or the data of a success. -/
inductive Answer (α : Type) : Type
  | success (data : α)
  | failure (status : Nat) (error message : String)

/-! ## Policy templates -/

/-- `TenantPolicyCreate`. -/
structure TenantPolicyCreate where
  policyId : String
  resource : String
  actions : List String
  conditions : Option (List (String × PyValue)) := none
  roles : Option (List String) := none

/-- `TenantPolicyUpdate`. -/
structure TenantPolicyUpdate where
  resource : Option String := none
  actions : Option (List String) := none
  conditions : Option (List (String × PyValue)) := none
  roles : Option (List String) := none

/-- A list of strings as a JSON value. -/
def textList (texts : List String) : PyValue :=
  .list (texts.map .text)

/-- `fields[name] = value`. -/
def setField (name : String) (value : PyValue) :
    List (String × PyValue) → List (String × PyValue)
  | [] => [(name, value)]
  | (held, old) :: rest =>
      if held = name then (held, value) :: rest
      else (held, old) :: setField name value rest

/-- `fields[name] = value` where a value is given. -/
def setGiven (name : String) (value : Option PyValue)
    (fields : List (String × PyValue)) : List (String × PyValue) :=
  match value with
  | none => fields
  | some value => setField name value fields

/-- The `policies` of `create_policy_template`. -/
def TenantPolicyCreate.policies (data : TenantPolicyCreate) :
    List (String × PyValue) :=
  [("policy_id", .text data.policyId),
    ("resource", .text data.resource),
    ("actions", textList data.actions),
    ("conditions", .dict (data.conditions.getD []))]

/-- `create_tenant_policy_template`. -/
def createTenantPolicyTemplate (db : Connection) (readings : Readings)
    (tenantId : String) (policies : List (String × PyValue))
    (roles : List String) : ManagementApp TemplateRow := do
  let row : TemplateRow := ⟨readings.secret 0, tenantId, policies, roles⟩
  let inserted ← send (.template db (.insert row))
  if inserted = 0 then
    throw (.app .conflict "Policy template creation failed")
  else
    return row

/-- `create_policy_template`. -/
def createPolicyTemplate (db : Connection) (readings : Readings)
    (principal : Principal) (data : TenantPolicyCreate) :
    ManagementApp TemplateRow :=
  createTenantPolicyTemplate db readings principal.tenantId data.policies
    (data.roles.getD [])

/-- `get_tenant_policy_template_by_id`. -/
def getTenantPolicyTemplateById (db : Connection) (tenantId templateId : String) :
    ManagementApp (Option TemplateRow) :=
  send (.core (.template db (.byId templateId tenantId)))

/-- The error of a template that does not exist. -/
def templateNotFound (templateId : String) : Exn :=
  .app .notFound ("Policy template '" ++ templateId ++ "' not found")

/-- `update_tenant_policy_template`. -/
def updateTenantPolicyTemplate (db : Connection) (tenantId templateId : String)
    (policies : Option (List (String × PyValue))) (roles : Option (List String)) :
    ManagementApp TemplateRow := do
  match ← getTenantPolicyTemplateById db tenantId templateId with
  | none => throw (templateNotFound templateId)
  | some existing =>
      let newPolicies := policies.getD existing.policies
      let newRoles := roles.getD existing.roles
      send (.template db (.update templateId tenantId newPolicies newRoles))
      return ⟨templateId, tenantId, newPolicies, newRoles⟩

/-- The `policies` of `update_policy_template` for an existing template. -/
def TenantPolicyUpdate.merge (data : TenantPolicyUpdate)
    (policies : List (String × PyValue)) : List (String × PyValue) :=
  setGiven "conditions" (data.conditions.map .dict)
    (setGiven "actions" (data.actions.map textList)
      (setGiven "resource" (data.resource.map .text) policies))

/-- `update_policy_template`. -/
def updatePolicyTemplate (db : Connection) (principal : Principal)
    (templateId : String) (data : TenantPolicyUpdate) :
    ManagementApp TemplateRow := do
  if data.resource.isSome || data.actions.isSome || data.conditions.isSome then
    let existing ←
      getTenantPolicyTemplateById db principal.tenantId templateId
    updateTenantPolicyTemplate db principal.tenantId templateId
      (existing.map fun row => data.merge row.policies) data.roles
  else
    updateTenantPolicyTemplate db principal.tenantId templateId none data.roles

/-- `delete_tenant_policy_template`, as `delete_policy_template` calls it. -/
def deletePolicyTemplate (db : Connection) (principal : Principal)
    (templateId : String) : ManagementApp Bool := do
  let deleted ← send (.template db (.delete templateId principal.tenantId))
  if deleted = 0 then
    throw (templateNotFound templateId)
  else
    return true

/-! ## Clients -/

/-- `ClientCreateRequest`. -/
structure ClientCreateRequest where
  name : String
  redirectUris : List String
  scopes : List String := ["openid", "profile", "email"]

/-- `ClientUpdateRequest`. -/
structure ClientUpdateRequest where
  name : Option String := none
  redirectUris : Option (List String) := none
  scopes : Option (List String) := none

/-- `value if value else default` on optional lists. -/
def listOr (value : Option (List String)) (default : List String) :
    List String :=
  match value with
  | some (first :: rest) => first :: rest
  | _ => default

/-- `register_client`, with the id and the secret in clear; bcrypt hashes the
secret. -/
def registerClient (deployment : Deployment) (readings : Readings)
    (principal : Principal) (request : ClientCreateRequest) :
    ManagementApp (ClientRow × String) := do
  let clientSecret := readings.secret 1
  let row : ClientRow := {
    id := "client_" ++ readings.secret 0
    tenantId := principal.tenantId
    clientSecret := deployment.hashPassword clientSecret
    name := request.name
    redirectUris := request.redirectUris
    scopes := request.scopes
    isActive := true }
  send (.client (.insert row))
  return (row, clientSecret)

/-- The answer for a client that does not exist. -/
def clientNotFound {α : Type} : Answer α :=
  .failure 404 "not_found" "Client not found"

/-- `update_client`. -/
def updateClient (principal : Principal) (clientId : String)
    (updates : ClientUpdateRequest) : ManagementApp (Answer ClientRow) := do
  match ← send (.client (.byId clientId principal.tenantId)) with
  | none => return clientNotFound
  | some existing =>
      let name :=
        if given updates.name then updates.name.getD "" else existing.name
      let redirectUris := listOr updates.redirectUris existing.redirectUris
      let scopes := listOr updates.scopes existing.scopes
      send (.client
        (.update clientId principal.tenantId name redirectUris scopes))
      return .success (existing.set name redirectUris scopes)

/-- `rotate_client_secret`, with the new secret in clear. -/
def rotateClientSecret (deployment : Deployment) (readings : Readings)
    (principal : Principal) (clientId : String) :
    ManagementApp (Answer String) := do
  match ← send (.client (.byId clientId principal.tenantId)) with
  | none => return clientNotFound
  | some _ =>
      let newSecret := readings.secret 0
      send (.client (.rotateSecret clientId principal.tenantId
        (deployment.hashPassword newSecret)))
      return .success newSecret

/-- `delete_client`. -/
def deleteClient (principal : Principal) (clientId : String) :
    ManagementApp (Answer Unit) := do
  let deleted ← send (.client (.delete clientId principal.tenantId))
  return if deleted = 0 then clientNotFound else .success ()

/-! ## Invitations -/

/-- `InvitationRequest`. -/
structure InvitationRequest where
  email : String
  role : Option String := none
  clientId : Option String := none

/-- `create_invitation`. -/
def createInvitation (deployment : Deployment) (db : Connection)
    (readings : Readings) (principal : Principal) (request : InvitationRequest) :
    ManagementApp (Answer (InvitationRow × SignedToken)) := do
  let existing ←
    send (.invitation (.pendingFor request.email principal.tenantId))
  if existing.isSome then
    return .failure 409 "invitation_exists"
      "A pending invitation already exists for this email"
  else
    let existingUser ← send (.core (.user db
      (.byTenantEmail principal.tenantId request.email)))
    if existingUser.isSome then
      return .failure 409 "user_exists" "A user with this email already exists"
    else
      let expiresAt := readings.utcNow 0 + 604800
      let row : InvitationRow := {
        id := readings.secret 0
        tenantId := principal.tenantId
        clientId := request.clientId
        email := request.email
        role := request.role
        invitedBy := some principal.userId
        expiresAt := expiresAt
        acceptedAt := none }
      send (.invitation (.insert row))
      let token ← lift (deployment.tokens.createPurposeToken
        (TokenService.invitationPayload expiresAt (readings.utcNow 1) row.id)
        (some deployment.tokens.jwtSecret)
        (some deployment.tokens.manager.algorithm))
      return .success (row, token)

/-- `revoke_invitation`. -/
def revokeInvitation (principal : Principal) (invitationId : String) :
    ManagementApp Unit :=
  send (.invitation (.deletePending invitationId principal.tenantId))

/-! ## Guarded endpoints -/

/-- `_require_admin`, and the same check of the settings endpoints. -/
def requireAdmin (principal : Principal) : ManagementApp Unit :=
  if principal.isAdmin then return ()
  else throw (.app .authorization "Admin role required")

/-- The check of the superadmin endpoints. -/
def requireSuperadmin (principal : Principal) : ManagementApp Unit :=
  if principal.isSuperadmin then return ()
  else throw (.app .authorization "Superadmin role required")

/-- `IdentityProviderCreate`. -/
structure IdentityProviderCreate where
  name : String
  protocol : String := "oidc"
  issuerUrl : String
  clientId : Option String := none
  clientSecret : Option String := none
  discoveryUrl : Option String := none
  authorizationEndpoint : Option String := none
  tokenEndpoint : Option String := none
  userinfoEndpoint : Option String := none
  jwksUri : Option String := none
  jwtValidationSecret : Option String := none
  enabled : Bool := true
  autoLink : Bool := true
  authorizationScopes : String := "openid profile email"
  tokenEndpointAuthMethod : String := "client_secret_post"
  claimsSource : String := "auto"
  linkByEmailVerifiedOnly : Bool := true
  defaultRole : String := "member"

/-- The row `create_identity_provider` inserts. -/
def IdentityProviderCreate.row (payload : IdentityProviderCreate)
    (id tenantId : String) : ProviderRow where
  id := id
  tenantId := tenantId
  name := payload.name
  protocol := payload.protocol
  issuerUrl := payload.issuerUrl
  clientId := payload.clientId
  clientSecret := payload.clientSecret
  discoveryUrl := payload.discoveryUrl
  authorizationEndpoint := payload.authorizationEndpoint
  tokenEndpoint := payload.tokenEndpoint
  userinfoEndpoint := payload.userinfoEndpoint
  jwksUri := payload.jwksUri
  jwtValidationSecret := payload.jwtValidationSecret
  enabled := payload.enabled
  autoLink := payload.autoLink
  authorizationScopes := some payload.authorizationScopes
  tokenEndpointAuthMethod := some payload.tokenEndpointAuthMethod
  claimsSource := some payload.claimsSource
  linkByEmailVerifiedOnly := payload.linkByEmailVerifiedOnly
  defaultRole := some payload.defaultRole
  createdAt := 0

/-- `IdentityProviderUpdate`. -/
structure IdentityProviderUpdate where
  name : Option String := none
  protocol : Option String := none
  issuerUrl : Option String := none
  clientId : Option String := none
  clientSecret : Option String := none
  discoveryUrl : Option String := none
  authorizationEndpoint : Option String := none
  tokenEndpoint : Option String := none
  userinfoEndpoint : Option String := none
  jwksUri : Option String := none
  jwtValidationSecret : Option String := none
  enabled : Option Bool := none
  autoLink : Option Bool := none
  authorizationScopes : Option String := none
  tokenEndpointAuthMethod : Option String := none
  claimsSource : Option String := none
  linkByEmailVerifiedOnly : Option Bool := none
  defaultRole : Option String := none

/-- `{**current, **payload}`, where `payload` leaves out what is null. -/
def IdentityProviderUpdate.merge (payload : IdentityProviderUpdate)
    (current : ProviderRow) : ProviderRow :=
  { current with
    name := payload.name.getD current.name
    protocol := payload.protocol.getD current.protocol
    issuerUrl := payload.issuerUrl.getD current.issuerUrl
    clientId := payload.clientId.or current.clientId
    clientSecret := payload.clientSecret.or current.clientSecret
    discoveryUrl := payload.discoveryUrl.or current.discoveryUrl
    authorizationEndpoint :=
      payload.authorizationEndpoint.or current.authorizationEndpoint
    tokenEndpoint := payload.tokenEndpoint.or current.tokenEndpoint
    userinfoEndpoint := payload.userinfoEndpoint.or current.userinfoEndpoint
    jwksUri := payload.jwksUri.or current.jwksUri
    jwtValidationSecret :=
      payload.jwtValidationSecret.or current.jwtValidationSecret
    enabled := payload.enabled.getD current.enabled
    autoLink := payload.autoLink.getD current.autoLink
    authorizationScopes :=
      payload.authorizationScopes.or current.authorizationScopes
    tokenEndpointAuthMethod :=
      payload.tokenEndpointAuthMethod.or current.tokenEndpointAuthMethod
    claimsSource := payload.claimsSource.or current.claimsSource
    linkByEmailVerifiedOnly :=
      payload.linkByEmailVerifiedOnly.getD current.linkByEmailVerifiedOnly
    defaultRole := payload.defaultRole.or current.defaultRole }

/-- The error of a provider that does not speak OIDC. -/
def onlyOidc : Exn :=
  .value "Only OIDC identity providers are supported right now"

/-- `create_identity_provider` of `federation_service`. -/
def createIdentityProvider (readings : Readings) (tenantId : String)
    (payload : IdentityProviderCreate) : ManagementApp (Option ProviderRow) := do
  if payload.protocol ≠ "oidc" then
    throw onlyOidc
  else
    let providerId := readings.secret 0
    send (.provider (.insert (payload.row providerId tenantId)))
    send (.core (.provider (.byId tenantId providerId)))

/-- `update_identity_provider` of `federation_service`. -/
def updateIdentityProvider (tenantId providerId : String)
    (payload : IdentityProviderUpdate) : ManagementApp (Option ProviderRow) := do
  match ← send (.core (.provider (.byId tenantId providerId))) with
  | none => return none
  | some current =>
      let merged := payload.merge current
      if merged.protocol ≠ "oidc" then
        throw onlyOidc
      else
        send (.provider (.update tenantId providerId merged))
        send (.core (.provider (.byId tenantId providerId)))

/-- `delete_identity_provider` of `federation_service`; the ids are keys, so
that no count but 1 ends in `'1'`. -/
def deleteIdentityProvider (tenantId providerId : String) :
    ManagementApp Bool := do
  let deleted ← send (.provider (.delete tenantId providerId))
  return deleted = 1

/-- `deactivate_tenant` and `activate_tenant` of `tenant_service`. -/
def setTenantActive (db : Connection) (tenantId : String) (active : Bool) :
    ManagementApp Unit :=
  send (.tenant db (.setActive tenantId active))

end HexIam
