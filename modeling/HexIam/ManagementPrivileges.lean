import HexIam.PolicyWrites

/-!
# The privileges of the management endpoints

The endpoints for settings, identity providers and the activation of tenants
check the role of the token.  Those for policies, templates, clients and
invitations are documented to need an administrator as well, and check no role.
A principal who is no administrator leaves what they manage as it is in the
runs whose requests to the latter endpoints find neither the row they name nor a
free key for a new one.
-/

namespace HexIam

open StatementTree GuardedRun PolicyNarrowing SessionRevocation

namespace ManagementPrivileges

/-! ## Requests -/

/-- A statement that writes `user_policies`. -/
def WritesPolicies : Stmt → Prop
  | .policy _ (.insert _) => True
  | .policy _ (.update _) => True
  | .policy _ (.delete ..) => True
  | .policy _ (.bulkUpsert _) => True
  | _ => False

/-- An authenticated request: to an endpoint that writes policies, templates,
clients or invitations, to one that checks the role, or to another, which writes
no policies. -/
inductive ManagementRequest : Type
  | policy (write : PolicyWrite)
  | registerClient (readings : Readings) (principal : Principal)
      (request : ClientCreateRequest)
  | updateClient (principal : Principal) (clientId : String)
      (updates : ClientUpdateRequest)
  | rotateClientSecret (readings : Readings) (principal : Principal)
      (clientId : String)
  | deleteClient (principal : Principal) (clientId : String)
  | createInvitation (db : Connection) (readings : Readings)
      (principal : Principal) (request : InvitationRequest)
  | revokeInvitation (principal : Principal) (invitationId : String)
  | createProvider (readings : Readings) (principal : Principal)
      (payload : IdentityProviderCreate)
  | updateProvider (principal : Principal) (providerId : String)
      (payload : IdentityProviderUpdate)
  | deleteProvider (principal : Principal) (providerId : String)
  | setTenantActive (db : Connection) (principal : Principal) (tenantId : String)
      (active : Bool)
  | other (principal : Principal) (program : App Unit)
      (reads : Within (fun stmt => ¬ WritesPolicies stmt) program)

namespace ManagementRequest

/-- The principal of the token; an onboarding has no token. -/
def principal : ManagementRequest → Option Principal
  | policy (.create _ principal ..) => some principal
  | policy (.update _ _ principal ..) => some principal
  | policy (.delete _ _ principal ..) => some principal
  | policy (.assign _ principal ..) => some principal
  | policy (.bulkAssign _ principal ..) => some principal
  | policy (.createTemplate _ _ principal _) => some principal
  | policy (.updateTemplate _ principal ..) => some principal
  | policy (.deleteTemplate _ principal _) => some principal
  | policy (.assignTemplate _ principal ..) => some principal
  | policy (.onboard ..) => none
  | registerClient _ principal _ => some principal
  | updateClient principal .. => some principal
  | rotateClientSecret _ principal _ => some principal
  | deleteClient principal _ => some principal
  | createInvitation _ _ principal _ => some principal
  | revokeInvitation principal _ => some principal
  | createProvider _ principal _ => some principal
  | updateProvider principal .. => some principal
  | deleteProvider principal _ => some principal
  | setTenantActive _ principal .. => some principal
  | other principal .. => some principal

/-- The world after a request. -/
def after (deployment : Deployment) (world : World) : ManagementRequest → World
  | policy write => (write.run deployment world).2
  | registerClient readings principal request =>
      (ManagementApp.run deployment
        (HexIam.registerClient deployment readings principal request) world).2
  | updateClient principal clientId updates =>
      (ManagementApp.run deployment
        (HexIam.updateClient principal clientId updates) world).2
  | rotateClientSecret readings principal clientId =>
      (ManagementApp.run deployment (HexIam.rotateClientSecret deployment readings
        principal clientId) world).2
  | deleteClient principal clientId =>
      (ManagementApp.run deployment (HexIam.deleteClient principal clientId)
        world).2
  | createInvitation db readings principal request =>
      (ManagementApp.run deployment
        (HexIam.createInvitation deployment db readings principal request)
        world).2
  | revokeInvitation principal invitationId =>
      (ManagementApp.run deployment
        (HexIam.revokeInvitation principal invitationId) world).2
  | createProvider readings principal payload =>
      (ManagementApp.run deployment (do
        requireAdmin principal
        createIdentityProvider readings principal.tenantId payload) world).2
  | updateProvider principal providerId payload =>
      (ManagementApp.run deployment (do
        requireAdmin principal
        updateIdentityProvider principal.tenantId providerId payload) world).2
  | deleteProvider principal providerId =>
      (ManagementApp.run deployment (do
        requireAdmin principal
        deleteIdentityProvider principal.tenantId providerId) world).2
  | setTenantActive db principal tenantId active =>
      (ManagementApp.run deployment (do
        requireSuperadmin principal
        HexIam.setTenantActive db tenantId active) world).2
  | other _ program _ => (App.run deployment program world).2

end ManagementRequest

/-- A request, or the passing of time. -/
inductive ManagementEvent : Type
  | request (request : ManagementRequest)
  | wait (seconds : Nat)

/-- The world after an event. -/
def managementStep (deployment : Deployment) (world : World) :
    ManagementEvent → Option World
  | .request request => some (request.after deployment world)
  | .wait seconds => some { world with now := world.now + seconds }

/-- A request is made by a principal who is no administrator. -/
def ByMember : ManagementEvent → Prop
  | .request request =>
      ∃ principal, request.principal = some principal ∧
        principal.isAdmin = false
  | .wait _ => True

/-! ## The property and the condition -/

/-- Policies, templates and clients are as they were, and the invitations that
are pending now are those that would be without any request. -/
structure Untouched (start world : World) : Prop where
  policies : ∀ row, row ∈ world.userPolicies ↔ row ∈ start.userPolicies
  templates : ∀ row, row ∈ world.templates ↔ row ∈ start.templates
  clients : ∀ row, row ∈ world.clients ↔ row ∈ start.clients
  invitations : ∀ row, row.pending world.now = true →
    (row ∈ world.invitations ↔ row ∈ start.invitations)
  clock : start.now ≤ world.now

/-- The client of a tenant. -/
def clientFor (world : World) (clientId tenantId : String) :
    Option ClientRow :=
  (world.clients.lookup clientId).filter fun row => row.tenantId = tenantId

/-- The row `register_client` inserts. -/
def registeredClient (deployment : Deployment) (readings : Readings)
    (principal : Principal) (request : ClientCreateRequest) : ClientRow where
  id := "client_" ++ readings.secret 0
  tenantId := principal.tenantId
  clientSecret := deployment.hashPassword (readings.secret 1)
  name := request.name
  redirectUris := request.redirectUris
  scopes := request.scopes
  isActive := true

/-- The row `create_invitation` inserts. -/
def invited (readings : Readings) (principal : Principal)
    (request : InvitationRequest) : InvitationRow where
  id := readings.secret 0
  tenantId := principal.tenantId
  clientId := request.clientId
  email := request.email
  role := request.role
  invitedBy := some principal.userId
  expiresAt := readings.utcNow 0 + 604800
  acceptedAt := none

/-- A user who exists has no policy with this id. -/
def IsFree (world : World) (tenantId userId policyId : String) : Prop :=
  world.hasUser userId = true ∧
    world.userPolicies.lookup (tenantId, userId, policyId) = none

/-- What a call on policies or templates is for: the policy or the template it
names is there, or its users exist and have no such policy yet.  A bulk upsert
replaces the policies that they have. -/
def FindsPolicy (world : World) : PolicyWrite → Prop
  | .create _ principal userId policy =>
      IsFree world principal.tenantId userId policy.policyId
  | .update _ db principal userId policyId _
  | .delete _ db principal userId policyId =>
      ∃ row, world.userPolicies.seen db (principal.tenantId, userId, policyId) =
        some row
  | .assign db principal userId policy =>
      world.hasUserIn db userId principal.tenantId = true ∧
        IsFree world principal.tenantId userId policy.policyId
  | .bulkAssign _ _ userIds .. =>
      userIds ≠ [] ∧ ∀ userId ∈ userIds, world.hasUser userId = true
  | .createTemplate _ readings .. =>
      world.templates.lookup (readings.secret 0) = none
  | .updateTemplate db principal templateId _
  | .deleteTemplate db principal templateId =>
      ∃ row, world.templateFor db principal.tenantId templateId = some row
  | .assignTemplate db principal templateId userId =>
      ∃ policy, world.templatePolicy db principal.tenantId templateId =
        some policy ∧ IsFree world principal.tenantId userId policy.policyId
  | .onboard .. => True

/-- A request to an endpoint without a guard finds the row it names, or its key
is free. -/
def Finds (world : World) : ManagementEvent → Prop
  | .request (.policy write) => FindsPolicy world write
  | .request (.registerClient readings _ _) =>
      world.clients.lookup ("client_" ++ readings.secret 0) = none
  | .request (.updateClient principal clientId _)
  | .request (.rotateClientSecret _ principal clientId)
  | .request (.deleteClient principal clientId) =>
      ∃ row, clientFor world clientId principal.tenantId = some row
  | .request (.createInvitation db readings principal request) =>
      (∀ user ∈ world.users, ¬ (user.tenantId = principal.tenantId ∧
        user.email = request.email ∧ db.sees user.tenantId = true)) ∧
      (∀ row ∈ world.invitations,
        ¬ (row.tenantId = principal.tenantId ∧ row.email = request.email)) ∧
      world.invitations.lookup (readings.secret 0) = none
  | .request (.revokeInvitation principal invitationId) =>
      ∃ row, world.invitations.lookup invitationId = some row ∧
        row.tenantId = principal.tenantId ∧ row.pending world.now = true
  | _ => False

/-- A request to an endpoint without a guard finds nothing. -/
def Misses (world : World) (event : ManagementEvent) : Prop :=
  ¬ Finds world event

/-! ## What stays -/

section Untouched

variable {deployment : Deployment} {start world after : World}

theorem InvitationRow.pending_of_le {row : InvitationRow} {now later : Int}
    (order : now ≤ later) (pending : row.pending later = true) :
    row.pending now = true := by
  simp only [InvitationRow.pending, Bool.and_eq_true, decide_eq_true_eq]
    at pending ⊢
  exact ⟨pending.1, by omega⟩

theorem Untouched.refl (world : World) : Untouched world world :=
  ⟨fun _ => .rfl, fun _ => .rfl, fun _ => .rfl, fun _ _ => .rfl, le_rfl⟩

theorem Untouched.trans (first : Untouched start world)
    (second : Untouched world after) : Untouched start after where
  policies row := (second.policies row).trans (first.policies row)
  templates row := (second.templates row).trans (first.templates row)
  clients row := (second.clients row).trans (first.clients row)
  invitations row pending :=
    (second.invitations row pending).trans (first.invitations row
      (InvitationRow.pending_of_le second.clock pending))
  clock := first.clock.trans second.clock

theorem untouched_core {α : Type} {program : App α}
    (policies : ∀ row,
      row ∈ (App.run deployment program world).2.userPolicies ↔
        row ∈ world.userPolicies) :
    Untouched world (App.run deployment program world).2 := by
  have templates : (App.run deployment program world).2.templates =
      world.templates :=
    frame_of_all World.templates fun _ _ => (managed_perform deployment).2.1
  have clients : (App.run deployment program world).2.clients = world.clients :=
    frame_of_all World.clients fun _ _ => clients_perform deployment
  have invitations : (App.run deployment program world).2.invitations =
      world.invitations :=
    frame_of_all World.invitations fun _ _ =>
      (managed_perform deployment).2.2.2
  have clock : (App.run deployment program world).2.now = world.now :=
    frame_of_all World.now fun _ _ => now_perform deployment
  exact ⟨policies, fun _ => by rw [templates], fun _ => by rw [clients],
    fun _ _ => by rw [invitations], clock.ge⟩

theorem untouched_of_reads {α : Type} {program : App α}
    (reads : Within (fun stmt => ¬ WritesPolicies stmt) program) :
    Untouched world (App.run deployment program world).2 := by
  have same : (App.run deployment program world).2.userPolicies =
      world.userPolicies := by
    have keeps (stmt : Stmt) (before : World) (reading : ¬ WritesPolicies stmt)
        (kept : before.userPolicies = world.userPolicies) :
        (perform deployment stmt before).2.userPolicies =
          world.userPolicies := by
      rw [← kept]
      by_cases table : stmt.table = .policies
      case neg => exact userPolicies_perform deployment table
      case pos =>
        cases stmt with
        | policy db stmt =>
            cases stmt with
            | single | valid => rfl
            | _ => exact absurd trivial reading
        | _ => cases table
    exact reads.run_preserves keeps rfl
  exact untouched_core fun row => by rw [same]

end Untouched

/-! ## Policies and templates -/

section Policies

variable {deployment : Deployment} {world : World} {db : Connection}
variable {tenantId userId policyId : String}

theorem eq_none_of_not_exists {α : Type} {found : Option α}
    (missing : ¬ ∃ row, found = some row) : found = none :=
  Option.eq_none_iff_forall_ne_some.mpr fun row some => missing ⟨row, some⟩

theorem hasUser_of_acceptsPolicy {row : PolicyRow}
    (accepted : (world.acceptsPolicy db row).isOk = true) :
    world.hasUser row.userId = true := by
  cases result : world.acceptsPolicy db row with
  | error error =>
      rw [result] at accepted
      cases accepted
  | ok =>
      simp only [World.acceptsPolicy, require_bind_eq_ok] at result
      obtain ⟨-, -, -, found⟩ := result
      cases userEq : world.hasUser row.userId with
      | true => rfl
      | false =>
          rw [userEq] at found
          cases found

/-- An insert whose key is taken, or whose user is missing, adds nothing. -/
theorem insertsPolicy_of_not_isFree {policy : PolicyCreate}
    (taken : ¬ IsFree world tenantId userId policy.policyId) :
    world.insertsPolicy db (policy.row tenantId userId) = false := by
  rw [Bool.eq_false_iff]
  intro inserts
  simp only [World.insertsPolicy, Bool.and_eq_true, Option.isNone_iff_eq_none]
    at inserts
  obtain ⟨accepted, free⟩ := inserts
  refine taken ⟨?_, free⟩
  exact hasUser_of_acceptsPolicy accepted

theorem untouched_createPolicy {policy : PolicyCreate}
    (taken : ¬ IsFree world tenantId userId policy.policyId) :
    Untouched world (App.run deployment (createPolicy db tenantId userId policy)
      world).2 := by
  rcases @run_createPolicy deployment world db tenantId userId policy with
    ⟨inserts, -⟩ | ⟨-, error, ran⟩
  · rw [insertsPolicy_of_not_isFree taken] at inserts
    cases inserts
  · rw [ran]
    exact .refl world

theorem untouched_updatePolicy {worker : Nat} {updates : PolicyUpdate}
    (missing : world.userPolicies.seen db (tenantId, userId, policyId) = none) :
    Untouched world (App.run deployment
      (updatePolicy worker db tenantId userId policyId updates) world).2 := by
  refine untouched_core fun row => ?_
  rcases @after_updatePolicy deployment world db worker userId tenantId policyId
    updates with ⟨-, unchanged⟩ | ⟨existing, changed, seen, -⟩
  · rw [unchanged]
  · rw [missing] at seen
    cases seen

theorem untouched_deletePolicy {worker : Nat}
    (missing : world.userPolicies.seen db (tenantId, userId, policyId) = none) :
    Untouched world (App.run deployment
      (deletePolicy worker db tenantId userId policyId) world).2 := by
  refine untouched_core fun row => ?_
  have policies : (App.run deployment (deletePolicy worker db tenantId userId
      policyId) world).2.userPolicies = (perform deployment (.policy db
        (.delete tenantId userId policyId)) world).2.userPolicies := by
    rcases @after_deletePolicy deployment world db worker userId tenantId
      policyId with ⟨-, same⟩ | loggedOut
    · rw [same]
    · exact loggedOut.policies
  rw [policies]
  refine KeyedTable.mem_delete.trans (and_iff_left_of_imp fun rowMem => ?_)
  rw [Bool.eq_false_iff]
  intro selected
  rw [Bool.and_eq_true, decide_eq_true_eq] at selected
  have seen : world.userPolicies.seen db (tenantId, userId, policyId) =
      some row :=
    Option.filter_eq_some_iff.mpr
      ⟨KeyedTable.lookup_eq_some.mpr ⟨rowMem, selected.1⟩, selected.2⟩
  rw [missing] at seen
  cases seen

/-- The records of an `executemany` that is accepted are of users who exist. -/
theorem hasUser_of_upsertAll {records : List PolicyRow}
    {table result : PolicyTable}
    (upserted : PolicyStmt.upsertAll world db records table = .ok result) :
    ∀ record ∈ records, world.hasUser record.userId = true := by
  induction records generalizing table with
  | nil => simp
  | cons record rest ih =>
      simp only [PolicyStmt.upsertAll, except_bind_eq_ok] at upserted
      obtain ⟨_, accepted, _, -, upserted⟩ := upserted
      refine List.forall_mem_cons.mpr ⟨?_, ih upserted⟩
      exact hasUser_of_acceptsPolicy (congrArg Except.isOk accepted)

theorem untouched_bulkAssignPolicy {userIds : List String} {resource : String}
    {actions : List String} {conditions : Option (List (String × PyValue))}
    (missing : ¬ (userIds ≠ [] ∧
      ∀ userId ∈ userIds, world.hasUser userId = true)) :
    Untouched world (App.run deployment (bulkAssignPolicy db tenantId userIds
      policyId resource actions conditions) world).2 := by
  refine untouched_core fun row => ?_
  rw [userPolicies_bulkAssignPolicy]
  simp only [PolicyStmt.perform]
  split
  case h_1 table upserted =>
    have exist := hasUser_of_upsertAll upserted
    have noRecords : userIds = [] := by
      by_contra some
      refine missing ⟨some, fun userId userMem => ?_⟩
      exact exist _ (List.mem_map_of_mem userMem)
    rw [noRecords] at upserted
    cases upserted
    exact .rfl
  case h_2 => exact .rfl

/-- The program after a single statement has none. -/
theorem run_send_bind {α : Type} {stmt : ManagementStmt}
    {continuation : stmt.Resp → ManagementApp α}
    (ends : ∀ answer, ∃ result, continuation answer = .done result) :
    (ManagementApp.run deployment (ManagementApp.send stmt >>= continuation)
      world).2 = (manage deployment stmt world).2 := by
  rcases performed : manage deployment stmt world with ⟨answer, after⟩
  rw [← ManagementApp.run_send] at performed
  cases answer with
  | error error => rw [ManagementApp.run_bind_of_error performed]
  | ok answer =>
      obtain ⟨result, done⟩ := ends answer
      rw [ManagementApp.run_bind_of_ok performed, done]
      rfl

theorem untouched_templates {templates : TemplateTable}
    (same : ∀ row, row ∈ templates ↔ row ∈ world.templates) :
    Untouched world { world with templates := templates } :=
  ⟨fun _ => .rfl, same, fun _ => .rfl, fun _ _ => .rfl, le_rfl⟩

theorem templates_insert {row : TemplateRow}
    (taken : world.templates.lookup row.id ≠ none) :
    (TemplateUpdateStmt.perform db world (.insert row)).2 = world.templates := by
  simp only [TemplateUpdateStmt.perform]
  split
  case h_1 => rfl
  case h_2 accepted =>
    rw [KeyedTable.insert_of_taken taken]

theorem untouched_createPolicyTemplate {readings : Readings}
    {principal : Principal} {data : TenantPolicyCreate}
    (taken : world.templates.lookup (readings.secret 0) ≠ none) :
    Untouched world (ManagementApp.run deployment
      (createPolicyTemplate db readings principal data) world).2 := by
  unfold createPolicyTemplate createTenantPolicyTemplate
  rw [run_send_bind fun inserted => ?ends]
  case ends =>
    split
    · exact ⟨_, rfl⟩
    · exact ⟨_, rfl⟩
  exact untouched_templates fun row => by rw [templates_insert taken]

/-- What an update of a template does: nothing where the connection sees no such
template. -/
theorem run_updateTenantPolicyTemplate {templateId : String}
    {policies : Option (List (String × PyValue))}
    {roles : Option (List String)} :
    (ManagementApp.run deployment (updateTenantPolicyTemplate db tenantId
        templateId policies roles) world).2 =
      match world.templateFor db tenantId templateId with
      | none => world
      | some existing => { world with
          templates := world.templates.update
            (TemplateRow.isOne db templateId tenantId)
            (TemplateRow.set (policies.getD existing.policies)
              (roles.getD existing.roles))
            (TemplateRow.set_id _ _) } := by
  have asked : ManagementApp.run deployment
      (getTenantPolicyTemplateById db tenantId templateId) world =
      (.ok (world.templateFor db tenantId templateId), world) := rfl
  unfold updateTenantPolicyTemplate
  rw [ManagementApp.run_bind_of_ok asked]
  cases world.templateFor db tenantId templateId <;> rfl

/-- An update that gives no field leaves the policies. -/
theorem merge_of_none {data : TenantPolicyUpdate}
    (none : (data.resource.isSome || data.actions.isSome ||
      data.conditions.isSome) = false) (policies : List (String × PyValue)) :
    data.merge policies = policies := by
  simp only [Bool.or_eq_false_iff, Option.isSome_eq_false_iff,
    Option.isNone_iff_eq_none] at none
  rw [TenantPolicyUpdate.merge, none.1.1, none.1.2, none.2]
  rfl

theorem untouched_updatePolicyTemplate {principal : Principal}
    {templateId : String} {data : TenantPolicyUpdate}
    (missing : world.templateFor db principal.tenantId templateId = none) :
    Untouched world (ManagementApp.run deployment
      (updatePolicyTemplate db principal templateId data) world).2 := by
  have updated : (ManagementApp.run deployment
      (updatePolicyTemplate db principal templateId data) world).2 =
      match world.templateFor db principal.tenantId templateId with
      | none => world
      | some existing => { world with
          templates := world.templates.update
            (TemplateRow.isOne db templateId principal.tenantId)
            (TemplateRow.set (data.merge existing.policies)
              (data.roles.getD existing.roles))
            (TemplateRow.set_id _ _) } := by
    have asked : ManagementApp.run deployment
        (getTenantPolicyTemplateById db principal.tenantId templateId) world =
        (.ok (world.templateFor db principal.tenantId templateId), world) := rfl
    unfold updatePolicyTemplate
    split
    case isTrue =>
      rw [ManagementApp.run_bind_of_ok asked, run_updateTenantPolicyTemplate]
      cases world.templateFor db principal.tenantId templateId <;> rfl
    case isFalse noFields =>
      rw [Bool.not_eq_true] at noFields
      rw [run_updateTenantPolicyTemplate]
      simp only [merge_of_none noFields, Option.getD_none]
  rw [updated, missing]
  exact .refl world

theorem untouched_deletePolicyTemplate {principal : Principal}
    {templateId : String}
    (missing : world.templateFor db principal.tenantId templateId = none) :
    Untouched world (ManagementApp.run deployment
      (deletePolicyTemplate db principal templateId) world).2 := by
  unfold deletePolicyTemplate
  rw [run_send_bind fun deleted => ?ends]
  case ends =>
    split
    · exact ⟨_, rfl⟩
    · exact ⟨_, rfl⟩
  refine untouched_templates fun row => ?_
  refine KeyedTable.mem_delete.trans (and_iff_left_of_imp fun rowMem => ?_)
  rw [Bool.eq_false_iff]
  intro selected
  simp only [TemplateRow.isOne, Bool.and_eq_true, decide_eq_true_eq] at selected
  have seen : world.templateFor db principal.tenantId templateId = some row :=
    Option.filter_eq_some_iff.mpr
      ⟨KeyedTable.lookup_eq_some.mpr ⟨rowMem, selected.1.1⟩,
        Bool.and_eq_true_iff.mpr ⟨decide_eq_true selected.1.2, selected.2⟩⟩
  rw [missing] at seen
  cases seen

/-- A call that finds nothing touches nothing. -/
theorem untouched_policyWrite {write : PolicyWrite} {principal : Principal}
    (byPrincipal : (ManagementRequest.policy write).principal = some principal)
    (misses : ¬ FindsPolicy world write) :
    Untouched world (write.run deployment world).2 := by
  cases write with
  | create db principal userId policy => exact untouched_createPolicy misses
  | update worker db principal userId policyId updates =>
      exact untouched_updatePolicy (eq_none_of_not_exists misses)
  | delete worker db principal userId policyId =>
      exact untouched_deletePolicy (eq_none_of_not_exists misses)
  | assign db principal userId policy =>
      rw [PolicyWrite.run, run_assignPolicyToUser]
      cases found : world.hasUserIn db userId principal.tenantId with
      | true => exact untouched_createPolicy fun free => misses ⟨found, free⟩
      | false => exact .refl world
  | bulkAssign db principal userIds policyId resource actions conditions =>
      exact untouched_bulkAssignPolicy misses
  | createTemplate db readings principal data =>
      exact untouched_createPolicyTemplate misses
  | updateTemplate db principal templateId data =>
      exact untouched_updatePolicyTemplate (eq_none_of_not_exists misses)
  | deleteTemplate db principal templateId =>
      exact untouched_deletePolicyTemplate (eq_none_of_not_exists misses)
  | assignTemplate db principal templateId userId =>
      have assigned := @run_assignTemplateToUser deployment world db
        principal.tenantId userId templateId
      rw [PolicyWrite.run]
      cases template : world.templatePolicy db principal.tenantId templateId with
      | none =>
          rw [template] at assigned
          obtain ⟨error, ran⟩ := assigned
          rw [ran]
          exact .refl world
      | some policy =>
          rw [template] at assigned
          rw [assigned]
          exact untouched_createPolicy fun free => misses ⟨policy, template, free⟩
  | onboard db readings request => cases byPrincipal

end Policies

/-! ## Clients and invitations -/

section Clients

variable {deployment : Deployment} {world : World} {principal : Principal}
variable {readings : Readings} {clientId : String}

theorem untouched_invitations {invitations : InvitationTable}
    (same : ∀ row, row.pending world.now = true →
      (row ∈ invitations ↔ row ∈ world.invitations)) :
    Untouched world { world with invitations := invitations } :=
  ⟨fun _ => .rfl, fun _ => .rfl, fun _ => .rfl, same, le_rfl⟩

theorem asked_client : ManagementApp.run deployment
    (ManagementApp.send (.client (.byId clientId principal.tenantId))) world =
      (.ok (clientFor world clientId principal.tenantId), world) :=
  rfl

theorem untouched_registerClient {request : ClientCreateRequest}
    (taken : world.clients.lookup ("client_" ++ readings.secret 0) ≠ none) :
    Untouched world (ManagementApp.run deployment
      (registerClient deployment readings principal request) world).2 := by
  have ran : (ManagementApp.run deployment
      (registerClient deployment readings principal request) world).2 =
      (ClientUpdateStmt.perform world (.insert
        (registeredClient deployment readings principal request))).2 :=
    run_send_bind fun _ => ⟨_, rfl⟩
  rw [ran]
  have isTaken : world.clients.insert
      { registeredClient deployment readings principal request with
        isActive := true } = none :=
    KeyedTable.insert_of_taken taken
  simp only [ClientUpdateStmt.perform, isTaken]
  split
  case h_1 inserted =>
    simp only [except_bind_eq_ok] at inserted
    obtain ⟨_, -, _, -, inserted⟩ := inserted
    cases inserted
  case h_2 => exact .refl world

theorem untouched_updateClient {updates : ClientUpdateRequest}
    (missing : clientFor world clientId principal.tenantId = none) :
    Untouched world (ManagementApp.run deployment
      (updateClient principal clientId updates) world).2 := by
  unfold updateClient
  rw [ManagementApp.run_bind_of_ok asked_client, missing]
  exact .refl world

theorem untouched_rotateClientSecret
    (missing : clientFor world clientId principal.tenantId = none) :
    Untouched world (ManagementApp.run deployment
      (rotateClientSecret deployment readings principal clientId) world).2 := by
  unfold rotateClientSecret
  rw [ManagementApp.run_bind_of_ok asked_client, missing]
  exact .refl world

theorem untouched_deleteClient
    (missing : clientFor world clientId principal.tenantId = none) :
    Untouched world (ManagementApp.run deployment
      (deleteClient principal clientId) world).2 := by
  have notSelected (row : ClientRow) (rowMem : row ∈ world.clients) :
      row.isOne clientId principal.tenantId = false := by
    rw [Bool.eq_false_iff]
    intro selected
    simp only [ClientRow.isOne, Bool.and_eq_true, decide_eq_true_eq] at selected
    have found : clientFor world clientId principal.tenantId = some row :=
      Option.filter_eq_some_iff.mpr
        ⟨KeyedTable.lookup_eq_some.mpr ⟨rowMem, selected.1⟩,
          decide_eq_true selected.2⟩
    rw [missing] at found
    cases found
  have notGone (id : String) : (world.clients.lookup id).any
      (ClientRow.isOne clientId principal.tenantId) = false := by
    cases found : world.clients.lookup id with
    | none => rfl
    | some row => exact notSelected row (KeyedTable.lookup_eq_some.mp found).1
  have ran : (ManagementApp.run deployment (deleteClient principal clientId)
      world).2 =
      world.deleteClients (ClientRow.isOne clientId principal.tenantId) :=
    run_send_bind fun _ => ⟨_, rfl⟩
  rw [ran]
  constructor
  case policies => exact fun _ => .rfl
  case templates => exact fun _ => .rfl
  case clients =>
    exact fun row => KeyedTable.mem_delete.trans
      (and_iff_left_of_imp (notSelected row))
  case invitations =>
    intro row pending
    refine (KeyedTable.mem_update InvitationRow.clearClient_id).trans ?_
    have none (held : InvitationRow) : (held.clientId.any fun clientId' =>
        (world.clients.lookup clientId').any
          (ClientRow.isOne clientId principal.tenantId)) = false := by
      cases held.clientId with
      | none => rfl
      | some id => exact notGone id
    simp only [none, Bool.false_eq_true, if_false]
    constructor
    · rintro ⟨held, heldMem, rfl⟩
      exact heldMem
    · exact fun rowMem => ⟨row, rowMem, rfl⟩
  case clock => exact le_rfl

/-- The insert of an invitation whose keys are taken changes nothing. -/
theorem invitations_insert {row : InvitationRow}
    (taken : ¬ ((∀ held ∈ world.invitations,
        ¬ (held.tenantId = row.tenantId ∧ held.email = row.email)) ∧
      world.invitations.lookup row.id = none)) :
    (InvitationStmt.perform world (.insert row)).2 = world.invitations := by
  simp only [InvitationStmt.perform]
  split
  case h_2 => rfl
  case h_1 table inserted =>
    simp only [except_bind_eq_ok] at inserted
    obtain ⟨_, -, _, -, _, -, _, unique, inserted⟩ := inserted
    refine absurd ⟨fun held heldMem same => ?_, ?_⟩ taken
    · have none : (world.invitations.select fun held =>
          held.tenantId = row.tenantId && held.email = row.email).isEmpty =
          true := by
        by_contra some
        rw [Bool.not_eq_true] at some
        rw [some] at unique
        cases unique
      rw [List.isEmpty_iff] at none
      have selected : held ∈ world.invitations.select fun held =>
          held.tenantId = row.tenantId && held.email = row.email :=
        KeyedTable.mem_select.mpr ⟨heldMem, by simp [same]⟩
      rw [none] at selected
      cases selected
    · by_contra some
      have isTaken : world.invitations.insert { row with acceptedAt := none } =
          none := KeyedTable.insert_of_taken some
      rw [isTaken] at inserted
      cases inserted

theorem untouched_createInvitation {db : Connection}
    {request : InvitationRequest}
    (taken : ¬ ((∀ user ∈ world.users, ¬ (user.tenantId = principal.tenantId ∧
        user.email = request.email ∧ db.sees user.tenantId = true)) ∧
      (∀ row ∈ world.invitations,
        ¬ (row.tenantId = principal.tenantId ∧ row.email = request.email)) ∧
      world.invitations.lookup (readings.secret 0) = none)) :
    Untouched world (ManagementApp.run deployment
      (createInvitation deployment db readings principal request) world).2 := by
  obtain ⟨existing, pendingEq⟩ : ∃ existing, (InvitationStmt.perform world
      (.pendingFor request.email principal.tenantId)).1 = .ok existing :=
    ⟨_, rfl⟩
  obtain ⟨user, userEq⟩ : ∃ user, (UserStmt.perform deployment db world
      (.byTenantEmail principal.tenantId request.email)).1 = .ok user :=
    ⟨_, rfl⟩
  have askedPending : ManagementApp.run deployment (ManagementApp.send
      (.invitation (.pendingFor request.email principal.tenantId))) world =
      (.ok existing, world) := by rw [← pendingEq]; rfl
  have askedUser : ManagementApp.run deployment (ManagementApp.send
      (.core (.user db (.byTenantEmail principal.tenantId request.email))))
      world = (.ok user, world) := by rw [← userEq]; rfl
  unfold createInvitation
  rw [ManagementApp.run_bind_of_ok askedPending]
  cases existing with
  | some row => exact .refl world
  | none =>
      dsimp only [Option.isSome_none]
      rw [if_neg Bool.false_ne_true, ManagementApp.run_bind_of_ok askedUser]
      cases user with
      | some row => exact .refl world
      | none =>
          dsimp only [Option.isSome_none]
          rw [if_neg Bool.false_ne_true]
          have unchanged : (InvitationStmt.perform world
              (.insert (invited readings principal request))).2 =
              world.invitations := by
            refine invitations_insert fun free => taken ⟨?_, free⟩
            intro user userMem same
            have noUser := List.head?_eq_none_iff.mp (Except.ok.inj userEq)
            have selected : user ∈ world.users.select fun user =>
                user.tenantId = principal.tenantId &&
                  user.email = request.email && db.sees user.tenantId :=
              KeyedTable.mem_select.mpr ⟨userMem, by
                simp only [Bool.and_eq_true, decide_eq_true_eq]
                exact ⟨⟨same.1, same.2.1⟩, same.2.2⟩⟩
            rw [noUser] at selected
            cases selected
          rw [run_send_bind fun _ => ?ends]
          case ends =>
            cases deployment.tokens.createPurposeToken
                (TokenService.invitationPayload (readings.utcNow 0 + 604800)
                  (readings.utcNow 1) (readings.secret 0))
                (some deployment.tokens.jwtSecret)
                (some deployment.tokens.manager.algorithm) with
            | error error => exact ⟨.error error, rfl⟩
            | ok token => exact ⟨_, rfl⟩
          exact untouched_invitations fun row _ => by
            rw [← unchanged]
            rfl

theorem untouched_revokeInvitation {invitationId : String}
    (notPending : ¬ ∃ row, world.invitations.lookup invitationId = some row ∧
      row.tenantId = principal.tenantId ∧ row.pending world.now = true) :
    Untouched world (ManagementApp.run deployment
      (revokeInvitation principal invitationId) world).2 := by
  refine untouched_invitations fun row pending => ?_
  refine KeyedTable.mem_delete.trans (and_iff_left_of_imp fun rowMem => ?_)
  rw [Bool.eq_false_iff]
  intro selected
  simp only [Bool.and_eq_true, decide_eq_true_eq] at selected
  exact notPending ⟨row, KeyedTable.lookup_eq_some.mpr ⟨rowMem, selected.1.1⟩,
    selected.1.2, pending⟩

end Clients

/-! ## Runs -/

section Runs

variable {deployment : Deployment} {world : World}

/-- A guarded request of a principal who is no administrator is refused. -/
theorem untouched_requireAdmin {α : Type} {principal : Principal}
    {program : ManagementApp α} (member : principal.isAdmin = false) :
    Untouched world (ManagementApp.run deployment (do
      requireAdmin principal
      program) world).2 := by
  have refused : ManagementApp.run deployment (requireAdmin principal) world =
      (.error (.app .authorization "Admin role required"), world) := by
    rw [requireAdmin, member]
    rfl
  rw [ManagementApp.run_bind_of_error refused]
  exact .refl world

theorem untouched_requireSuperadmin {α : Type} {principal : Principal}
    {program : ManagementApp α} (member : principal.isAdmin = false) :
    Untouched world (ManagementApp.run deployment (do
      requireSuperadmin principal
      program) world).2 := by
  have noSuperadmin : principal.isSuperadmin = false := by
    rw [Bool.eq_false_iff]
    intro superadmin
    rw [Principal.isAdmin_of_isSuperadmin superadmin] at member
    cases member
  have refused : ManagementApp.run deployment (requireSuperadmin principal)
      world =
      (.error (.app .authorization "Superadmin role required"), world) := by
    rw [requireSuperadmin, noSuperadmin]
    rfl
  rw [ManagementApp.run_bind_of_error refused]
  exact .refl world

/-- An event that misses leaves what administrators manage. -/
theorem untouched_step {event : ManagementEvent} {after : World}
    (member : ByMember event) (misses : Misses world event)
    (stepEq : managementStep deployment world event = some after) :
    Untouched world after := by
  cases event with
  | wait seconds =>
      cases stepEq
      exact ⟨fun _ => .rfl, fun _ => .rfl, fun _ => .rfl, fun _ _ => .rfl,
        by simp⟩
  | request request =>
      obtain ⟨principal, isPrincipal, noAdmin⟩ := member
      cases stepEq
      cases request with
      | policy write => exact untouched_policyWrite isPrincipal misses
      | registerClient => exact untouched_registerClient misses
      | updateClient =>
          exact untouched_updateClient (eq_none_of_not_exists misses)
      | rotateClientSecret =>
          exact untouched_rotateClientSecret (eq_none_of_not_exists misses)
      | deleteClient =>
          exact untouched_deleteClient (eq_none_of_not_exists misses)
      | createInvitation => exact untouched_createInvitation misses
      | revokeInvitation => exact untouched_revokeInvitation misses
      | createProvider | updateProvider | deleteProvider =>
          cases isPrincipal
          exact untouched_requireAdmin noAdmin
      | setTenantActive =>
          cases isPrincipal
          exact untouched_requireSuperadmin noAdmin
      | other principal program reads => exact untouched_of_reads reads

/-- In every run of requests of principals who are no administrators, what
administrators manage stays as it was if the requests to the endpoints without
a guard find neither the row they name nor a free key. -/
theorem always_untouched (deployment : Deployment) (world : World)
    (events : List ManagementEvent)
    (members : ∀ event ∈ events, ByMember event)
    (misses : Along (managementStep deployment) Misses world events) :
    Always (managementStep deployment) (Untouched world) world events := by
  refine always_of_along ?keeps (.refl world) (along_and members misses)
  rintro before event after kept ⟨member, missed⟩ stepEq
  exact kept.trans (untouched_step member missed stepEq)

end Runs

/-! ## A member with a policy of its own making -/

/-- A tenant with a member. -/
def withMember : World where
  tenants := .single { id := "t" }
  users := .single ⟨"u", "t", "u@t", "password", "U", "T", some "member", true, true,
    0⟩

/-- The member asks for every permission for itself. -/
def grantSelf : ManagementEvent :=
  .request (.policy (.create (.forTenant "t") ⟨"u", "t", some "member"⟩ "u"
    ⟨"p", "all", ["manage"], none, by decide⟩))

/-- The member asks for a provider. -/
def addProvider : ManagementEvent :=
  .request (.createProvider ⟨fun _ => 0, fun _ => 0, fun _ => "p"⟩
    ⟨"u", "t", some "member"⟩ { name := "P", issuerUrl := "https://p" })

/-- The member has a policy already. -/
def withPolicy : World :=
  { withMember with
    userPolicies := .single ⟨"t", "u", "p", ⟨"all", ["read"], []⟩⟩ }

/-- The member deletes a template that is not there. -/
def dropTemplate : ManagementEvent :=
  .request (.policy (.deleteTemplate (.forTenant "t") ⟨"u", "t", some "member"⟩
    "x"))

/-- The policy is there already, the template is not, and the provider is
refused. -/
theorem requests_miss :
    Always (managementStep (.plain [])) (Untouched withPolicy) withPolicy
      [grantSelf, dropTemplate, addProvider, .wait 60] := by
  refine always_untouched (.plain []) withPolicy _ ?members ?misses
  case members =>
    simp [grantSelf, dropTemplate, addProvider, ByMember,
      ManagementRequest.principal, Principal.isAdmin]
  case misses =>
    refine ⟨fun finds => ?held, ?_⟩
    case held => cases finds.2
    rintro after ⟨⟩
    refine ⟨fun finds => ?absent, ?_⟩
    case absent =>
      obtain ⟨row, found⟩ := finds
      cases found
    rintro after ⟨⟩
    exact ⟨id, fun _ _ => ⟨id, fun _ _ => trivial⟩⟩

/-- Where the key is free, the member has its policy. -/
theorem member_grants_itself :
    ByMember grantSelf ∧
      ∃ final, exec (managementStep (.plain [])) withMember [grantSelf] =
        some final ∧ ¬ Untouched withMember final := by
  refine ⟨⟨_, rfl, by decide⟩, _, rfl, fun untouched => ?_⟩
  have created := (untouched.policies _).mp (List.mem_singleton.mpr rfl)
  exact KeyedTable.not_mem_empty created

end ManagementPrivileges

end HexIam
