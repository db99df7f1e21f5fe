import HexIam.PolicyNarrowing
import HexIam.Registration
import HexIam.TenantRows

/-!
# Calls that write policies

The endpoints for policies and policy templates, and the onboarding of a
tenant.  For each call this file says which rows of `user_policies` it writes:
the rows after the call are old rows or written ones.
-/

namespace HexIam

open StatementTree GuardedRun PolicyNarrowing SessionRevocation

/-! ## Calls -/

/-- A request of an endpoint that writes policies or templates, with the
connection its dependency gives it. -/
inductive PolicyWrite : Type
  | create (db : Connection) (principal : Principal) (userId : String)
      (policy : PolicyCreate)
  | update (worker : Nat) (db : Connection) (principal : Principal)
      (userId policyId : String) (updates : PolicyUpdate)
  | delete (worker : Nat) (db : Connection) (principal : Principal)
      (userId policyId : String)
  | assign (db : Connection) (principal : Principal) (userId : String)
      (policy : PolicyCreate)
  | bulkAssign (db : Connection) (principal : Principal) (userIds : List String)
      (policyId resource : String) (actions : List String)
      (conditions : Option (List (String × PyValue)))
  | createTemplate (db : Connection) (readings : Readings)
      (principal : Principal) (data : TenantPolicyCreate)
  | updateTemplate (db : Connection) (principal : Principal)
      (templateId : String) (data : TenantPolicyUpdate)
  | deleteTemplate (db : Connection) (principal : Principal)
      (templateId : String)
  | assignTemplate (db : Connection) (principal : Principal)
      (templateId userId : String)
  | onboard (db : Connection) (readings : Readings)
      (request : TenantOnboardingRequest)

/-- The result of a call without its data. -/
def outcome {α : Type} (result : Except Exn α × World) :
    Except Exn Unit × World :=
  (result.1.map fun _ => (), result.2)

namespace PolicyWrite

/-- Whether the call is accepted, and the world after it. -/
def run (deployment : Deployment) (world : World) :
    PolicyWrite → Except Exn Unit × World
  | create db principal userId policy =>
      outcome (App.run deployment
        (createPolicy db principal.tenantId userId policy) world)
  | update worker db principal userId policyId updates =>
      outcome (App.run deployment (updatePolicy worker db principal.tenantId
        userId policyId updates) world)
  | delete worker db principal userId policyId =>
      outcome (App.run deployment
        (deletePolicy worker db principal.tenantId userId policyId) world)
  | assign db principal userId policy =>
      outcome (App.run deployment
        (assignPolicyToUser db principal.tenantId userId policy) world)
  | bulkAssign db principal userIds policyId resource actions conditions =>
      outcome (App.run deployment (bulkAssignPolicy db principal.tenantId userIds
        policyId resource actions conditions) world)
  | createTemplate db readings principal data =>
      outcome (ManagementApp.run deployment
        (createPolicyTemplate db readings principal data) world)
  | updateTemplate db principal templateId data =>
      outcome (ManagementApp.run deployment
        (updatePolicyTemplate db principal templateId data) world)
  | deleteTemplate db principal templateId =>
      outcome (ManagementApp.run deployment
        (deletePolicyTemplate db principal templateId) world)
  | assignTemplate db principal templateId userId =>
      outcome (App.run deployment (assignTemplateToUser db principal.tenantId
        templateId userId) world)
  | onboard db readings request =>
      outcome (onboardTenant deployment db readings request world)

end PolicyWrite

/-- A step of a run: a refused call is a step too. -/
def policyWriteStep (deployment : Deployment) (world : World)
    (write : PolicyWrite) : Option World :=
  some (write.run deployment world).2

/-! ## The rows they write -/

/-- The row `create_policy` inserts. -/
def PolicyCreate.row (policy : PolicyCreate) (tenantId userId : String) :
    PolicyRow :=
  ⟨tenantId, userId, policy.policyId,
    ⟨policy.resource, policy.actions, policy.conditions.getD []⟩⟩

/-- The records of `bulk_assign_policy`. -/
def bulkRecords (tenantId policyId resource : String) (actions : List String)
    (conditions : Option (List (String × PyValue))) (userIds : List String) :
    List PolicyRow :=
  userIds.map fun userId =>
    ⟨tenantId, userId, policyId, ⟨resource, actions, conditions.getD []⟩⟩

namespace World

/-- The insert of a policy adds the row. -/
def insertsPolicy (world : World) (db : Connection) (row : PolicyRow) : Bool :=
  (world.acceptsPolicy db row).isOk &&
    (world.userPolicies.lookup row.key).isNone

/-- The connection sees the user in the tenant. -/
def hasUserIn (world : World) (db : Connection) (userId tenantId : String) :
    Bool :=
  !(world.users.select fun user => user.id = userId &&
    user.tenantId = tenantId && db.sees user.tenantId).isEmpty

/-- The upsert of the records is accepted. -/
def upsertsPolicies (world : World) (db : Connection) (rows : List PolicyRow) :
    Bool :=
  (PolicyStmt.upsertAll world db rows world.userPolicies).isOk

/-- The template a connection sees. -/
def templateFor (world : World) (db : Connection)
    (tenantId templateId : String) : Option TemplateRow :=
  (world.templates.lookup templateId).filter fun row =>
    row.tenantId = tenantId && db.sees row.tenantId

/-- The policy `assign_template_to_user` creates. -/
def templatePolicy (world : World) (db : Connection)
    (tenantId templateId : String) : Option PolicyCreate :=
  (world.templateFor db tenantId templateId).bind fun template =>
    (PolicyCreate.ofTemplate template.policies).toOption

/-- The rows the insert of a policy adds. -/
def insertedPolicies (world : World) (db : Connection) (row : PolicyRow) :
    List PolicyRow :=
  if world.insertsPolicy db row then [row] else []

end World

/-- The rows a call leaves in `user_policies`. -/
def PolicyWrite.rows (deployment : Deployment) (world : World) :
    PolicyWrite → List PolicyRow
  | create db principal userId policy =>
      world.insertedPolicies db (policy.row principal.tenantId userId)
  | update _ db principal userId policyId updates =>
      match world.userPolicies.seen db
          (principal.tenantId, userId, policyId) with
      | some existing => [⟨principal.tenantId, userId, policyId,
          updatedPolicy existing.policy updates⟩]
      | none => []
  | assign db principal userId policy =>
      if world.hasUserIn db userId principal.tenantId then
        world.insertedPolicies db (policy.row principal.tenantId userId)
      else []
  | bulkAssign db principal userIds policyId resource actions conditions =>
      let records := bulkRecords principal.tenantId policyId resource actions
        conditions userIds
      if world.upsertsPolicies db records then records else []
  | assignTemplate db principal templateId userId =>
      match world.templatePolicy db principal.tenantId templateId with
      | some policy =>
          world.insertedPolicies db (policy.row principal.tenantId userId)
      | none => []
  | onboard db readings request =>
      if (onboardTenant deployment db readings request world).1.isOk then
        [⟨readings.secret 0, readings.secret 1, "admin_access", adminAccess⟩]
      else []
  | _ => []

/-- The rows after a call are old rows or written ones, and all of these. -/
structure Wrote (before after : World) (rows : List PolicyRow) : Prop where
  only : ∀ row ∈ after.userPolicies, row ∈ before.userPolicies ∨ row ∈ rows
  all : ∀ row ∈ rows, row ∈ after.userPolicies

section Rows

variable {deployment : Deployment} {world after : World} {db : Connection}
variable {tenantId userId policyId : String}

theorem wrote_same (same : after.userPolicies = world.userPolicies) :
    Wrote world after [] :=
  ⟨fun _ rowMem => .inl (same ▸ rowMem), by simp⟩

theorem World.insertsPolicy_eq_true {row : PolicyRow} :
    world.insertsPolicy db row = true ↔
      world.acceptsPolicy db row = .ok () ∧
        world.userPolicies.lookup row.key = none := by
  rw [insertsPolicy, Bool.and_eq_true, Option.isNone_iff_eq_none]
  cases world.acceptsPolicy db row <;> simp [Except.isOk, Except.toBool]

theorem forall_mem_insertedPolicies {inserted : PolicyRow}
    {property : PolicyRow → Prop} :
    (∀ row ∈ world.insertedPolicies db inserted, property row) ↔
      (world.insertsPolicy db inserted = true → property inserted) := by
  rw [World.insertedPolicies]
  cases world.insertsPolicy db inserted <;> simp

theorem perform_insert_policy (row : PolicyRow) :
    (world.insertsPolicy db row = true ∧
      ∃ table, world.userPolicies.insert row = some table ∧
        perform deployment (.policy db (.insert row)) world =
          (.ok 1, { world with userPolicies := table })) ∨
    (world.insertsPolicy db row = false ∧
      ((∃ error, perform deployment (.policy db (.insert row)) world =
          (.error error, world)) ∨
        perform deployment (.policy db (.insert row)) world =
          (.ok 0, world))) := by
  have performed : perform deployment (.policy db (.insert row)) world =
      ((PolicyStmt.perform deployment db world (.insert row)).1,
        { world with userPolicies :=
          (PolicyStmt.perform deployment db world (.insert row)).2 }) := rfl
  rw [performed]
  simp only [PolicyStmt.perform]
  have refused (notOk : world.acceptsPolicy db row ≠ .ok () ∨
      world.userPolicies.lookup row.key ≠ none) :
      world.insertsPolicy db row = false := by
    rw [Bool.eq_false_iff, ne_eq, World.insertsPolicy_eq_true, not_and_or]
    exact notOk
  cases insertEq : world.userPolicies.insert row with
  | none =>
      obtain ⟨held, heldMem, same⟩ := KeyedTable.insert_eq_none.mp insertEq
      have taken : world.userPolicies.lookup row.key ≠ none := fun free =>
        KeyedTable.lookup_eq_none.mp free held heldMem same
      refine .inr ⟨refused (.inr taken), ?_⟩
      split
      case h_1 => exact .inl ⟨_, rfl⟩
      case h_2 =>
        split
        · exact .inr rfl
        · exact .inl ⟨_, rfl⟩
      case h_3 table fits found => cases found
  | some table =>
      have free : world.userPolicies.lookup row.key = none :=
        KeyedTable.lookup_eq_none.mpr (KeyedTable.insert_eq_some.mp insertEq).1
      cases accepted : world.acceptsPolicy db row with
      | ok =>
          refine .inl ⟨World.insertsPolicy_eq_true.mpr ⟨accepted, free⟩, table,
            rfl, ?_⟩
          have fits := accepted
          rw [World.acceptsPolicy, require_bind_eq_ok] at fits
          simp [require, fits.1]
      | error error =>
          refine .inr ⟨refused (.inl (by rw [accepted]; simp)), .inl ?_⟩
          split
          · exact ⟨_, rfl⟩
          · cases ‹some table = none›
          · exact ⟨_, rfl⟩

theorem run_createPolicy (policy : PolicyCreate) :
    (world.insertsPolicy db (policy.row tenantId userId) = true ∧
      ∃ table, world.userPolicies.insert (policy.row tenantId userId) =
          some table ∧
        App.run deployment (createPolicy db tenantId userId policy) world =
          (.ok (policy.row tenantId userId),
            { world with userPolicies := table })) ∨
    (world.insertsPolicy db (policy.row tenantId userId) = false ∧
      ∃ error, App.run deployment (createPolicy db tenantId userId policy)
        world = (.error error, world)) := by
  rcases @perform_insert_policy deployment world db
    (policy.row tenantId userId) with
    ⟨inserts, table, inserted, performed⟩ |
      ⟨inserts, ⟨error, performed⟩ | performed⟩
  · rw [← App.run_ask] at performed
    exact .inl ⟨inserts, table, inserted, App.run_bind_of_ok performed⟩
  · rw [← App.run_ask] at performed
    exact .inr ⟨inserts, error, App.run_bind_of_error performed⟩
  · rw [← App.run_ask] at performed
    exact .inr ⟨inserts, .app .conflict
      ("Policy '" ++ policy.policyId ++ "' already exists for this user"),
      App.run_bind_of_ok performed⟩

theorem wrote_createPolicy (policy : PolicyCreate) :
    Wrote world (App.run deployment (createPolicy db tenantId userId policy)
      world).2 (world.insertedPolicies db (policy.row tenantId userId)) := by
  rw [World.insertedPolicies]
  rcases @run_createPolicy deployment world db tenantId userId policy with
    ⟨inserts, table, inserted, ran⟩ | ⟨inserts, error, ran⟩
  · rw [inserts, if_pos rfl, ran]
    constructor
    · intro row rowMem
      rw [List.mem_singleton]
      exact (KeyedTable.mem_of_insert inserted).mp rowMem
    · intro row rowMem
      exact (KeyedTable.mem_of_insert inserted).mpr
        (.inr (List.mem_singleton.mp rowMem))
  · rw [inserts, if_neg Bool.false_ne_true, ran]
    exact wrote_same rfl

theorem World.userTenant_of_hasUserIn
    (found : world.hasUserIn db userId tenantId = true) :
    world.userTenant userId = some tenantId := by
  rw [hasUserIn, Bool.not_eq_true', List.isEmpty_eq_false_iff] at found
  obtain ⟨user, userMem⟩ := List.exists_mem_of_ne_nil _ found
  obtain ⟨stored, selected⟩ := KeyedTable.mem_select.mp userMem
  simp only [Bool.and_eq_true, decide_eq_true_eq] at selected
  have ofTenant := World.userTenant_of_mem stored
  rwa [selected.1.1, selected.1.2] at ofTenant

theorem run_assignPolicyToUser (policy : PolicyCreate) :
    App.run deployment (assignPolicyToUser db tenantId userId policy) world =
      if world.hasUserIn db userId tenantId then
        App.run deployment (createPolicy db tenantId userId policy) world
      else (.error (.app .notFound
        ("User '" ++ userId ++ "' not found in this tenant")), world) := by
  have asked : App.run deployment
      (ask (.user db (.existsInTenant userId tenantId))) world =
      (.ok (world.hasUserIn db userId tenantId), world) := rfl
  unfold assignPolicyToUser
  rw [App.run_bind_of_ok asked]
  cases world.hasUserIn db userId tenantId <;> rfl

theorem run_assignTemplateToUser (templateId : String) :
    match world.templatePolicy db tenantId templateId with
    | some policy =>
        App.run deployment (assignTemplateToUser db tenantId templateId userId)
          world = App.run deployment (createPolicy db tenantId userId policy) world
    | none => ∃ error, App.run deployment
        (assignTemplateToUser db tenantId templateId userId) world =
          (.error error, world) := by
  have asked : App.run deployment (ask (.template db (.byId templateId tenantId)))
      world = (.ok (world.templateFor db tenantId templateId), world) := rfl
  unfold assignTemplateToUser World.templatePolicy
  rw [App.run_bind_of_ok asked]
  cases world.templateFor db tenantId templateId with
  | none => exact ⟨_, rfl⟩
  | some template =>
      dsimp only [Option.bind_some]
      cases PolicyCreate.ofTemplate template.policies with
      | error error => exact ⟨error, rfl⟩
      | ok policy => rfl

/-- `update_policy` overwrites the row it sees. -/
theorem wrote_updatePolicy (worker : Nat) (updates : PolicyUpdate) :
    Wrote world (App.run deployment
        (updatePolicy worker db tenantId userId policyId updates) world).2
      (match world.userPolicies.seen db (tenantId, userId, policyId) with
      | some existing =>
          [⟨tenantId, userId, policyId, updatedPolicy existing.policy updates⟩]
      | none => []) := by
  rcases @after_updatePolicy deployment world db worker userId tenantId policyId
    updates with ⟨missing, same⟩ | ⟨existing, changed, seen, changedEq, updated⟩
  · rw [missing, same]
    exact wrote_same rfl
  · rw [seen]
    have policies : (App.run deployment (updatePolicy worker db tenantId userId
        policyId updates) world).2.userPolicies = changed.userPolicies := by
      rcases updated with ⟨-, loggedOut⟩ | ⟨-, same⟩
      · exact loggedOut.policies
      · rw [same]
    obtain ⟨found, isSeen⟩ := Option.filter_eq_some_iff.mp seen
    obtain ⟨existingMem, existingKey⟩ := KeyedTable.lookup_eq_some.mp found
    have written : existing.setPolicy (updatedPolicy existing.policy updates) =
        ⟨tenantId, userId, policyId, updatedPolicy existing.policy updates⟩ := by
      simp only [PolicyRow.key, Prod.mk.injEq] at existingKey
      obtain ⟨rfl, rfl, rfl⟩ := existingKey
      rfl
    constructor
    · intro row rowMem
      rw [policies, changedEq] at rowMem
      obtain ⟨held, heldMem, rowEq⟩ := (KeyedTable.mem_update
        (PolicyRow.setPolicy_key _)).mp rowMem
      split at rowEq
      case isFalse => exact .inl (rowEq ▸ heldMem)
      case isTrue selected =>
        rw [Bool.and_eq_true, decide_eq_true_eq] at selected
        have same := KeyedTable.eq_of_key_eq heldMem existingMem
          (selected.1.trans existingKey.symm)
        rw [rowEq, same]
        exact .inr (by simp [written])
    · intro row rowMem
      rw [List.mem_singleton.mp rowMem, ← written, policies, changedEq]
      refine (KeyedTable.mem_update (PolicyRow.setPolicy_key _)).mpr
        ⟨existing, existingMem, ?_⟩
      rw [if_pos]
      rw [Bool.and_eq_true, decide_eq_true_eq]
      exact ⟨existingKey, isSeen⟩

theorem wrote_deletePolicy (worker : Nat) :
    Wrote world (App.run deployment
      (deletePolicy worker db tenantId userId policyId) world).2 [] := by
  refine ⟨fun row rowMem => .inl ?_, by simp⟩
  have remains : row ∈ (perform deployment
      (.policy db (.delete tenantId userId policyId)) world).2.userPolicies := by
    rcases @after_deletePolicy deployment world db worker userId tenantId
      policyId with ⟨-, same⟩ | loggedOut
    · rwa [← same]
    · rwa [← loggedOut.policies]
  exact (KeyedTable.mem_delete.mp remains).1

theorem setPolicy_of_key {held record : PolicyRow}
    (same : held.key = record.key) : held.setPolicy record.policy = record := by
  cases held
  cases record
  simp only [PolicyRow.key, Prod.mk.injEq] at same
  obtain ⟨rfl, rfl, rfl⟩ := same
  rfl

theorem mem_putPolicy {table : PolicyTable} {record row : PolicyRow} :
    row ∈ table.putPolicy record ↔
      (row ∈ table ∧ row.key ≠ record.key) ∨ row = record := by
  rw [PolicyTable.putPolicy, KeyedTable.mem_upsert]
  constructor
  · rintro (old | ⟨-, rfl⟩ | ⟨held, -, same, rfl⟩)
    · exact .inl old
    · exact .inr rfl
    · exact .inr (setPolicy_of_key same)
  · rintro (old | rfl)
    · exact .inl old
    · by_cases taken : ∃ held ∈ table, held.key = row.key
      · obtain ⟨held, heldMem, same⟩ := taken
        exact .inr (.inr ⟨held, heldMem, same, (setPolicy_of_key same).symm⟩)
      · exact .inr (.inl ⟨fun held heldMem same => taken ⟨held, heldMem, same⟩,
          rfl⟩)

/-- An `executemany` of records with one document leaves old rows and the
records. -/
theorem wrote_upsertAll {resource : String} {actions : List String}
    {conditions : Option (List (String × PyValue))} {userIds : List String}
    {table result : PolicyTable}
    (upserted : PolicyStmt.upsertAll world db (bulkRecords tenantId policyId
      resource actions conditions userIds) table = .ok result) :
    (∀ row ∈ result, row ∈ table ∨
      row ∈ bulkRecords tenantId policyId resource actions conditions userIds) ∧
    ∀ row ∈ bulkRecords tenantId policyId resource actions conditions userIds,
      row ∈ result := by
  induction userIds generalizing table with
  | nil =>
      cases upserted
      exact ⟨fun row rowMem => .inl rowMem, by simp [bulkRecords]⟩
  | cons first rest ih =>
      simp only [bulkRecords, List.map_cons, PolicyStmt.upsertAll,
        except_bind_eq_ok] at upserted
      obtain ⟨_, -, _, -, upserted⟩ := upserted
      obtain ⟨only, all⟩ := ih upserted
      simp only [bulkRecords, List.map_cons, List.mem_cons]
      constructor
      · intro row rowMem
        rcases only row rowMem with put | later
        · rcases mem_putPolicy.mp put with ⟨old, -⟩ | new
          · exact .inl old
          · exact .inr (.inl new)
        · exact .inr (.inr later)
      · rintro row (rfl | later)
        · -- A later record with the same key is this record again.
          obtain ⟨held, heldMem, keyEq, kept⟩ :=
            mem_upsertAll upserted (mem_putPolicy.mpr (.inr rfl))
          have samePolicy : held.policy =
              ⟨resource, actions, conditions.getD []⟩ := by
            rcases kept with kept | ⟨other, otherMem, -, kept⟩
            · exact kept
            · obtain ⟨userId, -, rfl⟩ := List.mem_map.mp otherMem
              exact kept
          have heldEq : held = ⟨tenantId, first, policyId,
              ⟨resource, actions, conditions.getD []⟩⟩ := by
            rw [← setPolicy_of_key keyEq, ← samePolicy]
            rfl
          exact heldEq ▸ heldMem
        · exact all row later

theorem wrote_bulkAssignPolicy (userIds : List String) (resource : String)
    (actions : List String) (conditions : Option (List (String × PyValue))) :
    Wrote world (App.run deployment (bulkAssignPolicy db tenantId userIds policyId
        resource actions conditions) world).2
      (let records :=
        bulkRecords tenantId policyId resource actions conditions userIds
      if world.upsertsPolicies db records then records else []) := by
  have policies := @userPolicies_bulkAssignPolicy deployment tenantId db world
    policyId resource userIds actions conditions
  simp only [PolicyStmt.perform] at policies
  split at policies
  case h_1 table upserted =>
    obtain ⟨only, all⟩ := wrote_upsertAll upserted
    have accepted : world.upsertsPolicies db (bulkRecords tenantId policyId
        resource actions conditions userIds) = true :=
      congrArg Except.isOk upserted
    dsimp only
    rw [if_pos accepted]
    constructor
    · intro row rowMem
      rw [policies] at rowMem
      exact only row rowMem
    · intro row rowMem
      rw [policies]
      exact all row rowMem
  case h_2 error refused =>
    have rejected : world.upsertsPolicies db (bulkRecords tenantId policyId
        resource actions conditions userIds) = false :=
      congrArg Except.isOk refused
    dsimp only
    rw [rejected, if_neg Bool.false_ne_true]
    exact wrote_same policies

/-! ### Templates -/

/-- A statement on `tenant_policies`. -/
def OnTemplates : ManagementStmt → Prop
  | .template .. => True
  | .core (.template ..) => True
  | _ => False

/-- The calls on templates change `tenant_policies` only. -/
theorem run_onTemplates {α : Type} {program : ManagementApp α}
    (within : Within OnTemplates program) :
    ∃ templates, (ManagementApp.run deployment program world).2 =
      { world with templates := templates } := by
  have keeps (stmt : ManagementStmt) (before : World)
      (onTemplates : OnTemplates stmt)
      (held : ∃ templates, before = { world with templates := templates }) :
      ∃ templates, (manage deployment stmt before).2 =
        { world with templates := templates } := ?_
  · exact within.run_preserves keeps ⟨world.templates, rfl⟩
  obtain ⟨templates, rfl⟩ := held
  cases stmt with
  | template db stmt => exact ⟨_, rfl⟩
  | core stmt =>
      cases stmt with
      | template db stmt => exact ⟨templates, rfl⟩
      | _ => exact onTemplates.elim
  | _ => exact onTemplates.elim

theorem within_getTenantPolicyTemplateById {templateId : String} :
    Within OnTemplates (getTenantPolicyTemplateById db tenantId templateId) :=
  ⟨trivial, fun _ => trivial⟩

theorem within_createPolicyTemplate {readings : Readings} {principal : Principal}
    {data : TenantPolicyCreate} :
    Within OnTemplates (createPolicyTemplate db readings principal data) := by
  refine Within.bind ⟨trivial, fun _ => trivial⟩ fun inserted => ?_
  split <;> exact within_done

theorem within_updateTenantPolicyTemplate {templateId : String}
    {policies : Option (List (String × PyValue))}
    {roles : Option (List String)} :
    Within OnTemplates
      (updateTenantPolicyTemplate db tenantId templateId policies roles) := by
  refine within_getTenantPolicyTemplateById.bind fun found => ?_
  cases found with
  | none => exact within_done
  | some existing =>
      exact Within.bind ⟨trivial, fun _ => trivial⟩ fun _ => within_done

theorem within_updatePolicyTemplate {principal : Principal} {templateId : String}
    {data : TenantPolicyUpdate} :
    Within OnTemplates (updatePolicyTemplate db principal templateId data) := by
  unfold updatePolicyTemplate
  split
  · exact within_getTenantPolicyTemplateById.bind fun _ =>
      within_updateTenantPolicyTemplate
  · exact within_updateTenantPolicyTemplate

theorem within_deletePolicyTemplate {principal : Principal}
    {templateId : String} :
    Within OnTemplates (deletePolicyTemplate db principal templateId) := by
  refine Within.bind ⟨trivial, fun _ => trivial⟩ fun deleted => ?_
  split <;> exact within_done

/-! ### Onboarding -/

/-- What an accepted onboarding inserts: a tenant, its user, whose email is not
verified, and the policy of the user. -/
theorem onboardTenant_eq_ok {readings : Readings}
    {request : TenantOnboardingRequest} {ids : String × String}
    (ran : onboardTenant deployment db readings request world = (.ok ids, after)) :
    ids = (readings.secret 0, readings.secret 1) ∧
      world.users.insert { rootUser deployment (readings.secret 1)
          (readings.secret 0) request with lastModified := world.now } =
        some after.users ∧
      world.userPolicies.insert ⟨readings.secret 0, readings.secret 1,
        "admin_access", adminAccess⟩ = some after.userPolicies ∧
      after = { world with
        tenants := after.tenants
        users := after.users
        userPolicies := after.userPolicies } := by
  have transaction := (StatementTree.runAtomic_eq_ok _).mp ran
  obtain ⟨_, withTenant, first, rest⟩ :=
    ManagementApp.run_bind_eq_ok.mp transaction
  obtain ⟨_, withUser, second, rest⟩ := ManagementApp.run_bind_eq_ok.mp rest
  obtain ⟨_, withPolicy, third, rest⟩ := ManagementApp.run_bind_eq_ok.mp rest
  obtain ⟨_, final, fourth, returned⟩ := ManagementApp.run_bind_eq_ok.mp rest
  obtain ⟨inserted, between, asked, counted⟩ :=
    ManagementApp.run_bind_eq_ok.mp third
  have idsEq : ids = (readings.secret 0, readings.secret 1) := by
    cases returned
    rfl
  -- The last two parts change nothing.
  have unchanged : after = between := by
    cases returned
    unfold createTenantPolicies at fourth
    split at fourth
    · cases fourth
      split at counted <;> cases counted
      rfl
    · cases fourth
  have positive : inserted ≠ 0 := by
    intro zero
    rw [if_pos zero] at counted
    cases counted
  obtain ⟨-, rfl⟩ := Prod.mk.inj first
  obtain ⟨added, onlyUsers⟩ := TenantCoherence.insert_user_eq_ok second
  have performed : perform deployment (.policy db (.insert ⟨readings.secret 0,
      readings.secret 1, "admin_access", adminAccess⟩)) withUser =
      (.ok inserted, between) := asked
  rcases @perform_insert_policy deployment withUser db ⟨readings.secret 0,
    readings.secret 1, "admin_access", adminAccess⟩ with
    ⟨-, table, policyAdded, performedEq⟩ |
      ⟨-, ⟨error, performedEq⟩ | performedEq⟩
  · rw [performedEq] at performed
    cases performed
    refine ⟨idsEq, ?_, ?_, ?_⟩
    · rw [unchanged]
      exact added
    · rw [unchanged, ← policyAdded, onlyUsers]
      rfl
    · rw [unchanged, onlyUsers]
      rfl
  · rw [performedEq] at performed
    cases performed
  · rw [performedEq] at performed
    cases performed
    exact absurd rfl positive

/-- A refused onboarding changes nothing. -/
theorem onboardTenant_of_error {readings : Readings}
    {request : TenantOnboardingRequest} {error : Exn}
    (ran : onboardTenant deployment db readings request world =
      (.error error, after)) : after = world := by
  unfold onboardTenant ManagementApp.runAtomic StatementTree.runAtomic at ran
  split at ran <;> cases ran
  rfl

/-! ### All calls -/

/-- Every call writes its rows. -/
theorem PolicyWrite.wrote (write : PolicyWrite) :
    Wrote world (write.run deployment world).2 (write.rows deployment world) := by
  cases write with
  | create db principal userId policy => exact wrote_createPolicy policy
  | update worker db principal userId policyId updates =>
      exact wrote_updatePolicy worker updates
  | delete worker db principal userId policyId =>
      exact wrote_deletePolicy worker
  | assign db principal userId policy =>
      rw [run, rows, run_assignPolicyToUser]
      cases world.hasUserIn db userId principal.tenantId with
      | true => exact wrote_createPolicy policy
      | false => exact wrote_same rfl
  | bulkAssign db principal userIds policyId resource actions conditions =>
      exact wrote_bulkAssignPolicy userIds resource actions conditions
  | createTemplate db readings principal data =>
      obtain ⟨templates, only⟩ := @run_onTemplates deployment world _ _
        (@within_createPolicyTemplate db readings principal data)
      refine wrote_same ?_
      rw [run, outcome, only]
  | updateTemplate db principal templateId data =>
      obtain ⟨templates, only⟩ := @run_onTemplates deployment world _ _
        (@within_updatePolicyTemplate db principal templateId data)
      refine wrote_same ?_
      rw [run, outcome, only]
  | deleteTemplate db principal templateId =>
      obtain ⟨templates, only⟩ := @run_onTemplates deployment world _ _
        (@within_deletePolicyTemplate db principal templateId)
      refine wrote_same ?_
      rw [run, outcome, only]
  | assignTemplate db principal templateId userId =>
      have assigned := @run_assignTemplateToUser deployment world db
        principal.tenantId userId templateId
      rw [run, rows]
      cases template : world.templatePolicy db principal.tenantId templateId with
      | none =>
          rw [template] at assigned
          obtain ⟨error, ran⟩ := assigned
          rw [ran]
          exact wrote_same rfl
      | some policy =>
          rw [template] at assigned
          rw [assigned]
          exact wrote_createPolicy policy
  | onboard db readings request =>
      rw [run, rows]
      rcases ran : onboardTenant deployment db readings request world with
        ⟨answer, after⟩
      cases answer with
      | error error =>
          rw [if_neg (by simp [Except.isOk, Except.toBool])]
          exact wrote_same (onboardTenant_of_error ran ▸ rfl)
      | ok ids =>
          obtain ⟨-, -, inserted, -⟩ := onboardTenant_eq_ok ran
          rw [if_pos (by rfl)]
          constructor
          · intro row rowMem
            rw [List.mem_singleton]
            exact (KeyedTable.mem_of_insert inserted).mp rowMem
          · intro row rowMem
            exact (KeyedTable.mem_of_insert inserted).mpr
              (.inr (List.mem_singleton.mp rowMem))

/-! ### Users -/

variable {tables : List Table}

theorem uses_revokeToken {worker : Nat} {jti : Option String} {reason : String}
    (redis : .redis ∈ tables) :
    Uses tables (revokeToken worker jti userId tenantId reason) := by
  refine (uses_ask redis).bind fun _ => Within.bind ?_ fun _ =>
    Within.bind ?_ fun _ => within_done
  · exact Within.tryCatch ((uses_ask redis).bind fun _ => within_done)
      fun _ => within_done
  · exact Within.tryCatch (uses_ask redis) fun _ => within_done

theorem uses_revokeUserTokens {worker : Nat} {reason : String}
    {jtis : List String} (redis : .redis ∈ tables) :
    Uses tables (revokeUserTokens worker userId tenantId reason jtis) := by
  induction jtis with
  | nil => exact within_done
  | cons jti rest ih =>
      refine (uses_revokeToken redis).bind fun _ => ih.bind fun _ => ?_
      split <;> exact within_done

theorem uses_revokeAllSessions {worker : Nat} {reason : String}
    {excludeJti : Option String} (sessions : .sessions ∈ tables)
    (redis : .redis ∈ tables) :
    Uses tables
      (revokeAllSessions worker userId tenantId reason excludeJti) := by
  refine (uses_ask sessions).bind fun jtis => ?_
  split
  · exact within_done
  · exact (uses_revokeUserTokens redis).bind fun _ =>
      (uses_ask sessions).bind fun _ => within_done

theorem uses_updatePolicy {worker : Nat} {updates : PolicyUpdate}
    (policies : .policies ∈ tables) (sessions : .sessions ∈ tables)
    (redis : .redis ∈ tables) :
    Uses tables (updatePolicy worker db tenantId userId policyId updates) := by
  refine (uses_ask policies).bind fun found => ?_
  cases found with
  | none => exact within_done
  | some existing =>
      refine (uses_ask policies).bind fun _ => ?_
      split
      · exact (uses_revokeAllSessions sessions redis).bind fun _ => within_done
      · exact within_done

theorem uses_deletePolicy {worker : Nat} (policies : .policies ∈ tables)
    (sessions : .sessions ∈ tables) (redis : .redis ∈ tables) :
    Uses tables (deletePolicy worker db tenantId userId policyId) := by
  refine (uses_ask policies).bind fun deleted => ?_
  split
  · exact within_done
  · exact (uses_revokeAllSessions sessions redis).bind fun _ => within_done

theorem users_createPolicy (policy : PolicyCreate) :
    (App.run deployment (createPolicy db tenantId userId policy)
      world).2.users = world.users := by
  rcases @run_createPolicy deployment world db tenantId userId policy with
    ⟨-, table, -, ran⟩ | ⟨-, error, ran⟩ <;> rw [ran]

/-- Only an onboarding adds users. -/
theorem PolicyWrite.users (write : PolicyWrite) :
    (write.run deployment world).2.users = world.users ∨
      ∃ db readings request, write = onboard db readings request := by
  have frame (stmt : Stmt) (before : World) (other : stmt.table ≠ .users) :
      (perform deployment stmt before).2.users = before.users :=
    users_perform deployment other
  have templatesOnly {α : Type} {program : ManagementApp α}
      (within : Within OnTemplates program) :
      (ManagementApp.run deployment program world).2.users = world.users := by
    obtain ⟨templates, only⟩ := @run_onTemplates deployment world _ _ within
    rw [only]
  cases write with
  | create db principal userId policy => exact .inl (users_createPolicy policy)
  | update worker db principal userId policyId updates =>
      exact .inl (frame_of_uses World.users [.policies, .sessions, .redis] frame
        (uses_updatePolicy (by decide) (by decide) (by decide)) (by decide))
  | delete worker db principal userId policyId =>
      exact .inl (frame_of_uses World.users [.policies, .sessions, .redis] frame
        (uses_deletePolicy (by decide) (by decide) (by decide)) (by decide))
  | assign db principal userId policy =>
      refine .inl ?_
      rw [run, run_assignPolicyToUser]
      cases world.hasUserIn db userId principal.tenantId with
      | true => exact users_createPolicy policy
      | false => rfl
  | bulkAssign db principal userIds policyId resource actions conditions =>
      exact .inl (frame_of_uses World.users [.policies] frame
        (uses_bulkAssignPolicy (by decide)) (by decide))
  | createTemplate => exact .inl (templatesOnly within_createPolicyTemplate)
  | updateTemplate => exact .inl (templatesOnly within_updatePolicyTemplate)
  | deleteTemplate => exact .inl (templatesOnly within_deletePolicyTemplate)
  | assignTemplate db principal templateId userId =>
      refine .inl ?_
      have assigned := @run_assignTemplateToUser deployment world db
        principal.tenantId userId templateId
      rw [run]
      split at assigned
      · rw [assigned]
        exact users_createPolicy _
      · obtain ⟨error, ran⟩ := assigned
        rw [ran]
        rfl
  | onboard db readings request => exact .inr ⟨db, readings, request, rfl⟩

end Rows

end HexIam
