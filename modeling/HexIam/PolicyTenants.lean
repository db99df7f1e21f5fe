import HexIam.PolicyWrites

/-!
# The tenants of policies

A row of `user_policies` names a tenant and a user, of which the foreign keys
ask only that each exists.  `assign_policy_to_user` looks for its user in the
tenant of the token; `create_policy`, `bulk_assign_policy` and
`assign_template_to_user` do not.  No row crosses tenants in exactly the runs
in which these three add rows for users of the tenant of the token only.
-/

namespace HexIam

open GuardedRun

namespace PolicyTenants

/-! ## The property and the condition -/

/-- Every policy is for a user of its tenant. -/
def RowsWithinTenants (world : World) : Prop :=
  ∀ row ∈ world.userPolicies, world.userTenant row.userId = some row.tenantId

/-- The users for whom a call adds rows unchecked are of the tenant of the
token. -/
def NamesOwnUsers (world : World) : PolicyWrite → Prop
  | .create db principal userId policy =>
      world.insertsPolicy db (policy.row principal.tenantId userId) = true →
        world.userTenant userId = some principal.tenantId
  | .bulkAssign db principal userIds policyId resource actions conditions =>
      world.upsertsPolicies db (bulkRecords principal.tenantId policyId resource
          actions conditions userIds) = true →
        ∀ userId ∈ userIds, world.userTenant userId = some principal.tenantId
  | .assignTemplate db principal templateId userId =>
      ∀ policy,
        world.templatePolicy db principal.tenantId templateId = some policy →
        world.insertsPolicy db (policy.row principal.tenantId userId) = true →
          world.userTenant userId = some principal.tenantId
  | _ => True

/-! ## One call -/

section Calls

variable {deployment : Deployment} {world : World} {write : PolicyWrite}

theorem userTenant_run {userId tenantId : String}
    (held : world.userTenant userId = some tenantId) :
    (write.run deployment world).2.userTenant userId = some tenantId := by
  rcases @PolicyWrite.users deployment world write with
    same | ⟨db, readings, request, rfl⟩
  · rwa [World.userTenant, same]
  · rw [PolicyWrite.run]
    rcases ran : onboardTenant deployment db readings request world with
      ⟨answer, after⟩
    cases answer with
    | error error =>
        rw [onboardTenant_of_error ran]
        exact held
    | ok ids =>
        obtain ⟨-, inserted, -, -⟩ := onboardTenant_eq_ok ran
        obtain ⟨user, found, ofTenant⟩ := World.userTenant_eq_some.mp held
        obtain ⟨userMem, idEq⟩ := KeyedTable.lookup_eq_some.mp found
        refine World.userTenant_eq_some.mpr ⟨user, ?_, ofTenant⟩
        exact KeyedTable.lookup_eq_some.mpr
          ⟨(KeyedTable.mem_of_insert inserted).mpr (.inl userMem), idEq⟩

/-- Rows stay within their tenants exactly if the written ones are. -/
theorem rowsWithinTenants_run (start : RowsWithinTenants world) :
    RowsWithinTenants (write.run deployment world).2 ↔
      ∀ row ∈ write.rows deployment world,
        (write.run deployment world).2.userTenant row.userId =
          some row.tenantId := by
  obtain ⟨only, all⟩ := @PolicyWrite.wrote deployment world write
  constructor
  · exact fun within row rowMem => within row (all row rowMem)
  · intro written row rowMem
    rcases only row rowMem with old | new
    · exact userTenant_run (start row old)
    · exact written row new

theorem onboard_within {db : Connection} {readings : Readings}
    {request : TenantOnboardingRequest} :
    ∀ row ∈ (PolicyWrite.onboard db readings request).rows deployment world,
      ((PolicyWrite.onboard db readings request).run deployment
        world).2.userTenant row.userId = some row.tenantId := by
  intro row rowMem
  rw [PolicyWrite.run]
  rw [PolicyWrite.rows] at rowMem
  rcases ran : onboardTenant deployment db readings request world with
    ⟨answer, after⟩
  cases answer with
  | error error =>
      rw [ran, if_neg (by simp [Except.isOk, Except.toBool])] at rowMem
      cases rowMem
  | ok ids =>
      rw [ran, if_pos (by rfl)] at rowMem
      obtain ⟨-, inserted, -, -⟩ := onboardTenant_eq_ok ran
      have stored := (KeyedTable.mem_of_insert inserted).mpr (.inr rfl)
      rw [List.mem_singleton.mp rowMem]
      exact World.userTenant_of_mem stored

theorem forall_mem_rows (start : RowsWithinTenants world) :
    (∀ row ∈ write.rows deployment world,
      (write.run deployment world).2.userTenant row.userId =
        some row.tenantId) ↔ NamesOwnUsers world write := by
  rcases @PolicyWrite.users deployment world write with
    same | ⟨db, readings, request, rfl⟩
  case inr => exact iff_of_true onboard_within trivial
  have sameTenant (userId : String) :
      (write.run deployment world).2.userTenant userId =
        world.userTenant userId := by
    rw [World.userTenant, same, World.userTenant]
  simp only [sameTenant]
  cases write with
  | create db principal userId policy => exact forall_mem_insertedPolicies
  | update worker db principal userId policyId updates =>
      refine iff_of_true (fun row rowMem => ?_) trivial
      rw [PolicyWrite.rows] at rowMem
      split at rowMem
      case h_2 => cases rowMem
      case h_1 existing seen =>
        rw [List.mem_singleton.mp rowMem]
        obtain ⟨found, -⟩ := Option.filter_eq_some_iff.mp seen
        obtain ⟨existingMem, keyEq⟩ := KeyedTable.lookup_eq_some.mp found
        simp only [PolicyRow.key, Prod.mk.injEq] at keyEq
        have ofTenant := start existing existingMem
        rwa [keyEq.1, keyEq.2.1] at ofTenant
  | assign db principal userId policy =>
      refine iff_of_true (fun row rowMem => ?_) trivial
      rw [PolicyWrite.rows] at rowMem
      split at rowMem
      case isFalse => cases rowMem
      case isTrue found =>
        have own : ∀ row ∈ world.insertedPolicies db
            (policy.row principal.tenantId userId),
            world.userTenant row.userId = some row.tenantId :=
          forall_mem_insertedPolicies.mpr fun _ =>
            World.userTenant_of_hasUserIn found
        exact own row rowMem
  | bulkAssign db principal userIds policyId resource actions conditions =>
      rw [PolicyWrite.rows, NamesOwnUsers]
      cases world.upsertsPolicies db (bulkRecords principal.tenantId policyId
        resource actions conditions userIds) <;> simp [bulkRecords]
  | assignTemplate db principal templateId userId =>
      rw [PolicyWrite.rows, NamesOwnUsers]
      cases world.templatePolicy db principal.tenantId templateId with
      | none => simp
      | some policy => simp [forall_mem_insertedPolicies, PolicyCreate.row]
  | onboard db readings request =>
      refine iff_of_true (fun row rowMem => ?_) trivial
      rw [← sameTenant]
      exact onboard_within row rowMem
  | _ => exact iff_of_true (by simp [PolicyWrite.rows]) trivial

end Calls

/-! ## Runs -/

/-- In every run from a state whose policies are within their tenants they
remain so exactly if every call names own users. -/
theorem rowsWithinTenants_iff (deployment : Deployment) (world : World)
    (writes : List PolicyWrite) (start : RowsWithinTenants world) :
    Always (policyWriteStep deployment) RowsWithinTenants world writes ↔
      Along (policyWriteStep deployment) NamesOwnUsers world writes := by
  obtain ⟨final, runs⟩ := exec_of_total
    (fun (_ : World) (_ : PolicyWrite) => rfl) world writes
  refine always_iff_along (fun before write after within stepEq => ?_) start runs
  cases stepEq
  rw [rowsWithinTenants_run within, forall_mem_rows within]

/-! ## A user of another tenant -/

/-- Two tenants with a user each. -/
def twoTenants : World where
  tenants := ⟨[{ id := "t1" }, { id := "t2" }], by decide⟩
  users := ⟨[⟨"u1", "t1", "u@t1", "password", "U", "T", none, true, true, 0⟩,
    ⟨"u2", "t2", "u@t2", "password", "U", "T", none, true, true, 0⟩], by decide⟩

/-- A user of one tenant gives a policy to a user. -/
def createFor (userId : String) : PolicyWrite :=
  .create (.forTenant "t1") ⟨"u1", "t1", none⟩ userId
    ⟨"p", "files", ["read"], none, valid_read⟩

/-- A user of the tenant is given a policy, and the policies are within their
tenants. -/
theorem own_user_within :
    Always (policyWriteStep (.plain [])) RowsWithinTenants twoTenants
      [createFor "u1"] :=
  (rowsWithinTenants_iff (.plain []) twoTenants [createFor "u1"]
    (fun _ rowMem => absurd rowMem KeyedTable.not_mem_empty)).mpr
    ⟨fun _ => by decide, fun _ _ => trivial⟩

/-- The user of the other tenant is given a policy, too. -/
theorem other_user_crosses :
    RowsWithinTenants twoTenants ∧
      ∃ final, exec (policyWriteStep (.plain [])) twoTenants [createFor "u2"] =
        some final ∧ ¬ RowsWithinTenants final := by
  refine ⟨fun _ rowMem => absurd rowMem KeyedTable.not_mem_empty, _, rfl, ?_⟩
  intro within
  have ofTenant := within _ (List.mem_singleton.mpr rfl)
  exact absurd ofTenant (by decide)

end PolicyTenants

end HexIam
