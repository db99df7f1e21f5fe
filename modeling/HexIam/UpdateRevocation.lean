import HexIam.FailingRun
import HexIam.PolicyWrites

/-!
# When an update revokes sessions

`update_policy` overwrites a policy with the given fields and keeps the others.
It compares the given resource with the stored one to decide whether the grant
can shrink, and a resource that is not given differs from every stored one: an
update that only adds actions or conditions still logs the user out.
-/

namespace HexIam

open StatementTree

namespace UpdateRevocation

open PolicyNarrowing

/-! ## The property -/

/-- The resource changes, or an action goes. -/
def Shrinks (before after : PolicyDoc) : Prop :=
  after.resource ≠ before.resource ∨
    ∃ action ∈ before.actions, action ∉ after.actions

/-- Each field has the given value, or the old one where none is given; actions
are compared as sets. -/
structure Merged (existing : PolicyDoc) (updates : PolicyUpdate)
    (stored : PolicyDoc) : Prop where
  resource : stored.resource = updates.resource.getD existing.resource
  actions : ∀ action, action ∈ stored.actions ↔
    action ∈ updates.actions.getD existing.actions
  conditions : stored.conditions = updates.conditions.getD existing.conditions

section Calls

variable (deployment : Deployment) (worker : Nat) (db : Connection)
variable (tenantId userId policyId : String) (updates : PolicyUpdate)
variable (world : World)

/-- `update_policy` calls `revoke_all_sessions`, which begins by selecting the
sessions of the user. -/
def CallsRevokeAllSessions : Prop :=
  .session (.ofUser userId tenantId none) ∈ performed (perform deployment)
    (updatePolicy worker db tenantId userId policyId updates) world

/-- The policy is merged, and sessions are revoked exactly when it shrinks. -/
def RevokesExactly (existing : PolicyDoc) : Prop :=
  ∃ row, (App.run deployment
      (updatePolicy worker db tenantId userId policyId updates)
      world).2.userPolicies.seen db (tenantId, userId, policyId) = some row ∧
    Merged existing updates row.policy ∧
    (CallsRevokeAllSessions deployment worker db tenantId userId policyId updates
      world ↔ Shrinks existing row.policy)

end Calls

/-! ## The merged document -/

section Documents

variable {existing : PolicyDoc} {updates : PolicyUpdate}

theorem merged_updatedPolicy :
    Merged existing updates (updatedPolicy existing updates) where
  resource := rfl
  actions _ := List.mem_dedup
  conditions := rfl

theorem shrinks_updatedPolicy :
    Shrinks existing (updatedPolicy existing updates) ↔
      updates.resource.getD existing.resource ≠ existing.resource ∨
        ∃ action ∈ existing.actions,
          action ∉ updates.actions.getD existing.actions := by
  simp [Shrinks, updatedPolicy]

theorem updateRevokes_iff :
    updateRevokes existing updates = true ↔
      updates.resource ≠ some existing.resource ∨
        ∃ action ∈ existing.actions,
          action ∉ updates.actions.getD existing.actions := by
  simp [updateRevokes]

/-- The comparison agrees with the change of the document where a resource is
given or an action goes anyway. -/
theorem revokes_iff_shrinks :
    (updateRevokes existing updates = true ↔
        Shrinks existing (updatedPolicy existing updates)) ↔
      updates.resource.isSome = true ∨
        ∃ action ∈ existing.actions,
          action ∉ updates.actions.getD existing.actions := by
  rw [updateRevokes_iff, shrinks_updatedPolicy]
  cases updates.resource with
  | none => simp
  | some resource => simp

end Documents

/-! ## The call -/

section Run

variable {deployment : Deployment} {worker : Nat} {db : Connection}
variable {tenantId userId policyId : String} {updates : PolicyUpdate}
variable {world : World} {existing : PolicyRow}

/-- The statement that overwrites a policy leaves the new document under its
key. -/
theorem seen_update
    (found : world.userPolicies.seen db (tenantId, userId, policyId) =
      some existing) (policy : PolicyDoc) :
    (perform deployment (.policy db (.update ⟨tenantId, userId, policyId,
        policy⟩)) world).2.userPolicies.seen db (tenantId, userId, policyId) =
      some (existing.setPolicy policy) := by
  obtain ⟨isStored, sees⟩ := Option.filter_eq_some_iff.mp found
  have keyEq := (KeyedTable.lookup_eq_some.mp isStored).2
  simp only [perform, PolicyStmt.perform, PolicyTable.seen]
  rw [KeyedTable.lookup_update, isStored, Option.map_some, if_pos, Option.filter_some,
    if_pos]
  · exact sees
  · simp only [keyEq, sees, Bool.and_true, decide_eq_true_eq]
    rfl

theorem seen_updatePolicy
    (found : world.userPolicies.seen db (tenantId, userId, policyId) =
      some existing) :
    (App.run deployment (updatePolicy worker db tenantId userId policyId updates)
        world).2.userPolicies.seen db (tenantId, userId, policyId) =
      some (existing.setPolicy (updatedPolicy existing.policy updates)) := by
  rcases @after_updatePolicy deployment world db worker userId tenantId policyId
      updates with ⟨missing, -⟩ | ⟨row, changed, isRow, rfl, left⟩
  · rw [found] at missing
    cases missing
  · cases Option.some.inj (found.symm.trans isRow)
    have written := @seen_update deployment db tenantId userId policyId world
      existing found (updatedPolicy existing.policy updates)
    rcases left with ⟨-, loggedOut⟩ | ⟨-, same⟩
    · rw [loggedOut.policies]
      exact written
    · rw [same]
      exact written

/-- The sessions are selected exactly when the comparison says so. -/
theorem callsRevokeAllSessions_iff
    (found : world.userPolicies.seen db (tenantId, userId, policyId) =
      some existing) :
    CallsRevokeAllSessions deployment worker db tenantId userId policyId updates
        world ↔ updateRevokes existing.policy updates = true := by
  have asked : App.run deployment (getPolicyById db tenantId userId policyId)
      world = (.ok (some existing), world) := by
    rw [← found]
    rfl
  have updated : App.run deployment (ask (.policy db (.update ⟨tenantId, userId,
      policyId, updatedPolicy existing.policy updates⟩))) world = (.ok _, _) := rfl
  unfold CallsRevokeAllSessions updatePolicy
  rw [performed_bind_of_ok asked]
  dsimp only
  rw [performed_bind_of_ok updated]
  cases revokes : updateRevokes existing.policy updates with
  | false =>
      simp only [Bool.false_eq_true, iff_false]
      intro selects
      rcases List.mem_cons.mp selects with read | selects
      · cases read
      · rcases List.mem_cons.mp selects with written | selects
        · cases written
        · cases selects
  | true =>
      simp only [iff_true]
      exact List.mem_cons_of_mem _ (List.mem_cons_of_mem _ List.mem_cons_self)

end Run

/-- An update revokes exactly when the grant shrinks just where it gives a
resource, or takes an action away. -/
theorem revokesExactly_iff (deployment : Deployment) (worker : Nat)
    (db : Connection) (tenantId userId policyId : String)
    (updates : PolicyUpdate) (world : World) (existing : PolicyRow)
    (found : world.userPolicies.seen db (tenantId, userId, policyId) =
      some existing) :
    RevokesExactly deployment worker db tenantId userId policyId updates world
        existing.policy ↔
      updates.resource.isSome = true ∨
        ∃ action ∈ existing.policy.actions,
          action ∉ updates.actions.getD existing.policy.actions := by
  rw [← revokes_iff_shrinks, ← callsRevokeAllSessions_iff found]
  constructor
  · rintro ⟨row, isRow, -, exactly⟩
    cases Option.some.inj (isRow.symm.trans (seen_updatePolicy found))
    exact exactly
  · exact fun exactly => ⟨_, seen_updatePolicy found, merged_updatedPolicy, exactly⟩

/-! ## Two updates -/

/-- The user may read. -/
def onlyRead : World where
  userPolicies := .single ⟨"t", "u", "p", ⟨"users", ["read"], []⟩⟩

/-- The policy moves to other rows. -/
def toFiles : PolicyUpdate :=
  ⟨some "files", none, none, valid_none⟩

/-- Writing and deleting are added. -/
def toReadWriteDelete : PolicyUpdate :=
  ⟨none, some ["read", "write", "delete"], none, by decide⟩

theorem update_to_files_revokes_exactly :
    RevokesExactly (.plain []) 0 (.forTenant "t") "t" "u" "p" toFiles onlyRead
      ⟨"users", ["read"], []⟩ :=
  (revokesExactly_iff (.plain []) 0 (.forTenant "t") "t" "u" "p" toFiles onlyRead
    ⟨"t", "u", "p", ⟨"users", ["read"], []⟩⟩ rfl).mpr (.inl rfl)

/-- Nothing is taken away, and the user is logged out. -/
theorem added_actions_revoke :
    ¬ RevokesExactly (.plain []) 0 (.forTenant "t") "t" "u" "p" toReadWriteDelete
      onlyRead ⟨"users", ["read"], []⟩ := by
  rintro ⟨row, isRow, merged, exactly⟩
  rcases exactly.mp (.tail _ (.tail _ (.head _))) with moved | ⟨action, held, gone⟩
  · exact moved merged.resource
  · cases List.mem_singleton.mp held
    exact gone ((merged.actions "read").mpr (by decide))

end UpdateRevocation

end HexIam
