import HexIam.LoginAgreement
import HexIam.LogoutCoverage
import HexIam.SessionStreamAgreement

/-!
# Embedded policies after a narrowing change

A token carries the policy map of its login until it expires or is revoked.
`delete_policy` always revokes the sessions of its user, `update_policy` when
the resource or an action goes, `bulk_assign_policy` never.  In the runs whose
other narrowing changes meet no session, no token that is not revoked carries
more than a fresh login gives after a narrowing change.
-/

namespace HexIam

open StatementTree GuardedRun

namespace PolicyNarrowing

open LoginAgreement LogoutCoverage SessionRevocation SessionStream

/-! ## Calls and runs -/

/-- A login, or a call of `policy_service` that writes policies. -/
inductive PolicyCall : Type
  | login (db : Connection) (readings : Readings)
      (ip email tenantId password : String) (deviceInfo : Option String)
  | create (db : Connection) (tenantId userId : String) (policy : PolicyCreate)
  | update (worker : Nat) (db : Connection)
      (tenantId userId policyId : String) (updates : PolicyUpdate)
  | delete (worker : Nat) (db : Connection) (tenantId userId policyId : String)
  | bulkAssign (db : Connection) (tenantId : String) (userIds : List String)
      (policyId resource : String) (actions : List String)
      (conditions : Option (List (String × PyValue)))
  | assignTemplate (db : Connection) (tenantId templateId userId : String)

/-- The claims of the tokens a call issues. -/
def PolicyCall.program (deployment : Deployment) :
    PolicyCall → App (List Claims)
  | login db readings ip email tenantId password deviceInfo => do
      let token ← authenticate deployment db readings ip email tenantId password
        deviceInfo
      return [token.payload]
  | create db tenantId userId policy => do
      let _ ← createPolicy db tenantId userId policy
      return []
  | update worker db tenantId userId policyId updates => do
      let _ ← updatePolicy worker db tenantId userId policyId updates
      return []
  | delete worker db tenantId userId policyId => do
      let _ ← deletePolicy worker db tenantId userId policyId
      return []
  | bulkAssign db tenantId userIds policyId resource actions conditions => do
      let _ ← bulkAssignPolicy db tenantId userIds policyId resource actions
        conditions
      return []
  | assignTemplate db tenantId templateId userId => do
      let _ ← assignTemplateToUser db tenantId templateId userId
      return []

/-- A call, or the passing of time. -/
inductive PolicyEvent : Type
  | call (call : PolicyCall)
  | wait (seconds : Nat)

/-- The state after an event. -/
def policyStep (deployment : Deployment) (state : IssueState) :
    PolicyEvent → Option IssueState
  | .call call =>
      let outcome := App.run deployment (call.program deployment) state.world
      some {
        world := outcome.2
        issued := outcome.1.toOption.getD [] ++ state.issued }
  | .wait seconds => some {
      state with world := { state.world with now := state.world.now + seconds } }

/-! ## The property -/

/-- The new document has the resource and the actions of the old one and is
valid whenever that is. -/
structure KeepsPolicy (deployment : Deployment) (old new : PolicyDoc) :
    Prop where
  resource : new.resource = old.resource
  actions : ∀ action ∈ knownActions old.actions, action ∈ knownActions new.actions
  valid : ∀ now, old.valid deployment now = .ok true →
    new.valid deployment now = .ok true

/-- A policy of the user is gone, or its new document keeps less. -/
def Narrows (deployment : Deployment) (before after : World)
    (userId tenantId : String) : Prop :=
  ∃ row ∈ before.userPolicies, row.userId = userId ∧ row.tenantId = tenantId ∧
    ∀ held ∈ after.userPolicies, held.key = row.key →
      ¬ KeepsPolicy deployment row.policy held.policy

/-- `authenticate` would now sign a policy map that permits the action to the
user. -/
def FreshGives (deployment : Deployment) (world : World)
    (userId tenantId action resource : String) : Prop :=
  ∃ email rows claim,
    world.joinAll deployment (.forTenant tenantId)
      (world.usersWithEmail (.forTenant tenantId) email) = .ok rows ∧
    rows.head?.map (fun row => row.1.id) = some userId ∧
    loginPolicy rows = .ok claim ∧ checkPermission claim action resource = true

/-- The session is not revoked, or its id is missing from the stream. -/
def Unrevoked (world : World) (row : SessionRow) : Prop :=
  row.revokedAt = none ∨ row.jti ∉ world.revokedJtis

/-- Every token of the user with a session that is not revoked carries only
what a fresh login gives. -/
def UpToDate (deployment : Deployment) (state : IssueState)
    (userId tenantId : String) : Prop :=
  ∀ row ∈ state.world.userSessions, row.userId = userId →
    row.tenantId = tenantId → Unrevoked state.world row →
    ∀ claims ∈ state.issued, claims.jti = some row.jti →
    ∀ claim, claims.policy = some claim →
    ∀ action resource, checkPermission claim action resource = true →
      FreshGives deployment state.world userId tenantId action resource

/-- After a change that narrows the grant of a user, the tokens of the user are
up to date. -/
def Enforced (deployment : Deployment) (state : IssueState)
    (event : PolicyEvent) : Prop :=
  ∀ next, policyStep deployment state event = some next →
    ∀ userId tenantId,
      Narrows deployment state.world next.world userId tenantId →
        UpToDate deployment next userId tenantId

/-! ## The condition -/

/-- The user has no session that is not revoked. -/
def SignedOut (world : World) (userId tenantId : String) : Prop :=
  ∀ row ∈ world.userSessions, row.userId = userId → row.tenantId = tenantId →
    row.revokedAt.isSome = true

/-- An update that does not revoke, and a bulk assignment, keep the policy they
overwrite, or its user has no session. -/
def Harmless (deployment : Deployment) (state : IssueState) :
    PolicyEvent → Prop
  | .call (.update _ db tenantId userId policyId updates) =>
      ∀ existing,
        state.world.userPolicies.seen db (tenantId, userId, policyId) =
          some existing →
        updateRevokes existing.policy updates = true ∨
          KeepsPolicy deployment existing.policy
            (updatedPolicy existing.policy updates) ∨
          SignedOut state.world userId tenantId
  | .call (.bulkAssign _ tenantId userIds policyId resource actions conditions) =>
      ∀ userId ∈ userIds, ∀ existing,
        state.world.userPolicies.lookup (tenantId, userId, policyId) =
          some existing →
        KeepsPolicy deployment existing.policy
            ⟨resource, actions, conditions.getD []⟩ ∨
          SignedOut state.world userId tenantId
  | _ => True

/-! ## Sessions -/

section Sessions

variable {deployment : Deployment} {world before after : World}
variable {userId tenantId : String}

/-- Tokens are up to date where every session of the user is revoked. -/
theorem upToDate_of_signedOut {state : IssueState}
    (agreement : Agreement state.world)
    (signedOut : SignedOut state.world userId tenantId) :
    UpToDate deployment state userId tenantId := by
  intro row rowMem ofUser ofTenant unrevoked
  have revoked := signedOut row rowMem ofUser ofTenant
  rcases unrevoked with active | missing
  · rw [active] at revoked
    cases revoked
  · exact absurd (agreement row rowMem revoked) missing

theorem signedOut_of_loggedOut {worker : Nat}
    (loggedOut : LoggedOut worker userId tenantId before after) :
    SignedOut after userId tenantId := by
  intro row rowMem ofUser ofTenant
  rcases loggedOut.sessions row rowMem with ⟨-, notActive⟩ | ⟨-, revoked⟩
  · rw [Option.isSome_iff_ne_none]
    exact fun active => notActive ⟨ofUser, ofTenant, active⟩
  · exact revoked

theorem agreement_of_loggedOut {worker : Nat} (agreement : Agreement before)
    (loggedOut : LoggedOut worker userId tenantId before after) :
    Agreement after := by
  intro row rowMem revoked
  rw [loggedOut.stream]
  rcases loggedOut.sessions row rowMem with ⟨old, -⟩ | ⟨added, -⟩
  · exact .inr (agreement row old revoked)
  · exact .inl added

/-- Statements that neither update sessions nor remove from the stream keep
every revoked session in the stream. -/
theorem agreement_perform {stmt : Stmt} (agreement : Agreement world)
    (kind : stmt.table ≠ .sessions ∨ ∃ row, stmt = .session (.insert row)) :
    Agreement (perform deployment stmt world).2 := by
  intro row rowMem revoked
  refine mem_revokedJtis_perform stmt (agreement row ?_ revoked)
  rcases kind with other | ⟨inserted, rfl⟩
  · rwa [userSessions_perform deployment other] at rowMem
  · rcases @perform_insert_session deployment world inserted with
      ⟨same, -⟩ | insertEq
    · exact same ▸ rowMem
    · rcases (KeyedTable.mem_of_insert insertEq).mp rowMem with old | rfl
      · exact old
      · cases revoked

end Sessions

/-! ## Policies -/

section Policies

variable {deployment : Deployment} {world before after : World}
variable {db : Connection} {worker : Nat} {userId tenantId policyId : String}

theorem KeepsPolicy.refl (policy : PolicyDoc) :
    KeepsPolicy deployment policy policy :=
  ⟨rfl, fun _ mem => mem, fun _ valid => valid⟩

theorem not_narrows
    (kept : ∀ row ∈ before.userPolicies, row.userId = userId →
      row.tenantId = tenantId → ∃ held ∈ after.userPolicies,
        held.key = row.key ∧ KeepsPolicy deployment row.policy held.policy) :
    ¬ Narrows deployment before after userId tenantId := by
  rintro ⟨row, rowMem, ofUser, ofTenant, less⟩
  obtain ⟨held, heldMem, same, keeps⟩ := kept row rowMem ofUser ofTenant
  exact less held heldMem same keeps

theorem not_narrows_of_grows
    (grows : ∀ row ∈ before.userPolicies, row ∈ after.userPolicies) :
    ¬ Narrows deployment before after userId tenantId :=
  not_narrows fun row rowMem _ _ => ⟨row, grows row rowMem, rfl, .refl _⟩

theorem mem_insert_policy {row held : PolicyRow}
    (heldMem : held ∈ world.userPolicies) :
    held ∈ (perform deployment (.policy db (.insert row)) world).2.userPolicies := by
  have inserted : (PolicyStmt.perform deployment db world (.insert row)).2 =
        world.userPolicies ∨ world.userPolicies.insert row =
        some (PolicyStmt.perform deployment db world (.insert row)).2 := by
    simp only [PolicyStmt.perform]
    split
    · exact .inl rfl
    · exact .inl rfl
    · split
      · exact .inr ‹_›
      · exact .inl rfl
  rcases inserted with same | inserted
  · rw [← same] at heldMem
    exact heldMem
  · exact (KeyedTable.mem_of_insert inserted).mpr (.inl heldMem)

/-- Every row survives an `executemany` under its key, with its document or the
one of a record with that key. -/
theorem mem_upsertAll {records : List PolicyRow} {table result : PolicyTable}
    (upserted : PolicyStmt.upsertAll world db records table = .ok result)
    {row : PolicyRow} (rowMem : row ∈ table) :
    ∃ held ∈ result, held.key = row.key ∧ (held.policy = row.policy ∨
      ∃ record ∈ records, record.key = row.key ∧
        held.policy = record.policy) := by
  induction records generalizing table row with
  | nil =>
      cases upserted
      exact ⟨row, rowMem, rfl, .inl rfl⟩
  | cons record rest ih =>
      simp only [PolicyStmt.upsertAll, except_bind_eq_ok] at upserted
      obtain ⟨_, -, _, -, upserted⟩ := upserted
      by_cases same : row.key = record.key
      · have changed : row.setPolicy record.policy ∈ table.putPolicy record :=
          (KeyedTable.mem_upsert _).mpr (.inr (.inr ⟨row, rowMem, same, rfl⟩))
        obtain ⟨held, heldMem, keyEq, kept | ⟨other, otherMem, otherKey, kept⟩⟩ :=
          ih upserted changed
        · exact ⟨held, heldMem, keyEq,
            .inr ⟨record, List.mem_cons_self, same.symm, kept⟩⟩
        · exact ⟨held, heldMem, keyEq,
            .inr ⟨other, List.mem_cons_of_mem _ otherMem, otherKey, kept⟩⟩
      · have unchanged : row ∈ table.putPolicy record :=
          (KeyedTable.mem_upsert _).mpr (.inl ⟨rowMem, same⟩)
        obtain ⟨held, heldMem, keyEq, kept | ⟨other, otherMem, otherKey, kept⟩⟩ :=
          ih upserted unchanged
        · exact ⟨held, heldMem, keyEq, .inl kept⟩
        · exact ⟨held, heldMem, keyEq,
            .inr ⟨other, List.mem_cons_of_mem _ otherMem, otherKey, kept⟩⟩

/-- What `update_policy` does: nothing where it sees no such policy; else it
overwrites the policy, and logs the user out where it has to revoke. -/
theorem after_updatePolicy {updates : PolicyUpdate} :
    let after := (App.run deployment
      (updatePolicy worker db tenantId userId policyId updates) world).2
    (world.userPolicies.seen db (tenantId, userId, policyId) = none ∧
        after = world) ∨
      ∃ existing changed,
        world.userPolicies.seen db (tenantId, userId, policyId) = some existing ∧
        changed = (perform deployment (.policy db (.update ⟨tenantId, userId,
          policyId, updatedPolicy existing.policy updates⟩)) world).2 ∧
        (updateRevokes existing.policy updates = true ∧
            LoggedOut worker userId tenantId changed after ∨
          updateRevokes existing.policy updates = false ∧ after = changed) := by
  have asked : App.run deployment (getPolicyById db tenantId userId policyId)
      world = (.ok (world.userPolicies.seen db (tenantId, userId, policyId)),
        world) := rfl
  unfold updatePolicy
  rw [App.run_bind_of_ok asked]
  cases world.userPolicies.seen db (tenantId, userId, policyId) with
  | none => exact .inl ⟨rfl, rfl⟩
  | some existing =>
      refine .inr ⟨existing, _, rfl, rfl, ?_⟩
      have updated : App.run deployment (ask (.policy db (.update ⟨tenantId,
          userId, policyId, updatedPolicy existing.policy updates⟩))) world =
          (.ok _, _) := rfl
      dsimp only
      rw [App.run_bind_of_ok updated]
      cases revokes : updateRevokes existing.policy updates with
      | false => exact .inr ⟨rfl, rfl⟩
      | true =>
          obtain ⟨count, after, ran, loggedOut⟩ :=
            @run_revokeAllSessions deployment _ worker userId tenantId
              "bulk_logout"
          rw [if_pos rfl, App.run_bind_of_ok ran]
          exact .inl ⟨rfl, loggedOut⟩

/-- What `delete_policy` does: nothing where it sees no such policy; else it
deletes the policy and logs the user out. -/
theorem after_deletePolicy :
    let after := (App.run deployment
      (deletePolicy worker db tenantId userId policyId) world).2
    let deleted := (perform deployment (.policy db (.delete tenantId userId
      policyId)) world).2
    (world.userPolicies.seen db (tenantId, userId, policyId) = none ∧
        after = deleted) ∨
      LoggedOut worker userId tenantId deleted after := by
  have asked : App.run deployment
      (ask (.policy db (.delete tenantId userId policyId))) world =
      (.ok (world.userPolicies.seen db
        (tenantId, userId, policyId)).toList.length,
        (perform deployment (.policy db (.delete tenantId userId policyId))
          world).2) := rfl
  unfold deletePolicy
  rw [App.run_bind_of_ok asked]
  cases world.userPolicies.seen db (tenantId, userId, policyId) with
  | none => exact .inl ⟨rfl, rfl⟩
  | some existing =>
      obtain ⟨count, after, ran, loggedOut⟩ := @run_revokeAllSessions deployment
        (perform deployment (.policy db (.delete tenantId userId policyId))
          world).2 worker userId tenantId "bulk_logout"
      refine .inr ?_
      rw [Option.toList_some, List.length_singleton, if_neg one_ne_zero,
        App.run_bind_of_ok ran]
      exact loggedOut

end Policies

/-! ## Calls -/

section Calls

variable {deployment : Deployment} {state : IssueState}
variable {userId tenantId : String}

/-- Dropping the result of a call leaves its world. -/
theorem run_void {α : Type} (program : App α) (world : World) :
    (App.run deployment (do let _ ← program; return ([] : List Claims))
      world).2 = (App.run deployment program world).2 := by
  unfold App.run
  rw [StatementTree.run_bind]
  rcases StatementTree.run (perform deployment) program world with
    ⟨result, after⟩
  cases result <;> rfl

theorem within_authenticate {db : Connection} {readings : Readings}
    {ip email tenantId password : String} {deviceInfo : Option String} :
    Within (fun stmt => stmt.table = .users ∨ ∃ row, stmt = .session (.insert row))
      (authenticate deployment db readings ip email tenantId password
        deviceInfo) := by
  refine Within.tryCatch ?_ fun _ => within_done
  unfold authenticateUnguarded createSession
  split
  · exact within_done
  · refine Within.bind ⟨.inl rfl, fun _ => trivial⟩ fun rows => ?_
    split
    · exact within_done
    · refine Within.bind within_done fun verified => ?_
      split
      · exact within_done
      · refine Within.bind within_done fun policies =>
          Within.bind within_done fun claim =>
            Within.bind within_done fun token => ?_
        exact Within.bind ⟨.inr ⟨_, rfl⟩, fun _ => trivial⟩ fun _ => within_done

/-- A statement on templates, or an insert of a policy. -/
def AddsPolicies (stmt : Stmt) : Prop :=
  stmt.table = .templates ∨ ∃ db row, stmt = .policy db (.insert row)

theorem within_createPolicy {db : Connection} {policy : PolicyCreate} :
    Within AddsPolicies (createPolicy db tenantId userId policy) := by
  refine Within.bind ⟨.inr ⟨_, _, rfl⟩, fun _ => trivial⟩ fun inserted => ?_
  split <;> exact within_done

theorem within_assignTemplateToUser {db : Connection} {templateId : String} :
    Within AddsPolicies (assignTemplateToUser db tenantId templateId userId) := by
  refine Within.bind ⟨.inl rfl, fun _ => trivial⟩ fun found => ?_
  cases found with
  | none => exact within_done
  | some template =>
      exact Within.bind within_done fun policy => within_createPolicy

theorem uses_bulkAssignPolicy {tables : List Table} {db : Connection}
    {userIds : List String} {policyId resource : String} {actions : List String}
    {conditions : Option (List (String × PyValue))}
    (policies : .policies ∈ tables) :
    Uses tables (bulkAssignPolicy db tenantId userIds policyId resource actions
      conditions) :=
  (Within.tryCatch (uses_ask policies) fun _ => within_done).bind
    fun _ => within_done

theorem agreement_run {α : Type} {allowed : Stmt → Prop} {program : App α}
    {world : World} (within : Within allowed program)
    (kinds : ∀ stmt, allowed stmt →
      stmt.table ≠ .sessions ∨ ∃ row, stmt = .session (.insert row))
    (agreement : Agreement world) :
    Agreement (App.run deployment program world).2 := by
  refine within.run_preserves (fun stmt before mem kept => ?_) agreement
  exact agreement_perform kept (kinds stmt mem)

theorem userPolicies_grow {α : Type} {allowed : Stmt → Prop} {program : App α}
    {world : World} (within : Within allowed program)
    (kinds : ∀ stmt, allowed stmt →
      stmt.table ≠ .policies ∨ ∃ db row, stmt = .policy db (.insert row))
    {row : PolicyRow} (rowMem : row ∈ world.userPolicies) :
    row ∈ (App.run deployment program world).2.userPolicies := by
  have keeps (stmt : Stmt) (before : World) (mem : allowed stmt)
      (held : row ∈ before.userPolicies) :
      row ∈ (perform deployment stmt before).2.userPolicies := by
    rcases kinds stmt mem with other | ⟨db, inserted, rfl⟩
    · rwa [userPolicies_perform deployment other]
    · exact mem_insert_policy held
  exact within.run_preserves keeps rowMem

theorem AddsPolicies.table {stmt : Stmt} (adds : AddsPolicies stmt) :
    stmt.table ≠ .sessions := by
  rcases adds with templates | ⟨db, row, rfl⟩
  · rw [templates]
    decide
  · nofun

/-- Every call keeps the revoked sessions in the stream. -/
theorem agreement_call (call : PolicyCall) (agreement : Agreement state.world) :
    Agreement (App.run deployment (call.program deployment) state.world).2 := by
  cases call with
  | login db readings ip email tenantId password deviceInfo =>
      refine agreement_run (within_authenticate.bind fun _ => within_done)
        (fun stmt kind => kind.imp (fun users => ?_) id) agreement
      rw [users]
      decide
  | create db tenantId userId policy =>
      exact agreement_run (within_createPolicy.bind fun _ => within_done)
        (fun _ adds => .inl adds.table) agreement
  | bulkAssign db tenantId userIds policyId resource actions conditions =>
      have uses : Uses [.policies] (PolicyCall.program deployment (.bulkAssign db
          tenantId userIds policyId resource actions conditions)) :=
        (uses_bulkAssignPolicy (by decide)).bind fun _ => within_done
      refine agreement_run uses (fun stmt mem => .inl ?_) agreement
      rw [List.mem_singleton.mp mem]
      decide
  | assignTemplate db tenantId templateId userId =>
      exact agreement_run (within_assignTemplateToUser.bind fun _ => within_done)
        (fun _ adds => .inl adds.table) agreement
  | update worker db tenantId userId policyId updates =>
      unfold PolicyCall.program
      rw [run_void]
      rcases @after_updatePolicy deployment state.world db worker userId tenantId
        policyId updates with ⟨-, same⟩ | ⟨existing, changed, -, rfl, updated⟩
      · rwa [same]
      · have kept := @agreement_perform deployment state.world
          (.policy db (.update ⟨tenantId, userId, policyId,
            updatedPolicy existing.policy updates⟩)) agreement (.inl nofun)
        rcases updated with ⟨-, loggedOut⟩ | ⟨-, same⟩
        · exact agreement_of_loggedOut kept loggedOut
        · rwa [same]
  | delete worker db tenantId userId policyId =>
      unfold PolicyCall.program
      rw [run_void]
      have kept := @agreement_perform deployment state.world
        (.policy db (.delete tenantId userId policyId)) agreement (.inl nofun)
      rcases @after_deletePolicy deployment state.world db worker userId tenantId
        policyId with ⟨-, same⟩ | loggedOut
      · rwa [same]
      · exact agreement_of_loggedOut kept loggedOut

/-- The row that a narrowing update overwrote, and whose it is. -/
theorem narrowed_by_update {db : Connection} {world : World} {row : PolicyRow}
    (narrows : Narrows deployment world
      (perform deployment (.policy db (.update row)) world).2 userId tenantId) :
    row.userId = userId ∧ row.tenantId = tenantId ∧
      ∃ existing, world.userPolicies.seen db row.key = some existing ∧
        ¬ KeepsPolicy deployment existing.policy row.policy := by
  obtain ⟨existing, existingMem, ofUser, ofTenant, less⟩ := narrows
  have stored : (if (existing.key = row.key && db.sees existing.tenantId) then
        existing.setPolicy row.policy else existing) ∈
      (perform deployment (.policy db (.update row)) world).2.userPolicies :=
    (KeyedTable.mem_update (PolicyRow.setPolicy_key row.policy)).mpr
      ⟨existing, existingMem, rfl⟩
  by_cases selected : (existing.key = row.key && db.sees existing.tenantId) = true
  · rw [if_pos selected] at stored
    rw [Bool.and_eq_true, decide_eq_true_eq] at selected
    obtain ⟨same, seen⟩ := selected
    have keyEq := same
    simp only [PolicyRow.key, Prod.mk.injEq] at keyEq
    refine ⟨keyEq.2.1 ▸ ofUser, keyEq.1 ▸ ofTenant, existing, ?_,
      less (existing.setPolicy row.policy) stored rfl⟩
    exact Option.filter_eq_some_iff.mpr
      ⟨KeyedTable.lookup_eq_some.mpr ⟨existingMem, same⟩, seen⟩
  · rw [if_neg selected] at stored
    exact absurd (.refl _) (less existing stored rfl)

/-- The row that a deletion removed, and whose it was. -/
theorem narrowed_by_delete {db : Connection} {world : World} {policyId : String}
    {ofTenantId ofUserId : String}
    (narrows : Narrows deployment world
      (perform deployment (.policy db (.delete ofTenantId ofUserId policyId))
        world).2 userId tenantId) :
    ofUserId = userId ∧ ofTenantId = tenantId ∧
      world.userPolicies.seen db (ofTenantId, ofUserId, policyId) ≠ none := by
  obtain ⟨existing, existingMem, ofUser, ofTenant, less⟩ := narrows
  by_cases selected : (existing.key = (ofTenantId, ofUserId, policyId) &&
      db.sees existing.tenantId) = true
  · rw [Bool.and_eq_true, decide_eq_true_eq] at selected
    obtain ⟨same, seen⟩ := selected
    have keyEq := same
    simp only [PolicyRow.key, Prod.mk.injEq] at keyEq
    refine ⟨keyEq.2.1 ▸ ofUser, keyEq.1 ▸ ofTenant, ?_⟩
    have found : world.userPolicies.seen db (ofTenantId, ofUserId, policyId) =
        some existing := Option.filter_eq_some_iff.mpr
      ⟨KeyedTable.lookup_eq_some.mpr ⟨existingMem, same⟩, seen⟩
    simp [found]
  · have kept : existing ∈ (perform deployment
        (.policy db (.delete ofTenantId ofUserId policyId)) world).2.userPolicies :=
      KeyedTable.mem_delete.mpr ⟨existingMem, by simpa using selected⟩
    exact absurd (.refl _) (less existing kept rfl)

theorem userPolicies_bulkAssignPolicy {db : Connection} {world : World}
    {policyId resource : String} {userIds actions : List String}
    {conditions : Option (List (String × PyValue))} :
    (App.run deployment (bulkAssignPolicy db tenantId userIds policyId resource
        actions conditions) world).2.userPolicies =
      (PolicyStmt.perform deployment db world (.bulkUpsert (userIds.map
        fun userId => ⟨tenantId, userId, policyId,
          ⟨resource, actions, conditions.getD []⟩⟩))).2 := by
  unfold App.run bulkAssignPolicy ask
  rw [StatementTree.run_bind, StatementTree.tryCatch_perform,
    StatementTree.run_perform]
  cases (perform deployment (.policy db (.bulkUpsert _)) world).1 <;> rfl

/-- The user a bulk assignment took something from. -/
theorem narrowed_by_bulkAssign {db : Connection} {world : World}
    {ofTenantId policyId resource : String} {userIds actions : List String}
    {conditions : Option (List (String × PyValue))}
    (narrows : Narrows deployment world (App.run deployment (bulkAssignPolicy db
      ofTenantId userIds policyId resource actions conditions) world).2
      userId tenantId) :
    ofTenantId = tenantId ∧ userId ∈ userIds ∧
      ∃ existing, world.userPolicies.lookup (ofTenantId, userId, policyId) =
          some existing ∧
        ¬ KeepsPolicy deployment existing.policy
          ⟨resource, actions, conditions.getD []⟩ := by
  let policy : PolicyDoc := ⟨resource, actions, conditions.getD []⟩
  let records := userIds.map fun userId =>
    (⟨ofTenantId, userId, policyId, policy⟩ : PolicyRow)
  obtain ⟨existing, existingMem, ofUser, ofTenant, less⟩ := narrows
  rw [userPolicies_bulkAssignPolicy] at less
  simp only [PolicyStmt.perform] at less
  split at less
  case h_2 => exact absurd (.refl _) (less existing existingMem rfl)
  case h_1 table upserted =>
    obtain ⟨held, heldMem, keyEq, kept | ⟨record, recordMem, same, kept⟩⟩ :=
      mem_upsertAll upserted existingMem
    · exact absurd (kept ▸ .refl _) (less held heldMem keyEq)
    · obtain ⟨recordUser, userMem, rfl⟩ := List.mem_map.mp recordMem
      have recordKey := same
      simp only [PolicyRow.key, Prod.mk.injEq] at recordKey
      obtain ⟨tenantEq, userEq, policyEq⟩ := recordKey
      have notKept := less held heldMem keyEq
      rw [kept] at notKept
      refine ⟨tenantEq.trans ofTenant, userEq.trans ofUser ▸ userMem, existing,
        KeyedTable.lookup_eq_some.mpr ⟨existingMem, ?_⟩, notKept⟩
      rw [← same, ← userEq.trans ofUser]
      rfl

/-- A call that narrows the grant of a user and is harmless leaves no session
of the user that is not revoked. -/
theorem signedOut_of_narrows (call : PolicyCall)
    (harmless : Harmless deployment state (.call call))
    (narrows : Narrows deployment state.world (App.run deployment
      (call.program deployment) state.world).2 userId tenantId) :
    SignedOut (App.run deployment (call.program deployment) state.world).2 userId
      tenantId := by
  cases call with
  | login db readings ip email ofTenantId password deviceInfo =>
      refine absurd narrows (not_narrows_of_grows fun row rowMem => ?_)
      refine userPolicies_grow (within_authenticate.bind fun _ => within_done)
        (fun stmt kind => .inl ?_) rowMem
      rcases kind with users | ⟨inserted, rfl⟩
      · rw [users]
        decide
      · nofun
  | create db ofTenantId ofUserId policy =>
      refine absurd narrows (not_narrows_of_grows fun row rowMem => ?_)
      exact userPolicies_grow (within_createPolicy.bind fun _ => within_done)
        (fun stmt adds => adds.imp (by rintro templates; rw [templates]; decide)
          id) rowMem
  | assignTemplate db ofTenantId templateId ofUserId =>
      refine absurd narrows (not_narrows_of_grows fun row rowMem => ?_)
      exact userPolicies_grow
        (within_assignTemplateToUser.bind fun _ => within_done)
        (fun stmt adds => adds.imp (by rintro templates; rw [templates]; decide)
          id) rowMem
  | update worker db ofTenantId ofUserId policyId updates =>
      unfold PolicyCall.program at narrows ⊢
      rw [run_void] at narrows ⊢
      rcases @after_updatePolicy deployment state.world db worker ofUserId
        ofTenantId policyId updates with
        ⟨-, same⟩ | ⟨existing, changed, seen, changedEq, updated⟩
      · rw [same] at narrows
        exact absurd narrows (not_narrows_of_grows fun _ rowMem => rowMem)
      · have narrowed : Narrows deployment state.world changed userId tenantId := by
          rcases updated with ⟨-, loggedOut⟩ | ⟨-, same⟩
          · obtain ⟨row, rowMem, ofUser, ofTenant, less⟩ := narrows
            rw [loggedOut.policies] at less
            exact ⟨row, rowMem, ofUser, ofTenant, less⟩
          · rwa [same] at narrows
        rw [changedEq] at narrowed
        obtain ⟨rfl, rfl, held, heldSeen, less⟩ := narrowed_by_update narrowed
        cases seen.symm.trans heldSeen
        rcases updated with ⟨-, loggedOut⟩ | ⟨keeps, same⟩
        · exact signedOut_of_loggedOut loggedOut
        · rw [same, changedEq]
          rcases harmless existing seen with revokes | kept | signedOut
          · rw [revokes] at keeps
            cases keeps
          · exact absurd kept less
          · exact signedOut
  | delete worker db ofTenantId ofUserId policyId =>
      unfold PolicyCall.program at narrows ⊢
      rw [run_void] at narrows ⊢
      rcases @after_deletePolicy deployment state.world db worker ofUserId
        ofTenantId policyId with ⟨missing, same⟩ | loggedOut
      · rw [same] at narrows
        exact absurd missing (narrowed_by_delete narrows).2.2
      · obtain ⟨row, rowMem, ofUser, ofTenant, less⟩ := narrows
        rw [loggedOut.policies] at less
        obtain ⟨rfl, rfl, -⟩ :=
          narrowed_by_delete ⟨row, rowMem, ofUser, ofTenant, less⟩
        exact signedOut_of_loggedOut loggedOut
  | bulkAssign db ofTenantId userIds policyId resource actions conditions =>
      unfold PolicyCall.program at narrows ⊢
      rw [run_void] at narrows ⊢
      obtain ⟨rfl, userMem, existing, found, less⟩ :=
        narrowed_by_bulkAssign narrows
      rcases harmless userId userMem existing found with kept | signedOut
      · exact absurd kept less
      · rw [SignedOut, userSessions_run [.policies]
          (uses_bulkAssignPolicy (by decide)) (by decide)]
        exact signedOut

/-- A narrowing change that is harmless leaves the tokens of the user up to
date. -/
theorem enforced_of_harmless (event : PolicyEvent)
    (agreement : Agreement state.world)
    (harmless : Harmless deployment state event) :
    Enforced deployment state event := by
  rintro next stepEq userId tenantId narrows
  cases event with
  | wait seconds =>
      cases stepEq
      exact absurd narrows (not_narrows_of_grows fun _ rowMem => rowMem)
  | call call =>
      cases stepEq
      exact upToDate_of_signedOut (agreement_call call agreement)
        (signedOut_of_narrows call harmless narrows)

end Calls

/-! ## The result -/

/-- In a run whose narrowing changes are harmless, no token of a user that is
not revoked carries more than a fresh login gives once a change has narrowed
the grant of the user. -/
theorem enforced_of_run (deployment : Deployment) (world : World)
    (events : List PolicyEvent) (agreement : Agreement world)
    (harmless : Along (policyStep deployment) (Harmless deployment) ⟨world, []⟩
      events) :
    Along (policyStep deployment) (Enforced deployment) ⟨world, []⟩ events := by
  have keeps (state : IssueState) (event : PolicyEvent) (next : IssueState)
      (kept : Agreement state.world) (_ : Harmless deployment state event)
      (stepEq : policyStep deployment state event = some next) :
      Agreement next.world := by
    cases event with
    | call call =>
        cases stepEq
        exact agreement_call call kept
    | wait seconds =>
        cases stepEq
        exact kept
  exact along_of_invariant keeps (fun _ event => enforced_of_harmless event)
    agreement harmless

/-! ## A bulk assignment -/

/-- A user with a policy to read and write files. -/
def readWrite : World where
  tenants := .single { id := "t" }
  users := .single ⟨"u", "t", "u@t", "password", "U", "T", none, true, true, 0⟩
  userPolicies := .single ⟨"t", "u", "p", ⟨"files", ["read", "write"], []⟩⟩

/-- The user logs in. -/
def login : PolicyEvent :=
  .call (.login (.forTenant "t") ⟨fun _ => 0, fun _ => 0, fun _ => "secret"⟩
    "127.0.0.1" "u@t" "t" "password" none)

/-- The policy is updated to reading only. -/
def updateToRead : PolicyEvent :=
  .call (.update 0 (.forTenant "t") "t" "u" "p"
    ⟨some "files", some ["read"], none, valid_toRead⟩)

/-- The policy is assigned anew, to reading only. -/
def assignRead : PolicyEvent :=
  .call (.bulkAssign (.forTenant "t") "t" ["u"] "p" "files" ["read"] none)

/-- The update takes writing from the user and revokes its session. -/
theorem update_enforced :
    Along (policyStep (.plain [])) (Enforced (.plain [])) ⟨readWrite, []⟩
      [login, updateToRead] := by
  refine enforced_of_run _ _ _ ?_ ⟨trivial, fun _ stepEq => ?_⟩
  · exact fun _ rowMem => absurd rowMem KeyedTable.not_mem_empty
  · cases stepEq
    refine ⟨fun existing seen => ?_, fun _ _ => trivial⟩
    cases seen
    exact .inl (by decide)

/-- After the assignment the token of the session still permits writing, which
a fresh login does not. -/
theorem bulk_assignment_leaves_token :
    ¬ Along (policyStep (.plain [])) (Enforced (.plain [])) ⟨readWrite, []⟩
      [login, assignRead] := by
  rintro ⟨-, assigned⟩
  have upToDate := (assigned _ rfl).1 _ rfl "u" "t" ?narrows
  case narrows =>
    refine ⟨_, List.mem_singleton.mpr rfl, rfl, rfl, ?_⟩
    rintro held heldMem - ⟨-, actions, -⟩
    cases List.mem_singleton.mp heldMem
    exact absurd (actions .write (by decide)) (by decide)
  obtain ⟨email, rows, claim, joined, headEq, loginEq, permits⟩ :=
    upToDate _ (List.mem_singleton.mpr rfl) rfl rfl (.inl rfl) _
      List.mem_cons_self rfl _ rfl "write" "files" (by decide)
  by_cases same : email = "u@t"
  · subst same
    cases joined
    cases loginEq
    exact absurd permits (by decide)
  · have nobody : readWrite.usersWithEmail (.forTenant "t") email = [] := by
      simp [World.usersWithEmail, KeyedTable.select, readWrite, Ne.symm same]
    have noRows : World.joinAll _ (.plain []) (.forTenant "t")
        (readWrite.usersWithEmail (.forTenant "t") email) = .ok rows := joined
    rw [nobody] at noRows
    cases noRows
    cases headEq

end PolicyNarrowing

end HexIam
