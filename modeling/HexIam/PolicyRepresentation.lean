import HexIam.LoginAgreement
import HexIam.PolicyWrites

/-!
# The representation of stored policies

`authenticate` and `refresh` look every action of a stored policy up in
`Action`, and the policy queries cast every `validity_time` to a timestamp.
The request models of policies validate actions, except for that of
`bulk_assign_policy`, and none of them validates conditions.  The readers do
not fail on a stored policy in exactly the runs whose unvalidated values can be
read.
-/

namespace HexIam

open GuardedRun

namespace PolicyRepresentation

open LoginAgreement PolicyAdequacy

/-! ## The representation -/

/-- A `validity_time` casts to a timestamp. -/
def Castable (deployment : Deployment) (conditions : List (String × PyValue)) :
    Prop :=
  ∀ field, conditions.find? (fun field => field.1 = "validity_time") =
      some field →
    field.2 ≠ .none → (deployment.timestamptz field.2).isSome = true

/-- Every action is the name of an `Action`, whatever its case. -/
abbrev Known (actions : List String) : Prop :=
  ∀ action ∈ actions, (Action.named (upper action)).isSome = true

/-- What the readers need of a document; its fields are there by its type. -/
structure Compilable (deployment : Deployment) (policy : PolicyDoc) : Prop where
  actions : Known policy.actions
  validityTime : Castable deployment policy.conditions

/-- Every stored policy is compilable. -/
def RowsCompilable (deployment : Deployment) (world : World) : Prop :=
  ∀ row ∈ world.userPolicies, Compilable deployment row.policy

/-- No stored policy makes a reader fail: the rows of every email are fetched,
a login compiles the policies of rows that have some, and a refresh and
`fetch_user_policies` those of all rows. -/
structure ReadersTotal (deployment : Deployment) (world : World) : Prop where
  authenticate : ∀ db email, ∃ rows,
    (UserStmt.perform deployment db world (.withPolicies email)).1 = .ok rows ∧
      ((∃ user, (user, none) ∈ rows) ∨ ∃ claim, loginPolicy rows = .ok claim)
  refresh : ∀ db email, ∃ rows,
    (UserStmt.perform deployment db world (.withPolicies email)).1 = .ok rows ∧
      ∃ claim, refreshPolicy rows = .ok claim
  fetchUserPolicies : ∀ db userId tenantId, ∃ claim,
    App.run deployment (fetchUserPolicies db userId tenantId) world =
      (.ok claim, world)

/-- What the runs are to keep. -/
structure NeverLockedOut (deployment : Deployment) (world : World) : Prop where
  rows : RowsCompilable deployment world
  readers : ReadersTotal deployment world

/-- The values of a call that its request model does not validate can be
read. -/
def WritesReadable (deployment : Deployment) (world : World) :
    PolicyWrite → Prop
  | .create db principal userId policy =>
      world.insertsPolicy db (policy.row principal.tenantId userId) = true →
        Castable deployment (policy.conditions.getD [])
  | .update _ db principal userId policyId updates =>
      (world.userPolicies.seen db
          (principal.tenantId, userId, policyId)).isSome = true →
        ∀ conditions ∈ updates.conditions, Castable deployment conditions
  | .assign db principal userId policy =>
      world.hasUserIn db userId principal.tenantId = true →
        world.insertsPolicy db (policy.row principal.tenantId userId) = true →
          Castable deployment (policy.conditions.getD [])
  | .bulkAssign db principal userIds policyId resource actions conditions =>
      world.upsertsPolicies db (bulkRecords principal.tenantId policyId resource
          actions conditions userIds) = true → userIds ≠ [] →
        Known actions ∧ Castable deployment (conditions.getD [])
  | .assignTemplate db principal templateId userId =>
      ∀ policy,
        world.templatePolicy db principal.tenantId templateId = some policy →
        world.insertsPolicy db (policy.row principal.tenantId userId) = true →
          Castable deployment (policy.conditions.getD [])
  | _ => True

/-! ## Readers -/

section Readers

variable {deployment : Deployment} {world : World}

theorem exists_valid {policy : PolicyDoc}
    (castable : Castable deployment policy.conditions) (now : Int) :
    ∃ valid, policy.valid deployment now = .ok valid := by
  unfold PolicyDoc.valid
  cases found : policy.conditions.find? fun field => field.1 = "validity_time"
    with
  | none => exact ⟨true, rfl⟩
  | some field =>
      obtain ⟨name, value⟩ := field
      by_cases isNull : value = .none
      · rw [isNull]
        exact ⟨false, rfl⟩
      · obtain ⟨time, isTime⟩ :=
          Option.isSome_iff_exists.mp (castable _ found isNull)
        dsimp only at isTime
        cases value with
        | none => exact absurd rfl isNull
        | _ =>
            exact ⟨decide (now ≤ time), by simp only [Option.map_some, isTime]⟩

theorem exists_validPolicies {rows : List PolicyRow}
    (compilable : ∀ row ∈ rows, Compilable deployment row.policy) (now : Int) :
    ∃ policies, validPolicies deployment now rows = .ok policies := by
  induction rows with
  | nil => exact ⟨[], rfl⟩
  | cons row rest ih =>
      obtain ⟨here, later⟩ := List.forall_mem_cons.mp compilable
      obtain ⟨valid, validEq⟩ := exists_valid here.validityTime now
      obtain ⟨others, othersEq⟩ := ih later
      unfold validPolicies
      rw [validEq, othersEq]
      exact ⟨_, rfl⟩

/-- The documents of joined rows are compilable. -/
def RowsKnown (rows : List (UserRow × Option PolicyDoc)) : Prop :=
  ∀ row ∈ rows, ∀ policy ∈ row.2, Known policy.actions

theorem rowsKnown_joinRows {user : UserRow} {policies : List PolicyDoc}
    (known : ∀ policy ∈ policies, Known policy.actions) :
    RowsKnown (joinRows user policies) := by
  intro row rowMem policy policyMem
  cases policies with
  | nil =>
      cases List.mem_singleton.mp rowMem
      cases policyMem
  | cons first rest =>
      obtain ⟨held, heldMem, rfl⟩ := List.mem_map.mp rowMem
      cases policyMem
      exact known _ heldMem

theorem exists_joinPolicies (rows : RowsCompilable deployment world)
    (db : Connection) (user : UserRow) :
    ∃ joined, world.joinPolicies deployment db user = .ok joined ∧
      RowsKnown joined := by
  obtain ⟨policies, fetched⟩ := exists_validPolicies
    (fun row rowMem => rows row (KeyedTable.mem_select.mp rowMem).1) world.now
  rw [joinPolicies_eq, World.policiesOf, fetched]
  refine ⟨_, rfl, rowsKnown_joinRows fun policy policyMem => ?_⟩
  obtain ⟨row, rowMem, -, rfl⟩ := (mem_validPolicies fetched policy).mp policyMem
  exact (rows row (KeyedTable.mem_select.mp rowMem).1).actions

theorem exists_joinAll (rows : RowsCompilable deployment world)
    (db : Connection) (users : List UserRow) :
    ∃ joined, world.joinAll deployment db users = .ok joined ∧
      RowsKnown joined := by
  induction users with
  | nil => exact ⟨[], rfl, by simp [RowsKnown]⟩
  | cons user rest ih =>
      obtain ⟨joined, joinedEq, known⟩ := exists_joinPolicies rows db user
      obtain ⟨others, othersEq, othersKnown⟩ := ih
      refine ⟨joined ++ others, ?_, fun row rowMem => ?_⟩
      · rw [World.joinAll, joinedEq, othersEq]
        rfl
      · rcases List.mem_append.mp rowMem with here | later
        · exact known row here
        · exact othersKnown row later

theorem exists_loadPolicies (rows : List (UserRow × Option PolicyDoc)) :
    (∃ user, (user, none) ∈ rows) ∨
      loadPolicies rows = .ok (rows.filterMap Prod.snd) := by
  induction rows with
  | nil => exact .inr rfl
  | cons row rest ih =>
      obtain ⟨user, document⟩ := row
      cases document with
      | none => exact .inl ⟨user, List.mem_cons_self⟩
      | some policy =>
          rcases ih with ⟨other, otherMem⟩ | loaded
          · exact .inl ⟨other, List.mem_cons_of_mem _ otherMem⟩
          · refine .inr ?_
            rw [loadPolicies, loaded]
            rfl

theorem exists_refreshPolicy {rows : List (UserRow × Option PolicyDoc)}
    (known : RowsKnown rows) : ∃ claim, refreshPolicy rows = .ok claim := by
  refine exists_policyClaim_iff.mpr fun policy policyMem => ?_
  obtain ⟨row, rowMem, isPolicy⟩ := List.mem_filterMap.mp policyMem
  exact known row rowMem policy isPolicy

theorem readersTotal (rows : RowsCompilable deployment world) :
    ReadersTotal deployment world := by
  constructor
  case authenticate =>
    intro db email
    obtain ⟨joined, joinedEq, known⟩ :=
      exists_joinAll rows db (world.usersWithEmail db email)
    refine ⟨joined, joinedEq, (exists_loadPolicies joined).imp_right ?_⟩
    intro loaded
    rw [loginPolicy, loaded]
    exact exists_refreshPolicy known
  case refresh =>
    intro db email
    obtain ⟨joined, joinedEq, known⟩ :=
      exists_joinAll rows db (world.usersWithEmail db email)
    exact ⟨joined, joinedEq, exists_refreshPolicy known⟩
  case fetchUserPolicies =>
    intro db userId tenantId
    obtain ⟨policies, fetched⟩ := @exists_validPolicies deployment
      (world.userPolicies.select fun row => row.userId = userId &&
        row.tenantId = tenantId && db.sees row.tenantId)
      (fun row rowMem => rows row (KeyedTable.mem_select.mp rowMem).1) world.now
    have asked : App.run deployment (ask (.policy db (.valid userId tenantId)))
        world = (.ok policies, world) := by
      rw [← fetched]
      rfl
    exact ⟨bitmaskClaim policies, App.run_bind_of_ok asked⟩

theorem neverLockedOut_iff :
    NeverLockedOut deployment world ↔ RowsCompilable deployment world :=
  ⟨NeverLockedOut.rows, fun rows => ⟨rows, readersTotal rows⟩⟩

end Readers

/-! ## Writers -/

section Writers

variable {deployment : Deployment} {world : World} {write : PolicyWrite}

theorem known_validActions : Known validActions := by
  decide

theorem known_of_valid {actions : List String}
    (valid : ∀ action ∈ actions, action ∈ validActions) : Known actions :=
  fun action actionMem => known_validActions action (valid action actionMem)

theorem compilable_row {policy : PolicyCreate} {tenantId userId : String} :
    Compilable deployment (policy.row tenantId userId).policy ↔
      Castable deployment (policy.conditions.getD []) :=
  ⟨Compilable.validityTime, fun castable =>
    ⟨known_of_valid policy.valid, castable⟩⟩

theorem compilable_updatedPolicy {existing : PolicyDoc} {updates : PolicyUpdate}
    (compilable : Compilable deployment existing) :
    Compilable deployment (updatedPolicy existing updates) ↔
      ∀ conditions ∈ updates.conditions, Castable deployment conditions := by
  constructor
  · intro updated conditions isConditions
    have castable := updated.validityTime
    rw [updatedPolicy, isConditions] at castable
    exact castable
  · intro castable
    constructor
    · intro action actionMem
      have given : action ∈ updates.actions.getD existing.actions :=
        List.mem_dedup.mp actionMem
      cases actionsEq : updates.actions with
      | none =>
          rw [actionsEq] at given
          exact compilable.actions action given
      | some actions =>
          rw [actionsEq] at given
          exact known_of_valid (updates.valid actions actionsEq) action given
    · rw [updatedPolicy]
      cases conditionsEq : updates.conditions with
      | none => exact compilable.validityTime
      | some conditions => exact castable conditions conditionsEq

/-- Rows stay compilable exactly if the written ones are. -/
theorem rowsCompilable_run (start : RowsCompilable deployment world) :
    RowsCompilable deployment (write.run deployment world).2 ↔
      ∀ row ∈ write.rows deployment world, Compilable deployment row.policy := by
  obtain ⟨only, all⟩ := @PolicyWrite.wrote deployment world write
  constructor
  · exact fun compilable row rowMem => compilable row (all row rowMem)
  · intro written row rowMem
    rcases only row rowMem with old | new
    · exact start row old
    · exact written row new

/-- The rows of a call are compilable exactly if its values can be read. -/
theorem forall_mem_rows (start : RowsCompilable deployment world) :
    (∀ row ∈ write.rows deployment world, Compilable deployment row.policy) ↔
      WritesReadable deployment world write := by
  cases write with
  | create db principal userId policy =>
      rw [PolicyWrite.rows, forall_mem_insertedPolicies, compilable_row]
      rfl
  | update worker db principal userId policyId updates =>
      rw [PolicyWrite.rows, WritesReadable]
      cases seen : world.userPolicies.seen db
          (principal.tenantId, userId, policyId) with
      | none => simp
      | some existing =>
          obtain ⟨found, -⟩ := Option.filter_eq_some_iff.mp seen
          have compilable :=
            start existing (KeyedTable.lookup_eq_some.mp found).1
          simp only [List.forall_mem_singleton, Option.isSome_some,
            forall_const]
          exact compilable_updatedPolicy compilable
  | assign db principal userId policy =>
      rw [PolicyWrite.rows, WritesReadable]
      cases world.hasUserIn db userId principal.tenantId with
      | false => simp
      | true =>
          simp only [if_true, forall_const]
          rw [forall_mem_insertedPolicies, compilable_row]
  | bulkAssign db principal userIds policyId resource actions conditions =>
      rw [PolicyWrite.rows, WritesReadable]
      cases world.upsertsPolicies db (bulkRecords principal.tenantId policyId
          resource actions conditions userIds) with
      | false => simp
      | true =>
          simp only [if_true, forall_const, bulkRecords, List.forall_mem_map]
          constructor
          · intro compilable nonempty
            obtain ⟨userId, userMem⟩ := List.exists_mem_of_ne_nil _ nonempty
            have readable := compilable userId userMem
            exact ⟨readable.actions, readable.validityTime⟩
          · intro readable userId userMem
            obtain ⟨known, castable⟩ := readable (List.ne_nil_of_mem userMem)
            exact ⟨known, castable⟩
  | assignTemplate db principal templateId userId =>
      rw [PolicyWrite.rows, WritesReadable]
      cases world.templatePolicy db principal.tenantId templateId with
      | none => simp
      | some policy =>
          simp only [Option.some.injEq, forall_eq']
          rw [forall_mem_insertedPolicies, compilable_row]
  | onboard db readings request =>
      refine iff_of_true (fun row rowMem => ?_) trivial
      rw [PolicyWrite.rows] at rowMem
      split at rowMem
      case isFalse => cases rowMem
      case isTrue =>
        rw [List.mem_singleton.mp rowMem]
        have known : Known adminAccess.actions := by decide
        exact ⟨known, by rintro field ⟨⟩⟩
  | _ => exact iff_of_true (by simp [PolicyWrite.rows]) trivial

end Writers

/-! ## Runs -/

/-- In every run from a state whose rows are compilable, no stored policy ever
makes a reader fail, and the rows remain compilable, exactly if the values of
every call can be read. -/
theorem neverLockedOut_iff_along (deployment : Deployment) (world : World)
    (writes : List PolicyWrite) (start : RowsCompilable deployment world) :
    Always (policyWriteStep deployment) (NeverLockedOut deployment) world writes ↔
      Along (policyWriteStep deployment) (WritesReadable deployment) world
        writes := by
  obtain ⟨final, runs⟩ := exec_of_total
    (fun (_ : World) (_ : PolicyWrite) => rfl) world writes
  refine always_iff_along (fun before write after holds stepEq => ?_)
    (neverLockedOut_iff.mpr start) runs
  cases stepEq
  rw [neverLockedOut_iff, rowsCompilable_run holds.rows,
    forall_mem_rows holds.rows]

/-! ## An action that does not exist -/

/-- A tenant with a user who has no policy. -/
def oneUser : World where
  tenants := .single { id := "t" }
  users := .single ⟨"u", "t", "u@t", "password", "U", "T", none, true, true, 0⟩

/-- The user is assigned an action. -/
def bulkAssignAction (action : String) : PolicyWrite :=
  .bulkAssign (.forTenant "t") ⟨"u", "t", none⟩ ["u"] "p" "files" [action] none

theorem known_action_never_locks_out :
    Always (policyWriteStep (.plain [])) (NeverLockedOut (.plain [])) oneUser
      [bulkAssignAction "read"] :=
  (neverLockedOut_iff_along (.plain []) oneUser [bulkAssignAction "read"]
    (fun _ rowMem => absurd rowMem KeyedTable.not_mem_empty)).mpr
    ⟨fun _ _ => ⟨by decide, by rintro field ⟨⟩⟩, fun _ _ => trivial⟩

/-- An unknown action is stored, and the login of the user fails on it. -/
theorem unknown_action_locks_out :
    RowsCompilable (.plain []) oneUser ∧
      ∃ final, exec (policyWriteStep (.plain [])) oneUser
          [bulkAssignAction "fly"] = some final ∧
        ¬ NeverLockedOut (.plain []) final ∧
        ∀ readings, (App.run (.plain []) (authenticate (.plain [])
            (.forTenant "t") readings "127.0.0.1" "u@t" "t" "password" none)
            final).1 = .error (.app .internal "Internal server error") := by
  refine ⟨fun _ rowMem => absurd rowMem KeyedTable.not_mem_empty, _, rfl, ?_,
    fun readings => rfl⟩
  intro holds
  have known := (holds.rows _ (List.mem_singleton.mpr rfl)).actions "fly"
    (by decide)
  exact absurd known (by decide)

end PolicyRepresentation

end HexIam
