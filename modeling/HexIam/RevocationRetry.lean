import HexIam.UpdateRevocation

/-!
# Revoking a permission when a statement fails

`delete_policy` and `update_policy` write the policy first and revoke the
sessions of the user afterwards, and every statement commits by itself.  A
caller that repeats a failed request finds the policy written: the deletion is
not found, and an update to the stored resource has nothing left to remove.
Here the two functions are written with their calls of the audit logger, which
can fail as well, and a request is repeated through any list of failures.
-/

namespace HexIam

open StatementTree

namespace RevocationRetry

open PolicyNarrowing SessionRevocation UpdateRevocation

/-! ## Programs with their log calls -/

/-- A statement, or a call of the audit logger. -/
inductive LoggedStmt : Type
  | core (stmt : Stmt)
  | forceInfo (message : String)
  | audit (action userId tenantId resource decision : String)

@[reducible]
def LoggedStmt.Resp : LoggedStmt → Type
  | .core stmt => stmt.Resp
  | _ => Unit

/-- The calls whose errors reach the caller: `revoke_token` drops the errors of
Redis. -/
def LoggedStmt.fallible : LoggedStmt → Bool
  | .core (.redis _) => false
  | _ => true

/-- Perform a statement; a log call leaves the world. -/
def performLogged (deployment : Deployment) :
    (stmt : LoggedStmt) → World → Except Exn stmt.Resp × World
  | .core stmt, world => perform deployment stmt world
  | .forceInfo _, world => (.ok (), world)
  | .audit .., world => (.ok (), world)

abbrev LoggedApp := StatementTree LoggedStmt LoggedStmt.Resp Exn

/-- A program without log calls. -/
def logged {α : Type} (program : App α) : LoggedApp α :=
  program.embed .core fun _ given => given

/-- `logger.force_info`. -/
def forceInfo (message : String) : LoggedApp Unit :=
  .perform (.forceInfo message) .done

/-- `logger.audit`. -/
def audit (action userId tenantId resource decision : String) : LoggedApp Unit :=
  .perform (.audit action userId tenantId resource decision) .done

section Programs

variable (worker : Nat) (db : Connection) (tenantId userId policyId : String)

/-- `revoke_all_sessions` with its log call. -/
def revokeAllSessionsLogged (reason : String) (excludeJti : Option String) :
    LoggedApp Nat := do
  let excludeJti := excludeJti.filter filled
  let jtis ← logged (ask (.session (.ofUser userId tenantId excludeJti)))
  if jtis.isEmpty then
    return 0
  else
    let _ ← logged (revokeUserTokens worker userId tenantId reason jtis)
    let _ ← logged (ask (.session
      (.revokeOfUser userId tenantId reason excludeJti)))
    audit "bulk_logout" userId tenantId "sessions"
      ("Revoked " ++ toString jtis.length ++ " sessions")
    return jtis.length

/-- `delete_policy` with its log calls. -/
def deletePolicyLogged : LoggedApp Bool := do
  let deleted ← logged (ask (.policy db (.delete tenantId userId policyId)))
  if deleted = 0 then
    throw (policyNotFound policyId)
  else
    forceInfo ("Policy '" ++ policyId ++ "' deleted for user " ++ userId ++
      " in tenant " ++ tenantId)
    let _ ← revokeAllSessionsLogged worker tenantId userId "bulk_logout" none
    audit "policy_delete" userId tenantId policyId "Policy Deleted"
    return true

/-- The end of `update_policy`. -/
def updatedResponse (row : PolicyRow) : LoggedApp PolicyRow := do
  audit "policy_update" row.userId row.tenantId row.policy.resource
    "Policy Updated"
  return row

/-- `update_policy` with its log calls. -/
def updatePolicyLogged (updates : PolicyUpdate) : LoggedApp PolicyRow := do
  match ← logged (getPolicyById db tenantId userId policyId) with
  | none => throw (policyNotFound policyId)
  | some existing =>
      let row : PolicyRow := {
        tenantId := tenantId
        userId := userId
        policyId := policyId
        policy := updatedPolicy existing.policy updates }
      let _ ← logged (ask (.policy db (.update row)))
      if updateRevokes existing.policy updates then
        let _ ← revokeAllSessionsLogged worker tenantId userId "bulk_logout" none
        updatedResponse row
      else
        updatedResponse row

end Programs

/-! ## Without failures they are the functions without log calls -/

section WithoutFailures

variable {deployment : Deployment} {world : World} {worker : Nat}
variable {db : Connection} {tenantId userId policyId : String}

theorem run_logged {α : Type} (program : App α) :
    StatementTree.run (performLogged deployment) (logged program) world =
      App.run deployment program world :=
  run_embed (fun _ _ => rfl) program world

/-- A sequence whose first part has no log call. -/
theorem run_logged_bind {α β : Type} {first : App α}
    {logging : α → LoggedApp β} {plain : α → App β}
    (rest : ∀ value world,
      StatementTree.run (performLogged deployment) (logging value) world =
        App.run deployment (plain value) world) :
    StatementTree.run (performLogged deployment) (logged first >>= logging)
        world = App.run deployment (first >>= plain) world := by
  unfold App.run
  rw [run_bind, run_bind, run_logged]
  unfold App.run
  split
  · exact rest _ _
  · rfl

theorem run_revokeAllSessionsLogged {reason : String}
    {excludeJti : Option String} :
    StatementTree.run (performLogged deployment)
        (revokeAllSessionsLogged worker tenantId userId reason excludeJti) world =
      App.run deployment
        (revokeAllSessions worker userId tenantId reason excludeJti) world := by
  refine run_logged_bind fun jtis world => ?_
  split
  · rfl
  · exact run_logged_bind fun _ _ => run_logged_bind fun _ _ => rfl

/-- Programs that agree still agree when the first goes on to a log call. -/
theorem run_bind_audit {α β : Type} {logging : LoggedApp α} {plain : App α}
    {finish : α → LoggedApp β} {result : α → β}
    (agree : StatementTree.run (performLogged deployment) logging world =
      App.run deployment plain world)
    (finishes : ∀ value world,
      StatementTree.run (performLogged deployment) (finish value) world =
        (.ok (result value), world)) :
    StatementTree.run (performLogged deployment) (logging >>= finish) world =
      App.run deployment (plain >>= fun value => pure (result value)) world := by
  unfold App.run at agree ⊢
  rw [run_bind, run_bind, agree]
  split
  · exact finishes _ _
  · rfl

theorem run_deletePolicyLogged :
    StatementTree.run (performLogged deployment)
        (deletePolicyLogged worker db tenantId userId policyId) world =
      App.run deployment (deletePolicy worker db tenantId userId policyId)
        world := by
  refine run_logged_bind fun deleted world => ?_
  split
  · rfl
  · exact run_bind_audit run_revokeAllSessionsLogged fun _ _ => rfl

theorem run_updatePolicyLogged {updates : PolicyUpdate} :
    StatementTree.run (performLogged deployment)
        (updatePolicyLogged worker db tenantId userId policyId updates) world =
      App.run deployment
        (updatePolicy worker db tenantId userId policyId updates) world := by
  refine run_logged_bind fun found world => ?_
  cases found with
  | none => rfl
  | some existing =>
      refine run_logged_bind fun _ world => ?_
      split
      · exact run_bind_audit run_revokeAllSessionsLogged fun _ _ => rfl
      · rfl

end WithoutFailures

/-! ## Attempts -/

/-- What a caller asks for a policy. -/
inductive Change : Type
  | delete
  | update (updates : PolicyUpdate)

/-- The error of a call that fails. -/
def lost : Exn :=
  .database "connection lost"

/-- The session with this id is revoked. -/
def IsRevoked (world : World) (jti : String) : Prop :=
  ∃ held ∈ world.userSessions, held.jti = jti ∧ held.revokedAt.isSome = true

section Attempts

variable (deployment : Deployment) (worker : Nat) (db : Connection)
variable (tenantId userId policyId : String) (change : Change)

/-- The function behind a request. -/
def program : LoggedApp Unit :=
  match change with
  | .delete => do
      let _ ← deletePolicyLogged worker db tenantId userId policyId
      return ()
  | .update updates => do
      let _ ← updatePolicyLogged worker db tenantId userId policyId updates
      return ()

/-- One attempt, in which so many calls succeed before one fails. -/
def attempt (point : Option Nat) (world : World) : Except Exn Unit × World :=
  runFailing LoggedStmt.fallible lost (performLogged deployment)
    (program worker db tenantId userId policyId change) point world

/-- Success, or `NotFoundError`. -/
def settles : Except Exn Unit → Bool
  | .ok _ => true
  | .error (.app .notFound _) => true
  | .error _ => false

/-- Repeat the request until it settles; the world then, if it does. -/
def retry : List (Option Nat) → World → Option World
  | [], _ => none
  | point :: rest, world =>
      let outcome :=
        attempt deployment worker db tenantId userId policyId change point world
      if settles outcome.1 then some outcome.2 else retry rest outcome.2

/-- Every session of the user that was not revoked before is revoked, and its
id is in the filter of the worker. -/
def SessionsRevoked (before after : World) : Prop :=
  ∀ row ∈ before.userSessions, ActiveOf userId tenantId row →
    IsRevoked after row.jti ∧ row.jti ∈ after.bloom worker

/-- The update takes something from the policy it finds. -/
def Narrowing (world : World) : Prop :=
  match change with
  | .delete => True
  | .update updates => ∀ existing,
      world.userPolicies.seen db (tenantId, userId, policyId) = some existing →
        Shrinks existing.policy (updatedPolicy existing.policy updates)

end Attempts

/-! ## The condition -/

/-- The place of the call that writes the policy. -/
def Change.writeAt : Change → Nat
  | .delete => 0
  | .update _ => 1

/-- The update gives no resource, so every repetition revokes again. -/
def Change.revokesAgain : Change → Bool
  | .delete => false
  | .update updates => updates.resource.isNone

/-- The attempt that writes the policy also revokes the sessions: it does not
fail between the write and the update of the sessions. -/
def Uninterrupted (writeAt : Nat) : List (Option Nat) → Prop
  | [] => True
  | none :: _ => True
  | some place :: rest =>
      if place ≤ writeAt then Uninterrupted writeAt rest else 3 < place

/-! ## Calls in a failing run -/

section FailingCalls

variable {deployment : Deployment} {world after : World} {point : Option Nat}

/-- The world and the failure to come after a program, with its result. -/
abbrev runLogged {α : Type} (deployment : Deployment) (program : LoggedApp α)
    (point : Option Nat) (world : World) : Except Exn α × Option Nat × World :=
  StatementTree.run (failing LoggedStmt.fallible lost (performLogged deployment))
    program (point, world)

theorem ne_zero_of_later {bound : Nat} (later : ∀ place ∈ point, bound < place) :
    point ≠ some 0 := by
  rintro rfl
  exact absurd (later 0 rfl) (Nat.not_lt_zero bound)

/-- The failure comes one call nearer. -/
theorem pred_later {bound : Nat} (later : ∀ place ∈ point, bound + 1 < place) :
    ∀ place ∈ point.map Nat.pred, bound < place := by
  intro place placeMem
  obtain ⟨before, isPoint, rfl⟩ := Option.map_eq_some_iff.mp placeMem
  have := later before isPoint
  rw [Nat.pred_eq_sub_one]
  omega

theorem runLogged_lost {α β : Type} {first : LoggedApp α}
    {rest : α → LoggedApp β}
    (fails : runLogged deployment first point world = (.error lost, none, after)) :
    runLogged deployment (first >>= rest) point world =
      (.error lost, none, after) :=
  run_bind_of_error _ fails

/-- A statement that is reached with failures to come later is performed. -/
theorem runLogged_ask {stmt : Stmt} {answer : stmt.Resp}
    (isFallible : (LoggedStmt.core stmt).fallible = true)
    (later : point ≠ some 0)
    (performed : perform deployment stmt world = (.ok answer, after)) :
    runLogged deployment (logged (ask stmt)) point world =
      (.ok answer, point.map Nat.pred, after) := by
  have ran : runLogged deployment (logged (ask stmt)) point world =
      failing LoggedStmt.fallible lost (performLogged deployment) (.core stmt)
        (point, world) := rfl
  have performedLogged : performLogged deployment (.core stmt) world =
      (.ok answer, after) := performed
  rw [ran, failing_later isFallible later, performedLogged]

theorem runLogged_forceInfo {message : String} (later : point ≠ some 0) :
    runLogged deployment (forceInfo message) point world =
      (.ok (), point.map Nat.pred, world) := by
  have ran : runLogged deployment (forceInfo message) point world =
      failing LoggedStmt.fallible lost (performLogged deployment)
        (.forceInfo message) (point, world) := rfl
  rw [ran, failing_later rfl later]
  rfl

/-- A log call at the end leaves the world, whether it fails or not. -/
theorem runLogged_audit {α : Type} {value : α}
    {action userId tenantId resource decision : String} :
    (runLogged deployment (do
      audit action userId tenantId resource decision
      return value) point world).2.2 = world := by
  match point with
  | none => rfl
  | some 0 => rfl
  | some (_ + 1) => rfl

theorem runLogged_updatedResponse {row : PolicyRow} :
    (runLogged deployment (updatedResponse row) point world).2.2 = world :=
  runLogged_audit

/-- What follows a program may be a log call, which leaves the world. -/
theorem runLogged_bind_world {α β : Type} {first : LoggedApp α}
    {rest : α → LoggedApp β}
    (keeps : ∀ value point world,
      (runLogged deployment (rest value) point world).2.2 = world) :
    (runLogged deployment (first >>= rest) point world).2.2 =
      (runLogged deployment first point world).2.2 := by
  unfold runLogged
  rw [run_bind]
  split
  case h_1 value after ran =>
    rw [ran]
    exact keeps value after.1 after.2
  case h_2 error after ran => rw [ran]

theorem runLogged_revokeUserTokens {worker : Nat}
    {userId tenantId reason : String} (jtis : List String) :
    ∃ count after, runLogged deployment
        (logged (revokeUserTokens worker userId tenantId reason jtis)) point
        world = (.ok count, point, after) ∧ Adds worker jtis world after := by
  obtain ⟨count, after, ran, adds⟩ := @run_revokeUserTokens deployment world
    worker userId tenantId reason jtis
  have infallible : Within (fun stmt => LoggedStmt.fallible stmt = false)
      (logged (revokeUserTokens worker userId tenantId reason jtis)) := by
    have onRedis : Uses [.redis]
        (revokeUserTokens worker userId tenantId reason jtis) :=
      uses_revokeUserTokens (by decide)
    refine Within.embed (onRedis.mono fun stmt uses => ?_)
    cases stmt with
    | redis stmt => rfl
    | _ => simp [Stmt.table] at uses
  refine ⟨count, after, ?_, adds⟩
  rw [runLogged, infallible.run_failing, run_logged, ran]

end FailingCalls

/-! ## What is revoked stays revoked -/

section Stays

variable {deployment : Deployment} {world : World} {jti : String}

theorem isRevoked_revokeWhere {selected : SessionRow → Bool} {now : Int}
    {reason : String} (revoked : IsRevoked world jti) :
    IsRevoked { world with userSessions :=
      (world.userSessions.revokeWhere selected now reason).2 } jti := by
  obtain ⟨held, heldMem, same, isSome⟩ := revoked
  have notActive : (selected held && held.active) = false := by
    simp [SessionRow.active, isSome]
  refine ⟨held, (KeyedTable.mem_update (SessionRow.revoke_jti now reason)).mpr
    ⟨held, heldMem, ?_⟩, same, isSome⟩
  rw [notActive]
  rfl

theorem isRevoked_perform {stmt : Stmt} (revoked : IsRevoked world jti) :
    IsRevoked (perform deployment stmt world).2 jti := by
  by_cases onSessions : stmt.table = .sessions
  case neg =>
    unfold IsRevoked
    rw [userSessions_perform deployment onSessions]
    exact revoked
  cases stmt with
  | session stmt =>
      cases stmt with
      | insert row =>
          rcases @perform_insert_session deployment world row with
            ⟨same, -⟩ | inserted
          · unfold IsRevoked
            change ∃ held ∈ (SessionStmt.perform deployment world (.insert row)).2, _
            rw [same]
            exact revoked
          · obtain ⟨held, heldMem, rest⟩ := revoked
            exact ⟨held, (KeyedTable.mem_of_insert inserted).mpr (.inl heldMem), rest⟩
      | ofUser => exact revoked
      | holder => exact revoked
      | among => exact revoked
      | revokeOne => exact isRevoked_revokeWhere revoked
      | revokeOfUser => exact isRevoked_revokeWhere revoked
      | revokeInTenant => exact isRevoked_revokeWhere revoked
      | revokeAmong => exact isRevoked_revokeWhere revoked
  | _ => cases onSessions

theorem mem_bloom_perform {stmt : Stmt} {worker : Nat}
    (held : jti ∈ world.bloom worker) :
    jti ∈ (perform deployment stmt world).2.bloom worker := by
  cases stmt with
  | redis stmt =>
      cases stmt with
      | bloomAdd other added =>
          cases added with
          | none => exact held
          | some added =>
              simp only [perform, RedisStmt.perform, World.bloomAdd, World.bloom,
                World.setWorker_workers, Function.update_apply] at held ⊢
              split
              case isTrue same =>
                subst same
                exact List.mem_cons_of_mem _ held
              case isFalse => exact held
      | publish added =>
          cases added with
          | none => exact held
          | some added =>
              have same := @bloom_publish world worker added
              exact same ▸ held
      | bloomHas => exact held
      | xadd added =>
          cases added <;> exact held
  | _ => exact held

end Stays

/-! ## The logout in a failing run -/

section Logout

variable {deployment : Deployment} {world : World} {point : Option Nat}
variable {worker : Nat} {userId tenantId reason : String}

theorem sessionsRevoked_of_adds {middle after : World}
    (adds : Adds worker (activeJtis world userId tenantId) world middle)
    (sessions : after.userSessions = (middle.userSessions.revokeWhere
      (SessionRow.isOfUser userId tenantId none) middle.now reason).2)
    (bloom : after.bloom worker = middle.bloom worker) :
    SessionsRevoked worker tenantId userId world after := by
  rintro row rowMem ⟨ofUser, ofTenant, active⟩
  have isActive : row.jti ∈ activeJtis world userId tenantId :=
    mem_activeJtis.mpr ⟨row, rowMem, ofUser, ofTenant, active, rfl⟩
  have selected : (SessionRow.isOfUser userId tenantId none row && row.active) =
      true := by
    simp [SessionRow.isOfUser, SessionRow.active, ofUser, ofTenant, active]
  refine ⟨⟨row.revoke middle.now reason, ?_, rfl, rfl⟩, ?_⟩
  · rw [sessions]
    refine (KeyedTable.mem_update (SessionRow.revoke_jti middle.now reason)).mpr
      ⟨row, adds.sessions ▸ rowMem, ?_⟩
    rw [selected]
    rfl
  · rw [bloom]
    exact (adds.bloom row.jti).mpr (.inl isActive)

/-- The sessions are selected and published, with the failure still to come. -/
theorem runLogged_logout (someActive : activeJtis world userId tenantId ≠ [])
    (later : point ≠ some 0) :
    ∃ count middle, Adds worker (activeJtis world userId tenantId) world middle ∧
      runLogged deployment
          (revokeAllSessionsLogged worker tenantId userId reason none) point
          world =
        runLogged deployment (do
          let _ ← logged (ask (.session
            (.revokeOfUser userId tenantId reason none)))
          audit "bulk_logout" userId tenantId "sessions"
            ("Revoked " ++ toString count ++ " sessions")
          return count) (point.map Nat.pred) middle := by
  have selected : runLogged deployment
      (logged (ask (.session (.ofUser userId tenantId none)))) point world =
      (.ok (activeJtis world userId tenantId), point.map Nat.pred, world) :=
    runLogged_ask rfl later rfl
  obtain ⟨count, middle, published, adds⟩ := @runLogged_revokeUserTokens deployment
    world (point.map Nat.pred) worker userId tenantId reason
    (activeJtis world userId tenantId)
  refine ⟨(activeJtis world userId tenantId).length, middle, adds, ?_⟩
  unfold revokeAllSessionsLogged
  rw [Option.filter_none, runLogged, run_bind_of_ok _ selected, if_neg]
  · exact run_bind_of_ok _ published
  · rwa [List.isEmpty_iff]

/-- A failure in front of the update of the sessions leaves them. -/
theorem logout_interrupted (someActive : activeJtis world userId tenantId ≠ [])
    (early : ∃ place ∈ point, place ≤ 1) :
    ∃ after, runLogged deployment
        (revokeAllSessionsLogged worker tenantId userId reason none) point world =
        (.error lost, none, after) ∧
      after.userSessions = world.userSessions ∧
      after.userPolicies = world.userPolicies := by
  obtain ⟨place, rfl, small⟩ := early
  rcases Nat.le_one_iff_eq_zero_or_eq_one.mp small with rfl | rfl
  · exact ⟨world, rfl, rfl, rfl⟩
  · obtain ⟨count, middle, adds, ran⟩ := @runLogged_logout deployment world
      (some 1) worker userId tenantId reason someActive (by decide)
    exact ⟨middle, ran.trans rfl, adds.sessions, adds.policies⟩

theorem logout_completes (someActive : activeJtis world userId tenantId ≠ [])
    (late : ∀ place ∈ point, 1 < place) :
    SessionsRevoked worker tenantId userId world (runLogged deployment
      (revokeAllSessionsLogged worker tenantId userId reason none) point
      world).2.2 := by
  have later := ne_zero_of_later late
  have laterStill := ne_zero_of_later (pred_later late)
  obtain ⟨count, middle, adds, ran⟩ := @runLogged_logout deployment world point
    worker userId tenantId reason someActive later
  have updated := @runLogged_ask deployment middle _ (point.map Nat.pred)
    (.session (.revokeOfUser userId tenantId reason none)) _ rfl laterStill rfl
  rw [ran, runLogged, run_bind_of_ok _ updated]
  exact runLogged_audit ▸ sessionsRevoked_of_adds adds rfl rfl

end Logout

/-! ## One attempt -/

section OneAttempt

variable {deployment : Deployment} {world : World} {point : Option Nat}
variable {worker : Nat} {db : Connection} {tenantId userId policyId : String}
variable {change : Change}

/-- The request finds a policy and would revoke the sessions. -/
def Revoking (world : World) (db : Connection) (tenantId userId policyId : String)
    (change : Change) : Prop :=
  ∃ existing,
    world.userPolicies.seen db (tenantId, userId, policyId) = some existing ∧
    match change with
    | .delete => True
    | .update updates => updateRevokes existing.policy updates = true

/-- The attempt, as a run that keeps the count of failures. -/
theorem attempt_eq :
    attempt deployment worker db tenantId userId policyId change point world =
      ((runLogged deployment (program worker db tenantId userId policyId change)
          point world).1,
        (runLogged deployment (program worker db tenantId userId policyId change)
          point world).2.2) :=
  rfl

theorem attempt_of_lost {after : World}
    (ran : runLogged deployment
      (program worker db tenantId userId policyId change) point world =
      (.error lost, none, after)) :
    attempt deployment worker db tenantId userId policyId change point world =
      (.error lost, after) := by
  rw [attempt_eq, ran]

/-- The deletion and what follows it. -/
theorem runLogged_delete {existing : PolicyRow} (later : point ≠ some 0)
    (found : world.userPolicies.seen db (tenantId, userId, policyId) =
      some existing) :
    runLogged deployment (deletePolicyLogged worker db tenantId userId policyId)
        point world =
      runLogged deployment (do
        forceInfo ("Policy '" ++ policyId ++ "' deleted for user " ++ userId ++
          " in tenant " ++ tenantId)
        let _ ← revokeAllSessionsLogged worker tenantId userId "bulk_logout" none
        audit "policy_delete" userId tenantId policyId "Policy Deleted"
        return true) (point.map Nat.pred)
        (perform deployment (.policy db (.delete tenantId userId policyId))
          world).2 := by
  have deleted : perform deployment (.policy db (.delete tenantId userId policyId))
      world = (.ok 1, (perform deployment
        (.policy db (.delete tenantId userId policyId)) world).2) := by
    simp only [perform, PolicyStmt.perform, found, Option.toList_some,
      List.length_singleton]
  unfold deletePolicyLogged
  rw [runLogged, run_bind_of_ok _ (runLogged_ask rfl later deleted),
    if_neg one_ne_zero]

/-- The two statements on the policy and what follows them. -/
theorem runLogged_update {updates : PolicyUpdate} {existing : PolicyRow}
    (later : ∀ place ∈ point, 1 < place)
    (found : world.userPolicies.seen db (tenantId, userId, policyId) =
      some existing) :
    runLogged deployment
        (updatePolicyLogged worker db tenantId userId policyId updates) point
        world =
      runLogged deployment
        (if updateRevokes existing.policy updates then do
          let _ ← revokeAllSessionsLogged worker tenantId userId "bulk_logout" none
          updatedResponse ⟨tenantId, userId, policyId,
            updatedPolicy existing.policy updates⟩
        else
          updatedResponse ⟨tenantId, userId, policyId,
            updatedPolicy existing.policy updates⟩)
        ((point.map Nat.pred).map Nat.pred)
        (perform deployment (.policy db (.update ⟨tenantId, userId, policyId,
          updatedPolicy existing.policy updates⟩)) world).2 := by
  have first := ne_zero_of_later later
  have second := ne_zero_of_later (pred_later later)
  have read : perform deployment (.policy db (.single tenantId userId policyId))
      world = (.ok (some existing), world) := by
    rw [← found]
    rfl
  have asked : runLogged deployment
      (logged (getPolicyById db tenantId userId policyId)) point world = _ :=
    runLogged_ask rfl first read
  have written := @runLogged_ask deployment world _ (point.map Nat.pred)
    (.policy db (.update ⟨tenantId, userId, policyId,
      updatedPolicy existing.policy updates⟩)) _ rfl second rfl
  unfold updatePolicyLogged
  rw [runLogged, run_bind_of_ok _ asked]
  exact run_bind_of_ok _ written

/-- A failure before the policy is written leaves everything. -/
theorem attempt_early {existing : PolicyRow}
    (found : world.userPolicies.seen db (tenantId, userId, policyId) =
      some existing)
    (early : ∃ place ∈ point, place ≤ change.writeAt) :
    attempt deployment worker db tenantId userId policyId change point world =
      (.error lost, world) := by
  obtain ⟨place, rfl, small⟩ := early
  cases change with
  | delete =>
      cases Nat.le_zero.mp small
      rfl
  | update updates =>
      rcases Nat.le_one_iff_eq_zero_or_eq_one.mp small with rfl | rfl
      · rfl
      · have asked : runLogged deployment
            (logged (getPolicyById db tenantId userId policyId)) (some 1) world =
            (.ok (some existing), some 0, world) := by
          rw [← found]
          rfl
        refine attempt_of_lost (runLogged_lost ?_)
        unfold updatePolicyLogged
        rw [runLogged, run_bind_of_ok _ asked]
        rfl

theorem seen_delete :
    (perform deployment (.policy db (.delete tenantId userId policyId))
      world).2.userPolicies.seen db (tenantId, userId, policyId) = none := by
  refine Option.eq_none_iff_forall_ne_some.mpr fun row isSeen => ?_
  obtain ⟨found, sees⟩ := Option.filter_eq_some_iff.mp isSeen
  obtain ⟨rowMem, keyEq⟩ := KeyedTable.lookup_eq_some.mp found
  have kept := (KeyedTable.mem_delete.mp rowMem).2
  simp [keyEq, sees] at kept

/-- An update finds its own document unchanged, but a missing resource still
differs. -/
theorem updateRevokes_updatedPolicy {existing : PolicyDoc}
    {updates : PolicyUpdate} :
    updateRevokes (updatedPolicy existing updates) updates =
      updates.resource.isNone := by
  unfold updateRevokes updatedPolicy
  cases updates.resource <;> cases updates.actions <;> simp

/-- After the write the request revokes again only when it always does. -/
theorem revoking_after_update {updates : PolicyUpdate} {existing : PolicyRow}
    {after : World}
    (found : world.userPolicies.seen db (tenantId, userId, policyId) =
      some existing)
    (written : after.userPolicies = (perform deployment (.policy db (.update
      ⟨tenantId, userId, policyId, updatedPolicy existing.policy updates⟩))
      world).2.userPolicies) :
    Revoking after db tenantId userId policyId (.update updates) ↔
      updates.resource.isNone = true := by
  have nowSeen := @seen_update deployment db tenantId userId policyId world
    existing found (updatedPolicy existing.policy updates)
  rw [← written] at nowSeen
  simp only [Revoking, nowSeen, Option.some.injEq, exists_eq_left',
    PolicyRow.setPolicy, updateRevokes_updatedPolicy]

/-- A deletion that fails before it revokes. -/
theorem delete_interrupted {existing : PolicyRow}
    (found : world.userPolicies.seen db (tenantId, userId, policyId) =
      some existing)
    (someActive : activeJtis world userId tenantId ≠ [])
    {place : Nat} (afterWrite : 0 < place) (small : place ≤ 3) :
    ∃ after, runLogged deployment
        (deletePolicyLogged worker db tenantId userId policyId) (some place)
        world = (.error lost, none, after) ∧
      after.userSessions = world.userSessions ∧
      after.userPolicies = (perform deployment
        (.policy db (.delete tenantId userId policyId)) world).2.userPolicies := by
  have later : (some place : Option Nat) ≠ some 0 := by
    rintro ⟨⟩
    exact absurd afterWrite (Nat.lt_irrefl 0)
  rw [runLogged_delete later found, Option.map_some]
  rcases Nat.lt_or_ge 1 place with afterLog | atLog
  · have logged := @runLogged_forceInfo deployment
      (perform deployment (.policy db (.delete tenantId userId policyId)) world).2
      (some place.pred) ("Policy '" ++ policyId ++ "' deleted for user " ++ userId ++
        " in tenant " ++ tenantId) (by simp; omega)
    have select : ∃ call ∈ (some place.pred).map Nat.pred, call ≤ 1 :=
      ⟨place.pred.pred, rfl, by rw [Nat.pred_eq_sub_one, Nat.pred_eq_sub_one]; omega⟩
    obtain ⟨after, interrupted, sessions, policies⟩ := @logout_interrupted deployment
      (perform deployment (.policy db (.delete tenantId userId policyId)) world).2
      _ worker userId tenantId "bulk_logout" someActive select
    refine ⟨after, ?_, sessions, policies⟩
    rw [runLogged, run_bind_of_ok _ logged]
    exact runLogged_lost interrupted
  · cases Nat.le_antisymm atLog afterWrite
    exact ⟨_, rfl, rfl, rfl⟩

theorem update_interrupted {updates : PolicyUpdate} {existing : PolicyRow}
    (found : world.userPolicies.seen db (tenantId, userId, policyId) =
      some existing)
    (revokes : updateRevokes existing.policy updates = true)
    (someActive : activeJtis world userId tenantId ≠ [])
    {place : Nat} (afterWrite : 1 < place) (small : place ≤ 3) :
    ∃ after, runLogged deployment
        (updatePolicyLogged worker db tenantId userId policyId updates)
        (some place) world = (.error lost, none, after) ∧
      after.userSessions = world.userSessions ∧
      after.userPolicies = (perform deployment (.policy db (.update ⟨tenantId,
        userId, policyId, updatedPolicy existing.policy updates⟩))
        world).2.userPolicies := by
  have later : ∀ call ∈ some place, 1 < call :=
    fun call same => Option.some.inj same ▸ afterWrite
  have select : ∃ call ∈ ((some place).map Nat.pred).map Nat.pred, call ≤ 1 :=
    ⟨place.pred.pred, rfl, by rw [Nat.pred_eq_sub_one, Nat.pred_eq_sub_one]; omega⟩
  obtain ⟨after, interrupted, sessions, policies⟩ := @logout_interrupted deployment
    (perform deployment (.policy db (.update ⟨tenantId, userId, policyId,
      updatedPolicy existing.policy updates⟩)) world).2
    _ worker userId tenantId "bulk_logout" someActive select
  refine ⟨after, ?_, sessions, policies⟩
  rw [runLogged_update later found, if_pos revokes]
  exact runLogged_lost interrupted

theorem attempt_interrupted
    (revoking : Revoking world db tenantId userId policyId change)
    (someActive : activeJtis world userId tenantId ≠ [])
    (between : ∃ place ∈ point, change.writeAt < place ∧ place ≤ 3) :
    ∃ after, attempt deployment worker db tenantId userId policyId change point
        world = (.error lost, after) ∧
      after.userSessions = world.userSessions ∧
      (Revoking after db tenantId userId policyId change ↔
        change.revokesAgain = true) := by
  obtain ⟨place, rfl, afterWrite, small⟩ := between
  obtain ⟨existing, found, revokes⟩ := revoking
  cases change with
  | delete =>
      obtain ⟨after, ran, sessions, policies⟩ := @delete_interrupted deployment
        world worker db tenantId userId policyId existing found someActive place
        afterWrite small
      refine ⟨after, attempt_of_lost (runLogged_lost ran), sessions, ?_⟩
      simp [Revoking, policies, seen_delete, Change.revokesAgain]
  | update updates =>
      obtain ⟨after, ran, sessions, policies⟩ := @update_interrupted deployment
        world worker db tenantId userId policyId updates existing found revokes
        someActive place afterWrite small
      exact ⟨after, attempt_of_lost (runLogged_lost ran), sessions,
        revoking_after_update found policies⟩

/-- An attempt whose failure, if any, comes after the update of the sessions. -/
theorem attempt_completes
    (revoking : Revoking world db tenantId userId policyId change)
    (someActive : activeJtis world userId tenantId ≠ [])
    (late : ∀ place ∈ point, 3 < place) :
    SessionsRevoked worker tenantId userId world (attempt deployment worker db
      tenantId userId policyId change point world).2 := by
  obtain ⟨existing, found, revokes⟩ := revoking
  rw [attempt_eq]
  cases change with
  | delete =>
      have logged := @runLogged_forceInfo deployment
        (perform deployment (.policy db (.delete tenantId userId policyId)) world).2
        (point.map Nat.pred) ("Policy '" ++ policyId ++ "' deleted for user " ++
          userId ++ " in tenant " ++ tenantId) (ne_zero_of_later (pred_later late))
      have completes := @logout_completes deployment
        (perform deployment (.policy db (.delete tenantId userId policyId)) world).2
        ((point.map Nat.pred).map Nat.pred) worker userId tenantId "bulk_logout"
        someActive (pred_later (pred_later late))
      unfold program
      rw [runLogged_bind_world fun _ _ _ => rfl,
        runLogged_delete (ne_zero_of_later late) found, runLogged,
        run_bind_of_ok _ logged]
      rw [runLogged_bind_world fun _ _ _ => runLogged_audit]
      exact completes
  | update updates =>
      have completes := @logout_completes deployment
        (perform deployment (.policy db (.update ⟨tenantId, userId, policyId,
          updatedPolicy existing.policy updates⟩)) world).2
        ((point.map Nat.pred).map Nat.pred) worker userId tenantId "bulk_logout"
        someActive (pred_later (pred_later late))
      unfold program
      rw [runLogged_bind_world fun _ _ _ => rfl, runLogged_update
        (fun place isPoint => Nat.lt_trans (by decide) (late place isPoint)) found,
        if_pos revokes, runLogged_bind_world fun _ _ _ => runLogged_updatedResponse]
      exact completes

/-- A deletion that finds no policy. -/
theorem attempt_delete_missing
    (missing : world.userPolicies.seen db (tenantId, userId, policyId) = none) :
    let after := (attempt deployment worker db tenantId userId policyId .delete
      point world).2
    after.userSessions = world.userSessions ∧
      ¬ Revoking after db tenantId userId policyId .delete := by
  rw [attempt_eq]
  unfold program
  rw [runLogged_bind_world fun _ _ _ => rfl]
  by_cases atStart : point = some 0
  · subst atStart
    refine ⟨rfl, ?_⟩
    rintro ⟨existing, found, -⟩
    cases missing.symm.trans found
  · have deleted : perform deployment
        (.policy db (.delete tenantId userId policyId)) world =
        (.ok 0, (perform deployment
          (.policy db (.delete tenantId userId policyId)) world).2) := by
      simp only [perform, PolicyStmt.perform, missing, Option.toList_none,
        List.length_nil]
    unfold deletePolicyLogged
    rw [runLogged, run_bind_of_ok _ (runLogged_ask rfl atStart deleted),
      if_pos rfl]
    refine ⟨rfl, ?_⟩
    rintro ⟨existing, found, -⟩
    cases seen_delete.symm.trans found

/-- An update that finds no policy, or nothing to revoke for. -/
theorem attempt_update_idle {updates : PolicyUpdate}
    (idle : ¬ Revoking world db tenantId userId policyId (.update updates)) :
    let after := (attempt deployment worker db tenantId userId policyId
      (.update updates) point world).2
    after.userSessions = world.userSessions ∧
      ¬ Revoking after db tenantId userId policyId (.update updates) := by
  cases found : world.userPolicies.seen db (tenantId, userId, policyId) with
  | none =>
      have asked (point : Option Nat) (later : point ≠ some 0) :
          runLogged deployment (logged (getPolicyById db tenantId userId policyId))
            point world = (.ok none, point.map Nat.pred, world) :=
        runLogged_ask rfl later (by rw [← found]; rfl)
      have same : (attempt deployment worker db tenantId userId policyId
          (.update updates) point world).2 = world := by
        rw [attempt_eq]
        unfold program
        rw [runLogged_bind_world fun _ _ _ => rfl]
        by_cases atStart : point = some 0
        · subst atStart
          rfl
        · unfold updatePolicyLogged
          rw [runLogged, run_bind_of_ok _ (asked point atStart)]
          rfl
      rw [same]
      exact ⟨rfl, idle⟩
  | some existing =>
      have keeps : updateRevokes existing.policy updates = false :=
        Bool.eq_false_iff.mpr fun revokes => idle ⟨existing, found, revokes⟩
      by_cases early : ∃ place ∈ point, place ≤ 1
      · rw [attempt_early found early]
        exact ⟨rfl, idle⟩
      · have late : ∀ place ∈ point, 1 < place := fun place isPoint =>
          Nat.lt_of_not_le fun small => early ⟨place, isPoint, small⟩
        have same : (attempt deployment worker db tenantId userId policyId
            (.update updates) point world).2 = (perform deployment
              (.policy db (.update ⟨tenantId, userId, policyId,
                updatedPolicy existing.policy updates⟩)) world).2 := by
          rw [attempt_eq]
          unfold program
          rw [runLogged_bind_world fun _ _ _ => rfl, runLogged_update late found,
            if_neg (by simp [keeps]), runLogged_updatedResponse]
        rw [same]
        refine ⟨rfl, ?_⟩
        rw [revoking_after_update found rfl, Bool.not_eq_true]
        rw [updateRevokes, Bool.or_eq_false_iff] at keeps
        have given : updates.resource = some existing.policy.resource := by
          simpa using keeps.1
        rw [given]
        rfl

/-- Where the request has nothing to revoke for, it never has. -/
theorem attempt_idle
    (idle : ¬ Revoking world db tenantId userId policyId change) :
    let after := (attempt deployment worker db tenantId userId policyId change
      point world).2
    after.userSessions = world.userSessions ∧
      ¬ Revoking after db tenantId userId policyId change := by
  cases change with
  | delete =>
      refine attempt_delete_missing (Option.eq_none_iff_forall_ne_some.mpr ?_)
      exact fun existing found => idle ⟨existing, found, trivial⟩
  | update updates => exact attempt_update_idle idle

theorem sessionsRevoked_attempt {start : World}
    (revoked : SessionsRevoked worker tenantId userId start world) :
    SessionsRevoked worker tenantId userId start (attempt deployment worker db
      tenantId userId policyId change point world).2 := by
  refine runFailing_preserves (fun stmt world revoked => ?_) _ point revoked
  cases stmt with
  | core stmt =>
      exact fun row rowMem active =>
        ⟨isRevoked_perform (revoked row rowMem active).1,
          mem_bloom_perform (revoked row rowMem active).2⟩
  | forceInfo message => exact revoked
  | audit action userId tenantId resource decision => exact revoked

end OneAttempt

/-! ## Repeated requests -/

section Retries

variable {deployment : Deployment} {world after : World}
variable {worker : Nat} {db : Connection} {tenantId userId policyId : String}
variable {change : Change} {points : List (Option Nat)}

/-- The request settles in its first attempt or in a later one. -/
theorem retry_cons {point : Option Nat} {rest : List (Option Nat)}
    (settled : retry deployment worker db tenantId userId policyId change
      (point :: rest) world = some after) :
    (attempt deployment worker db tenantId userId policyId change point
        world).2 = after ∨
      retry deployment worker db tenantId userId policyId change rest (attempt
        deployment worker db tenantId userId policyId change point world).2 =
        some after := by
  rw [retry] at settled
  split at settled
  · exact .inl (Option.some.inj settled)
  · exact .inr settled

theorem retry_lost {point : Option Nat} {rest : List (Option Nat)} {next : World}
    (fails : attempt deployment worker db tenantId userId policyId change point
      world = (.error lost, next)) :
    retry deployment worker db tenantId userId policyId change (point :: rest)
      world = retry deployment worker db tenantId userId policyId change rest
        next := by
  rw [retry, fails]
  rfl

theorem sessionsRevoked_retry {start : World}
    (revoked : SessionsRevoked worker tenantId userId start world)
    (settled : retry deployment worker db tenantId userId policyId change points
      world = some after) :
    SessionsRevoked worker tenantId userId start after := by
  induction points generalizing world with
  | nil => cases settled
  | cons point rest ih =>
      have attempted := @sessionsRevoked_attempt deployment world point worker db
        tenantId userId policyId change start revoked
      rcases retry_cons settled with rfl | settled
      · exact attempted
      · exact ih attempted settled

theorem not_sessionsRevoked (someActive : activeJtis world userId tenantId ≠ [])
    (same : after.userSessions = world.userSessions) :
    ¬ SessionsRevoked worker tenantId userId world after := by
  intro revoked
  obtain ⟨jti, jtiMem⟩ := List.exists_mem_of_ne_nil _ someActive
  obtain ⟨row, rowMem, ofUser, ofTenant, active, rfl⟩ := mem_activeJtis.mp jtiMem
  obtain ⟨⟨held, heldMem, sameJti, isSome⟩, -⟩ :=
    revoked row rowMem ⟨ofUser, ofTenant, active⟩
  rw [same] at heldMem
  cases KeyedTable.eq_of_key_eq heldMem rowMem sameJti
  rw [active] at isSome
  cases isSome

/-- Where the request has nothing to revoke for, repeating it leaves the
sessions. -/
theorem retry_idle (idle : ¬ Revoking world db tenantId userId policyId change)
    (settled : retry deployment worker db tenantId userId policyId change points
      world = some after) : after.userSessions = world.userSessions := by
  induction points generalizing world with
  | nil => cases settled
  | cons point rest ih =>
      obtain ⟨same, still⟩ := @attempt_idle deployment world point worker db
        tenantId userId policyId change idle
      rcases retry_cons settled with rfl | settled
      · exact same
      · exact (ih still settled).trans same

/-- With an active session, repeating the request revokes it just where the
request revokes when it starts, and does so after every interruption or meets
none. -/
theorem sessionsRevoked_iff_of_active
    (someActive : activeJtis world userId tenantId ≠ [])
    (settled : retry deployment worker db tenantId userId policyId change points
      world = some after) :
    SessionsRevoked worker tenantId userId world after ↔
      Revoking world db tenantId userId policyId change ∧
        (change.revokesAgain = true ∨ Uninterrupted change.writeAt points) := by
  induction points generalizing world with
  | nil => cases settled
  | cons point rest ih =>
      by_cases revoking : Revoking world db tenantId userId policyId change
      case neg =>
        simp only [revoking, false_and, iff_false]
        exact not_sessionsRevoked someActive (retry_idle revoking settled)
      obtain ⟨existing, found, -⟩ := id revoking
      simp only [revoking, true_and]
      by_cases late : ∀ place ∈ point, 3 < place
      · -- the sessions are revoked in this attempt
        have attempted := @attempt_completes deployment world point worker db
          tenantId userId policyId change revoking someActive late
        have uninterrupted : Uninterrupted change.writeAt (point :: rest) := by
          cases point with
          | none => trivial
          | some place =>
              have afterWrite : ¬ place ≤ change.writeAt := by
                have := late place rfl
                cases change <;> simp only [Change.writeAt] <;> omega
              simp only [Uninterrupted, if_neg afterWrite]
              exact late place rfl
        refine iff_of_true ?_ (.inr uninterrupted)
        rcases retry_cons settled with rfl | settled
        · exact attempted
        · exact sessionsRevoked_retry attempted settled
      push Not at late
      obtain ⟨place, rfl, small⟩ := late
      by_cases early : place ≤ change.writeAt
      · -- nothing has happened, and the rest starts anew
        rw [retry_lost (attempt_early found ⟨place, rfl, early⟩)] at settled
        rw [ih someActive settled]
        simp only [revoking, true_and, Uninterrupted, if_pos early]
      · -- the policy is written, the sessions are not
        obtain ⟨next, fails, same, again⟩ := @attempt_interrupted deployment world
          (some place) worker db tenantId userId policyId change revoking
          someActive ⟨place, rfl, Nat.lt_of_not_le early, small⟩
        rw [retry_lost fails] at settled
        have nextActive : activeJtis next userId tenantId ≠ [] := by
          unfold activeJtis
          rwa [same]
        have revoked_iff := ih nextActive settled
        unfold SessionsRevoked at revoked_iff ⊢
        rw [same, again] at revoked_iff
        rw [revoked_iff]
        simp only [Uninterrupted, if_neg early, Nat.not_lt_of_le small, or_false]
        exact ⟨fun holds => holds.1, fun holds => ⟨holds, .inl holds⟩⟩

end Retries

theorem signedOut_iff {world : World} {userId tenantId : String} :
    SignedOut world userId tenantId ↔ activeJtis world userId tenantId = [] := by
  rw [List.eq_nil_iff_forall_not_mem]
  constructor
  · intro signedOut jti jtiMem
    obtain ⟨row, rowMem, ofUser, ofTenant, active, -⟩ := mem_activeJtis.mp jtiMem
    have revoked := signedOut row rowMem ofUser ofTenant
    rw [active] at revoked
    cases revoked
  · intro noneActive row rowMem ofUser ofTenant
    by_contra active
    rw [Option.not_isSome_iff_eq_none] at active
    exact noneActive row.jti
      (mem_activeJtis.mpr ⟨row, rowMem, ofUser, ofTenant, active, rfl⟩)

/-- A narrowing request revokes where it finds its policy. -/
theorem revoking_iff {db : Connection} {tenantId userId policyId : String}
    {change : Change} {world : World}
    (narrowing : Narrowing db tenantId userId policyId change world) :
    Revoking world db tenantId userId policyId change ↔
      (world.userPolicies.seen db (tenantId, userId, policyId)).isSome = true := by
  rw [Option.isSome_iff_exists]
  refine exists_congr fun existing => and_iff_left_of_imp fun found => ?_
  cases change with
  | delete => trivial
  | update updates =>
      have shrinks := shrinks_updatedPolicy.mp (narrowing existing found)
      refine updateRevokes_iff.mpr (shrinks.imp_left fun moves same => moves ?_)
      rw [same]
      rfl

/-- A permission that is taken away is gone from the sessions of the user, in
spite of failures, exactly when there is no session, or the policy is there and
the request revokes with every repetition or is not interrupted. -/
theorem sessionsRevoked_iff (deployment : Deployment) (worker : Nat)
    (db : Connection) (tenantId userId policyId : String) (change : Change)
    (points : List (Option Nat)) (world after : World)
    (narrowing : Narrowing db tenantId userId policyId change world)
    (settled : retry deployment worker db tenantId userId policyId change points
      world = some after) :
    SessionsRevoked worker tenantId userId world after ↔
      SignedOut world userId tenantId ∨
      (world.userPolicies.seen db (tenantId, userId, policyId)).isSome = true ∧
        (change.revokesAgain = true ∨ Uninterrupted change.writeAt points) := by
  rw [signedOut_iff]
  by_cases someActive : activeJtis world userId tenantId = []
  · refine iff_of_true (fun row rowMem active => ?_) (.inl someActive)
    have revoked := signedOut_iff.mpr someActive row rowMem active.1 active.2.1
    rw [active.2.2] at revoked
    cases revoked
  · rw [sessionsRevoked_iff_of_active someActive settled, revoking_iff narrowing]
    simp only [someActive, false_or]

/-! ## A request that is repeated -/

/-- The user may read and write, and has a session. -/
def signedIn : World where
  userPolicies := .single ⟨"t", "u", "p", ⟨"files", ["read", "write"], []⟩⟩
  userSessions := .single ⟨"jti", "u", "t", none, none, 0, none, none⟩

/-- Writing is taken away. -/
def toRead : Change :=
  .update ⟨some "files", some ["read"], none, valid_toRead⟩

/-- The first attempt fails before the policy is written. -/
theorem update_repeated_revokes :
    ∃ after, retry (.plain []) 0 (.forTenant "t") "t" "u" "p" toRead
        [some 1, none] signedIn = some after ∧
      SessionsRevoked 0 "t" "u" signedIn after := by
  refine ⟨_, rfl, (sessionsRevoked_iff (.plain []) 0 (.forTenant "t") "t" "u" "p"
    toRead [some 1, none] signedIn _ ?_ rfl).mpr (.inr ⟨rfl, .inr trivial⟩)⟩
  intro existing found
  cases Option.some.inj found
  exact .inr ⟨"write", by decide, by decide⟩

/-- The policy is deleted, the read of the sessions fails, and the repeated
request is not found: the session lives on. -/
theorem deletion_repeated_keeps_session :
    ∃ after, retry (.plain []) 0 (.forTenant "t") "t" "u" "p" .delete
        [some 2, none] signedIn = some after ∧
      ¬ SessionsRevoked 0 "t" "u" signedIn after := by
  refine ⟨_, rfl, not_sessionsRevoked ?_ rfl⟩
  decide

end RevocationRetry

end HexIam
