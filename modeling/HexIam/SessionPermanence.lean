import HexIam.PolicyWrites
import HexIam.SessionListing

/-!
# Revocation is permanent

The functions that write `user_sessions` interleave statement by statement, and
any statement may fail.  A revoked row stays as it is, and no query of
`get_active_sessions` returns it, until a cleanup deletes it.  A statement
changes only rows that its call selects.
-/

namespace HexIam

open StatementTree CallPool GuardedRun SessionListing
open SessionStream (SessionCall)

namespace SessionPermanence

/-! ## The system -/

/-- A call that writes or lists sessions, on a worker. -/
inductive SessionRequest : Type
  | session (call : SessionCall)
  | cleanup (worker : Nat)
  | list (worker : Nat) (isoformat : Int → String) (rank : SessionRow → Nat)
      (userId tenantId : String) (page pageSize : Int)

namespace SessionRequest

def worker : SessionRequest → Nat
  | session call => call.worker
  | cleanup worker => worker
  | list worker .. => worker

/-- The function called, without its result. -/
def program : SessionRequest → Code Unit
  | session call => shared call.program
  | cleanup _ => do
      let _ ← cleanupExpiredSessions
  | list _ isoformat rank userId tenantId page pageSize => do
      let _ ← getActiveSessions isoformat rank userId tenantId page pageSize

end SessionRequest

/-- Calls over one store.  Every statement may fail, a crash loses the state of
its worker, and time may pass. -/
def system (deployment : Deployment) :
    System Nat SessionRequest StoreStmt StoreStmt.Resp Exn Unit SessionStore Nat where
  site request := some request.worker
  program := SessionRequest.program
  perform := StoreStmt.perform deployment
  mayFail _ _ := true
  crash worker store := { store with world := store.world.setWorker worker {} }
  change seconds store :=
    some { store with world := { store.world with now := store.world.now + seconds } }

abbrev SessionPool := Pool SessionRequest StoreStmt StoreStmt.Resp Exn Unit SessionStore
abbrev SessionEvent := Event Nat SessionRequest Exn Nat

/-- The rows of `user_sessions`. -/
abbrev table (pool : SessionPool) : SessionTable :=
  pool.world.world.userSessions

/-! ## What a call may change -/

/-- The rows that the arguments of a call select. -/
def covers : SessionRequest → (now : Int) → SessionRow → Bool
  | .session (.create ..), _, _ => false
  | .session (.revoke _ jti userId tenantId _), _, row =>
      row.isOne jti userId tenantId
  | .session (.revokeAll _ userId tenantId _ excludeJti), _, row =>
      row.isOfUser userId tenantId (excludeJti.filter filled)
  | .session (.adminRevoke _ jti tenantId _), _, row => row.isInTenant jti tenantId
  | .session (.adminBulkRevoke _ jtis tenantId _), _, row =>
      row.isAmong jtis tenantId
  | .cleanup _, now, row => SessionStore.longExpired now row
  | .list .., _, _ => false

/-- The row that a call adds. -/
def Creates : SessionRequest → SessionRow → Prop
  | .session (.create _ jti userId tenantId expiresAt ipAddress deviceInfo), row =>
      row = ⟨jti, userId, tenantId, deviceInfo, ipAddress, expiresAt, none, none⟩
  | _, _ => False

/-- A row changed by a call: one it selects, not revoked before, with its jti,
user and tenant. -/
def Revises (request : SessionRequest) (now : Int) (old row : SessionRow) : Prop :=
  covers request now old = true ∧ old.active = true ∧ row.jti = old.jti ∧
    row.userId = old.userId ∧ row.tenantId = old.tenantId

/-- From one table to the next only rows that the call selects change, and only
the row it creates is new. -/
structure Confines (request : SessionRequest) (now : Int)
    (before after : SessionTable) : Prop where
  kept : ∀ row ∈ before, row ∈ after ∨ covers request now row = true
  found : ∀ row ∈ after, row ∈ before ∨ Creates request row ∨
    ∃ old ∈ before, Revises request now old row

/-- An event changes the table only as the call that it advances may. -/
def Confined (deployment : Deployment) (pool : SessionPool) (event : SessionEvent) :
    Prop :=
  ∀ next, step (system deployment) pool event = some next →
    table next = table pool ∨
      ∃ id call, event = .advance id ∧ pool.Holds id call ∧
        Confines call.request pool.world.world.now (table pool) (table next)

/-- The event is a cleanup that deletes the row. -/
def Deletes (row : SessionRow) (pool : SessionPool) (event : SessionEvent) : Prop :=
  ∃ id call, event = .advance id ∧ pool.Holds id call ∧ call.Next .cleanup ∧
    SessionStore.longExpired pool.world.world.now row = true

/-- The event is a query of `get_active_sessions` that returns the id. -/
def Lists (deployment : Deployment) (jti : String) (pool : SessionPool)
    (event : SessionEvent) : Prop :=
  ∃ id call userId tenantId pageSize offset rank rows, event = .advance id ∧
    pool.Holds id call ∧
    call.Next (.listActive userId tenantId pageSize offset rank) ∧
    (StoreStmt.perform deployment (.listActive userId tenantId pageSize offset rank)
      pool.world).1 = .ok rows ∧ ∃ listed ∈ rows, listed.jti = jti

/-- A revoked row stays, and no query lists it, until a cleanup deletes it. -/
def Permanent (deployment : Deployment) (pool : SessionPool) : Prop :=
  ∀ row ∈ table pool, row.revokedAt.isSome = true → ∀ rest : List SessionEvent,
    Along (step (system deployment)) (fun pool event => ¬ Deletes row pool event)
        pool rest →
      Always (step (system deployment)) (fun pool => row ∈ table pool) pool rest ∧
      Along (step (system deployment))
        (fun pool event => ¬ Lists deployment row.jti pool event) pool rest

/-! ## What a statement does to the table -/

/-- The rows that an update selects. -/
def selects : Stmt → SessionRow → Bool
  | .session (.revokeOne jti userId tenantId _) => SessionRow.isOne jti userId tenantId
  | .session (.revokeOfUser userId tenantId _ excludeJti) =>
      SessionRow.isOfUser userId tenantId excludeJti
  | .session (.revokeInTenant jti tenantId _) => SessionRow.isInTenant jti tenantId
  | .session (.revokeAmong jtis tenantId _) => SessionRow.isAmong jtis tenantId
  | _ => fun _ => false

section Statements

variable {deployment : Deployment} {world : World} {row : SessionRow}

/-- A statement inserts a row, revokes the rows it selects, or leaves the
table. -/
theorem userSessions_cases (stmt : Stmt) :
    (∃ added, stmt = .session (.insert added) ∧
      world.userSessions.insert added.fresh =
        some (perform deployment stmt world).2.userSessions) ∨
    (∃ reason, (perform deployment stmt world).2.userSessions =
      (world.userSessions.revokeWhere (selects stmt) world.now reason).2) ∨
    (perform deployment stmt world).2.userSessions = world.userSessions := by
  by_cases sessions : stmt.table = .sessions
  · cases stmt with
    | session stmt =>
        cases stmt with
        | insert added =>
            simp only [perform, SessionStmt.perform]
            split
            · exact .inr (.inr rfl)
            · exact .inr (.inr rfl)
            · exact .inr (.inr rfl)
            · rename_i inserted
              split
              · exact .inl ⟨added, rfl, inserted⟩
              · exact .inr (.inr rfl)
        | revokeOne jti userId tenantId reason => exact .inr (.inl ⟨reason, rfl⟩)
        | revokeOfUser userId tenantId reason excludeJti =>
            exact .inr (.inl ⟨reason, rfl⟩)
        | revokeInTenant jti tenantId reason => exact .inr (.inl ⟨reason, rfl⟩)
        | revokeAmong jtis tenantId reason => exact .inr (.inl ⟨reason, rfl⟩)
        | _ => exact .inr (.inr rfl)
    | _ => cases sessions
  · exact .inr (.inr (userSessions_perform deployment sessions))

/-- An update leaves the revoked rows, and the others it does not select. -/
theorem mem_revokeWhere {table : SessionTable} {selected : SessionRow → Bool}
    {now : Int} {reason : String} (held : row ∈ table)
    (spared : row.active = true → selected row = false) :
    row ∈ (table.revokeWhere selected now reason).2 := by
  refine (KeyedTable.mem_update (SessionRow.revoke_jti now reason)).mpr
    ⟨row, held, ?_⟩
  have unselected : ¬ ((selected row && row.active) = true) := by
    rw [Bool.and_eq_true]
    rintro ⟨isSelected, isActive⟩
    rw [spared isActive] at isSelected
    cases isSelected
  rw [if_neg unselected]

theorem of_mem_revokeWhere {table : SessionTable} {selected : SessionRow → Bool}
    {now : Int} {reason : String}
    (found : row ∈ (table.revokeWhere selected now reason).2) :
    row ∈ table ∨ ∃ old ∈ table, selected old = true ∧ old.active = true ∧
      row = old.revoke now reason := by
  obtain ⟨old, oldMem, rowEq⟩ :=
    (KeyedTable.mem_update (SessionRow.revoke_jti now reason)).mp found
  by_cases isSelected : (selected old && old.active) = true
  · rw [if_pos isSelected] at rowEq
    rw [Bool.and_eq_true] at isSelected
    exact .inr ⟨old, oldMem, isSelected.1, isSelected.2, rowEq⟩
  · rw [if_neg isSelected] at rowEq
    exact .inl (rowEq ▸ oldMem)

/-- No statement of the service removes or changes a revoked row. -/
theorem mem_perform_of_revoked (stmt : Stmt) (held : row ∈ world.userSessions)
    (revoked : row.revokedAt.isSome = true) :
    row ∈ (perform deployment stmt world).2.userSessions := by
  rcases @userSessions_cases deployment world stmt with
    ⟨added, -, inserted⟩ | ⟨reason, updated⟩ | same
  · exact (KeyedTable.mem_of_insert inserted).mpr (.inl held)
  · rw [updated]
    refine mem_revokeWhere held fun isActive => ?_
    rw [SessionRow.active, Option.isNone_iff_eq_none] at isActive
    rw [isActive] at revoked
    cases revoked
  · rw [same]
    exact held

end Statements

section Stores

variable {deployment : Deployment} {store : SessionStore} {row : SessionRow}

/-- A revoked row goes only in a cleanup long after it has expired. -/
theorem mem_or_deleted (stmt : StoreStmt) (held : row ∈ store.world.userSessions)
    (revoked : row.revokedAt.isSome = true) :
    row ∈ (stmt.perform deployment store).2.world.userSessions ∨
      stmt = .cleanup ∧ SessionStore.longExpired store.world.now row = true := by
  cases stmt with
  | shared stmt => exact .inl (mem_perform_of_revoked stmt held revoked)
  | cleanup =>
      cases expired : SessionStore.longExpired store.world.now row with
      | true => exact .inr ⟨rfl, rfl⟩
      | false => exact .inl (KeyedTable.mem_delete.mpr ⟨held, expired⟩)
  | countActive userId tenantId => exact .inl held
  | listActive userId tenantId pageSize offset rank =>
      left
      simp only [StoreStmt.perform]
      split
      · exact held
      · split <;> exact held

theorem active_of_listed {userId tenantId : String} {pageSize offset : Int}
    {rank : SessionRow → Nat} {rows : List ListedSession} {listed : ListedSession}
    (answered : (StoreStmt.perform deployment
      (.listActive userId tenantId pageSize offset rank) store).1 = .ok rows)
    (listedMem : listed ∈ rows) :
    ∃ row ∈ store.world.userSessions, row.active = true ∧ listed.jti = row.jti := by
  simp only [StoreStmt.perform] at answered
  split at answered
  · cases answered
  · split at answered
    · cases answered
    · cases answered
      obtain ⟨row, rowMem, rfl⟩ := List.mem_map.mp listedMem
      have arranged := List.mem_of_mem_drop (List.mem_of_mem_take rowMem)
      have selected := (PagedQuery.arrange_perm ..).mem_iff.mp arranged
      obtain ⟨held, matching⟩ := KeyedTable.mem_select.mp selected
      simp only [Bool.and_eq_true] at matching
      exact ⟨row, held, matching.1.2, rfl⟩

theorem not_listed_of_revoked {userId tenantId : String} {pageSize offset : Int}
    {rank : SessionRow → Nat} {rows : List ListedSession} {listed : ListedSession}
    (held : row ∈ store.world.userSessions) (revoked : row.revokedAt.isSome = true)
    (answered : (StoreStmt.perform deployment
      (.listActive userId tenantId pageSize offset rank) store).1 = .ok rows)
    (listedMem : listed ∈ rows) : listed.jti ≠ row.jti := by
  intro same
  obtain ⟨other, otherMem, isActive, jtiEq⟩ := active_of_listed answered listedMem
  have equal := KeyedTable.eq_of_key_eq otherMem held (jtiEq.symm.trans same)
  rw [equal, SessionRow.active, Option.isNone_iff_eq_none] at isActive
  rw [isActive] at revoked
  cases revoked

end Stores

/-! ## Permanence -/

section Permanence

variable {deployment : Deployment} {pool next : SessionPool} {row : SessionRow}

theorem mem_step {event : SessionEvent} (held : row ∈ table pool)
    (revoked : row.revokedAt.isSome = true) (kept : ¬ Deletes row pool event)
    (stepEq : step (system deployment) pool event = some next) :
    row ∈ table next := by
  cases event with
  | start id request =>
      obtain ⟨-, rfl⟩ := step_start.mp stepEq
      exact held
  | advance id =>
      obtain ⟨call, stmt, rest, holds, alive, restEq, rfl⟩ := step_advance.mp stepEq
      rcases @mem_or_deleted deployment _ _ stmt held revoked with
        stays | ⟨rfl, expired⟩
      · exact stays
      · exact absurd ⟨id, call, rfl, holds, ⟨alive, rest, restEq⟩, expired⟩ kept
  | fail id error =>
      obtain ⟨call, stmt, rest, holds, alive, restEq, may, rfl⟩ :=
        step_fail.mp stepEq
      exact held
  | crash worker =>
      obtain ⟨worldEq, -⟩ := step_crash.mp stepEq
      rw [table, worldEq]
      exact held
  | change seconds =>
      obtain ⟨store, changed, rfl⟩ := step_change.mp stepEq
      cases changed
      exact held

theorem not_lists {event : SessionEvent} (held : row ∈ table pool)
    (revoked : row.revokedAt.isSome = true) :
    ¬ Lists deployment row.jti pool event := by
  rintro ⟨id, call, userId, tenantId, pageSize, offset, rank, rows, -, -, -, answered,
    listed, listedMem, same⟩
  exact not_listed_of_revoked held revoked answered listedMem same

theorem permanent (deployment : Deployment) (pool : SessionPool) :
    Permanent deployment pool := by
  intro row held revoked rest
  induction rest generalizing pool with
  | nil => exact fun _ => ⟨held, trivial⟩
  | cons event rest ih =>
      intro kept
      refine ⟨⟨held, fun next stepEq => ?_⟩, not_lists held revoked,
        fun next stepEq => ?_⟩
      · exact (ih next (mem_step held revoked kept.1 stepEq) (kept.2 next stepEq)).1
      · exact (ih next (mem_step held revoked kept.1 stepEq) (kept.2 next stepEq)).2

end Permanence

/-! ## Confinement -/

/-- A statement that selects no row outside its request. -/
def Allowed (request : SessionRequest) : StoreStmt → Prop
  | .shared stmt =>
      (∀ now row, selects stmt row = true → covers request now row = true) ∧
        ∀ added, stmt = .session (.insert added) → Creates request added.fresh
  | .cleanup => ∃ worker, request = .cleanup worker
  | _ => True

section Programs

variable {request : SessionRequest} {stmt : Stmt}

theorem selects_of_table {row : SessionRow} (other : stmt.table ≠ .sessions) :
    selects stmt row = false := by
  cases stmt with
  | session stmt => exact absurd rfl other
  | _ => rfl

theorem allowed_of_table (other : stmt.table ≠ .sessions) :
    Allowed request (.shared stmt) := by
  constructor
  · intro now row selected
    rw [selects_of_table other] at selected
    cases selected
  · rintro added rfl
    exact absurd rfl other

theorem allowed_of_redis {α : Type} {program : App α}
    (uses : Uses [.redis] program) :
    Within (fun stmt => Allowed request (.shared stmt)) program := by
  refine uses.mono fun stmt isRedis => allowed_of_table ?_
  rw [List.mem_singleton.mp isRedis]
  exact nofun

theorem allowed_ask {stmt : Stmt} (allowed : Allowed request (.shared stmt)) :
    Within (fun stmt => Allowed request (.shared stmt)) (ask stmt) :=
  ⟨allowed, fun _ => trivial⟩

theorem uses_revokeGroups {worker : Nat} {tenantId reason : String}
    (groups : List (String × List String)) :
    Uses [.redis] (revokeGroups worker tenantId reason groups) := by
  induction groups with
  | nil => exact within_done
  | cons group rest ih =>
      exact (uses_revokeUserTokens (List.mem_singleton_self _)).bind fun _ => ih

/-- The functions of `session_service` select with their own arguments. -/
theorem within_sessionCall (call : SessionCall) :
    Within (fun stmt => Allowed (.session call) (.shared stmt)) call.program := by
  cases call with
  | create worker jti userId tenantId expiresAt ipAddress deviceInfo =>
      refine allowed_ask ⟨nofun, ?_⟩
      rintro added same
      cases same
      rfl
  | revoke worker jti userId tenantId reason =>
      refine Within.bind ?_ fun _ => within_done
      refine Within.bind (allowed_ask ⟨fun now row selected => selected, nofun⟩)
        fun updated => ?_
      split
      · exact (allowed_of_redis (uses_revokeToken (List.mem_singleton_self _))).bind
          fun _ => within_done
      · exact within_done
  | revokeAll worker userId tenantId reason excludeJti =>
      refine Within.bind ?_ fun _ => within_done
      refine Within.bind (allowed_ask ⟨nofun, nofun⟩) fun jtis => ?_
      split
      · exact within_done
      · refine (allowed_of_redis
          (uses_revokeUserTokens (List.mem_singleton_self _))).bind fun _ => ?_
        exact Within.bind (allowed_ask ⟨fun now row selected => selected, nofun⟩)
          fun _ => within_done
  | adminRevoke worker jti tenantId reason =>
      refine Within.bind ?_ fun _ => within_done
      refine Within.bind (allowed_ask ⟨nofun, nofun⟩) fun holder => ?_
      cases holder with
      | none => exact within_done
      | some userId =>
          refine Within.bind
            (allowed_ask ⟨fun now row selected => selected, nofun⟩) fun updated => ?_
          split
          · exact (allowed_of_redis
              (uses_revokeToken (List.mem_singleton_self _))).bind
                fun _ => within_done
          · exact within_done
  | adminBulkRevoke worker jtis tenantId reason =>
      refine Within.bind ?_ fun _ => within_done
      unfold adminBulkRevokeSessions
      split
      · exact within_done
      refine Within.bind (allowed_ask ⟨nofun, nofun⟩) fun rows => ?_
      split
      · exact within_done
      refine Within.bind (allowed_ask ⟨fun now row selected => selected, nofun⟩)
        fun _ => ?_
      exact (allowed_of_redis (uses_revokeGroups _)).bind fun _ => within_done

theorem within_program (request : SessionRequest) :
    Within (Allowed request) request.program := by
  cases request with
  | session call => exact Within.embed (within_sessionCall call)
  | cleanup worker =>
      exact Within.bind ⟨⟨worker, rfl⟩, fun _ => trivial⟩ fun _ => within_done
  | list worker isoformat rank userId tenantId page pageSize =>
      refine Within.bind ?_ fun _ => within_done
      refine Within.bind ⟨trivial, fun _ => trivial⟩ fun total => ?_
      exact Within.bind ⟨trivial, fun _ => trivial⟩ fun rows => within_done

end Programs

section Confinement

variable {deployment : Deployment} {request : SessionRequest} {store : SessionStore}

theorem Confines.refl {now : Int} {table : SessionTable} :
    Confines request now table table :=
  ⟨fun _ held => .inl held, fun _ held => .inl held⟩

/-- An allowed statement changes the table as its request may. -/
theorem confines_of_allowed {stmt : StoreStmt} (allowed : Allowed request stmt) :
    Confines request store.world.now store.world.userSessions
      (stmt.perform deployment store).2.world.userSessions := by
  cases stmt with
  | shared stmt =>
      obtain ⟨covered, creates⟩ := allowed
      rcases @userSessions_cases deployment store.world stmt with
        ⟨added, rfl, inserted⟩ | ⟨reason, updated⟩ | same
      · constructor
        · exact fun row held => .inl ((KeyedTable.mem_of_insert inserted).mpr (.inl held))
        · intro row found
          rcases (KeyedTable.mem_of_insert inserted).mp found with held | rfl
          · exact .inl held
          · exact .inr (.inl (creates added rfl))
      · change Confines _ _ _ (perform deployment stmt store.world).2.userSessions
        rw [updated]
        constructor
        · intro row held
          cases selected : selects stmt row with
          | false => exact .inl (mem_revokeWhere held fun _ => selected)
          | true => exact .inr (covered _ row selected)
        · intro row found
          rcases of_mem_revokeWhere found with
            held | ⟨old, held, selected, isActive, rfl⟩
          · exact .inl held
          · exact .inr (.inr ⟨old, held, covered _ old selected, isActive, rfl, rfl,
              rfl⟩)
      · change Confines _ _ _ (perform deployment stmt store.world).2.userSessions
        rw [same]
        exact Confines.refl
  | cleanup =>
      obtain ⟨worker, rfl⟩ := allowed
      constructor
      · intro row held
        cases expired : SessionStore.longExpired store.world.now row with
        | false => exact .inl (KeyedTable.mem_delete.mpr ⟨held, expired⟩)
        | true => exact .inr expired
      · exact fun row found => .inl (KeyedTable.mem_delete.mp found).1
  | countActive userId tenantId => exact Confines.refl
  | listActive userId tenantId pageSize offset rank =>
      simp only [StoreStmt.perform]
      split
      · exact Confines.refl
      · split <;> exact Confines.refl

/-- Every call performs only statements that its request allows. -/
abbrev AllAllowed (deployment : Deployment) : SessionPool → Prop :=
  Follows (system deployment) (fun request _ => Allowed request) fun _ _ _ => True

theorem obeys_program (request : SessionRequest) :
    Obeys (fun _ => Allowed request) (Answers (system deployment))
      (fun _ _ => True) request.program [] :=
  ((within_program request).obeys (fun _ _ allowed => allowed) []).mono
    fun _ _ _ => trivial

theorem confined_of_allAllowed {pool : SessionPool}
    (follows : AllAllowed deployment pool) (event : SessionEvent) :
    Confined deployment pool event := by
  intro next stepEq
  cases event with
  | start id request =>
      obtain ⟨-, rfl⟩ := step_start.mp stepEq
      exact .inl rfl
  | advance id =>
      obtain ⟨call, stmt, rest, holds, alive, restEq, rfl⟩ := step_advance.mp stepEq
      exact .inr ⟨id, call, rfl, holds,
        confines_of_allowed (follows.allowed holds restEq)⟩
  | fail id error =>
      obtain ⟨call, stmt, rest, holds, alive, restEq, may, rfl⟩ :=
        step_fail.mp stepEq
      exact .inl rfl
  | crash worker =>
      obtain ⟨worldEq, -⟩ := step_crash.mp stepEq
      rw [table, worldEq]
      exact .inl rfl
  | change seconds =>
      obtain ⟨store, changed, rfl⟩ := step_change.mp stepEq
      cases changed
      exact .inl rfl

end Confinement

/-! ## The result -/

/-- In every state of every interleaving revocations are permanent, and every
event changes only rows that its call selects. -/
theorem revocation_permanent (deployment : Deployment) (store : SessionStore)
    (events : List SessionEvent) :
    Always (step (system deployment)) (Permanent deployment) (.init store) events ∧
      Along (step (system deployment)) (Confined deployment) (.init store)
        events := by
  constructor
  · exact always_of_invariant (fun _ _ next _ _ => permanent deployment next)
      (permanent deployment _)
  · have allowed : Always (step (system deployment)) (AllAllowed deployment)
        (.init store) events :=
      always_of_invariant
        (fun _ event _ follows stepEq => follows_step obeys_program event follows stepEq)
        follows_init
    exact along_of_always (fun pool event follows => confined_of_allAllowed follows event)
      allowed

end SessionPermanence

end HexIam
