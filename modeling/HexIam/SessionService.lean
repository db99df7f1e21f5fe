import HexIam.Statement

/-!
# Token revocation and sessions

`TokenRevocationManager.revoke_token` and the functions of `session_service`
that record, list and revoke sessions.  A worker is named by its number; the
audit log, which no function waits for or reads, is left out.
-/

namespace HexIam

/-! ## The revocation manager -/

/-- `revoke_token`: the local filter, then the stream, then Pub/Sub.  An error
of either Redis call is logged and dropped. -/
def revokeToken (worker : Nat) (jti : Option String)
    (userId tenantId reason : String) : App Bool := do
  ask (.redis (.bloomAdd worker jti))
  let streamOk ← tryCatch
    (do ask (.redis (.xadd jti userId tenantId reason)); return true)
    fun _ => return false
  tryCatch (ask (.redis (.publish jti))) fun _ => return ()
  return streamOk

/-- `revoke_user_tokens`. -/
def revokeUserTokens (worker : Nat) (userId tenantId reason : String) :
    List String → App Nat
  | [] => return 0
  | jti :: rest => do
      let streamOk ← revokeToken worker (some jti) userId tenantId reason
      let count ← revokeUserTokens worker userId tenantId reason rest
      return if streamOk then count + 1 else count

/-- `is_revoked`. -/
def isRevoked (worker : Nat) (jti : String) : App Bool :=
  ask (.redis (.bloomHas worker jti))

/-! ## Sessions -/

/-- `create_session`. -/
def createSession (jti userId tenantId : String) (expiresAt : Int)
    (ipAddress deviceInfo : Option String) : App Unit :=
  ask (.session (.insert {
    jti := jti
    userId := userId
    tenantId := tenantId
    deviceInfo := deviceInfo
    ipAddress := ipAddress
    expiresAt := expiresAt
    revokedAt := none
    revokedReason := none }))

/-- `revoke_session`. -/
def revokeSession (worker : Nat) (jti userId tenantId : Option String)
    (reason : String) : App Bool := do
  let updated ← ask (.session (.revokeOne jti userId tenantId reason))
  if updated ≠ 0 then
    let _ ← revokeToken worker jti (userId.getD "") (tenantId.getD "") reason
    return true
  else
    return false

/-- `revoke_all_sessions`; an empty `exclude_jti` counts as none. -/
def revokeAllSessions (worker : Nat) (userId tenantId reason : String)
    (excludeJti : Option String) : App Nat := do
  let excludeJti := excludeJti.filter filled
  let jtis ← ask (.session (.ofUser userId tenantId excludeJti))
  if jtis.isEmpty then
    return 0
  else
    let _ ← revokeUserTokens worker userId tenantId reason jtis
    let _ ← ask (.session (.revokeOfUser userId tenantId reason excludeJti))
    return jtis.length

/-- `admin_revoke_session`. -/
def adminRevokeSession (worker : Nat) (jti tenantId reason : String) :
    App Bool := do
  match ← ask (.session (.holder jti tenantId)) with
  | none => return false
  | some userId =>
      let updated ← ask (.session (.revokeInTenant jti tenantId reason))
      if updated ≠ 0 then
        let _ ← revokeToken worker (some jti) userId tenantId reason
        return true
      else
        return false

/-- Append an id to the list kept for its user, as `user_jtis[uid].append`. -/
def addToUser (userId jti : String) :
    List (String × List String) → List (String × List String)
  | [] => [(userId, [jti])]
  | (held, jtis) :: rest =>
      if held = userId then (held, jtis ++ [jti]) :: rest
      else (held, jtis) :: addToUser userId jti rest

/-- The dictionary `user_jtis` built from `(jti, user_id)` rows. -/
def groupByUser (rows : List (String × String)) : List (String × List String) :=
  rows.foldl (fun groups row => addToUser row.2 row.1 groups) []

/-- The loop over `user_jtis.items()`. -/
def revokeGroups (worker : Nat) (tenantId reason : String) :
    List (String × List String) → App Unit
  | [] => return ()
  | (userId, jtis) :: rest => do
      let _ ← revokeUserTokens worker userId tenantId reason jtis
      revokeGroups worker tenantId reason rest

/-- `admin_bulk_revoke_sessions`. -/
def adminBulkRevokeSessions (worker : Nat) (jtis : List String)
    (tenantId reason : String) : App Nat := do
  if jtis.isEmpty then
    return 0
  else
    let rows ← ask (.session (.among jtis tenantId))
    if rows.isEmpty then
      return 0
    else
      let _ ← ask (.session (.revokeAmong jtis tenantId reason))
      revokeGroups worker tenantId reason (groupByUser rows)
      return rows.length

/-! ## The grouping keeps every id -/

theorem mem_addToUser {userId jti id : String}
    {groups : List (String × List String)} :
    (∃ group ∈ addToUser userId jti groups, id ∈ group.2) ↔
      (∃ group ∈ groups, id ∈ group.2) ∨ id = jti := by
  induction groups with
  | nil => simp [addToUser]
  | cons group rest ih =>
      obtain ⟨held, jtis⟩ := group
      unfold addToUser
      split
      · simp only [List.mem_cons, exists_eq_or_imp, List.mem_append,
          List.mem_nil_iff, or_false]
        exact or_right_comm
      · simp only [List.mem_cons, exists_eq_or_imp, ih]
        exact or_assoc.symm

theorem mem_groupByUser {id : String} {rows : List (String × String)} :
    (∃ group ∈ groupByUser rows, id ∈ group.2) ↔ ∃ row ∈ rows, id = row.1 := by
  suffices general : ∀ groups,
      (∃ group ∈ rows.foldl (fun groups row => addToUser row.2 row.1 groups)
        groups, id ∈ group.2) ↔
      (∃ group ∈ groups, id ∈ group.2) ∨ ∃ row ∈ rows, id = row.1 by
    simpa [groupByUser] using general []
  induction rows with
  | nil => simp
  | cons row rest ih =>
      intro groups
      rw [List.foldl_cons, ih, mem_addToUser]
      simp only [List.mem_cons, exists_eq_or_imp]
      exact or_assoc

end HexIam
