import HexIam.SessionService

/-!
# A logout from all sessions

What `revoke_all_sessions` does when it runs alone: the ids of the user's
active sessions enter the filter of the worker and the stream, and their rows
are revoked.
-/

namespace HexIam

open StatementTree

namespace SessionRevocation

variable {deployment : Deployment} {world : World}
variable {worker : Nat} {userId tenantId reason : String}

/-- A session is inserted, or its id is taken and the table stays. -/
theorem perform_insert_session {row : SessionRow} :
    (SessionStmt.perform deployment world (.insert row)).2 = world.userSessions ∧
        ((SessionStmt.perform deployment world (.insert row)).1 = .ok () →
          ∃ held ∈ world.userSessions, held.jti = row.jti) ∨
      world.userSessions.insert row.fresh =
        some (SessionStmt.perform deployment world (.insert row)).2 := by
  simp only [SessionStmt.perform]
  split
  · exact .inl ⟨rfl, nofun⟩
  · exact .inl ⟨rfl, nofun⟩
  · rename_i inserted
    have taken := KeyedTable.insert_eq_none.mp inserted
    exact .inl ⟨rfl, fun _ => taken⟩
  · rename_i inserted
    split
    · exact .inr inserted
    · exact .inl ⟨rfl, nofun⟩

/-- The ids of the sessions of a user that are not revoked. -/
def activeJtis (world : World) (userId tenantId : String) : List String :=
  (world.userSessions.activeRows
    (SessionRow.isOfUser userId tenantId none)).map SessionRow.jti

theorem mem_activeJtis {jti : String} :
    jti ∈ activeJtis world userId tenantId ↔
      ∃ row ∈ world.userSessions, row.userId = userId ∧
        row.tenantId = tenantId ∧ row.revokedAt = none ∧ row.jti = jti := by
  simp [activeJtis, SessionTable.activeRows, KeyedTable.mem_select,
    SessionRow.isOfUser, SessionRow.active, and_assoc]

theorem bloom_publish (jti : String) :
    (world.publish jti).bloom worker = world.bloom worker := by
  simp only [World.publish, World.bloom]
  split <;> rfl

/-- Afterwards the filter of the worker and the stream have these ids and what
they had before; sessions and policies are as before. -/
structure Adds (worker : Nat) (jtis : List String) (before after : World) :
    Prop where
  bloom : ∀ jti, jti ∈ after.bloom worker ↔
    jti ∈ jtis ∨ jti ∈ before.bloom worker
  stream : ∀ jti, jti ∈ after.revokedJtis ↔
    jti ∈ jtis ∨ jti ∈ before.revokedJtis
  sessions : after.userSessions = before.userSessions
  policies : after.userPolicies = before.userPolicies

theorem Adds.trans {first second : List String} {before middle after : World}
    (start : Adds worker first before middle)
    (rest : Adds worker second middle after) :
    Adds worker (first ++ second) before after where
  bloom jti := by
    rw [rest.bloom, start.bloom, List.mem_append, or_left_comm, or_assoc]
  stream jti := by
    rw [rest.stream, start.stream, List.mem_append, or_left_comm, or_assoc]
  sessions := rest.sessions.trans start.sessions
  policies := rest.policies.trans start.policies

theorem run_revokeToken (jti : String) :
    ∃ after, App.run deployment
        (revokeToken worker (some jti) userId tenantId reason) world =
        (.ok true, after) ∧ Adds worker [jti] world after := by
  let added : World := { world.bloomAdd worker jti with
    stream := world.stream ++ [⟨jti, userId, tenantId, reason⟩] }
  refine ⟨added.publish jti, rfl, fun other => ?_, fun other => ?_, rfl, rfl⟩
  · rw [bloom_publish]
    simp [added, World.bloom, World.bloomAdd]
  · simp [added, World.revokedJtis, World.publish, or_comm]

theorem run_revokeUserTokens (jtis : List String) :
    ∃ count after, App.run deployment
        (revokeUserTokens worker userId tenantId reason jtis) world =
        (.ok count, after) ∧ Adds worker jtis world after := by
  induction jtis generalizing world with
  | nil => exact ⟨0, world, rfl, by simp, by simp, rfl, rfl⟩
  | cons jti rest ih =>
      obtain ⟨middle, revoked, start⟩ := @run_revokeToken deployment world worker
        userId tenantId reason jti
      obtain ⟨count, after, ran, adds⟩ := @ih middle
      refine ⟨count + 1, after, ?_, start.trans adds⟩
      rw [revokeUserTokens, App.run_bind_of_ok revoked, App.run_bind_of_ok ran]
      rfl

/-- The row is of the user and not revoked. -/
def ActiveOf (userId tenantId : String) (row : SessionRow) : Prop :=
  row.userId = userId ∧ row.tenantId = tenantId ∧ row.revokedAt = none

/-- What a logout of the user leaves: the ids of its active sessions are in the
filter and the stream, and every row is revoked with such an id or is an old
one that was not active. -/
structure LoggedOut (worker : Nat) (userId tenantId : String)
    (before after : World) : Prop where
  bloom : ∀ jti, jti ∈ after.bloom worker ↔
    jti ∈ activeJtis before userId tenantId ∨ jti ∈ before.bloom worker
  stream : ∀ jti, jti ∈ after.revokedJtis ↔
    jti ∈ activeJtis before userId tenantId ∨ jti ∈ before.revokedJtis
  sessions : ∀ row ∈ after.userSessions,
    (row ∈ before.userSessions ∧ ¬ ActiveOf userId tenantId row) ∨
      (row.jti ∈ activeJtis before userId tenantId ∧
        row.revokedAt.isSome = true)
  policies : after.userPolicies = before.userPolicies

theorem mem_revokeWhere {table : SessionTable} {now : Int} {row : SessionRow}
    (rowMem : row ∈ (table.revokeWhere (SessionRow.isOfUser userId tenantId none)
      now reason).2) :
    (row ∈ table ∧ ¬ ActiveOf userId tenantId row) ∨
      ∃ held ∈ table, ActiveOf userId tenantId held ∧ held.jti = row.jti ∧
        row.revokedAt.isSome = true := by
  obtain ⟨held, heldMem, rowEq⟩ :=
    (KeyedTable.mem_update (SessionRow.revoke_jti now reason)).mp rowMem
  have selected_iff : (SessionRow.isOfUser userId tenantId none held &&
      held.active) = true ↔ ActiveOf userId tenantId held := by
    simp [SessionRow.isOfUser, SessionRow.active, ActiveOf, and_assoc]
  by_cases selected : ActiveOf userId tenantId held
  · rw [if_pos (selected_iff.mpr selected)] at rowEq
    exact .inr ⟨held, heldMem, selected, rowEq ▸ rfl, rowEq ▸ rfl⟩
  · rw [if_neg (mt selected_iff.mp selected)] at rowEq
    exact .inl (rowEq ▸ ⟨heldMem, selected⟩)

theorem old_or_revoked {now : Int} {row : SessionRow}
    (rowMem : row ∈ (world.userSessions.revokeWhere
      (SessionRow.isOfUser userId tenantId none) now reason).2) :
    (row ∈ world.userSessions ∧ ¬ ActiveOf userId tenantId row) ∨
      (row.jti ∈ activeJtis world userId tenantId ∧
        row.revokedAt.isSome = true) := by
  rcases mem_revokeWhere rowMem with
    old | ⟨held, heldMem, ⟨ofUser, ofTenant, active⟩, same, revoked⟩
  · exact .inl old
  · have found : row.jti ∈ activeJtis world userId tenantId :=
      mem_activeJtis.mpr ⟨held, heldMem, ofUser, ofTenant, active, same⟩
    exact .inr ⟨found, revoked⟩

theorem not_activeOf {row : SessionRow} (rowMem : row ∈ world.userSessions)
    (noneActive : activeJtis world userId tenantId = []) :
    ¬ ActiveOf userId tenantId row := by
  rintro ⟨ofUser, ofTenant, active⟩
  have found : row.jti ∈ activeJtis world userId tenantId :=
    mem_activeJtis.mpr ⟨row, rowMem, ofUser, ofTenant, active, rfl⟩
  rw [noneActive] at found
  cases found

/-- `revoke_all_sessions` alone returns and logs the user out. -/
theorem run_revokeAllSessions :
    ∃ count after, App.run deployment
        (revokeAllSessions worker userId tenantId reason none) world =
        (.ok count, after) ∧ LoggedOut worker userId tenantId world after := by
  have asked : App.run deployment
      (ask (.session (.ofUser userId tenantId none))) world =
      (.ok (activeJtis world userId tenantId), world) := rfl
  unfold revokeAllSessions
  rw [Option.filter_none, App.run_bind_of_ok asked]
  split
  case isTrue noRows =>
    have noneActive := List.isEmpty_iff.mp noRows
    refine ⟨0, world, rfl, by simp [noneActive], by simp [noneActive], ?_, rfl⟩
    exact fun row rowMem => .inl ⟨rowMem, not_activeOf rowMem noneActive⟩
  case isFalse =>
    obtain ⟨count, after, ran, adds⟩ := @run_revokeUserTokens deployment world
      worker userId tenantId reason (activeJtis world userId tenantId)
    rw [App.run_bind_of_ok ran]
    refine ⟨_, _, rfl, adds.bloom, adds.stream, fun row rowMem => ?_,
      adds.policies⟩
    simp only [perform, SessionStmt.perform, adds.sessions] at rowMem
    exact old_or_revoked rowMem

end SessionRevocation

end HexIam
