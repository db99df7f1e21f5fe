import HexIam.Footprint
import HexIam.ManagementStatement
import HexIam.TableHistory

/-!
# What happens to the rows that are credentials

Authorization codes, refresh tokens, federation transactions and invitations
are inserted, marked as spent, and removed.  This file says once what any
statement of the service can do to them.
-/

namespace HexIam

open StatementTree KeyedTable

namespace RowHistory

/-- A statement of the service with its answer. -/
abbrev Entry :=
  LogEntry ManagementStmt ManagementStmt.Resp Exn

/-- The statement deletes clients, with their codes and transactions. -/
def DeletesClients (entry : Entry) : Prop :=
  ∃ id tenantId, entry.1 = .client (.delete id tenantId)

/-- The statement deletes providers, with their transactions. -/
def DeletesProviders (entry : Entry) : Prop :=
  ∃ tenantId id, entry.1 = .provider (.delete tenantId id)

/-- What a statement does to the rows that are credentials. -/
structure Moved (entry : Entry) (before after : World) : Prop where
  codes : Moves (fun old row => row = old.markUsed)
    (fun row => ∃ inserted : CodeRow, row = { inserted with used := false } ∧
      entry = ⟨.core (.code (.insert inserted)), .ok ()⟩)
    (fun _ => DeletesClients entry) before.codes after.codes
  refreshTokens : Moves (fun old row => row = old.revoke)
    (fun row => ∃ inserted : RefreshTokenRow,
      row = { inserted with revoked := false, createdAt := before.now } ∧
      entry = ⟨.core (.refreshToken (.insert inserted)), .ok ()⟩)
    (fun _ => False) before.refreshTokens after.refreshTokens
  transactions : Moves (fun old row => row = old.consume before.now)
    (fun row => (∃ inserted : TransactionRow,
      row = { inserted with consumedAt := none } ∧
      entry = ⟨.core (.transaction (.insert inserted)), .ok ()⟩) ∧
      ∀ held ∈ before.transactions, held.providerId = row.providerId →
        held.upstreamState ≠ row.upstreamState)
    (fun _ => DeletesClients entry ∨ DeletesProviders entry)
    before.transactions after.transactions
  invitations : Moves
    (fun old row => row = old.accept before.now ∨ row = old.clearClient)
    (fun row => ∃ inserted : InvitationRow,
      row = { inserted with acceptedAt := none } ∧
      entry = ⟨.invitation (.insert inserted), .ok ()⟩)
    (fun old => old.unaccepted = true) before.invitations after.invitations
  now : after.now = before.now

section Statements

variable {deployment : Deployment} {world after : World} {entry : Entry}

/-- A statement that leaves the tables of credentials as they are. -/
theorem Moved.of_eq (codes : after.codes = world.codes)
    (refreshTokens : after.refreshTokens = world.refreshTokens)
    (transactions : after.transactions = world.transactions)
    (invitations : after.invitations = world.invitations)
    (now : after.now = world.now) : Moved entry world after where
  codes := codes ▸ .refl
  refreshTokens := refreshTokens ▸ .refl
  transactions := transactions ▸ .refl
  invitations := invitations ▸ .refl
  now := now

theorem insert_code (world : World) (row : CodeRow) :
    (CodeStmt.perform world (.insert row)).2 = world.codes ∨
      (CodeStmt.perform world (.insert row)).1 = .ok () ∧
      world.codes.insert { row with used := false } =
        some (CodeStmt.perform world (.insert row)).2 := by
  simp only [CodeStmt.perform]
  split
  case h_2 => exact .inl rfl
  case h_1 table inserted =>
    simp only [require_bind_eq_ok] at inserted
    obtain ⟨-, -, -, -, -, inserted⟩ := inserted
    split at inserted
    case h_1 found => exact .inr ⟨rfl, Except.ok.inj inserted ▸ found⟩
    case h_2 => cases inserted

theorem moved_code (stmt : CodeStmt) :
    Moved ⟨.core (.code stmt), (perform deployment (.code stmt) world).1⟩ world
      (perform deployment (.code stmt) world).2 where
  codes := by
    cases stmt with
    | insert row =>
        rcases insert_code world row with kept | ⟨answered, inserted⟩
        · exact kept ▸ .refl
        · exact .insert inserted ⟨row, rfl, congrArg (Sigma.mk _) answered⟩
    | validate code clientId redirectUri => exact .refl
    | markUsed code => exact .update CodeRow.markUsed_code fun row _ => rfl
  refreshTokens := .refl
  transactions := .refl
  invitations := .refl
  now := rfl

/-- An insert leaves the refresh tokens as they are, or succeeds and adds the
row. -/
theorem insert_refreshToken (world : World) (row : RefreshTokenRow) :
    (RefreshTokenStmt.perform world (.insert row)).2 = world.refreshTokens ∨
      (RefreshTokenStmt.perform world (.insert row)).1 = .ok () ∧
      world.refreshTokens.insert
        { row with revoked := false, createdAt := world.now } =
          some (RefreshTokenStmt.perform world (.insert row)).2 := by
  cases answered : (RefreshTokenStmt.perform world (.insert row)).1 with
  | ok value => exact .inr ⟨rfl, RefreshTokenStmt.insert_of_ok answered⟩
  | error error =>
      refine .inl ?_
      simp only [RefreshTokenStmt.perform] at answered ⊢
      split at answered
      · cases answered
      · rfl

theorem moved_refreshToken (stmt : RefreshTokenStmt) :
    Moved ⟨.core (.refreshToken stmt),
      (perform deployment (.refreshToken stmt) world).1⟩ world
      (perform deployment (.refreshToken stmt) world).2 where
  codes := .refl
  refreshTokens := by
    cases stmt with
    | insert row =>
        rcases insert_refreshToken world row with kept | ⟨answered, inserted⟩
        · exact kept ▸ .refl
        · exact .insert inserted ⟨row, rfl, congrArg (Sigma.mk _) answered⟩
    | validate jti clientId => exact .refl
    | revoke jti => exact .update RefreshTokenRow.revoke_jti fun row _ => rfl
  transactions := .refl
  invitations := .refl
  now := rfl

/-- An insert leaves the transactions as they are, or succeeds and adds the row
under a state that no transaction of its provider has. -/
theorem insert_transaction (world : World) (row : TransactionRow) :
    (TransactionStmt.perform world (.insert row)).1 ≠ .ok () ∧
        (TransactionStmt.perform world (.insert row)).2 = world.transactions ∨
      (TransactionStmt.perform world (.insert row)).1 = .ok () ∧
      world.transactions.insert { row with consumedAt := none } =
        some (TransactionStmt.perform world (.insert row)).2 ∧
      ∀ held ∈ world.transactions, held.providerId = row.providerId →
        held.upstreamState ≠ row.upstreamState := by
  simp only [TransactionStmt.perform]
  split
  case h_2 => exact .inl ⟨fun same => (by cases same), rfl⟩
  case h_1 table inserted =>
    simp only [require_bind_eq_ok] at inserted
    obtain ⟨free, -, inserted⟩ := inserted
    split at inserted
    case h_2 => cases inserted
    case h_1 found =>
      refine .inr ⟨rfl, Except.ok.inj inserted ▸ found, ?_⟩
      intro held heldMem sameProvider sameState
      have selected : held ∈ world.transactions.select fun other =>
          other.providerId = row.providerId &&
            other.upstreamState = row.upstreamState :=
        KeyedTable.mem_select.mpr ⟨heldMem, by simp [sameProvider, sameState]⟩
      rw [List.isEmpty_iff.mp free] at selected
      exact List.not_mem_nil selected

theorem moved_transaction (stmt : TransactionStmt) :
    Moved ⟨.core (.transaction stmt),
      (perform deployment (.transaction stmt) world).1⟩ world
      (perform deployment (.transaction stmt) world).2 where
  codes := .refl
  refreshTokens := .refl
  transactions := by
    cases stmt with
    | insert row =>
        rcases insert_transaction world row with
          ⟨-, kept⟩ | ⟨answered, inserted, free⟩
        · exact kept ▸ .refl
        · exact .insert inserted
            ⟨⟨row, rfl, congrArg (Sigma.mk _) answered⟩, free⟩
    | byId id => exact .refl
    | byState providerId upstreamState => exact .refl
    | consume id =>
        exact .update (TransactionRow.consume_id world.now) fun row _ => rfl
  invitations := .refl
  now := rfl

/-- An insert leaves the invitations as they are, or succeeds and adds the
row. -/
theorem insert_invitation (world : World) (row : InvitationRow) :
    (InvitationStmt.perform world (.insert row)).2 = world.invitations ∨
      (InvitationStmt.perform world (.insert row)).1 = .ok () ∧
      world.invitations.insert { row with acceptedAt := none } =
        some (InvitationStmt.perform world (.insert row)).2 := by
  simp only [InvitationStmt.perform]
  split
  case h_2 => exact .inl rfl
  case h_1 table inserted =>
    simp only [require_bind_eq_ok] at inserted
    obtain ⟨-, -, -, -, inserted⟩ := inserted
    split at inserted
    case h_1 found => exact .inr ⟨rfl, Except.ok.inj inserted ▸ found⟩
    case h_2 => cases inserted

theorem moved_invitation (stmt : InvitationStmt) :
    Moved ⟨.invitation stmt, (manage deployment (.invitation stmt) world).1⟩
      world (manage deployment (.invitation stmt) world).2 where
  codes := .refl
  refreshTokens := .refl
  transactions := .refl
  invitations := by
    cases stmt with
    | insert row =>
        rcases insert_invitation world row with kept | ⟨answered, inserted⟩
        · exact kept ▸ .refl
        · exact .insert inserted ⟨row, rfl, congrArg (Sigma.mk _) answered⟩
    | pendingFor email tenantId => exact .refl
    | pending id => exact .refl
    | accept id =>
        exact .update (InvitationRow.accept_id world.now) fun row _ => .inl rfl
    | deletePending id tenantId =>
        refine .delete fun row selected => ?_
        simp only [Bool.and_eq_true] at selected
        exact selected.2
  now := rfl

/-- A statement of the login and token endpoints. -/
theorem moved_core (stmt : Stmt) :
    Moved ⟨.core stmt, (perform deployment stmt world).1⟩ world
      (perform deployment stmt world).2 := by
  cases stmt with
  | code stmt => exact moved_code stmt
  | refreshToken stmt => exact moved_refreshToken stmt
  | transaction stmt => exact moved_transaction stmt
  | redis stmt =>
      obtain ⟨stream, workers, same⟩ := perform_redis deployment stmt world
      rw [same]
      exact .of_eq rfl rfl rfl rfl rfl
  | _ => exact .of_eq rfl rfl rfl rfl rfl

theorem moved_client (stmt : ClientUpdateStmt) :
    Moved ⟨.client stmt, (stmt.perform world).1⟩ world (stmt.perform world).2 := by
  cases stmt with
  | delete id tenantId =>
      exact {
        codes := .delete fun _ _ => ⟨id, tenantId, rfl⟩
        refreshTokens := .refl
        transactions := .delete fun _ _ => .inl ⟨id, tenantId, rfl⟩
        invitations :=
          .update InvitationRow.clearClient_id fun _ _ => .inr rfl
        now := rfl }
  | byId id tenantId => exact .of_eq rfl rfl rfl rfl rfl
  | insert row =>
      simp only [ClientUpdateStmt.perform]
      split <;> exact .of_eq rfl rfl rfl rfl rfl
  | update id tenantId name redirectUris scopes =>
      simp only [ClientUpdateStmt.perform]
      split <;> exact .of_eq rfl rfl rfl rfl rfl
  | rotateSecret id tenantId clientSecret =>
      simp only [ClientUpdateStmt.perform]
      split <;> exact .of_eq rfl rfl rfl rfl rfl

theorem moved_provider (stmt : ProviderUpdateStmt) :
    Moved ⟨.provider stmt, (stmt.perform world).1⟩ world
      (stmt.perform world).2 := by
  cases stmt with
  | delete tenantId id =>
      exact {
        codes := .refl
        refreshTokens := .refl
        transactions := .delete fun _ _ => .inr ⟨tenantId, id, rfl⟩
        invitations := .refl
        now := rfl }
  | insert row =>
      simp only [ProviderUpdateStmt.perform]
      split <;> exact .of_eq rfl rfl rfl rfl rfl
  | update tenantId id row =>
      simp only [ProviderUpdateStmt.perform]
      split
      · exact .of_eq rfl rfl rfl rfl rfl
      · split <;> exact .of_eq rfl rfl rfl rfl rfl

/-- What any statement of the service does to the rows that are
credentials. -/
theorem moved_manage (stmt : ManagementStmt) :
    Moved ⟨stmt, (manage deployment stmt world).1⟩ world
      (manage deployment stmt world).2 := by
  cases stmt with
  | core stmt => exact moved_core stmt
  | client stmt => exact moved_client stmt
  | invitation stmt => exact moved_invitation stmt
  | provider stmt => exact moved_provider stmt
  | _ => exact .of_eq rfl rfl rfl rfl rfl

end Statements

end RowHistory

end HexIam
