import HexIam.PagedQuery
import HexIam.SessionStreamAgreement
import HexIam.TenantLists

/-!
# Listing and cleaning up sessions

`get_active_sessions` and `cleanup_expired_sessions`, with the statements that
the other functions of `session_service` share with the rest of the service.
The column `created_at` is kept beside the table; PostgreSQL may arrange rows
of one time differently in each query.
-/

namespace HexIam

open StatementTree

namespace SessionListing

/-! ## Statements -/

/-- The world and the column `created_at` of `user_sessions`. -/
structure SessionStore where
  world : World
  createdAt : String → Int

/-- The columns a page of sessions selects. -/
structure ListedSession where
  jti : String
  hasDeviceInfo : Bool
  ipAddress : Option String
  createdAt : Int
  expiresAt : Int
  deriving DecidableEq, Repr

/-- The ranks of a query arrange the rows of one `created_at`. -/
inductive StoreStmt : Type
  | shared (stmt : Stmt)
  | cleanup
  | countActive (userId tenantId : String)
  | listActive (userId tenantId : String) (pageSize offset : Int)
      (rank : SessionRow → Nat)

@[reducible]
def StoreStmt.Resp : StoreStmt → Type
  | .shared stmt => stmt.Resp
  | .cleanup => Nat
  | .countActive .. => Nat
  | .listActive .. => List ListedSession

namespace SessionStore

/-- `WHERE user_id = $1 AND tenant_id = $2 AND revoked_at IS NULL AND
expires_at > NOW()`. -/
def activeOf (store : SessionStore) (userId tenantId : String) :
    List SessionRow :=
  store.world.userSessions.select fun row =>
    row.userId = userId && row.tenantId = tenantId && row.active &&
      store.world.now < row.expiresAt

/-- `expires_at < NOW() - INTERVAL '7 days'`, in seconds. -/
def longExpired (now : Int) (row : SessionRow) : Bool :=
  row.expiresAt < now - 7 * 24 * 60 * 60

/-- `DEFAULT NOW()` for a row that a statement adds. -/
def stamp (store : SessionStore) : Stmt → String → Int
  | .session (.insert row), jti =>
      if jti = row.jti && (store.world.userSessions.lookup jti).isNone then
        store.world.now
      else store.createdAt jti
  | _, jti => store.createdAt jti

def listed (store : SessionStore) (row : SessionRow) : ListedSession where
  jti := row.jti
  hasDeviceInfo := row.deviceInfo.isSome
  ipAddress := row.ipAddress
  createdAt := store.createdAt row.jti
  expiresAt := row.expiresAt

end SessionStore

/-- The answer of a statement and the store after it. -/
def StoreStmt.perform (deployment : Deployment) :
    (stmt : StoreStmt) → SessionStore → Except Exn stmt.Resp × SessionStore
  | .shared stmt, store =>
      let outcome := HexIam.perform deployment stmt store.world
      (outcome.1, ⟨outcome.2, store.stamp stmt⟩)
  | .cleanup, store =>
      let expired := SessionStore.longExpired store.world.now
      (.ok (store.world.userSessions.select expired).length,
        { store with world := { store.world with
          userSessions := store.world.userSessions.delete expired } })
  | .countActive userId tenantId, store =>
      (.ok (store.activeOf userId tenantId).length, store)
  | .listActive userId tenantId pageSize offset rank, store =>
      if pageSize < 0 then
        (.error (.database "LIMIT must not be negative"), store)
      else if offset < 0 then
        (.error (.database "OFFSET must not be negative"), store)
      else
        let rows := PagedQuery.arrange rank (fun row => store.createdAt row.jti)
          (store.activeOf userId tenantId)
        (.ok ((PagedQuery.window rows offset.toNat pageSize.toNat).map
          store.listed), store)

/-! ## Functions -/

abbrev Code := StatementTree StoreStmt StoreStmt.Resp Exn

def send (stmt : StoreStmt) : Code stmt.Resp :=
  .perform stmt .done

/-- A program of the other functions of `session_service`. -/
def shared {α : Type} (program : App α) : Code α :=
  program.embed StoreStmt.shared fun _ answer => answer

structure SessionInfo where
  jti : String
  hasDeviceInfo : Bool
  ipAddress : Option String
  createdAt : String
  expiresAt : String
  deriving DecidableEq, Repr

structure SessionListResponse where
  sessions : List SessionInfo
  pagination : TenantLists.PaginationInfo
  deriving DecidableEq, Repr

def ListedSession.info (isoformat : Int → String) (row : ListedSession) :
    SessionInfo where
  jti := row.jti
  hasDeviceInfo := row.hasDeviceInfo
  ipAddress := row.ipAddress
  createdAt := isoformat row.createdAt
  expiresAt := isoformat row.expiresAt

def getActiveSessions (isoformat : Int → String) (rank : SessionRow → Nat)
    (userId tenantId : String) (page pageSize : Int) :
    Code SessionListResponse := do
  let offset := (page - 1) * pageSize
  let total ← send (.countActive userId tenantId)
  let rows ← send (.listActive userId tenantId pageSize offset rank)
  return {
    sessions := rows.map (ListedSession.info isoformat)
    pagination := {
      page := page
      pageSize := pageSize
      totalItems := total
      totalPages := if 0 < pageSize then (total + pageSize - 1) / pageSize else 0 } }

def cleanupExpiredSessions : Code Nat :=
  send .cleanup

end SessionListing

end HexIam
