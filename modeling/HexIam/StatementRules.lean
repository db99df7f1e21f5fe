import HexIam.OidcService

/-!
# What single statements give

The answer of a statement and the world after it, as rules for `App.Gives`.  A
statement that only reads leaves the world as it is and answers with what the
table holds.
-/

namespace HexIam

/-! ## What the tables hold -/

namespace World

/-- The unused, unexpired code that a redemption selects. -/
def selectedCode (world : World) (code clientId redirectUri : String) :
    Option CodeRow :=
  (world.codes.lookup code).filter fun row =>
    row.clientId = clientId && row.redirectUri = redirectUri && !row.used &&
      world.now < row.expiresAt

/-- The unrevoked, unexpired refresh token of a client. -/
def liveRefreshToken (world : World) (jti clientId : String) :
    Option RefreshTokenRow :=
  (world.refreshTokens.lookup jti).filter fun row =>
    row.clientId = clientId && !row.revoked && world.now < row.expiresAt

/-- The user that a connection sees under an id. -/
def seenUser (world : World) (db : Connection) (id : String) : Option UserRow :=
  (world.users.lookup id).filter fun user => db.sees user.tenantId

/-- The policies of a user that count now, or the error of a cast. -/
def currentPolicies (world : World) (deployment : Deployment) (db : Connection)
    (userId tenantId : String) : Except Exn (List PolicyDoc) :=
  validPolicies deployment world.now
    (world.userPolicies.select fun row => row.userId = userId &&
      row.tenantId = tenantId && db.sees row.tenantId)

/-- The constraints of `refresh_tokens` let a new token in. -/
def AcceptsRefreshToken (world : World) (jti userId tenantId clientId : String) :
    Prop :=
  jti.length ≤ 255 ∧ clientId.length ≤ 100 ∧ world.hasUser userId = true ∧
    world.hasTenant tenantId = true ∧
    ∀ held ∈ world.refreshTokens, held.jti ≠ jti

end World

namespace App

variable {deployment : Deployment} {world : World} {db : Connection}

/-! ## Rules -/

/-- A statement that answers and leaves the world gives its answer. -/
theorem gives_answer {stmt : Stmt} {answer : stmt.Resp} {after : World}
    {post : stmt.Resp → World → Prop}
    (performed : perform deployment stmt world = (.ok answer, after)) :
    App.Gives deployment (ask stmt) world post ↔ post answer after :=
  StatementTree.gives_of_run performed

@[simp]
theorem gives_activeClient {id : Option String}
    {post : Option ClientRow → World → Prop} :
    App.Gives deployment (ask (.client (.active id))) world post ↔
      post (id.bind world.activeClient) world :=
  gives_answer rfl

@[simp]
theorem gives_tenantOfClient {id : String}
    {post : Option String → World → Prop} :
    App.Gives deployment (ask (.client (.tenantOf id))) world post ↔
      post ((world.clients.lookup id).map ClientRow.tenantId) world :=
  gives_answer rfl

@[simp]
theorem gives_validateCode {code clientId redirectUri : String}
    {post : Option CodeRow → World → Prop} :
    App.Gives deployment
        (ask (.code (.validate (some code) (some clientId) (some redirectUri))))
        world post ↔
      post (world.selectedCode code clientId redirectUri) world := by
  apply gives_answer
  simp [perform, CodeStmt.perform, World.selectedCode]

@[simp]
theorem gives_markUsed {code : Option String} {post : Unit → World → Prop} :
    App.Gives deployment (ask (.code (.markUsed code))) world post ↔
      post () { world with codes := (CodeStmt.perform world (.markUsed code)).2 } :=
  gives_answer rfl

@[simp]
theorem gives_userById {id : String} {post : Option UserRow → World → Prop} :
    App.Gives deployment (ask (.user db (.byId id))) world post ↔
      post (world.seenUser db id) world :=
  gives_answer rfl

theorem gives_withPolicies {email : String}
    {post : List (UserRow × Option PolicyDoc) → World → Prop} :
    App.Gives deployment (ask (.user db (.withPolicies email))) world post ↔
      ∃ rows, world.joinAll deployment db (world.usersWithEmail db email) =
        .ok rows ∧ post rows world :=
  Iff.rfl

theorem gives_checkModified {email : String} {iat : Int}
    {post : Bool → World → Prop} :
    App.Gives deployment (ask (.user db (.checkModified email iat))) world post ↔
      ∃ time, deployment.bindTimestamp iat = some time ∧
        post ((world.usersWithEmail db email).any fun user =>
          time < user.lastModified) world := by
  refine Iff.trans App.gives_ask ?_
  simp only [perform, UserStmt.perform]
  cases deployment.bindTimestamp iat <;> simp

@[simp]
theorem gives_validPolicies {userId tenantId : String}
    {post : List PolicyDoc → World → Prop} :
    App.Gives deployment (ask (.policy db (.valid userId tenantId))) world post ↔
      ∃ policies, world.currentPolicies deployment db userId tenantId =
        .ok policies ∧ post policies world :=
  Iff.rfl

@[simp]
theorem gives_validateRefreshToken {jti clientId : String}
    {post : Option RefreshTokenRow → World → Prop} :
    App.Gives deployment
        (ask (.refreshToken (.validate (some jti) (some clientId)))) world post ↔
      post (world.liveRefreshToken jti clientId) world := by
  apply gives_answer
  simp [perform, RefreshTokenStmt.perform, World.liveRefreshToken]

@[simp]
theorem gives_revokeRefreshToken {jti : Option String}
    {post : Unit → World → Prop} :
    App.Gives deployment (ask (.refreshToken (.revoke jti))) world post ↔
      post () { world with
        refreshTokens := (RefreshTokenStmt.perform world (.revoke jti)).2 } :=
  gives_answer rfl

@[simp]
theorem gives_bloomHas {worker : Nat} {jti : String}
    {post : Bool → World → Prop} :
    App.Gives deployment (ask (.redis (.bloomHas worker jti))) world post ↔
      post (jti ∈ world.bloom worker) world :=
  gives_answer rfl

/-- A refresh token is stored when the constraints let it in. -/
theorem perform_insert_refreshToken {row : RefreshTokenRow} :
    (RefreshTokenStmt.perform world (.insert row)).1 = .ok () ↔
      world.AcceptsRefreshToken row.jti row.userId row.tenantId row.clientId := by
  simp only [RefreshTokenStmt.perform, World.AcceptsRefreshToken]
  split
  case h_1 table inserted =>
    simp only [require_bind_eq_ok, Bool.and_eq_true, decide_eq_true_eq] at inserted
    obtain ⟨⟨shortJti, shortClient⟩, user, tenant, inserted⟩ := inserted
    split at inserted
    case h_1 insertEq =>
      have free := (KeyedTable.insert_eq_some.mp insertEq).1
      exact iff_of_true rfl ⟨shortJti, shortClient, user, tenant, free⟩
    case h_2 => cases inserted
  case h_2 error failed =>
    refine iff_of_false (fun isOk => ?_) ?_
    · cases isOk
    rintro ⟨shortJti, shortClient, user, tenant, free⟩
    cases insertEq : world.refreshTokens.insert
        { row with revoked := false, createdAt := world.now } with
    | none =>
        obtain ⟨held, heldMem, same⟩ := KeyedTable.insert_eq_none.mp insertEq
        exact free held heldMem same
    | some table =>
        simp [require, shortJti, shortClient, user, tenant, insertEq, bind,
          Except.bind] at failed

theorem gives_insertRefreshToken {row : RefreshTokenRow}
    {post : Unit → World → Prop} :
    App.Gives deployment (ask (.refreshToken (.insert row))) world post ↔
      world.AcceptsRefreshToken row.jti row.userId row.tenantId row.clientId ∧
        post () { world with
          refreshTokens := (RefreshTokenStmt.perform world (.insert row)).2 } := by
  rw [← perform_insert_refreshToken]
  constructor
  · rintro ⟨⟨⟩, answered, holds⟩
    exact ⟨answered, holds⟩
  · rintro ⟨answered, holds⟩
    exact ⟨(), answered, holds⟩

end App

end HexIam
