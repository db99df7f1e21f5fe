import HexIam.ConsentBinding

/-!
# The tenants of stored rows

A code, a refresh token and a federated identity each name a tenant next to
the users and clients they are for, which belong to tenants of their own.  This
file says when the tenants of a row agree, and which statements keep the rows
of a database so.  Its rules follow a program from one statement to the next:
clients stay, users keep their tenants, and coherent rows stay coherent.
-/

namespace HexIam

open StatementTree

namespace World

/-- The tenant of a client. -/
def clientTenant (world : World) (clientId : String) : Option String :=
  (world.clients.lookup clientId).map ClientRow.tenantId

/-- The tenant of a user. -/
def userTenant (world : World) (userId : String) : Option String :=
  (world.users.lookup userId).map UserRow.tenantId

variable {world : World}

theorem clientTenant_eq_some {clientId tenantId : String} :
    world.clientTenant clientId = some tenantId ↔
      ∃ client, world.clients.lookup clientId = some client ∧
        client.tenantId = tenantId := by
  simp [clientTenant]

theorem userTenant_eq_some {userId tenantId : String} :
    world.userTenant userId = some tenantId ↔
      ∃ user, world.users.lookup userId = some user ∧
        user.tenantId = tenantId := by
  simp [userTenant]

theorem userTenant_of_mem {user : UserRow} (userMem : user ∈ world.users) :
    world.userTenant user.id = some user.tenantId :=
  userTenant_eq_some.mpr
    ⟨user, KeyedTable.lookup_eq_some.mpr ⟨userMem, rfl⟩, rfl⟩

end World

namespace TenantCoherence

open ConsentBinding

/-! ## Rows -/

/-- The client and the user belong to the tenant. -/
structure Belongs (world : World) (clientId userId tenantId : String) : Prop where
  client : world.clientTenant clientId = some tenantId
  user : world.userTenant userId = some tenantId

/-- No other tenant has a client or a user of these ids. -/
def OfTenant (world : World) (clientId userId tenantId : String) : Prop :=
  (∀ client, world.clients.lookup clientId = some client →
    client.tenantId = tenantId) ∧
  ∀ user, world.users.lookup userId = some user → user.tenantId = tenantId

/-- Every stored code and refresh token belongs to the tenant it names, and
every federated identity is of a user of its tenant. -/
structure CoherentRows (world : World) : Prop where
  codes : ∀ row ∈ world.codes, Belongs world row.clientId row.userId row.tenantId
  refreshTokens : ∀ row ∈ world.refreshTokens,
    Belongs world row.clientId row.userId row.tenantId
  identities : ∀ row ∈ world.identities,
    world.userTenant row.userId = some row.tenantId

/-- How a request may move the world: clients stay as they are, users keep
their tenants, and coherent rows stay coherent. -/
structure Evolves (before after : World) : Prop where
  clients : after.clients = before.clients
  users : ∀ userId tenantId, before.userTenant userId = some tenantId →
    after.userTenant userId = some tenantId
  rows : CoherentRows before → CoherentRows after

instance : IsPreorder World Evolves where
  refl _ := ⟨rfl, fun _ _ held => held, id⟩
  trans _ _ _ first second :=
    ⟨second.clients.trans first.clients,
      fun _ _ held => second.users _ _ (first.users _ _ held),
      fun rows => second.rows (first.rows rows)⟩

section Evolves

variable {before after : World} {clientId userId tenantId : String}

theorem Evolves.clientTenant (evolves : Evolves before after) :
    after.clientTenant clientId = before.clientTenant clientId := by
  rw [World.clientTenant, evolves.clients, World.clientTenant]

theorem Evolves.belongs (evolves : Evolves before after)
    (belongs : Belongs before clientId userId tenantId) :
    Belongs after clientId userId tenantId :=
  ⟨evolves.clientTenant.trans belongs.client,
    evolves.users _ _ belongs.user⟩

end Evolves

/-! ## Statements -/

/-- What a statement must fulfil to keep the stored rows coherent. -/
def Fitting (world : World) : Stmt → Prop
  | .code (.insert row) => OfTenant world row.clientId row.userId row.tenantId
  | .refreshToken (.insert row) =>
      Belongs world row.clientId row.userId row.tenantId
  | .identity _ (.upsert _ tenantId _ userId _ _) =>
      world.userTenant userId = some tenantId
  | _ => True

section Statements

variable {deployment : Deployment} {world : World} {stmt : Stmt}

theorem perform_insert_user {db : Connection} {row : UserRow} :
    ((UserStmt.perform deployment db world (.insert row)).1 = .ok () ∧
      world.users.insert { row with lastModified := world.now } =
        some (UserStmt.perform deployment db world (.insert row)).2) ∨
    ((∃ error, (UserStmt.perform deployment db world (.insert row)).1 =
        .error error) ∧
      (UserStmt.perform deployment db world (.insert row)).2 = world.users) := by
  simp only [UserStmt.perform]
  split
  case h_2 error failed => exact .inr ⟨⟨error, rfl⟩, rfl⟩
  case h_1 table inserted =>
    simp only [require_bind_eq_ok] at inserted
    obtain ⟨-, -, -, -, inserted⟩ := inserted
    split at inserted
    case h_1 found =>
      cases inserted
      exact .inl ⟨rfl, found⟩
    case h_2 => cases inserted

/-- An accepted insert of a user adds the row to `users` and changes nothing
else. -/
theorem insert_user_eq_ok {db : Connection} {row : UserRow} {answer : Unit}
    {after : World}
    (ran : perform deployment (.user db (.insert row)) world =
      (.ok answer, after)) :
    world.users.insert { row with lastModified := world.now } =
        some after.users ∧
      after = { world with users := after.users } := by
  obtain ⟨answered, rfl⟩ := Prod.mk.inj ran
  rcases @perform_insert_user deployment world db row with
    ⟨-, added⟩ | ⟨⟨error, failed⟩, -⟩
  · exact ⟨added, rfl⟩
  · rw [failed] at answered
    cases answered

theorem userTenant_perform {userId tenantId : String}
    (held : world.userTenant userId = some tenantId) :
    (perform deployment stmt world).2.userTenant userId = some tenantId := by
  by_cases other : stmt.table = .users
  case neg => rwa [World.userTenant, users_perform deployment other]
  case pos =>
    cases stmt with
    | user db stmt =>
        cases stmt with
        | insert row =>
            obtain ⟨user, found, same⟩ := World.userTenant_eq_some.mp held
            obtain ⟨userMem, idEq⟩ := KeyedTable.lookup_eq_some.mp found
            refine World.userTenant_eq_some.mpr
              ⟨user, KeyedTable.lookup_eq_some.mpr ⟨?_, idEq⟩, same⟩
            rcases @perform_insert_user deployment world db row with
              ⟨-, inserted⟩ | ⟨-, unchanged⟩
            · exact (KeyedTable.mem_of_insert inserted).mpr (.inl userMem)
            · rw [← unchanged] at userMem
              exact userMem
        | _ => exact held
    | _ => cases other

theorem codes_fitting (fitting : Fitting world stmt) (rows : CoherentRows world) :
    ∀ row ∈ (perform deployment stmt world).2.codes,
      Belongs world row.clientId row.userId row.tenantId := by
  intro row rowMem
  by_cases other : stmt.table = .codes
  case neg => exact rows.codes row (codes_perform deployment other ▸ rowMem)
  case pos =>
    cases stmt with
    | code stmt =>
        cases stmt with
        | validate code clientId redirectUri => exact rows.codes row rowMem
        | markUsed code =>
            obtain ⟨held, heldMem, rowEq⟩ :=
              (KeyedTable.mem_update CodeRow.markUsed_code).mp rowMem
            have belongs := rows.codes held heldMem
            split at rowEq <;> rw [rowEq] <;> exact belongs
        | insert stored =>
            rcases @perform_insert_code world stored with
              ⟨storable, -, rowsEq⟩ | ⟨-, -, unchanged⟩
            · have rowMem : row ∈ world.codes.rows ++
                  [{ stored with used := false }] := rowsEq ▸ rowMem
              rcases List.mem_append.mp rowMem with old | new
              · exact rows.codes row old
              · rw [List.mem_singleton.mp new]
                obtain ⟨-, -, hasClient, hasUser, -⟩ := storable
                obtain ⟨client, found⟩ := Option.isSome_iff_exists.mp hasClient
                obtain ⟨user, seen⟩ := Option.isSome_iff_exists.mp hasUser
                exact ⟨World.clientTenant_eq_some.mpr
                  ⟨client, found, fitting.1 client found⟩,
                  World.userTenant_eq_some.mpr ⟨user, seen, fitting.2 user seen⟩⟩
            · exact rows.codes row (unchanged ▸ rowMem)
    | _ => cases other

theorem refreshTokens_fitting (fitting : Fitting world stmt)
    (rows : CoherentRows world) :
    ∀ row ∈ (perform deployment stmt world).2.refreshTokens,
      Belongs world row.clientId row.userId row.tenantId := by
  intro row rowMem
  by_cases other : stmt.table = .refreshTokens
  case neg =>
    exact rows.refreshTokens row (refreshTokens_perform deployment other ▸ rowMem)
  case pos =>
    cases stmt with
    | refreshToken stmt =>
        cases stmt with
        | validate jti clientId => exact rows.refreshTokens row rowMem
        | revoke jti =>
            obtain ⟨held, heldMem, rowEq⟩ :=
              (KeyedTable.mem_update RefreshTokenRow.revoke_jti).mp rowMem
            have belongs := rows.refreshTokens held heldMem
            split at rowEq <;> rw [rowEq] <;> exact belongs
        | insert stored =>
            rcases RefreshTokenStmt.perform_insert world stored with
              unchanged | inserted
            · exact rows.refreshTokens row (unchanged ▸ rowMem)
            · rcases (KeyedTable.mem_of_insert inserted).mp rowMem with old | rfl
              · exact rows.refreshTokens row old
              · exact fitting
    | _ => cases other

/-- A link is stored or its email is changed, or the statement fails. -/
theorem perform_upsert {db : Connection}
    {id tenantId providerId userId subject : String} {email : Option String} :
    ((IdentityStmt.perform db world
        (.upsert id tenantId providerId userId (some subject) email)).1 = .ok () ∧
      (IdentityStmt.perform db world
        (.upsert id tenantId providerId userId (some subject) email)).2 =
        world.identities.upsert
          ⟨id, tenantId, providerId, userId, subject, email⟩
          (IdentityRow.setEmail email) (IdentityRow.setEmail_key email)) ∨
    (((∃ error, (IdentityStmt.perform db world
          (.upsert id tenantId providerId userId (some subject) email)).1 =
            .error error) ∧
        world.identities.lookup (tenantId, providerId, subject) = none) ∧
      (IdentityStmt.perform db world
        (.upsert id tenantId providerId userId (some subject) email)).2 =
        world.identities) := by
  simp only [IdentityStmt.perform]
  split
  case isTrue => exact .inl ⟨rfl, rfl⟩
  case isFalse absent =>
    split
    case h_1 => exact .inl ⟨rfl, rfl⟩
    case h_2 error refused =>
      exact .inr ⟨⟨⟨error, rfl⟩, Option.not_isSome_iff_eq_none.mp absent⟩, rfl⟩

/-- Each link after an upsert is an old one, the new one, or an old one with
another email. -/
theorem mem_perform_upsert {db : Connection}
    {id tenantId providerId userId subject : String} {email : Option String}
    {row : IdentityRow}
    (rowMem : row ∈ (IdentityStmt.perform db world
      (.upsert id tenantId providerId userId (some subject) email)).2) :
    row ∈ world.identities ∨
      row = ⟨id, tenantId, providerId, userId, subject, email⟩ ∨
      ∃ held ∈ world.identities, row = held.setEmail email := by
  have upserted : row ∈ world.identities ∨
      row ∈ world.identities.upsert
        ⟨id, tenantId, providerId, userId, subject, email⟩
        (IdentityRow.setEmail email) (IdentityRow.setEmail_key email) := by
    rcases @perform_upsert world db id tenantId providerId userId subject email
      with ⟨-, upserted⟩ | ⟨-, unchanged⟩
    · exact .inr (upserted ▸ rowMem)
    · exact .inl (unchanged ▸ rowMem)
  rcases upserted with old | upserted
  · exact .inl old
  · rcases (KeyedTable.mem_upsert _).mp upserted with
      ⟨old, -⟩ | ⟨-, isNew⟩ | ⟨held, heldMem, -, changed⟩
    · exact .inl old
    · exact .inr (.inl isNew)
    · exact .inr (.inr ⟨held, heldMem, changed⟩)

theorem identities_fitting (fitting : Fitting world stmt)
    (rows : CoherentRows world) :
    ∀ row ∈ (perform deployment stmt world).2.identities,
      world.userTenant row.userId = some row.tenantId := by
  intro row rowMem
  by_cases other : stmt.table = .identities
  case neg =>
    exact rows.identities row (identities_perform deployment other ▸ rowMem)
  case pos =>
    cases stmt with
    | identity db stmt =>
        cases stmt with
        | linkedUser tenantId providerId subject =>
            exact rows.identities row rowMem
        | upsert id tenantId providerId userId subject email =>
            cases subject with
            | none => exact rows.identities row rowMem
            | some subject =>
                rcases mem_perform_upsert rowMem with
                  held | rfl | ⟨kept, keptMem, rfl⟩
                · exact rows.identities row held
                · exact fitting
                · exact rows.identities kept keptMem
    | _ => cases other

/-- A fitting statement moves the world as a request may. -/
theorem evolves_perform (fitting : Fitting world stmt) :
    Evolves world (perform deployment stmt world).2 := by
  have keeps (clientId userId tenantId : String)
      (belongs : Belongs world clientId userId tenantId) :
      Belongs (perform deployment stmt world).2 clientId userId tenantId :=
    ⟨by rw [World.clientTenant, clients_perform]; exact belongs.client,
      userTenant_perform belongs.user⟩
  refine ⟨clients_perform deployment, fun _ _ => userTenant_perform, ?_⟩
  intro rows
  constructor
  · exact fun row rowMem =>
      keeps _ _ _ (codes_fitting fitting rows row rowMem)
  · exact fun row rowMem =>
      keeps _ _ _ (refreshTokens_fitting fitting rows row rowMem)
  · exact fun row rowMem =>
      userTenant_perform (identities_fitting fitting rows row rowMem)

end Statements

/-! ## Programs -/

/-- The program moves the world as a request may, and `post` holds of what it
returns. -/
abbrev Keeps {α : Type} (deployment : Deployment) (program : App α)
    (world : World) (post : α → World → Prop) : Prop :=
  App.Ensures deployment Evolves program world post

section Rules

variable {deployment : Deployment} {world : World} {α β : Type}
variable {post : β → World → Prop}

theorem keeps_ask_bind {stmt : Stmt} {continuation : stmt.Resp → App β}
    (fitting : Fitting world stmt)
    (onValue : ∀ answer after, (perform deployment stmt world).1 = .ok answer →
      (perform deployment stmt world).2 = after → Evolves world after →
      Keeps deployment (continuation answer) after post) :
    Keeps deployment (ask stmt >>= continuation) world post :=
  App.ensures_ask_bind (evolves_perform fitting) onValue

theorem keeps_of_uses (tables : List Table) {program : App α}
    (uses : Uses tables program) (codes : .codes ∉ tables)
    (refreshTokens : .refreshTokens ∉ tables)
    (identities : .identities ∉ tables) :
    Keeps deployment program world fun _ _ => True := by
  refine Within.ensures uses fun stmt before mem => evolves_perform ?_
  cases stmt with
  | code stmt => exact absurd mem codes
  | refreshToken stmt => exact absurd mem refreshTokens
  | identity db stmt => exact absurd mem identities
  | _ => trivial

end Rules
end TenantCoherence

end HexIam
