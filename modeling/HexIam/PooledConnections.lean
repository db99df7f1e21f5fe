import HexIam.CallPool
import HexIam.Management
import HexIam.AuthorizationFlow
import HexIam.LogRules
import HexIam.RunRefinement

/-!
# Pooled connections

`get_database_pool` as it is: requests share the connections of a pool, and the
tenant of a request is a setting of the connection it has acquired.  A request
sets the tenant after acquiring the connection, and clears it before returning
it only if its handler returns; what the pool itself does to a returned
connection is left open.  The rest of the development passes each handler its
connection as a value, and this file shows that a handler cannot tell the
difference.
-/

namespace HexIam

open StatementTree CallPool GuardedRun

namespace PooledConnections

/-! ## Requests -/

/-- A request of an endpoint that depends on `get_database_pool`. -/
structure PooledRequest (α : Type) where
  tenantHeader : Option String
  queryClientId : Option String
  formClientId : PyValue
  handler : Connection → ManagementApp α

/-- The end of `get_database_pool`: the connection of the tenant that was
found. -/
def connectionOf (tenantId : Option String) : ManagementApp Connection :=
  if given tenantId then return .forTenant (tenantId.getD "")
  else throw (.app .businessValidation "Tenant ID or valid client_id required")

namespace PooledRequest

variable {α : Type}

/-- The part of `get_database_pool` that finds the tenant. -/
def tenant (request : PooledRequest α) : ManagementApp (Option String) :=
  ManagementApp.core (requestTenant request.tenantHeader request.queryClientId
    request.formClientId)

/-- The request as the rest of the development has it. -/
def program (request : PooledRequest α) : ManagementApp α := do
  let db ← ManagementApp.core (getDatabasePool request.tenantHeader
    request.queryClientId request.formClientId)
  request.handler db

end PooledRequest

/-! ## Statements on a connection -/

/-- The connection a statement runs on, when the handler's own connection has
the settings of another. -/
def rebind (own actual db : Connection) : Connection :=
  if db = own then actual else db

@[simp]
theorem rebind_self (own db : Connection) : rebind own own db = db := by
  unfold rebind
  split
  · next same => exact same.symm
  · rfl

/-- Perform a statement of a handler whose connection has the settings of
another. -/
def manageOn (deployment : Deployment) (own actual : Connection) :
    (stmt : ManagementStmt) → World → Except Exn stmt.Resp × World
  | .core (.user db stmt), world =>
      manage deployment (.core (.user (rebind own actual db) stmt)) world
  | .core (.policy db stmt), world =>
      manage deployment (.core (.policy (rebind own actual db) stmt)) world
  | .core (.template db stmt), world =>
      manage deployment (.core (.template (rebind own actual db) stmt)) world
  | .core (.identity db stmt), world =>
      manage deployment (.core (.identity (rebind own actual db) stmt)) world
  | .tenant db stmt, world =>
      manage deployment (.tenant (rebind own actual db) stmt) world
  | .verification db stmt, world =>
      manage deployment (.verification (rebind own actual db) stmt) world
  | .template db stmt, world =>
      manage deployment (.template (rebind own actual db) stmt) world
  | stmt, world => manage deployment stmt world

theorem manageOn_self (deployment : Deployment) (own : Connection)
    (stmt : ManagementStmt) (world : World) :
    manageOn deployment own own stmt world = manage deployment stmt world := by
  -- The type of the answer does not depend on the connection.
  have rebound {β : Type} (run : Connection → β) (db : Connection) :
      run (rebind own own db) = run db :=
    congrArg run (rebind_self own db)
  cases stmt with
  | core stmt =>
      cases stmt with
      | user db stmt =>
          exact @rebound (Except Exn stmt.Resp × World)
            (fun db => manage deployment (.core (.user db stmt)) world) db
      | policy db stmt =>
          exact @rebound (Except Exn stmt.Resp × World)
            (fun db => manage deployment (.core (.policy db stmt)) world) db
      | template db stmt =>
          exact @rebound (Except Exn stmt.Resp × World)
            (fun db => manage deployment (.core (.template db stmt)) world) db
      | identity db stmt =>
          exact @rebound (Except Exn stmt.Resp × World)
            (fun db => manage deployment (.core (.identity db stmt)) world) db
      | _ => rfl
  | tenant db stmt =>
      exact @rebound (Except Exn stmt.Resp × World)
        (fun db => manage deployment (.tenant db stmt) world) db
  | verification db stmt =>
      exact @rebound (Except Exn stmt.Resp × World)
        (fun db => manage deployment (.verification db stmt) world) db
  | template db stmt =>
      exact @rebound (Except Exn stmt.Resp × World)
        (fun db => manage deployment (.template db stmt) world) db
  | _ => rfl

/-! ## The pool -/

/-- A connection of the pool: its `app.tenant_id` and the request that has
acquired it. -/
structure PooledConnection where
  setting : Option String := none
  holder : Option Nat := none

/-- How far a request has come: it looks up the tenant of a client, on a
temporary connection; it waits for a connection; it has one whose tenant is
still to be set; its handler runs; the handler has returned; it gives the
connection back; it has ended. -/
inductive Phase (α : Type) : Type
  | resolving (rest : ManagementApp (Option String)) (temporary : Option Nat)
  | waiting (tenantId : String)
  | connected (tenantId : String) (connection : Nat)
  | handling (tenantId : String) (connection : Nat) (rest : ManagementApp α)
  | returned (connection : Nat) (value : α)
  | leaving (connection : Nat) (result : Except Exn α)
  | ended (result : Except Exn α)

variable {α : Type}

/-- The connection a request has acquired. -/
def Phase.connection : Phase α → Option Nat
  | .resolving _ temporary => temporary
  | .waiting _ => none
  | .connected _ connection => some connection
  | .handling _ connection _ => some connection
  | .returned connection _ => some connection
  | .leaving connection _ => some connection
  | .ended _ => none

/-- A database with a pool of connections and the requests on it. -/
structure Service (α : Type) where
  world : World
  connections : Nat → PooledConnection
  requests : Nat → Option (PooledRequest α × Phase α)

namespace Service

/-- A service without requests, whose connections have these settings. -/
def start (settings : Nat → Option String) (world : World) : Service α where
  world := world
  connections connection := { setting := settings connection }
  requests _ := none

variable (service : Service α)

/-- A request moves on. -/
def move (id : Nat) (request : PooledRequest α) (phase : Phase α) : Service α :=
  { service with
    requests := Function.update service.requests id (some (request, phase)) }

/-- Replace a connection. -/
def setConnection (connection : Nat) (state : PooledConnection) : Service α :=
  { service with
    connections := Function.update service.connections connection state }

/-- Change the setting of a connection. -/
def setConfig (connection : Nat) (setting : Option String) : Service α :=
  service.setConnection connection
    { service.connections connection with setting := setting }

end Service

/-- What can happen: a request arrives, acquires an idle connection, performs
its next statement, has it or the wait for a connection fail, goes on without
one, or gives its connection back, which the pool leaves with some setting;
other code changes the database. -/
inductive PoolEvent (α : Type) : Type
  | arrive (id : Nat) (request : PooledRequest α)
  | acquire (id connection : Nat)
  | perform (id : Nat)
  | fail (id : Nat) (error : Exn)
  | proceed (id : Nat)
  | release (id : Nat) (setting : Option String)
  | elsewhere (change : World → World)

/-- What follows when the tenant is known. -/
def resolved : Except Exn (Option String) → Phase α
  | .ok tenantId =>
      if given tenantId then .waiting (tenantId.getD "")
      else .ended (.error
        (.app .businessValidation "Tenant ID or valid client_id required"))
  | .error error => .ended (.error error)

/-- The successor of a service, if the event is enabled. -/
def step (deployment : Deployment) (service : Service α) :
    PoolEvent α → Option (Service α)
  | .arrive id request =>
      match service.requests id with
      | some _ => none
      | none => some (service.move id request (.resolving request.tenant none))
  | .acquire id connection =>
      if (service.connections connection).holder.isSome then none
      else
        let taken := service.setConnection connection
          { service.connections connection with holder := some id }
        match service.requests id with
        | some (request, .resolving (.perform stmt next) none) =>
            some (taken.move id request
              (.resolving (.perform stmt next) (some connection)))
        | some (request, .waiting tenantId) =>
            some (taken.move id request (.connected tenantId connection))
        | _ => none
  | .perform id =>
      match service.requests id with
      | some (request, .resolving (.perform stmt next) (some connection)) =>
          let outcome := manage deployment stmt service.world
          some ({ service with world := outcome.2 }.move id request
            (.resolving (next outcome.1) (some connection)))
      | some (request, .connected tenantId connection) =>
          some ((service.setConfig connection (some tenantId)).move id request
            (.handling tenantId connection
              (request.handler (.forTenant tenantId))))
      | some (request, .handling tenantId connection (.perform stmt next)) =>
          let outcome := manageOn deployment (.forTenant tenantId)
            ⟨(service.connections connection).setting⟩ stmt service.world
          some ({ service with world := outcome.2 }.move id request
            (.handling tenantId connection (next outcome.1)))
      | some (request, .returned connection value) =>
          some ((service.setConfig connection (some "")).move id request
            (.leaving connection (.ok value)))
      | _ => none
  | .fail id error =>
      match service.requests id with
      | some (request, .resolving (.perform _ next) temporary) =>
          some (service.move id request
            (.resolving (next (.error error)) temporary))
      | some (request, .waiting _) =>
          some (service.move id request (.ended (.error error)))
      | some (request, .connected _ connection) =>
          some (service.move id request (.leaving connection (.error error)))
      | some (request, .handling tenantId connection (.perform _ next)) =>
          some (service.move id request
            (.handling tenantId connection (next (.error error))))
      | some (request, .returned connection _) =>
          some (service.move id request (.leaving connection (.error error)))
      | _ => none
  | .proceed id =>
      match service.requests id with
      | some (request, .resolving (.done result) none) =>
          some (service.move id request (resolved result))
      | some (request, .handling _ connection (.done (.ok value))) =>
          some (service.move id request (.returned connection value))
      | some (request, .handling _ connection (.done (.error error))) =>
          some (service.move id request (.leaving connection (.error error)))
      | _ => none
  | .release id setting =>
      match service.requests id with
      | some (request, .resolving (.done result) (some connection)) =>
          some ((service.setConnection connection ⟨setting, none⟩).move id request
            (.resolving (.done result) none))
      | some (request, .leaving connection result) =>
          some ((service.setConnection connection ⟨setting, none⟩).move id request
            (.ended result))
      | _ => none
  | .elsewhere change => some { service with world := change service.world }

/-! ## Calls with connections as values -/

/-- The requests as calls of the rest of the development, any statement of which
may fail. -/
def calls (α : Type) (deployment : Deployment) :
    System Empty (PooledRequest α) ManagementStmt ManagementStmt.Resp Exn α World
      (World → World) where
  site _ := none
  program := PooledRequest.program
  perform := manage deployment
  mayFail _ _ := true
  crash site _ := site.elim
  change apply world := some (apply world)

abbrev Calls (α : Type) :=
  Pool (PooledRequest α) ManagementStmt ManagementStmt.Resp Exn α World

/-- A statement of the call is next. -/
def Phase.sends : Phase α → Bool
  | .resolving (.perform _ _) _ => true
  | .handling _ _ (.perform _ _) => true
  | _ => false

/-- What the calls do for an event of the service.  A call starts with its
request, its statements are performed and fail when the request's are, and other
code makes the same changes.  The connections are no concern of the calls. -/
def callEvents (service : Service α) :
    PoolEvent α → List (Event Empty (PooledRequest α) Exn (World → World))
  | .arrive id request => [.start id request]
  | .perform id =>
      if (service.requests id).any (·.2.sends) then [.advance id] else []
  | .fail id error =>
      if (service.requests id).any (·.2.sends) then [.fail id error] else []
  | .elsewhere change => [.change change]
  | .acquire _ _ | .proceed _ | .release _ _ => []

/-- What is left of the call that stands for a request.  A request that has
failed to set or to clear its tenant is given up. -/
def Shows (request : PooledRequest α) : Phase α → ManagementApp α → Prop
  | .resolving rest _, program =>
      program = rest >>= fun tenantId =>
        connectionOf tenantId >>= request.handler
  | .waiting tenantId, program =>
      program = request.handler (.forTenant tenantId)
  | .connected tenantId _, program =>
      program = request.handler (.forTenant tenantId)
  | .handling _ _ rest, program => program = rest
  | .returned _ value, program => program = .done (.ok value)
  | .leaving _ result, program =>
      ∀ value, result = .ok value → program = .done (.ok value)
  | .ended result, program =>
      ∀ value, result = .ok value → program = .done (.ok value)

/-- Connections are held by the requests that use them, and the one of a running
handler is set to its tenant. -/
structure Held (service : Service α) : Prop where
  holds : ∀ id request phase connection,
    service.requests id = some (request, phase) →
    phase.connection = some connection →
      (service.connections connection).holder = some id
  isSet : ∀ id request tenantId connection rest,
    service.requests id = some (request, .handling tenantId connection rest) →
      (service.connections connection).setting = some tenantId

/-- Each request is shown by the call with its id. -/
structure Represents (service : Service α) (pool : Calls α) : Prop where
  held : Held service
  world : pool.world = service.world
  unused : ∀ id, service.requests id = none → pool.calls id = none
  shown : ∀ id request phase, service.requests id = some (request, phase) →
    ∃ call, pool.Holds id call ∧ call.request = request ∧
      call.crashed = false ∧ Shows request phase call.rest

theorem program_eq (request : PooledRequest α) :
    request.program = request.tenant >>= fun tenantId =>
      connectionOf tenantId >>= request.handler := by
  have split : ManagementApp.core (getDatabasePool request.tenantHeader
      request.queryClientId request.formClientId) =
        request.tenant >>= connectionOf := by
    unfold PooledRequest.tenant getDatabasePool ManagementApp.core
    rw [embed_bind]
    congr 1
    funext tenantId
    unfold connectionOf
    split <;> rfl
  rw [PooledRequest.program, split, bind_assoc]

/-! ## What one event does -/

section Steps

variable {deployment : Deployment} {service next : Service α} {pool : Calls α}
variable {id : Nat} {request : PooledRequest α} {phase before : Phase α}
variable {connections : Nat → PooledConnection} {world : World}

theorem Held.update (held : Held service)
    (kept : ∀ connection other, other ≠ id →
      (service.connections connection).holder = some other →
        connections connection = service.connections connection)
    (holds : ∀ connection, phase.connection = some connection →
      (connections connection).holder = some id)
    (isSet : ∀ tenantId connection rest,
      phase = .handling tenantId connection rest →
        (connections connection).setting = some tenantId) :
    Held ⟨world, connections,
      Function.update service.requests id (some (request, phase))⟩ where
  holds := by
    intro other found state connection foundEq uses
    by_cases same : other = id
    · subst same
      simp only [Function.update_self, Option.some.injEq, Prod.mk.injEq] at foundEq
      obtain ⟨rfl, rfl⟩ := foundEq
      exact holds connection uses
    · simp only [Function.update_of_ne same] at foundEq
      have holder := held.holds other found state connection foundEq uses
      exact (congrArg PooledConnection.holder
        (kept connection other same holder)).trans holder
  isSet := by
    intro other found tenantId connection rest foundEq
    by_cases same : other = id
    · subst same
      simp only [Function.update_self, Option.some.injEq, Prod.mk.injEq] at foundEq
      exact isSet tenantId connection rest foundEq.2
    · simp only [Function.update_of_ne same] at foundEq
      have holder := held.holds other found _ connection foundEq rfl
      exact (congrArg PooledConnection.setting
        (kept connection other same holder)).trans
          (held.isSet other found tenantId connection rest foundEq)

theorem kept_setConnection {connection : Nat} {state : PooledConnection}
    (free : ∀ other, (service.connections connection).holder = some other →
      other = id) (used other : Nat) (away : other ≠ id)
    (holder : (service.connections used).holder = some other) :
    (service.setConnection connection state).connections used =
      service.connections used := by
  have apart : used ≠ connection := by
    rintro rfl
    exact away (free other holder)
  exact Function.update_of_ne apart _ _

/-- A step without a statement of the call. -/
theorem Represents.stay (represents : Represents service pool)
    (found : service.requests id = some (request, before))
    (held : Held ⟨service.world, connections,
      Function.update service.requests id (some (request, phase))⟩)
    (shows : ∀ program, Shows request before program →
      Shows request phase program) :
    Represents ⟨service.world, connections,
      Function.update service.requests id (some (request, phase))⟩ pool where
  held := held
  world := represents.world
  unused := by
    intro other none
    by_cases same : other = id
    · simp [same] at none
    · simp only [Function.update_of_ne same] at none
      exact represents.unused other none
  shown := by
    intro other state after foundEq
    by_cases same : other = id
    · subst same
      simp only [Function.update_self, Option.some.injEq, Prod.mk.injEq] at foundEq
      obtain ⟨rfl, rfl⟩ := foundEq
      obtain ⟨call, holds, isRequest, alive, shown⟩ :=
        represents.shown other request before found
      exact ⟨call, holds, isRequest, alive, shows _ shown⟩
    · simp only [Function.update_of_ne same] at foundEq
      exact represents.shown other state after foundEq

theorem Represents.setCall (represents : Represents service pool)
    (call : Call (PooledRequest α) ManagementStmt ManagementStmt.Resp Exn α)
    (isRequest : call.request = request) (alive : call.crashed = false)
    (shows : Shows request phase call.rest)
    (held : Held ⟨world, connections,
      Function.update service.requests id (some (request, phase))⟩) :
    Represents ⟨world, connections,
      Function.update service.requests id (some (request, phase))⟩
      (({ pool with world := world }).setCall id call) where
  held := held
  world := rfl
  unused := by
    intro other none
    by_cases same : other = id
    · simp [same] at none
    · simp only [Function.update_of_ne same] at none
      simpa [Pool.setCall, Function.update_of_ne same] using
        represents.unused other none
  shown := by
    intro other state after foundEq
    by_cases same : other = id
    · subst same
      simp only [Function.update_self, Option.some.injEq, Prod.mk.injEq] at foundEq
      obtain ⟨rfl, rfl⟩ := foundEq
      exact ⟨_, Pool.holds_setCall.mpr (.inl ⟨rfl, rfl⟩), isRequest, alive, shows⟩
    · simp only [Function.update_of_ne same] at foundEq
      obtain ⟨found, foundHolds, rest⟩ := represents.shown other state after foundEq
      exact ⟨found, Pool.holds_setCall.mpr (.inr ⟨same, foundHolds⟩), rest⟩

theorem Represents.advance (represents : Represents service pool)
    (found : service.requests id = some (request, before))
    {stmt : ManagementStmt} {rest : Except Exn stmt.Resp → ManagementApp α}
    (stands : ∀ program, Shows request before program →
      program = .perform stmt rest)
    (shows : Shows request phase (rest (manage deployment stmt service.world).1))
    (held : Held ⟨(manage deployment stmt service.world).2, service.connections,
      Function.update service.requests id (some (request, phase))⟩) :
    ∃ after, exec (CallPool.step (calls α deployment)) pool [.advance id] =
        some after ∧
      Represents ⟨(manage deployment stmt service.world).2, service.connections,
        Function.update service.requests id (some (request, phase))⟩ after := by
  obtain ⟨call, holds, isRequest, alive, shown⟩ :=
    represents.shown id request before found
  refine ⟨_, exec_singleton (step_advance.mpr ⟨call, stmt, rest, holds, alive,
    stands _ shown, rfl⟩), ?_⟩
  rw [represents.world]
  exact represents.setCall _ isRequest alive shows held

theorem Represents.fail (represents : Represents service pool)
    (found : service.requests id = some (request, before))
    {stmt : ManagementStmt} {rest : Except Exn stmt.Resp → ManagementApp α}
    {error : Exn}
    (stands : ∀ program, Shows request before program →
      program = .perform stmt rest)
    (shows : Shows request phase (rest (.error error)))
    (held : Held ⟨service.world, service.connections,
      Function.update service.requests id (some (request, phase))⟩) :
    ∃ after, exec (CallPool.step (calls α deployment)) pool [.fail id error] =
        some after ∧
      Represents ⟨service.world, service.connections,
        Function.update service.requests id (some (request, phase))⟩ after := by
  obtain ⟨call, holds, isRequest, alive, shown⟩ :=
    represents.shown id request before found
  refine ⟨_, exec_singleton (step_fail.mpr ⟨call, stmt, rest, holds, alive,
    stands _ shown, rfl, rfl⟩), ?_⟩
  have same : ({ pool with world := service.world } : Calls α) = pool := by
    rw [← represents.world]
  have kept := represents.setCall (call.answered stmt rest (.error error))
    isRequest alive shows held
  rwa [same] at kept

/-- A statement, or its failure, leaves the connections to those who hold
them. -/
theorem Held.same (held : Held service)
    (found : service.requests id = some (request, before))
    (uses : phase.connection = before.connection)
    (isSet : ∀ tenantId connection rest,
      phase = .handling tenantId connection rest →
        (service.connections connection).setting = some tenantId) :
    Held ⟨world, service.connections,
      Function.update service.requests id (some (request, phase))⟩ :=
  held.update (fun _ _ _ _ => rfl)
    (fun connection used =>
      held.holds id request before connection found (uses ▸ used))
    isSet

theorem shows_resolved {result : Except Exn (Option String)}
    {program : ManagementApp α}
    (shows : Shows request (.resolving (.done result) none) program) :
    Shows request (resolved result) program := by
  subst shows
  cases result with
  | error error =>
      intro value failed
      cases failed
  | ok tenantId =>
      cases isGiven : given tenantId with
      | true => simp [resolved, isGiven, Shows, connectionOf]
      | false => simp [resolved, isGiven, Shows]

theorem held_acquire (held : Held service) {connection : Nat}
    (idle : (service.connections connection).holder = none)
    (uses : phase.connection = some connection)
    (notHandling : ∀ tenantId used rest, phase ≠ .handling tenantId used rest) :
    Held ⟨service.world, (service.setConnection connection
        { service.connections connection with holder := some id }).connections,
      Function.update service.requests id (some (request, phase))⟩ := by
  refine held.update (kept_setConnection fun other holder => ?_) ?_ ?_
  · rw [idle] at holder
    cases holder
  · intro used isUsed
    cases uses.symm.trans isUsed
    simp [Service.setConnection]
  · exact fun tenantId used rest isHandling =>
      absurd isHandling (notHandling tenantId used rest)

theorem held_setConfig (held : Held service) {connection : Nat}
    {setting : Option String}
    (found : service.requests id = some (request, before))
    (used : before.connection = some connection)
    (uses : phase.connection = some connection)
    (isSet : ∀ tenantId used rest, phase = .handling tenantId used rest →
      setting = some tenantId) :
    Held ⟨service.world, (service.setConfig connection setting).connections,
      Function.update service.requests id (some (request, phase))⟩ := by
  have holder := held.holds id request before connection found used
  refine held.update (kept_setConnection fun other isHolder => ?_) ?_ ?_
  · exact Option.some.inj (isHolder.symm.trans holder)
  · intro other isUsed
    cases uses.symm.trans isUsed
    simp [Service.setConfig, Service.setConnection, holder]
  · intro tenantId other rest isHandling
    have isOther : phase.connection = some other := isHandling ▸ rfl
    cases uses.symm.trans isOther
    simp [Service.setConfig, Service.setConnection,
      isSet tenantId connection rest isHandling]

/-- A request gives back the connection it holds. -/
theorem held_release (held : Held service) {connection : Nat}
    {setting : Option String}
    (found : service.requests id = some (request, before))
    (used : before.connection = some connection)
    (without : phase.connection = none) :
    Held ⟨service.world,
      (service.setConnection connection ⟨setting, none⟩).connections,
      Function.update service.requests id (some (request, phase))⟩ := by
  have holder := held.holds id request before connection found used
  refine held.update (kept_setConnection fun other isHolder => ?_) ?_ ?_
  · exact Option.some.inj (isHolder.symm.trans holder)
  · intro other isUsed
    cases without.symm.trans isUsed
  · rintro tenantId other rest rfl
    cases without

theorem held_move (held : Held service)
    (found : service.requests id = some (request, before))
    (uses : ∀ connection, phase.connection = some connection →
      before.connection = some connection)
    (notHandling : ∀ tenantId used rest, phase ≠ .handling tenantId used rest) :
    Held ⟨service.world, service.connections,
      Function.update service.requests id (some (request, phase))⟩ :=
  held.update (fun _ _ _ _ => rfl)
    (fun connection used =>
      held.holds id request before connection found (uses connection used))
    fun tenantId used rest isHandling =>
      absurd isHandling (notHandling tenantId used rest)

/-- The calls can take the events, and show the service then. -/
def Matched (deployment : Deployment) (pool : Calls α)
    (events : List (Event Empty (PooledRequest α) Exn (World → World)))
    (next : Service α) : Prop :=
  ∃ after, exec (CallPool.step (calls α deployment)) pool events = some after ∧
    Represents next after

theorem matched_arrive (represents : Represents service pool)
    (stepEq : step deployment service (.arrive id request) = some next) :
    Matched deployment pool (callEvents service (.arrive id request)) next := by
  cases found : service.requests id with
  | some _ => simp [step, found] at stepEq
  | none =>
      simp only [step, found, Option.some.injEq] at stepEq
      subst stepEq
      refine ⟨_, exec_singleton
        (step_start.mpr ⟨represents.unused id found, rfl⟩), ?_⟩
      have held : Held ⟨service.world, service.connections,
          Function.update service.requests id
            (some (request, .resolving request.tenant none))⟩ :=
        represents.held.update (fun _ _ _ _ => rfl) (by simp [Phase.connection])
          (by simp)
      have shows : Shows request (.resolving request.tenant none)
          request.program := program_eq request
      have started := represents.setCall ⟨request, request.program, false, []⟩
        rfl rfl shows held
      rwa [show ({ pool with world := service.world } : Calls α) = pool by
        rw [← represents.world]] at started

theorem matched_acquire {connection : Nat} (represents : Represents service pool)
    (stepEq : step deployment service (.acquire id connection) = some next) :
    Matched deployment pool (callEvents service (.acquire id connection)) next := by
  simp only [step] at stepEq
  split at stepEq
  · cases stepEq
  · next busy =>
    have idle : (service.connections connection).holder = none := by
      simpa using busy
    split at stepEq
    · next request stmt rest found =>
      cases stepEq
      exact ⟨pool, rfl, represents.stay found
        (held_acquire represents.held idle rfl (by simp)) fun _ shows => shows⟩
    · next request tenantId found =>
      cases stepEq
      exact ⟨pool, rfl, represents.stay found
        (held_acquire represents.held idle rfl (by simp)) fun _ shows => shows⟩
    · cases stepEq

theorem callEvents_sends
    (found : service.requests id = some (request, phase))
    (sends : phase.sends = true) :
    callEvents service (.perform id) = [.advance id] ∧
      ∀ error, callEvents service (.fail id error) = [.fail id error] := by
  simp [callEvents, found, sends]

/-- What is no statement of the call does not concern it. -/
theorem callEvents_quiet
    (found : service.requests id = some (request, phase))
    (quiet : phase.sends = false) :
    callEvents service (.perform id) = [] ∧
      ∀ error, callEvents service (.fail id error) = [] := by
  simp [callEvents, found, quiet]

theorem matched_perform (represents : Represents service pool)
    (stepEq : step deployment service (.perform id) = some next) :
    Matched deployment pool (callEvents service (.perform id)) next := by
  simp only [step] at stepEq
  split at stepEq
  · next request stmt rest connection found =>
    cases stepEq
    rw [(callEvents_sends found rfl).1]
    exact represents.advance found (fun program shows => shows) rfl
      (represents.held.same found rfl (by simp))
  · next request tenantId connection found =>
    cases stepEq
    rw [(callEvents_quiet found rfl).1]
    exact ⟨pool, rfl, represents.stay found
      (held_setConfig represents.held found rfl rfl (by simp_all))
      fun _ shows => shows⟩
  · next request tenantId connection stmt rest found =>
    cases stepEq
    rw [(callEvents_sends found rfl).1]
    have isSet := represents.held.isSet id request tenantId connection _ found
    rw [isSet, show (⟨some tenantId⟩ : Connection) = .forTenant tenantId from rfl,
      manageOn_self]
    refine represents.advance found (fun program shows => shows) rfl
      (represents.held.same found rfl ?_)
    intro other used left same
    cases same
    exact isSet
  · next request connection value found =>
    cases stepEq
    rw [(callEvents_quiet found rfl).1]
    refine ⟨pool, rfl, represents.stay found
      (held_setConfig represents.held found rfl rfl (by simp)) ?_⟩
    intro program shows result isResult
    cases isResult
    exact shows
  · cases stepEq

theorem matched_fail {error : Exn} (represents : Represents service pool)
    (stepEq : step deployment service (.fail id error) = some next) :
    Matched deployment pool (callEvents service (.fail id error)) next := by
  simp only [step] at stepEq
  split at stepEq
  · next request stmt rest temporary found =>
    cases stepEq
    rw [(callEvents_sends found rfl).2]
    exact represents.fail found (fun program shows => shows) rfl
      (represents.held.same found rfl (by simp))
  · next request tenantId found =>
    cases stepEq
    rw [(callEvents_quiet found rfl).2]
    exact ⟨pool, rfl, represents.stay found
      (held_move represents.held found (by simp [Phase.connection]) (by simp))
      (by simp [Shows])⟩
  · next request tenantId connection found =>
    cases stepEq
    rw [(callEvents_quiet found rfl).2]
    exact ⟨pool, rfl, represents.stay found
      (held_move represents.held found (fun _ used => used) (by simp))
      (by simp [Shows])⟩
  · next request tenantId connection stmt rest found =>
    cases stepEq
    rw [(callEvents_sends found rfl).2]
    refine represents.fail found (fun program shows => shows) rfl
      (represents.held.same found rfl ?_)
    intro other used left same
    cases same
    exact represents.held.isSet id request tenantId connection _ found
  · next request connection value found =>
    cases stepEq
    rw [(callEvents_quiet found rfl).2]
    exact ⟨pool, rfl, represents.stay found
      (held_move represents.held found (fun _ used => used) (by simp))
      (by simp [Shows])⟩
  · cases stepEq

theorem matched_proceed (represents : Represents service pool)
    (stepEq : step deployment service (.proceed id) = some next) :
    Matched deployment pool (callEvents service (.proceed id)) next := by
  simp only [step] at stepEq
  split at stepEq
  · next request result found =>
    cases stepEq
    refine ⟨pool, rfl, represents.stay found
      (held_move represents.held found ?_ ?_) fun _ => shows_resolved⟩
    · cases result with
      | error error => simp [resolved, Phase.connection]
      | ok tenantId =>
          cases isGiven : given tenantId <;>
            simp [resolved, isGiven, Phase.connection]
    · cases result with
      | error error => simp [resolved]
      | ok tenantId => cases isGiven : given tenantId <;> simp [resolved, isGiven]
  · next request tenantId connection value found =>
    cases stepEq
    exact ⟨pool, rfl, represents.stay found
      (held_move represents.held found (fun _ used => used) (by simp))
      fun _ shows => shows⟩
  · next request tenantId connection error found =>
    cases stepEq
    exact ⟨pool, rfl, represents.stay found
      (held_move represents.held found (fun _ used => used) (by simp))
      (by simp [Shows])⟩
  · cases stepEq

theorem matched_release {setting : Option String}
    (represents : Represents service pool)
    (stepEq : step deployment service (.release id setting) = some next) :
    Matched deployment pool (callEvents service (.release id setting)) next := by
  simp only [step] at stepEq
  split at stepEq
  · next request result connection found =>
    cases stepEq
    exact ⟨pool, rfl, represents.stay found
      (held_release represents.held found rfl rfl) fun _ shows => shows⟩
  · next request connection result found =>
    cases stepEq
    exact ⟨pool, rfl, represents.stay found
      (held_release represents.held found rfl rfl) fun _ shows => shows⟩
  · cases stepEq

end Steps

/-- Whatever happens to the pooled requests, their calls can follow. -/
theorem refines (deployment : Deployment) :
    Refines (step deployment) (CallPool.step (calls α deployment)) callEvents
      Represents := by
  intro service event next pool represents stepEq
  cases event with
  | arrive id request => exact matched_arrive represents stepEq
  | acquire id connection => exact matched_acquire represents stepEq
  | perform id => exact matched_perform represents stepEq
  | fail id error => exact matched_fail represents stepEq
  | proceed id => exact matched_proceed represents stepEq
  | release id setting => exact matched_release represents stepEq
  | elsewhere change =>
      cases stepEq
      refine ⟨_, exec_singleton
        (step_change.mpr ⟨_, rfl, rfl⟩), ?_⟩
      exact ⟨⟨represents.held.holds, represents.held.isSet⟩,
        congrArg change represents.world, represents.unused, represents.shown⟩

theorem represents_start (settings : Nat → Option String) (world : World) :
    Represents (Service.start settings world : Service α) (.init world) where
  held := ⟨by simp [Service.start], by simp [Service.start]⟩
  world := rfl
  unused _ _ := rfl
  shown := by simp [Service.start]

/-- In every interleaving of requests on a pool, with failures anywhere and
connections that come with any setting, the requests do to the database what
they would do as calls that are passed the connection of their own tenant, with
the same statements in the same order, and those that return a value return the
same.  The connection of a running handler is its own, and set to its tenant. -/
theorem served_as_own_tenant (deployment : Deployment)
    (settings : Nat → Option String) (world : World) (events : List (PoolEvent α))
    (final : Service α)
    (runs : exec (step deployment) (Service.start settings world) events =
      some final) :
    (∃ pool,
      exec (CallPool.step (calls α deployment)) (.init world)
          (followed (step deployment) callEvents (Service.start settings world)
            events) = some pool ∧
      pool.world = final.world ∧
      ∀ id request value,
        final.requests id = some (request, .ended (.ok value)) →
          ∃ call, pool.Holds id call ∧ call.request = request ∧
            call.rest = .done (.ok value)) ∧
    ∀ id request tenantId connection rest,
      final.requests id = some (request, .handling tenantId connection rest) →
        final.connections connection = ⟨some tenantId, some id⟩ := by
  obtain ⟨pool, callRuns, represents⟩ :=
    (refines deployment).run (represents_start settings world) runs
  refine ⟨⟨pool, callRuns, represents.world, ?_⟩, ?_⟩
  · intro id request value ended
    obtain ⟨call, holds, isRequest, -, shown⟩ :=
      represents.shown id request _ ended
    exact ⟨call, holds, isRequest, shown value rfl⟩
  · intro id request tenantId connection rest handling
    have holder := represents.held.holds id request _ connection handling rfl
    have isSet := represents.held.isSet id request tenantId connection rest handling
    rw [← holder, ← isSet]

/-- A request whose handler raises, so that the tenant stays set. -/
def raising (tenantId : String) : PooledRequest (Option UserRow) :=
  ⟨some tenantId, none, .none, fun _ => throw (.other "ValueError")⟩

/-- A request that reads a user. -/
def reading (tenantId userId : String) : PooledRequest (Option UserRow) :=
  ⟨some tenantId, none, .none, fun db => ManagementApp.send
    (.core (.user db (.byId userId)))⟩

/-- The second request gets the connection as the first has left it. -/
def handover : List (PoolEvent (Option UserRow)) :=
  [.arrive 0 (raising "acme"), .proceed 0, .acquire 0 7, .perform 0, .proceed 0,
    .release 0 (some "acme"), .arrive 1 (reading "bolt" "u"), .proceed 1,
    .acquire 1 7, .perform 1]

/-- The calls read the user alone. -/
theorem handover_served :
    ∃ final, exec (step (Deployment.plain [])) (Service.start (fun _ => none) {})
        handover = some final ∧
      followed (step (Deployment.plain [])) callEvents
          (Service.start (fun _ => none) {}) handover =
        [.start 0 (raising "acme"), .start 1 (reading "bolt" "u")] ∧
      (∃ pool,
        exec (CallPool.step (calls (Option UserRow) (Deployment.plain [])))
            (.init {}) (followed (step (Deployment.plain [])) callEvents
              (Service.start (fun _ => none) {}) handover) = some pool ∧
        pool.world = final.world ∧
        ∀ id request value,
          final.requests id = some (request, .ended (.ok value)) →
            ∃ call, pool.Holds id call ∧ call.request = request ∧
              call.rest = .done (.ok value)) ∧
      ∀ id request tenantId connection rest,
        final.requests id = some (request, .handling tenantId connection rest) →
          final.connections connection = ⟨some tenantId, some id⟩ :=
  ⟨_, rfl, rfl, served_as_own_tenant _ (fun _ => none) _ handover _ rfl⟩

end PooledConnections

end HexIam
