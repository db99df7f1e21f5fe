import HexIam.GuardedRun
import HexIam.StatementTree
import Mathlib.Logic.Function.Basic

/-!
# Concurrent calls, one statement at a time

A pool holds any number of calls in progress over one shared world.  An event
starts a call, performs the next statement of one call, makes that statement
fail, crashes every call of one site, or lets the environment change the
world.  Every interleaving of the calls is a list of such events, and what a
call has done so far is its log.
-/

namespace CallPool

open StatementTree

/-- What can be requested and how the world answers: the program of a request,
the site whose crash ends it, the effect of a statement, the statements that may
fail without an effect, and the changes no call makes. -/
structure System (Site Request Stmt : Type) (Resp : Stmt → Type)
    (ε α World Change : Type) where
  site : Request → Option Site
  program : Request → StatementTree Stmt Resp ε α
  perform : (stmt : Stmt) → World → Except ε (Resp stmt) × World
  mayFail : Stmt → ε → Bool
  crash : Site → World → World
  change : Change → World → Option World

/-- A call in progress or ended: its request, what is left of its program,
whether its site has crashed under it, and its log, newest entry first. -/
structure Call (Request Stmt : Type) (Resp : Stmt → Type) (ε α : Type) where
  request : Request
  rest : StatementTree Stmt Resp ε α
  crashed : Bool
  log : List (LogEntry Stmt Resp ε)

/-- A shared world and the calls started on it. -/
structure Pool (Request Stmt : Type) (Resp : Stmt → Type)
    (ε α World : Type) where
  world : World
  calls : Nat → Option (Call Request Stmt Resp ε α)

/-- One step of an interleaving. -/
inductive Event (Site Request ε Change : Type) : Type
  | start (id : Nat) (request : Request)
  | advance (id : Nat)
  | fail (id : Nat) (error : ε)
  | crash (site : Site)
  | change (change : Change)

variable {Site Request Stmt : Type} {Resp : Stmt → Type}
variable {ε α World Change : Type}

namespace Call

/-- The call can still perform a statement. -/
def Running (call : Call Request Stmt Resp ε α) : Prop :=
  call.crashed = false ∧ ∀ result, call.rest ≠ .done result

/-- The statement the call performs next. -/
def Next (call : Call Request Stmt Resp ε α) (stmt : Stmt) : Prop :=
  call.crashed = false ∧ ∃ next, call.rest = .perform stmt next

/-- The call after its next statement was answered. -/
def answered (call : Call Request Stmt Resp ε α) (stmt : Stmt)
    (next : Except ε (Resp stmt) → StatementTree Stmt Resp ε α)
    (answer : Except ε (Resp stmt)) : Call Request Stmt Resp ε α :=
  { call with rest := next answer, log := ⟨stmt, answer⟩ :: call.log }

variable {call : Call Request Stmt Resp ε α} {stmt : Stmt}
variable {next : Except ε (Resp stmt) → StatementTree Stmt Resp ε α}
variable {answer : Except ε (Resp stmt)}

@[simp]
theorem answered_request :
    (call.answered stmt next answer).request = call.request :=
  rfl

@[simp]
theorem answered_rest : (call.answered stmt next answer).rest = next answer :=
  rfl

@[simp]
theorem answered_crashed :
    (call.answered stmt next answer).crashed = call.crashed :=
  rfl

@[simp]
theorem answered_log :
    (call.answered stmt next answer).log = ⟨stmt, answer⟩ :: call.log :=
  rfl

theorem Next.running (isNext : call.Next stmt) : call.Running := by
  obtain ⟨alive, next, restEq⟩ := isNext
  refine ⟨alive, fun result => ?_⟩
  simp [restEq]

end Call

namespace Pool

/-- Replace the call with this id. -/
def setCall (pool : Pool Request Stmt Resp ε α World) (id : Nat)
    (call : Call Request Stmt Resp ε α) : Pool Request Stmt Resp ε α World :=
  { pool with calls := Function.update pool.calls id (some call) }

/-- A call the pool holds. -/
def Holds (pool : Pool Request Stmt Resp ε α World) (id : Nat)
    (call : Call Request Stmt Resp ε α) : Prop :=
  pool.calls id = some call

/-- No call is in progress. -/
def Quiet (pool : Pool Request Stmt Resp ε α World) : Prop :=
  ∀ id call, pool.Holds id call → ¬ call.Running

/-- A world without calls. -/
def init (world : World) : Pool Request Stmt Resp ε α World :=
  ⟨world, fun _ => none⟩

@[simp]
theorem init_world (world : World) :
    (init world : Pool Request Stmt Resp ε α World).world = world :=
  rfl

theorem not_holds_init {world : World} {id : Nat}
    {call : Call Request Stmt Resp ε α} :
    ¬ (init world : Pool Request Stmt Resp ε α World).Holds id call := by
  simp [Holds, init]

theorem Holds.unique {pool : Pool Request Stmt Resp ε α World} {id : Nat}
    {first second : Call Request Stmt Resp ε α}
    (holdsFirst : pool.Holds id first) (holdsSecond : pool.Holds id second) :
    first = second :=
  Option.some.inj (holdsFirst.symm.trans holdsSecond)

theorem Holds.next_unique {pool : Pool Request Stmt Resp ε α World} {id : Nat}
    {call found : Call Request Stmt Resp ε α} {stmt other : Stmt}
    {rest : Except ε (Resp stmt) → StatementTree Stmt Resp ε α}
    (holds : pool.Holds id call) (restEq : call.rest = .perform stmt rest)
    (foundHolds : pool.Holds id found) (isNext : found.Next other) :
    found = call ∧ other = stmt := by
  obtain ⟨-, next, nextEq⟩ := isNext
  cases foundHolds.unique holds
  cases restEq.symm.trans nextEq
  exact ⟨rfl, rfl⟩

@[simp]
theorem setCall_world (pool : Pool Request Stmt Resp ε α World) (id : Nat)
    (call : Call Request Stmt Resp ε α) :
    (pool.setCall id call).world = pool.world :=
  rfl

theorem holds_setCall {pool : Pool Request Stmt Resp ε α World}
    {id other : Nat} {call found : Call Request Stmt Resp ε α} :
    (pool.setCall id call).Holds other found ↔
      (other = id ∧ found = call) ∨ (other ≠ id ∧ pool.Holds other found) := by
  unfold Holds setCall
  by_cases same : other = id
  · subst same
    simp [eq_comm]
  · simp [same]

end Pool

variable [DecidableEq Site]

/-- The successor of a pool, if the event is enabled. -/
def step (system : System Site Request Stmt Resp ε α World Change)
    (pool : Pool Request Stmt Resp ε α World) :
    Event Site Request ε Change → Option (Pool Request Stmt Resp ε α World)
  | .start id request =>
      match pool.calls id with
      | some _ => none
      | none => some (pool.setCall id ⟨request, system.program request, false, []⟩)
  | .advance id =>
      match pool.calls id with
      | some ⟨request, .perform stmt next, false, log⟩ =>
          let outcome := system.perform stmt pool.world
          some ({ pool with world := outcome.2 }.setCall id
            (Call.answered ⟨request, .perform stmt next, false, log⟩ stmt next
              outcome.1))
      | _ => none
  | .fail id error =>
      match pool.calls id with
      | some ⟨request, .perform stmt next, false, log⟩ =>
          if system.mayFail stmt error then
            some (pool.setCall id
              (Call.answered ⟨request, .perform stmt next, false, log⟩ stmt next
                (.error error)))
          else none
      | _ => none
  | .crash site =>
      some {
        world := system.crash site pool.world
        calls := fun id => (pool.calls id).map fun call =>
          if system.site call.request = some site then { call with crashed := true }
          else call }
  | .change change =>
      (system.change change pool.world).map fun world =>
        { pool with world := world }

/-! ## What one event does -/

section Inversion

variable {system : System Site Request Stmt Resp ε α World Change}
variable {pool next : Pool Request Stmt Resp ε α World}

theorem step_start {id : Nat} {request : Request} :
    step system pool (.start id request) = some next ↔
      pool.calls id = none ∧
        next = pool.setCall id ⟨request, system.program request, false, []⟩ := by
  cases found : pool.calls id with
  | none => simp [step, found, eq_comm]
  | some call => simp [step, found]

theorem step_advance {id : Nat} :
    step system pool (.advance id) = some next ↔
      ∃ call stmt continuation, pool.Holds id call ∧ call.crashed = false ∧
        call.rest = .perform stmt continuation ∧
        next = ({ pool with world := (system.perform stmt pool.world).2 }).setCall
          id (call.answered stmt continuation
            (system.perform stmt pool.world).1) := by
  constructor
  · intro stepEq
    simp only [step] at stepEq
    split at stepEq
    case h_1 request stmt continuation log found =>
      exact ⟨_, stmt, continuation, found, rfl, rfl,
        (Option.some.inj stepEq).symm⟩
    case h_2 => cases stepEq
  · rintro ⟨⟨request, rest, crashed, log⟩, stmt, continuation, found, alive,
      restEq, rfl⟩
    simp only at alive restEq
    subst alive restEq
    simp only [Pool.Holds] at found
    simp only [step, found]

theorem effect_of_advance {id : Nat}
    (stepEq : step system pool (.advance id) = some next) :
    ∃ call stmt continuation, pool.Holds id call ∧ call.crashed = false ∧
      call.rest = .perform stmt continuation ∧
      next.world = (system.perform stmt pool.world).2 ∧
      ∀ other found, next.Holds other found ↔
        (other = id ∧ found = call.answered stmt continuation
          (system.perform stmt pool.world).1) ∨
        (other ≠ id ∧ pool.Holds other found) := by
  obtain ⟨call, stmt, continuation, holds, alive, restEq, rfl⟩ :=
    step_advance.mp stepEq
  exact ⟨call, stmt, continuation, holds, alive, restEq, rfl,
    fun _ _ => Pool.holds_setCall⟩

theorem step_fail {id : Nat} {error : ε} :
    step system pool (.fail id error) = some next ↔
      ∃ call stmt continuation, pool.Holds id call ∧ call.crashed = false ∧
        call.rest = .perform stmt continuation ∧
        system.mayFail stmt error = true ∧
        next = pool.setCall id
          (call.answered stmt continuation (.error error)) := by
  constructor
  · intro stepEq
    simp only [step] at stepEq
    split at stepEq
    case h_1 request stmt continuation log found =>
      split at stepEq
      case isTrue may =>
        exact ⟨_, stmt, continuation, found, rfl, rfl, may,
          (Option.some.inj stepEq).symm⟩
      case isFalse => cases stepEq
    case h_2 => cases stepEq
  · rintro ⟨⟨request, rest, crashed, log⟩, stmt, continuation, found, alive,
      restEq, may, rfl⟩
    simp only at alive restEq
    subst alive restEq
    simp only [Pool.Holds] at found
    simp only [step, found, may, if_true]

theorem step_crash {site : Site} :
    step system pool (.crash site) = some next ↔
      next.world = system.crash site pool.world ∧
        ∀ id, next.calls id = (pool.calls id).map fun call =>
          if system.site call.request = some site then { call with crashed := true }
          else call := by
  constructor
  · intro stepEq
    cases Option.some.inj stepEq
    exact ⟨rfl, fun _ => rfl⟩
  · rintro ⟨worldEq, callsEq⟩
    obtain ⟨world, calls⟩ := next
    simp only at worldEq callsEq
    subst worldEq
    simp only [step, Option.some.injEq, Pool.mk.injEq, true_and]
    funext id
    exact (callsEq id).symm

theorem step_change {change : Change} :
    step system pool (.change change) = some next ↔
      ∃ world, system.change change pool.world = some world ∧
        next = { pool with world := world } := by
  simp [step, eq_comm]

/-- After a crash a call differs from what it was in the crash flag alone. -/
theorem holds_of_crash {site : Site} {id : Nat}
    {call : Call Request Stmt Resp ε α}
    (stepEq : step system pool (.crash site) = some next)
    (holds : next.Holds id call) :
    ∃ before, pool.Holds id before ∧ call.request = before.request ∧
      call.rest = before.rest ∧ call.log = before.log ∧
      (call.crashed = false →
        before.crashed = false ∧ system.site call.request ≠ some site) := by
  obtain ⟨-, callsEq⟩ := step_crash.mp stepEq
  rw [Pool.Holds, callsEq id, Option.map_eq_some_iff] at holds
  obtain ⟨before, found, callEq⟩ := holds
  refine ⟨before, found, ?_⟩
  split at callEq
  case isTrue => subst callEq; simp
  case isFalse away => subst callEq; simp [away]

theorem calls_eq_none_of_step {event : Event Site Request ε Change} {id : Nat}
    (unused : pool.calls id = none)
    (other : ∀ request, event ≠ .start id request)
    (stepEq : step system pool event = some next) : next.calls id = none := by
  have keeps {world : World} {used : Nat} {call found}
      (holds : pool.Holds used found) :
      (({ pool with world := world }).setCall used call).calls id = none := by
    have away : id ≠ used := by
      rintro rfl
      simp [Pool.Holds, unused] at holds
    simp [Pool.setCall, Function.update_of_ne away, unused]
  cases event with
  | start used request =>
      obtain ⟨-, rfl⟩ := step_start.mp stepEq
      have away : id ≠ used := fun same => other request (same ▸ rfl)
      simp [Pool.setCall, Function.update_of_ne away, unused]
  | advance used =>
      obtain ⟨call, stmt, rest, holds, -, -, rfl⟩ := step_advance.mp stepEq
      exact keeps holds
  | fail used error =>
      obtain ⟨call, stmt, rest, holds, -, -, -, rfl⟩ := step_fail.mp stepEq
      exact keeps holds
  | crash site =>
      rw [(step_crash.mp stepEq).2 id, unused, Option.map_none]
  | change change =>
      obtain ⟨world, -, rfl⟩ := step_change.mp stepEq
      exact unused

theorem calls_eq_none_of_exec {events : List (Event Site Request ε Change)}
    {id : Nat} (unused : pool.calls id = none)
    (other : ∀ request, Event.start id request ∉ events)
    (runs : GuardedRun.exec (step system) pool events = some next) :
    next.calls id = none := by
  induction events generalizing pool with
  | nil =>
      cases runs
      exact unused
  | cons event rest ih =>
      obtain ⟨middle, stepEq, restRuns⟩ :=
        GuardedRun.exec_cons_eq_some.mp runs
      refine ih (calls_eq_none_of_step unused (fun request same => ?_) stepEq)
        (fun request inRest => ?_) restRuns
      · exact other request (same ▸ List.mem_cons_self)
      · exact other request (List.mem_cons_of_mem _ inRest)

/-- A run that starts only the calls below `count` ends quiet when each of them
has ended or crashed. -/
theorem quiet_of_exec {events : List (Event Site Request ε Change)}
    {world : World} (count : Nat)
    (runs : GuardedRun.exec (step system) (.init world) events = some next)
    (others : ∀ id, count ≤ id → ∀ request, Event.start id request ∉ events)
    (ended : ∀ id < count, ∀ call, next.Holds id call → ¬ call.Running) :
    next.Quiet := by
  intro id call holds
  by_cases started : id < count
  · exact ended id started call holds
  · have unused := calls_eq_none_of_exec rfl (others id (by omega)) runs
    rw [Pool.Holds, unused] at holds
    cases holds

end Inversion

/-! ## What every call's log satisfies -/

section Logs

variable (system : System Site Request Stmt Resp ε α World Change)
variable (guard : Request → List (LogEntry Stmt Resp ε) → Stmt → Prop)
variable (post : Request → List (LogEntry Stmt Resp ε) → Except ε α → Prop)

/-- The answers a statement can get: what some world answers, or a failure. -/
def Answers (stmt : Stmt) (answer : Except ε (Resp stmt)) : Prop :=
  (∃ world, (system.perform stmt world).1 = answer) ∨
    ∃ error, system.mayFail stmt error = true ∧ answer = .error error

/-- Every call has logged only what its request permits, and the rest of its
program obeys the guard and the postcondition of its request. -/
def Follows (pool : Pool Request Stmt Resp ε α World) : Prop :=
  ∀ id call, pool.Holds id call →
    Permitted (guard call.request) (Answers system) call.log ∧
      Obeys (guard call.request) (Answers system) (post call.request)
        call.rest call.log

variable {system} {guard} {post}
variable {pool next : Pool Request Stmt Resp ε α World}

omit [DecidableEq Site] in
theorem follows_init {world : World} :
    Follows system guard post (.init world) :=
  fun _ _ holds => absurd holds Pool.not_holds_init

omit [DecidableEq Site] in
theorem Follows.answered {id : Nat} {call : Call Request Stmt Resp ε α}
    {stmt : Stmt} {rest : Except ε (Resp stmt) → StatementTree Stmt Resp ε α}
    {answer : Except ε (Resp stmt)} {world : World}
    (follows : Follows system guard post pool) (holds : pool.Holds id call)
    (restEq : call.rest = .perform stmt rest)
    (may : Answers system stmt answer) :
    Follows system guard post
      (({ pool with world := world }).setCall id
        (call.answered stmt rest answer)) := by
  intro other found foundHolds
  rcases Pool.holds_setCall.mp foundHolds with ⟨-, rfl⟩ | ⟨-, foundHolds⟩
  · obtain ⟨permitted, obeys⟩ := follows id call holds
    rw [restEq] at obeys
    exact ⟨⟨obeys.1, may, permitted⟩, obeys.2 answer may⟩
  · exact follows other found foundHolds

/-- If every program obeys its guard and postcondition, every step keeps that
all calls follow them. -/
theorem follows_step
    (programs : ∀ request, Obeys (guard request) (Answers system)
      (post request) (system.program request) [])
    (event : Event Site Request ε Change)
    (follows : Follows system guard post pool)
    (stepEq : step system pool event = some next) :
    Follows system guard post next := by
  cases event with
  | start id request =>
      obtain ⟨-, rfl⟩ := step_start.mp stepEq
      intro other found holds
      rcases Pool.holds_setCall.mp holds with ⟨-, rfl⟩ | ⟨-, holds⟩
      · exact ⟨trivial, programs request⟩
      · exact follows other found holds
  | advance id =>
      obtain ⟨call, stmt, rest, holds, -, restEq, rfl⟩ :=
        step_advance.mp stepEq
      exact follows.answered holds restEq (.inl ⟨pool.world, rfl⟩)
  | fail id error =>
      obtain ⟨call, stmt, rest, holds, -, restEq, may, rfl⟩ :=
        step_fail.mp stepEq
      exact follows.answered holds restEq (.inr ⟨error, may, rfl⟩)
  | crash site =>
      intro id call holds
      obtain ⟨before, beforeHolds, requestEq, restEq, logEq, -⟩ :=
        holds_of_crash stepEq holds
      rw [requestEq, restEq, logEq]
      exact follows id before beforeHolds
  | change change =>
      obtain ⟨world, -, rfl⟩ := step_change.mp stepEq
      exact follows

omit [DecidableEq Site] in
theorem Follows.ended {id : Nat} {call : Call Request Stmt Resp ε α}
    {result : Except ε α} (follows : Follows system guard post pool)
    (holds : pool.Holds id call) (ended : call.rest = .done result) :
    post call.request call.log result := by
  have obeys := (follows id call holds).2
  rwa [ended] at obeys

omit [DecidableEq Site] in
/-- A call performs only statements its guard allows. -/
theorem Follows.allowed {id : Nat} {call : Call Request Stmt Resp ε α}
    {stmt : Stmt} {rest : Except ε (Resp stmt) → StatementTree Stmt Resp ε α}
    (follows : Follows system guard post pool) (holds : pool.Holds id call)
    (restEq : call.rest = .perform stmt rest) :
    guard call.request call.log stmt := by
  have obeys := (follows id call holds).2
  rw [restEq] at obeys
  exact obeys.1

end Logs

end CallPool
