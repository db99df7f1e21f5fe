import HexIam.CallPool
import HexIam.SessionService
import Mathlib.Tactic.IntervalCases

/-!
# Agreement of the workers' bloom filters

A worker learns of a revocation from the stream it replays at startup, from
its share of the consumer group, or from Pub/Sub.  Here any number of workers
start, replay, consume and subscribe between the steps of `revoke_token`
calls.  The group hands an entry to one worker only, so a worker that has read
the stream to its end and has not subscribed yet misses what is published in
between.
-/

namespace HexIam

open StatementTree CallPool GuardedRun

namespace WorkerSync

/-! ## The steps of a worker -/

/-- `BATCH_SIZE`. -/
def batchSize : Nat :=
  100

/-- A step of `TokenRevocationManager` on a worker: group creation, one
`XRANGE` of the replay, the subscription, one `XREADGROUP`, and the handling
of one entry or message. -/
inductive WorkerStep : Type
  | createGroup (worker : Nat)
  | replay (worker : Nat)
  | subscribe (worker : Nat)
  | readGroup (worker : Nat)
  | addReceived (worker : Nat)
  | handleMessage (worker : Nat)

/-- `if jti: bloom.add(jti)` for each id in turn. -/
def addAll (bloom : List String) (jtis : List String) : List String :=
  (jtis.filter filled).reverse ++ bloom

/-- The ids of the entries in one batch from a position. -/
def batch (world : World) (position : Nat) : List String :=
  (world.revokedJtis.drop position).take batchSize

/-- The effect of a step, if it is enabled. -/
def WorkerStep.apply (world : World) : WorkerStep → Option World
  | createGroup worker =>
      let state := world.workers worker
      if state.phase = .stopped then
        some ({ world with delivered := some (world.delivered.getD 0) }.setWorker
          worker { state with phase := .replaying 0 })
      else none
  | replay worker =>
      let state := world.workers worker
      match state.phase with
      | .replaying position =>
          let entries := batch world position
          if entries.isEmpty then
            some (world.setWorker worker { state with phase := .started })
          else
            some (world.setWorker worker { state with
              phase := .replaying (position + entries.length)
              bloom := addAll state.bloom entries })
      | _ => none
  | subscribe worker =>
      let state := world.workers worker
      if state.phase = .started then
        some (world.setWorker worker { state with phase := .subscribed })
      else none
  | readGroup worker =>
      let state := world.workers worker
      match world.delivered with
      | none => none
      | some delivered =>
          let entries := batch world delivered
          if (state.phase = .started ∨ state.phase = .subscribed) ∧
              state.received = [] ∧ entries ≠ [] then
            some ({ world with
              delivered := some (delivered + entries.length) }.setWorker worker
                { state with received := entries })
          else none
  | addReceived worker =>
      let state := world.workers worker
      match state.received with
      | [] => none
      | jti :: rest =>
          some (world.setWorker worker { state with
            received := rest
            bloom := addAll state.bloom [jti] })
  | handleMessage worker =>
      let state := world.workers worker
      match state.inbox with
      | [] => none
      | jti :: rest =>
          some (world.setWorker worker { state with
            inbox := rest
            bloom :=
              if jti ∈ state.bloom then state.bloom
              else addAll state.bloom [jti] })

/-! ## The system -/

/-- A call of `revoke_token` on a worker. -/
structure RevokeCall where
  worker : Nat
  jti : String
  userId : String
  tenantId : String
  reason : String
  deriving DecidableEq, Repr

/-- `revoke_token` calls and worker steps over one Redis, with no failures. -/
def system (deployment : Deployment) :
    System Empty RevokeCall Stmt Stmt.Resp Exn Bool World WorkerStep where
  site _ := none
  program call :=
    revokeToken call.worker (some call.jti) call.userId call.tenantId call.reason
  perform := perform deployment
  mayFail _ _ := false
  crash site _ := site.elim
  change step world := step.apply world

abbrev SyncPool := Pool RevokeCall Stmt Stmt.Resp Exn Bool World
abbrev SyncEvent := Event Empty RevokeCall Exn WorkerStep
abbrev Log := List (LogEntry Stmt Stmt.Resp Exn)

/-- No worker has started. -/
def Fresh (world : World) : Prop :=
  ∀ worker, (world.workers worker).phase = .stopped

/-- The worker has read the stream to its end. -/
def Replayed (state : Worker) : Prop :=
  state.phase = .started ∨ state.phase = .subscribed

/-- Nothing is left to deliver: no message or entry waits at a worker, and the
group has handed out the whole stream. -/
def Delivered (world : World) : Prop :=
  (∀ worker, (world.workers worker).inbox = [] ∧
    (world.workers worker).received = []) ∧
  ∀ delivered ∈ world.delivered, world.stream.length ≤ delivered

/-- Every running worker has every id in the stream; an empty `jti` field is
no id. -/
def Agreed (world : World) : Prop :=
  ∀ worker, Replayed (world.workers worker) →
    ∀ jti ∈ world.revokedJtis, filled jti = true → jti ∈ world.bloom worker

/-- The worker has the id, or has read it from the group. -/
def Has (state : Worker) (jti : String) : Prop :=
  jti ∈ state.bloom ∨ jti ∈ state.received

/-- An id is published only when every worker that has read the stream to its
end and not subscribed yet has it. -/
def Careful (pool : SyncPool) : SyncEvent → Prop
  | .advance id => ∀ call jti, pool.Holds id call →
      call.Next (.redis (.publish (some jti))) →
      ∀ worker, (pool.world.workers worker).phase = .started →
        Has (pool.world.workers worker) jti
  | _ => True

/-! ## What a call has logged -/

/-- The call has added the id to the stream. -/
def Streamed (log : Log) (jti : String) : Prop :=
  ∃ userId tenantId reason,
    (⟨.redis (.xadd (some jti) userId tenantId reason), .ok ()⟩ :
      LogEntry Stmt Stmt.Resp Exn) ∈ log

/-- The call has published the id. -/
def Published (log : Log) (jti : String) : Prop :=
  (⟨.redis (.publish (some jti)), .ok ()⟩ : LogEntry Stmt Stmt.Resp Exn) ∈ log

/-- An id is published after it is added, and added only before. -/
def inOrder (log : Log) (stmt : Stmt) : Prop :=
  ∀ jti userId tenantId reason,
    stmt = .redis (.xadd (some jti) userId tenantId reason) →
    ¬ Published log jti

/-- Every id added is published. -/
def allPublished (log : Log) (_ : Except Exn Bool) : Prop :=
  ∀ jti, Streamed log jti → Published log jti

/-- No call has added an id to the stream that it is still to publish. -/
def AllPublished (pool : SyncPool) : Prop :=
  ∀ id call, pool.Holds id call → ∀ jti, Streamed call.log jti →
    Published call.log jti

section Programs

variable {deployment : Deployment}

/-- Without failures a Redis call other than `bloomHas` is answered `ok`. -/
theorem answer_ok {stmt : Stmt} {answer : Except Exn stmt.Resp}
    (may : Answers (system deployment) stmt answer) :
    ∃ world, (perform deployment stmt world).1 = answer := by
  rcases may with answered | ⟨error, fails, -⟩
  · exact answered
  · cases fails

theorem revokeToken_publishes (call : RevokeCall) :
    Obeys inOrder (Answers (system deployment)) allPublished
      ((system deployment).program call) [] := by
  show Obeys inOrder _ allPublished (revokeToken ..) []
  unfold revokeToken ask
  simp only [bind_perform, tryCatch_perform]
  refine ⟨nofun, fun answer may => ?_⟩
  obtain ⟨-, rfl⟩ := answer_ok may
  refine ⟨fun jti userId tenantId reason _ published => ?_, fun answer may => ?_⟩
  · simp [Published] at published
  obtain ⟨-, rfl⟩ := answer_ok may
  refine ⟨nofun, fun answer may => ?_⟩
  obtain ⟨-, rfl⟩ := answer_ok may
  rintro jti ⟨userId, tenantId, reason, added⟩
  obtain ⟨rfl, -⟩ : jti = call.jti ∧ _ := by
    simpa [perform, RedisStmt.perform] using added
  simp [Published, perform, RedisStmt.perform]

end Programs

/-! ## What a step does to the workers -/

section Effects

/-- A worker keeps its phase and what it has read, and loses neither an id of
its filter nor a message. -/
structure Grows (before after : Worker) : Prop where
  phase : after.phase = before.phase
  received : after.received = before.received
  bloom : ∀ jti ∈ before.bloom, jti ∈ after.bloom
  inbox : ∀ jti ∈ before.inbox, jti ∈ after.inbox

theorem Grows.refl (state : Worker) : Grows state state :=
  ⟨rfl, rfl, fun _ => id, fun _ => id⟩

/-- A statement only adds to the filters and inboxes. -/
theorem grows_perform (deployment : Deployment) (world : World) (stmt : Stmt)
    (worker : Nat) :
    Grows (world.workers worker)
      ((perform deployment stmt world).2.workers worker) := by
  cases stmt with
  | redis stmt =>
      cases stmt with
      | bloomAdd target jti =>
          cases jti with
          | none => exact .refl _
          | some jti =>
              simp only [perform, RedisStmt.perform, World.bloomAdd,
                World.setWorker_workers]
              by_cases same : worker = target
              · subst same
                rw [Function.update_self]
                exact ⟨rfl, rfl, fun other => List.mem_cons_of_mem jti,
                  fun _ => id⟩
              · rw [Function.update_of_ne same]
                exact .refl _
      | bloomHas target jti => exact .refl _
      | xadd jti userId tenantId reason => cases jti <;> exact .refl _
      | publish jti =>
          cases jti with
          | none => exact .refl _
          | some jti =>
              simp only [perform, RedisStmt.perform, World.publish]
              split
              · exact ⟨rfl, rfl, fun _ => id,
                  fun _ => List.mem_append_left [jti]⟩
              · exact .refl _
  | _ => exact .refl _

theorem mem_inbox_publish {world : World} {worker : Nat} {jti : String}
    (subscribed : (world.workers worker).phase = .subscribed) :
    jti ∈ ((world.publish jti).workers worker).inbox := by
  simp [World.publish, subscribed]

theorem mem_addAll {bloom jtis : List String} {jti : String} :
    jti ∈ addAll bloom jtis ↔
      jti ∈ jtis ∧ filled jti = true ∨ jti ∈ bloom := by
  simp [addAll]

end Effects

/-! ## The invariant -/

section Invariant

variable {deployment : Deployment} {pool next : SyncPool}

/-- The worker has the id, holds a message with it, or some call that has
added it is still to publish it. -/
def Covered (pool : SyncPool) (state : Worker) (jti : String) : Prop :=
  Has state jti ∨ jti ∈ state.inbox ∨
    ∃ id call, pool.Holds id call ∧ Streamed call.log jti ∧
      ¬ Published call.log jti

/-- What holds in every state of a careful run. -/
structure Synced (deployment : Deployment) (pool : SyncPool) : Prop where
  follows : Follows (system deployment) (fun _ => inOrder)
    (fun _ => allPublished) pool
  alive : ∀ id call, pool.Holds id call → call.crashed = false
  covered : ∀ worker, Replayed (pool.world.workers worker) →
    ∀ jti ∈ pool.world.revokedJtis, filled jti = true →
      Covered pool (pool.world.workers worker) jti
  replaying : ∀ worker position,
    (pool.world.workers worker).phase = .replaying position →
    position ≤ pool.world.revokedJtis.length ∧
      ∀ jti ∈ pool.world.revokedJtis.take position, filled jti = true →
        jti ∈ pool.world.bloom worker

theorem synced_init {world : World} (fresh : Fresh world) :
    Synced deployment (.init world) where
  follows := follows_init
  alive _ _ holds := absurd holds Pool.not_holds_init
  covered worker replayed := by
    rcases replayed with phase | phase <;>
      exact absurd ((fresh worker).symm.trans phase) nofun
  replaying worker position phase :=
    absurd ((fresh worker).symm.trans phase) nofun

theorem Covered.mono {state after : Worker} {jti : String}
    (covered : Covered pool state jti) (grows : Grows state after)
    (calls : next.calls = pool.calls) : Covered next after jti := by
  rcases covered with (inBloom | received) | inInbox | pending
  · exact .inl (.inl (grows.bloom jti inBloom))
  · exact .inl (.inr (grows.received ▸ received))
  · exact .inr (.inl (grows.inbox jti inInbox))
  · refine .inr (.inr ?_)
    simpa only [Pool.Holds, calls] using pending

theorem synced_start {id : Nat} {request : RevokeCall}
    (inv : Synced deployment pool)
    (stepEq : step (system deployment) pool (.start id request) = some next) :
    Synced deployment next := by
  have follows := follows_step revokeToken_publishes _ inv.follows stepEq
  obtain ⟨free, rfl⟩ := step_start.mp stepEq
  refine ⟨follows, ?_, ?_, inv.replaying⟩
  · intro other call holds
    rcases Pool.holds_setCall.mp holds with ⟨-, rfl⟩ | ⟨-, holds⟩
    · rfl
    · exact inv.alive other call holds
  intro worker replayed jti inStream isId
  rcases inv.covered worker replayed jti inStream isId with
    has | inInbox | ⟨other, call, holds, pending⟩
  · exact .inl has
  · exact .inr (.inl inInbox)
  · have away : other ≠ id := by
      rintro rfl
      simp [Pool.Holds, free] at holds
    exact .inr (.inr ⟨other, call, Pool.holds_setCall.mpr
      (.inr ⟨away, holds⟩), pending⟩)

/-- A statement of a call keeps every worker covered: an id just added is
still to be published, and one just published has reached the subscribed
workers, while the others have it. -/
theorem synced_advance {id : Nat} (inv : Synced deployment pool)
    (careful : Careful pool (.advance id))
    (stepEq : step (system deployment) pool (.advance id) = some next) :
    Synced deployment next := by
  have follows := follows_step revokeToken_publishes _ inv.follows stepEq
  obtain ⟨call, stmt, rest, holds, alive, restEq, rfl⟩ :=
    step_advance.mp stepEq
  have ordered : inOrder call.log stmt := inv.follows.allowed holds restEq
  have streamEq := revokedJtis_perform deployment stmt pool.world
  refine ⟨follows, ?_, ?_, ?_⟩
  · intro other found foundHolds
    rcases Pool.holds_setCall.mp foundHolds with ⟨-, rfl⟩ | ⟨-, foundHolds⟩
    · exact alive
    · exact inv.alive other found foundHolds
  · intro worker replayed jti inStream isId
    have grows := grows_perform deployment pool.world stmt worker
    have replayedBefore : Replayed (pool.world.workers worker) := by
      unfold Replayed at replayed ⊢
      rwa [← grows.phase]
    -- the call that takes the step covers what it has added and not published
    have byThis (added : Streamed (⟨stmt, (perform deployment stmt
          pool.world).1⟩ :: call.log) jti)
        (pending : ¬ Published (⟨stmt, (perform deployment stmt
          pool.world).1⟩ :: call.log) jti) :
        Covered (({ pool with
            world := (perform deployment stmt pool.world).2 } :
              SyncPool).setCall id (call.answered stmt rest
                (perform deployment stmt pool.world).1))
          ((perform deployment stmt pool.world).2.workers worker) jti :=
      .inr (.inr ⟨id, _, Pool.holds_setCall.mpr (.inl ⟨rfl, rfl⟩), added,
        pending⟩)
    have inStream : jti ∈ pool.world.revokedJtis ++ stmt.xaddJti.toList :=
      streamEq ▸ inStream
    rcases List.mem_append.mp inStream with before | new
    · rcases inv.covered worker replayedBefore jti before isId with
        (inBloom | received) | inInbox |
          ⟨other, found, foundHolds, added, pending⟩
      · exact .inl (.inl (grows.bloom jti inBloom))
      · exact .inl (.inr (grows.received ▸ received))
      · exact .inr (.inl (grows.inbox jti inInbox))
      · by_cases same : other = id
        · subst same
          cases Pool.Holds.unique foundHolds holds
          by_cases publishes : stmt = .redis (.publish (some jti))
          · subst publishes
            rcases replayedBefore with started | subscribed
            · rcases careful call jti holds ⟨alive, rest, restEq⟩ worker
                started with inBloom | received
              · exact .inl (.inl (grows.bloom jti inBloom))
              · exact .inl (.inr (grows.received ▸ received))
            · exact .inr (.inl (mem_inbox_publish subscribed))
          · obtain ⟨userId, tenantId, reason, entryMem⟩ := added
            refine byThis ⟨userId, tenantId, reason,
              List.mem_cons_of_mem _ entryMem⟩ fun published => ?_
            rcases List.mem_cons.mp published with newest | published
            · exact publishes (congrArg Sigma.fst newest).symm
            · exact pending published
        · exact .inr (.inr ⟨other, found, Pool.holds_setCall.mpr
            (.inr ⟨same, foundHolds⟩), added, pending⟩)
    · -- the statement is the `xadd` of this id
      cases stmt with
      | redis stmt =>
          cases stmt with
          | xadd found userId tenantId reason =>
              obtain rfl : found = some jti := by
                simpa [Stmt.xaddJti] using new
              refine byThis ⟨userId, tenantId, reason,
                List.mem_cons_self⟩ fun published => ?_
              rcases List.mem_cons.mp published with newest | published
              · cases newest
              · exact ordered jti userId tenantId reason rfl published
          | _ => cases new
      | _ => cases new
  · intro worker position phase
    have grows := grows_perform deployment pool.world stmt worker
    obtain ⟨bound, read⟩ := inv.replaying worker position
      (grows.phase ▸ phase)
    refine ⟨?_, fun jti jtiMem isId => ?_⟩
    · refine le_trans bound ?_
      rw [Pool.setCall_world]
      exact le_of_le_of_eq (by simp) (congrArg List.length streamEq).symm
    · have jtiMem : jti ∈ (pool.world.revokedJtis ++
          stmt.xaddJti.toList).take position :=
        streamEq ▸ jtiMem
      rw [List.take_append_of_le_length bound] at jtiMem
      exact grows.bloom jti (read jti jtiMem isId)

/-- A change of one worker that keeps it covered, if it has read the stream to
its end, and keeps it on its position, if it is replaying, keeps the
invariant. -/
theorem Synced.setWorker {worker : Nat} {state : Worker} {world : World}
    (inv : Synced deployment pool)
    (streamEq : world.revokedJtis = pool.world.revokedJtis)
    (workersEq : world.workers = pool.world.workers)
    (covered : Replayed state → ∀ jti ∈ pool.world.revokedJtis,
      filled jti = true → Covered pool state jti)
    (replaying : ∀ position, state.phase = .replaying position →
      position ≤ pool.world.revokedJtis.length ∧
        ∀ jti ∈ pool.world.revokedJtis.take position, filled jti = true →
          jti ∈ state.bloom) :
    Synced deployment { pool with world := world.setWorker worker state } where
  follows := inv.follows
  alive := inv.alive
  covered other replayed jti inStream isId := by
    have before : jti ∈ pool.world.revokedJtis := streamEq ▸ inStream
    by_cases same : other = worker
    · subst same
      simp only [World.setWorker_workers, Function.update_self] at replayed ⊢
      exact (covered replayed jti before isId).mono (.refl _) rfl
    · simp only [World.setWorker_workers, workersEq,
        Function.update_of_ne same] at replayed ⊢
      exact (inv.covered other replayed jti before isId).mono (.refl _) rfl
  replaying other position phase := by
    have sameStream : (world.setWorker worker state).revokedJtis =
        pool.world.revokedJtis := streamEq
    simp only [sameStream, World.bloom]
    by_cases same : other = worker
    · subst same
      simp only [World.setWorker_workers, Function.update_self] at phase ⊢
      exact replaying position phase
    · simp only [World.setWorker_workers, workersEq,
        Function.update_of_ne same] at phase ⊢
      exact inv.replaying other position phase

/-- The replay ends only at the end of the stream. -/
theorem Synced.replay {worker : Nat} {world : World}
    (inv : Synced deployment pool)
    (changed : (WorkerStep.replay worker).apply pool.world = some world) :
    Synced deployment { pool with world := world } := by
  simp only [WorkerStep.apply] at changed
  split at changed
  case h_2 => cases changed
  case h_1 position phase =>
    obtain ⟨bound, read⟩ := inv.replaying worker position phase
    split at changed
    case isTrue atEnd =>
      cases changed
      refine inv.setWorker rfl rfl ?_ nofun
      intro _ jti inStream isId
      have noneLeft : pool.world.revokedJtis.length ≤ position := by
        have empty := List.isEmpty_iff.mp atEnd
        simp only [batch, batchSize, List.take_eq_nil_iff,
          List.drop_eq_nil_iff] at empty
        omega
      refine .inl (.inl (read jti ?_ isId))
      rwa [List.take_of_length_le noneLeft]
    case isFalse =>
      cases changed
      refine inv.setWorker rfl rfl ?_ ?_
      · rintro (impossible | impossible) <;> cases impossible
      · rintro after phaseEq
        cases phaseEq
        have lengthEq : (batch pool.world position).length =
            min batchSize (pool.world.revokedJtis.length - position) := by
          simp [batch]
        refine ⟨by omega, fun jti jtiMem isId => ?_⟩
        have splitRead : pool.world.revokedJtis.take
            (position + (batch pool.world position).length) =
            pool.world.revokedJtis.take position ++
              batch pool.world position := by
          rw [List.take_add]
          congr 1
          rw [lengthEq, batch, List.take_eq_take_iff, List.length_drop]
          omega
        rw [splitRead, List.mem_append] at jtiMem
        rcases jtiMem with before | new
        · exact mem_addAll.mpr (.inr (read jti before isId))
        · exact mem_addAll.mpr (.inl ⟨new, isId⟩)

/-- The id of a message is in the filter once the message is handled. -/
theorem Synced.handleMessage {worker : Nat} {world : World}
    (inv : Synced deployment pool)
    (changed : (WorkerStep.handleMessage worker).apply pool.world = some world) :
    Synced deployment { pool with world := world } := by
  simp only [WorkerStep.apply] at changed
  split at changed
  case h_1 => cases changed
  case h_2 newest rest inbox =>
    cases changed
    have kept : ∀ jti ∈ pool.world.bloom worker,
        jti ∈ if newest ∈ (pool.world.workers worker).bloom then
          (pool.world.workers worker).bloom
        else addAll (pool.world.workers worker).bloom [newest] := by
      intro jti inBloom
      split
      · exact inBloom
      · exact mem_addAll.mpr (.inr inBloom)
    refine inv.setWorker rfl rfl ?_ ?_
    · intro replayed jti inStream isId
      rcases inv.covered worker replayed jti inStream isId with
        (inBloom | received) | inInbox | pending
      · exact .inl (.inl (kept jti inBloom))
      · exact .inl (.inr received)
      · rw [inbox] at inInbox
        rcases List.mem_cons.mp inInbox with rfl | inRest
        · refine .inl (.inl ?_)
          show jti ∈ ite _ _ _
          split
          · assumption
          · exact mem_addAll.mpr (.inl ⟨List.mem_singleton_self _, isId⟩)
        · exact .inr (.inl inRest)
      · exact .inr (.inr pending)
    · intro position phase
      obtain ⟨bound, read⟩ := inv.replaying worker position phase
      exact ⟨bound, fun jti jtiMem isId => kept jti (read jti jtiMem isId)⟩

/-- A worker step never loses an id: what is read or received ends up in the
filter. -/
theorem synced_change {workerStep : WorkerStep} (inv : Synced deployment pool)
    (stepEq : step (system deployment) pool (.change workerStep) = some next) :
    Synced deployment next := by
  obtain ⟨world, changed, rfl⟩ := step_change.mp stepEq
  replace changed : workerStep.apply pool.world = some world := changed
  cases workerStep with
  | createGroup worker =>
      simp only [WorkerStep.apply] at changed
      split at changed
      case isFalse => cases changed
      case isTrue =>
        cases changed
        refine inv.setWorker rfl rfl ?_ ?_
        · rintro (phase | phase) <;> cases phase
        · rintro position phase
          cases phase
          simp
  | replay worker => exact inv.replay changed
  | subscribe worker =>
      simp only [WorkerStep.apply] at changed
      split at changed
      case isFalse => cases changed
      case isTrue started =>
        cases changed
        refine inv.setWorker rfl rfl ?_ nofun
        intro _ jti inStream isId
        exact inv.covered worker (.inl started) jti inStream isId
  | readGroup worker =>
      simp only [WorkerStep.apply] at changed
      split at changed
      case h_1 => cases changed
      case h_2 delivered _ =>
        split at changed
        case isFalse => cases changed
        case isTrue enabled =>
          cases changed
          refine inv.setWorker rfl rfl ?_ ?_
          · intro replayed jti inStream isId
            rcases inv.covered worker replayed jti inStream isId with
              (inBloom | received) | rest
            · exact .inl (.inl inBloom)
            · rw [enabled.2.1] at received
              cases received
            · exact .inr rest
          · exact inv.replaying worker
  | addReceived worker =>
      simp only [WorkerStep.apply] at changed
      split at changed
      case h_1 => cases changed
      case h_2 newest rest received =>
        cases changed
        refine inv.setWorker rfl rfl ?_ ?_
        · intro replayed jti inStream isId
          rcases inv.covered worker replayed jti inStream isId with
            (inBloom | inReceived) | others
          · exact .inl (.inl (mem_addAll.mpr (.inr inBloom)))
          · rw [received] at inReceived
            rcases List.mem_cons.mp inReceived with rfl | inRest
            · exact .inl (.inl (mem_addAll.mpr
                (.inl ⟨List.mem_singleton_self _, isId⟩)))
            · exact .inl (.inr inRest)
          · exact .inr others
        · intro position phase
          obtain ⟨bound, read⟩ := inv.replaying worker position phase
          exact ⟨bound, fun jti jtiMem isId =>
            mem_addAll.mpr (.inr (read jti jtiMem isId))⟩
  | handleMessage worker => exact inv.handleMessage changed

theorem synced_step (event : SyncEvent) (inv : Synced deployment pool)
    (careful : Careful pool event)
    (stepEq : step (system deployment) pool event = some next) :
    Synced deployment next := by
  cases event with
  | start id request => exact synced_start inv stepEq
  | advance id => exact synced_advance inv careful stepEq
  | fail id error =>
      obtain ⟨_, _, _, -, -, -, fails, -⟩ := step_fail.mp stepEq
      cases fails
  | crash site => exact site.elim
  | change workerStep => exact synced_change inv stepEq

/-- When every added id is published and nothing is left to deliver, coverage
means that the id is in the filter. -/
theorem agreed_of_published (inv : Synced deployment pool)
    (published : AllPublished pool) (delivered : Delivered pool.world) :
    Agreed pool.world := by
  intro worker replayed jti inStream isId
  rcases inv.covered worker replayed jti inStream isId with
    (inBloom | received) | inInbox | ⟨id, call, holds, added, pending⟩
  · exact inBloom
  · rw [(delivered.1 worker).2] at received
    cases received
  · rw [(delivered.1 worker).1] at inInbox
    cases inInbox
  · exact absurd (published id call holds jti added) pending

/-- Calls that have ended have published what they added. -/
theorem published_of_quiet (inv : Synced deployment pool) (quiet : pool.Quiet) :
    AllPublished pool := by
  intro id call holds jti added
  have ended : ∃ result, call.rest = .done result := by
    by_contra unfinished
    exact quiet id call holds ⟨inv.alive id call holds, fun result restEq =>
      unfinished ⟨result, restEq⟩⟩
  obtain ⟨result, restEq⟩ := ended
  exact inv.follows.ended holds restEq jti added

end Invariant

/-! ## The result -/

theorem synced_of_run {deployment : Deployment} {world : World}
    (fresh : Fresh world) {events : List SyncEvent} {pool : SyncPool}
    (careful : Along (step (system deployment)) Careful (.init world) events)
    (runs : exec (step (system deployment)) (.init world) events = some pool) :
    Synced deployment pool :=
  invariant_along (fun _ event _ inv careful stepEq =>
    synced_step event inv careful stepEq) (synced_init fresh) careful runs

/-- In every interleaving whose publications are all careful, once nothing is left
to publish or to deliver, every running worker has every id in the stream. -/
theorem workers_agree (deployment : Deployment) {world : World}
    (fresh : Fresh world) {events : List SyncEvent} {pool : SyncPool}
    (careful : Along (step (system deployment)) Careful (.init world) events)
    (runs : exec (step (system deployment)) (.init world) events = some pool)
    (published : AllPublished pool) (delivered : Delivered pool.world) :
    Agreed pool.world :=
  agreed_of_published (synced_of_run fresh careful runs) published delivered

/-! ## A missed revocation, and a run that misses none -/

/-- Worker 0 starts and subscribes, worker 1 starts and reads the stream to its
end. -/
def startup : List SyncEvent :=
  [.change (.createGroup 0), .change (.replay 0), .change (.subscribe 0),
    .change (.createGroup 1), .change (.replay 1)]

/-- Worker 0 revokes an id and takes the entry from the group. -/
def revocation : List SyncEvent :=
  [.start 0 ⟨0, "u-1", "u", "t", "logout"⟩, .advance 0, .advance 0, .advance 0,
    .change (.readGroup 0), .change (.addReceived 0),
    .change (.handleMessage 0)]

/-- Worker 1 subscribes after the publication: nothing is left to deliver, and
its filter lacks the id. -/
theorem late_subscriber_misses_revocation :
    Fresh {} ∧
      ∃ pool, exec (step (system (.plain []))) (.init {})
          (startup ++ revocation ++ [.change (.subscribe 1)]) = some pool ∧
        pool.Quiet ∧ Delivered pool.world ∧ ¬ Agreed pool.world := by
  have runs : exec (step (system (.plain []))) (.init {})
      (startup ++ revocation ++ [.change (.subscribe 1)]) = some _ := rfl
  refine ⟨fun _ => rfl, _, runs, ?_, ⟨?_, ?_⟩, ?_⟩
  · refine quiet_of_exec 1 runs ?_ ?_
    · intro id large request
      simp [startup, revocation]
      omega
    · intro id small call holds running
      interval_cases id
      cases holds
      exact running.2 _ rfl
  · intro worker
    by_cases first : worker = 0
    · subst first
      exact ⟨rfl, rfl⟩
    · by_cases second : worker = 1
      · subst second
        exact ⟨rfl, rfl⟩
      · simp [Pool.setCall, Pool.init, system, perform, RedisStmt.perform,
          World.publish, World.bloomAdd, World.setWorker,
          Function.update_of_ne first, Function.update_of_ne second]
  · intro delivered deliveredEq
    cases deliveredEq
    decide
  · intro agreed
    exact absurd (agreed 1 (.inr rfl) "u-1" (List.mem_singleton.mpr rfl) rfl)
      (by decide)

theorem careful_of_none_started {pool : SyncPool} {id : Nat}
    (noneStarted : ∀ worker, (pool.world.workers worker).phase ≠ .started) :
    Careful pool (.advance id) :=
  fun _ _ _ _ worker started => absurd started (noneStarted worker)

/-- When worker 1 subscribes before the revocation, both workers have the
id. -/
theorem subscribed_workers_agree :
    ∃ pool, exec (step (system (.plain []))) (.init {})
        (startup ++ [.change (.subscribe 1)] ++ revocation ++
          [.change (.handleMessage 1)]) = some pool ∧ Agreed pool.world := by
  have careful : Along (step (system (.plain []))) Careful (.init {})
      (startup ++ [.change (.subscribe 1)] ++ revocation ++
        [.change (.handleMessage 1)]) := by
    refine along_of_step rfl trivial (along_of_step rfl trivial
      (along_of_step rfl trivial (along_of_step rfl trivial
      (along_of_step rfl trivial (along_of_step rfl trivial
      (along_of_step rfl trivial (along_of_step rfl ?_
      (along_of_step rfl ?_ (along_of_step rfl ?_
      (along_of_step rfl trivial (along_of_step rfl trivial
      (along_of_step rfl trivial (along_of_step rfl trivial
        (along_nil _))))))))))))))
    all_goals
      refine careful_of_none_started fun worker => ?_
      by_cases first : worker = 0
      · subst first
        decide
      · by_cases second : worker = 1
        · subst second
          decide
        · simp [Pool.setCall, Pool.init, system, perform, RedisStmt.perform,
            World.bloomAdd, World.setWorker, Function.update_of_ne first,
            Function.update_of_ne second]
  have runs : exec (step (system (.plain []))) (.init {})
      (startup ++ [.change (.subscribe 1)] ++ revocation ++
        [.change (.handleMessage 1)]) = some _ := rfl
  have synced := synced_of_run (fun _ => rfl) careful runs
  refine ⟨_, runs, workers_agree (.plain []) (fun _ => rfl) careful runs
    (published_of_quiet synced ?_) ⟨?_, ?_⟩⟩
  · refine quiet_of_exec 1 runs ?_ ?_
    · intro id large request
      simp [startup, revocation]
      omega
    · intro id small call holds running
      interval_cases id
      cases holds
      exact running.2 _ rfl
  · intro worker
    by_cases first : worker = 0
    · subst first
      exact ⟨rfl, rfl⟩
    · by_cases second : worker = 1
      · subst second
        exact ⟨rfl, rfl⟩
      · simp [Pool.setCall, Pool.init, system, perform, RedisStmt.perform,
          World.publish, World.bloomAdd, World.setWorker,
          Function.update_of_ne first, Function.update_of_ne second]
  · intro delivered deliveredEq
    cases deliveredEq
    decide

end WorkerSync

end HexIam
