import HexIam.CallPool

/-!
# Calls that come too late

A gate is a condition of the world that only some statements can bring about,
while other statements get a certain answer only where it holds.  A call that
starts where the gate is closed and still gets such an answer was let in by a
statement performed after its start.
-/

namespace GuardedRun

variable {State Event : Type*}

/-- At some point of the run, an event meets the condition. -/
def Reaches (step : State → Event → Option State)
    (condition : State → Event → Prop) (state : State) (events : List Event) :
    Prop :=
  ∃ first event second middle, events = first ++ event :: second ∧
    exec step state first = some middle ∧ condition middle event

variable {step : State → Event → Option State}
variable {condition : State → Event → Prop}

theorem reaches_of_head {state : State} {event : Event} {rest : List Event}
    (here : condition state event) :
    Reaches step condition state (event :: rest) :=
  ⟨[], event, rest, state, rfl, rfl, here⟩

theorem reaches_of_tail {state next : State} {event : Event} {rest : List Event}
    (stepEq : step state event = some next)
    (later : Reaches step condition next rest) :
    Reaches step condition state (event :: rest) := by
  obtain ⟨first, found, second, middle, rfl, runs, holds⟩ := later
  exact ⟨event :: first, found, second, middle, rfl,
    exec_cons_eq_some.mpr ⟨next, stepEq, runs⟩, holds⟩

/-- An invariant that every step keeps until an event meets the condition. -/
theorem reaches_or_kept {Inv : State → Prop}
    (keeps : ∀ state event next, Inv state → step state event = some next →
      condition state event ∨ Inv next)
    {state final : State} {events : List Event} (start : Inv state)
    (runs : exec step state events = some final) :
    Reaches step condition state events ∨ Inv final := by
  induction events generalizing state with
  | nil =>
      cases runs
      exact .inr start
  | cons event rest ih =>
      obtain ⟨next, stepEq, restRuns⟩ := exec_cons_eq_some.mp runs
      rcases keeps state event next start stepEq with here | kept
      · exact .inl (reaches_of_head here)
      · exact (ih kept restRuns).imp_left (reaches_of_tail stepEq)

theorem Reaches.append {state : State} {first second : List Event}
    (reaches : Reaches step condition state first) :
    Reaches step condition state (first ++ second) := by
  obtain ⟨before, event, after, middle, rfl, runs, holds⟩ := reaches
  exact ⟨before, event, after ++ second, middle, by simp, runs, holds⟩

theorem Reaches.after {state middle : State} {first second : List Event}
    (runs : exec step state first = some middle)
    (reaches : Reaches step condition middle second) :
    Reaches step condition state (first ++ second) := by
  induction first generalizing state with
  | nil =>
      cases runs
      exact reaches
  | cons event rest ih =>
      obtain ⟨next, stepEq, restRuns⟩ := exec_cons_eq_some.mp runs
      exact reaches_of_tail stepEq (ih restRuns)

/-- What holds of the states of a run may be used to weaken the condition. -/
theorem Reaches.mono {weaker : State → Event → Prop} {Inv : State → Prop}
    (keeps : ∀ state event next, Inv state → step state event = some next →
      Inv next)
    (weaken : ∀ state event, Inv state → condition state event →
      weaker state event)
    {state : State} {events : List Event} (start : Inv state)
    (reaches : Reaches step condition state events) :
    Reaches step weaker state events := by
  obtain ⟨before, event, after, middle, eventsEq, runs, holds⟩ := reaches
  exact ⟨before, event, after, middle, eventsEq, runs,
    weaken middle event (invariant keeps start runs) holds⟩

end GuardedRun

namespace CallPool

open StatementTree GuardedRun

variable {Site Request Stmt : Type} {Resp : Stmt → Type}
variable {ε α World Change : Type}

/-- The event performs a statement and gets this answer. -/
def Performs (system : System Site Request Stmt Resp ε α World Change)
    (pool : Pool Request Stmt Resp ε α World)
    (event : Event Site Request ε Change) (entry : LogEntry Stmt Resp ε) :
    Prop :=
  ∃ id call next, event = .advance id ∧ pool.Holds id call ∧
    call.crashed = false ∧ call.rest = .perform entry.1 next ∧
    (system.perform entry.1 pool.world).1 = entry.2

/-- A condition that only the statements of `opens` bring about, and without
which no statement is answered as `uses` says. -/
structure Gate (system : System Site Request Stmt Resp ε α World Change)
    (opened : World → Prop) (opens uses : LogEntry Stmt Resp ε → Prop) :
    Prop where
  perform : ∀ stmt world, opened (system.perform stmt world).2 →
    opened world ∨ opens ⟨stmt, (system.perform stmt world).1⟩
  crash : ∀ site world, opened (system.crash site world) → opened world
  change : ∀ change world after, system.change change world = some after →
    opened after → opened world
  answer : ∀ stmt world, uses ⟨stmt, (system.perform stmt world).1⟩ →
    opened world
  fail : ∀ stmt error, ¬ uses ⟨stmt, .error error⟩

/-- The gate is closed and the call with this id has not passed it. -/
def Outside (opened : World → Prop) (uses : LogEntry Stmt Resp ε → Prop)
    (id : Nat) (pool : Pool Request Stmt Resp ε α World) : Prop :=
  ¬ opened pool.world ∧
    ∀ call, pool.Holds id call → ∀ entry ∈ call.log, ¬ uses entry

variable {system : System Site Request Stmt Resp ε α World Change}
variable {opened : World → Prop} {opens uses : LogEntry Stmt Resp ε → Prop}
variable {pool next : Pool Request Stmt Resp ε α World} {id : Nat}

/-- A call that got another answer, which is not one that passes the gate. -/
theorem Outside.answered {other : Nat} {call : Call Request Stmt Resp ε α}
    {stmt : Stmt} {rest : Except ε (Resp stmt) → StatementTree Stmt Resp ε α}
    {answer : Except ε (Resp stmt)} {world : World}
    (outside : Outside opened uses id pool) (holds : pool.Holds other call)
    (closed : ¬ opened world) (unused : ¬ uses ⟨stmt, answer⟩) :
    Outside opened uses id (({ pool with world := world }).setCall other
      (call.answered stmt rest answer)) := by
  refine ⟨closed, fun found foundHolds entry entryMem => ?_⟩
  rcases Pool.holds_setCall.mp foundHolds with ⟨rfl, rfl⟩ | ⟨-, before⟩
  · rcases List.mem_cons.mp entryMem with rfl | earlier
    · exact unused
    · exact outside.2 call holds entry earlier
  · exact outside.2 found before entry entryMem

variable [DecidableEq Site]

theorem Outside.step (gate : Gate system opened opens uses)
    (outside : Outside opened uses id pool)
    {event : Event Site Request ε Change}
    (stepEq : CallPool.step system pool event = some next) :
    (∃ entry, opens entry ∧ Performs system pool event entry) ∨
      Outside opened uses id next := by
  cases event with
  | start other request =>
      obtain ⟨-, rfl⟩ := step_start.mp stepEq
      refine .inr ⟨outside.1, fun call holds entry entryMem => ?_⟩
      rcases Pool.holds_setCall.mp holds with ⟨-, rfl⟩ | ⟨-, holds⟩
      · cases entryMem
      · exact outside.2 call holds entry entryMem
  | advance other =>
      obtain ⟨call, stmt, rest, holds, alive, restEq, rfl⟩ :=
        step_advance.mp stepEq
      by_cases after : opened (system.perform stmt pool.world).2
      · have opening := (gate.perform stmt pool.world after).resolve_left outside.1
        exact .inl ⟨_, opening, other, call, rest, rfl, holds, alive, restEq, rfl⟩
      · exact .inr (outside.answered holds after fun used =>
          outside.1 (gate.answer stmt pool.world used))
  | fail other error =>
      obtain ⟨call, stmt, rest, holds, -, -, -, rfl⟩ := step_fail.mp stepEq
      exact .inr (outside.answered holds outside.1 (gate.fail stmt error))
  | crash site =>
      obtain ⟨worldEq, -⟩ := step_crash.mp stepEq
      refine .inr ⟨fun after => ?_, fun call holds entry entryMem => ?_⟩
      · exact outside.1 (gate.crash site pool.world (worldEq ▸ after))
      · obtain ⟨before, beforeHolds, -, -, logEq, -⟩ :=
          holds_of_crash stepEq holds
        exact outside.2 before beforeHolds entry (logEq ▸ entryMem)
  | change change =>
      obtain ⟨world, changed, rfl⟩ := step_change.mp stepEq
      exact .inr ⟨fun after => outside.1 (gate.change change _ _ changed after),
        outside.2⟩

/-- A call that starts outside a closed gate and passes it was let in by a
statement of the run. -/
theorem Gate.reaches_of_uses (gate : Gate system opened opens uses)
    {start final : Pool Request Stmt Resp ε α World}
    {events : List (Event Site Request ε Change)}
    {call : Call Request Stmt Resp ε α} {entry : LogEntry Stmt Resp ε}
    (unused : start.calls id = none) (closed : ¬ opened start.world)
    (runs : exec (CallPool.step system) start events = some final)
    (holds : final.Holds id call) (entryMem : entry ∈ call.log)
    (used : uses entry) :
    Reaches (CallPool.step system)
      (fun pool event => ∃ entry, opens entry ∧ Performs system pool event entry)
      start events := by
  have outside : Outside opened uses id start := by
    refine ⟨closed, fun call holds => ?_⟩
    rw [Pool.Holds, unused] at holds
    cases holds
  have keeps (pool : Pool Request Stmt Resp ε α World) (event)
      (next : Pool Request Stmt Resp ε α World)
      (kept : Outside opened uses id pool)
      (stepEq : CallPool.step system pool event = some next) :
      (∃ entry, opens entry ∧ Performs system pool event entry) ∨
        Outside opened uses id next :=
    kept.step gate stepEq
  refine (reaches_or_kept keeps outside runs).resolve_right fun kept => ?_
  exact kept.2 call holds entry entryMem used

end CallPool
