import HexIam.GuardedRun

/-!
# Refinement of runs

One system refines another when the other can take for each of its steps the
events that belong to it, possibly none, and the states stay related.  It can
then take the events that belong to a run.
-/

namespace GuardedRun

variable {State Event : Type*} {step : State → Event → Option State}

theorem exec_append {state : State} {first second : List Event} :
    exec step state (first ++ second) =
      (exec step state first).bind fun middle => exec step middle second := by
  induction first generalizing state with
  | nil => rfl
  | cons event rest ih =>
      rw [List.cons_append, exec_cons, exec_cons, Option.bind_assoc]
      exact congrArg _ (funext fun next => ih)

theorem exec_append_eq_some {state middle final : State}
    {first second : List Event} (runsFirst : exec step state first = some middle)
    (runsSecond : exec step middle second = some final) :
    exec step state (first ++ second) = some final := by
  rw [exec_append, runsFirst, Option.bind_some, runsSecond]

theorem exec_singleton {state next : State} {event : Event}
    (stepEq : step state event = some next) :
    exec step state [event] = some next := by
  rw [exec_cons, stepEq, Option.bind_some, exec_nil]

/-- A condition met along a run and along another one that follows it. -/
theorem along_append {condition : State → Event → Prop} {state : State}
    {first second : List Event} (along : Along step condition state first)
    (later : ∀ middle, exec step state first = some middle →
      Along step condition middle second) :
    Along step condition state (first ++ second) := by
  induction first generalizing state with
  | nil => exact later state rfl
  | cons event rest ih =>
      refine ⟨along.1, fun next stepEq => ih (along.2 next stepEq) ?_⟩
      exact fun middle runs =>
        later middle (exec_cons_eq_some.mpr ⟨next, stepEq, runs⟩)

variable {Abstract AbstractEvent : Type*}
variable {abstractStep : Abstract → AbstractEvent → Option Abstract}

/-- The events that belong to a run, from those that belong to each step. -/
def followed (step : State → Event → Option State)
    (follow : State → Event → List AbstractEvent) :
    State → List Event → List AbstractEvent
  | _, [] => []
  | state, event :: rest =>
      follow state event ++
        (step state event).elim [] fun next => followed step follow next rest

/-- From related states the events that belong to a step can be taken, and relate
the states again. -/
def Refines (step : State → Event → Option State)
    (abstractStep : Abstract → AbstractEvent → Option Abstract)
    (follow : State → Event → List AbstractEvent)
    (related : State → Abstract → Prop) : Prop :=
  ∀ state event next abstract, related state abstract →
    step state event = some next →
      ∃ after, exec abstractStep abstract (follow state event) = some after ∧
        related next after

/-- From related states the events that belong to a run can be taken. -/
theorem Refines.run {follow : State → Event → List AbstractEvent}
    {related : State → Abstract → Prop}
    (refines : Refines step abstractStep follow related) {state final : State}
    {abstract : Abstract} {events : List Event} (start : related state abstract)
    (runs : exec step state events = some final) :
    ∃ after, exec abstractStep abstract (followed step follow state events) =
        some after ∧
      related final after := by
  induction events generalizing state abstract with
  | nil =>
      cases runs
      exact ⟨abstract, rfl, start⟩
  | cons event rest ih =>
      obtain ⟨next, stepEq, restRuns⟩ := exec_cons_eq_some.mp runs
      obtain ⟨middle, runsFirst, here⟩ :=
        refines state event next abstract start stepEq
      obtain ⟨after, runsSecond, there⟩ := ih here restRuns
      refine ⟨after, ?_, there⟩
      rw [followed, stepEq]
      exact exec_append_eq_some runsFirst runsSecond

end GuardedRun
