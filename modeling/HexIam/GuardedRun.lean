import Mathlib.Data.Option.Basic
import Mathlib.Data.List.Basic

/-!
# Runs of a partial step function and conditions along them

A system is a partial step function on states and events: an event that is
not enabled has no successor.  A run is a list of events.  Besides invariants
of every reachable state, this file treats conditions that a run may or may
not meet at each of its steps, and invariants that hold only along the runs
which meet such a condition.
-/

namespace GuardedRun

variable {State Event : Type*}

/-- Run a list of events.  A run that asks for a disabled event has no
result. -/
def exec (step : State → Event → Option State) :
    State → List Event → Option State
  | state, [] => some state
  | state, event :: rest =>
      (step state event).bind fun next => exec step next rest

/-- Every event of the run satisfies `condition` in the state it meets. -/
def Along (step : State → Event → Option State)
    (condition : State → Event → Prop) : State → List Event → Prop
  | _, [] => True
  | state, event :: rest =>
      condition state event ∧
        ∀ next, step state event = some next → Along step condition next rest

variable {step : State → Event → Option State}
variable {condition : State → Event → Prop}

@[simp]
theorem exec_nil (state : State) : exec step state [] = some state :=
  rfl

theorem exec_cons (state : State) (event : Event) (rest : List Event) :
    exec step state (event :: rest) =
      (step state event).bind fun next => exec step next rest :=
  rfl

theorem exec_cons_eq_some {state final : State} {event : Event}
    {rest : List Event} :
    exec step state (event :: rest) = some final ↔
      ∃ next, step state event = some next ∧
        exec step next rest = some final := by
  simp [exec_cons, Option.bind_eq_some_iff]

/-- Where every event is enabled, every run has a result. -/
theorem exec_of_total {next : State → Event → State}
    (total : ∀ state event, step state event = some (next state event))
    (state : State) (events : List Event) :
    ∃ final, exec step state events = some final := by
  induction events generalizing state with
  | nil => exact ⟨state, rfl⟩
  | cons event rest ih =>
      obtain ⟨final, runs⟩ := ih (next state event)
      exact ⟨final, exec_cons_eq_some.mpr ⟨_, total state event, runs⟩⟩

@[simp]
theorem along_nil (state : State) : Along step condition state [] :=
  trivial

theorem along_cons {state : State} {event : Event} {rest : List Event} :
    Along step condition state (event :: rest) ↔
      condition state event ∧
        ∀ next, step state event = some next →
          Along step condition next rest :=
  Iff.rfl

theorem along_of_step {state next : State} {event : Event} {rest : List Event}
    (stepEq : step state event = some next) (here : condition state event)
    (along : Along step condition next rest) :
    Along step condition state (event :: rest) :=
  ⟨here, fun _ stepEq' => Option.some.inj (stepEq.symm.trans stepEq') ▸ along⟩

instance decidableAlong [∀ state event, Decidable (condition state event)] :
    ∀ state events, Decidable (Along step condition state events)
  | _, [] => isTrue trivial
  | state, event :: rest =>
      match stepEq : step state event with
      | none => decidable_of_iff (condition state event) <| by
          simp [along_cons, stepEq]
      | some next =>
          have := decidableAlong next rest
          decidable_of_iff (condition state event ∧
            Along step condition next rest) <| by
              simp [along_cons, stepEq]

theorem along_of_forall (holds : ∀ state event, condition state event)
    (state : State) (events : List Event) : Along step condition state events := by
  induction events generalizing state with
  | nil => trivial
  | cons event rest ih => exact ⟨holds state event, fun next _ => ih next⟩

theorem along_mono {weaker : State → Event → Prop}
    (implies : ∀ state event, condition state event → weaker state event)
    {state : State} {events : List Event}
    (along : Along step condition state events) :
    Along step weaker state events := by
  induction events generalizing state with
  | nil => trivial
  | cons event rest ih =>
      exact ⟨implies state event along.1,
        fun next stepEq => ih (along.2 next stepEq)⟩

/-- What holds of every event of a run is met along it. -/
theorem along_and {kind : Event → Prop} {state : State} {events : List Event}
    (all : ∀ event ∈ events, kind event)
    (along : Along step condition state events) :
    Along step (fun state event => kind event ∧ condition state event) state
      events := by
  induction events generalizing state with
  | nil => trivial
  | cons event rest ih =>
      obtain ⟨here, later⟩ := List.forall_mem_cons.mp all
      exact ⟨⟨here, along.1⟩, fun next stepEq => ih later (along.2 next stepEq)⟩

/-- Two conditions that are met along a run are met together. -/
theorem along_both {other : State → Event → Prop} {state : State}
    {events : List Event} (along : Along step condition state events)
    (alongOther : Along step other state events) :
    Along step (fun state event => condition state event ∧ other state event)
      state events := by
  induction events generalizing state with
  | nil => trivial
  | cons event rest ih =>
      exact ⟨⟨along.1, alongOther.1⟩, fun next stepEq =>
        ih (along.2 next stepEq) (alongOther.2 next stepEq)⟩

/-- A condition met along a run is met along each of its prefixes. -/
theorem along_of_append {state : State} {first second : List Event}
    (along : Along step condition state (first ++ second)) :
    Along step condition state first := by
  induction first generalizing state with
  | nil => trivial
  | cons event rest ih =>
      exact ⟨along.1, fun next stepEq => ih (along.2 next stepEq)⟩

theorem along_rest {state middle : State} {first second : List Event}
    (along : Along step condition state (first ++ second))
    (runs : exec step state first = some middle) :
    Along step condition middle second := by
  induction first generalizing state with
  | nil =>
      cases runs
      exact along
  | cons event rest ih =>
      obtain ⟨next, stepEq, restRuns⟩ := exec_cons_eq_some.mp runs
      exact ih (along.2 next stepEq) restRuns

/-- An invariant that every step meeting the condition preserves holds at the
end of every run that meets the condition throughout. -/
theorem invariant_along {Inv : State → Prop}
    (keeps : ∀ state event next, Inv state → condition state event →
      step state event = some next → Inv next)
    {state final : State} {events : List Event} (start : Inv state)
    (along : Along step condition state events)
    (runs : exec step state events = some final) : Inv final := by
  induction events generalizing state with
  | nil =>
      cases runs
      exact start
  | cons event rest ih =>
      obtain ⟨next, stepEq, restRuns⟩ := exec_cons_eq_some.mp runs
      exact ih (keeps state event next start along.1 stepEq)
        (along.2 next stepEq) restRuns

/-- What the condition gives in every state of an invariant is met along the
runs that meet the condition, if these preserve the invariant. -/
theorem along_of_invariant {Inv : State → Prop} {property : State → Event → Prop}
    (keeps : ∀ state event next, Inv state → condition state event →
      step state event = some next → Inv next)
    (gives : ∀ state event, Inv state → condition state event →
      property state event)
    {state : State} {events : List Event} (start : Inv state)
    (along : Along step condition state events) :
    Along step property state events := by
  induction events generalizing state with
  | nil => trivial
  | cons event rest ih =>
      refine ⟨gives state event start along.1, fun next stepEq => ?_⟩
      exact ih (keeps state event next start along.1 stepEq)
        (along.2 next stepEq)

/-- An invariant that every step preserves holds at the end of every run. -/
theorem invariant {Inv : State → Prop}
    (keeps : ∀ state event next, Inv state →
      step state event = some next → Inv next)
    {state final : State} {events : List Event} (start : Inv state)
    (runs : exec step state events = some final) : Inv final := by
  induction events generalizing state with
  | nil =>
      cases runs
      exact start
  | cons event rest ih =>
      obtain ⟨next, stepEq, restRuns⟩ := exec_cons_eq_some.mp runs
      exact ih (keeps state event next start stepEq) restRuns

/-- The property holds in every state the run passes through. -/
def Always (step : State → Event → Option State) (property : State → Prop) :
    State → List Event → Prop
  | state, [] => property state
  | state, event :: rest =>
      property state ∧
        ∀ next, step state event = some next → Always step property next rest

theorem always_cons {property : State → Prop} {state : State} {event : Event}
    {rest : List Event} :
    Always step property state (event :: rest) ↔
      property state ∧
        ∀ next, step state event = some next →
          Always step property next rest :=
  Iff.rfl

theorem always_here {property : State → Prop} {state : State}
    {events : List Event} (always : Always step property state events) :
    property state := by
  cases events with
  | nil => exact always
  | cons event rest => exact always.1

instance decidableAlways {property : State → Prop}
    [∀ state, Decidable (property state)] :
    ∀ state events, Decidable (Always step property state events)
  | state, [] => inferInstanceAs (Decidable (property state))
  | state, event :: rest =>
      match stepEq : step state event with
      | none => decidable_of_iff (property state) <| by
          simp [always_cons, stepEq]
      | some next =>
          have : Decidable (Always step property next rest) :=
            decidableAlways next rest
          decidable_of_iff (property state ∧ Always step property next rest) <| by
            simp [always_cons, stepEq]

theorem always_mono {property weaker : State → Prop}
    (implies : ∀ state, property state → weaker state) {state : State}
    {events : List Event} (always : Always step property state events) :
    Always step weaker state events := by
  induction events generalizing state with
  | nil => exact implies state always
  | cons event rest ih =>
      exact ⟨implies state always.1, fun next stepEq => ih (always.2 next stepEq)⟩

/-- Two properties that hold always hold together. -/
theorem always_both {property other : State → Prop} {state : State}
    {events : List Event} (always : Always step property state events)
    (alwaysOther : Always step other state events) :
    Always step (fun state => property state ∧ other state) state events := by
  induction events generalizing state with
  | nil => exact ⟨always, alwaysOther⟩
  | cons event rest ih =>
      exact ⟨⟨always.1, alwaysOther.1⟩, fun next stepEq =>
        ih (always.2 next stepEq) (alwaysOther.2 next stepEq)⟩

/-- It holds always if it holds at the end of every part of the run. -/
theorem always_iff {property : State → Prop} {state : State}
    {events : List Event} :
    Always step property state events ↔
      ∀ first rest final, events = first ++ rest →
        exec step state first = some final → property final := by
  induction events generalizing state with
  | nil =>
      constructor
      · rintro holds first rest final split runs
        obtain ⟨rfl, rfl⟩ := List.nil_eq_append_iff.mp split
        cases runs
        exact holds
      · exact fun holds => holds [] [] state rfl rfl
  | cons event rest ih =>
      rw [always_cons]
      constructor
      · rintro ⟨here, later⟩ first others final split runs
        cases first with
        | nil =>
            cases runs
            exact here
        | cons head tail =>
            obtain ⟨rfl, tailEq⟩ := List.cons_eq_cons.mp split
            obtain ⟨next, stepEq, restRuns⟩ := exec_cons_eq_some.mp runs
            exact ih.mp (later next stepEq) tail others final tailEq restRuns
      · intro holds
        refine ⟨holds [] _ state rfl rfl, fun next stepEq => ih.mpr ?_⟩
        intro first others final split runs
        exact holds (event :: first) others final (congrArg (event :: ·) split)
          (exec_cons_eq_some.mpr ⟨next, stepEq, runs⟩)

/-- What holds always in a run holds always in each of its prefixes. -/
theorem always_of_append {property : State → Prop} {state : State}
    {first second : List Event}
    (always : Always step property state (first ++ second)) :
    Always step property state first := by
  refine always_iff.mpr fun part rest final split runs => ?_
  refine always_iff.mp always part (rest ++ second) final ?_ runs
  rw [split, List.append_assoc]

/-- If, within an invariant and where `within` holds, a step from a good state
leads to a good one exactly when it meets the condition, then a run that reaches
its end passes through good states only exactly when it meets the condition
throughout. -/
theorem always_iff_along_within {Inv within property : State → Prop}
    (preserves : ∀ state event next, Inv state → within state →
      step state event = some next → Inv next)
    (keeps : ∀ state event next, Inv state → within state → property state →
      step state event = some next → (property next ↔ condition state event))
    {state final : State} {events : List Event} (holds : Inv state)
    (always : Always step within state events) (start : property state)
    (runs : exec step state events = some final) :
    Always step property state events ↔ Along step condition state events := by
  induction events generalizing state with
  | nil => exact iff_of_true start trivial
  | cons event rest ih =>
      obtain ⟨middle, stepEq, restRuns⟩ := exec_cons_eq_some.mp runs
      have holdsNext := preserves state event middle holds always.1 stepEq
      have withinNext := always.2 middle stepEq
      have goodIff := keeps state event middle holds always.1 start stepEq
      have same (next : State) (other : step state event = some next) :
          next = middle :=
        Option.some.inj (other.symm.trans stepEq)
      rw [always_cons, along_cons]
      constructor
      · rintro ⟨-, later⟩
        have good := always_here (later middle stepEq)
        refine ⟨goodIff.mp good, fun next other => ?_⟩
        rw [same next other]
        exact (ih holdsNext withinNext good restRuns).mp (later middle stepEq)
      · rintro ⟨here, later⟩
        have good := goodIff.mpr here
        refine ⟨start, fun next other => ?_⟩
        rw [same next other]
        exact (ih holdsNext withinNext good restRuns).mpr (later middle stepEq)

theorem always_true (state : State) (events : List Event) :
    Always step (fun _ => True) state events := by
  induction events generalizing state with
  | nil => trivial
  | cons event rest ih => exact ⟨trivial, fun next _ => ih next⟩

/-- If, within an invariant, a step from a good state leads to a good one
exactly when it meets the condition, then a run that reaches its end passes
through good states only exactly when it meets the condition throughout. -/
theorem always_iff_along_of_invariant {Inv property : State → Prop}
    (preserves : ∀ state event next, Inv state →
      step state event = some next → Inv next)
    (keeps : ∀ state event next, Inv state → property state →
      step state event = some next → (property next ↔ condition state event))
    {state final : State} {events : List Event} (holds : Inv state)
    (start : property state) (runs : exec step state events = some final) :
    Always step property state events ↔ Along step condition state events :=
  always_iff_along_within
    (fun state event next holds _ => preserves state event next holds)
    (fun state event next holds _ => keeps state event next holds) holds
    (always_true state events) start runs

/-- If a step from a good state leads to a good one exactly when it meets the
condition, then a run that reaches its end passes through good states only
exactly when it meets the condition throughout. -/
theorem always_iff_along {property : State → Prop}
    (keeps : ∀ state event next, property state →
      step state event = some next → (property next ↔ condition state event))
    {state final : State} {events : List Event} (start : property state)
    (runs : exec step state events = some final) :
    Always step property state events ↔ Along step condition state events :=
  @always_iff_along_of_invariant _ _ step condition (fun _ => True) property
    (fun _ _ _ _ _ => trivial)
    (fun state event next _ good stepEq => keeps state event next good stepEq)
    state final events trivial start runs

/-- An invariant of the steps that meet the condition holds always along the
runs that meet it. -/
theorem always_of_along {property : State → Prop}
    (keeps : ∀ state event next, property state → condition state event →
      step state event = some next → property next)
    {state : State} {events : List Event} (start : property state)
    (along : Along step condition state events) :
    Always step property state events := by
  induction events generalizing state with
  | nil => exact start
  | cons event rest ih =>
      exact ⟨start, fun next stepEq =>
        ih (keeps state event next start along.1 stepEq)
          (along.2 next stepEq)⟩

theorem always_of_invariant {property : State → Prop}
    (keeps : ∀ state event next, property state →
      step state event = some next → property next)
    {state : State} {events : List Event} (start : property state) :
    Always step property state events :=
  always_iff.mpr fun _ _ _ _ runs => invariant keeps start runs

theorem along_of_always {property : State → Prop}
    (gives : ∀ state event, property state → condition state event)
    {state : State} {events : List Event}
    (always : Always step property state events) :
    Along step condition state events := by
  induction events generalizing state with
  | nil => trivial
  | cons event rest ih =>
      obtain ⟨here, later⟩ := always_cons.mp always
      exact ⟨gives state event here, fun next stepEq => ih (later next stepEq)⟩

/-- Two conditions that agree in every state satisfying a preserved invariant
are met along the same runs. -/
theorem along_congr {Inv : State → Prop} {other : State → Event → Prop}
    (keeps : ∀ state event next, Inv state →
      step state event = some next → Inv next)
    (agree : ∀ state event, Inv state →
      (condition state event ↔ other state event))
    {state : State} {events : List Event} (start : Inv state) :
    Along step condition state events ↔ Along step other state events := by
  induction events generalizing state with
  | nil => exact Iff.rfl
  | cons event rest ih =>
      rw [along_cons, along_cons, agree state event start]
      refine and_congr_right fun _ => ?_
      exact forall_congr' fun next => forall_congr' fun stepEq =>
        ih (keeps state event next start stepEq)

end GuardedRun
