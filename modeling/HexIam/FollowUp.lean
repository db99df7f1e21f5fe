import HexIam.CallPool

/-!
# Statements that need another one next

An answer may need a certain statement to be performed next, as a write needs
the copies of what it has changed to be dropped.  Where every program performs
it next, what is needed in a pool stays pending until the call that owes it
performs it.
-/

namespace CallPool

open StatementTree

variable {Site Request Stmt : Type} {Resp : Stmt → Type}
variable {ε α β World Change : Type}

/-! ## Programs -/

section Programs

variable (needs : (stmt : Stmt) → Except ε (Resp stmt) → Stmt → Prop)

/-- Whatever the answers, the statement that one needs is the next one. -/
def FollowsUp : StatementTree Stmt Resp ε α → Prop
  | .done _ => True
  | .perform stmt next => ∀ answer,
      (∀ other, needs stmt answer other → ∃ rest, next answer = .perform other rest) ∧
        FollowsUp (next answer)

variable {needs}

@[simp]
theorem followsUp_done {result : Except ε α} :
    FollowsUp needs (.done result : StatementTree Stmt Resp ε α) :=
  trivial

theorem FollowsUp.bind {tree : StatementTree Stmt Resp ε α}
    {continuation : α → StatementTree Stmt Resp ε β}
    (follows : FollowsUp needs tree)
    (onValue : ∀ value, FollowsUp needs (continuation value)) :
    FollowsUp needs (tree >>= continuation) := by
  induction tree with
  | done result =>
      cases result with
      | ok value => exact onValue value
      | error error => exact followsUp_done
  | perform stmt next ih =>
      intro answer
      refine ⟨fun other needed => ?_, ih answer (follows answer).2⟩
      obtain ⟨rest, nextEq⟩ := (follows answer).1 other needed
      exact ⟨fun answer => rest answer >>= continuation,
        congrArg (· >>= continuation) nextEq⟩

/-- The rule for one statement followed by the rest of a program. -/
theorem followsUp_perform_bind {stmt : Stmt}
    {continuation : Resp stmt → StatementTree Stmt Resp ε β}
    (onValue : ∀ value, (∀ other, needs stmt (.ok value) other →
        ∃ rest, continuation value = .perform other rest) ∧
      FollowsUp needs (continuation value))
    (onError : ∀ error other, ¬ needs stmt (.error error) other) :
    FollowsUp needs (.perform stmt .done >>= continuation) := by
  intro answer
  cases answer with
  | ok value => exact onValue value
  | error error =>
      exact ⟨fun other needed => absurd needed (onError error other), trivial⟩

end Programs

/-! ## Pools -/

section Pools

variable {needs : (stmt : Stmt) → Except ε (Resp stmt) → Stmt → Prop}
variable {system : System Site Request Stmt Resp ε α World Change}
variable {pool next : Pool Request Stmt Resp ε α World}

/-- Some call performs the statement next. -/
def Pool.Pending (pool : Pool Request Stmt Resp ε α World) (stmt : Stmt) : Prop :=
  ∃ id call, pool.Holds id call ∧ call.Next stmt

theorem Pool.Pending.not_quiet {stmt : Stmt} (pending : pool.Pending stmt) :
    ¬ pool.Quiet := by
  obtain ⟨id, call, holds, isNext⟩ := pending
  exact fun quiet => quiet id call holds isNext.running

/-- Every call performs next what its answers need. -/
def AllFollowUp (needs : (stmt : Stmt) → Except ε (Resp stmt) → Stmt → Prop)
    (pool : Pool Request Stmt Resp ε α World) : Prop :=
  ∀ id call, pool.Holds id call → FollowsUp needs call.rest

theorem allFollowUp_init {world : World} :
    AllFollowUp needs (.init world : Pool Request Stmt Resp ε α World) :=
  fun _ _ holds => absurd holds Pool.not_holds_init

theorem AllFollowUp.answered {id : Nat} {call : Call Request Stmt Resp ε α}
    {stmt : Stmt} {rest : Except ε (Resp stmt) → StatementTree Stmt Resp ε α}
    {answer : Except ε (Resp stmt)} {world : World}
    (all : AllFollowUp needs pool) (holds : pool.Holds id call)
    (restEq : call.rest = .perform stmt rest) :
    AllFollowUp needs (({ pool with world := world }).setCall id
      (call.answered stmt rest answer)) := by
  intro other found foundHolds
  rcases Pool.holds_setCall.mp foundHolds with ⟨-, rfl⟩ | ⟨-, foundHolds⟩
  · have follows := all id call holds
    rw [restEq] at follows
    exact (follows answer).2
  · exact all other found foundHolds

variable [DecidableEq Site]

theorem allFollowUp_step (programs : ∀ request, FollowsUp needs (system.program request))
    {event : Event Site Request ε Change} (all : AllFollowUp needs pool)
    (stepEq : step system pool event = some next) : AllFollowUp needs next := by
  cases event with
  | start id request =>
      obtain ⟨-, rfl⟩ := step_start.mp stepEq
      intro other found holds
      rcases Pool.holds_setCall.mp holds with ⟨-, rfl⟩ | ⟨-, holds⟩
      · exact programs request
      · exact all other found holds
  | advance id =>
      obtain ⟨call, stmt, rest, holds, -, restEq, rfl⟩ := step_advance.mp stepEq
      exact all.answered holds restEq
  | fail id error =>
      obtain ⟨call, stmt, rest, holds, -, restEq, -, rfl⟩ := step_fail.mp stepEq
      exact all.answered holds restEq
  | crash site =>
      intro id call holds
      obtain ⟨before, beforeHolds, -, restEq, -⟩ := holds_of_crash stepEq holds
      rw [restEq]
      exact all id before beforeHolds
  | change change =>
      obtain ⟨world, -, rfl⟩ := step_change.mp stepEq
      exact all

theorem pending_of_needs {id : Nat} {call : Call Request Stmt Resp ε α}
    {stmt other : Stmt} {rest : Except ε (Resp stmt) → StatementTree Stmt Resp ε α}
    {answer : Except ε (Resp stmt)} {world : World}
    (all : AllFollowUp needs pool) (holds : pool.Holds id call)
    (alive : call.crashed = false) (restEq : call.rest = .perform stmt rest)
    (needed : needs stmt answer other) :
    (({ pool with world := world }).setCall id
      (call.answered stmt rest answer)).Pending other := by
  have follows := all id call holds
  rw [restEq] at follows
  obtain ⟨later, laterEq⟩ := (follows answer).1 other needed
  exact ⟨id, _, Pool.holds_setCall.mpr (.inl ⟨rfl, rfl⟩), alive, later, laterEq⟩

theorem Pool.Pending.answered {id : Nat} {call : Call Request Stmt Resp ε α}
    {stmt other : Stmt} {rest : Except ε (Resp stmt) → StatementTree Stmt Resp ε α}
    {answer : Except ε (Resp stmt)} {world : World} (pending : pool.Pending other)
    (holds : pool.Holds id call) (restEq : call.rest = .perform stmt rest)
    (different : stmt ≠ other) :
    (({ pool with world := world }).setCall id
      (call.answered stmt rest answer)).Pending other := by
  obtain ⟨owner, owing, owingHolds, isNext⟩ := pending
  refine ⟨owner, owing, Pool.holds_setCall.mpr (.inr ⟨?_, owingHolds⟩), isNext⟩
  rintro rfl
  exact different (holds.next_unique restEq owingHolds isNext).2.symm

theorem Pool.Pending.start {id : Nat} {request : Request} {stmt : Stmt}
    (pending : pool.Pending stmt)
    (stepEq : step system pool (.start id request) = some next) :
    next.Pending stmt := by
  obtain ⟨unused, rfl⟩ := step_start.mp stepEq
  obtain ⟨owner, owing, owingHolds, isNext⟩ := pending
  refine ⟨owner, owing, Pool.holds_setCall.mpr (.inr ⟨?_, owingHolds⟩), isNext⟩
  rintro rfl
  rw [Pool.Holds, unused] at owingHolds
  cases owingHolds

end Pools

end CallPool
