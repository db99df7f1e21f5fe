import HexIam.StatementTree

/-!
# The statements of a run, and runs in which one fails

A program that runs alone performs a list of statements.  In a failing run the
statements that can fail are counted, and one of them raises an error and
leaves the state as it is.  Such a run is an ordinary run over states that
carry the count, so the rules for sequences and handlers apply to it.
-/

namespace StatementTree

variable {Stmt : Type} {Resp : Stmt → Type} {ε α β World : Type}

/-! ## The statements of a run -/

section Performed

/-- The statements a program performs when it runs alone, oldest first. -/
def performed (exec : (stmt : Stmt) → World → Except ε (Resp stmt) × World) :
    StatementTree Stmt Resp ε α → World → List Stmt
  | .done _, _ => []
  | .perform stmt next, world =>
      stmt :: performed exec (next (exec stmt world).1) (exec stmt world).2

variable {exec : (stmt : Stmt) → World → Except ε (Resp stmt) × World}

@[simp]
theorem performed_done (result : Except ε α) (world : World) :
    performed exec (.done result : StatementTree Stmt Resp ε α) world = [] :=
  rfl

@[simp]
theorem performed_perform (stmt : Stmt)
    (next : Except ε (Resp stmt) → StatementTree Stmt Resp ε α)
    (world : World) :
    performed exec (.perform stmt next) world =
      stmt :: performed exec (next (exec stmt world).1) (exec stmt world).2 :=
  rfl

/-- A sequence performs what its parts do. -/
theorem performed_bind_of_ok {tree : StatementTree Stmt Resp ε α}
    {continuation : α → StatementTree Stmt Resp ε β} {world after : World}
    {value : α} (ran : run exec tree world = (.ok value, after)) :
    performed exec (tree >>= continuation) world =
      performed exec tree world ++ performed exec (continuation value) after := by
  induction tree generalizing world with
  | done result =>
      cases ran
      rfl
  | perform stmt next ih => exact congrArg (stmt :: ·) (ih _ ran)

end Performed

/-! ## Runs in which a statement fails -/

section Failing

variable (fallible : Stmt → Bool) (failure : ε)
variable (exec : (stmt : Stmt) → World → Except ε (Resp stmt) × World)

/-- Execute one statement, where so many fallible statements still succeed
before one fails; `none` where none fails. -/
def failing (stmt : Stmt) (state : Option Nat × World) :
    Except ε (Resp stmt) × Option Nat × World :=
  match fallible stmt, state.1 with
  | true, some 0 => (.error failure, none, state.2)
  | true, some (left + 1) =>
      ((exec stmt state.2).1, some left, (exec stmt state.2).2)
  | _, point => ((exec stmt state.2).1, point, (exec stmt state.2).2)

/-- Run a program alone, with a failure at the given point. -/
def runFailing (tree : StatementTree Stmt Resp ε α) (point : Option Nat)
    (world : World) : Except ε α × World :=
  let outcome := run (failing fallible failure exec) tree (point, world)
  (outcome.1, outcome.2.2)

variable {fallible} {failure} {exec} {stmt : Stmt}

theorem failing_of_infallible (infallible : fallible stmt = false)
    (point : Option Nat) (world : World) :
    failing fallible failure exec stmt (point, world) =
      ((exec stmt world).1, point, (exec stmt world).2) := by
  unfold failing
  rw [infallible]

theorem failing_zero (isFallible : fallible stmt = true) (world : World) :
    failing fallible failure exec stmt (some 0, world) =
      (.error failure, none, world) := by
  unfold failing
  rw [isFallible]

theorem failing_later (isFallible : fallible stmt = true) {point : Option Nat}
    (later : point ≠ some 0) (world : World) :
    failing fallible failure exec stmt (point, world) =
      ((exec stmt world).1, point.map Nat.pred, (exec stmt world).2) := by
  unfold failing
  rw [isFallible]
  match point with
  | none => rfl
  | some 0 => exact absurd rfl later
  | some (left + 1) => rfl

theorem Within.run_failing {tree : StatementTree Stmt Resp ε α}
    (infallible : Within (fun stmt => fallible stmt = false) tree)
    (point : Option Nat) (world : World) :
    run (failing fallible failure exec) tree (point, world) =
      ((run exec tree world).1, point, (run exec tree world).2) := by
  induction tree generalizing world with
  | done result => rfl
  | perform stmt next ih =>
      rw [run_perform, failing_of_infallible infallible.1]
      exact ih _ (infallible.2 _) _

theorem runFailing_preserves {Inv : World → Prop}
    (keeps : ∀ stmt world, Inv world → Inv (exec stmt world).2)
    (tree : StatementTree Stmt Resp ε α) (point : Option Nat) {world : World}
    (start : Inv world) :
    Inv (runFailing fallible failure exec tree point world).2 := by
  have keepsFailing (stmt : Stmt) (state : Option Nat × World)
      (holds : Inv state.2) :
      Inv (failing fallible failure exec stmt state).2.2 := by
    unfold failing
    split
    · exact holds
    · exact keeps stmt state.2 holds
    · exact keeps stmt state.2 holds
  exact run_preserves _ keepsFailing tree start

end Failing

/-! ## Programs that stop at the first error -/

section Propagates

variable {exec : (stmt : Stmt) → World → Except ε (Resp stmt) × World}

/-- An error of a statement ends the program with this error. -/
def Propagates : StatementTree Stmt Resp ε α → Prop
  | .done _ => True
  | .perform _ next =>
      (∀ error, next (.error error) = .done (.error error)) ∧
        ∀ value, Propagates (next (.ok value))

theorem propagates_done (result : Except ε α) :
    Propagates (.done result : StatementTree Stmt Resp ε α) :=
  trivial

theorem propagates_ask (stmt : Stmt) :
    Propagates (.perform stmt .done : StatementTree Stmt Resp ε (Resp stmt)) :=
  ⟨fun _ => rfl, fun _ => trivial⟩

theorem Propagates.bind {tree : StatementTree Stmt Resp ε α}
    {continuation : α → StatementTree Stmt Resp ε β} (first : Propagates tree)
    (rest : ∀ value, Propagates (continuation value)) :
    Propagates (tree >>= continuation) := by
  induction tree with
  | done result =>
      cases result with
      | ok value => exact rest value
      | error error => trivial
  | perform stmt next ih =>
      refine ⟨fun error => ?_, fun value => ih _ (first.2 value)⟩
      change (next (.error error)).bind continuation = _
      rw [first.1 error]
      rfl

/-- A failure cuts the statements of the run short, or comes too late. -/
theorem Propagates.runFailing_eq {failure : ε} {tree : StatementTree Stmt Resp ε α}
    (propagates : Propagates tree) (place : Nat) (world : World) :
    runFailing (fun _ => true) failure exec tree (some place) world =
      if place < (performed exec tree world).length then
        (.error failure, ((performed exec tree world).take place).foldl
          (fun world stmt => (exec stmt world).2) world)
      else run exec tree world := by
  induction tree generalizing place world with
  | done result => rfl
  | perform stmt next ih =>
      rw [performed_perform, List.length_cons]
      cases place with
      | zero =>
          rw [if_pos (Nat.succ_pos _), runFailing, run_perform,
            failing_zero rfl, propagates.1]
          rfl
      | succ place =>
          have first : failing (fun _ => true) failure exec stmt
              (some (place + 1), world) =
              ((exec stmt world).1, some place, (exec stmt world).2) := rfl
          have runFirst : runFailing (fun _ => true) failure exec
              (.perform stmt next) (some (place + 1)) world =
              runFailing (fun _ => true) failure exec
                (next (exec stmt world).1) (some place) (exec stmt world).2 := by
            rw [runFailing, run_perform, first]
            rfl
          rw [runFirst, run_perform]
          cases answerEq : (exec stmt world).1 with
          | error error =>
              rw [propagates.1]
              rfl
          | ok value =>
              rw [ih _ (propagates.2 value)]
              simp only [Nat.add_lt_add_iff_right, List.take_succ_cons,
                List.foldl_cons]

end Propagates

/-! ## A run with its statements -/

section Performs

variable (exec : (stmt : Stmt) → World → Except ε (Resp stmt) × World)

/-- Run alone, the program performs these statements and ends like this. -/
structure Performs (tree : StatementTree Stmt Resp ε α) (world : World)
    (stmts : List Stmt) (result : Except ε α) (after : World) : Prop where
  ran : run exec tree world = (result, after)
  performed_eq : performed exec tree world = stmts

variable {exec} {world after : World}

theorem performs_done {result : Except ε α} :
    Performs exec (.done result : StatementTree Stmt Resp ε α) world [] result
      world :=
  ⟨rfl, rfl⟩

theorem performs_ask {stmt : Stmt} {answer : Except ε (Resp stmt)}
    (answered : exec stmt world = (answer, after)) :
    Performs exec (.perform stmt .done) world [stmt] answer after :=
  ⟨answered, rfl⟩

/-- The sequencing rule. -/
theorem Performs.bind {tree : StatementTree Stmt Resp ε α}
    {continuation : α → StatementTree Stmt Resp ε β} {between : World}
    {first rest : List Stmt} {value : α} {result : Except ε β}
    (start : Performs exec tree world first (.ok value) between)
    (goesOn : Performs exec (continuation value) between rest result after) :
    Performs exec (tree >>= continuation) world (first ++ rest) result after where
  ran := (run_bind_of_ok exec start.ran).trans goesOn.ran
  performed_eq := by
    rw [performed_bind_of_ok start.ran, start.performed_eq, goesOn.performed_eq]

end Performs

end StatementTree
