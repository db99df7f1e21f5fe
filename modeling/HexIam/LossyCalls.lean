import HexIam.StatementTree

/-!
# Runs in which calls to a remote service may fail

A call to a service can be refused, or be carried out and lose its answer.  In
a lossy run a list says what becomes of each call; the calls after its end are
answered.  Other statements are performed as ever.
-/

namespace StatementTree

variable {Stmt : Type} {Resp : Stmt → Type} {ε α World : Type}

/-- What becomes of a remote call. -/
inductive Delivery (ε : Type) : Type
  | answered
  | refused (failure : ε)
  | lost (failure : ε)

variable (remote : Stmt → Bool)
variable (exec : (stmt : Stmt) → World → Except ε (Resp stmt) × World)

/-- Execute one statement; a remote one meets the next delivery. -/
def lossy (stmt : Stmt) (state : List (Delivery ε) × World) :
    Except ε (Resp stmt) × List (Delivery ε) × World :=
  match remote stmt, state.1 with
  | true, .refused failure :: later => (.error failure, later, state.2)
  | true, .lost failure :: later =>
      (.error failure, later, (exec stmt state.2).2)
  | true, .answered :: later =>
      ((exec stmt state.2).1, later, (exec stmt state.2).2)
  | _, deliveries => ((exec stmt state.2).1, deliveries, (exec stmt state.2).2)

/-- Run a program alone, with these deliveries of its remote calls. -/
def runLossy (tree : StatementTree Stmt Resp ε α)
    (deliveries : List (Delivery ε)) (world : World) : Except ε α × World :=
  let outcome := run (lossy remote exec) tree (deliveries, world)
  (outcome.1, outcome.2.2)

variable {remote} {exec} {stmt : Stmt}

/-- A statement is performed, or leaves the world. -/
theorem lossy_world (state : List (Delivery ε) × World) :
    (lossy remote exec stmt state).2.2 = state.2 ∨
      (lossy remote exec stmt state).2.2 = (exec stmt state.2).2 := by
  unfold lossy
  split
  case h_1 => exact .inl rfl
  case h_2 => exact .inr rfl
  case h_3 => exact .inr rfl
  case h_4 => exact .inr rfl

/-- The rule for a call that the program handles whatever its answer. -/
theorem gives_lossy {next : Except ε (Resp stmt) → StatementTree Stmt Resp ε α}
    {state : List (Delivery ε) × World} {post : α → List (Delivery ε) × World → Prop}
    (goesOn : ∀ answer later after,
      after = state.2 ∨ after = (exec stmt state.2).2 →
        Gives (lossy remote exec) (next answer) (later, after) post) :
    Gives (lossy remote exec) (.perform stmt next) state post :=
  goesOn _ _ _ (lossy_world state)

/-- Performed or refused, a statement keeps what its execution keeps. -/
theorem lossy_preserves {Inv : World → Prop}
    (keeps : ∀ world, Inv world → Inv (exec stmt world).2)
    (state : List (Delivery ε) × World) (holds : Inv state.2) :
    Inv (lossy remote exec stmt state).2.2 := by
  rcases @lossy_world _ _ _ _ remote exec stmt state with left | performed
  · rwa [left]
  · rw [performed]
    exact keeps state.2 holds

theorem run_lossy_preserves {Inv : World → Prop}
    (keeps : ∀ stmt world, Inv world → Inv (exec stmt world).2)
    (tree : StatementTree Stmt Resp ε α) {state : List (Delivery ε) × World}
    (start : Inv state.2) : Inv (run (lossy remote exec) tree state).2.2 := by
  induction tree generalizing state with
  | done result => exact start
  | perform stmt next ih =>
      have kept := @lossy_preserves _ _ _ _ remote exec stmt Inv (keeps stmt) state
        start
      exact ih _ kept

/-- A program without remote calls runs as ever. -/
theorem Within.run_lossy {tree : StatementTree Stmt Resp ε α}
    (within : Within (fun stmt => remote stmt = false) tree)
    (deliveries : List (Delivery ε)) (world : World) :
    run (lossy remote exec) tree (deliveries, world) =
      ((run exec tree world).1, deliveries, (run exec tree world).2) := by
  induction tree generalizing world with
  | done result => rfl
  | perform stmt next ih =>
      obtain ⟨isLocal, rest⟩ := within
      have performed : lossy remote exec stmt (deliveries, world) =
          ((exec stmt world).1, deliveries, (exec stmt world).2) := by
        simp only [lossy, isLocal]
      rw [run_perform, performed]
      exact ih _ (rest _) _

end StatementTree
