import Mathlib.Data.List.Basic
import Mathlib.Order.Defs.Unbundled

/-!
# Programs as trees of atomic statements

A program that talks to a database or another server is a tree: a leaf is a
result or a raised error, and an inner node performs one statement and
continues with its answer, which may itself be an error.  One tree has two
meanings.  `run` executes it alone against a state.  An interleaving executes
one statement at a time between the statements of other programs; for that
reading this file gives a logic of statement logs, in which a guard is checked
at every statement and a postcondition at every leaf, whatever the answers.
-/

/-- A program over the statements `Stmt`, where statement `stmt` is answered
by a value of type `Resp stmt` or by an error. -/
inductive StatementTree (Stmt : Type) (Resp : Stmt → Type) (ε α : Type) : Type
  | done (result : Except ε α)
  | perform (stmt : Stmt)
      (next : Except ε (Resp stmt) → StatementTree Stmt Resp ε α)

namespace StatementTree

variable {Stmt : Type} {Resp : Stmt → Type} {ε α β : Type}

/-- Sequential composition; an error skips the continuation. -/
protected def bind (tree : StatementTree Stmt Resp ε α)
    (continuation : α → StatementTree Stmt Resp ε β) :
    StatementTree Stmt Resp ε β :=
  match tree with
  | .done (.ok value) => continuation value
  | .done (.error error) => .done (.error error)
  | .perform stmt next =>
      .perform stmt fun answer => (next answer).bind continuation

/-- Run a handler in place of a raised error. -/
protected def tryCatch (tree : StatementTree Stmt Resp ε α)
    (handler : ε → StatementTree Stmt Resp ε α) :
    StatementTree Stmt Resp ε α :=
  match tree with
  | .done (.ok value) => .done (.ok value)
  | .done (.error error) => handler error
  | .perform stmt next =>
      .perform stmt fun answer => (next answer).tryCatch handler

instance : Monad (StatementTree Stmt Resp ε) where
  pure value := .done (.ok value)
  bind := StatementTree.bind

instance : MonadExceptOf ε (StatementTree Stmt Resp ε) where
  throw error := .done (.error error)
  tryCatch := StatementTree.tryCatch

section Equations

variable (continuation : α → StatementTree Stmt Resp ε β)
variable (handler : ε → StatementTree Stmt Resp ε α)

@[simp]
theorem pure_eq (value : α) :
    (pure value : StatementTree Stmt Resp ε α) = .done (.ok value) :=
  rfl

@[simp]
theorem throw_eq (error : ε) :
    (throw error : StatementTree Stmt Resp ε α) = .done (.error error) :=
  rfl

@[simp]
theorem bind_ok (value : α) :
    (done (.ok value) : StatementTree Stmt Resp ε α) >>= continuation =
      continuation value :=
  rfl

@[simp]
theorem bind_error (error : ε) :
    (done (.error error) : StatementTree Stmt Resp ε α) >>= continuation =
      done (.error error) :=
  rfl

@[simp]
theorem bind_perform (stmt : Stmt)
    (next : Except ε (Resp stmt) → StatementTree Stmt Resp ε α) :
    perform stmt next >>= continuation =
      perform stmt fun answer => next answer >>= continuation :=
  rfl

@[simp]
theorem tryCatch_ok (value : α) :
    tryCatch (done (.ok value) : StatementTree Stmt Resp ε α) handler =
      done (.ok value) :=
  rfl

@[simp]
theorem tryCatch_error (error : ε) :
    tryCatch (done (.error error) : StatementTree Stmt Resp ε α) handler =
      handler error :=
  rfl

@[simp]
theorem tryCatch_perform (stmt : Stmt)
    (next : Except ε (Resp stmt) → StatementTree Stmt Resp ε α) :
    tryCatch (perform stmt next) handler =
      perform stmt fun answer => tryCatch (next answer) handler :=
  rfl

end Equations

theorem bind_assoc {γ : Type} (tree : StatementTree Stmt Resp ε α)
    (first : α → StatementTree Stmt Resp ε β)
    (second : β → StatementTree Stmt Resp ε γ) :
    tree >>= first >>= second = tree >>= fun value => first value >>= second := by
  induction tree with
  | done result => cases result <;> rfl
  | perform stmt next ih =>
      simp only [bind_perform]
      congr 1
      funext answer
      exact ih answer

/-! ## Running a program alone -/

section Run

variable {World : Type}

/-- Execute a program alone, one statement after the other. -/
def run (exec : (stmt : Stmt) → World → Except ε (Resp stmt) × World) :
    StatementTree Stmt Resp ε α → World → Except ε α × World
  | .done result, world => (result, world)
  | .perform stmt next, world =>
      run exec (next (exec stmt world).1) (exec stmt world).2

variable (exec : (stmt : Stmt) → World → Except ε (Resp stmt) × World)

@[simp]
theorem run_done (result : Except ε α) (world : World) :
    run exec (.done result : StatementTree Stmt Resp ε α) world =
      (result, world) :=
  rfl

@[simp]
theorem run_perform (stmt : Stmt)
    (next : Except ε (Resp stmt) → StatementTree Stmt Resp ε α)
    (world : World) :
    run exec (.perform stmt next) world =
      run exec (next (exec stmt world).1) (exec stmt world).2 :=
  rfl

theorem run_bind (tree : StatementTree Stmt Resp ε α)
    (continuation : α → StatementTree Stmt Resp ε β) (world : World) :
    run exec (tree >>= continuation) world =
      match run exec tree world with
      | (.ok value, after) => run exec (continuation value) after
      | (.error error, after) => (.error error, after) := by
  induction tree generalizing world with
  | done result => cases result <;> rfl
  | perform stmt next ih => exact ih _ _

theorem run_bind_of_ok {tree : StatementTree Stmt Resp ε α}
    {continuation : α → StatementTree Stmt Resp ε β} {world after : World}
    {value : α} (ran : run exec tree world = (.ok value, after)) :
    run exec (tree >>= continuation) world =
      run exec (continuation value) after := by
  rw [run_bind, ran]

theorem run_bind_of_error {tree : StatementTree Stmt Resp ε α}
    {continuation : α → StatementTree Stmt Resp ε β} {world after : World}
    {error : ε} (ran : run exec tree world = (.error error, after)) :
    run exec (tree >>= continuation) world = (.error error, after) := by
  rw [run_bind, ran]

/-- A sequence returns a value when both of its parts do. -/
theorem run_bind_eq_ok {tree : StatementTree Stmt Resp ε α}
    {continuation : α → StatementTree Stmt Resp ε β} {world after : World}
    {value : β} :
    run exec (tree >>= continuation) world = (.ok value, after) ↔
      ∃ middle between, run exec tree world = (.ok middle, between) ∧
        run exec (continuation middle) between = (.ok value, after) := by
  rw [run_bind]
  rcases run exec tree world with ⟨result, between⟩
  cases result <;> simp

/-- A sequence raises when its first part does, or its second after it. -/
theorem run_bind_eq_error {tree : StatementTree Stmt Resp ε α}
    {continuation : α → StatementTree Stmt Resp ε β} {world after : World}
    {error : ε} :
    run exec (tree >>= continuation) world = (.error error, after) ↔
      run exec tree world = (.error error, after) ∨
      ∃ middle between, run exec tree world = (.ok middle, between) ∧
        run exec (continuation middle) between = (.error error, after) := by
  rw [run_bind]
  rcases run exec tree world with ⟨result, between⟩
  cases result <;> simp

theorem run_tryCatch (tree : StatementTree Stmt Resp ε α)
    (handler : ε → StatementTree Stmt Resp ε α) (world : World) :
    run exec (tryCatch tree handler) world =
      match run exec tree world with
      | (.ok value, after) => (.ok value, after)
      | (.error error, after) => run exec (handler error) after := by
  induction tree generalizing world with
  | done result => cases result <;> rfl
  | perform stmt next ih => exact ih _ _

/-- A property of states that every statement preserves survives a whole
run. -/
theorem run_preserves {Inv : World → Prop}
    (keeps : ∀ stmt world, Inv world → Inv (exec stmt world).2)
    (tree : StatementTree Stmt Resp ε α) {world : World} (start : Inv world) :
    Inv (run exec tree world).2 := by
  induction tree generalizing world with
  | done result => exact start
  | perform stmt next ih => exact ih _ (keeps stmt world start)

/-- Execute a program in a transaction: an error leaves the state as it was. -/
def runAtomic (tree : StatementTree Stmt Resp ε α) (world : World) :
    Except ε α × World :=
  match run exec tree world with
  | (.ok value, after) => (.ok value, after)
  | (.error error, _) => (.error error, world)

theorem runAtomic_eq_ok {tree : StatementTree Stmt Resp ε α}
    {world after : World} {value : α} :
    runAtomic exec tree world = (.ok value, after) ↔
      run exec tree world = (.ok value, after) := by
  unfold runAtomic
  rcases run exec tree world with ⟨result, between⟩
  cases result <;> simp

end Run

/-! ## Programs over more statements -/

section Embed

variable {World Other : Type} {Answer : Other → Type}

/-- A program as one over other statements, each answered like the statement it
stands for. -/
def embed (inject : Stmt → Other)
    (answer : ∀ stmt, Except ε (Answer (inject stmt)) → Except ε (Resp stmt)) :
    StatementTree Stmt Resp ε α → StatementTree Other Answer ε α
  | .done result => .done result
  | .perform stmt next =>
      .perform (inject stmt) fun given =>
        embed inject answer (next (answer stmt given))

/-- An embedded program does what the program does. -/
theorem run_embed {inject : Stmt → Other}
    {answer : ∀ stmt, Except ε (Answer (inject stmt)) → Except ε (Resp stmt)}
    {exec : (stmt : Stmt) → World → Except ε (Resp stmt) × World}
    {other : (stmt : Other) → World → Except ε (Answer stmt) × World}
    (agree : ∀ stmt world,
      (answer stmt (other (inject stmt) world).1, (other (inject stmt) world).2) =
        exec stmt world)
    (tree : StatementTree Stmt Resp ε α) (world : World) :
    run other (embed inject answer tree) world = run exec tree world := by
  induction tree generalizing world with
  | done result => rfl
  | perform stmt next ih =>
      have here := agree stmt world
      simp only [embed, run_perform, ih, ← here]

end Embed

/-! ## What a program returns -/

section Gives

variable {World : Type}
variable (exec : (stmt : Stmt) → World → Except ε (Resp stmt) × World)

/-- Run alone, the program returns a value, and `post` holds of the value and
the world after. -/
def Gives (tree : StatementTree Stmt Resp ε α) (world : World)
    (post : α → World → Prop) : Prop :=
  ∃ value, (run exec tree world).1 = .ok value ∧
    post value (run exec tree world).2

variable {exec} {world : World} {post : α → World → Prop}

@[simp]
theorem gives_done {result : Except ε α} :
    Gives exec (.done result) world post ↔
      ∃ value, result = .ok value ∧ post value world :=
  Iff.rfl

@[simp]
theorem gives_perform {stmt : Stmt}
    {next : Except ε (Resp stmt) → StatementTree Stmt Resp ε α} :
    Gives exec (.perform stmt next) world post ↔
      Gives exec (next (exec stmt world).1) (exec stmt world).2 post :=
  Iff.rfl

theorem gives_of_run {tree : StatementTree Stmt Resp ε α} {value : α}
    {after : World} (ran : run exec tree world = (.ok value, after)) :
    Gives exec tree world post ↔ post value after := by
  simp [Gives, ran]

theorem Gives.mono {weaker : α → World → Prop}
    {tree : StatementTree Stmt Resp ε α} (gives : Gives exec tree world post)
    (implies : ∀ value after, post value after → weaker value after) :
    Gives exec tree world weaker := by
  obtain ⟨value, ran, holds⟩ := gives
  exact ⟨value, ran, implies _ _ holds⟩

theorem gives_congr {other : α → World → Prop} {tree : StatementTree Stmt Resp ε α}
    (agree : ∀ value after, post value after ↔ other value after) :
    Gives exec tree world post ↔ Gives exec tree world other :=
  ⟨fun gives => gives.mono fun value after => (agree value after).mp,
    fun gives => gives.mono fun value after => (agree value after).mpr⟩

/-- The sequencing rule, in both directions. -/
theorem gives_bind {tree : StatementTree Stmt Resp ε β}
    {continuation : β → StatementTree Stmt Resp ε α} :
    Gives exec (tree >>= continuation) world post ↔
      Gives exec tree world fun value after =>
        Gives exec (continuation value) after post := by
  induction tree generalizing world with
  | done result => cases result <;> simp
  | perform stmt next ih => exact ih _

/-- The rule for handlers, in both directions. -/
theorem gives_tryCatch {tree : StatementTree Stmt Resp ε α}
    {handler : ε → StatementTree Stmt Resp ε α} :
    Gives exec (MonadExcept.tryCatch tree handler) world post ↔
      Gives exec tree world post ∨
        ∃ error, (run exec tree world).1 = .error error ∧
          Gives exec (handler error) (run exec tree world).2 post := by
  induction tree generalizing world with
  | done result => cases result <;> simp
  | perform stmt next ih => exact ih _

end Gives

/-! ## Where a program ends -/

section Ends

variable {World : Type}
variable (exec : (stmt : Stmt) → World → Except ε (Resp stmt) × World)

/-- Run alone, the program leaves a state of which `post` holds, whether it
returns or fails. -/
def Ends (tree : StatementTree Stmt Resp ε α) (world : World)
    (post : World → Prop) : Prop :=
  post (run exec tree world).2

variable {exec} {world : World} {post : World → Prop}

theorem Ends.mono {weaker : World → Prop} {tree : StatementTree Stmt Resp ε α}
    (ends : Ends exec tree world post)
    (implies : ∀ after, post after → weaker after) :
    Ends exec tree world weaker :=
  implies _ ends

/-- The sequencing rule. -/
theorem ends_bind {tree : StatementTree Stmt Resp ε β}
    {continuation : β → StatementTree Stmt Resp ε α}
    (onValue : ∀ value after, run exec tree world = (.ok value, after) →
      Ends exec (continuation value) after post)
    (onError : ∀ error after, run exec tree world = (.error error, after) →
      post after) :
    Ends exec (tree >>= continuation) world post := by
  unfold Ends
  rw [run_bind]
  split
  case h_1 value after ran => exact onValue value after ran
  case h_2 error after ran => exact onError error after ran

/-- The rule for handlers. -/
theorem ends_tryCatch {tree : StatementTree Stmt Resp ε α}
    {handler : ε → StatementTree Stmt Resp ε α}
    (onValue : ∀ value after, run exec tree world = (.ok value, after) →
      post after)
    (onError : ∀ error after, run exec tree world = (.error error, after) →
      Ends exec (handler error) after post) :
    Ends exec (MonadExcept.tryCatch tree handler) world post := by
  unfold Ends
  rw [run_tryCatch]
  split
  case h_1 value after ran => exact onValue value after ran
  case h_2 error after ran => exact onError error after ran

end Ends

/-! ## Statement logs -/

/-- A statement together with the answer it got. -/
abbrev LogEntry (Stmt : Type) (Resp : Stmt → Type) (ε : Type) :=
  (stmt : Stmt) × Except ε (Resp stmt)

section Obeys

variable (guard : List (LogEntry Stmt Resp ε) → Stmt → Prop)
variable (answers : (stmt : Stmt) → Except ε (Resp stmt) → Prop)

/-- Along every path of the program, for all answers that `answers` admits, a
statement is performed only where `guard` allows it after the statements
logged so far (newest first), and the program ends only where `post` holds. -/
def Obeys (post : List (LogEntry Stmt Resp ε) → Except ε α → Prop) :
    StatementTree Stmt Resp ε α → List (LogEntry Stmt Resp ε) → Prop
  | .done result, log => post log result
  | .perform stmt next, log =>
      guard log stmt ∧ ∀ answer, answers stmt answer →
        Obeys post (next answer) (⟨stmt, answer⟩ :: log)

/-- A log of statements that `guard` allowed and answers that `answers`
admits. -/
def Permitted : List (LogEntry Stmt Resp ε) → Prop
  | [] => True
  | ⟨stmt, answer⟩ :: earlier =>
      guard earlier stmt ∧ answers stmt answer ∧ Permitted earlier

variable {guard} {answers}
variable {post : List (LogEntry Stmt Resp ε) → Except ε α → Prop}

@[simp]
theorem obeys_done {result : Except ε α} {log : List (LogEntry Stmt Resp ε)} :
    Obeys guard answers post (.done result) log ↔ post log result :=
  Iff.rfl

theorem Obeys.mono {weaker : List (LogEntry Stmt Resp ε) → Except ε α → Prop}
    {tree : StatementTree Stmt Resp ε α} {log : List (LogEntry Stmt Resp ε)}
    (obeys : Obeys guard answers post tree log)
    (implies : ∀ log result, post log result → weaker log result) :
    Obeys guard answers weaker tree log := by
  induction tree generalizing log with
  | done result => exact implies log result obeys
  | perform stmt next ih =>
      exact ⟨obeys.1, fun answer may => ih answer (obeys.2 answer may)⟩

/-- The sequencing rule. -/
theorem Obeys.bind {last : List (LogEntry Stmt Resp ε) → Except ε β → Prop}
    {tree : StatementTree Stmt Resp ε α}
    {continuation : α → StatementTree Stmt Resp ε β}
    {log : List (LogEntry Stmt Resp ε)}
    (obeys : Obeys guard answers post tree log)
    (onValue : ∀ log value, post log (.ok value) →
      Obeys guard answers last (continuation value) log)
    (onError : ∀ log error, post log (.error error) → last log (.error error)) :
    Obeys guard answers last (tree >>= continuation) log := by
  induction tree generalizing log with
  | done result =>
      cases result with
      | ok value => exact onValue log value obeys
      | error error => exact onError log error obeys
  | perform stmt next ih =>
      exact ⟨obeys.1, fun answer may => ih answer (obeys.2 answer may)⟩

/-- The rule for handlers. -/
theorem Obeys.tryCatch {last : List (LogEntry Stmt Resp ε) → Except ε α → Prop}
    {tree : StatementTree Stmt Resp ε α}
    {handler : ε → StatementTree Stmt Resp ε α}
    {log : List (LogEntry Stmt Resp ε)}
    (obeys : Obeys guard answers post tree log)
    (onValue : ∀ log value, post log (.ok value) → last log (.ok value))
    (onError : ∀ log error, post log (.error error) →
      Obeys guard answers last (handler error) log) :
    Obeys guard answers last (MonadExcept.tryCatch tree handler) log := by
  induction tree generalizing log with
  | done result =>
      cases result with
      | ok value => exact onValue log value obeys
      | error error => exact onError log error obeys
  | perform stmt next ih =>
      exact ⟨obeys.1, fun answer may => ih answer (obeys.2 answer may)⟩

/-- The rule for a computation without statements. -/
theorem Obeys.done_bind {last : List (LogEntry Stmt Resp ε) → Except ε β → Prop}
    {result : Except ε α} {continuation : α → StatementTree Stmt Resp ε β}
    {log : List (LogEntry Stmt Resp ε)}
    (onValue : ∀ value, result = .ok value →
      Obeys guard answers last (continuation value) log)
    (onError : ∀ error, result = .error error → last log (.error error)) :
    Obeys guard answers last (.done result >>= continuation) log := by
  cases result with
  | ok value => exact onValue value rfl
  | error error => exact onError error rfl

/-- The rule for one statement followed by the rest of a program. -/
theorem Obeys.perform_bind {last : List (LogEntry Stmt Resp ε) → Except ε β → Prop}
    {stmt : Stmt} {continuation : Resp stmt → StatementTree Stmt Resp ε β}
    {log : List (LogEntry Stmt Resp ε)} (allowed : guard log stmt)
    (onValue : ∀ value, answers stmt (.ok value) →
      Obeys guard answers last (continuation value) (⟨stmt, .ok value⟩ :: log))
    (onError : ∀ error, answers stmt (.error error) →
      last (⟨stmt, .error error⟩ :: log) (.error error)) :
    Obeys guard answers last (.perform stmt .done >>= continuation) log := by
  refine ⟨allowed, fun answer may => ?_⟩
  cases answer with
  | ok value => exact onValue value may
  | error error => exact onError error may

end Obeys

/-! ## The statements a program can perform -/

section Within

variable {allowed : Stmt → Prop}

/-- Every statement the program can perform, whatever the answers, is
allowed. -/
def Within (allowed : Stmt → Prop) : StatementTree Stmt Resp ε α → Prop
  | .done _ => True
  | .perform stmt next => allowed stmt ∧ ∀ answer, Within allowed (next answer)

@[simp]
theorem within_done {result : Except ε α} :
    Within allowed (.done result : StatementTree Stmt Resp ε α) :=
  trivial

theorem within_perform {stmt : Stmt}
    {next : Except ε (Resp stmt) → StatementTree Stmt Resp ε α} :
    Within allowed (.perform stmt next) ↔
      allowed stmt ∧ ∀ answer, Within allowed (next answer) :=
  Iff.rfl

theorem Within.mono {weaker : Stmt → Prop} {tree : StatementTree Stmt Resp ε α}
    (within : Within allowed tree)
    (implies : ∀ stmt, allowed stmt → weaker stmt) : Within weaker tree := by
  induction tree with
  | done result => trivial
  | perform stmt next ih =>
      exact ⟨implies stmt within.1, fun answer => ih answer (within.2 answer)⟩

theorem Within.bind {tree : StatementTree Stmt Resp ε α}
    {continuation : α → StatementTree Stmt Resp ε β}
    (within : Within allowed tree)
    (onValue : ∀ value, Within allowed (continuation value)) :
    Within allowed (tree >>= continuation) := by
  induction tree with
  | done result =>
      cases result with
      | ok value => exact onValue value
      | error error => trivial
  | perform stmt next ih =>
      exact ⟨within.1, fun answer => ih answer (within.2 answer)⟩

/-- An embedded program executes the injected statements. -/
theorem Within.embed {Other : Type} {Answer : Other → Type}
    {inject : Stmt → Other}
    {answer : ∀ stmt, Except ε (Answer (inject stmt)) → Except ε (Resp stmt)}
    {injected : Other → Prop} {tree : StatementTree Stmt Resp ε α}
    (within : Within (fun stmt => injected (inject stmt)) tree) :
    Within injected (StatementTree.embed inject answer tree) := by
  induction tree with
  | done result => trivial
  | perform stmt next ih =>
      exact ⟨within.1, fun given => ih _ (within.2 _)⟩

theorem Within.tryCatch {tree : StatementTree Stmt Resp ε α}
    {handler : ε → StatementTree Stmt Resp ε α}
    (within : Within allowed tree)
    (onError : ∀ error, Within allowed (handler error)) :
    Within allowed (MonadExcept.tryCatch tree handler) := by
  induction tree with
  | done result =>
      cases result with
      | ok value => trivial
      | error error => exact onError error
  | perform stmt next ih =>
      exact ⟨within.1, fun answer => ih answer (within.2 answer)⟩

theorem within_any (tree : StatementTree Stmt Resp ε α) :
    Within (fun _ => True) tree := by
  induction tree with
  | done result => trivial
  | perform stmt next ih => exact ⟨trivial, ih⟩

/-- A program within statements the guard always allows only adds such
statements to the log. -/
theorem Within.obeys {guard : List (LogEntry Stmt Resp ε) → Stmt → Prop}
    {answers : (stmt : Stmt) → Except ε (Resp stmt) → Prop}
    {tree : StatementTree Stmt Resp ε α} (within : Within allowed tree)
    (free : ∀ log stmt, allowed stmt → guard log stmt)
    (before : List (LogEntry Stmt Resp ε)) :
    Obeys guard answers
      (fun log _ => ∃ added, log = added ++ before ∧
        ∀ entry ∈ added, allowed entry.1) tree before := by
  induction tree generalizing before with
  | done result => exact ⟨[], rfl, by simp⟩
  | perform stmt next ih =>
      refine ⟨free before stmt within.1, fun answer _ => ?_⟩
      refine (ih answer (within.2 answer) _).mono ?_
      rintro log result ⟨added, rfl, addedAllowed⟩
      refine ⟨added ++ [⟨stmt, answer⟩], by simp, ?_⟩
      intro entry entryMem
      rcases List.mem_append.mp entryMem with entryMem | entryMem
      · exact addedAllowed entry entryMem
      · rw [List.mem_singleton.mp entryMem]
        exact within.1

theorem Within.run_preserves {World : Type}
    {exec : (stmt : Stmt) → World → Except ε (Resp stmt) × World}
    {Inv : World → Prop} {tree : StatementTree Stmt Resp ε α}
    (within : Within allowed tree)
    (keeps : ∀ stmt world, allowed stmt → Inv world → Inv (exec stmt world).2)
    {world : World} (start : Inv world) : Inv (run exec tree world).2 := by
  induction tree generalizing world with
  | done result => exact start
  | perform stmt next ih =>
      exact ih _ (within.2 _) (keeps stmt world within.1 start)

/-- From states that every allowed statement answers alike and leaves related,
the whole program returns the same. -/
theorem Within.run_related {World : Type}
    {exec : (stmt : Stmt) → World → Except ε (Resp stmt) × World}
    {Related : World → World → Prop} {tree : StatementTree Stmt Resp ε α}
    (within : Within allowed tree)
    (agree : ∀ stmt first second, allowed stmt → Related first second →
      (exec stmt first).1 = (exec stmt second).1 ∧
        Related (exec stmt first).2 (exec stmt second).2)
    {first second : World} (related : Related first second) :
    (run exec tree first).1 = (run exec tree second).1 ∧
      Related (run exec tree first).2 (run exec tree second).2 := by
  induction tree generalizing first second with
  | done result => exact ⟨rfl, related⟩
  | perform stmt next ih =>
      obtain ⟨same, relatedAfter⟩ := agree stmt first second within.1 related
      simp only [run_perform, same]
      exact ih _ (within.2 _) relatedAfter

end Within

/-! ## How a program may move the world -/

section Ensures

variable {World : Type}
variable (exec : (stmt : Stmt) → World → Except ε (Resp stmt) × World)
variable (may : World → World → Prop)

/-- Run alone, the program only moves to a world that `may` follow, whether it
returns or raises, and `post` holds of what it returns. -/
def Ensures (tree : StatementTree Stmt Resp ε α) (world : World)
    (post : α → World → Prop) : Prop :=
  may world (run exec tree world).2 ∧
    ∀ value, (run exec tree world).1 = .ok value →
      post value (run exec tree world).2

variable {exec} {may} {world : World} {post : α → World → Prop}

theorem Ensures.mono {weaker : α → World → Prop}
    {tree : StatementTree Stmt Resp ε α}
    (ensures : Ensures exec may tree world post)
    (implies : ∀ value after, may world after → post value after →
      weaker value after) : Ensures exec may tree world weaker :=
  ⟨ensures.1, fun value returned =>
    implies value _ ensures.1 (ensures.2 value returned)⟩

/-- The rule for one statement. -/
theorem ensures_ask {stmt : Stmt} {post : Resp stmt → World → Prop}
    (moves : may world (exec stmt world).2)
    (answered : ∀ answer, (exec stmt world).1 = .ok answer →
      post answer (exec stmt world).2) :
    Ensures exec may (.perform stmt .done) world post :=
  ⟨moves, answered⟩

variable [IsPreorder World may]

theorem ensures_done {result : Except ε α}
    (holds : ∀ value, result = .ok value → post value world) :
    Ensures exec may (.done result) world post :=
  ⟨refl_of may world, holds⟩

theorem ensures_value {value : α} (holds : post value world) :
    Ensures exec may (pure value) world post := by
  refine ensures_done fun other same => ?_
  cases same
  exact holds

theorem ensures_throw {error : ε} :
    Ensures exec may (throw error) world post :=
  ensures_done nofun

/-- The sequencing rule: the rest of the program starts in a world that may
follow the first. -/
theorem Ensures.bind {tree : StatementTree Stmt Resp ε β}
    {continuation : β → StatementTree Stmt Resp ε α}
    {middle : β → World → Prop} (ensures : Ensures exec may tree world middle)
    (onValue : ∀ value between, may world between → middle value between →
      Ensures exec may (continuation value) between post) :
    Ensures exec may (tree >>= continuation) world post := by
  unfold Ensures
  rw [run_bind]
  rcases ran : run exec tree world with ⟨result, between⟩
  have moves : may world between := by simpa [ran] using ensures.1
  cases result with
  | error error => exact ⟨moves, nofun⟩
  | ok value =>
      have holds : middle value between := by
        simpa [ran] using ensures.2 value (by rw [ran])
      have rest := onValue value between moves holds
      exact ⟨trans_of may moves rest.1, rest.2⟩

/-- The rule for handlers. -/
theorem Ensures.tryCatch {tree : StatementTree Stmt Resp ε α}
    {handler : ε → StatementTree Stmt Resp ε α}
    (ensures : Ensures exec may tree world post)
    (onError : ∀ error between, may world between →
      Ensures exec may (handler error) between post) :
    Ensures exec may (MonadExcept.tryCatch tree handler) world post := by
  unfold Ensures
  have runEq : run exec (MonadExcept.tryCatch tree handler) world = _ :=
    run_tryCatch exec tree handler world
  rw [runEq]
  rcases ran : run exec tree world with ⟨result, between⟩
  have moves : may world between := by simpa [ran] using ensures.1
  cases result with
  | error error =>
      have rest := onError error between moves
      exact ⟨trans_of may moves rest.1, rest.2⟩
  | ok value =>
      refine ⟨moves, fun other same => ?_⟩
      cases same
      simpa [ran] using ensures.2 value (by rw [ran])

theorem Within.ensures {allowed : Stmt → Prop}
    {tree : StatementTree Stmt Resp ε α} (within : Within allowed tree)
    (moves : ∀ stmt world, allowed stmt → may world (exec stmt world).2) :
    Ensures exec may tree world fun _ _ => True := by
  refine ⟨?_, fun _ _ => True.intro⟩
  induction tree generalizing world with
  | done result => exact refl_of may world
  | perform stmt next ih =>
      exact trans_of may (moves stmt world within.1) (ih _ (within.2 _))

end Ensures

end StatementTree
