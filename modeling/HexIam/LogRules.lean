import HexIam.StatementTree

/-!
# More rules for statement logs

Rules for programs of which only the length of the log matters, and for
programs that are embedded into a larger set of statements.
-/

namespace StatementTree

variable {Stmt Other : Type} {Resp : Stmt → Type} {Answer : Other → Type}
variable {ε α β : Type}

/-- The rule for a program of which only the length of its log matters. -/
theorem Obeys.skip {answers : (stmt : Stmt) → Except ε (Resp stmt) → Prop}
    {post : List (LogEntry Stmt Resp ε) → Except ε β → Prop}
    {tree : StatementTree Stmt Resp ε α}
    {continuation : α → StatementTree Stmt Resp ε β}
    {log : List (LogEntry Stmt Resp ε)}
    (rest : ∀ value added, Obeys (fun _ _ => True) answers post
      (continuation value) (added ++ log))
    (fails : ∀ log error, post log (.error error)) :
    Obeys (fun _ _ => True) answers post (tree >>= continuation) log := by
  have longer : Obeys (fun _ _ => True) answers
      (fun after _ => ∃ added, after = added ++ log ∧
        ∀ entry ∈ added, (fun _ => True) entry.1) tree log :=
    (within_any tree).obeys (fun _ _ _ => trivial) log
  refine longer.bind ?_ fun log error _ => fails log error
  rintro after value ⟨added, rfl, -⟩
  exact rest value added

/-- A program of which nothing is asked. -/
theorem obeys_any {answers : (stmt : Stmt) → Except ε (Resp stmt) → Prop}
    {post : List (LogEntry Stmt Resp ε) → Except ε α → Prop}
    (tree : StatementTree Stmt Resp ε α) {log : List (LogEntry Stmt Resp ε)}
    (holds : ∀ log result, post log result) :
    Obeys (fun _ _ => True) answers post tree log := by
  induction tree generalizing log with
  | done result => exact holds log result
  | perform stmt next ih => exact ⟨trivial, fun answer _ => ih answer⟩

/-- A program may do anything once the log shows what is asked for. -/
theorem obeys_of_mem {answers : (stmt : Stmt) → Except ε (Resp stmt) → Prop}
    {shows : LogEntry Stmt Resp ε → Prop} {entry : LogEntry Stmt Resp ε}
    {log : List (LogEntry Stmt Resp ε)} (tree : StatementTree Stmt Resp ε α)
    (entryMem : entry ∈ log) (holds : shows entry) :
    Obeys (fun _ _ => True) answers (fun after _ => ∃ entry ∈ after, shows entry)
      tree log := by
  have longer : Obeys (fun _ _ => True) answers
      (fun after _ => ∃ added, after = added ++ log ∧
        ∀ entry ∈ added, (fun _ => True) entry.1) tree log :=
    (within_any tree).obeys (fun _ _ _ => trivial) log
  refine longer.mono ?_
  rintro after result ⟨added, rfl, -⟩
  exact ⟨entry, List.mem_append_right added entryMem, holds⟩

/-- A program that performs only what is allowed keeps to a guard that allows
it. -/
theorem Obeys.within {allowed : Stmt → Prop}
    {guard : List (LogEntry Stmt Resp ε) → Stmt → Prop}
    {answers : (stmt : Stmt) → Except ε (Resp stmt) → Prop}
    {post : List (LogEntry Stmt Resp ε) → Except ε α → Prop}
    {tree : StatementTree Stmt Resp ε α} {log : List (LogEntry Stmt Resp ε)}
    (within : Within allowed tree)
    (free : ∀ log stmt, allowed stmt → guard log stmt)
    (obeys : Obeys (fun _ _ => True) answers post tree log) :
    Obeys guard answers post tree log := by
  induction tree generalizing log with
  | done result => exact obeys
  | perform stmt next ih =>
      exact ⟨free log stmt within.1, fun answer may => ih answer (within.2 answer)
        (obeys.2 answer may)⟩

/-- An embedded sequence is the sequence of the embedded programs. -/
theorem embed_bind {inject : Stmt → Other}
    {answer : ∀ stmt, Except ε (Answer (inject stmt)) → Except ε (Resp stmt)}
    (tree : StatementTree Stmt Resp ε α)
    (continuation : α → StatementTree Stmt Resp ε β) :
    embed inject answer (tree >>= continuation) =
      embed inject answer tree >>= fun value =>
        embed inject answer (continuation value) := by
  induction tree with
  | done result => cases result <;> rfl
  | perform stmt next ih =>
      simp only [bind_perform, embed]
      congr 1
      funext given
      exact ih _

/-- The log of an embedded program is the log of the program, with every entry
replaced. -/
theorem Obeys.embed {inject : Stmt → Other}
    {answer : ∀ stmt, Except ε (Answer (inject stmt)) → Except ε (Resp stmt)}
    {entry : LogEntry Stmt Resp ε → LogEntry Other Answer ε}
    (entryEq : ∀ stmt given, entry ⟨stmt, answer stmt given⟩ =
      ⟨inject stmt, given⟩)
    {answers : (stmt : Stmt) → Except ε (Resp stmt) → Prop}
    {others : (stmt : Other) → Except ε (Answer stmt) → Prop}
    (admitted : ∀ stmt given, others (inject stmt) given →
      answers stmt (answer stmt given))
    {post : List (LogEntry Stmt Resp ε) → Except ε α → Prop}
    {tree : StatementTree Stmt Resp ε α} {log : List (LogEntry Stmt Resp ε)}
    {before : List (LogEntry Other Answer ε)}
    (obeys : Obeys (fun _ _ => True) answers post tree log) :
    Obeys (fun _ _ => True) others
      (fun after result => ∃ log, after = log.map entry ++ before ∧
        post log result)
      (StatementTree.embed inject answer tree) (log.map entry ++ before) := by
  induction tree generalizing log with
  | done result => exact ⟨log, rfl, obeys⟩
  | perform stmt next ih =>
      refine ⟨trivial, fun given may => ?_⟩
      have rest := ih _ (obeys.2 _ (admitted stmt given may))
      rwa [List.map_cons, entryEq, List.cons_append] at rest

/-- A value that counts is returned only after a statement was answered as
wanted. -/
def Shows (counts : α → Prop) (wanted : LogEntry Stmt Resp ε → Prop)
    (log : List (LogEntry Stmt Resp ε)) (result : Except ε α) : Prop :=
  ∀ value, result = .ok value → counts value → ∃ entry ∈ log, wanted entry

section Shows

variable {counts : α → Prop} {wanted : LogEntry Stmt Resp ε → Prop}
variable {log : List (LogEntry Stmt Resp ε)}

theorem shows_error (error : ε) : Shows counts wanted log (.error error) := by
  rintro value ⟨⟩

theorem shows_of_not {value : α} (refuses : ¬ counts value) :
    Shows counts wanted log (.ok value) := by
  rintro other ⟨⟩ given
  exact absurd given refuses

/-- Once the statement was answered, the rest of a program does not matter. -/
theorem Obeys.shows_of_mem {answers : (stmt : Stmt) → Except ε (Resp stmt) → Prop}
    {entry : LogEntry Stmt Resp ε} (tree : StatementTree Stmt Resp ε α)
    (entryMem : entry ∈ log) (isWanted : wanted entry) :
    Obeys (fun _ _ => True) answers (Shows counts wanted) tree log :=
  (obeys_of_mem tree entryMem isWanted).mono fun _ _ found _ _ _ => found

/-- An embedded program whose value is part of a larger one, by what its own log
shows. -/
theorem Obeys.shows_embed {inject : Stmt → Other}
    {answer : ∀ stmt, Except ε (Answer (inject stmt)) → Except ε (Resp stmt)}
    {inner : LogEntry Stmt Resp ε → LogEntry Other Answer ε}
    (innerEq : ∀ stmt given, inner ⟨stmt, answer stmt given⟩ =
      ⟨inject stmt, given⟩)
    {others : (stmt : Other) → Except ε (Answer stmt) → Prop}
    {tree : StatementTree Stmt Resp ε α} {part : α → β} {counts : β → Prop}
    {wanted : LogEntry Other Answer ε → Prop}
    (obeys : Obeys (fun _ _ => True) (fun _ _ => True)
      (Shows (fun value => counts (part value)) fun entry => wanted (inner entry))
      tree []) :
    Obeys (fun _ _ => True) others (Shows counts wanted)
      (StatementTree.embed inject answer tree >>= fun value => pure (part value))
      [] := by
  have embedded : Obeys (fun _ _ => True) others
      (fun after result => ∃ log, after = log.map inner ++ [] ∧
        Shows (fun value => counts (part value)) (fun entry => wanted (inner entry))
          log result)
      (StatementTree.embed inject answer tree) [] :=
    Obeys.embed innerEq (fun _ _ _ => trivial) obeys
  refine embedded.bind ?_ fun log error _ => shows_error error
  rintro log value ⟨logged, rfl, holds⟩ result ⟨⟩ given
  obtain ⟨entry, entryMem, isWanted⟩ := holds value rfl given
  refine ⟨inner entry, ?_, isWanted⟩
  rw [List.append_nil]
  exact List.mem_map_of_mem entryMem

end Shows

end StatementTree
