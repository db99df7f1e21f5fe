import HexIam.AuditLog
import HexIam.GuardedRun
import Mathlib.Logic.Function.Basic

/-!
# Delivery of audit entries

`AuditLogConsumer` reads the stream with `>`, which returns what was never
delivered to the group, writes each batch with one `executemany` and
acknowledges it.  Nothing reads the pending list again.  So a delivered entry
stays accounted for exactly as long as no reply is lost, no batch is refused
and no consumer dies between `xreadgroup` and `executemany`.
-/

namespace HexIam

open UtcTimestamp (Moment)
open GuardedRun

namespace AuditConsumer

open AuditLog

/-! ## The consumers -/

/-- What a running consumer does next; batches are positions in the stream. -/
inductive Phase : Type
  | reading
  | writing (batch : List Nat)
  | acknowledging (batch : List Nat)

/-- A running consumer and its `CONSUMER_NAME`. -/
structure Consumer where
  name : String
  phase : Phase := .reading

/-- The stream, the group with its pending entries, the rows of `audit_logs`
with the position they come from, and the processes. -/
structure Service where
  stream : List Fields
  delivered : Nat := 0
  pending : List (String × Nat) := []
  auditLogs : List (Nat × AuditRecord) := []
  consumers : Nat → Option Consumer := fun _ => none

/-- What Python and the database decide on their own: how texts are read, and
which records the constraints of `audit_logs` let in. -/
structure Surroundings where
  python : Python
  utcNow : Moment
  accepts : AuditRecord → Bool

/-- `BATCH_SIZE`. -/
def batchSize : Nat :=
  100

/-- What `xreadgroup` returns for `>`. -/
def nextBatch (state : Service) : List Nat :=
  List.range' state.delivered
    (min batchSize (state.stream.length - state.delivered))

/-- The records `process_batch` makes of a batch. -/
def recordsFor (around : Surroundings) (state : Service) (batch : List Nat) :
    Except Exn (List AuditRecord) :=
  recordsOf around.python around.utcNow
    (batch.map fun position => (state.stream[position]?).getD [])

/-- How a call to Redis or the database ends: done, failed, or done with the
answer lost. -/
inductive Outcome : Type
  | done
  | failed
  | unanswered
  deriving DecidableEq

/-- A producer adds an entry, a process starts or dies, or a consumer makes its
next call. -/
inductive ConsumerEvent : Type
  | produce (fields : Fields)
  | start (process : Nat) (name : String)
  | read (process : Nat) (arrives : Bool)
  | write (process : Nat) (outcome : Outcome)
  | acknowledge (process : Nat) (outcome : Outcome)
  | crash (process : Nat)

/-- Let a process go on in a phase. -/
def Service.setPhase (state : Service) (process : Nat) (name : String)
    (phase : Phase) : Service :=
  { state with
    consumers := Function.update state.consumers process (some ⟨name, phase⟩) }

theorem Service.setPhase_consumers (state : Service) (process : Nat)
    (name : String) (phase : Phase) :
    (state.setPhase process name phase).consumers =
      Function.update state.consumers process (some ⟨name, phase⟩) :=
  rfl

/-- `executemany` of a batch, which stores all of its records or none, and what
`run` does on its end. -/
def writeBatch (around : Surroundings) (state : Service) (process : Nat)
    (name : String) (batch : List Nat) (outcome : Outcome) : Service :=
  match recordsFor around state batch with
  | .error _ => state.setPhase process name .reading
  | .ok records =>
      if records.all around.accepts && outcome ≠ Outcome.failed then
        let stored :=
          { state with auditLogs := state.auditLogs ++ batch.zip records }
        stored.setPhase process name
          (if outcome = .done then .acknowledging batch else .reading)
      else
        state.setPhase process name .reading

/-- The state after an event. -/
def step (around : Surroundings) (state : Service) :
    ConsumerEvent → Option Service
  | .produce fields => some { state with stream := state.stream ++ [fields] }
  | .start process name =>
      match state.consumers process with
      | none => some (state.setPhase process name .reading)
      | some _ => none
  | .read process arrives =>
      match state.consumers process with
      | some ⟨name, .reading⟩ =>
          let batch := nextBatch state
          let read := { state with
            delivered := state.delivered + batch.length
            pending := state.pending ++ batch.map fun position =>
              (name, position) }
          some (read.setPhase process name
            (if arrives && batch ≠ [] then .writing batch else .reading))
      | _ => none
  | .write process outcome =>
      match state.consumers process with
      | some ⟨name, .writing batch⟩ =>
          some (writeBatch around state process name batch outcome)
      | _ => none
  | .acknowledge process outcome =>
      match state.consumers process with
      | some ⟨name, .acknowledging batch⟩ =>
          let acknowledged := { state with
            pending := if outcome = Outcome.failed then state.pending
              else state.pending.filter fun entry => entry.2 ∉ batch }
          some (acknowledged.setPhase process name .reading)
      | _ => none
  | .crash process =>
      match state.consumers process with
      | some _ => some { state with
          consumers := Function.update state.consumers process none }
      | none => none

/-! ## The property -/

/-- The batch a process is about to write. -/
def held : Option Consumer → List Nat
  | some ⟨_, .writing batch⟩ => batch
  | _ => []

def Service.heldBy (state : Service) (process : Nat) : List Nat :=
  held (state.consumers process)

/-- The positions of the rows of `audit_logs`. -/
def Service.written (state : Service) : List Nat :=
  state.auditLogs.map Prod.fst

/-- The event is no failure. -/
def FailureFree : ConsumerEvent → Prop
  | .produce _ | .start .. => True
  | .read _ arrives => arrives = true
  | .write _ outcome | .acknowledge _ outcome => outcome = .done
  | .crash _ => False

/-- Without failures from now on, a later `xreadgroup` may return the entry. -/
def WillBeRead (around : Surroundings) (state : Service) (position : Nat) :
    Prop :=
  ∃ events later, (∀ event ∈ events, FailureFree event) ∧
    exec (step around) state events = some later ∧
    position ∈ nextBatch later

/-- Every delivered entry is in `audit_logs`, about to be written by a running
consumer, or returned by a later `xreadgroup`. -/
def AtLeastOnce (around : Surroundings) (state : Service) : Prop :=
  ∀ position < state.delivered, position ∈ state.written ∨
    (∃ process, position ∈ state.heldBy process) ∨
    WillBeRead around state position

/-! ## The condition -/

/-- All entries of a batch can be read, and the database accepts them. -/
def Storable (around : Surroundings) (state : Service) (batch : List Nat) :
    Prop :=
  ∃ records, recordsFor around state batch = .ok records ∧
    records.all around.accepts = true

/-- A reply with entries arrives, a batch is stored, and no process dies with
one. -/
def Unbroken (around : Surroundings) (state : Service) : ConsumerEvent → Prop
  | .read _ arrives => arrives = true ∨ nextBatch state = []
  | .write process outcome =>
      Storable around state (state.heldBy process) ∧ outcome ≠ .failed
  | .crash process => state.heldBy process = []
  | _ => True

/-! ## What a step does -/

section Steps

variable {around : Surroundings} {state next : Service} {event : ConsumerEvent}
variable {process : Nat} {name : String} {phase : Phase}

theorem heldBy_setPhase :
    (state.setPhase process name phase).heldBy =
      Function.update state.heldBy process (held (some ⟨name, phase⟩)) := by
  funext other
  by_cases same : other = process
  · subst same
    simp [Service.heldBy, Service.setPhase]
  · simp [Service.heldBy, Service.setPhase, same]

theorem length_mapM {α β : Type} {read : α → Except Exn β} {items : List α}
    {values : List β} (ran : items.mapM read = .ok values) :
    values.length = items.length := by
  induction items generalizing values with
  | nil =>
      cases ran
      rfl
  | cons item items ih =>
      rw [List.mapM_cons] at ran
      cases first : read item with
      | error error =>
          rw [first] at ran
          cases ran
      | ok value =>
          rw [first] at ran
          cases rest : items.mapM read with
          | error error =>
              rw [rest] at ran
              cases ran
          | ok others =>
              rw [rest] at ran
              cases ran
              rw [List.length_cons, List.length_cons, ih rest]

/-- The rows of a batch come from its positions. -/
theorem written_zip {batch : List Nat} {records : List AuditRecord}
    (read : recordsFor around state batch = .ok records) :
    (batch.zip records).map Prod.fst = batch := by
  have sameLength := length_mapM read
  rw [List.length_map] at sameLength
  exact List.map_fst_zip (le_of_eq sameLength.symm)

/-- What a step does to the delivered entries, the batches held and the rows,
and whether it breaks the delivery. -/
inductive Effect (around : Surroundings) (state : Service)
    (event : ConsumerEvent) (next : Service) : Prop
  | idle (delivered : next.delivered = state.delivered)
      (heldBy : next.heldBy = state.heldBy)
      (written : next.written = state.written)
      (unbroken : Unbroken around state event)
  | deliver (process : Nat) (free : state.heldBy process = [])
      (delivered : next.delivered = state.delivered + (nextBatch state).length)
      (heldBy : next.heldBy =
        Function.update state.heldBy process (nextBatch state))
      (written : next.written = state.written)
      (unbroken : Unbroken around state event)
  | lose (new : nextBatch state ≠ [])
      (delivered : next.delivered = state.delivered + (nextBatch state).length)
      (heldBy : next.heldBy = state.heldBy)
      (written : next.written = state.written)
      (broken : ¬ Unbroken around state event)
  | store (process : Nat) (delivered : next.delivered = state.delivered)
      (heldBy : next.heldBy = Function.update state.heldBy process [])
      (written : next.written = state.written ++ state.heldBy process)
      (unbroken : Unbroken around state event)
  | drop (process : Nat) (some : state.heldBy process ≠ [])
      (delivered : next.delivered = state.delivered)
      (heldBy : next.heldBy = Function.update state.heldBy process [])
      (written : next.written = state.written)
      (broken : ¬ Unbroken around state event)

theorem update_of_free {α : Type} {before : Nat → α} {value : α}
    (free : before process = value) :
    Function.update before process value = before := by
  rw [← free, Function.update_eq_self]

theorem heldBy_idle (free : state.heldBy process = [])
    (without : held (some ⟨name, phase⟩) = []) :
    (state.setPhase process name phase).heldBy = state.heldBy := by
  rw [heldBy_setPhase, without]
  exact update_of_free free

theorem effect_read {arrives : Bool}
    (runs : state.consumers process = some ⟨name, .reading⟩)
    (isStep : step around state (.read process arrives) = some next) :
    Effect around state (.read process arrives) next := by
  have free : state.heldBy process = [] := congrArg held runs
  simp only [step, runs] at isStep
  cases isStep
  by_cases noNew : nextBatch state = []
  · refine .idle ?_ ?_ rfl (.inr noNew)
    · simp [Service.setPhase, noNew]
    · simp only [noNew, ne_eq, not_true_eq_false, decide_false, Bool.and_false,
        Bool.false_eq_true, if_false]
      exact heldBy_idle free rfl
  · cases arrives with
    | false =>
        exact .lose noNew rfl (heldBy_idle free rfl) rfl (by simp [Unbroken, noNew])
    | true =>
        refine .deliver process free rfl ?_ rfl (.inl rfl)
        simp only [noNew, ne_eq, not_false_eq_true, decide_true, Bool.and_true,
          if_true]
        exact heldBy_setPhase

theorem effect_write {batch : List Nat} {outcome : Outcome} (some : batch ≠ [])
    (runs : state.consumers process = Option.some ⟨name, .writing batch⟩)
    (isStep : step around state (.write process outcome) = Option.some next) :
    Effect around state (.write process outcome) next := by
  have holds : state.heldBy process = batch := congrArg held runs
  simp only [step, runs] at isStep
  cases isStep
  unfold writeBatch
  split
  case h_1 error read =>
    refine .drop process (holds ▸ some) rfl heldBy_setPhase rfl ?_
    rintro ⟨⟨records, ok, -⟩, -⟩
    rw [holds, read] at ok
    cases ok
  case h_2 records read =>
    split
    case isTrue stored =>
      simp only [Bool.and_eq_true, decide_eq_true_eq] at stored
      refine .store process rfl ?_ ?_
        ⟨⟨records, holds ▸ read, stored.1⟩, stored.2⟩
      · dsimp only
        split <;> exact heldBy_setPhase
      · rw [holds]
        change (state.auditLogs ++ batch.zip records).map Prod.fst = _
        rw [List.map_append, written_zip read]
        rfl
    case isFalse refused =>
      refine .drop process (holds ▸ some) rfl heldBy_setPhase rfl ?_
      rintro ⟨⟨records, ok, accepted⟩, notFailed⟩
      rw [holds, read] at ok
      cases ok
      simp [accepted, notFailed] at refused

/-- No consumer is about to write an empty batch. -/
def NoEmptyBatch (state : Service) : Prop :=
  ∀ process name, state.consumers process ≠ some ⟨name, .writing []⟩

theorem noEmptyBatch_setPhase (none : NoEmptyBatch state)
    (other : phase ≠ .writing []) :
    NoEmptyBatch (state.setPhase process name phase) := by
  intro anyProcess anyName runs
  by_cases same : anyProcess = process
  · subst same
    rw [Service.setPhase_consumers, Function.update_self] at runs
    cases runs
    exact other rfl
  · rw [Service.setPhase_consumers, Function.update_of_ne same] at runs
    exact none anyProcess anyName runs

theorem noEmptyBatch_step (none : NoEmptyBatch state)
    (isStep : step around state event = some next) : NoEmptyBatch next := by
  cases event with
  | produce fields =>
      cases isStep
      exact none
  | start process name =>
      simp only [step] at isStep
      split at isStep
      · cases isStep
        exact noEmptyBatch_setPhase none nofun
      · cases isStep
  | read process arrives =>
      simp only [step] at isStep
      split at isStep
      · cases isStep
        refine noEmptyBatch_setPhase none ?_
        split
        case isTrue new =>
          intro isEmpty
          cases noNew : nextBatch state with
          | nil => simp [noNew] at new
          | cons first rest =>
              rw [noNew] at isEmpty
              cases isEmpty
        case isFalse => nofun
      · cases isStep
  | write process outcome =>
      simp only [step] at isStep
      split at isStep
      · cases isStep
        unfold writeBatch
        split
        · exact noEmptyBatch_setPhase none nofun
        · split
          · refine noEmptyBatch_setPhase none ?_
            split <;> nofun
          · exact noEmptyBatch_setPhase none nofun
      · cases isStep
  | acknowledge process outcome =>
      simp only [step] at isStep
      split at isStep
      · cases isStep
        exact noEmptyBatch_setPhase none nofun
      · cases isStep
  | crash process =>
      simp only [step] at isStep
      split at isStep
      · cases isStep
        intro anyProcess anyName runs
        dsimp only at runs
        by_cases same : anyProcess = process
        · subst same
          rw [Function.update_self] at runs
          cases runs
        · rw [Function.update_of_ne same] at runs
          exact none anyProcess anyName runs
      · cases isStep

theorem step_effect (noEmpty : NoEmptyBatch state)
    (isStep : step around state event = some next) :
    Effect around state event next := by
  cases event with
  | produce fields =>
      cases isStep
      exact .idle rfl rfl rfl trivial
  | start process name =>
      simp only [step] at isStep
      split at isStep
      case h_1 absent =>
        cases isStep
        exact .idle rfl (heldBy_idle (congrArg held absent) rfl) rfl trivial
      case h_2 => cases isStep
  | read process arrives =>
      have isRead := isStep
      simp only [step] at isRead
      split at isRead
      case h_1 name runs => exact effect_read runs isStep
      case h_2 => cases isRead
  | write process outcome =>
      have isWrite := isStep
      simp only [step] at isWrite
      split at isWrite
      case h_1 name batch runs =>
        refine effect_write ?_ runs isStep
        rintro rfl
        exact noEmpty process name runs
      case h_2 => cases isWrite
  | acknowledge process outcome =>
      simp only [step] at isStep
      split at isStep
      case h_1 name batch runs =>
        cases isStep
        exact .idle rfl (heldBy_idle (congrArg held runs) rfl) rfl trivial
      case h_2 => cases isStep
  | crash process =>
      simp only [step] at isStep
      split at isStep
      case h_1 consumer runs =>
        cases isStep
        have dies : Service.heldBy { state with
            consumers := Function.update state.consumers process none } =
            Function.update state.heldBy process [] := by
          funext other
          by_cases same : other = process
          · subst same
            simp [Service.heldBy, held]
          · simp [Service.heldBy, same]
        by_cases free : state.heldBy process = []
        · exact .idle rfl (dies.trans (update_of_free free)) rfl free
        · exact .drop process free rfl dies rfl free
      case h_2 => cases isStep

/-! ## Where the entries are -/

/-- The batches are disjoint, delivered and not written yet. -/
structure Accounted (state : Service) : Prop where
  noEmpty : NoEmptyBatch state
  written : ∀ position ∈ state.written, position < state.delivered
  held : ∀ process, ∀ position ∈ state.heldBy process,
    position < state.delivered ∧ position ∉ state.written
  disjoint : ∀ process other position, position ∈ state.heldBy process →
    position ∈ state.heldBy other → process = other

theorem mem_nextBatch {position : Nat} (mem : position ∈ nextBatch state) :
    state.delivered ≤ position ∧
      position < state.delivered + (nextBatch state).length := by
  unfold nextBatch at mem ⊢
  rw [List.length_range']
  exact List.mem_range'_1.mp mem

theorem mem_nextBatch_of_lt {position : Nat}
    (delivered : state.delivered ≤ position)
    (lt : position < state.delivered + (nextBatch state).length) :
    position ∈ nextBatch state := by
  unfold nextBatch at lt ⊢
  rw [List.length_range'] at lt
  exact List.mem_range'_1.mpr ⟨delivered, lt⟩

theorem mem_update {process anyProcess position : Nat} {batch : List Nat}
    {before : Nat → List Nat} :
    position ∈ Function.update before process batch anyProcess ↔
      (anyProcess = process ∧ position ∈ batch) ∨
        (anyProcess ≠ process ∧ position ∈ before anyProcess) := by
  by_cases same : anyProcess = process
  · subst same
    simp
  · simp [same]

theorem mem_update_nil {process anyProcess position : Nat}
    {before : Nat → List Nat} :
    position ∈ Function.update before process [] anyProcess ↔
      anyProcess ≠ process ∧ position ∈ before anyProcess := by
  simp [mem_update]

theorem Accounted.step (accounted : Accounted state)
    (isStep : step around state event = some next) : Accounted next := by
  have noEmpty := noEmptyBatch_step accounted.noEmpty isStep
  cases step_effect accounted.noEmpty isStep with
  | idle delivered heldBy written _ =>
      refine ⟨noEmpty, ?_, ?_, ?_⟩
      · rw [written, delivered]
        exact accounted.written
      · rw [heldBy, written, delivered]
        exact accounted.held
      · rw [heldBy]
        exact accounted.disjoint
  | deliver process free delivered heldBy written _ =>
      refine ⟨noEmpty, ?_, ?_, ?_⟩
      · intro position mem
        have before := accounted.written position (written ▸ mem)
        omega
      · intro holder position mem
        rw [heldBy] at mem
        rw [written]
        rcases mem_update.mp mem with ⟨-, new⟩ | ⟨-, old⟩
        · obtain ⟨notBefore, below⟩ := mem_nextBatch new
          refine ⟨by omega, fun isWritten => ?_⟩
          have before := accounted.written position isWritten
          omega
        · obtain ⟨below, unwritten⟩ := accounted.held holder position old
          exact ⟨by omega, unwritten⟩
      · intro holder other position mem otherMem
        rw [heldBy] at mem otherMem
        rcases mem_update.mp mem with ⟨rfl, new⟩ | ⟨-, old⟩
        · rcases mem_update.mp otherMem with ⟨rfl, -⟩ | ⟨-, otherOld⟩
          · rfl
          · have below := (accounted.held other position otherOld).1
            have notBefore := (mem_nextBatch new).1
            omega
        · rcases mem_update.mp otherMem with ⟨rfl, new⟩ | ⟨-, otherOld⟩
          · have below := (accounted.held holder position old).1
            have notBefore := (mem_nextBatch new).1
            omega
          · exact accounted.disjoint holder other position old otherOld
  | lose new delivered heldBy written _ =>
      refine ⟨noEmpty, ?_, ?_, ?_⟩
      · intro position mem
        have before := accounted.written position (written ▸ mem)
        omega
      · intro holder position mem
        obtain ⟨below, unwritten⟩ := accounted.held holder position (heldBy ▸ mem)
        exact ⟨by omega, written ▸ unwritten⟩
      · rw [heldBy]
        exact accounted.disjoint
  | store process delivered heldBy written _ =>
      refine ⟨noEmpty, ?_, ?_, ?_⟩
      · intro position mem
        rw [written] at mem
        rw [delivered]
        rcases List.mem_append.mp mem with old | stored
        · exact accounted.written position old
        · exact (accounted.held process position stored).1
      · intro holder position mem
        rw [heldBy] at mem
        obtain ⟨other, mem⟩ := mem_update_nil.mp mem
        obtain ⟨below, unwritten⟩ := accounted.held holder position mem
        refine ⟨by omega, fun isWritten => ?_⟩
        rw [written] at isWritten
        rcases List.mem_append.mp isWritten with old | stored
        · exact unwritten old
        · exact other (accounted.disjoint holder process position mem stored)
      · intro holder other position mem otherMem
        rw [heldBy] at mem otherMem
        exact accounted.disjoint holder other position (mem_update_nil.mp mem).2
          (mem_update_nil.mp otherMem).2
  | drop process some delivered heldBy written _ =>
      refine ⟨noEmpty, ?_, ?_, ?_⟩
      · rw [written, delivered]
        exact accounted.written
      · intro holder position mem
        rw [heldBy] at mem
        rw [written, delivered]
        exact accounted.held holder position (mem_update_nil.mp mem).2
      · intro holder other position mem otherMem
        rw [heldBy] at mem otherMem
        exact accounted.disjoint holder other position (mem_update_nil.mp mem).2
          (mem_update_nil.mp otherMem).2

theorem delivered_le (accounted : Accounted state)
    (isStep : step around state event = some next) :
    state.delivered ≤ next.delivered := by
  cases step_effect accounted.noEmpty isStep with
  | idle delivered | store _ delivered | drop _ _ delivered =>
      exact le_of_eq delivered.symm
  | deliver _ _ delivered | lose _ delivered =>
      rw [delivered]
      exact Nat.le_add_right _ _

/-- No later `xreadgroup` returns what was delivered. -/
theorem not_willBeRead (accounted : Accounted state) {position : Nat}
    (below : position < state.delivered) : ¬ WillBeRead around state position := by
  rintro ⟨events, later, -, runs, mem⟩
  have keeps (middle : Service) (event : ConsumerEvent) (next : Service)
      (before : Accounted middle ∧ state.delivered ≤ middle.delivered)
      (isStep : step around middle event = some next) :
      Accounted next ∧ state.delivered ≤ next.delivered :=
    ⟨before.1.step isStep, before.2.trans (delivered_le before.1 isStep)⟩
  have grows := invariant keeps ⟨accounted, le_rfl⟩ runs
  have notBefore := (mem_nextBatch mem).1
  omega

theorem atLeastOnce_iff (accounted : Accounted state) :
    AtLeastOnce around state ↔ ∀ position < state.delivered,
      position ∈ state.written ∨ ∃ process, position ∈ state.heldBy process := by
  refine forall_congr' fun position => forall_congr' fun below => ?_
  have never : ¬ WillBeRead around state position :=
    not_willBeRead accounted below
  tauto

/-- A step keeps the delivered entries accounted for exactly when it breaks
nothing. -/
theorem atLeastOnce_step (accounted : Accounted state)
    (good : AtLeastOnce around state)
    (isStep : step around state event = some next) :
    AtLeastOnce around next ↔ Unbroken around state event := by
  rw [atLeastOnce_iff accounted] at good
  rw [atLeastOnce_iff (accounted.step isStep)]
  cases step_effect accounted.noEmpty isStep with
  | idle delivered heldBy written unbroken =>
      refine iff_of_true ?_ unbroken
      rw [delivered, heldBy, written]
      exact good
  | deliver process free delivered heldBy written unbroken =>
      refine iff_of_true (fun position below => ?_) unbroken
      rw [heldBy, written]
      by_cases before : position < state.delivered
      · rcases good position before with isWritten | ⟨holder, mem⟩
        · exact .inl isWritten
        · refine .inr ⟨holder, mem_update.mpr (.inr ⟨?_, mem⟩)⟩
          rintro rfl
          rw [free] at mem
          cases mem
      · have new := mem_nextBatch_of_lt (Nat.le_of_not_lt before)
          (delivered ▸ below)
        exact .inr ⟨process, mem_update.mpr (.inl ⟨rfl, new⟩)⟩
  | lose new delivered heldBy written broken =>
      refine iff_of_false (fun every => ?_) broken
      have some := List.length_pos_iff.mpr new
      rcases every state.delivered (by omega) with isWritten | ⟨holder, mem⟩
      · have below := accounted.written _ (written ▸ isWritten)
        omega
      · have below := (accounted.held holder _ (heldBy ▸ mem)).1
        omega
  | store process delivered heldBy written unbroken =>
      refine iff_of_true (fun position below => ?_) unbroken
      rw [heldBy, written]
      rcases good position (delivered ▸ below) with isWritten | ⟨holder, mem⟩
      · exact .inl (List.mem_append_left _ isWritten)
      · by_cases same : holder = process
        · exact .inl (List.mem_append_right _ (same ▸ mem))
        · exact .inr ⟨holder, mem_update_nil.mpr ⟨same, mem⟩⟩
  | drop process some delivered heldBy written broken =>
      refine iff_of_false (fun every => ?_) broken
      obtain ⟨position, mem⟩ := List.exists_mem_of_ne_nil _ some
      obtain ⟨below, unwritten⟩ := accounted.held process position mem
      rcases every position (by omega) with isWritten | ⟨holder, otherMem⟩
      · exact unwritten (written ▸ isWritten)
      · rw [heldBy] at otherMem
        obtain ⟨other, otherMem⟩ := mem_update_nil.mp otherMem
        exact other (accounted.disjoint holder process position otherMem mem)

end Steps

/-! ## The result -/

theorem accounted_start (stream : List Fields) : Accounted { stream } := by
  refine ⟨fun _ _ => nofun, ?_, ?_, ?_⟩
  · intro position mem
    cases mem
  · intro process position mem
    cases mem
  · intro process other position mem
    cases mem

theorem accounted_of_exec {around : Surroundings} {stream : List Fields}
    {events : List ConsumerEvent} {final : Service}
    (runs : exec (step around) { stream } events = some final) :
    Accounted final :=
  invariant (fun _ _ _ accounted isStep => accounted.step isStep)
    (accounted_start stream) runs

/-- From a group that was just created, every delivered entry stays accounted
for exactly in the runs in which nothing breaks the delivery. -/
theorem atLeastOnce_iff_unbroken (around : Surroundings) (stream : List Fields)
    {events : List ConsumerEvent} {final : Service}
    (runs : exec (step around) { stream } events = some final) :
    Always (step around) (AtLeastOnce around) { stream } events ↔
      Along (step around) (Unbroken around) { stream } events := by
  have start : AtLeastOnce around { stream } :=
    fun position below => absurd below (Nat.not_lt_zero position)
  have keeps (state : Service) (event : ConsumerEvent) (next : Service)
      (accounted : Accounted state)
      (isStep : step around state event = some next) : Accounted next :=
    accounted.step isStep
  refine always_iff_along_of_invariant keeps ?_ (accounted_start stream) start runs
  exact fun _ _ _ accounted good isStep => atLeastOnce_step accounted good isStep

/-! ## A number that is none -/

/-- Everything readable is accepted. -/
def plainSurroundings : Surroundings where
  python := {
    upper := upper
    otherInts := fun _ => none
    otherTimestamps := fun _ => none }
  utcNow := ⟨⟨2026, 1, 1, 0, 0, 0, 0⟩, by decide⟩
  accepts _ := true

def readable : Fields :=
  [("message", "hello")]

/-- The line is no number. -/
def unreadable : Fields :=
  [("message", "world"), ("line", "seven")]

/-- A consumer reads a batch and writes it. -/
def oneBatch : List ConsumerEvent :=
  [.start 0 "consumer-17", .read 0 true, .write 0 .done]

theorem readable_batch_atLeastOnce_iff :
    Always (step plainSurroundings) (AtLeastOnce plainSurroundings)
        { stream := [readable] } oneBatch ↔
      Along (step plainSurroundings) (Unbroken plainSurroundings)
        { stream := [readable] } oneBatch :=
  atLeastOnce_iff_unbroken plainSurroundings [readable] rfl

/-- The entry that can be read is lost with the one that cannot. -/
theorem unreadable_line_loses_batch :
    ∃ final,
      exec (step plainSurroundings) { stream := [readable, unreadable] } oneBatch =
        some final ∧ ¬ AtLeastOnce plainSurroundings final := by
  have runs : exec (step plainSurroundings) { stream := [readable, unreadable] }
      oneBatch = some _ := rfl
  refine ⟨_, runs, fun every => ?_⟩
  rcases (atLeastOnce_iff (accounted_of_exec runs)).mp every 0 (by decide) with
    isWritten | ⟨process, mem⟩
  · cases isWritten
  · cases process with
    | zero => cases mem
    | succ process => cases mem

end AuditConsumer

end HexIam
