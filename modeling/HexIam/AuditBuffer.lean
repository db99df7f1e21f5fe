import HexIam.GuardedRun
import Mathlib.Algebra.BigOperators.Group.Multiset.Basic

/-!
# The audit buffer

`publish` puts entries into `_buffer`, and a flush takes them all, sends them in
one pipeline and puts them back when that fails.  No `await` stands inside the
lock, so each piece of code between two awaits is one step.  The flush that
`stop` cancels puts nothing back: entries are conserved exactly in the runs
where a cancelled flush had already been applied, and `stop` leaves nothing
behind exactly when the buffer is empty once its own flush ends.
-/

namespace HexIam

open GuardedRun

namespace AuditBuffer

/-! ## The buffer -/

/-- The task a flush runs in. -/
inductive Task : Type
  | publisher
  | loop
  | stop
  deriving DecidableEq

/-- A flush that waits for `pipe.execute()`: its entries, and whether Redis has
already appended them. -/
structure Flush (Entry : Type) where
  task : Task
  batch : List Entry
  nonempty : batch ≠ []
  applied : Bool := false
  deriving DecidableEq

/-- Where `_flush_loop` waits: for its interval, for Redis, or no more. -/
inductive Loop : Type
  | sleeping
  | flushing
  | ended
  deriving DecidableEq

/-- Where `stop` is: not called, waiting for the cancelled loop, in its own
flush, or returned. -/
inductive Stopping : Type
  | notCalled
  | cancelling
  | flushing
  | returned
  deriving DecidableEq

/-- What was published and what the stream holds when `stop` returns, whether its
flush has succeeded, and how many other flushes run. -/
structure Return (Entry : Type) where
  published : List Entry
  stream : List Entry
  successful : Bool
  others : Nat

/-- A started `RedisLogBuffer` with its flushes, the stream, what was published,
and the cancelled flushes that Redis may still receive. -/
structure LogBuffer (Entry : Type) where
  published : List Entry := []
  stream : List Entry := []
  buffer : List Entry := []
  flushes : Multiset (Flush Entry) := 0
  abandoned : Multiset (Flush Entry) := 0
  loop : Loop := .sleeping
  stopping : Stopping := .notCalled
  returned : Option (Return Entry) := none

/-- A piece of code between two awaits, or a call to Redis that takes effect. -/
inductive BufferEvent (Entry : Type) : Type
  | publish (entry : Entry)
  | tick
  | apply (flush : Flush Entry)
  | applyLate (flush : Flush Entry)
  | finish (flush : Flush Entry)
  | fail (flush : Flush Entry)
  | stop
  | cancelSleep
  | cancelFlush (flush : Flush Entry)
  | finalFlush

section Steps

variable {Entry : Type}

/-- `_flush` up to its pipeline: the whole buffer becomes the batch, unless it is
empty. -/
def LogBuffer.flush (state : LogBuffer Entry) (task : Task) : LogBuffer Entry :=
  if nonempty : state.buffer ≠ [] then
    { state with
      buffer := []
      flushes := { task, batch := state.buffer, nonempty } ::ₘ state.flushes }
  else state

/-- The task of a flush that has ended goes on. -/
def LogBuffer.resume (state : LogBuffer Entry) (task : Task)
    (successful : Bool) : LogBuffer Entry :=
  match task with
  | .publisher => state
  | .loop => { state with loop := .sleeping }
  | .stop =>
      { state with
        stopping := .returned
        returned := some {
          published := state.published
          stream := state.stream
          successful
          others := state.flushes.card } }

variable [DecidableEq Entry]

/-- A flush of the loop no longer goes on once `stop` has cancelled it. -/
def LogBuffer.goesOn (state : LogBuffer Entry) (flush : Flush Entry) : Bool :=
  flush ∈ state.flushes &&
    !(flush.task = Task.loop && state.stopping = Stopping.cancelling)

/-- The state after an event, where `bufferSize` is `buffer_size`. -/
def step (bufferSize : Nat) (state : LogBuffer Entry) :
    BufferEvent Entry → Option (LogBuffer Entry)
  | .publish entry =>
      let appended := { state with
        published := state.published ++ [entry]
        buffer := state.buffer ++ [entry] }
      some (if bufferSize ≤ appended.buffer.length then appended.flush .publisher
        else appended)
  | .tick =>
      if state.loop = .sleeping ∧ state.stopping = .notCalled then
        some { state.flush .loop with
          loop := if state.buffer = [] then .sleeping else .flushing }
      else none
  | .apply flush =>
      if flush ∈ state.flushes ∧ flush.applied = false then
        some { state with
          stream := state.stream ++ flush.batch
          flushes := { flush with applied := true } ::ₘ state.flushes.erase flush }
      else none
  | .applyLate flush =>
      if flush ∈ state.abandoned then
        some { state with
          stream := state.stream ++ flush.batch
          abandoned := state.abandoned.erase flush }
      else none
  | .finish flush =>
      if state.goesOn flush ∧ flush.applied = true then
        some (LogBuffer.resume { state with flushes := state.flushes.erase flush }
          flush.task true)
      else none
  | .fail flush =>
      if state.goesOn flush ∧ flush.applied = false then
        some (LogBuffer.resume { state with
          flushes := state.flushes.erase flush
          buffer := flush.batch.take 100 ++ state.buffer.take 100 } flush.task false)
      else none
  | .stop =>
      if state.stopping = .notCalled then
        some { state with stopping := .cancelling }
      else none
  | .cancelSleep =>
      if state.loop = .sleeping ∧ state.stopping = .cancelling then
        some { state with loop := .ended }
      else none
  | .cancelFlush flush =>
      if flush ∈ state.flushes ∧ flush.task = .loop ∧
          state.stopping = .cancelling then
        some { state with
          flushes := state.flushes.erase flush
          abandoned := if flush.applied then state.abandoned
            else flush ::ₘ state.abandoned
          loop := .ended }
      else none
  | .finalFlush =>
      if state.loop = .ended ∧ state.stopping = .cancelling then
        if state.buffer = [] then some (state.resume .stop true)
        else some { state.flush .stop with stopping := .flushing }
      else none

/-- The other way an execution fails: Redis has appended the entries, but its
reply is lost.  `_flush` puts them back all the same. -/
def loseReply (state : LogBuffer Entry) (flush : Flush Entry) :
    Option (LogBuffer Entry) :=
  if state.goesOn flush ∧ flush.applied = true then
    some (LogBuffer.resume { state with
      flushes := state.flushes.erase flush
      buffer := flush.batch.take 100 ++ state.buffer.take 100 } flush.task false)
  else none

end Steps

/-! ## The property -/

section Property

variable {Entry : Type}

/-- The entries a flush holds that are not in the stream. -/
def Flush.held (flush : Flush Entry) : Multiset Entry :=
  if flush.applied then 0 else flush.batch

/-- The entries that running flushes hold. -/
def LogBuffer.held (state : LogBuffer Entry) : Multiset Entry :=
  (state.flushes.map Flush.held).sum

/-- Every published entry is in the stream, held by a flush or buffered, and in
one of these places only. -/
def Conserved (state : LogBuffer Entry) : Prop :=
  (state.published : Multiset Entry) = state.stream + state.held + state.buffer

/-- When `stop` returned after a successful flush without another one running,
the stream held every published entry exactly once. -/
def Delivered (state : LogBuffer Entry) : Prop :=
  ∀ returned ∈ state.returned, returned.successful = true →
    returned.others = 0 →
      (returned.published : Multiset Entry) = returned.stream

def Kept (state : LogBuffer Entry) : Prop :=
  Conserved state ∧ Delivered state

/-- At most 100 entries are outstanding. -/
def Few (state : LogBuffer Entry) : Prop :=
  state.held.card + state.buffer.length ≤ 100

instance [DecidableEq Entry] (state : LogBuffer Entry) :
    Decidable (Conserved state) :=
  inferInstanceAs (Decidable (_ = _))

instance (state : LogBuffer Entry) : Decidable (Few state) :=
  inferInstanceAs (Decidable (_ ≤ _))

/-! ## The condition -/

/-- A flush is cancelled only after Redis has appended its entries, and when the
flush of `stop` ends without another one running, the buffer is empty. -/
def Careful [DecidableEq Entry] (state : LogBuffer Entry) :
    BufferEvent Entry → Prop
  | .cancelFlush flush => flush.applied = true
  | .finish flush => flush.task = .stop → state.flushes.erase flush = 0 →
      state.buffer = []
  | _ => True

/-! ## Where the entries are -/

/-- The entries of the cancelled flushes. -/
def LogBuffer.lost (state : LogBuffer Entry) : Multiset Entry :=
  (state.abandoned.map fun flush => (flush.batch : Multiset Entry)).sum

/-- Every published entry is in one of the places, or was given up, and so is
every entry again that was put back although Redis has it. -/
def Accounted (repeated : Multiset Entry) (state : LogBuffer Entry) : Prop :=
  state.published + repeated =
    state.stream + state.held + state.buffer + state.lost

theorem coe_batch_ne_zero (flush : Flush Entry) :
    (flush.batch : Multiset Entry) ≠ 0 :=
  fun isZero => flush.nonempty ((Multiset.coe_eq_zero _).mp isZero)

theorem lost_eq_zero {state : LogBuffer Entry} :
    state.lost = 0 ↔ state.abandoned = 0 := by
  constructor
  · intro none
    refine Multiset.eq_zero_of_forall_notMem fun flush mem => ?_
    obtain ⟨others, apart⟩ := Multiset.exists_cons_of_mem mem
    rw [LogBuffer.lost, apart, Multiset.map_cons, Multiset.sum_cons] at none
    have within : (flush.batch : Multiset Entry) ≤ 0 :=
      none ▸ Multiset.le_add_right _ _
    exact coe_batch_ne_zero flush (Multiset.le_zero.mp within)
  · intro none
    rw [LogBuffer.lost, none]
    rfl

/-- Entries are conserved as far as none was given up. -/
theorem conserved_iff {state : LogBuffer Entry} (accounted : Accounted 0 state) :
    Conserved state ↔ state.abandoned = 0 := by
  rw [Accounted, add_zero] at accounted
  rw [← lost_eq_zero, Conserved, accounted]
  exact add_eq_left

/-- A flush takes over what was buffered. -/
theorem accounted_flush {repeated : Multiset Entry} {state : LogBuffer Entry}
    {task : Task} (accounted : Accounted repeated state) :
    Accounted repeated (state.flush task) := by
  unfold LogBuffer.flush
  split
  case isTrue nonempty =>
    have taken : Flush.held { task, batch := state.buffer, nonempty } =
        (state.buffer : Multiset Entry) := rfl
    unfold Accounted LogBuffer.held LogBuffer.lost at accounted ⊢
    rw [Multiset.map_cons, Multiset.sum_cons, taken, accounted,
      Multiset.coe_nil]
    ac_rfl
  case isFalse => exact accounted

theorem accounted_resume {repeated : Multiset Entry} {state : LogBuffer Entry}
    {task : Task} {successful : Bool} (accounted : Accounted repeated state) :
    Accounted repeated (state.resume task successful) := by
  cases task <;> exact accounted

theorem abandoned_flush (state : LogBuffer Entry) (task : Task) :
    (state.flush task).abandoned = state.abandoned := by
  unfold LogBuffer.flush
  split <;> rfl

theorem abandoned_resume (state : LogBuffer Entry) (task : Task)
    (successful : Bool) :
    (state.resume task successful).abandoned = state.abandoned := by
  cases task <;> rfl

theorem returned_flush (state : LogBuffer Entry) (task : Task) :
    (state.flush task).returned = state.returned := by
  unfold LogBuffer.flush
  split <;> rfl

/-- When the last flush ends as that of `stop`, everything is delivered exactly
when nothing is buffered. -/
theorem delivered_iff {state : LogBuffer Entry} (conserved : Conserved state) :
    Delivered (state.resume .stop true) ↔
      (state.flushes = 0 → state.buffer = []) := by
  have noFlush (none : state.flushes = 0) : state.held = 0 := by
    rw [LogBuffer.held, none]
    rfl
  unfold Conserved at conserved
  constructor
  · intro delivered none
    have all := delivered _ rfl rfl (Multiset.card_eq_zero.mpr none)
    rw [show ((state.published : Multiset Entry)) = state.stream from all,
      noFlush none, add_zero] at conserved
    exact (Multiset.coe_eq_zero _).mp (left_eq_add.mp conserved)
  · rintro empty _ ⟨⟩ - none
    have none := Multiset.card_eq_zero.mp none
    rw [noFlush none, empty none, Multiset.coe_nil, add_zero, add_zero]
      at conserved
    exact conserved

theorem delivered_resume_of_ne {state : LogBuffer Entry} {task : Task}
    {successful : Bool} (delivered : Delivered state)
    (other : task = .stop → successful = false) :
    Delivered (state.resume task successful) := by
  cases task with
  | publisher => exact delivered
  | loop => exact delivered
  | stop =>
      rintro _ ⟨⟩ isSuccessful
      exact absurd ((other rfl).symm.trans isSuccessful) Bool.false_ne_true

variable [DecidableEq Entry]

theorem held_erase {state : LogBuffer Entry} {flush : Flush Entry}
    (mem : flush ∈ state.flushes) :
    state.held =
      flush.held + ((state.flushes.erase flush).map Flush.held).sum :=
  (Multiset.sum_map_erase mem).symm

theorem lost_erase {state : LogBuffer Entry} {flush : Flush Entry}
    (mem : flush ∈ state.abandoned) :
    state.lost = flush.batch +
      ((state.abandoned.erase flush).map fun flush =>
        (flush.batch : Multiset Entry)).sum :=
  (Multiset.sum_map_erase mem).symm

/-- Under 100 entries nothing is cut off when a batch is put back. -/
theorem putBack {state : LogBuffer Entry} {flush : Flush Entry}
    (few : Few state) (mem : flush ∈ state.flushes)
    (notApplied : flush.applied = false) :
    flush.batch.take 100 ++ state.buffer.take 100 =
      flush.batch ++ state.buffer := by
  have isHeld : flush.held = flush.batch := by simp [Flush.held, notApplied]
  have counted : flush.batch.length + state.buffer.length ≤ 100 := by
    unfold Few at few
    rw [held_erase mem, isHeld, Multiset.card_add, Multiset.coe_card] at few
    omega
  rw [List.take_of_length_le (by omega), List.take_of_length_le (by omega)]

theorem mem_of_goesOn {state : LogBuffer Entry} {flush : Flush Entry}
    (goesOn : state.goesOn flush = true) : flush ∈ state.flushes :=
  of_decide_eq_true (Bool.and_eq_true_iff.mp goesOn).1

theorem accounted_finish {repeated : Multiset Entry} {state : LogBuffer Entry}
    {flush : Flush Entry} (accounted : Accounted repeated state)
    (goesOn : state.goesOn flush = true) (applied : flush.applied = true) :
    Accounted repeated { state with flushes := state.flushes.erase flush } := by
  have released : flush.held = 0 := by simp [Flush.held, applied]
  unfold Accounted at accounted ⊢
  rw [held_erase (mem_of_goesOn goesOn), released, zero_add] at accounted
  exact accounted

/-- Each piece of code leaves every entry in one place. -/
theorem accounted_step {bufferSize : Nat} {repeated : Multiset Entry}
    {state next : LogBuffer Entry} {event : BufferEvent Entry}
    (accounted : Accounted repeated state) (few : Few state)
    (isStep : step bufferSize state event = some next) :
    Accounted repeated next := by
  cases event with
  | publish entry =>
      simp only [step, Option.some.injEq] at isStep
      have appended : Accounted repeated { state with
          published := state.published ++ [entry]
          buffer := state.buffer ++ [entry] } := by
        unfold Accounted LogBuffer.held LogBuffer.lost at accounted ⊢
        rw [← Multiset.coe_add, ← Multiset.coe_add, add_right_comm, accounted]
        ac_rfl
      rw [← isStep]
      split
      · exact accounted_flush appended
      · exact appended
  | tick =>
      simp only [step, Option.ite_none_right_eq_some] at isStep
      obtain ⟨-, isNext⟩ := isStep
      cases isNext
      exact accounted_flush accounted
  | apply flush =>
      simp only [step, Option.ite_none_right_eq_some] at isStep
      obtain ⟨⟨mem, notApplied⟩, isNext⟩ := isStep
      cases isNext
      have isHeld : flush.held = flush.batch := by simp [Flush.held, notApplied]
      have released : Flush.held { flush with applied := true } = 0 := rfl
      unfold Accounted at accounted ⊢
      rw [held_erase mem, isHeld] at accounted
      unfold LogBuffer.lost at accounted ⊢
      unfold LogBuffer.held
      rw [Multiset.map_cons, Multiset.sum_cons, released, ← Multiset.coe_add,
        accounted, zero_add]
      ac_rfl
  | applyLate flush =>
      simp only [step, Option.ite_none_right_eq_some] at isStep
      obtain ⟨mem, isNext⟩ := isStep
      cases isNext
      unfold Accounted at accounted ⊢
      rw [lost_erase mem] at accounted
      unfold LogBuffer.held LogBuffer.lost at *
      rw [← Multiset.coe_add, accounted]
      ac_rfl
  | finish flush =>
      simp only [step, Option.ite_none_right_eq_some] at isStep
      obtain ⟨⟨goesOn, applied⟩, isNext⟩ := isStep
      cases isNext
      exact accounted_resume (accounted_finish accounted goesOn applied)
  | fail flush =>
      simp only [step, Option.ite_none_right_eq_some] at isStep
      obtain ⟨⟨goesOn, notApplied⟩, isNext⟩ := isStep
      cases isNext
      have mem := mem_of_goesOn goesOn
      have isHeld : flush.held = flush.batch := by simp [Flush.held, notApplied]
      refine accounted_resume ?_
      unfold Accounted at accounted ⊢
      rw [held_erase mem, isHeld] at accounted
      rw [putBack few mem notApplied]
      unfold LogBuffer.lost at accounted ⊢
      unfold LogBuffer.held
      rw [← Multiset.coe_add, accounted]
      ac_rfl
  | stop =>
      simp only [step, Option.ite_none_right_eq_some] at isStep
      obtain ⟨-, isNext⟩ := isStep
      cases isNext
      exact accounted
  | cancelSleep =>
      simp only [step, Option.ite_none_right_eq_some] at isStep
      obtain ⟨-, isNext⟩ := isStep
      cases isNext
      exact accounted
  | cancelFlush flush =>
      simp only [step, Option.ite_none_right_eq_some] at isStep
      obtain ⟨⟨mem, -, -⟩, isNext⟩ := isStep
      cases isNext
      unfold Accounted at accounted ⊢
      rw [held_erase mem] at accounted
      unfold LogBuffer.lost at accounted ⊢
      unfold LogBuffer.held
      cases applied : flush.applied with
      | true =>
          have released : flush.held = 0 := by simp [Flush.held, applied]
          rw [released, zero_add] at accounted
          exact accounted
      | false =>
          have isHeld : flush.held = flush.batch := by simp [Flush.held, applied]
          rw [isHeld] at accounted
          rw [if_neg Bool.false_ne_true, Multiset.map_cons, Multiset.sum_cons,
            accounted]
          ac_rfl
  | finalFlush =>
      simp only [step, Option.ite_none_right_eq_some] at isStep
      obtain ⟨-, isNext⟩ := isStep
      split at isNext
      · cases isNext
        exact accounted_resume accounted
      · cases isNext
        exact accounted_flush accounted

theorem accounted_loseReply {repeated : Multiset Entry}
    {state next : LogBuffer Entry} {flush : Flush Entry}
    (accounted : Accounted repeated state) (few : Few state)
    (short : flush.batch.length ≤ 100)
    (isStep : loseReply state flush = some next) :
    Accounted (repeated + (flush.batch : Multiset Entry)) next := by
  simp only [loseReply, Option.ite_none_right_eq_some] at isStep
  obtain ⟨⟨goesOn, applied⟩, isNext⟩ := isStep
  cases isNext
  have fewBuffered : state.buffer.length ≤ 100 := by
    unfold Few at few
    omega
  refine accounted_resume ?_
  have finished := accounted_finish accounted goesOn applied
  unfold Accounted LogBuffer.held LogBuffer.lost at finished ⊢
  rw [List.take_of_length_le short, List.take_of_length_le fewBuffered,
    ← Multiset.coe_add, ← add_assoc, finished]
  ac_rfl

/-- A step keeps the entries exactly when it is careful. -/
theorem kept_step {bufferSize : Nat} {state next : LogBuffer Entry}
    {event : BufferEvent Entry} (accounted : Accounted 0 state) (few : Few state)
    (kept : Kept state) (isStep : step bufferSize state event = some next) :
    Kept next ↔ Careful state event := by
  obtain ⟨conserved, delivered⟩ := kept
  have accountedNext := accounted_step accounted few isStep
  have none := (conserved_iff accounted).mp conserved
  unfold Kept
  rw [conserved_iff accountedNext]
  cases event with
  | publish entry =>
      simp only [step, Option.some.injEq] at isStep
      refine iff_of_true ?_ trivial
      rw [← isStep]
      split
      · refine ⟨(abandoned_flush _ _).trans none, ?_⟩
        unfold Delivered
        rw [returned_flush]
        exact delivered
      · exact ⟨none, delivered⟩
  | tick =>
      simp only [step, Option.ite_none_right_eq_some] at isStep
      obtain ⟨-, isNext⟩ := isStep
      cases isNext
      refine iff_of_true ⟨(abandoned_flush _ _).trans none, ?_⟩ trivial
      unfold Delivered
      dsimp only
      rw [returned_flush]
      exact delivered
  | apply flush =>
      simp only [step, Option.ite_none_right_eq_some] at isStep
      obtain ⟨-, isNext⟩ := isStep
      cases isNext
      exact iff_of_true ⟨none, delivered⟩ trivial
  | applyLate flush =>
      simp only [step, Option.ite_none_right_eq_some] at isStep
      obtain ⟨mem, -⟩ := isStep
      rw [none] at mem
      exact absurd mem (Multiset.notMem_zero flush)
  | finish flush =>
      simp only [step, Option.ite_none_right_eq_some] at isStep
      obtain ⟨⟨goesOn, applied⟩, isNext⟩ := isStep
      cases isNext
      have gone : (LogBuffer.resume
          { state with flushes := state.flushes.erase flush }
          flush.task true).abandoned = 0 :=
        (abandoned_resume _ _ _).trans none
      refine (and_iff_right gone).trans ?_
      by_cases isStop : flush.task = .stop
      · have conservedRest :=
          (conserved_iff (accounted_finish accounted goesOn applied)).mpr none
        rw [isStop]
        exact (delivered_iff conservedRest).trans
          ⟨fun empty _ => empty, fun empty => empty isStop⟩
      · refine iff_of_true ?_ fun same => absurd same isStop
        exact delivered_resume_of_ne delivered fun same => absurd same isStop
  | fail flush =>
      simp only [step, Option.ite_none_right_eq_some] at isStep
      obtain ⟨-, isNext⟩ := isStep
      cases isNext
      refine iff_of_true ⟨(abandoned_resume _ _ _).trans none, ?_⟩ trivial
      exact delivered_resume_of_ne delivered fun _ => rfl
  | stop =>
      simp only [step, Option.ite_none_right_eq_some] at isStep
      obtain ⟨-, isNext⟩ := isStep
      cases isNext
      exact iff_of_true ⟨none, delivered⟩ trivial
  | cancelSleep =>
      simp only [step, Option.ite_none_right_eq_some] at isStep
      obtain ⟨-, isNext⟩ := isStep
      cases isNext
      exact iff_of_true ⟨none, delivered⟩ trivial
  | cancelFlush flush =>
      simp only [step, Option.ite_none_right_eq_some] at isStep
      obtain ⟨-, isNext⟩ := isStep
      cases isNext
      change _ ↔ flush.applied = true
      cases applied : flush.applied with
      | true => exact iff_of_true ⟨none, delivered⟩ rfl
      | false =>
          refine iff_of_false (fun kept => ?_) Bool.false_ne_true
          exact Multiset.cons_ne_zero kept.1
  | finalFlush =>
      simp only [step, Option.ite_none_right_eq_some] at isStep
      obtain ⟨-, isNext⟩ := isStep
      split at isNext
      case isTrue empty =>
        cases isNext
        exact iff_of_true ⟨none, (delivered_iff conserved).mpr fun _ => empty⟩
          trivial
      case isFalse =>
        cases isNext
        refine iff_of_true ⟨(abandoned_flush _ _).trans none, ?_⟩ trivial
        unfold Delivered
        dsimp only
        rw [returned_flush]
        exact delivered

end Property

/-! ## The result -/

/-- As long as at most 100 entries are outstanding, the entries are conserved,
and delivered when `stop` returns, exactly in the careful runs. -/
theorem kept_iff_careful {Entry : Type} [DecidableEq Entry] (bufferSize : Nat)
    {events : List (BufferEvent Entry)} {final : LogBuffer Entry}
    (runs : exec (step bufferSize) {} events = some final)
    (few : Always (step bufferSize) Few {} events) :
    Always (step bufferSize) Kept {} events ↔
      Along (step bufferSize) Careful {} events := by
  have keeps (state : LogBuffer Entry) (event : BufferEvent Entry)
      (next : LogBuffer Entry) (accounted : Accounted 0 state) (few : Few state)
      (isStep : step bufferSize state event = some next) : Accounted 0 next :=
    accounted_step accounted few isStep
  refine always_iff_along_within keeps ?_ rfl few ⟨rfl, nofun⟩ runs
  exact fun _ _ _ accounted few kept isStep =>
    kept_step accounted few kept isStep

/-! ## A cancelled flush -/

/-- The flush that takes a single entry. -/
def onlyFlush (task : Task) : Flush Nat where
  task
  batch := [7]
  nonempty := List.cons_ne_nil 7 []

/-- `stop` finds the loop asleep and flushes the entry itself. -/
def stoppedAsleep : List (BufferEvent Nat) :=
  [.publish 7, .stop, .cancelSleep, .finalFlush, .apply (onlyFlush .stop),
    .finish { onlyFlush .stop with applied := true }]

/-- `stop` finds the loop in its flush, of which Redis has not heard. -/
def stoppedFlushing : List (BufferEvent Nat) :=
  [.publish 7, .tick, .stop, .cancelFlush (onlyFlush .loop), .finalFlush]

theorem stoppedAsleep_kept_iff :
    Always (step 50) Kept {} stoppedAsleep ↔
      Along (step 50) Careful {} stoppedAsleep := by
  have few : Always (step 50) Few {} stoppedAsleep := by decide
  exact kept_iff_careful 50 rfl few

/-- The entry is gone, and yet `stop` returns after a successful flush. -/
theorem stoppedFlushing_loses_entry :
    Always (step 50) Few {} stoppedFlushing ∧
      ∃ final, exec (step 50) {} stoppedFlushing = some final ∧
        ¬ Conserved final ∧ ¬ Delivered final := by
  constructor
  · decide
  · have runs : exec (step 50) {} stoppedFlushing = some _ := rfl
    refine ⟨_, runs, by decide, fun delivered => ?_⟩
    have all := delivered _ rfl rfl rfl
    exact absurd all (by decide)

end AuditBuffer

end HexIam
