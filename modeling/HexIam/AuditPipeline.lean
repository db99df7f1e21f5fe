import HexIam.AuditBuffer
import HexIam.AuditConsumer
import HexIam.AuditRoundTrip
import HexIam.RunRefinement

/-!
# From the logger to the database

Server processes publish entries through their buffers, or at once, into one
stream, and consumers write what they read from it to `audit_logs`.  The parts
are treated one by one elsewhere; here they run together.  When no part loses
an entry and everything has been flushed and read, `audit_logs` holds exactly
one record for each published entry, with its values, and one more whenever the
entry was put back because the reply to its flush was lost.
-/

namespace HexIam

open UtcTimestamp (Moment)
open GuardedRun AuditLog

namespace AuditPipeline

/-! ## The parts together -/

/-- An entry that is read as it was written. -/
abbrev ReadableEntry : Type :=
  { entry : LogEntry // AuditRoundTrip.Readable entry }

/-- How an entry gets into the stream: through the buffer of a server process,
or by `publish_immediate`. -/
inductive Source : Type
  | buffer (process : Nat)
  | immediate
  deriving DecidableEq

/-- What the stream holds of an entry. -/
def fieldsOf (entry : ReadableEntry) : Fields :=
  (flushFields entry.1).getD []

/-- The buffers of the server processes, the entries they put back although Redis
has them, what `publish_immediate` was called with, the entries of the stream with
their sources, and the consumers. -/
structure Pipeline where
  buffers : Nat → AuditBuffer.LogBuffer ReadableEntry := fun _ => {}
  repeated : Nat → List ReadableEntry := fun _ => []
  forced : List ReadableEntry := []
  sent : List (Source × ReadableEntry) := []
  service : AuditConsumer.Service := { stream := [] }

/-- The entries that a source has sent. -/
def Pipeline.sentBy (state : Pipeline) (source : Source) : List ReadableEntry :=
  (state.sent.filter fun item => item.1 = source).map Prod.snd

/-- Add entries to the stream. -/
def Pipeline.send (state : Pipeline) (source : Source)
    (entries : List ReadableEntry) : Pipeline :=
  { state with
    sent := state.sent ++ entries.map fun entry => (source, entry)
    service := { state.service with
      stream := state.service.stream ++ entries.map fieldsOf } }

/-- A step of a buffer, the loss of the reply to a flush, a call of
`publish_immediate` whose `XADD` arrives or not, the trimming of the stream up to
a position, or a step of the consumers. -/
inductive PipelineEvent : Type
  | buffer (process : Nat) (event : AuditBuffer.BufferEvent ReadableEntry)
  | loseReply (process : Nat) (flush : AuditBuffer.Flush ReadableEntry)
  | immediate (entry : ReadableEntry) (arrives : Bool)
  | trim (kept : Nat)
  | consumer (event : AuditConsumer.ConsumerEvent)

/-- `MAX_STREAM_LEN`. -/
def maxStreamLen : Nat :=
  1000000

/-- The state after an event.  Only the entries that a buffer has just sent are
new in its stream. -/
def step (bufferSize : Nat) (around : AuditConsumer.Surroundings)
    (state : Pipeline) : PipelineEvent → Option Pipeline
  | .buffer process event => do
      let before := state.buffers process
      let after ← AuditBuffer.step bufferSize before event
      let stepped := { state with
        buffers := Function.update state.buffers process after }
      return stepped.send (.buffer process)
        (after.stream.drop before.stream.length)
  | .loseReply process flush => do
      let after ← AuditBuffer.loseReply (state.buffers process) flush
      return { state with
        buffers := Function.update state.buffers process after
        repeated := Function.update state.repeated process
          (state.repeated process ++ flush.batch) }
  | .immediate entry arrives =>
      let called := { state with forced := state.forced ++ [entry] }
      some (if arrives then called.send .immediate [entry] else called)
  | .trim kept =>
      -- `approximate` trimming leaves at least `MAX_STREAM_LEN` entries
      if kept + maxStreamLen ≤ state.service.stream.length then
        some { state with
          service := { state.service with
            delivered := max state.service.delivered kept } }
      else none
  | .consumer (.produce _) => none
  | .consumer event => do
      let service ← AuditConsumer.step around state.service event
      return { state with service := service }

/-! ## The condition -/

/-- A flush is not cancelled before Redis has its entries. -/
def Uncancelled : AuditBuffer.BufferEvent ReadableEntry → Prop
  | .cancelFlush flush => flush.applied = true
  | _ => True

/-- No part loses an entry: a buffer has at most 100 entries outstanding, and as
many in a batch whose reply is lost, no flush is cancelled too early, an immediate
entry arrives, only delivered entries are trimmed, and the consumers store what
they read. -/
def Careful (around : AuditConsumer.Surroundings) (state : Pipeline) :
    PipelineEvent → Prop
  | .buffer process event =>
      AuditBuffer.Few (state.buffers process) ∧ Uncancelled event
  | .loseReply process flush =>
      AuditBuffer.Few (state.buffers process) ∧ flush.batch.length ≤ 100
  | .immediate _ arrives => arrives = true
  | .trim kept => kept ≤ state.service.delivered
  | .consumer event => AuditConsumer.Unbroken around state.service event

/-! ## Buffers -/

section Buffers

variable {bufferSize : Nat} {state next : AuditBuffer.LogBuffer ReadableEntry}
variable {event : AuditBuffer.BufferEvent ReadableEntry}

@[simp]
theorem stream_flush (state : AuditBuffer.LogBuffer ReadableEntry)
    (task : AuditBuffer.Task) : (state.flush task).stream = state.stream := by
  unfold AuditBuffer.LogBuffer.flush
  split <;> rfl

@[simp]
theorem stream_resume (state : AuditBuffer.LogBuffer ReadableEntry)
    (task : AuditBuffer.Task) (successful : Bool) :
    (state.resume task successful).stream = state.stream := by
  cases task <;> rfl

/-- A buffer only adds to its stream, and gives up no flush that is not
cancelled. -/
theorem buffer_step (isStep : AuditBuffer.step bufferSize state event = some next) :
    (∃ added, next.stream = state.stream ++ added) ∧
      (state.abandoned = 0 → Uncancelled event → next.abandoned = 0) := by
  have quiet (sameStream : next.stream = state.stream)
      (sameAbandoned : next.abandoned = state.abandoned) :
      (∃ added, next.stream = state.stream ++ added) ∧
        (state.abandoned = 0 → Uncancelled event → next.abandoned = 0) :=
    ⟨⟨[], sameStream.trans (List.append_nil _).symm⟩,
      fun none _ => sameAbandoned.trans none⟩
  cases event with
  | publish entry =>
      cases isStep
      refine quiet ?_ ?_
      · split
        · exact stream_flush _ _
        · rfl
      · split
        · exact AuditBuffer.abandoned_flush _ _
        · rfl
  | tick =>
      simp only [AuditBuffer.step, Option.ite_none_right_eq_some] at isStep
      obtain ⟨-, isNext⟩ := isStep
      cases isNext
      exact quiet (stream_flush _ _) (AuditBuffer.abandoned_flush _ _)
  | apply flush =>
      simp only [AuditBuffer.step, Option.ite_none_right_eq_some] at isStep
      obtain ⟨-, isNext⟩ := isStep
      cases isNext
      exact ⟨⟨flush.batch, rfl⟩, fun none _ => none⟩
  | applyLate flush =>
      simp only [AuditBuffer.step, Option.ite_none_right_eq_some] at isStep
      obtain ⟨mem, isNext⟩ := isStep
      cases isNext
      refine ⟨⟨flush.batch, rfl⟩, fun none _ => ?_⟩
      rw [none] at mem
      exact absurd mem (Multiset.notMem_zero flush)
  | finish flush =>
      simp only [AuditBuffer.step, Option.ite_none_right_eq_some] at isStep
      obtain ⟨-, isNext⟩ := isStep
      cases isNext
      exact quiet (stream_resume _ _ _) (AuditBuffer.abandoned_resume _ _ _)
  | fail flush =>
      simp only [AuditBuffer.step, Option.ite_none_right_eq_some] at isStep
      obtain ⟨-, isNext⟩ := isStep
      cases isNext
      exact quiet (stream_resume _ _ _) (AuditBuffer.abandoned_resume _ _ _)
  | stop | cancelSleep =>
      simp only [AuditBuffer.step, Option.ite_none_right_eq_some] at isStep
      obtain ⟨-, isNext⟩ := isStep
      cases isNext
      exact quiet rfl rfl
  | cancelFlush flush =>
      simp only [AuditBuffer.step, Option.ite_none_right_eq_some] at isStep
      obtain ⟨-, isNext⟩ := isStep
      cases isNext
      refine ⟨⟨[], (List.append_nil _).symm⟩, fun none applied => ?_⟩
      have isApplied : flush.applied = true := applied
      simpa [isApplied] using none
  | finalFlush =>
      simp only [AuditBuffer.step, Option.ite_none_right_eq_some] at isStep
      obtain ⟨-, isNext⟩ := isStep
      split at isNext
      case isTrue =>
        cases isNext
        exact quiet (stream_resume _ _ _) (AuditBuffer.abandoned_resume _ _ _)
      case isFalse =>
        cases isNext
        exact quiet (stream_flush _ _) (AuditBuffer.abandoned_flush _ _)

end Buffers

/-! ## Consumers -/

section Consumers

open AuditConsumer

variable {around : Surroundings} {service next : Service} {event : ConsumerEvent}

/-- A step adds no rows, or those of the batch that a consumer holds. -/
theorem auditLogs_step (isStep : AuditConsumer.step around service event = some next)
    (noProduce : ∀ fields, event ≠ .produce fields) :
    next.stream = service.stream ∧
      (next.auditLogs = service.auditLogs ∨ ∃ process records,
        recordsFor around service (service.heldBy process) = .ok records ∧
          next.auditLogs =
            service.auditLogs ++ (service.heldBy process).zip records) := by
  cases event with
  | produce fields => exact absurd rfl (noProduce fields)
  | start process name =>
      simp only [AuditConsumer.step] at isStep
      split at isStep <;> cases isStep
      exact ⟨rfl, .inl rfl⟩
  | read process arrives =>
      simp only [AuditConsumer.step] at isStep
      split at isStep <;> cases isStep
      exact ⟨rfl, .inl rfl⟩
  | write process outcome =>
      simp only [AuditConsumer.step] at isStep
      split at isStep
      case h_2 => cases isStep
      case h_1 name batch runs =>
        cases isStep
        have holds : service.heldBy process = batch := congrArg held runs
        unfold writeBatch
        split
        case h_1 => exact ⟨rfl, .inl rfl⟩
        case h_2 records read =>
          split
          case isTrue => exact ⟨rfl, .inr ⟨process, records, holds ▸ read, holds ▸ rfl⟩⟩
          case isFalse => exact ⟨rfl, .inl rfl⟩
  | acknowledge process outcome =>
      simp only [AuditConsumer.step] at isStep
      split at isStep <;> cases isStep
      exact ⟨rfl, .inl rfl⟩
  | crash process =>
      simp only [AuditConsumer.step] at isStep
      split at isStep <;> cases isStep
      exact ⟨rfl, .inl rfl⟩

/-- Everything that was delivered is in the stream, is written or held, and is
written once at most. -/
structure Covered (service : Service) : Prop where
  accounted : Accounted service
  delivered : service.delivered ≤ service.stream.length
  covered : ∀ position < service.delivered,
    position ∈ service.written ∨ ∃ process, position ∈ service.heldBy process
  once : service.written.Nodup
  heldOnce : ∀ process, (service.heldBy process).Nodup

theorem Covered.step (covered : Covered service)
    (unbroken : Unbroken around service event)
    (noProduce : ∀ fields, event ≠ .produce fields)
    (isStep : AuditConsumer.step around service event = some next) :
    Covered next := by
  have accounted := covered.accounted.step isStep
  have good : AtLeastOnce around service :=
    (atLeastOnce_iff covered.accounted).mpr covered.covered
  have goodNext : AtLeastOnce around next :=
    (atLeastOnce_step covered.accounted good isStep).mpr unbroken
  have stream := (auditLogs_step isStep noProduce).1
  have coveredNext := (atLeastOnce_iff accounted).mp goodNext
  cases step_effect covered.accounted.noEmpty isStep with
  | idle delivered heldBy written _ =>
      refine ⟨accounted, ?_, coveredNext, ?_, ?_⟩
      · rw [delivered, stream]
        exact covered.delivered
      · rw [written]
        exact covered.once
      · rw [heldBy]
        exact covered.heldOnce
  | deliver process free delivered heldBy written _ =>
      refine ⟨accounted, ?_, coveredNext, ?_, fun holder => ?_⟩
      · have room := covered.delivered
        rw [delivered, stream, nextBatch, List.length_range']
        omega
      · rw [written]
        exact covered.once
      · rw [heldBy]
        by_cases same : holder = process
        · rw [same, Function.update_self]
          exact List.nodup_range'
        · rw [Function.update_of_ne same]
          exact covered.heldOnce holder
  | lose _ _ _ _ broken => exact absurd unbroken broken
  | store process delivered heldBy written _ =>
      refine ⟨accounted, ?_, coveredNext, ?_, fun holder => ?_⟩
      · rw [delivered, stream]
        exact covered.delivered
      · rw [written]
        refine covered.once.append (covered.heldOnce process) ?_
        intro position isWritten isHeld
        exact (covered.accounted.held process position isHeld).2 isWritten
      · rw [heldBy]
        by_cases same : holder = process
        · rw [same, Function.update_self]
          exact List.nodup_nil
        · rw [Function.update_of_ne same]
          exact covered.heldOnce holder
  | drop _ _ _ _ _ broken => exact absurd unbroken broken

theorem read_of_mem_zip {α β : Type} {read : α → Except Exn β} {items : List α}
    {values : List β} (ran : items.mapM read = .ok values) {item : α} {value : β}
    (mem : (item, value) ∈ items.zip values) : read item = .ok value := by
  induction items generalizing values with
  | nil =>
      rw [List.zip_nil_left] at mem
      cases mem
  | cons first rest ih =>
      rw [List.mapM_cons] at ran
      cases firstRead : read first with
      | error error =>
          rw [firstRead] at ran
          cases ran
      | ok firstValue =>
          cases restRead : rest.mapM read with
          | error error =>
              rw [firstRead, restRead] at ran
              cases ran
          | ok restValues =>
              rw [firstRead, restRead] at ran
              cases ran
              rcases List.mem_cons.mp mem with isFirst | later
              · cases isFirst
                exact firstRead
              · exact ih restRead later

theorem recordOf_fieldsOf (around : Surroundings) (entry : ReadableEntry) :
    recordOf around.python around.utcNow (fieldsOf entry) =
      .ok (AuditRoundTrip.recordFor entry.1) := by
  obtain ⟨fields, written, read⟩ :=
    AuditRoundTrip.recordOf_written around.python around.utcNow entry.2
  have fieldsEq : fieldsOf entry = fields := by
    rw [fieldsOf, flushFields, written, Option.getD_some]
  rw [fieldsEq, read]

theorem record_of_batch {sent : List (Source × ReadableEntry)}
    (streamEq : service.stream = sent.map fun item => fieldsOf item.2)
    {batch : List Nat} {records : List AuditRecord}
    (read : recordsFor around service batch = .ok records)
    {position : Nat} {record : AuditRecord}
    (mem : (position, record) ∈ batch.zip records) (lt : position < sent.length) :
    ∃ item, sent[position]? = some item ∧
      record = AuditRoundTrip.recordFor item.2.1 := by
  have found : sent[position]? = some sent[position] := List.getElem?_eq_getElem lt
  refine ⟨sent[position], found, ?_⟩
  unfold recordsFor recordsOf at read
  rw [List.mapM_map] at read
  have isRead := read_of_mem_zip read mem
  rw [Function.comp, streamEq, List.getElem?_map, found, Option.map_some,
    Option.getD_some, recordOf_fieldsOf] at isRead
  exact (Except.ok.inj isRead).symm

end Consumers

/-! ## The invariant -/

/-- Nothing was given up, each source has sent what its buffer put into the
stream, and the rows of `audit_logs` are the records of what was sent. -/
structure Intact (state : Pipeline) : Prop where
  accounted : ∀ process,
    AuditBuffer.Accounted (state.repeated process) (state.buffers process)
  kept : ∀ process, (state.buffers process).abandoned = 0
  sentBuffered : ∀ process,
    state.sentBy (.buffer process) = (state.buffers process).stream
  sentAtOnce : state.sentBy .immediate = state.forced
  stream : state.service.stream = state.sent.map fun item => fieldsOf item.2
  covered : Covered state.service
  rows : ∀ row ∈ state.service.auditLogs, ∃ item,
    state.sent[row.1]? = some item ∧ row.2 = AuditRoundTrip.recordFor item.2.1

theorem immediate_ne_buffer (process : Nat) : Source.immediate ≠ .buffer process :=
  nofun

section Sending

variable {state : Pipeline} {source other : Source} {entries : List ReadableEntry}

theorem sentBy_send_self :
    (state.send source entries).sentBy source = state.sentBy source ++ entries := by
  have all : (entries.map fun entry => (source, entry)).filter
      (fun item => decide (item.1 = source)) =
        entries.map fun entry => (source, entry) := by
    rw [List.filter_eq_self]
    intro item mem
    obtain ⟨entry, -, rfl⟩ := List.mem_map.mp mem
    exact decide_eq_true rfl
  unfold Pipeline.sentBy Pipeline.send
  rw [List.filter_append, List.map_append, all, List.map_map]
  exact congrArg _ (List.map_id entries)

theorem sentBy_send_of_ne (differs : other ≠ source) :
    (state.send source entries).sentBy other = state.sentBy other := by
  have none : (entries.map fun entry => (source, entry)).filter
      (fun item => decide (item.1 = other)) = [] := by
    rw [List.filter_eq_nil_iff]
    intro item mem
    obtain ⟨entry, -, rfl⟩ := List.mem_map.mp mem
    exact fun same => differs (of_decide_eq_true same).symm
  unfold Pipeline.sentBy Pipeline.send
  rw [List.filter_append, none, List.append_nil]

/-- A longer stream covers what was delivered from it as well. -/
theorem Covered.extend {service : AuditConsumer.Service} (covered : Covered service)
    (added : List Fields) :
    Covered { service with stream := service.stream ++ added } := by
  obtain ⟨⟨noEmpty, written, held, disjoint⟩, delivered, holds, once, heldOnce⟩ :=
    covered
  refine ⟨⟨noEmpty, written, held, disjoint⟩, ?_, holds, once, heldOnce⟩
  rw [List.length_append]
  exact delivered.trans (Nat.le_add_right _ _)

theorem row_send {row : Nat × AuditRecord}
    (isRow : ∃ item, state.sent[row.1]? = some item ∧
      row.2 = AuditRoundTrip.recordFor item.2.1) :
    ∃ item, (state.send source entries).sent[row.1]? = some item ∧
      row.2 = AuditRoundTrip.recordFor item.2.1 := by
  obtain ⟨item, found, isRecord⟩ := isRow
  exact ⟨item, List.getElem?_append_left (List.getElem?_eq_some_iff.mp found).1 ▸ found,
    isRecord⟩

end Sending

/-- A step of a buffer leaves it accounted for, and what it adds to its stream is
sent. -/
theorem Intact.buffer {bufferSize : Nat} {state next : Pipeline}
    {around : AuditConsumer.Surroundings} {process : Nat}
    {event : AuditBuffer.BufferEvent ReadableEntry} (intact : Intact state)
    (few : AuditBuffer.Few (state.buffers process)) (uncancelled : Uncancelled event)
    (isStep : step bufferSize around state (.buffer process event) = some next) :
    Intact next := by
  simp only [step] at isStep
  obtain ⟨after, isAfter, isNext⟩ := Option.bind_eq_some_iff.mp isStep
  cases isNext
  obtain ⟨⟨added, streamEq⟩, noneAbandoned⟩ := buffer_step isAfter
  have sends : after.stream.drop (state.buffers process).stream.length = added := by
    rw [streamEq, List.drop_left]
  rw [sends]
  have accounted : ∀ any, AuditBuffer.Accounted (state.repeated any)
      (Function.update state.buffers process after any) :=
    (Function.forall_update_iff state.buffers fun any buffer =>
      AuditBuffer.Accounted (state.repeated any) buffer).mpr
        ⟨AuditBuffer.accounted_step (intact.accounted process) few isAfter,
          fun any _ => intact.accounted any⟩
  have kept : ∀ any, (Function.update state.buffers process after any).abandoned = 0 :=
    (Function.forall_update_iff state.buffers fun _ buffer =>
      buffer.abandoned = 0).mpr
        ⟨noneAbandoned (intact.kept process) uncancelled,
          fun any _ => intact.kept any⟩
  refine ⟨accounted, kept, ?_, ?_, ?_, ?_, ?_⟩
  · refine (Function.forall_update_iff state.buffers fun any buffer =>
      Pipeline.sentBy _ (.buffer any) = buffer.stream).mpr ⟨?_, fun any other => ?_⟩
    · rw [sentBy_send_self]
      exact (congrArg (· ++ added) (intact.sentBuffered process)).trans streamEq.symm
    · rw [sentBy_send_of_ne fun isSource => other (Source.buffer.inj isSource)]
      exact intact.sentBuffered any
  · rw [sentBy_send_of_ne (immediate_ne_buffer process)]
    exact intact.sentAtOnce
  · change state.service.stream ++ _ = (state.sent ++ _).map _
    rw [List.map_append, intact.stream, List.map_map]
    rfl
  · exact intact.covered.extend _
  · exact fun row mem => row_send (intact.rows row mem)

/-- A lost reply leaves the stream and what was given up as they are. -/
theorem loseReply_frame {state next : AuditBuffer.LogBuffer ReadableEntry}
    {flush : AuditBuffer.Flush ReadableEntry}
    (isStep : AuditBuffer.loseReply state flush = some next) :
    next.stream = state.stream ∧ next.abandoned = state.abandoned := by
  simp only [AuditBuffer.loseReply, Option.ite_none_right_eq_some] at isStep
  obtain ⟨-, isNext⟩ := isStep
  cases isNext
  exact ⟨stream_resume _ _ _, AuditBuffer.abandoned_resume _ _ _⟩

/-- The entries of the batch are repeated. -/
theorem Intact.loseReply {bufferSize : Nat} {state next : Pipeline}
    {around : AuditConsumer.Surroundings} {process : Nat}
    {flush : AuditBuffer.Flush ReadableEntry} (intact : Intact state)
    (few : AuditBuffer.Few (state.buffers process))
    (short : flush.batch.length ≤ 100)
    (isStep : step bufferSize around state (.loseReply process flush) = some next) :
    Intact next := by
  simp only [step] at isStep
  obtain ⟨after, isAfter, isNext⟩ := Option.bind_eq_some_iff.mp isStep
  cases isNext
  obtain ⟨sameStream, sameAbandoned⟩ := loseReply_frame isAfter
  have kept : ∀ any, (Function.update state.buffers process after any).abandoned = 0 :=
    (Function.forall_update_iff state.buffers fun _ buffer =>
      buffer.abandoned = 0).mpr
        ⟨sameAbandoned.trans (intact.kept process), fun any _ => intact.kept any⟩
  have sent : ∀ any, state.sentBy (.buffer any) =
      (Function.update state.buffers process after any).stream :=
    (Function.forall_update_iff state.buffers fun any buffer =>
      state.sentBy (.buffer any) = buffer.stream).mpr
        ⟨(intact.sentBuffered process).trans sameStream.symm,
          fun any _ => intact.sentBuffered any⟩
  refine ⟨fun any => ?_, kept, sent, intact.sentAtOnce, intact.stream,
    intact.covered, intact.rows⟩
  dsimp only
  by_cases same : any = process
  · subst same
    rw [Function.update_self, Function.update_self, ← Multiset.coe_add]
    exact AuditBuffer.accounted_loseReply (intact.accounted any) few short isAfter
  · rw [Function.update_of_ne same, Function.update_of_ne same]
    exact intact.accounted any

theorem Intact.immediate {state : Pipeline} (intact : Intact state)
    (entry : ReadableEntry) :
    Intact (Pipeline.send { state with forced := state.forced ++ [entry] }
      .immediate [entry]) := by
  refine ⟨intact.accounted, intact.kept, fun process => ?_, ?_, ?_, ?_, ?_⟩
  · rw [sentBy_send_of_ne (immediate_ne_buffer process).symm]
    exact intact.sentBuffered process
  · rw [sentBy_send_self]
    exact congrArg (· ++ [entry]) intact.sentAtOnce
  · change state.service.stream ++ _ = (state.sent ++ _).map _
    rw [List.map_append, intact.stream]
    rfl
  · exact intact.covered.extend _
  · exact fun row mem => row_send (intact.rows row mem)

/-- The rows that a consumer adds are the records of the entries it holds. -/
theorem Intact.consumer {around : AuditConsumer.Surroundings} {state : Pipeline}
    {event : AuditConsumer.ConsumerEvent} {service : AuditConsumer.Service}
    (intact : Intact state)
    (unbroken : AuditConsumer.Unbroken around state.service event)
    (noProduce : ∀ fields, event ≠ .produce fields)
    (isStep : AuditConsumer.step around state.service event = some service) :
    Intact { state with service := service } := by
  obtain ⟨sameStream, added⟩ := auditLogs_step isStep noProduce
  refine ⟨intact.accounted, intact.kept, intact.sentBuffered, intact.sentAtOnce,
    sameStream.trans intact.stream,
    intact.covered.step unbroken noProduce isStep, ?_⟩
  rintro ⟨position, record⟩ mem
  rcases added with same | ⟨process, records, read, rows⟩
  · exact intact.rows _ (same ▸ mem)
  · have isRow : (position, record) ∈ service.auditLogs := mem
    rw [rows] at isRow
    rcases List.mem_append.mp isRow with old | new
    · exact intact.rows _ old
    · have isHeld := (List.of_mem_zip new).1
      have below := (intact.covered.accounted.held process position isHeld).1
      have lt : position < state.sent.length := by
        have room := intact.covered.delivered
        rw [intact.stream, List.length_map] at room
        exact below.trans_le room
      exact record_of_batch intact.stream read new lt

theorem step_consumer {bufferSize : Nat} {around : AuditConsumer.Surroundings}
    {state next : Pipeline} {event : AuditConsumer.ConsumerEvent}
    (isStep : step bufferSize around state (.consumer event) = some next) :
    (∀ fields, event ≠ .produce fields) ∧ ∃ service,
      AuditConsumer.step around state.service event = some service ∧
        next = { state with service := service } := by
  cases event with
  | produce fields => cases isStep
  | start | read | write | acknowledge | crash =>
      refine ⟨(fun _ isProduce => by cases isProduce), ?_⟩
      obtain ⟨service, isService, isNext⟩ := Option.bind_eq_some_iff.mp isStep
      exact ⟨service, isService, (Option.some.inj isNext).symm⟩

theorem Intact.step {bufferSize : Nat} {around : AuditConsumer.Surroundings}
    {state next : Pipeline} {event : PipelineEvent} (intact : Intact state)
    (careful : Careful around state event)
    (isStep : step bufferSize around state event = some next) : Intact next := by
  cases event with
  | buffer process event => exact intact.buffer careful.1 careful.2 isStep
  | loseReply process flush => exact intact.loseReply careful.1 careful.2 isStep
  | immediate entry arrives =>
      have isArrival : arrives = true := careful
      subst isArrival
      cases isStep
      exact intact.immediate entry
  | trim kept =>
      simp only [AuditPipeline.step, Option.ite_none_right_eq_some] at isStep
      obtain ⟨-, isNext⟩ := isStep
      cases isNext
      rw [Nat.max_eq_left careful]
      exact intact
  | consumer event =>
      obtain ⟨noProduce, service, isService, rfl⟩ := step_consumer isStep
      exact intact.consumer careful noProduce isService

theorem intact_empty : Intact {} := by
  refine ⟨fun _ => rfl, fun _ => rfl, fun _ => rfl, rfl, rfl, ?_, nofun⟩
  refine ⟨AuditConsumer.accounted_start [], Nat.le_refl 0, ?_, List.nodup_nil,
    fun _ => List.nodup_nil⟩
  exact fun position below => absurd below (Nat.not_lt_zero position)

/-! ## The result -/

/-- What was published through a source. -/
def Pipeline.publishedBy (state : Pipeline) : Source → List ReadableEntry
  | .buffer process => (state.buffers process).published
  | .immediate => state.forced

/-- What a source put back although Redis had it. -/
def Pipeline.repeatedBy (state : Pipeline) : Source → List ReadableEntry
  | .buffer process => state.repeated process
  | .immediate => []

/-- The records in `audit_logs` of the entries that a source has sent. -/
def Pipeline.storedFrom (state : Pipeline) (source : Source) : List AuditRecord :=
  (state.service.auditLogs.filter fun row =>
    (state.sent[row.1]?).map Prod.fst = some source).map Prod.snd

/-- No buffer holds an entry and no flush runs, and the consumers have read the
whole stream and hold no batch. -/
structure Drained (state : Pipeline) : Prop where
  buffers : ∀ process, (state.buffers process).flushes = 0 ∧
    (state.buffers process).buffer = []
  read : state.service.delivered = state.service.stream.length
  held : ∀ process, state.service.heldBy process = []

/-- The rows that a stream of these entries gives. -/
def rowsOf (sent : List (Source × ReadableEntry)) : List (Nat × AuditRecord) :=
  sent.zipIdx.map fun item => (item.2, AuditRoundTrip.recordFor item.1.2.1)

theorem mem_rowsOf {sent : List (Source × ReadableEntry)} {row : Nat × AuditRecord} :
    row ∈ rowsOf sent ↔ ∃ item, sent[row.1]? = some item ∧
      row.2 = AuditRoundTrip.recordFor item.2.1 := by
  unfold rowsOf
  rw [List.mem_map]
  constructor
  · rintro ⟨⟨item, position⟩, mem, rfl⟩
    exact ⟨item, List.mem_zipIdx_iff_getElem?.mp mem, rfl⟩
  · rintro ⟨item, found, isRecord⟩
    exact ⟨(item, row.1), List.mem_zipIdx_iff_getElem?.mpr found,
      Prod.ext rfl isRecord.symm⟩

/-- Once everything has been read, `audit_logs` has the rows of all entries that
were sent. -/
theorem Intact.perm_rowsOf {state : Pipeline} (intact : Intact state)
    (drained : Drained state) :
    state.service.auditLogs.Perm (rowsOf state.sent) := by
  have onceStored : state.service.auditLogs.Nodup :=
    List.Nodup.of_map _ intact.covered.once
  have onceSent : (rowsOf state.sent).Nodup := by
    refine List.Nodup.of_map Prod.fst ?_
    have positions : (rowsOf state.sent).map Prod.fst =
        List.range' 0 state.sent.length := by
      rw [rowsOf, List.map_map]
      exact List.zipIdx_map_snd 0 state.sent
    rw [positions]
    exact List.nodup_range'
  refine (List.perm_ext_iff_of_nodup onceStored onceSent).mpr fun row => ?_
  rw [mem_rowsOf]
  constructor
  · exact intact.rows row
  · rintro ⟨item, found, isRecord⟩
    have below : row.1 < state.service.delivered := by
      rw [drained.read, intact.stream, List.length_map]
      exact (List.getElem?_eq_some_iff.mp found).1
    rcases intact.covered.covered row.1 below with isWritten | ⟨process, isHeld⟩
    · obtain ⟨stored, mem, samePosition⟩ := List.mem_map.mp isWritten
      obtain ⟨storedItem, storedFound, storedRecord⟩ := intact.rows stored mem
      rw [samePosition, found] at storedFound
      cases storedFound
      have same : stored = row :=
        Prod.ext samePosition (storedRecord.trans isRecord.symm)
      exact same ▸ mem
    · rw [drained.held process] at isHeld
      cases isHeld

theorem filter_rowsOf (sent : List (Source × ReadableEntry)) (source : Source) :
    ((rowsOf sent).filter fun row =>
        (sent[row.1]?).map Prod.fst = some source).map Prod.snd =
      ((sent.filter fun item => item.1 = source).map Prod.snd).map
        fun entry => AuditRoundTrip.recordFor entry.1 := by
  have sameItems : sent.zipIdx.filter (fun item =>
      decide ((sent[item.2]?).map Prod.fst = some source)) =
        sent.zipIdx.filter fun item => decide (item.1.1 = source) := by
    refine List.filter_congr fun item mem => ?_
    have found : sent[item.2]? = some item.1 := List.mem_zipIdx_iff_getElem?.mp mem
    rw [found, Option.map_some]
    exact decide_eq_decide.mpr Option.some_inj
  have items : (sent.zipIdx.filter fun item => decide (item.1.1 = source)).map
      Prod.fst = sent.filter fun item => decide (item.1 = source) := by
    conv_rhs => rw [← List.zipIdx_map_fst 0 sent, List.filter_map]
    rfl
  rw [rowsOf, List.filter_map, List.map_map, ← items, List.map_map, List.map_map]
  exact congrArg (List.map _) sameItems

/-- In a careful run that has been drained, the records of each source are those
of the entries published through it, each once, and again those of the batches
that it put back because the reply of Redis was lost. -/
theorem published_is_stored {bufferSize : Nat} {around : AuditConsumer.Surroundings}
    {events : List PipelineEvent} {final : Pipeline}
    (runs : exec (step bufferSize around) {} events = some final)
    (careful : Along (step bufferSize around) (Careful around) {} events)
    (drained : Drained final) :
    (∀ source, (final.storedFrom source).Perm
      ((final.publishedBy source ++ final.repeatedBy source).map fun entry =>
        AuditRoundTrip.recordFor entry.1)) ∧
      ∀ row ∈ final.service.auditLogs, ∃ source entry,
        final.sent[row.1]? = some (source, entry) ∧
          entry ∈ final.publishedBy source ++ final.repeatedBy source := by
  have keeps (state : Pipeline) (event : PipelineEvent) (next : Pipeline)
      (intact : Intact state) (careful : Careful around state event)
      (isStep : step bufferSize around state event = some next) : Intact next :=
    intact.step careful isStep
  have intact : Intact final := invariant_along keeps intact_empty careful runs
  have sends (source : Source) :
      (final.sentBy source).Perm
        (final.publishedBy source ++ final.repeatedBy source) := by
    cases source with
    | immediate => exact .of_eq (intact.sentAtOnce.trans (List.append_nil _).symm)
    | buffer process =>
        obtain ⟨noFlush, isEmpty⟩ := drained.buffers process
        have accounted := intact.accounted process
        rw [AuditBuffer.Accounted, AuditBuffer.lost_eq_zero.mpr (intact.kept process),
          AuditBuffer.LogBuffer.held, noFlush, isEmpty] at accounted
        rw [intact.sentBuffered process]
        refine Multiset.coe_eq_coe.mp ?_
        rw [Pipeline.publishedBy, Pipeline.repeatedBy, ← Multiset.coe_add, accounted,
          Multiset.map_zero, Multiset.sum_zero, Multiset.coe_nil, add_zero, add_zero,
          add_zero]
  constructor
  · intro source
    have rows := ((intact.perm_rowsOf drained).filter fun row =>
      decide ((final.sent[row.1]?).map Prod.fst = some source)).map Prod.snd
    rw [filter_rowsOf] at rows
    exact rows.trans ((sends source).map _)
  · intro row mem
    obtain ⟨⟨source, entry⟩, found, -⟩ := intact.rows row mem
    refine ⟨source, entry, found, (sends source).subset ?_⟩
    exact List.mem_map.mpr ⟨(source, entry), List.mem_filter.mpr
      ⟨List.mem_of_getElem? found, decide_eq_true rfl⟩, rfl⟩

/-! ## One entry -/

def signedIn : ReadableEntry where
  val := AuditRoundTrip.entryFor none "app.sso" 412
  property := by
    refine ⟨by decide, by decide, ?_, ?_, ?_, nofun⟩
    · rintro _ ⟨⟩
      rw [AuditRoundTrip.strOfInt_of_small (by decide)]
      rfl
    · rw [AuditRoundTrip.strOfInt_of_small (by decide)]
      rfl
    · rw [AuditRoundTrip.strOfInt_of_small (by decide)]
      rfl

def entryFlush (task : AuditBuffer.Task) (applied : Bool) :
    AuditBuffer.Flush ReadableEntry where
  task := task
  batch := [signedIn]
  nonempty := List.cons_ne_nil _ _
  applied := applied

/-- A server process publishes the entry, loses the reply to its flush and stops,
and a consumer reads what it has sent. -/
def published : List PipelineEvent :=
  [.buffer 0 (.publish signedIn), .buffer 0 .tick,
    .buffer 0 (.apply (entryFlush .loop false)),
    .loseReply 0 (entryFlush .loop true), .buffer 0 .stop, .buffer 0 .cancelSleep,
    .buffer 0 .finalFlush, .buffer 0 (.apply (entryFlush .stop false)),
    .buffer 0 (.finish (entryFlush .stop true)),
    .consumer (.start 3 "consumer-17"), .consumer (.read 3 true)]

theorem recordsFor_signedIn {service : AuditConsumer.Service}
    (stream : service.stream = [fieldsOf signedIn, fieldsOf signedIn]) :
    AuditConsumer.recordsFor AuditConsumer.plainSurroundings service [0, 1] =
      .ok [AuditRoundTrip.recordFor signedIn.1,
        AuditRoundTrip.recordFor signedIn.1] := by
  unfold AuditConsumer.recordsFor recordsOf
  rw [stream]
  change List.mapM _ [fieldsOf signedIn, fieldsOf signedIn] = _
  rw [List.mapM_cons, List.mapM_cons, recordOf_fieldsOf]
  rfl

/-- What the consumer finds when it writes the entry. -/
structure AboutToStore (state : Pipeline) : Prop where
  buffers : ∀ process, (state.buffers process).flushes = 0 ∧
    (state.buffers process).buffer = []
  published : (state.buffers 0).published = [signedIn]
  repeated : state.repeated 0 = [signedIn]
  stream : state.service.stream = [fieldsOf signedIn, fieldsOf signedIn]
  delivered : state.service.delivered = 2
  consumers : state.service.consumers =
    Function.update (fun _ => none) 3 (some ⟨"consumer-17", .writing [0, 1]⟩)

theorem published_runs :
    ∃ state,
      exec (step 50 AuditConsumer.plainSurroundings) {} published = some state ∧
        Along (step 50 AuditConsumer.plainSurroundings)
          (Careful AuditConsumer.plainSurroundings) {} published ∧
        AboutToStore state := by
  have careful : Along (step 50 AuditConsumer.plainSurroundings)
      (Careful AuditConsumer.plainSurroundings) {} published := by
    refine along_of_step rfl ⟨by decide, trivial⟩ ?_
    refine along_of_step rfl ⟨by decide, trivial⟩ ?_
    refine along_of_step rfl ⟨by decide, trivial⟩ ?_
    refine along_of_step rfl ⟨by decide, by decide⟩ ?_
    refine along_of_step rfl ⟨by decide, trivial⟩ ?_
    refine along_of_step rfl ⟨by decide, trivial⟩ ?_
    refine along_of_step rfl ⟨by decide, trivial⟩ ?_
    refine along_of_step rfl ⟨by decide, trivial⟩ ?_
    refine along_of_step rfl ⟨by decide, trivial⟩ ?_
    refine along_of_step rfl trivial ?_
    exact along_of_step rfl (.inl rfl) trivial
  refine ⟨_, rfl, careful, ?_, rfl, rfl, rfl, rfl, ?_⟩
  · intro process
    cases process <;> exact ⟨rfl, rfl⟩
  · exact Function.update_idem ..

/-- The consumers after `executemany`. -/
def written (service : AuditConsumer.Service) : AuditConsumer.Service :=
  AuditConsumer.Service.setPhase { service with
    auditLogs := service.auditLogs ++ [(0, AuditRoundTrip.recordFor signedIn.1),
      (1, AuditRoundTrip.recordFor signedIn.1)] } 3
    "consumer-17" (.acknowledging [0, 1])

theorem write_signedIn {state : Pipeline} (about : AboutToStore state) :
    step 50 AuditConsumer.plainSurroundings state (.consumer (.write 3 .done)) =
      some { state with service := written state.service } := by
  have holds : state.service.consumers 3 =
      some ⟨"consumer-17", .writing [0, 1]⟩ := by
    rw [about.consumers, Function.update_self]
  have writes : AuditConsumer.step AuditConsumer.plainSurroundings state.service
      (.write 3 .done) = some (written state.service) := by
    simp only [AuditConsumer.step, AuditConsumer.writeBatch, holds,
      recordsFor_signedIn about.stream]
    rfl
  simp only [step]
  rw [writes]
  rfl

/-- The entry is in `audit_logs`, once more for the lost reply. -/
theorem signedIn_is_stored :
    ∃ final,
      exec (step 50 AuditConsumer.plainSurroundings) {}
        (published ++ [.consumer (.write 3 .done)]) = some final ∧
      (final.storedFrom (.buffer 0)).Perm
        [AuditRoundTrip.recordFor signedIn.1,
          AuditRoundTrip.recordFor signedIn.1] := by
  obtain ⟨state, runs, careful, about⟩ := published_runs
  have held : state.service.heldBy 3 = [0, 1] := by
    rw [AuditConsumer.Service.heldBy, about.consumers, Function.update_self]
    rfl
  have runsAll := exec_append_eq_some runs (exec_singleton (write_signedIn about))
  have carefulAll : Along (step 50 AuditConsumer.plainSurroundings)
      (Careful AuditConsumer.plainSurroundings) {}
      (published ++ [.consumer (.write 3 .done)]) := by
    refine along_append careful fun middle other => ?_
    cases runs.symm.trans other
    have storable : AuditConsumer.Storable AuditConsumer.plainSurroundings
        state.service (state.service.heldBy 3) :=
      ⟨_, held ▸ recordsFor_signedIn about.stream, rfl⟩
    refine ⟨⟨storable, ?_⟩, fun _ _ => trivial⟩
    intro failed
    cases failed
  have drained : Drained { state with service := written state.service } := by
    refine ⟨about.buffers, ?_, fun process => ?_⟩
    · exact about.delivered.trans (congrArg List.length about.stream).symm
    · rw [written, AuditConsumer.heldBy_setPhase]
      by_cases same : process = 3
      · rw [same, Function.update_self]
        rfl
      · rw [Function.update_of_ne same]
        change AuditConsumer.held (state.service.consumers process) = []
        rw [about.consumers, Function.update_of_ne same]
        rfl
  have stored := (published_is_stored runsAll carefulAll drained).1 (.buffer 0)
  have once : Pipeline.publishedBy { state with service := written state.service }
      (.buffer 0) = [signedIn] := about.published
  have again : Pipeline.repeatedBy { state with service := written state.service }
      (.buffer 0) = [signedIn] := about.repeated
  rw [once, again] at stored
  exact ⟨_, runsAll, stored⟩

end AuditPipeline

end HexIam
