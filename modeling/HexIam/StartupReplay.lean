import HexIam.LogPaging
import HexIam.WorkerAgreement
import Mathlib.Data.Prod.Lex

/-!
# The replay of the revocation stream

`_load_existing_revocations` reads the stream in batches by their ids, while
other workers append to it.  Each batch begins behind the last entry of the one
before, so the loop ends and has then read each entry once and in order.  The
model of the workers' agreement reads by position instead; the two read the same
batches.
-/

namespace HexIam

open LogPaging

namespace StartupReplay

/-! ## The loop -/

/-- The id of an entry: milliseconds and a sequence number. -/
abbrev StreamId :=
  Nat ×ₗ Nat

/-- An entry of the stream with its fields. -/
structure StreamEntry where
  id : StreamId
  data : List (String × String)

/-- `data.get("jti")`, if it is true. -/
def StreamEntry.jti (entry : StreamEntry) : Option String :=
  (entry.data.lookup "jti").filter filled

/-- The variables of the loop; `last_id` is an id, or one with a parenthesis in
front. -/
structure Loading (Filter : Type) where
  lastId : Start StreamId
  bloom : Filter
  count : Nat

/-- What a finished loop has read, and the stream at its last `XRANGE`. -/
structure Loaded (Filter : Type) where
  bloom : Filter
  count : Nat
  read : List StreamEntry
  stream : List StreamEntry

section Loop

variable {Filter : Type} (add : Filter → String → Filter)

/-- The body of the inner loop. -/
def readEntry (loading : Loading Filter) (entry : StreamEntry) : Loading Filter :=
  match entry.jti with
  | some jti => {
      lastId := .atLeast entry.id
      bloom := add loading.bloom jti
      count := loading.count + 1 }
  | none => { loading with lastId := .atLeast entry.id }

/-- The inner loop over the entries of a batch. -/
def readBatch (entries : List StreamEntry) (loading : Loading Filter) :
    Loading Filter :=
  let read := entries.foldl (readEntry add) loading
  { read with lastId := read.lastId.exclusive }

/-- The outer loop, with the entries that others append before each `XRANGE`. -/
def loadLoop (batchSize : Nat) :
    Nat → List (List StreamEntry) → List StreamEntry → Loading Filter →
      Option (Loaded Filter)
  | 0, _, _, _ => none
  | fuel + 1, arrivals, stream, loading =>
      let stream := stream ++ arrivals.headD []
      let entries := page StreamEntry.id batchSize loading.lastId stream
      if entries.isEmpty then
        some ⟨loading.bloom, loading.count, [], stream⟩
      else
        (loadLoop batchSize fuel arrivals.tail stream
          (readBatch add entries loading)).map fun loaded =>
            { loaded with read := entries ++ loaded.read }

/-- `_load_existing_revocations`. -/
def loadExistingRevocations (batchSize fuel : Nat)
    (arrivals : List (List StreamEntry)) (stream : List StreamEntry)
    (bloom : Filter) : Option (Loaded Filter) :=
  loadLoop add batchSize fuel arrivals stream ⟨.atLeast ⊥, bloom, 0⟩

end Loop

/-! ## A batch -/

section Batch

variable {Filter : Type} {add : Filter → String → Filter}

/-- The ids of entries that go into the filter. -/
def jtis (entries : List StreamEntry) : List String :=
  entries.filterMap StreamEntry.jti

theorem foldl_readEntry (entries : List StreamEntry) (loading : Loading Filter) :
    (entries.foldl (readEntry add) loading).bloom =
        (jtis entries).foldl add loading.bloom ∧
      (entries.foldl (readEntry add) loading).count =
        loading.count + (jtis entries).length := by
  induction entries generalizing loading with
  | nil => exact ⟨rfl, rfl⟩
  | cons entry rest ih =>
      have later := ih (readEntry add loading entry)
      rw [List.foldl_cons, later.1, later.2]
      unfold readEntry jtis
      cases jtiEq : entry.jti with
      | none => simp [jtiEq]
      | some jti =>
          simp only [List.filterMap_cons, jtiEq, List.foldl_cons,
            List.length_cons, true_and]
          omega

theorem lastId_readBatch (entries : List StreamEntry) (last : StreamEntry)
    (loading : Loading Filter) :
    (readBatch add (entries ++ [last]) loading).lastId = .beyond last.id := by
  unfold readBatch readEntry
  rw [List.foldl_append]
  dsimp only [List.foldl_cons, List.foldl_nil]
  cases last.jti <;> rfl

end Batch

/-! ## The loop ends with everything read -/

section Ends

variable {Filter : Type} {add : Filter → String → Filter} {batchSize fuel : Nat}
variable {arrivals : List (List StreamEntry)} {stream read rest : List StreamEntry}
variable {loading : Loading Filter}

/-- The entries that arrive before the next `XRANGE`, and later. -/
theorem flatten_eq (arrivals : List (List StreamEntry)) :
    arrivals.flatten = arrivals.headD [] ++ arrivals.tail.flatten := by
  cases arrivals <;> rfl

/-- What has arrived when the loop ends, with the first arrival put before. -/
theorem arrived_cons {later : List (List StreamEntry)}
    (isPrefix : later <+: arrivals.tail) :
    ∃ arrived, arrived <+: arrivals ∧
      arrived.flatten = arrivals.headD [] ++ later.flatten := by
  cases arrivals with
  | nil =>
      cases List.prefix_nil.mp isPrefix
      exact ⟨[], List.prefix_rfl, rfl⟩
  | cons first others =>
      exact ⟨first :: later, List.prefix_cons_inj first |>.mpr isPrefix, rfl⟩

/-- What a finished loop leaves, whatever it had read before. -/
structure Finishes (add : Filter → String → Filter)
    (arrivals : List (List StreamEntry)) (stream read : List StreamEntry)
    (loading : Loading Filter) (loaded : Loaded Filter) : Prop where
  complete : read ++ loaded.read = loaded.stream
  arrived : ∃ arrived, arrived <+: arrivals ∧
    loaded.stream = stream ++ arrived.flatten
  bloom : loaded.bloom = (jtis loaded.read).foldl add loading.bloom
  count : loaded.count = loading.count + (jtis loaded.read).length

theorem finishes_empty (nothing : rest ++ arrivals.headD [] = []) :
    Finishes add arrivals (read ++ rest) read loading ⟨loading.bloom, loading.count, [],
      read ++ rest ++ arrivals.headD []⟩ where
  complete := by
    rw [List.append_assoc, nothing]
  arrived := by
    obtain ⟨arrived, isPrefix, flattenEq⟩ :=
      @arrived_cons arrivals [] List.nil_prefix
    refine ⟨arrived, isPrefix, ?_⟩
    rw [flattenEq, List.flatten_nil, List.append_nil]
  bloom := rfl
  count := rfl

theorem Finishes.batch {entries : List StreamEntry} {loaded : Loaded Filter}
    (finishes : Finishes add arrivals.tail (read ++ rest ++ arrivals.headD [])
      (read ++ entries) (readBatch add entries loading) loaded) :
    Finishes add arrivals (read ++ rest) read loading
      { loaded with read := entries ++ loaded.read } where
  complete := by
    rw [← finishes.complete, List.append_assoc]
  arrived := by
    obtain ⟨later, isPrefix, streamEq⟩ := finishes.arrived
    obtain ⟨arrived, isWholePrefix, flattenEq⟩ := arrived_cons isPrefix
    refine ⟨arrived, isWholePrefix, ?_⟩
    rw [flattenEq, ← List.append_assoc]
    exact streamEq
  bloom := by
    have batch := (@foldl_readEntry Filter add entries loading).1
    have afterBatch : (readBatch add entries loading).bloom = _ := batch
    rw [finishes.bloom, afterBatch, jtis, jtis, jtis, List.filterMap_append,
      List.foldl_append]
  count := by
    have batch := (@foldl_readEntry Filter add entries loading).2
    have afterBatch : (readBatch add entries loading).count = _ := batch
    rw [finishes.count, afterBatch, jtis, jtis, jtis, List.filterMap_append,
      List.length_append, Nat.add_assoc]

/-- The loop ends with enough fuel: each batch that is not empty reads one of
the entries that are there or still arrive. -/
theorem loadLoop_finishes (positive : 0 < batchSize)
    (increasing : Increasing StreamEntry.id (read ++ rest ++ arrivals.flatten))
    (behind : Behind StreamEntry.id loading.lastId read)
    (enough : (rest ++ arrivals.flatten).length < fuel) :
    ∃ loaded, loadLoop add batchSize fuel arrivals (read ++ rest) loading =
        some loaded ∧
      Finishes add arrivals (read ++ rest) read loading loaded := by
  induction fuel generalizing arrivals read rest loading with
  | zero => exact absurd enough (Nat.not_lt_zero _)
  | succ fuel ih =>
      rw [flatten_eq arrivals, ← List.append_assoc] at increasing enough
      rw [List.append_assoc read] at increasing
      have finished := @finishes_empty Filter add arrivals read rest loading
      have continued := @Finishes.batch Filter add arrivals read rest loading
      rw [List.append_assoc read] at finished continued
      unfold loadLoop
      dsimp only
      rw [List.append_assoc read]
      generalize rest ++ arrivals.headD [] = pending at *
      have present : Increasing StreamEntry.id (read ++ pending) :=
        (List.pairwise_append.mp increasing).1
      rw [page_eq present behind]
      by_cases nothing : pending.take batchSize = []
      case pos =>
        have empty : pending = [] :=
          (List.take_eq_nil_iff.mp nothing).resolve_left (Nat.ne_of_gt positive)
        rw [nothing]
        exact ⟨_, rfl, finished empty⟩
      case neg =>
        -- The batch is read, and the rest is shorter.
        have streamEq : read ++ pending =
            read ++ pending.take batchSize ++ pending.drop batchSize := by
          rw [List.append_assoc, List.take_append_drop]
        have lastEq := List.dropLast_concat_getLast nothing
        have behindBatch : Behind StreamEntry.id
            (readBatch add (pending.take batchSize) loading).lastId
            (read ++ pending.take batchSize) := by
          rw [← lastEq, lastId_readBatch, ← List.append_assoc]
          refine behind_concat ?_
          rw [List.append_assoc, lastEq]
          rw [streamEq] at present
          exact (List.pairwise_append.mp present).1
        have shorter : (pending.drop batchSize ++ arrivals.tail.flatten).length <
            fuel := by
          have some_read : 0 < pending.length := by
            refine List.length_pos_of_ne_nil fun empty => nothing ?_
            rw [empty, List.take_nil]
          rw [List.length_append] at enough ⊢
          rw [List.length_drop]
          omega
        obtain ⟨loaded, ran, finishes⟩ := ih (streamEq ▸ increasing) behindBatch
          shorter
        rw [← streamEq] at ran finishes
        rw [if_neg (by simpa using nothing), ran]
        exact ⟨_, rfl, continued finishes⟩

end Ends

theorem loadLoop_succ {Filter : Type} {add : Filter → String → Filter}
    {batchSize fuel : Nat} {arrivals : List (List StreamEntry)}
    {stream : List StreamEntry} {loading : Loading Filter} {loaded : Loaded Filter}
    (ran : loadLoop add batchSize fuel arrivals stream loading = some loaded) :
    loadLoop add batchSize (fuel + 1) arrivals stream loading = some loaded := by
  induction fuel generalizing arrivals stream loading loaded with
  | zero => cases ran
  | succ fuel ih =>
      rw [loadLoop] at ran ⊢
      split at ran
      case isTrue nothing =>
        rw [if_pos nothing]
        exact ran
      case isFalse something =>
        rw [if_neg something]
        obtain ⟨later, laterRan, rfl⟩ := Option.map_eq_some_iff.mp ran
        rw [ih laterRan]
        rfl

/-- The replay ends; it has read the stream of its last `XRANGE` once and in
order, and the filter has the ids in it besides what it had. -/
def ReplaysAll {Filter : Type} (add : Filter → String → Filter) (batchSize : Nat)
    (arrivals : List (List StreamEntry)) (stream : List StreamEntry)
    (bloom : Filter) : Prop :=
  ∃ loaded, (∀ fuel, (stream ++ arrivals.flatten).length < fuel →
      loadExistingRevocations add batchSize fuel arrivals stream bloom =
        some loaded) ∧
    (∃ arrived, arrived <+: arrivals ∧
      loaded.stream = stream ++ arrived.flatten) ∧
    loaded.read = loaded.stream ∧
    loaded.bloom = (jtis loaded.stream).foldl add bloom ∧
    loaded.count = (jtis loaded.stream).length

/-- Every stream is replayed, whatever arrives meanwhile. -/
theorem replaysAll {Filter : Type} (add : Filter → String → Filter)
    (batchSize : Nat) (arrivals : List (List StreamEntry))
    (stream : List StreamEntry) (bloom : Filter) (positive : 0 < batchSize)
    (increasing : Increasing StreamEntry.id (stream ++ arrivals.flatten)) :
    ReplaysAll add batchSize arrivals stream bloom := by
  obtain ⟨loaded, ran, finishes⟩ := @loadLoop_finishes Filter add batchSize
    ((stream ++ arrivals.flatten).length + 1) arrivals [] stream
    ⟨.atLeast ⊥, bloom, 0⟩ positive increasing behind_nil (Nat.lt_succ_self _)
  have complete : loaded.read = loaded.stream := finishes.complete
  refine ⟨loaded, fun fuel enough => ?_, finishes.arrived, complete, ?_, ?_⟩
  · induction fuel, enough using Nat.le_induction with
    | base => exact ran
    | succ fuel _ ih => exact loadLoop_succ ih
  · rw [finishes.bloom, complete]
  · rw [finishes.count, complete, Nat.zero_add]

/-- Three entries, one without an id and one with an empty one. -/
def written : List StreamEntry :=
  [⟨toLex (5, 0), [("jti", "a")]⟩, ⟨toLex (5, 1), [("reason", "logout")]⟩,
    ⟨toLex (7, 0), [("jti", "")]⟩]

/-- Another worker appends an entry before the second batch. -/
theorem written_replays :
    ReplaysAll (fun bloom jti => jti :: bloom) 2
      [[], [⟨toLex (9, 0), [("jti", "b")]⟩]] written ["old"] :=
  replaysAll _ 2 _ written ["old"] (by decide)
    (by simp [Increasing, written, Prod.Lex.lt_iff])

/-! ## Batches by position -/

/-- The ids of a batch are those the model of the workers reads at its
position. -/
theorem map_page_eq_batch {world : World} {read rest : List StreamEntry}
    {lastId : Start StreamId}
    (streamEq : world.revokedJtis = (read ++ rest).map fun entry =>
      (entry.data.lookup "jti").getD "")
    (increasing : Increasing StreamEntry.id (read ++ rest))
    (behind : Behind StreamEntry.id lastId read) :
    ((page StreamEntry.id WorkerSync.batchSize lastId (read ++ rest)).map
        fun entry => (entry.data.lookup "jti").getD "") =
      WorkerSync.batch world read.length := by
  rw [page_eq_drop increasing behind, WorkerSync.batch, streamEq, List.map_take,
    List.map_drop]

end StartupReplay

end HexIam
