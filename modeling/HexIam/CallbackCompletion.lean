import HexIam.CallPool
import HexIam.UpstreamNonce

/-!
# Completion of federation transactions

`federation_callback` reads its transaction as unconsumed, asks the provider
and resolves a user, and only then marks the transaction as consumed, whatever
it has become in the meantime.  In the interleavings where no callback marks a
transaction that is consumed already, at most one callback of a transaction
ends with a session.
-/

namespace HexIam

open StatementTree CallPool GuardedRun

namespace CallbackCompletion

/-! ## Runs -/

/-- A `federation_callback` request with what it reads from clocks and
`secrets`. -/
structure CallbackCall where
  readings : Readings
  request : CallbackRequest

/-- Callbacks over one database.  A statement or an upstream request may fail,
and other requests may change everything but the transactions. -/
def system (deployment : Deployment) :
    System Empty CallbackCall Stmt Stmt.Resp Exn FlowResponse World World where
  site _ := none
  program call := federationCallback deployment call.readings call.request
  perform := perform deployment
  mayFail _ _ := true
  crash site _ := site.elim
  change others world := some { others with transactions := world.transactions }

abbrev CallbackPool := Pool CallbackCall Stmt Stmt.Resp Exn FlowResponse World
abbrev CallbackEvent := Event Empty CallbackCall Exn World
abbrev Log := List (LogEntry Stmt Stmt.Resp Exn)

/-! ## The property -/

/-- The request carries the upstream state of the transaction to the callback
of its provider. -/
def Carries (request : CallbackRequest) (txn : TransactionRow) : Prop :=
  request.providerId = txn.providerId ∧ request.state = some txn.upstreamState

/-- The answer sets the session cookie. -/
def SetsCookie (result : Except Exn FlowResponse) : Prop :=
  ∃ clientName email scopes params session,
    result = .ok (.consentPage clientName email scopes params (some session))

/-- At most one callback of the transaction has ended with a session. -/
def CompletedOnce (txn : TransactionRow) (pool : CallbackPool) : Prop :=
  ∀ id other first second result result', pool.Holds id first →
    pool.Holds other second → Carries first.request.request txn →
    Carries second.request.request txn → first.rest = .done result →
    second.rest = .done result' → SetsCookie result → SetsCookie result' →
    id = other

/-! ## The condition -/

/-- A callback that marks the transaction as consumed finds it unconsumed. -/
def FirstToConsume (txn : TransactionRow) (pool : CallbackPool) :
    CallbackEvent → Prop
  | .advance id => ∀ call, pool.Holds id call →
      call.Next (.transaction (.consume txn.id)) →
      ∀ row, pool.world.transactions.lookup txn.id = some row →
        row.consumedAt = none
  | _ => True

/-! ## What a callback does with transactions -/

section Programs

variable {deployment : Deployment}

/-- The callback has read the row of its transaction. -/
def HasRead (call : CallbackCall) (log : Log) (row : TransactionRow) : Prop :=
  (⟨.transaction (.byState call.request.providerId
    (call.request.state.getD "")), .ok (some row)⟩ :
      LogEntry Stmt Stmt.Resp Exn) ∈ log

/-- The callback has marked the transaction with this id as consumed. -/
def HasConsumed (log : Log) (id : String) : Prop :=
  (⟨.transaction (.consume id), .ok ()⟩ : LogEntry Stmt Stmt.Resp Exn) ∈ log

/-- A callback consumes the transaction it has read, and creates none. -/
def guarded (call : CallbackCall) (log : Log) : Stmt → Prop
  | .transaction (.insert _) => False
  | .transaction (.consume id) => ∃ row, HasRead call log row ∧ row.id = id
  | _ => True

theorem guarded_of_other {call : CallbackCall} (log : Log) (stmt : Stmt)
    (other : stmt.table ≠ .transactions) : guarded call log stmt := by
  cases stmt with
  | transaction stmt => exact absurd rfl other
  | _ => trivial

/-- A callback that sets the cookie has consumed the transaction it has read. -/
def completes (call : CallbackCall) (log : Log)
    (result : Except Exn FlowResponse) : Prop :=
  SetsCookie result → ∃ row, HasRead call log row ∧ HasConsumed log row.id

theorem not_setsCookie_error {error : Exn} : ¬ SetsCookie (.error error) := by
  rintro ⟨_, _, _, _, _, ⟨⟩⟩

theorem not_setsCookie_failure {html : Bool} {title message code : String} :
    ¬ SetsCookie (.ok (.failure html title message code)) := by
  rintro ⟨_, _, _, _, _, ⟨⟩⟩

theorem federationCallback_obeys (call : CallbackCall) :
    Obeys (guarded call) (Answers (system deployment)) (completes call)
      ((system deployment).program call) [] := by
  have fails {log : Log} {error : Exn} : completes call log (.error error) :=
    fun sets => absurd sets not_setsCookie_error
  have refuses {log : Log} {html : Bool} {title message code : String} :
      completes call log (.ok (.failure html title message code)) :=
    fun sets => absurd sets not_setsCookie_failure
  change Obeys _ _ _ (federationCallback deployment call.readings call.request) []
  unfold federationCallback getFederationAuthTransactionByState
    getIdentityProvider consumeFederationAuthTransaction
  split
  · exact refuses
  split
  · exact refuses
  refine obeys_ask_bind trivial (fun found _ => ?_) fun _ _ => fails
  cases found with
  | none => exact refuses
  | some txn =>
      refine obeys_ask_bind trivial (fun provider _ => ?_) fun _ _ => fails
      dsimp only
      split
      · exact refuses
      refine (obeys_of_uses [.users, .identities, .upstream]
        (Within.tryCatch ?_ fun _ => within_done) (by decide)
        guarded_of_other).bind ?_ fun _ _ _ => fails
      · exact (uses_exchangeCodeForProviderTokens (by decide)).bind fun _ =>
          (uses_resolveOrProvisionFromProviderTokens (by decide) (by decide)
            (by decide)).bind fun _ => within_done
      rintro - resolved ⟨added, rfl, -⟩
      cases resolved with
      | none => exact refuses
      | some user =>
          refine obeys_ask_bind ⟨txn, by simp [HasRead], rfl⟩ (fun _ _ => ?_)
            fun _ _ => fails
          refine (obeys_of_uses [.clients] (uses_validateClient (by decide))
            (by decide) guarded_of_other).bind ?_ fun _ _ _ => fails
          rintro - client ⟨checks, rfl, -⟩
          cases client with
          | none => exact refuses
          | some client =>
              refine obeys_ofExcept_bind (fun session _ => ?_) fun _ _ => fails
              intro _
              refine ⟨txn, ?_, ?_⟩
              · simp [HasRead]
              · simp [HasConsumed]

end Programs

/-! ## The invariant -/

section Invariant

variable {deployment : Deployment} {txn : TransactionRow}
variable {pool next : CallbackPool}

/-- The table holds the transaction, and no other with its upstream state. -/
structure Stored (txn : TransactionRow) (world : World) : Prop where
  present : ∃ row, world.transactions.lookup txn.id = some row
  only : ∀ row ∈ world.transactions, row.providerId = txn.providerId →
    row.upstreamState = txn.upstreamState → row.id = txn.id

/-- The transaction is consumed. -/
def Consumed (txn : TransactionRow) (world : World) : Prop :=
  ∃ row, world.transactions.lookup txn.id = some row ∧ row.consumedAt ≠ none

/-- A callback that carries the upstream state has only read this
transaction. -/
def ReadsOnly (txn : TransactionRow) (pool : CallbackPool) : Prop :=
  ∀ id call row, pool.Holds id call → Carries call.request.request txn →
    HasRead call.request call.log row → row.id = txn.id

/-- What holds in every state of a run that meets the condition. -/
structure Safe (deployment : Deployment) (txn : TransactionRow)
    (pool : CallbackPool) : Prop where
  follows : Follows (system deployment) guarded completes pool
  stored : Stored txn pool.world
  readsOnly : ReadsOnly txn pool
  consumed : ∀ id call, pool.Holds id call → HasConsumed call.log txn.id →
    Consumed txn pool.world
  once : ∀ id other first second, pool.Holds id first →
    pool.Holds other second → HasConsumed first.log txn.id →
    HasConsumed second.log txn.id → id = other

theorem safe_init {world : World} (stored : Stored txn world) :
    Safe deployment txn (.init world) where
  follows := follows_init
  stored := stored
  readsOnly _ _ _ holds := absurd holds Pool.not_holds_init
  consumed _ _ holds := absurd holds Pool.not_holds_init
  once _ _ _ _ holds := absurd holds Pool.not_holds_init

/-- An answer keeps the invariant if what it reads is this transaction and what
it consumes was not consumed before. -/
theorem Safe.answered {id : Nat} {world : World} {stmt : Stmt}
    {rest : Except Exn stmt.Resp → App FlowResponse}
    {answer : Except Exn stmt.Resp}
    {call : Call CallbackCall Stmt Stmt.Resp Exn FlowResponse}
    (safe : Safe deployment txn pool) (holds : pool.Holds id call)
    (nextEq : next = ({ pool with world := world }).setCall id
      (call.answered stmt rest answer))
    (follows : Follows (system deployment) guarded completes next)
    (stored : Stored txn world)
    (keeps : Consumed txn pool.world → Consumed txn world)
    (reads : ∀ row, Carries call.request.request txn →
      HasRead call.request [⟨stmt, answer⟩] row → row.id = txn.id)
    (consumes : HasConsumed [⟨stmt, answer⟩] txn.id →
      Consumed txn world ∧ ¬ Consumed txn pool.world) :
    Safe deployment txn next := by
  subst nextEq
  have consumedBefore (other : Nat)
      (found : Call CallbackCall Stmt Stmt.Resp Exn FlowResponse)
      (foundHolds : (({ pool with world := world }).setCall id
        (call.answered stmt rest answer)).Holds other found)
      (hasConsumed : HasConsumed found.log txn.id) :
      (∃ old, pool.Holds other old ∧ HasConsumed old.log txn.id) ∨
        (other = id ∧ HasConsumed [⟨stmt, answer⟩] txn.id) := by
    rcases Pool.holds_setCall.mp foundHolds with ⟨rfl, rfl⟩ | ⟨-, oldHolds⟩
    · rcases List.mem_cons.mp hasConsumed with here | earlier
      · exact .inr ⟨rfl, List.mem_singleton.mpr here⟩
      · exact .inl ⟨call, holds, earlier⟩
    · exact .inl ⟨found, oldHolds, hasConsumed⟩
  refine ⟨follows, stored, ?_, ?_, ?_⟩
  · intro other found row foundHolds carries hasRead
    rcases Pool.holds_setCall.mp foundHolds with ⟨rfl, rfl⟩ | ⟨-, oldHolds⟩
    · rcases List.mem_cons.mp hasRead with here | earlier
      · exact reads row carries (List.mem_singleton.mpr here)
      · exact safe.readsOnly other call row holds carries earlier
    · exact safe.readsOnly other found row oldHolds carries hasRead
  · intro other found foundHolds hasConsumed
    rcases consumedBefore other found foundHolds hasConsumed with
      ⟨old, oldHolds, earlier⟩ | ⟨-, here⟩
    · exact keeps (safe.consumed other old oldHolds earlier)
    · exact (consumes here).1
  · intro first second firstCall secondCall holdsFirst holdsSecond
      consumedFirst consumedSecond
    -- whoever has consumed the transaction before has left it consumed
    rcases consumedBefore first firstCall holdsFirst consumedFirst with
      ⟨old, oldHolds, earlier⟩ | ⟨rfl, here⟩ <;>
    rcases consumedBefore second secondCall holdsSecond consumedSecond with
      ⟨old', oldHolds', earlier'⟩ | ⟨rfl, here'⟩
    · exact safe.once first second old old' oldHolds oldHolds' earlier earlier'
    · exact absurd (safe.consumed first old oldHolds earlier) (consumes here').2
    · exact absurd (safe.consumed second old' oldHolds' earlier')
        (consumes here).2
    · rfl

theorem stored_of_eq {before after : World}
    (same : after.transactions = before.transactions)
    (stored : Stored txn before) : Stored txn after :=
  ⟨same ▸ stored.present, same ▸ stored.only⟩

theorem consumed_of_eq {before after : World}
    (same : after.transactions = before.transactions)
    (consumed : Consumed txn before) : Consumed txn after := by
  obtain ⟨row, found, isConsumed⟩ := consumed
  exact ⟨row, same ▸ found, isConsumed⟩

theorem lookup_consume (deployment : Deployment) (world : World)
    (id key : String) :
    (perform deployment (.transaction (.consume id))
        world).2.transactions.lookup key =
      (world.transactions.lookup key).map fun row =>
        if row.id = id then row.consume world.now else row := by
  have updated := @KeyedTable.lookup_update _ _ _ world.transactions _
    (fun row => row.id = id) _ (TransactionRow.consume_id world.now) key
  simp only [decide_eq_true_eq] at updated
  exact updated

theorem stored_consume (deployment : Deployment) {world : World} {id : String}
    (stored : Stored txn world) :
    Stored txn (perform deployment (.transaction (.consume id)) world).2 where
  present := by
    obtain ⟨row, found⟩ := stored.present
    refine ⟨if row.id = id then row.consume world.now else row, ?_⟩
    rw [lookup_consume, found, Option.map_some]
  only := by
    intro row rowMem providerEq stateEq
    obtain ⟨held, heldMem, rowEq⟩ :=
      (KeyedTable.mem_update (TransactionRow.consume_id world.now)).mp rowMem
    have same : row.id = held.id ∧ row.providerId = held.providerId ∧
        row.upstreamState = held.upstreamState := by
      subst rowEq
      split <;> exact ⟨rfl, rfl, rfl⟩
    exact same.1.trans (stored.only held heldMem
      (same.2.1.symm.trans providerEq) (same.2.2.symm.trans stateEq))

theorem consumed_consume (deployment : Deployment) {world : World} {id : String}
    (stored : Stored txn world) (either : id = txn.id ∨ Consumed txn world) :
    Consumed txn (perform deployment (.transaction (.consume id)) world).2 := by
  obtain ⟨row, found⟩ := stored.present
  refine ⟨if row.id = id then row.consume world.now else row, ?_, ?_⟩
  · rw [lookup_consume, found, Option.map_some]
  · split
    case isTrue => exact Option.some_ne_none _
    case isFalse other =>
      rcases either with rfl | ⟨held, heldFound, isConsumed⟩
      · exact absurd (KeyedTable.lookup_eq_some.mp found).2 other
      · cases found.symm.trans heldFound
        exact isConsumed

theorem safe_advance {id : Nat} (safe : Safe deployment txn pool)
    (first : FirstToConsume txn pool (.advance id))
    (stepEq : step (system deployment) pool (.advance id) = some next) :
    Safe deployment txn next := by
  have follows := follows_step federationCallback_obeys _ safe.follows stepEq
  obtain ⟨call, stmt, rest, holds, alive, restEq, nextEq⟩ :=
    step_advance.mp stepEq
  have allowed : guarded call.request call.log stmt :=
    safe.follows.allowed holds restEq
  by_cases other : stmt.table = .transactions
  case neg =>
    have same : (perform deployment stmt pool.world).2.transactions =
        pool.world.transactions := transactions_perform deployment other
    refine safe.answered holds nextEq follows (stored_of_eq same safe.stored)
      (consumed_of_eq same) ?_ ?_
    · intro row _ hasRead
      have entryEq := List.mem_singleton.mp hasRead
      exact absurd (congrArg (fun entry => entry.1.table) entryEq).symm other
    · intro hasConsumed
      have entryEq := List.mem_singleton.mp hasConsumed
      exact absurd (congrArg (fun entry => entry.1.table) entryEq).symm other
  case pos =>
    cases stmt with
    | transaction stmt =>
        cases stmt with
        | insert row => exact allowed.elim
        | byId asked =>
            refine safe.answered holds nextEq follows safe.stored (fun same => same)
              ?_ ?_
            · exact fun row _ hasRead => nomatch List.mem_singleton.mp hasRead
            · exact fun hasConsumed => nomatch List.mem_singleton.mp hasConsumed
        | byState providerId upstreamState =>
            refine safe.answered holds nextEq follows safe.stored (fun same => same)
              ?_ ?_
            · intro row carries hasRead
              generalize answerEq : ((system deployment).perform (.transaction
                (.byState providerId upstreamState)) pool.world).1 = answer
                at hasRead
              cases List.mem_singleton.mp hasRead
              obtain ⟨rowMem, selected⟩ := KeyedTable.mem_select.mp
                (List.mem_of_mem_head? (Except.ok.inj answerEq))
              simp only [carries.1, carries.2, Option.getD_some,
                Bool.and_eq_true, decide_eq_true_eq] at selected
              obtain ⟨⟨⟨providerEq, stateEq⟩, -⟩, -⟩ := selected
              exact safe.stored.only row rowMem providerEq stateEq
            · exact fun hasConsumed => nomatch List.mem_singleton.mp hasConsumed
        | consume consumed =>
            refine safe.answered holds nextEq follows
              (stored_consume deployment safe.stored)
              (fun before => consumed_consume deployment safe.stored (.inr before))
              ?_ ?_
            · exact fun row _ hasRead => nomatch List.mem_singleton.mp hasRead
            · intro hasConsumed
              cases List.mem_singleton.mp hasConsumed
              refine ⟨consumed_consume deployment safe.stored (.inl rfl), ?_⟩
              rintro ⟨row, found, isConsumed⟩
              exact isConsumed (first call holds ⟨alive, rest, restEq⟩ row found)
    | _ => cases other

theorem safe_step {event : CallbackEvent} (safe : Safe deployment txn pool)
    (first : FirstToConsume txn pool event)
    (stepEq : step (system deployment) pool event = some next) :
    Safe deployment txn next := by
  have follows := follows_step federationCallback_obeys event safe.follows stepEq
  cases event with
  | advance id => exact safe_advance safe first stepEq
  | start id request =>
      obtain ⟨-, rfl⟩ := step_start.mp stepEq
      refine ⟨follows, safe.stored, ?_, ?_, ?_⟩
      · intro other call row holds carries hasRead
        rcases Pool.holds_setCall.mp holds with ⟨-, rfl⟩ | ⟨-, holds⟩
        · cases hasRead
        · exact safe.readsOnly other call row holds carries hasRead
      · intro other call holds hasConsumed
        rcases Pool.holds_setCall.mp holds with ⟨-, rfl⟩ | ⟨-, holds⟩
        · cases hasConsumed
        · exact safe.consumed other call holds hasConsumed
      · intro other another call call' holds holds' hasConsumed hasConsumed'
        rcases Pool.holds_setCall.mp holds with ⟨-, rfl⟩ | ⟨-, holds⟩
        · cases hasConsumed
        rcases Pool.holds_setCall.mp holds' with ⟨-, rfl⟩ | ⟨-, holds'⟩
        · cases hasConsumed'
        exact safe.once other another call call' holds holds' hasConsumed
          hasConsumed'
  | fail id error =>
      obtain ⟨call, stmt, rest, holds, -, restEq, -, nextEq⟩ :=
        step_fail.mp stepEq
      refine safe.answered holds nextEq follows safe.stored (fun same => same)
        ?_ ?_
      · intro row _ hasRead
        cases List.mem_singleton.mp hasRead
      · intro hasConsumed
        cases List.mem_singleton.mp hasConsumed
  | crash site => exact site.elim
  | change others =>
      obtain ⟨world, changed, rfl⟩ := step_change.mp stepEq
      cases Option.some.inj changed
      exact ⟨follows, ⟨safe.stored.present, safe.stored.only⟩, safe.readsOnly,
        safe.consumed, safe.once⟩

theorem Safe.hasConsumed (safe : Safe deployment txn pool) {id : Nat}
    {call : Call CallbackCall Stmt Stmt.Resp Exn FlowResponse}
    {result : Except Exn FlowResponse} (holds : pool.Holds id call)
    (carries : Carries call.request.request txn)
    (ended : call.rest = .done result) (sets : SetsCookie result) :
    HasConsumed call.log txn.id := by
  obtain ⟨row, hasRead, hasConsumed⟩ := safe.follows.ended holds ended sets
  rwa [safe.readsOnly id call row holds carries hasRead] at hasConsumed

theorem Safe.completedOnce (safe : Safe deployment txn pool) :
    CompletedOnce txn pool := by
  intro id other first second result result' holdsFirst holdsSecond carriesFirst
    carriesSecond endedFirst endedSecond setsFirst setsSecond
  exact safe.once id other first second holdsFirst holdsSecond
    (safe.hasConsumed holdsFirst carriesFirst endedFirst setsFirst)
    (safe.hasConsumed holdsSecond carriesSecond endedSecond setsSecond)

end Invariant

/-! ## The result -/

/-- In the interleavings where no callback marks a transaction that is consumed
already, at most one callback of the transaction ends with a session. -/
theorem completedOnce_of_firstToConsume (deployment : Deployment)
    (world : World) (txn : TransactionRow) (txnMem : txn ∈ world.transactions)
    (distinct : ∀ row ∈ world.transactions, row.providerId = txn.providerId →
      row.upstreamState = txn.upstreamState → row.id = txn.id)
    (events : List CallbackEvent)
    (first : Along (step (system deployment)) (FirstToConsume txn) (.init world)
      events) :
    Always (step (system deployment)) (CompletedOnce txn) (.init world)
      events := by
  have stored : Stored txn world :=
    ⟨⟨txn, KeyedTable.lookup_eq_some.mpr ⟨txnMem, rfl⟩⟩, distinct⟩
  have safe : Always (step (system deployment)) (Safe deployment txn)
      (.init world) events :=
    always_of_along (fun _ _ _ safe first stepEq => safe_step safe first stepEq)
      (safe_init stored) first
  exact always_mono (fun _ => Safe.completedOnce) safe

/-! ## Two callbacks of one transaction -/

/-- A login at the provider, started by a browser. -/
def login : TransactionRow where
  id := "txn"
  tenantId := "t"
  providerId := "p"
  clientId := "c"
  redirectUri := "https://app/cb"
  scope := "openid"
  state := none
  nonce := none
  codeChallenge := none
  codeChallengeMethod := none
  upstreamState := "s1"
  upstreamNonce := some "n1"
  expiresAt := 600
  consumedAt := none

/-- The login, and a user that the provider's subject is linked to. -/
def loginStarted : World :=
  { UpstreamNonce.oneProvider with
    users := .single ⟨"u", "t", "u@t", "password", "U", "T", none, true, true, 0⟩
    identities := .single ⟨"link", "t", "p", "u", "s", some "u@t"⟩
    transactions := .single login }

/-- The callback of the login. -/
def callback : CallbackCall where
  readings := UpstreamNonce.readingsOf "v" "password" "other"
  request := { providerId := "p", code := some "code", state := some "s1" }

/-- The callback, and once more after it. -/
def inTurn : List CallbackEvent :=
  [.start 0 callback, .advance 0, .advance 0, .advance 0, .advance 0,
    .advance 0, .advance 0, .start 1 callback, .advance 1]

/-- Two callbacks that both read the login before either consumes it. -/
def overlapping : List CallbackEvent :=
  [.start 0 callback, .start 1 callback, .advance 0, .advance 1, .advance 0,
    .advance 0, .advance 0, .advance 0, .advance 0, .advance 1, .advance 1,
    .advance 1, .advance 1, .advance 1]

theorem firstToConsume_of_next {txn : TransactionRow} {pool : CallbackPool}
    {id : Nat} {call : Call CallbackCall Stmt Stmt.Resp Exn FlowResponse}
    {stmt : Stmt} {rest : Except Exn stmt.Resp → App FlowResponse}
    (holds : pool.Holds id call) (restEq : call.rest = .perform stmt rest)
    (finds : stmt = .transaction (.consume txn.id) →
      ∀ row, pool.world.transactions.lookup txn.id = some row →
        row.consumedAt = none) : FirstToConsume txn pool (.advance id) := by
  intro found foundHolds isNext
  exact finds (holds.next_unique restEq foundHolds isNext).2.symm

/-- The second callback in turn finds no transaction. -/
theorem callbacks_in_turn_complete_once :
    Always (step (system (UpstreamNonce.answering "n1"))) (CompletedOnce login)
      (.init loginStarted) inTurn := by
  refine completedOnce_of_firstToConsume (UpstreamNonce.answering "n1")
    loginStarted login (List.mem_singleton.mpr rfl) ?_ inTurn ?_
  · intro row rowMem _ _
    rw [List.mem_singleton.mp rowMem]
  refine along_of_step rfl trivial (along_of_step rfl ?_ (along_of_step rfl ?_
    (along_of_step rfl ?_ (along_of_step rfl ?_ (along_of_step rfl ?_
      (along_of_step rfl ?_ (along_of_step rfl trivial
        (along_of_step rfl ?_ (along_nil _)))))))))
  · exact firstToConsume_of_next rfl rfl nofun
  · exact firstToConsume_of_next rfl rfl nofun
  · exact firstToConsume_of_next rfl rfl nofun
  · exact firstToConsume_of_next rfl rfl nofun
  · refine firstToConsume_of_next rfl rfl fun _ row found => ?_
    cases found
    rfl
  · exact firstToConsume_of_next rfl rfl nofun
  · exact firstToConsume_of_next rfl rfl nofun

/-- Both overlapping callbacks end with a session. -/
theorem overlapping_callbacks_complete_twice :
    ¬ Always (step (system (UpstreamNonce.answering "n1"))) (CompletedOnce login)
      (.init loginStarted) overlapping := by
  intro always
  have runs : exec (step (system (UpstreamNonce.answering "n1")))
      (.init loginStarted) overlapping = some _ := rfl
  have once := always_iff.mp always overlapping [] _
    (List.append_nil _).symm runs
  have same : 0 = 1 := once 0 1 _ _ _ _ rfl rfl ⟨rfl, rfl⟩ ⟨rfl, rfl⟩ rfl rfl
    ⟨_, _, _, _, _, rfl⟩ ⟨_, _, _, _, _, rfl⟩
  exact absurd same (by decide)

end CallbackCompletion

end HexIam
