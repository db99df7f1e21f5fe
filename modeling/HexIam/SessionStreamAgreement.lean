import HexIam.CallPool
import HexIam.SessionService
import Mathlib.Tactic.IntervalCases

/-!
# Agreement of the sessions table with the revocation stream

The functions of `session_service` write the table and the stream in separate
steps.  Here any number of their calls interleave, an `xadd` may fail and a
worker may crash between two steps.  A call that has selected or revoked a row
announces its id; the stream catches up unless an `xadd` of a missing id
fails, the last worker that would add an id crashes, or a bulk update reaches
a row its own query did not return.
-/

namespace HexIam

open StatementTree CallPool GuardedRun

namespace SessionStream

/-! ## The system -/

/-- A call of `session_service` on a worker. -/
inductive SessionCall : Type
  | create (worker : Nat) (jti userId tenantId : String) (expiresAt : Int)
      (ipAddress deviceInfo : Option String)
  | revoke (worker : Nat) (jti userId tenantId : Option String)
      (reason : String)
  | revokeAll (worker : Nat) (userId tenantId reason : String)
      (excludeJti : Option String)
  | adminRevoke (worker : Nat) (jti tenantId reason : String)
  | adminBulkRevoke (worker : Nat) (jtis : List String)
      (tenantId reason : String)

namespace SessionCall

/-- The worker that serves the call. -/
def worker : SessionCall → Nat
  | create worker .. => worker
  | revoke worker .. => worker
  | revokeAll worker .. => worker
  | adminRevoke worker .. => worker
  | adminBulkRevoke worker .. => worker

/-- The function called, without its result. -/
def program : SessionCall → App Unit
  | create _ jti userId tenantId expiresAt ipAddress deviceInfo =>
      createSession jti userId tenantId expiresAt ipAddress deviceInfo
  | revoke worker jti userId tenantId reason => do
      let _ ← revokeSession worker jti userId tenantId reason
  | revokeAll worker userId tenantId reason excludeJti => do
      let _ ← revokeAllSessions worker userId tenantId reason excludeJti
  | adminRevoke worker jti tenantId reason => do
      let _ ← adminRevokeSession worker jti tenantId reason
  | adminBulkRevoke worker jtis tenantId reason => do
      let _ ← adminBulkRevokeSessions worker jtis tenantId reason

end SessionCall

/-- Any `xadd` may fail with a Redis error; nothing else does. -/
def xaddFails : Stmt → Exn → Bool
  | .redis (.xadd ..), .redis _ => true
  | _, _ => false

/-- Calls of `session_service` over one world.  A crash loses the state of the
worker, and time may pass. -/
def system (deployment : Deployment) :
    System Nat SessionCall Stmt Stmt.Resp Exn Unit World Nat where
  site call := some call.worker
  program := SessionCall.program
  perform := perform deployment
  mayFail := xaddFails
  crash worker world := world.setWorker worker {}
  change seconds world := some { world with now := world.now + seconds }

abbrev SessionPool := Pool SessionCall Stmt Stmt.Resp Exn Unit World
abbrev SessionEvent := Event Nat SessionCall Exn Nat
abbrev Log := List (LogEntry Stmt Stmt.Resp Exn)

/-- Every revoked row has its id in the stream. -/
def Agreement (world : World) : Prop :=
  ∀ row ∈ world.userSessions, row.revokedAt.isSome = true →
    row.jti ∈ world.revokedJtis

/-! ## Announced and tried ids -/

/-- A statement after which its call owes the stream an id: a single update
that changed a row, or a query whose rows the call is going to revoke. -/
def announces : LogEntry Stmt Stmt.Resp Exn → String → Prop
  | ⟨.session (.revokeOne found _ _ _), .ok count⟩, jti =>
      count ≠ 0 ∧ found = some jti
  | ⟨.session (.revokeInTenant found _ _), .ok count⟩, jti =>
      count ≠ 0 ∧ found = jti
  | ⟨.session (.ofUser _ _ _), .ok jtis⟩, jti => jti ∈ jtis
  | ⟨.session (.among _ _), .ok rows⟩, jti => ∃ row ∈ rows, jti = row.1
  | _, _ => False

/-- An `xadd` of an id, whatever came of it. -/
def tries : LogEntry Stmt Stmt.Resp Exn → String → Prop
  | ⟨.redis (.xadd found _ _ _), _⟩, jti => found = some jti
  | _, _ => False

/-- The call owes the stream this id. -/
def Announced (log : Log) (jti : String) : Prop :=
  ∃ entry ∈ log, announces entry jti

/-- The call has tried to add this id to the stream. -/
def Tried (log : Log) (jti : String) : Prop :=
  ∃ entry ∈ log, tries entry jti

/-- The call has tried every id it owes. -/
def Settled (log : Log) : Prop :=
  ∀ jti, Announced log jti → Tried log jti

theorem announced_cons {entry : LogEntry Stmt Stmt.Resp Exn} {log : Log}
    {jti : String} :
    Announced (entry :: log) jti ↔ announces entry jti ∨ Announced log jti := by
  simp [Announced]

theorem tried_cons {entry : LogEntry Stmt Stmt.Resp Exn} {log : Log}
    {jti : String} :
    Tried (entry :: log) jti ↔ tries entry jti ∨ Tried log jti := by
  simp [Tried]

/-! ## The condition on a run -/

/-- The rows a bulk update selects. -/
def bulkSelects : Stmt → SessionRow → Bool
  | .session (.revokeOfUser userId tenantId _ excludeJti) =>
      SessionRow.isOfUser userId tenantId excludeJti
  | .session (.revokeAmong jtis tenantId _) =>
      SessionRow.isAmong jtis tenantId
  | _ => fun _ => false

/-- What may go wrong only harmlessly: an `xadd` fails for an id the stream
already has; a worker crashes while another worker is still to add each id of
a revoked row that the stream lacks; a bulk update reaches only rows that its
call's query returned or whose id the stream has. -/
def Careful (pool : SessionPool) : SessionEvent → Prop
  | .fail id _ => ∀ call stmt, pool.Holds id call → call.Next stmt →
      ∀ jti ∈ stmt.xaddJti, jti ∈ pool.world.revokedJtis
  | .crash worker => ∀ row ∈ pool.world.userSessions,
      row.revokedAt.isSome = true → row.jti ∉ pool.world.revokedJtis →
      ∃ id call, pool.Holds id call ∧ call.Running ∧
        call.request.worker ≠ worker ∧ Announced call.log row.jti
  | .advance id => ∀ call stmt, pool.Holds id call → call.Next stmt →
      ∀ row ∈ pool.world.userSessions, bulkSelects stmt row = true →
        row.active = true →
        Announced call.log row.jti ∨ row.jti ∈ pool.world.revokedJtis
  | _ => True

/-! ## Every program settles what it announces -/

section Programs

variable {deployment : Deployment}

/-- The answers of the system's statements. -/
abbrev May (deployment : Deployment) :
    (stmt : Stmt) → Except Exn stmt.Resp → Prop :=
  Answers (system deployment)

/-- A statement that cannot fail is answered as some world answers it. -/
theorem may_of_not_fails {stmt : Stmt} {answer : Except Exn stmt.Resp}
    (may : May deployment stmt answer)
    (safe : ∀ error, xaddFails stmt error = false) :
    ∃ world, (perform deployment stmt world).1 = answer := by
  rcases may with answered | ⟨error, fails, -⟩
  · exact answered
  · rw [show (system deployment).mayFail = xaddFails from rfl, safe] at fails
    cases fails

theorem may_bloomAdd {worker : Nat} {jti : Option String}
    {answer : Except Exn Unit}
    (may : May deployment (.redis (.bloomAdd worker jti)) answer) :
    answer = .ok () := by
  obtain ⟨world, rfl⟩ := may_of_not_fails may fun _ => rfl
  rfl

theorem may_publish {jti : Option String} {answer : Except Exn Unit}
    (may : May deployment (.redis (.publish jti)) answer) :
    answer = .ok () := by
  obtain ⟨world, rfl⟩ := may_of_not_fails may fun _ => rfl
  rfl

/-- Queries and updates of sessions do not fail. -/
theorem may_session {stmt : SessionStmt} {answer : Except Exn stmt.Resp}
    (may : May deployment (.session stmt) answer)
    (notInsert : ∀ row, stmt ≠ .insert row) :
    ∃ value, answer = .ok value := by
  obtain ⟨world, rfl⟩ := may_of_not_fails may fun _ => rfl
  cases stmt with
  | insert row => exact absurd rfl (notInsert row)
  | _ => exact ⟨_, rfl⟩

/-- No statement is forbidden. -/
abbrev anyStatement : Log → Stmt → Prop :=
  fun _ _ => True

/-- From `before` to `log` nothing new was announced and the ids `jtis` were
tried. -/
structure Adds (before : Log) (jtis : List String) (log : Log) : Prop where
  announced : ∀ jti, Announced log jti → Announced before jti
  tried : ∀ jti, Tried before jti → Tried log jti
  added : ∀ jti ∈ jtis, Tried log jti

theorem Adds.refl (log : Log) : Adds log [] log :=
  ⟨fun _ => id, fun _ => id, by simp⟩

theorem Adds.trans {first second third : Log} {jtis others : List String}
    (start : Adds first jtis second) (rest : Adds second others third) :
    Adds first (jtis ++ others) third where
  announced jti found := start.announced jti (rest.announced jti found)
  tried jti found := rest.tried jti (start.tried jti found)
  added jti jtiMem := by
    rcases List.mem_append.mp jtiMem with jtiMem | jtiMem
    · exact rest.tried jti (start.added jti jtiMem)
    · exact rest.added jti jtiMem

theorem revokeToken_obeys (worker : Nat) (jti userId tenantId reason : String)
    (before : Log) :
    Obeys anyStatement (May deployment)
      (fun log result => Adds before [jti] log ∧ ∃ value, result = .ok value)
      (revokeToken worker (some jti) userId tenantId reason) before := by
  unfold revokeToken ask
  simp only [bind_perform]
  refine ⟨trivial, fun answer may => ?_⟩
  cases may_bloomAdd may
  simp only [bind_ok, tryCatch_perform, bind_perform]
  refine ⟨trivial, fun answer may => ?_⟩
  have afterXadd : Adds before [jti]
      (⟨.redis (.xadd (some jti) userId tenantId reason), answer⟩ ::
        ⟨.redis (.bloomAdd worker (some jti)), .ok ()⟩ :: before) := by
    constructor
    · intro other found
      simpa [announced_cons, announces] using found
    · intro other found
      simp [tried_cons, found]
    · intro other otherMem
      simp [tried_cons, tries, List.mem_singleton.mp otherMem]
  have published : ∀ log value, Adds before [jti] log →
      Obeys anyStatement (May deployment)
        (fun log result => Adds before [jti] log ∧ ∃ value, result = .ok value)
        (tryCatch (.perform (.redis (.publish (some jti))) .done)
          (fun _ => (return () : App Unit)) >>= fun _ =>
            (return value : App Bool)) log := by
    intro log value adds
    simp only [tryCatch_perform, bind_perform]
    refine ⟨trivial, fun answer may => ?_⟩
    cases may_publish may
    refine ⟨⟨fun other found => adds.announced other ?_, fun other found => ?_,
      fun other otherMem => ?_⟩, value, rfl⟩
    · simpa [announced_cons, announces] using found
    · simp [tried_cons, adds.tried other found]
    · simp [tried_cons, adds.added other otherMem]
  cases answer with
  | ok value => exact published _ true afterXadd
  | error error => exact published _ false afterXadd

theorem revokeUserTokens_obeys (worker : Nat) (userId tenantId reason : String)
    (jtis : List String) (before : Log) :
    Obeys anyStatement (May deployment)
      (fun log result => Adds before jtis log ∧ ∃ value, result = .ok value)
      (revokeUserTokens worker userId tenantId reason jtis) before := by
  induction jtis generalizing before with
  | nil => exact ⟨.refl before, 0, rfl⟩
  | cons jti rest ih =>
      refine (revokeToken_obeys worker jti userId tenantId reason before).bind
        ?_ ?_
      · rintro middle streamOk ⟨first, -⟩
        refine (ih middle).bind ?_ ?_
        · rintro log count ⟨others, -⟩
          exact ⟨first.trans others, _, rfl⟩
        · rintro log error ⟨-, value, impossible⟩
          cases impossible
      · rintro log error ⟨-, value, impossible⟩
        cases impossible

/-- The loop of `admin_bulk_revoke_sessions` tries the ids of every group. -/
theorem revokeGroups_obeys (worker : Nat) (tenantId reason : String)
    (groups : List (String × List String)) (before : Log) :
    Obeys anyStatement (May deployment)
      (fun log result => Adds before (groups.flatMap Prod.snd) log ∧
        ∃ value, result = .ok value)
      (revokeGroups worker tenantId reason groups) before := by
  induction groups generalizing before with
  | nil => exact ⟨.refl before, (), rfl⟩
  | cons group rest ih =>
      obtain ⟨userId, jtis⟩ := group
      refine (revokeUserTokens_obeys worker userId tenantId reason jtis
        before).bind ?_ ?_
      · rintro middle count ⟨first, -⟩
        refine (ih middle).mono ?_
        rintro log result ⟨others, ended⟩
        exact ⟨first.trans others, ended⟩
      · rintro log error ⟨-, value, impossible⟩
        cases impossible

theorem settled_of_adds {before log : Log} {jtis : List String}
    (adds : Adds before jtis log)
    (owed : ∀ jti, Announced before jti → jti ∈ jtis) : Settled log :=
  fun jti found => adds.added jti (owed jti (adds.announced jti found))

theorem settled_nil : Settled [] := by
  rintro jti ⟨entry, entryMem, -⟩
  cases entryMem

/-- The postcondition of every call. -/
abbrev settles {α : Type} : Log → Except Exn α → Prop :=
  fun log _ => Settled log

/-- Dropping the result of a call keeps what its log satisfies. -/
theorem obeys_void {α : Type} {program : App α} {log : Log}
    (obeys : Obeys anyStatement (May deployment) settles program log) :
    Obeys anyStatement (May deployment) settles
      (do let _ ← program : App Unit) log :=
  obeys.bind (fun _ _ settled => settled) fun _ _ settled => settled

theorem revokeSession_settles (worker : Nat)
    (jti userId tenantId : Option String) (reason : String) :
    Obeys anyStatement (May deployment) settles
      (revokeSession worker jti userId tenantId reason) [] := by
  unfold revokeSession ask
  simp only [bind_perform]
  refine ⟨trivial, fun answer may => ?_⟩
  obtain ⟨count, rfl⟩ := may_session may nofun
  simp only [bind_ok]
  split
  case isTrue changed =>
    cases jti with
    | none =>
        -- a NULL id selects no row, so the count is zero
        obtain ⟨world, answered⟩ := may_of_not_fails may fun _ => rfl
        refine absurd ?_ changed
        rw [← Except.ok.inj answered]
        simp [SessionTable.revokeWhere, SessionTable.activeRows,
          KeyedTable.select, SessionRow.isOne]
    | some jti =>
        refine (revokeToken_obeys ..).bind ?_ ?_
        · rintro log value ⟨adds, -⟩
          refine settled_of_adds adds fun other found => ?_
          rcases announced_cons.mp found with ⟨-, same⟩ | ⟨_, entryMem, -⟩
          · simp [Option.some.inj same]
          · cases entryMem
        · rintro log error ⟨-, value, impossible⟩
          cases impossible
  case isFalse unchanged =>
    rintro other found
    rcases announced_cons.mp found with ⟨changed, -⟩ | ⟨_, entryMem, -⟩
    · exact absurd changed unchanged
    · cases entryMem

theorem revokeAllSessions_settles (worker : Nat)
    (userId tenantId reason : String) (excludeJti : Option String) :
    Obeys anyStatement (May deployment) settles
      (revokeAllSessions worker userId tenantId reason excludeJti) [] := by
  unfold revokeAllSessions ask
  simp only [bind_perform]
  refine ⟨trivial, fun answer may => ?_⟩
  obtain ⟨jtis, rfl⟩ := may_session may nofun
  simp only [bind_ok]
  split
  case isTrue noRows =>
    rintro other found
    rcases announced_cons.mp found with inRows | ⟨_, entryMem, -⟩
    · simp only [announces, List.isEmpty_iff.mp noRows, List.not_mem_nil]
        at inRows
    · cases entryMem
  case isFalse =>
    refine (revokeUserTokens_obeys ..).bind ?_ ?_
    · rintro middle count ⟨adds, -⟩
      have settled : Settled middle := by
        refine settled_of_adds adds fun other found => ?_
        rcases announced_cons.mp found with inRows | ⟨_, entryMem, -⟩
        · exact inRows
        · cases entryMem
      refine ⟨trivial, fun answer may => ?_⟩
      obtain ⟨count, rfl⟩ := may_session may nofun
      intro other found
      refine tried_cons.mpr (.inr (settled other ?_))
      simpa [announced_cons, announces] using found
    · rintro log error ⟨-, value, impossible⟩
      cases impossible

theorem adminRevokeSession_settles (worker : Nat)
    (jti tenantId reason : String) :
    Obeys anyStatement (May deployment) settles
      (adminRevokeSession worker jti tenantId reason) [] := by
  unfold adminRevokeSession ask
  simp only [bind_perform]
  refine ⟨trivial, fun answer may => ?_⟩
  obtain ⟨holder, rfl⟩ := may_session may nofun
  have fresh : ∀ other,
      ¬ Announced [⟨.session (.holder jti tenantId), .ok holder⟩] other := by
    simp [Announced, announces]
  cases holder with
  | none => exact fun other found => absurd found (fresh other)
  | some userId =>
      simp only [bind_ok]
      refine ⟨trivial, fun answer may => ?_⟩
      obtain ⟨count, rfl⟩ := may_session may nofun
      simp only [bind_ok]
      split
      case isTrue changed =>
        refine (revokeToken_obeys ..).bind ?_ ?_
        · rintro log value ⟨adds, -⟩
          refine settled_of_adds adds fun other found => ?_
          rcases announced_cons.mp found with ⟨-, same⟩ | found
          · simp [same]
          · exact absurd found (fresh other)
        · rintro log error ⟨-, value, impossible⟩
          cases impossible
      case isFalse unchanged =>
        rintro other found
        rcases announced_cons.mp found with ⟨changed, -⟩ | found
        · exact absurd changed unchanged
        · exact absurd found (fresh other)

theorem adminBulkRevokeSessions_settles (worker : Nat) (jtis : List String)
    (tenantId reason : String) :
    Obeys anyStatement (May deployment) settles
      (adminBulkRevokeSessions worker jtis tenantId reason) [] := by
  unfold adminBulkRevokeSessions
  split
  case isTrue => exact settled_nil
  case isFalse =>
    unfold ask
    simp only [bind_perform]
    refine ⟨trivial, fun answer may => ?_⟩
    obtain ⟨rows, rfl⟩ := may_session may nofun
    simp only [bind_ok]
    split
    case isTrue noRows =>
      rintro other found
      rcases announced_cons.mp found with ⟨row, rowMem, -⟩ | ⟨_, entryMem, -⟩
      · rw [List.isEmpty_iff.mp noRows] at rowMem
        cases rowMem
      · cases entryMem
    case isFalse =>
      refine ⟨trivial, fun answer may => ?_⟩
      obtain ⟨count, rfl⟩ := may_session may nofun
      simp only [bind_ok]
      refine (revokeGroups_obeys ..).bind ?_ ?_
      · rintro log value ⟨adds, -⟩
        refine settled_of_adds adds fun other found => ?_
        rcases announced_cons.mp found with impossible | found
        · exact impossible.elim
        · rcases announced_cons.mp found with inRows | ⟨_, entryMem, -⟩
          · exact List.mem_flatMap.mpr (mem_groupByUser.mpr inRows)
          · cases entryMem
      · rintro log error ⟨-, value, impossible⟩
        cases impossible

/-- Every call ends with the ids it owes tried. -/
theorem program_settles (call : SessionCall) :
    Obeys anyStatement (May deployment) settles call.program [] := by
  cases call with
  | create worker jti userId tenantId expiresAt ipAddress deviceInfo =>
      refine ⟨trivial, fun answer _ other found => ?_⟩
      rcases announced_cons.mp found with impossible | ⟨_, entryMem, -⟩
      · exact impossible.elim
      · cases entryMem
  | revoke worker jti userId tenantId reason =>
      exact obeys_void (revokeSession_settles ..)
  | revokeAll worker userId tenantId reason excludeJti =>
      exact obeys_void (revokeAllSessions_settles ..)
  | adminRevoke worker jti tenantId reason =>
      exact obeys_void (adminRevokeSession_settles ..)
  | adminBulkRevoke worker jtis tenantId reason =>
      exact obeys_void (adminBulkRevokeSessions_settles ..)

end Programs

/-! ## What one statement does to the table and the stream -/

section Effects

variable {deployment : Deployment} {world : World}

/-- No statement removes an entry of the stream. -/
theorem mem_revokedJtis_perform (stmt : Stmt) {jti : String}
    (inStream : jti ∈ world.revokedJtis) :
    jti ∈ (perform deployment stmt world).2.revokedJtis := by
  rw [revokedJtis_perform]
  exact List.mem_append_left _ inStream

theorem xaddJti_of_tries {stmt : Stmt} {answer : Except Exn stmt.Resp}
    {jti : String} (trying : tries ⟨stmt, answer⟩ jti) :
    stmt.xaddJti = some jti := by
  cases stmt with
  | redis stmt =>
      cases stmt with
      | xadd found userId tenantId reason => exact trying
      | _ => exact trying.elim
  | _ => exact trying.elim

/-- An `xadd` that is performed puts its id into the stream. -/
theorem mem_revokedJtis_of_tries {stmt : Stmt} {jti : String}
    (trying : tries ⟨stmt, (perform deployment stmt world).1⟩ jti) :
    jti ∈ (perform deployment stmt world).2.revokedJtis := by
  rw [revokedJtis_perform, xaddJti_of_tries trying]
  simp

theorem revoked_of_revokeWhere {table : SessionTable}
    {selected : SessionRow → Bool} {now : Int} {reason : String}
    {row : SessionRow}
    (rowMem : row ∈ (table.revokeWhere selected now reason).2)
    (revoked : row.revokedAt.isSome = true) :
    (∃ old ∈ table, old.revokedAt.isSome = true ∧ old.jti = row.jti) ∨
      ∃ old ∈ table, selected old = true ∧ old.active = true ∧
        old.jti = row.jti := by
  obtain ⟨old, oldMem, rowEq⟩ :=
    (KeyedTable.mem_update (SessionRow.revoke_jti now reason)).mp rowMem
  by_cases isSelected : (selected old && old.active) = true
  · rw [if_pos isSelected] at rowEq
    rw [Bool.and_eq_true] at isSelected
    exact .inr ⟨old, oldMem, isSelected.1, isSelected.2, by rw [rowEq]; rfl⟩
  · rw [if_neg isSelected] at rowEq
    exact .inl ⟨old, oldMem, rowEq ▸ revoked, by rw [rowEq]⟩

theorem revokeWhere_count {table : SessionTable}
    {selected : SessionRow → Bool} (now : Int) (reason : String)
    {row : SessionRow} (rowMem : row ∈ table) (isSelected : selected row = true)
    (active : row.active = true) :
    (table.revokeWhere selected now reason).1 ≠ 0 := by
  have found : row ∈ table.activeRows selected :=
    KeyedTable.mem_select.mpr ⟨rowMem, by simp [isSelected, active]⟩
  exact List.length_pos_of_mem found |>.ne'

/-- A row revoked after a statement was revoked before it, or the statement
announces its id, or the statement is a bulk update that selects the row. -/
theorem revoked_of_perform (stmt : Stmt) {row : SessionRow}
    (rowMem : row ∈ (perform deployment stmt world).2.userSessions)
    (revoked : row.revokedAt.isSome = true) :
    (∃ old ∈ world.userSessions, old.revokedAt.isSome = true ∧
        old.jti = row.jti) ∨
      announces ⟨stmt, (perform deployment stmt world).1⟩ row.jti ∨
      ∃ old ∈ world.userSessions, bulkSelects stmt old = true ∧
        old.active = true ∧ old.jti = row.jti := by
  have unchanged (same : row ∈ world.userSessions) :
      ∃ old ∈ world.userSessions, old.revokedAt.isSome = true ∧
        old.jti = row.jti :=
    ⟨row, same, revoked, rfl⟩
  cases stmt with
  | session stmt =>
      cases stmt with
      | insert newRow =>
          refine .inl (unchanged ?_)
          simp only [perform, SessionStmt.perform] at rowMem
          split at rowMem
          · exact rowMem
          · exact rowMem
          · exact rowMem
          · rename_i table _ _ inserted
            split at rowMem
            · rcases (KeyedTable.mem_of_insert inserted).mp rowMem with
                held | rfl
              · exact held
              · simp [SessionRow.fresh] at revoked
            · exact rowMem
      | revokeOne jti userId tenantId reason =>
          rcases revoked_of_revokeWhere rowMem revoked with
            before | ⟨old, oldMem, selected, active, jtiEq⟩
          · exact .inl before
          · have count := revokeWhere_count world.now reason oldMem
              selected active
            refine .inr (.inl ⟨count, ?_⟩)
            simp only [SessionRow.isOne, Bool.and_eq_true,
              decide_eq_true_eq] at selected
            rw [← jtiEq]
            exact selected.1.1.symm
      | revokeInTenant jti tenantId reason =>
          rcases revoked_of_revokeWhere rowMem revoked with
            before | ⟨old, oldMem, selected, active, jtiEq⟩
          · exact .inl before
          · have count := revokeWhere_count world.now reason oldMem
              selected active
            refine .inr (.inl ⟨count, ?_⟩)
            simp only [SessionRow.isInTenant, Bool.and_eq_true,
              decide_eq_true_eq] at selected
            rw [← jtiEq]
            exact selected.1.symm
      | revokeOfUser userId tenantId reason excludeJti =>
          rcases revoked_of_revokeWhere rowMem revoked with before | selected
          · exact .inl before
          · exact .inr (.inr selected)
      | revokeAmong jtis tenantId reason =>
          rcases revoked_of_revokeWhere rowMem revoked with before | selected
          · exact .inl before
          · exact .inr (.inr selected)
      | _ => exact .inl (unchanged rowMem)
  | redis stmt =>
      refine .inl (unchanged ?_)
      cases stmt with
      | bloomAdd worker jti => cases jti <;> exact rowMem
      | xadd jti userId tenantId reason => cases jti <;> exact rowMem
      | publish jti => cases jti <;> exact rowMem
      | bloomHas worker jti => exact rowMem
  | _ => exact .inl (unchanged rowMem)

end Effects

/-! ## The invariant -/

section Invariant

variable {deployment : Deployment} {pool next : SessionPool}

/-- What holds in every state of a careful run: every tried id is in the
stream, and so is the id of every revoked row unless a call that has not
crashed has announced it. -/
structure Owed (deployment : Deployment) (pool : SessionPool) : Prop where
  follows : Follows (system deployment) (fun _ => anyStatement)
    (fun _ => settles) pool
  streamed : ∀ id call, pool.Holds id call → ∀ jti, Tried call.log jti →
    jti ∈ pool.world.revokedJtis
  owed : ∀ row ∈ pool.world.userSessions, row.revokedAt.isSome = true →
    row.jti ∈ pool.world.revokedJtis ∨
      ∃ id call, pool.Holds id call ∧ call.crashed = false ∧
        Announced call.log row.jti

theorem owed_init {world : World} (start : Agreement world) :
    Owed deployment (.init world) where
  follows := follows_init
  streamed _ _ holds := absurd holds Pool.not_holds_init
  owed row rowMem revoked := .inl (start row rowMem revoked)

theorem owed_start {id : Nat} {request : SessionCall}
    (inv : Owed deployment pool)
    (stepEq : step (system deployment) pool (.start id request) = some next) :
    Owed deployment next := by
  have follows := follows_step program_settles _ inv.follows stepEq
  obtain ⟨free, rfl⟩ := step_start.mp stepEq
  refine ⟨follows, ?_, ?_⟩
  · intro other call holds jti tried
    rcases Pool.holds_setCall.mp holds with ⟨-, rfl⟩ | ⟨-, holds⟩
    · obtain ⟨_, entryMem, -⟩ := tried
      cases entryMem
    · exact inv.streamed other call holds jti tried
  · intro row rowMem revoked
    rcases inv.owed row rowMem revoked with inStream | owed
    · exact .inl inStream
    · obtain ⟨other, call, holds, alive, announced⟩ := owed
      have away : other ≠ id := by
        rintro rfl
        simp [Pool.Holds, free] at holds
      exact .inr ⟨other, call, Pool.holds_setCall.mpr (.inr ⟨away, holds⟩),
        alive, announced⟩

theorem announced_setCall {world : World} {id other : Nat}
    {call found : Call SessionCall Stmt Stmt.Resp Exn Unit} {stmt : Stmt}
    {rest : Except Exn stmt.Resp → App Unit} {answer : Except Exn stmt.Resp}
    {jti : String} (holds : pool.Holds id call) (alive : call.crashed = false)
    (foundHolds : pool.Holds other found) (foundAlive : found.crashed = false)
    (announced : Announced found.log jti) :
    ∃ other found, (({ pool with world := world } : SessionPool).setCall id
        (call.answered stmt rest answer)).Holds other found ∧
      found.crashed = false ∧ Announced found.log jti := by
  by_cases same : other = id
  · subst same
    cases Pool.Holds.unique foundHolds holds
    exact ⟨other, _, Pool.holds_setCall.mpr (.inl ⟨rfl, rfl⟩), alive,
      announced_cons.mpr (.inr announced)⟩
  · exact ⟨other, found, Pool.holds_setCall.mpr (.inr ⟨same, foundHolds⟩),
      foundAlive, announced⟩

theorem owed_advance {id : Nat} (inv : Owed deployment pool)
    (careful : Careful pool (.advance id))
    (stepEq : step (system deployment) pool (.advance id) = some next) :
    Owed deployment next := by
  have follows := follows_step program_settles _ inv.follows stepEq
  obtain ⟨call, stmt, rest, holds, alive, restEq, rfl⟩ :=
    step_advance.mp stepEq
  have isNext : call.Next stmt := ⟨alive, rest, restEq⟩
  refine ⟨follows, ?_, ?_⟩
  · intro other found foundHolds jti tried
    rcases Pool.holds_setCall.mp foundHolds with ⟨-, rfl⟩ | ⟨-, foundHolds⟩
    · rcases tried_cons.mp tried with trying | tried
      · exact mem_revokedJtis_of_tries trying
      · exact mem_revokedJtis_perform stmt (inv.streamed id call holds jti tried)
    · exact mem_revokedJtis_perform stmt
        (inv.streamed other found foundHolds jti tried)
  · intro row rowMem revoked
    rcases revoked_of_perform stmt rowMem revoked with
      ⟨old, oldMem, oldRevoked, jtiEq⟩ | announcing |
        ⟨old, oldMem, selected, active, jtiEq⟩
    · rw [← jtiEq]
      rcases inv.owed old oldMem oldRevoked with inStream | owed
      · exact .inl (mem_revokedJtis_perform stmt inStream)
      · obtain ⟨other, found, foundHolds, foundAlive, announced⟩ := owed
        exact .inr (announced_setCall holds alive foundHolds foundAlive announced)
    · exact .inr ⟨id, _, Pool.holds_setCall.mpr (.inl ⟨rfl, rfl⟩), alive,
        announced_cons.mpr (.inl announcing)⟩
    · rw [← jtiEq]
      rcases careful call stmt holds isNext old oldMem selected active with
        announced | inStream
      · exact .inr (announced_setCall holds alive holds alive announced)
      · exact .inl (mem_revokedJtis_perform stmt inStream)

theorem owed_fail {id : Nat} {error : Exn} (inv : Owed deployment pool)
    (careful : Careful pool (.fail id error))
    (stepEq : step (system deployment) pool (.fail id error) = some next) :
    Owed deployment next := by
  have follows := follows_step program_settles _ inv.follows stepEq
  obtain ⟨call, stmt, rest, holds, alive, restEq, may, rfl⟩ :=
    step_fail.mp stepEq
  have isNext : call.Next stmt := ⟨alive, rest, restEq⟩
  refine ⟨follows, ?_, ?_⟩
  · intro other found foundHolds jti tried
    rcases Pool.holds_setCall.mp foundHolds with ⟨-, rfl⟩ | ⟨-, foundHolds⟩
    · rcases tried_cons.mp tried with trying | tried
      · exact careful call stmt holds isNext jti (xaddJti_of_tries trying)
      · exact inv.streamed id call holds jti tried
    · exact inv.streamed other found foundHolds jti tried
  · intro row rowMem revoked
    rcases inv.owed row rowMem revoked with inStream | owed
    · exact .inl inStream
    · obtain ⟨other, found, foundHolds, foundAlive, announced⟩ := owed
      exact .inr (announced_setCall holds alive foundHolds foundAlive announced)

theorem owed_crash {worker : Nat} (inv : Owed deployment pool)
    (careful : Careful pool (.crash worker))
    (stepEq : step (system deployment) pool (.crash worker) = some next) :
    Owed deployment next := by
  have follows := follows_step program_settles _ inv.follows stepEq
  obtain ⟨worldEq, callsEq⟩ := step_crash.mp stepEq
  have streamEq : next.world.revokedJtis = pool.world.revokedJtis := by
    rw [worldEq]
    rfl
  have sessionsEq : next.world.userSessions = pool.world.userSessions := by
    rw [worldEq]
    rfl
  refine ⟨follows, ?_, ?_⟩
  · intro id call holds jti tried
    obtain ⟨before, beforeHolds, -, -, logEq, -⟩ := holds_of_crash stepEq holds
    rw [streamEq]
    exact inv.streamed id before beforeHolds jti (logEq ▸ tried)
  · intro row rowMem revoked
    rw [sessionsEq] at rowMem
    rw [streamEq]
    by_cases inStream : row.jti ∈ pool.world.revokedJtis
    · exact .inl inStream
    · obtain ⟨id, call, holds, running, away, announced⟩ :=
        careful row rowMem revoked inStream
      refine .inr ⟨id, call, ?_, running.1, announced⟩
      have kept := callsEq id
      rw [show pool.calls id = some call from holds] at kept
      simpa [Pool.Holds, system, away] using kept

theorem owed_change {seconds : Nat} (inv : Owed deployment pool)
    (stepEq : step (system deployment) pool (.change seconds) = some next) :
    Owed deployment next := by
  have follows := follows_step program_settles _ inv.follows stepEq
  obtain ⟨world, changed, rfl⟩ := step_change.mp stepEq
  cases Option.some.inj changed
  exact ⟨follows, inv.streamed, inv.owed⟩

theorem owed_step (event : SessionEvent) (inv : Owed deployment pool)
    (careful : Careful pool event)
    (stepEq : step (system deployment) pool event = some next) :
    Owed deployment next := by
  cases event with
  | start id request => exact owed_start inv stepEq
  | advance id => exact owed_advance inv careful stepEq
  | fail id error => exact owed_fail inv careful stepEq
  | crash worker => exact owed_crash inv careful stepEq
  | change seconds => exact owed_change inv stepEq

/-- With no call in progress, nothing is owed any more. -/
theorem agreement_of_quiet (inv : Owed deployment pool) (quiet : pool.Quiet) :
    Agreement pool.world := by
  intro row rowMem revoked
  rcases inv.owed row rowMem revoked with inStream | owed
  · exact inStream
  · obtain ⟨id, call, holds, alive, announced⟩ := owed
    have ended : ∃ result, call.rest = .done result := by
      by_contra unfinished
      exact quiet id call holds ⟨alive, fun result restEq =>
        unfinished ⟨result, restEq⟩⟩
    obtain ⟨result, restEq⟩ := ended
    have settled := inv.follows.ended holds restEq
    exact inv.streamed id call holds _ (settled _ announced)

end Invariant

/-! ## The result -/

/-- In every interleaving whose steps are all careful, whenever no call is in
progress every revoked session has its id in the stream. -/
theorem sessions_agree_with_stream (deployment : Deployment) {world : World}
    (start : Agreement world) {events : List SessionEvent} {pool : SessionPool}
    (careful : Along (step (system deployment)) Careful (.init world) events)
    (runs : exec (step (system deployment)) (.init world) events = some pool)
    (quiet : pool.Quiet) : Agreement pool.world := by
  have inv : Owed deployment pool :=
    invariant_along (fun _ event _ inv careful stepEq =>
      owed_step event inv careful stepEq) (owed_init start) careful runs
  exact agreement_of_quiet inv quiet

/-! ## A lost revocation, and a run that loses none -/

theorem careful_of_not_bulk {pool : SessionPool} {id : Nat}
    {call : Call SessionCall Stmt Stmt.Resp Exn Unit} {stmt : Stmt}
    {rest : Except Exn stmt.Resp → App Unit} (holds : pool.Holds id call)
    (restEq : call.rest = .perform stmt rest)
    (notBulk : ∀ row, bulkSelects stmt row = false) :
    Careful pool (.advance id) := by
  intro found other foundHolds isNext row _ selects
  rw [(holds.next_unique restEq foundHolds isNext).2, notBulk] at selects
  cases selects

/-- One tenant with one user. -/
def oneUser : World where
  tenants := .single { id := "t" }
  users := .single ⟨"u", "t", "u@t", "pw", "U", "T", none, true, true, 0⟩

/-- The user logs in on worker 0 and logs out again. -/
def logoutEvents : List SessionEvent :=
  [.start 0 (.create 0 "u-1" "u" "t" 3600 none none), .advance 0,
    .start 1 (.revoke 0 (some "u-1") (some "u") (some "t") "logout"),
    .advance 1]

/-- The worker crashes after the update and before the `xadd`: no call is in
progress, the session is revoked, and the stream is empty. -/
theorem crash_loses_revocation :
    Agreement oneUser ∧
      ∃ pool, exec (step (system (.plain []))) (.init oneUser)
          (logoutEvents ++ [.crash 0]) = some pool ∧
        pool.Quiet ∧ ¬ Agreement pool.world := by
  have runs : exec (step (system (.plain []))) (.init oneUser)
      (logoutEvents ++ [.crash 0]) = some _ := rfl
  refine ⟨fun row rowMem => absurd rowMem KeyedTable.not_mem_empty, _, runs,
    ?_, ?_⟩
  · refine quiet_of_exec 2 runs ?_ ?_
    · intro id large request
      simp [logoutEvents]
      omega
    · intro id small call holds running
      interval_cases id <;> cases holds <;> exact absurd running.1 (by decide)
  · intro agreement
    exact absurd (agreement _ (List.mem_singleton.mpr rfl) rfl) (by decide)

/-- Without the crash the logout puts the id into the stream. -/
theorem logout_agrees :
    ∃ pool, exec (step (system (.plain []))) (.init oneUser)
        (logoutEvents ++ [.advance 1, .advance 1, .advance 1]) = some pool ∧
      Agreement pool.world := by
  have careful : Along (step (system (.plain []))) Careful (.init oneUser)
      (logoutEvents ++ [.advance 1, .advance 1, .advance 1]) := by
    refine along_of_step rfl trivial (along_of_step rfl ?_
      (along_of_step rfl trivial (along_of_step rfl ?_ (along_of_step rfl ?_
        (along_of_step rfl ?_ (along_of_step rfl ?_ (along_nil _)))))))
    all_goals exact careful_of_not_bulk rfl rfl fun _ => rfl
  have runs : exec (step (system (.plain []))) (.init oneUser)
      (logoutEvents ++ [.advance 1, .advance 1, .advance 1]) = some _ := rfl
  refine ⟨_, runs, sessions_agree_with_stream (.plain [])
    (fun row rowMem => absurd rowMem KeyedTable.not_mem_empty) careful runs ?_⟩
  refine quiet_of_exec 2 runs ?_ ?_
  · intro id large request
    simp [logoutEvents]
    omega
  · intro id small call holds running
    interval_cases id <;> cases holds <;> exact running.2 _ rfl

end SessionStream

end HexIam
