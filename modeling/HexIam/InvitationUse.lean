import HexIam.CallPool
import HexIam.Footprint
import HexIam.Registration
import HexIam.TenantRows

/-!
# The use of invitations

Both signup endpoints look an invitation up, insert a user and mark the
invitation as accepted, in separate statements, and `signup_api` keeps the
email of its request.  In the interleavings where nobody accepts, revokes or
outwaits an invitation that a signup has found, and `signup_api` is asked for
the invited email, every invited user is the one of a pending invitation, and
no invitation makes two.
-/

namespace HexIam

open StatementTree CallPool GuardedRun ManagementApp

namespace InvitationUse

/-! ## Runs -/

/-- A request to the invitation and signup endpoints. -/
inductive InvitationCall : Type
  | create (db : Connection) (readings : Readings) (principal : Principal)
      (request : InvitationRequest)
  | submit (readings : Readings) (request : SignupRequest)
  | api (readings : Readings) (request : SignupRequest)
  | revoke (principal : Principal) (invitationId : String)

namespace InvitationCall

/-- The endpoint of a request; its answer does not matter here. -/
def program (deployment : Deployment) : InvitationCall → ManagementApp Unit
  | create db readings principal request => do
      let _ ← createInvitation deployment db readings principal request
      return ()
  | submit readings request => do
      let _ ← signupSubmit deployment .owner readings request
      return ()
  | api readings request => do
      let _ ← signupApi deployment .owner readings request
      return ()
  | revoke principal invitationId => revokeInvitation principal invitationId

/-- The invitation token that a request presents; empty for none. -/
def invitationToken : InvitationCall → String
  | submit _ request => request.invitationToken
  | api _ request => request.invitationToken
  | _ => ""

/-- The time at which a signup decodes its token. -/
def decodedAt : InvitationCall → Int
  | submit readings _ => readings.utcNow 0
  | api readings _ => readings.utcNow 0
  | _ => 0

/-- The email of the user that a signup makes for an invitation. -/
def emailFor (row : InvitationRow) : InvitationCall → String
  | api _ request => request.email
  | _ => row.email

/-- The token of a request names the invitation. -/
def Names (deployment : Deployment) (call : InvitationCall)
    (invitationId : String) : Prop :=
  ∃ payload, decodeInvitation deployment call.invitationToken call.decodedAt =
    .ok payload ∧ payload.invitationId = some invitationId

end InvitationCall

/-- Requests over one database.  A statement may fail, and the clock of the
database advances. -/
def system (deployment : Deployment) :
    System Empty InvitationCall ManagementStmt ManagementStmt.Resp Exn Unit World
      Nat where
  site _ := none
  program call := call.program deployment
  perform := manage deployment
  mayFail _ _ := true
  crash site _ := site.elim
  change seconds world := some { world with now := world.now + seconds }

abbrev InvitationPool :=
  Pool InvitationCall ManagementStmt ManagementStmt.Resp Exn Unit World
abbrev InvitationEvent := Event Empty InvitationCall Exn Nat
abbrev RunningCall :=
  Call InvitationCall ManagementStmt ManagementStmt.Resp Exn Unit
abbrev Log := List (LogEntry ManagementStmt ManagementStmt.Resp Exn)

/-! ## What a signup has done -/

/-- The signup has found the invitation pending. -/
def HasFound (log : Log) (row : InvitationRow) : Prop :=
  (⟨.invitation (.pending (some row.id)), .ok (some row)⟩ :
    LogEntry ManagementStmt ManagementStmt.Resp Exn) ∈ log

/-- The statement inserts a user. -/
def InsertsUser : ManagementStmt → Prop
  | .core (.user _ (.insert _)) => True
  | _ => False

/-- The signup has inserted its user. -/
def HasInserted (log : Log) : Prop :=
  ∃ db user, (⟨.core (.user db (.insert user)), .ok ()⟩ :
    LogEntry ManagementStmt ManagementStmt.Resp Exn) ∈ log

/-- The signup has found the invitation and is yet to insert its user. -/
def Deciding (pool : InvitationPool) (row : InvitationRow) : Prop :=
  ∃ id call, pool.Holds id call ∧ call.Running ∧ HasFound call.log row ∧
    ∀ entry ∈ call.log, ¬ InsertsUser entry.1

/-! ## The property -/

/-- A signup with a token inserts the user of the invitation that its token
names, which is pending in the table. -/
def InsertsInvited (deployment : Deployment) (pool : InvitationPool) :
    InvitationEvent → Prop
  | .advance id => ∀ call db user, pool.Holds id call →
      call.Next (.core (.user db (.insert user))) →
      filled call.request.invitationToken = true →
      (manage deployment (.core (.user db (.insert user))) pool.world).1 =
        .ok () →
      ∃ row, call.request.Names deployment row.id ∧
        pool.world.invitations.lookup row.id = some row ∧
        row.pending pool.world.now = true ∧ user.email = row.email ∧
        user.tenantId = row.tenantId ∧ user.role = row.role
  | _ => True

/-- At most one signup has inserted a user for each invitation. -/
def OneUserEach (pool : InvitationPool) : Prop :=
  ∀ row id other first second, pool.Holds id first → pool.Holds other second →
    HasFound first.log row → HasFound second.log row → HasInserted first.log →
    HasInserted second.log → id = other

/-! ## The condition -/

/-- The statement leaves the invitations that signups are deciding on, and a
signup that finds its invitation asks for its email. -/
def Leaves (deployment : Deployment) (pool : InvitationPool)
    (call : InvitationCall) : ManagementStmt → Prop
  | .invitation (.accept (some invitationId)) =>
      ∀ row, Deciding pool row → row.id ≠ invitationId
  | .invitation (.deletePending invitationId tenantId) =>
      ∀ row, Deciding pool row → row.id = invitationId →
        row.tenantId ≠ tenantId
  | .invitation (.pending invitationId) => ∀ row,
      (manage deployment (.invitation (.pending invitationId)) pool.world).1 =
        .ok (some row) → call.emailFor row = row.email
  | _ => True

/-- Nothing is done to the invitations that signups are deciding on, and they do
not expire meanwhile. -/
def Undisturbed (deployment : Deployment) (pool : InvitationPool) :
    InvitationEvent → Prop
  | .advance id => ∀ call stmt, pool.Holds id call → call.Next stmt →
      Leaves deployment pool call.request stmt
  | .change seconds => ∀ row, Deciding pool row →
      pool.world.now + seconds < row.expiresAt
  | _ => True

/-! ## What the endpoints do -/

section Programs

variable {deployment : Deployment} {call : InvitationCall}

/-- The statements that every request may perform at any time. -/
def Free : ManagementStmt → Prop
  | .core stmt => ¬ InsertsUser (.core stmt)
  | .invitation (.pending _) => False
  | .invitation _ => True
  | _ => False

/-- The invitation that a token names is looked up once and first, the user of
an invitation that was found is inserted, and only users and invitations are
written. -/
def guarded (deployment : Deployment) (call : InvitationCall) (log : Log) :
    ManagementStmt → Prop
  | .invitation (.pending id) => (∀ entry ∈ log, Free entry.1) ∧
      filled call.invitationToken = true ∧ ∃ payload,
        decodeInvitation deployment call.invitationToken call.decodedAt =
          .ok payload ∧ payload.invitationId = id
  | .core (.user _ (.insert user)) =>
      filled call.invitationToken = true →
        (∀ entry ∈ log, ¬ InsertsUser entry.1) ∧ ∃ row, HasFound log row ∧
          user.email = call.emailFor row ∧ user.tenantId = row.tenantId ∧
          user.role = row.role
  | .core _ => True
  | .invitation _ => True
  | _ => False

theorem guarded_of_free (log : Log) (stmt : ManagementStmt) (free : Free stmt) :
    guarded deployment call log stmt := by
  cases stmt with
  | core stmt =>
      cases stmt with
      | user db stmt =>
          cases stmt with
          | insert row => exact absurd trivial free
          | _ => trivial
      | _ => trivial
  | invitation stmt =>
      cases stmt with
      | pending id => exact free.elim
      | _ => trivial
  | _ => exact free.elim

theorem free_send {stmt : ManagementStmt} (free : Free stmt) :
    Within Free (send stmt) :=
  ⟨free, fun _ => trivial⟩

theorem free_signupTenant {clientId : String} :
    Within Free (signupTenant deployment clientId) := by
  unfold signupTenant
  split
  · refine Within.bind (Within.embed ?_) fun client => within_done
    refine (@uses_validateClient [.clients] deployment (.text clientId) .none
      (by decide)).mono fun stmt mem => ?_
    cases stmt with
    | client stmt => exact id
    | _ => cases List.mem_singleton.mp mem
  · exact within_done

attribute [local irreducible] SigningKeyManager.signToken in
theorem free_createInvitation {db : Connection} {readings : Readings}
    {principal : Principal} {request : InvitationRequest} :
    Within Free (createInvitation deployment db readings principal request) := by
  unfold createInvitation
  refine (free_send (by exact trivial)).bind fun existing => ?_
  split
  · exact within_done
  refine (free_send (by exact id)).bind fun existingUser => ?_
  split
  · exact within_done
  exact (free_send (by exact trivial)).bind fun _ => Within.bind within_done
    fun _ => within_done

theorem free_acceptInvitation {token : String} {now : Int} :
    Within Free (acceptInvitation deployment token now) := by
  unfold acceptInvitation
  split
  · exact Within.tryCatch (Within.bind within_done fun _ =>
        free_send (by exact trivial))
      fun _ => within_done
  · exact within_done

/-- Nothing is asked of a finished call. -/
abbrev anyEnd {α : Type} : Log → Except Exn α → Prop :=
  fun _ _ => True

theorem obeys_of_free {α : Type} {program : ManagementApp α} {log : Log}
    (free : Within Free program) :
    Obeys (guarded deployment call) (Answers (system deployment)) anyEnd program
      log :=
  (free.obeys guarded_of_free log).mono fun _ _ _ => trivial

theorem id_of_found {id : Option String} {row : InvitationRow}
    (answers : Answers (system deployment) (.invitation (.pending id))
      (.ok (some row))) : id = some row.id := by
  rcases answers with ⟨world, answered⟩ | ⟨error, -, ⟨⟩⟩
  obtain ⟨found, -⟩ := Option.filter_eq_some_iff.mp (Except.ok.inj answered)
  obtain ⟨invitationId, rfl, looked⟩ := Option.bind_eq_some_iff.mp found
  rw [(KeyedTable.lookup_eq_some.mp looked).2]

/-- A signup with a token has found an invitation with this subject, and has
not inserted a user. -/
def Found (call : InvitationCall) (log : Log) (tenantId role : Option String)
    (email : String) : Prop :=
  filled call.invitationToken = true →
    (∀ entry ∈ log, ¬ InsertsUser entry.1) ∧ ∃ row, HasFound log row ∧
      email = call.emailFor row ∧ tenantId = some row.tenantId ∧ role = row.role

/-- The subject of a signup is one it has found. -/
def subjectFound (call : InvitationCall) (log : Log)
    (result : Except Exn (Answer (Option String × Option String × String))) :
    Prop :=
  ∀ tenantId role email, result = .ok (.success (tenantId, role, email)) →
    Found call log tenantId role email

theorem not_insertsUser_of_free {stmt : ManagementStmt} (free : Free stmt) :
    ¬ InsertsUser stmt := by
  cases stmt with
  | core stmt => exact free
  | _ => exact id

section Signups

variable {readings : Readings} {request : SignupRequest} {invited : Bool}
variable (presents : call.invitationToken = request.invitationToken)
variable (decodes : call.decodedAt = readings.utcNow 0)
variable (emails : ∀ row : InvitationRow,
  (if invited then row.email else request.email) = call.emailFor row)

include presents decodes emails

theorem signupSubject_obeys :
    Obeys (guarded deployment call) (Answers (system deployment))
      (subjectFound call) (signupSubject deployment readings invited request)
      [] := by
  have raises {log : Log} {error : Exn} :
      subjectFound call log (.error error) := nofun
  unfold signupSubject
  refine (free_signupTenant.obeys guarded_of_free []).bind ?_
    fun _ _ _ => raises
  rintro - tenantId ⟨checks, rfl, checksFree⟩
  split
  case isFalse unfilled =>
    rintro _ _ _ - tokenFilled
    exact absurd (presents ▸ tokenFilled) unfilled
  case isTrue tokenFilled =>
    let read (log : Log) (outcome : Except Exn (Except Exn (Option InvitationRow))) :
        Prop := ∀ row, outcome = .ok (.ok (some row)) → HasFound log row ∧
          ∀ entry ∈ log, ¬ InsertsUser entry.1
    refine @Obeys.bind _ _ _ _ _ _ _ read _ _ _ _ ?_ ?_ fun _ _ _ => raises
    · refine @Obeys.tryCatch _ _ _ _ _ _ read _ _ _ _ ?_ (fun _ _ held => held)
        fun _ _ _ => nofun
      unfold signupInvitation
      rw [StatementTree.bind_assoc]
      refine Obeys.done_bind (fun payload decoded => ?_) fun _ _ => nofun
      refine Obeys.perform_bind ⟨by simpa using checksFree, presents ▸ tokenFilled,
        payload, ?_, rfl⟩ (fun found may => ?_) fun _ _ => nofun
      · rw [presents, decodes]
        exact decoded
      · intro row foundEq
        cases foundEq
        have named := id_of_found may
        refine ⟨by simp [HasFound, named], ?_⟩
        rintro entry (- | ⟨-, before⟩)
        · exact id
        · rw [List.append_nil] at before
          exact not_insertsUser_of_free (checksFree entry before)
    · intro log outcome held
      match outcome with
      | .error cause => exact nofun
      | .ok none => exact nofun
      | .ok (some row) =>
          rintro _ _ _ ⟨⟩ -
          obtain ⟨hasFound, notInserted⟩ := held row rfl
          exact ⟨notInserted, row, hasFound, emails row, rfl, rfl⟩

end Signups

attribute [local irreducible] SigningKeyManager.signToken in
theorem insertSignup_obeys {readings : Readings} {request : SignupRequest}
    {tenantId role : Option String} {email : String} {log : Log}
    (found : Found call log tenantId role email) :
    Obeys (guarded deployment call) (Answers (system deployment)) anyEnd
      (insertSignup deployment .owner readings (tenantId.getD "") email role
        request) log := by
  unfold insertSignup
  refine Obeys.perform_bind ?_ (fun _ _ => ?_) fun _ _ => trivial
  · intro tokenFilled
    obtain ⟨notInserted, row, hasFound, emailEq, rfl, roleEq⟩ := found tokenFilled
    exact ⟨notInserted, row, hasFound, emailEq, rfl, roleEq⟩
  · exact obeys_of_free (free_acceptInvitation.bind fun _ =>
      Within.bind within_done fun _ => within_done)

theorem obeys_lookup {tenantId role : Option String} {email : String}
    {log : Log} {stmt : UserStmt}
    {rest : stmt.Resp → ManagementApp (Answer (String × SignedToken))}
    (found : Found call log tenantId role email)
    (free : Free (.core (.user .owner stmt)))
    (after : ∀ existing log, Found call log tenantId role email →
      Obeys (guarded deployment call) (Answers (system deployment)) anyEnd
        (rest existing) log) :
    Obeys (guarded deployment call) (Answers (system deployment)) anyEnd
      (send (.core (.user .owner stmt)) >>= rest) log := by
  refine Obeys.perform_bind (guarded_of_free log _ free) (fun existing _ => ?_)
    fun _ _ => trivial
  refine after existing _ fun tokenFilled => ?_
  obtain ⟨notInserted, row, hasFound, subjectEq⟩ := found tokenFilled
  refine ⟨?_, row, List.mem_cons_of_mem _ hasFound, subjectEq⟩
  exact List.forall_mem_cons.mpr ⟨free, notInserted⟩

theorem signupSubmit_obeys (readings : Readings) (request : SignupRequest) :
    Obeys (guarded deployment (.submit readings request))
      (Answers (system deployment)) anyEnd
      (signupSubmit deployment .owner readings request) [] := by
  unfold signupSubmit
  split
  · exact obeys_of_free (free_signupTenant.bind fun _ => within_done)
  split
  · exact obeys_of_free (free_signupTenant.bind fun _ => within_done)
  refine (signupSubject_obeys rfl rfl fun _ => rfl).bind ?_ fun _ _ _ => trivial
  rintro log subject found
  cases subject with
  | failure status error message => trivial
  | success subject =>
      obtain ⟨tenantId, role, email⟩ := subject
      dsimp only
      split
      · trivial
      refine obeys_lookup (found tenantId role email rfl) id
        fun existing log found => ?_
      split
      · trivial
      · exact insertSignup_obeys found

theorem signupApi_obeys (readings : Readings) (request : SignupRequest) :
    Obeys (guarded deployment (.api readings request))
      (Answers (system deployment)) anyEnd
      (signupApi deployment .owner readings request) [] := by
  unfold signupApi
  refine (signupSubject_obeys rfl rfl fun _ => rfl).bind ?_ fun _ _ _ => trivial
  rintro log subject found
  cases subject with
  | failure status error message => trivial
  | success subject =>
      obtain ⟨tenantId, role, email⟩ := subject
      dsimp only
      split
      · trivial
      refine obeys_lookup (found tenantId role email rfl) id
        fun existing log found => ?_
      split
      · trivial
      split
      · trivial
      · exact insertSignup_obeys found

theorem program_obeys (call : InvitationCall) :
    Obeys (guarded deployment call) (Answers (system deployment)) anyEnd
      (call.program deployment) [] := by
  cases call with
  | create db readings principal request =>
      exact obeys_of_free (free_createInvitation.bind fun _ => within_done)
  | submit readings request =>
      exact (signupSubmit_obeys readings request).bind (fun _ _ _ => trivial)
        fun _ _ _ => trivial
  | api readings request =>
      exact (signupApi_obeys readings request).bind (fun _ _ _ => trivial)
        fun _ _ _ => trivial
  | revoke principal invitationId =>
      exact obeys_of_free (free_send (by exact trivial))

end Programs

/-! ## What a statement does -/

section Statements

variable {deployment : Deployment} {world : World} {call : InvitationCall}
variable {log : Log} {stmt : ManagementStmt}

/-- The invitation is in the table and can be accepted. -/
def IsPending (world : World) (row : InvitationRow) : Prop :=
  world.invitations.lookup row.id = some row ∧ row.pending world.now = true

/-- The tenant of the invitation has a user with its email. -/
def HasUser (world : World) (row : InvitationRow) : Prop :=
  ∃ user ∈ world.users, user.email = row.email ∧ user.tenantId = row.tenantId

theorem inserted_user {db : Connection} {user : UserRow}
    (inserted : (manage deployment (.core (.user db (.insert user))) world).1 =
      .ok ()) :
    (∀ held ∈ world.users, held.tenantId = user.tenantId →
      held.email ≠ user.email) ∧
    { user with lastModified := world.now } ∈
      (manage deployment (.core (.user db (.insert user))) world).2.users := by
  constructor
  · intro held heldMem sameTenant sameEmail
    change (UserStmt.perform deployment db world (.insert user)).1 = .ok ()
      at inserted
    simp only [UserStmt.perform] at inserted
    split at inserted
    case h_2 => cases inserted
    case h_1 users accepted =>
      simp only [require_bind_eq_ok] at accepted
      obtain ⟨-, -, -, free, -⟩ := accepted
      have selected := (@KeyedTable.mem_select _ _ _ world.users held
        (fun other => other.tenantId = user.tenantId && other.email = user.email)
        ).mpr ⟨heldMem, by simp [sameTenant, sameEmail]⟩
      rw [List.isEmpty_iff.mp free] at selected
      exact absurd selected List.not_mem_nil
  · rcases @TenantCoherence.perform_insert_user deployment world db user with
      ⟨-, added⟩ | ⟨⟨error, refused⟩, -⟩
    · exact (KeyedTable.mem_of_insert added).mpr (.inr rfl)
    · cases inserted.symm.trans refused

/-- No request removes or changes a user. -/
theorem mem_users_manage (allowed : guarded deployment call log stmt)
    {user : UserRow} (userMem : user ∈ world.users) :
    user ∈ (manage deployment stmt world).2.users := by
  cases stmt with
  | core stmt =>
      by_cases other : stmt.table = .users
      case neg =>
        change user ∈ (perform deployment stmt world).2.users
        rwa [users_perform deployment other]
      case pos =>
        cases stmt with
        | user db stmt =>
            cases stmt with
            | insert row =>
                rcases @TenantCoherence.perform_insert_user deployment world db
                  row with ⟨-, added⟩ | ⟨-, unchanged⟩
                · exact (KeyedTable.mem_of_insert added).mpr (.inl userMem)
                · rw [← unchanged] at userMem
                  exact userMem
            | _ => exact userMem
        | _ => cases other
  | invitation stmt => exact userMem
  | _ => exact allowed.elim

theorem isPending_manage (allowed : guarded deployment call log stmt)
    {row : InvitationRow} (isPending : IsPending world row)
    (accepts : ∀ id, stmt = .invitation (.accept (some id)) → row.id ≠ id)
    (revokes : ∀ id tenantId, stmt = .invitation (.deletePending id tenantId) →
      row.id = id → row.tenantId ≠ tenantId) :
    IsPending (manage deployment stmt world).2 row := by
  obtain ⟨rowMem, -⟩ := KeyedTable.lookup_eq_some.mp isPending.1
  have held (kept : row ∈ (manage deployment stmt world).2.invitations)
      (sameTime : (manage deployment stmt world).2.now = world.now) :
      IsPending (manage deployment stmt world).2 row :=
    ⟨KeyedTable.lookup_eq_some.mpr ⟨kept, rfl⟩, sameTime ▸ isPending.2⟩
  cases stmt with
  | core stmt =>
      refine held ?_ (now_perform deployment)
      have same := (@managed_perform deployment stmt world).2.2.2
      rw [← same] at rowMem
      exact rowMem
  | invitation stmt =>
      refine held ?_ rfl
      cases stmt with
      | pendingFor email tenantId => exact rowMem
      | pending id => exact rowMem
      | insert added =>
          change row ∈ (InvitationStmt.perform world (.insert added)).2
          simp only [InvitationStmt.perform]
          split
          case h_2 => exact rowMem
          case h_1 table accepted =>
            simp only [require_bind_eq_ok] at accepted
            obtain ⟨-, -, -, -, accepted⟩ := accepted
            split at accepted
            case h_2 => cases accepted
            case h_1 inserted =>
              cases accepted
              exact (KeyedTable.mem_of_insert inserted).mpr (.inl rowMem)
      | accept id =>
          refine (KeyedTable.mem_update
            (InvitationRow.accept_id world.now)).mpr ⟨row, rowMem, ?_⟩
          rw [if_neg]
          cases id with
          | none => simp
          | some id => simpa using accepts id rfl
      | deletePending id tenantId =>
          refine KeyedTable.mem_delete.mpr ⟨rowMem, ?_⟩
          have away := revokes id tenantId rfl
          simp only [Bool.and_eq_false_iff, decide_eq_false_iff_not]
          by_cases same : row.id = id
          · exact .inl (.inr (away same))
          · exact .inl (.inl same)
  | _ => exact allowed.elim

end Statements

/-! ## The invariant -/

section Invariant

variable {deployment : Deployment} {pool next : InvitationPool}

/-- What holds in every state of an undisturbed run. -/
structure Safe (deployment : Deployment) (pool : InvitationPool) : Prop where
  follows : Follows (system deployment) (guarded deployment) (fun _ => anyEnd)
    pool
  pending : ∀ row, Deciding pool row → IsPending pool.world row
  emails : ∀ id call row, pool.Holds id call → HasFound call.log row →
    call.request.emailFor row = row.email
  inserted : ∀ id call row, pool.Holds id call → HasFound call.log row →
    HasInserted call.log → HasUser pool.world row
  once : OneUserEach pool

theorem safe_init {world : World} : Safe deployment (.init world) where
  follows := follows_init
  pending _ := fun ⟨_, _, holds, _⟩ => absurd holds Pool.not_holds_init
  emails _ _ _ holds := absurd holds Pool.not_holds_init
  inserted _ _ _ holds := absurd holds Pool.not_holds_init
  once _ _ _ _ _ holds := absurd holds Pool.not_holds_init

/-- What a signup has found was named by its token. -/
theorem Safe.found (safe : Safe deployment pool) {id : Nat} {call : RunningCall}
    {row : InvitationRow} (holds : pool.Holds id call)
    (hasFound : HasFound call.log row) :
    filled call.request.invitationToken = true ∧
      call.request.Names deployment row.id := by
  have permitted := (safe.follows id call holds).1
  generalize call.log = log at hasFound permitted
  induction log with
  | nil => cases hasFound
  | cons entry earlier ih =>
      obtain ⟨stmt, answer⟩ := entry
      rcases List.mem_cons.mp hasFound with here | before
      · cases here
        obtain ⟨-, tokenFilled, named⟩ := permitted.1
        exact ⟨tokenFilled, named⟩
      · exact ih before permitted.2.2

/-- The invitation that an answer gives. -/
def answered : LogEntry ManagementStmt ManagementStmt.Resp Exn →
    Option InvitationRow
  | ⟨.invitation (.pending _), .ok found⟩ => found
  | _ => none

theorem found_unique {call : InvitationCall} {log : Log}
    {row other : InvitationRow}
    (permitted : Permitted (guarded deployment call) (Answers (system deployment))
      log) (hasFound : HasFound log row) (hasOther : HasFound log other) :
    row = other := by
  induction log with
  | nil => cases hasFound
  | cons entry earlier ih =>
      obtain ⟨stmt, answer⟩ := entry
      rcases List.mem_cons.mp hasFound with here | before <;>
      rcases List.mem_cons.mp hasOther with here' | before'
      · exact Option.some.inj (congrArg answered (here.trans here'.symm))
      · cases here
        exact absurd (permitted.1.1 _ before') id
      · cases here'
        exact absurd (permitted.1.1 _ before) id
      · exact ih permitted.2.2 before before'

/-- Who is deciding after a statement of a call: whoever was before, and the
call itself if it has just found an invitation. -/
theorem deciding_of_answered {id : Nat} {world : World} {stmt : ManagementStmt}
    {rest : Except Exn stmt.Resp → ManagementApp Unit}
    {answer : Except Exn stmt.Resp} {call : RunningCall} {row : InvitationRow}
    (holds : pool.Holds id call) (isNext : call.Next stmt)
    (deciding : Deciding (({ pool with world := world }).setCall id
      (call.answered stmt rest answer)) row) :
    Deciding pool row ∨ HasFound [⟨stmt, answer⟩] row := by
  obtain ⟨other, found, foundHolds, running, hasFound, notInserted⟩ := deciding
  rcases Pool.holds_setCall.mp foundHolds with ⟨rfl, rfl⟩ | ⟨-, foundHolds⟩
  · rcases List.mem_cons.mp hasFound with here | before
    · exact .inr (List.mem_singleton.mpr here)
    · exact .inl ⟨other, call, holds, isNext.running, before,
        fun entry entryMem => notInserted entry (List.mem_cons_of_mem _ entryMem)⟩
  · exact .inl ⟨other, found, foundHolds, running, hasFound, notInserted⟩

/-- An answer keeps the invariant if it leaves the invitations that others
decide on, finds a pending one with the email asked for, and inserts the first
user of the invitation. -/
theorem Safe.answered {id : Nat} {world : World} {stmt : ManagementStmt}
    {rest : Except Exn stmt.Resp → ManagementApp Unit}
    {answer : Except Exn stmt.Resp} {call : RunningCall}
    (safe : Safe deployment pool) (holds : pool.Holds id call)
    (isNext : call.Next stmt)
    (nextEq : next = ({ pool with world := world }).setCall id
      (call.answered stmt rest answer))
    (follows : Follows (system deployment) (guarded deployment)
      (fun _ => anyEnd) next)
    (keeps : ∀ row, Deciding pool row → IsPending world row)
    (users : ∀ user ∈ pool.world.users, user ∈ world.users)
    (finds : ∀ row, HasFound [⟨stmt, answer⟩] row → IsPending world row ∧
      call.request.emailFor row = row.email)
    (inserts : HasInserted [⟨stmt, answer⟩] → ∀ row, HasFound call.log row →
      HasUser world row ∧ ¬ HasUser pool.world row) :
    Safe deployment next := by
  have grows {row : InvitationRow} (hasUser : HasUser pool.world row) :
      HasUser world row := by
    obtain ⟨user, userMem, matched⟩ := hasUser
    exact ⟨user, users user userMem, matched⟩
  have permitted : Permitted (guarded deployment call.request)
      (Answers (system deployment)) (⟨stmt, answer⟩ :: call.log) := by
    subst nextEq
    exact (follows id _ (Pool.holds_setCall.mpr (.inl ⟨rfl, rfl⟩))).1
  subst nextEq
  -- a user of an invitation was inserted before, or just now
  have insertedBefore {other : Nat} {found : RunningCall} {row : InvitationRow}
      (foundHolds : (({ pool with world := world }).setCall id
        (call.answered stmt rest answer)).Holds other found)
      (hasFound : HasFound found.log row) (hasInserted : HasInserted found.log) :
      (∃ old, pool.Holds other old ∧ HasFound old.log row ∧
        HasInserted old.log) ∨
      (other = id ∧ HasFound call.log row ∧ HasInserted [⟨stmt, answer⟩]) := by
    rcases Pool.holds_setCall.mp foundHolds with ⟨rfl, rfl⟩ | ⟨-, oldHolds⟩
    case inr => exact .inl ⟨found, oldHolds, hasFound, hasInserted⟩
    obtain ⟨db, user, inserted⟩ := hasInserted
    rcases List.mem_cons.mp hasFound with here | before
    · cases here
      rcases List.mem_cons.mp inserted with insertedHere | earlier
      · cases insertedHere
      · exact absurd trivial (permitted.1.1 _ earlier)
    · rcases List.mem_cons.mp inserted with insertedHere | earlier
      · exact .inr ⟨rfl, before, db, user, List.mem_singleton.mpr insertedHere⟩
      · exact .inl ⟨call, holds, before, db, user, earlier⟩
  refine ⟨follows, ?_, ?_, ?_, ?_⟩
  · intro row deciding
    rcases deciding_of_answered holds isNext deciding with before | here
    · exact keeps row before
    · exact (finds row here).1
  · intro other found row foundHolds hasFound
    rcases Pool.holds_setCall.mp foundHolds with ⟨rfl, rfl⟩ | ⟨-, foundHolds⟩
    · rcases List.mem_cons.mp hasFound with here | before
      · exact (finds row (List.mem_singleton.mpr here)).2
      · exact safe.emails other call row holds before
    · exact safe.emails other found row foundHolds hasFound
  · intro other found row foundHolds hasFound hasInserted
    rcases insertedBefore foundHolds hasFound hasInserted with
      ⟨old, oldHolds, before, earlier⟩ | ⟨-, before, here⟩
    · exact grows (safe.inserted other old row oldHolds before earlier)
    · exact (inserts here row before).1
  · intro row first second firstCall secondCall holdsFirst holdsSecond foundFirst
      foundSecond insertedFirst insertedSecond
    rcases insertedBefore holdsFirst foundFirst insertedFirst with
      ⟨old, oldHolds, before, earlier⟩ | ⟨rfl, before, here⟩ <;>
    rcases insertedBefore holdsSecond foundSecond insertedSecond with
      ⟨old', oldHolds', before', earlier'⟩ | ⟨rfl, before', here'⟩
    · exact safe.once row first second old old' oldHolds oldHolds' before before'
        earlier earlier'
    · exact absurd (safe.inserted first old row oldHolds before earlier)
        (inserts here' row before').2
    · exact absurd (safe.inserted second old' row oldHolds' before' earlier')
        (inserts here row before).2
    · rfl

theorem Safe.inserts (safe : Safe deployment pool) {id : Nat}
    {call : RunningCall} {db : Connection} {user : UserRow}
    (holds : pool.Holds id call)
    (allowed : guarded deployment call.request call.log
      (.core (.user db (.insert user))))
    {row : InvitationRow} (hasFound : HasFound call.log row) :
    user.email = row.email ∧ user.tenantId = row.tenantId ∧
      user.role = row.role := by
  obtain ⟨-, found, foundIn, emailEq, tenantEq, roleEq⟩ :=
    allowed (safe.found holds hasFound).1
  have same := found_unique (safe.follows id call holds).1 foundIn hasFound
  subst same
  exact ⟨emailEq.trans (safe.emails id call found holds foundIn), tenantEq,
    roleEq⟩

theorem safe_advance {id : Nat} (safe : Safe deployment pool)
    (undisturbed : Undisturbed deployment pool (.advance id))
    (stepEq : step (system deployment) pool (.advance id) = some next) :
    Safe deployment next := by
  have follows := follows_step program_obeys _ safe.follows stepEq
  obtain ⟨call, stmt, rest, holds, alive, restEq, nextEq⟩ :=
    step_advance.mp stepEq
  have allowed : guarded deployment call.request call.log stmt :=
    safe.follows.allowed holds restEq
  have leaves := undisturbed call stmt holds ⟨alive, rest, restEq⟩
  refine safe.answered holds ⟨alive, rest, restEq⟩ nextEq follows ?_
    (fun _ => mem_users_manage allowed) ?_ ?_
  · intro row deciding
    refine isPending_manage allowed (safe.pending row deciding) ?_ ?_
    · rintro invitationId rfl
      exact leaves row deciding
    · rintro invitationId tenantId rfl
      exact leaves row deciding
  · intro row hasFound
    generalize answerEq : ((system deployment).perform stmt pool.world).1 = answer
      at hasFound
    cases List.mem_singleton.mp hasFound
    obtain ⟨looked, isPending⟩ :=
      Option.filter_eq_some_iff.mp (Except.ok.inj answerEq)
    exact ⟨⟨looked, isPending⟩, leaves row answerEq⟩
  · rintro ⟨db, user, inserted⟩ row hasFound
    generalize answerEq : ((system deployment).perform stmt pool.world).1 = answer
      at inserted
    cases List.mem_singleton.mp inserted
    obtain ⟨free, added⟩ := inserted_user answerEq
    obtain ⟨emailEq, tenantEq, -⟩ := safe.inserts holds allowed hasFound
    refine ⟨⟨_, added, emailEq, tenantEq⟩, ?_⟩
    rintro ⟨held, heldMem, sameEmail, sameTenant⟩
    exact free held heldMem (sameTenant.trans tenantEq.symm)
      (sameEmail.trans emailEq.symm)

theorem safe_step {event : InvitationEvent} (safe : Safe deployment pool)
    (undisturbed : Undisturbed deployment pool event)
    (stepEq : step (system deployment) pool event = some next) :
    Safe deployment next := by
  have follows := follows_step program_obeys event safe.follows stepEq
  cases event with
  | advance id => exact safe_advance safe undisturbed stepEq
  | start id request =>
      obtain ⟨-, rfl⟩ := step_start.mp stepEq
      refine ⟨follows, ?_, ?_, ?_, ?_⟩
      · rintro row ⟨other, found, holds, running, hasFound, notInserted⟩
        rcases Pool.holds_setCall.mp holds with ⟨-, rfl⟩ | ⟨-, holds⟩
        · cases hasFound
        · exact safe.pending row
            ⟨other, found, holds, running, hasFound, notInserted⟩
      · intro other found row holds hasFound
        rcases Pool.holds_setCall.mp holds with ⟨-, rfl⟩ | ⟨-, holds⟩
        · cases hasFound
        · exact safe.emails other found row holds hasFound
      · intro other found row holds hasFound
        rcases Pool.holds_setCall.mp holds with ⟨-, rfl⟩ | ⟨-, holds⟩
        · cases hasFound
        · exact safe.inserted other found row holds hasFound
      · intro row other another first second holdsFirst holdsSecond foundFirst
          foundSecond
        rcases Pool.holds_setCall.mp holdsFirst with ⟨-, rfl⟩ | ⟨-, holdsFirst⟩
        · cases foundFirst
        rcases Pool.holds_setCall.mp holdsSecond with ⟨-, rfl⟩ | ⟨-, holdsSecond⟩
        · cases foundSecond
        exact safe.once row other another first second holdsFirst holdsSecond
          foundFirst foundSecond
  | fail id error =>
      obtain ⟨call, stmt, rest, holds, alive, restEq, -, nextEq⟩ :=
        step_fail.mp stepEq
      refine safe.answered holds ⟨alive, rest, restEq⟩ nextEq follows safe.pending
        (fun _ userMem => userMem) ?_ ?_
      · intro row hasFound
        cases List.mem_singleton.mp hasFound
      · rintro ⟨db, user, inserted⟩
        cases List.mem_singleton.mp inserted
  | crash site => exact site.elim
  | change seconds =>
      obtain ⟨world, changed, rfl⟩ := step_change.mp stepEq
      cases Option.some.inj changed
      refine ⟨follows, fun row deciding => ?_, safe.emails, safe.inserted,
        safe.once⟩
      obtain ⟨looked, isPending⟩ := safe.pending row deciding
      have unexpired := undisturbed row deciding
      refine ⟨looked, ?_⟩
      simp only [InvitationRow.pending, Bool.and_eq_true, decide_eq_true_eq]
        at isPending ⊢
      exact ⟨isPending.1, unexpired⟩

theorem Safe.insertsInvited {event : InvitationEvent}
    (safe : Safe deployment pool) : InsertsInvited deployment pool event := by
  cases event with
  | advance id =>
      rintro call db user holds ⟨alive, rest, restEq⟩ tokenFilled -
      have allowed := safe.follows.allowed holds restEq
      obtain ⟨notInserted, row, hasFound, -⟩ := allowed tokenFilled
      have isNext : call.Next (.core (.user db (.insert user))) :=
        ⟨alive, rest, restEq⟩
      obtain ⟨looked, isPending⟩ := safe.pending row
        ⟨id, call, holds, isNext.running, hasFound, notInserted⟩
      exact ⟨row, (safe.found holds hasFound).2, looked, isPending,
        safe.inserts holds allowed hasFound⟩
  | _ => trivial

end Invariant

/-! ## The result -/

/-- In undisturbed interleavings every user of an invitation is the invited one,
its invitation is pending when the user is inserted, and it has no other. -/
theorem invited_of_undisturbed (deployment : Deployment) (world : World)
    (events : List InvitationEvent)
    (undisturbed : Along (step (system deployment)) (Undisturbed deployment)
      (.init world) events) :
    Along (step (system deployment)) (InsertsInvited deployment) (.init world)
        events ∧
      Always (step (system deployment)) OneUserEach (.init world) events := by
  have keeps (pool : InvitationPool) (event : InvitationEvent)
      (next : InvitationPool) (safe : Safe deployment pool)
      (undisturbed : Undisturbed deployment pool event)
      (stepEq : step (system deployment) pool event = some next) :
      Safe deployment next := safe_step safe undisturbed stepEq
  constructor
  · exact along_of_invariant keeps (fun _ _ safe _ => safe.insertsInvited)
      safe_init undisturbed
  · exact always_mono (fun _ safe => safe.once)
      (always_of_along keeps safe_init undisturbed)

/-! ## Signups for one invitation -/

/-- A tenant with an invitation for `new@t`. -/
def invited : World where
  tenants := .single { id := "t" }
  invitations := .single ⟨"i", "t", none, "new@t", some "member", none, 100, none⟩

/-- A deployment whose library knows the token of the invitation. -/
def withInvitation : Deployment :=
  .plain [("j.i", TokenService.invitationPayload 100 0 "i")]

/-- What a signup reads; its user has this id. -/
def readingsOf (userId : String) : Readings where
  utcNow _ := 0
  timeNs _ := 0
  secret _ := userId

/-- A signup with the token of the invitation and an email. -/
def signupOf (email : String) : SignupRequest where
  email := email
  password := "password"
  confirmPassword := "password"
  firstName := "N"
  lastName := "T"
  invitationToken := "j.i"

/-- Two signups through the form, one after the other. -/
def inTurn : List InvitationEvent :=
  [.start 0 (.submit (readingsOf "u0") (signupOf "any@t")), .advance 0,
    .advance 0, .advance 0, .advance 0,
    .start 1 (.submit (readingsOf "u1") (signupOf "any@t")), .advance 1]

theorem undisturbed_of_next {pool : InvitationPool} {id : Nat}
    {call : RunningCall} {stmt : ManagementStmt}
    {rest : Except Exn stmt.Resp → ManagementApp Unit} {deployment : Deployment}
    (holds : pool.Holds id call) (restEq : call.rest = .perform stmt rest)
    (leaves : Leaves deployment pool call.request stmt) :
    Undisturbed deployment pool (.advance id) := by
  intro found other foundHolds isNext
  obtain ⟨rfl, rfl⟩ := holds.next_unique restEq foundHolds isNext
  exact leaves

/-- The first signup makes the invited user, the second is refused. -/
theorem signups_in_turn_invited :
    Along (step (system withInvitation)) (InsertsInvited withInvitation)
        (.init invited) inTurn ∧
      Always (step (system withInvitation)) OneUserEach (.init invited)
        inTurn := by
  refine invited_of_undisturbed withInvitation invited inTurn ?_
  refine along_of_step rfl trivial (along_of_step rfl ?_ (along_of_step rfl ?_
    (along_of_step rfl ?_ (along_of_step rfl ?_ (along_of_step rfl trivial
      (along_of_step rfl ?_ (along_nil _)))))))
  · exact undisturbed_of_next rfl rfl fun row _ => rfl
  · exact undisturbed_of_next rfl rfl trivial
  · exact undisturbed_of_next rfl rfl trivial
  · refine undisturbed_of_next rfl rfl ?_
    rintro row ⟨id, call, holds, -, -, notInserted⟩ -
    cases id with
    | zero =>
        cases Pool.Holds.unique holds rfl
        exact notInserted _ List.mem_cons_self trivial
    | succ other =>
        have unused : (none : Option RunningCall) = some call := holds
        cases unused
  · exact undisturbed_of_next rfl rfl fun row _ => rfl

/-- `signup_api` makes a user with an email that was not invited. -/
theorem api_takes_other_email :
    ¬ (Along (step (system withInvitation)) (InsertsInvited withInvitation)
        (.init invited) [.start 0 (.api (readingsOf "u0") (signupOf "other@t")),
          .advance 0, .advance 0, .advance 0] ∧
      Always (step (system withInvitation)) OneUserEach (.init invited)
        [.start 0 (.api (readingsOf "u0") (signupOf "other@t")),
          .advance 0, .advance 0, .advance 0]) := by
  rintro ⟨along, -⟩
  have runs : exec (step (system withInvitation)) (.init invited)
      [.start 0 (.api (readingsOf "u0") (signupOf "other@t")),
        .advance 0, .advance 0] = some _ := rfl
  have atInsert : Along (step (system withInvitation)) (InsertsInvited withInvitation)
      _ [.advance 0] := along_rest along runs
  obtain ⟨row, named, looked, -, emailEq, -⟩ :=
    atInsert.1 _ _ _ rfl ⟨rfl, _, rfl⟩ rfl rfl
  obtain ⟨payload, decoded, names⟩ := named
  cases decoded
  rw [← Option.some.inj names] at looked
  cases looked
  exact absurd emailEq (by decide)

end InvitationUse

end HexIam
