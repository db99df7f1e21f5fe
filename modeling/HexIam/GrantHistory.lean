import HexIam.ClientAuthentication
import HexIam.RefreshRotation

/-!
# What token requests have issued

Token requests run one statement at a time, while everything else the service
does changes the database between their statements.  Only token requests write
`refresh_tokens`, so a row of that table keeps its user, tenant and client.
This file says what a request that was answered with tokens has put into them,
and where it took it from.
-/

namespace HexIam

open StatementTree CallPool GuardedRun TokenCalls

namespace GrantHistory

/-! ## Runs -/

/-- What other code does to the database: it leaves the refresh tokens alone. -/
structure OtherChange where
  apply : World → World
  keeps : ∀ world, (apply world).refreshTokens = world.refreshTokens

/-- Token requests over one database that other code changes as well.  Any
statement may fail. -/
def system (deployment : Deployment) :
    System Empty TokenCall Stmt Stmt.Resp Exn TokenResponse World OtherChange where
  site _ := none
  program call := postToken deployment call.readings call.request
  perform := perform deployment
  mayFail _ _ := true
  crash site _ := site.elim
  change other world := some (other.apply world)

abbrev GrantEvent := Event Empty TokenCall Exn OtherChange

/-- A request of the pool that was answered with tokens. -/
def Answered (pool : TokenPool) (call : TokenCall) (data : TokenData) : Prop :=
  ∃ id held, pool.Holds id held ∧ held.request = call ∧
    held.rest = .done (.ok (.tokens data))

/-! ## What an answer contains -/

/-- The client that the credentials of a request name. -/
def Names (deployment : Deployment) (call : TokenCall) (clientId : String) :
    Prop :=
  ∃ data, call.request.data = .ok data ∧
    (extractClientCredentials deployment call.request.authorization data).1 =
      .text clientId

/-- The request asks for this grant. -/
def AsksFor (call : TokenCall) (grantType : String) : Prop :=
  (call.field "grant_type").isText grantType = true

/-- A grant that starts a chain of refresh tokens. -/
def Starts (call : TokenCall) : Prop :=
  AsksFor call "authorization_code" ∨
    AsksFor call "urn:ietf:params:oauth:grant-type:token-exchange"

/-- The rows are of one token with one user, tenant and client. -/
def SameToken (first second : RefreshTokenRow) : Prop :=
  first.jti = second.jti ∧ first.userId = second.userId ∧
    first.tenantId = second.tenantId ∧ first.clientId = second.clientId

/-- The refresh token of an answer was inserted, for the user, tenant and
client of the access token. -/
structure Inserted (log : Log) (data : TokenData) (row : RefreshTokenRow) :
    Prop where
  inserted : (⟨.refreshToken (.insert row), .ok ()⟩ :
    LogEntry Stmt Stmt.Resp Exn) ∈ log
  refreshToken : data.refreshToken = some row.jti
  userId : data.accessToken.payload.userId = some row.userId
  tenantId : data.accessToken.payload.tenantId = some row.tenantId
  aud : data.accessToken.payload.aud = some (.one row.clientId)

/-- Where the tokens of an answer come from: a first grant, which gives a
scope; the row of a presented refresh token, which has none; or the client
itself. -/
inductive Source (call : TokenCall) (log : Log) (data : TokenData) : Prop
  | first (row : RefreshTokenRow) (starts : Starts call)
      (inserted : Inserted log data row)
      (scope : data.accessToken.payload.scope.isSome = true)
  | refreshed (row old : RefreshTokenRow)
      (asks : AsksFor call "refresh_token")
      (presents : call.field "refresh_token" = .text old.jti)
      (selected : (⟨.refreshToken (.validate (some old.jti) (some old.clientId)),
        .ok (some old)⟩ : LogEntry Stmt Stmt.Resp Exn) ∈ log)
      (inserted : Inserted log data row)
      (user : old.userId = row.userId) (tenant : old.tenantId = row.tenantId)
      (client : old.clientId = row.clientId)
      (scope : data.accessToken.payload.scope = none)
  | client (asks : AsksFor call "client_credentials")
      (refreshToken : data.refreshToken = none)

/-- What holds of the answer of a request, given its log. -/
def Attests (deployment : Deployment) (call : TokenCall) (log : Log)
    (result : Except Exn TokenResponse) : Prop :=
  ∀ data, result = .ok (.tokens data) →
    (∃ clientId, Names deployment call clientId ∧
      data.accessToken.payload.aud = some (.one clientId)) ∧
    Source call log data

/-! ## Rules -/

section Rules

variable {deployment : Deployment}
variable {answers : (stmt : Stmt) → Except Exn stmt.Resp → Prop}
variable {α β : Type} {log : Log}

/-- Every statement is allowed. -/
abbrev anyStmt : Log → Stmt → Prop :=
  fun _ _ => True

theorem world_of_answer {stmt : Stmt} {value : stmt.Resp}
    (may : Answers (system deployment) stmt (.ok value)) :
    ∃ world, (perform deployment stmt world).1 = .ok value := by
  rcases may with answered | ⟨error, -, ⟨⟩⟩
  exact answered

/-- The rule for a program of which only the length of its log matters. -/
theorem obeys_skip {program : App α} {continuation : α → App β}
    {post : Log → Except Exn β → Prop}
    (rest : ∀ value added, Obeys anyStmt answers post (continuation value)
      (added ++ log))
    (fails : ∀ log error, post log (.error error)) :
    Obeys anyStmt answers post (program >>= continuation) log := by
  have extendsLog : Obeys anyStmt answers
      (fun after _ => ∃ added, after = added ++ log ∧
        ∀ entry ∈ added, (fun _ => True) entry.1) program log :=
    (within_any program).obeys (fun _ _ _ => trivial) log
  refine extendsLog.bind ?_ fun log error _ => fails log error
  rintro after value ⟨added, rfl, -⟩
  exact rest value added

/-- A new refresh token is stored under the id that is returned. -/
theorem obeys_createRefreshToken {random userId tenantId clientId : String}
    {utcNow : Int} {continuation : String → App α}
    {post : Log → Except Exn α → Prop}
    (rest : ∀ row : RefreshTokenRow, row.userId = userId →
      row.tenantId = tenantId → row.clientId = clientId →
      Obeys anyStmt answers post (continuation row.jti)
        (⟨.refreshToken (.insert row), .ok ()⟩ :: log))
    (fails : ∀ log error, post log (.error error)) :
    Obeys anyStmt answers post
      (createRefreshToken random utcNow userId tenantId clientId >>=
        continuation) log := by
  unfold createRefreshToken
  rw [StatementTree.bind_assoc]
  refine obeys_ask_bind trivial (fun _ _ => ?_) fun error _ => fails _ error
  exact rest {
    jti := userId ++ "-refresh-" ++ random
    userId := userId
    tenantId := tenantId
    clientId := clientId
    expiresAt := utcNow + 604800
    revoked := false
    createdAt := 0 } rfl rfl rfl

/-- A client that passes its check has the id that the request presents. -/
theorem obeys_validateClient {clientId secret : PyValue}
    {continuation : Option ClientRow → App α} {post : Log → Except Exn α → Prop}
    (refused : ∀ added, Obeys anyStmt (Answers (system deployment)) post
      (continuation none) (added ++ log))
    (rest : ∀ client added, clientId = .text client.id →
      Obeys anyStmt (Answers (system deployment)) post
        (continuation (some client)) (added ++ log))
    (fails : ∀ log error, post log (.error error)) :
    Obeys anyStmt (Answers (system deployment)) post
      (validateClient deployment clientId secret >>= continuation) log := by
  unfold validateClient
  rw [StatementTree.bind_assoc]
  refine obeys_ofExcept_bind (fun id idEq => ?_) fun error _ => fails log error
  rw [StatementTree.bind_assoc]
  refine obeys_ask_bind trivial (fun found may => ?_) fun error _ => fails _ error
  cases found with
  | none => exact refused [_]
  | some client =>
      have named : clientId = .text client.id := by
        obtain ⟨world, answered⟩ := world_of_answer may
        obtain ⟨text, rfl, active⟩ := Option.bind_eq_some_iff.mp
          (Except.ok.inj answered)
        rw [ClientAuthentication.id_of_activeClient active]
        exact bindText_eq_some.mp idEq
      dsimp only
      split
      · rw [StatementTree.bind_assoc]
        refine obeys_ofExcept_bind (fun verified _ => ?_) fun error _ =>
          fails _ error
        cases verified with
        | false => exact refused [_]
        | true => exact rest client [_] named
      · exact rest client [_] named

theorem attests_error {call : TokenCall} (log : Log) (error : Exn) :
    Attests deployment call log (.error error) := by
  rintro data ⟨⟩

end Rules

/-! ## What each grant issues -/

section Grants

variable {deployment : Deployment} {db : Connection} {readings : Readings}
variable {client : ClientRow} {call : TokenCall}
variable {data : List (String × PyValue)} {log : Log}

/-- The end of a grant: the row that was inserted holds what the access token
says. -/
theorem attests_of_minted {payload : Claims} {timeNs : Nat} {tokens : TokenData}
    {row : RefreshTokenRow}
    (minted : deployment.tokens.createJwtToken payload timeNs =
      .ok tokens.accessToken)
    (names : Names deployment call row.clientId)
    (inserted : (⟨.refreshToken (.insert row), .ok ()⟩ :
      LogEntry Stmt Stmt.Resp Exn) ∈ log)
    (refresh : tokens.refreshToken = some row.jti)
    (userId : payload.userId = some row.userId)
    (tenantId : payload.tenantId = some row.tenantId)
    (aud : payload.aud = some (.one row.clientId))
    (source : Inserted log tokens row →
      tokens.accessToken.payload.scope = payload.scope → Source call log tokens) :
    Attests deployment call log (.ok (.tokens tokens)) := by
  obtain ⟨_, -, payloadEq, -⟩ := TokenService.createJwtToken_eq_ok minted
  have holds : Inserted log tokens row :=
    ⟨inserted, refresh, by rw [payloadEq, ← userId],
      by rw [payloadEq, ← tenantId], by rw [payloadEq, ← aud]⟩
  rintro other ⟨⟩
  exact ⟨⟨row.clientId, names, holds.aud⟩, source holds (by rw [payloadEq])⟩

theorem authorizationCodeGrant_attests {clientId : PyValue}
    (names : Names deployment call client.id)
    (asks : AsksFor call "authorization_code") :
    Obeys anyStmt (Answers (system deployment)) (Attests deployment call)
      (authorizationCodeGrant deployment db readings client clientId data)
      log := by
  unfold authorizationCodeGrant
  dsimp only
  split
  · rintro tokens ⟨⟩
  refine obeys_skip (fun found added => ?_) attests_error
  cases found with
  | none => rintro tokens ⟨⟩
  | some authCode =>
      refine obeys_ask_bind trivial (fun user _ => ?_) fun error _ =>
        attests_error _ error
      cases user with
      | none => rintro tokens ⟨⟩
      | some user =>
          refine obeys_skip (fun policies other => ?_) attests_error
          refine obeys_ofExcept_bind (fun accessToken minted => ?_) fun error _ =>
            attests_error _ error
          refine obeys_createRefreshToken (fun row userEq tenantEq clientEq => ?_)
            attests_error
          refine obeys_ofExcept_bind (fun idToken _ => ?_) fun error _ =>
            attests_error _ error
          refine attests_of_minted minted (clientEq.symm ▸ names)
            List.mem_cons_self rfl (congrArg some userEq.symm)
            (congrArg some tenantEq.symm) (by rw [clientEq]; rfl)
            fun inserted scopeEq => .first row (.inl asks) inserted ?_
          rw [scopeEq]
          rfl

theorem tokenExchangeGrant_attests (names : Names deployment call client.id)
    (asks : AsksFor call "urn:ietf:params:oauth:grant-type:token-exchange") :
    Obeys anyStmt (Answers (system deployment)) (Attests deployment call)
      (tokenExchangeGrant deployment db readings client data) log := by
  unfold tokenExchangeGrant
  dsimp only
  split
  · rintro tokens ⟨⟩
  split
  · rintro tokens ⟨⟩
  refine obeys_skip (fun resolved added => ?_) attests_error
  rcases resolved with cause | ⟨user, provider, claims⟩
  · rintro tokens ⟨⟩
  refine obeys_skip (fun policies other => ?_) attests_error
  refine obeys_ofExcept_bind (fun accessToken minted => ?_) fun error _ =>
    attests_error _ error
  refine obeys_createRefreshToken (fun row userEq tenantEq clientEq => ?_)
    attests_error
  split
  case h_1 => rintro tokens ⟨⟩
  case h_2 scope scopeEq =>
    refine obeys_ofExcept_bind (fun idToken _ => ?_) fun error _ =>
      attests_error _ error
    refine attests_of_minted minted (clientEq.symm ▸ names)
      List.mem_cons_self rfl (congrArg some userEq.symm)
      (congrArg some tenantEq.symm) (by rw [clientEq]; rfl)
      fun inserted same => .first row (.inr asks) inserted ?_
    rw [same]
    exact Option.isSome_of_eq_some scopeEq

theorem key_of_selected {jti clientId : Option String} {row : RefreshTokenRow}
    (may : Answers (system deployment) (.refreshToken (.validate jti clientId))
      (.ok (some row))) :
    jti = some row.jti ∧ clientId = some row.clientId := by
  obtain ⟨world, answered⟩ := world_of_answer may
  obtain ⟨found, passes⟩ := Option.filter_eq_some_iff.mp (Except.ok.inj answered)
  obtain ⟨text, rfl, held⟩ := Option.bind_eq_some_iff.mp found
  simp only [Bool.and_eq_true, decide_eq_true_eq] at passes
  exact ⟨congrArg some (KeyedTable.lookup_eq_some.mp held).2.symm,
    passes.1.1.symm⟩

theorem id_of_selectedUser {id : String} {user : UserRow}
    (may : Answers (system deployment) (.user db (.byId id)) (.ok (some user))) :
    user.id = id := by
  obtain ⟨world, answered⟩ := world_of_answer may
  obtain ⟨found, -⟩ := Option.filter_eq_some_iff.mp (Except.ok.inj answered)
  exact (KeyedTable.lookup_eq_some.mp found).2

theorem field_eq_get (dataEq : call.request.data = .ok data) (name : String) :
    call.field name = PyValue.get data name := by
  unfold TokenCall.field
  rw [dataEq]

theorem refreshTokenGrant_attests (dataEq : call.request.data = .ok data)
    (names : Names deployment call client.id)
    (asks : AsksFor call "refresh_token") :
    Obeys anyStmt (Answers (system deployment)) (Attests deployment call)
      (refreshTokenGrant deployment db readings client (.text client.id) data)
      log := by
  unfold refreshTokenGrant validateRefreshToken
  dsimp only
  split
  · rintro tokens ⟨⟩
  simp only [StatementTree.bind_assoc]
  refine obeys_ofExcept_bind (fun jti jtiEq => ?_) fun error _ =>
    attests_error _ error
  refine obeys_ofExcept_bind (fun boundClient clientEq => ?_) fun error _ =>
    attests_error _ error
  obtain rfl : some client.id = boundClient := Except.ok.inj clientEq
  refine obeys_ask_bind trivial (fun found may => ?_) fun error _ =>
    attests_error _ error
  cases found with
  | none => rintro tokens ⟨⟩
  | some old =>
      obtain ⟨rfl, sameClient⟩ := key_of_selected may
      rw [sameClient] at may ⊢
      have isClient : client.id = old.clientId := Option.some.inj sameClient
      have presents : call.field "refresh_token" = .text old.jti :=
        (field_eq_get dataEq _).trans (bindText_eq_some.mp jtiEq)
      refine obeys_ask_bind trivial (fun user mayUser => ?_) fun error _ =>
        attests_error _ error
      cases user with
      | none => rintro tokens ⟨⟩
      | some user =>
          have isUser : user.id = old.userId := id_of_selectedUser mayUser
          refine obeys_skip (fun _ revoking => ?_) attests_error
          refine obeys_skip (fun policies other => ?_) attests_error
          refine obeys_ofExcept_bind (fun accessToken minted => ?_) fun error _ =>
            attests_error _ error
          refine obeys_createRefreshToken (fun row userEq tenantEq clientEq => ?_)
            attests_error
          refine attests_of_minted minted (clientEq.symm ▸ names)
            List.mem_cons_self rfl (congrArg some userEq.symm)
            (congrArg some tenantEq.symm) (by rw [clientEq]; rfl)
            fun inserted scopeEq => .refreshed row old asks presents ?_ inserted
              (isUser.symm.trans userEq.symm) tenantEq.symm
              (isClient.symm.trans clientEq.symm) scopeEq
          simp

attribute [local irreducible] SigningKeyManager.signToken in
theorem clientCredentialsGrant_attests
    (names : Names deployment call client.id)
    (asks : AsksFor call "client_credentials") :
    Obeys anyStmt (Answers (system deployment)) (Attests deployment call)
      (clientCredentialsGrant deployment readings client) log := by
  unfold clientCredentialsGrant
  refine obeys_ofExcept_bind (fun accessToken minted => ?_) fun error _ =>
    attests_error _ error
  obtain ⟨_, -, payloadEq, -⟩ := TokenService.createJwtToken_eq_ok minted
  rintro tokens ⟨⟩
  exact ⟨⟨client.id, names, by rw [payloadEq]; rfl⟩, .client asks rfl⟩

/-- Whatever a request is answered with, its log attests. -/
theorem postToken_attests (call : TokenCall) :
    Obeys anyStmt (Answers (system deployment)) (Attests deployment call)
      ((system deployment).program call) [] := by
  show Obeys _ _ _ (postToken deployment call.readings call.request) []
  unfold postToken tokenEndpoint
  refine obeys_skip (fun db added => ?_) attests_error
  refine obeys_ofExcept_bind (fun data dataEq => ?_) fun error _ =>
    attests_error _ error
  refine obeys_validateClient (fun _ => ?_) (fun client other named => ?_)
    attests_error
  · rintro tokens ⟨⟩
  have names : Names deployment call client.id := ⟨data, dataEq, named⟩
  have asks {grantType : String}
      (isGrant : (PyValue.get data "grant_type").isText grantType = true) :
      AsksFor call grantType := by
    unfold AsksFor
    rwa [field_eq_get dataEq]
  dsimp only
  rw [named]
  unfold grant
  dsimp only
  split
  case isTrue isCode => exact authorizationCodeGrant_attests names (asks isCode)
  split
  case isTrue isRefresh =>
    exact refreshTokenGrant_attests dataEq names (asks isRefresh)
  split
  case isTrue isClient =>
    exact clientCredentialsGrant_attests names (asks isClient)
  split
  case isTrue isExchange =>
    exact tokenExchangeGrant_attests names (asks isExchange)
  · rintro tokens ⟨⟩

end Grants

/-! ## The invariant -/

section Invariant

variable {deployment : Deployment} {pool next : TokenPool}

/-- The statement has inserted the row or has selected it. -/
def Meets (entry : LogEntry Stmt Stmt.Resp Exn) (row : RefreshTokenRow) : Prop :=
  entry = ⟨.refreshToken (.insert row), .ok ()⟩ ∨
    ∃ jti clientId,
      entry = ⟨.refreshToken (.validate jti clientId), .ok (some row)⟩

/-- The table holds the token of the row. -/
def HoldsToken (world : World) (row : RefreshTokenRow) : Prop :=
  ∃ held ∈ world.refreshTokens, SameToken held row

/-- What holds in every state of a run: answers are attested, and every row
that a request has met is still stored with its user, tenant and client. -/
structure Kept (deployment : Deployment) (pool : TokenPool) : Prop where
  follows : Follows (system deployment) (fun _ => anyStmt)
    (Attests deployment) pool
  stored : ∀ id call entry row, pool.Holds id call → entry ∈ call.log →
    Meets entry row → HoldsToken pool.world row

theorem kept_init {world : World} : Kept deployment (.init world) where
  follows := follows_init
  stored _ _ _ _ holds := absurd holds Pool.not_holds_init

/-- No statement takes a token away or changes whose it is. -/
theorem holdsToken_perform (stmt : Stmt) {world : World} {row : RefreshTokenRow}
    (holds : HoldsToken world row) :
    HoldsToken (perform deployment stmt world).2 row := by
  obtain ⟨held, heldMem, same⟩ := holds
  obtain ⟨after, afterMem, rfl | rfl⟩ :=
    RefreshRotation.row_kept_or_revoked deployment stmt heldMem
  · exact ⟨_, afterMem, same⟩
  · exact ⟨_, afterMem, same⟩

/-- The row that a statement inserts or selects is in the table after it. -/
theorem holdsToken_of_meets {stmt : Stmt} {world : World} {row : RefreshTokenRow}
    (meets : Meets ⟨stmt, (perform deployment stmt world).1⟩ row) :
    HoldsToken (perform deployment stmt world).2 row := by
  rcases meets with inserts | ⟨jti, clientId, selects⟩
  · obtain ⟨rfl, answered⟩ := Sigma.mk.inj inserts
    have inserted := RefreshTokenStmt.insert_of_ok (eq_of_heq answered)
    exact ⟨_, (KeyedTable.mem_of_insert inserted).mpr (.inr rfl), rfl, rfl, rfl,
      rfl⟩
  · obtain ⟨rfl, answered⟩ := Sigma.mk.inj selects
    obtain ⟨found, -⟩ :=
      Option.filter_eq_some_iff.mp (Except.ok.inj (eq_of_heq answered))
    obtain ⟨text, -, held⟩ := Option.bind_eq_some_iff.mp found
    exact ⟨row, (KeyedTable.lookup_eq_some.mp held).1, rfl, rfl, rfl, rfl⟩

theorem kept_start {id : Nat} {request : TokenCall} (kept : Kept deployment pool)
    (stepEq : step (system deployment) pool (.start id request) = some next) :
    Kept deployment next := by
  have follows := follows_step postToken_attests _ kept.follows stepEq
  obtain ⟨-, rfl⟩ := step_start.mp stepEq
  refine ⟨follows, fun other call entry row holds entryMem meets => ?_⟩
  rcases Pool.holds_setCall.mp holds with ⟨-, rfl⟩ | ⟨-, holds⟩
  · cases entryMem
  · exact kept.stored other call entry row holds entryMem meets

theorem kept_advance {id : Nat} (kept : Kept deployment pool)
    (stepEq : step (system deployment) pool (.advance id) = some next) :
    Kept deployment next := by
  have follows := follows_step postToken_attests _ kept.follows stepEq
  obtain ⟨call, stmt, rest, holds, -, -, worldEq, holdsNext⟩ :=
    effect_of_advance stepEq
  have worldEq : next.world = (perform deployment stmt pool.world).2 := worldEq
  refine ⟨follows, fun other found entry row foundHolds entryMem meets => ?_⟩
  rw [worldEq]
  rcases (holdsNext _ _).mp foundHolds with ⟨-, rfl⟩ | ⟨-, before⟩
  · rcases List.mem_cons.mp entryMem with rfl | earlier
    · exact holdsToken_of_meets meets
    · exact holdsToken_perform stmt
        (kept.stored id call entry row holds earlier meets)
  · exact holdsToken_perform stmt
      (kept.stored other found entry row before entryMem meets)

theorem kept_fail {id : Nat} {error : Exn} (kept : Kept deployment pool)
    (stepEq : step (system deployment) pool (.fail id error) = some next) :
    Kept deployment next := by
  have follows := follows_step postToken_attests _ kept.follows stepEq
  obtain ⟨call, stmt, rest, holds, -, -, -, rfl⟩ := step_fail.mp stepEq
  refine ⟨follows, fun other found entry row foundHolds entryMem meets => ?_⟩
  rcases Pool.holds_setCall.mp foundHolds with ⟨-, rfl⟩ | ⟨-, before⟩
  · rcases List.mem_cons.mp entryMem with rfl | earlier
    · rcases meets with impossible | ⟨_, _, impossible⟩ <;>
        · obtain ⟨rfl, answered⟩ := Sigma.mk.inj impossible
          cases eq_of_heq answered
    · exact kept.stored id call entry row holds earlier meets
  · exact kept.stored other found entry row before entryMem meets

theorem kept_change {other : OtherChange} (kept : Kept deployment pool)
    (stepEq : step (system deployment) pool (.change other) = some next) :
    Kept deployment next := by
  have follows := follows_step postToken_attests _ kept.follows stepEq
  obtain ⟨world, changed, rfl⟩ := step_change.mp stepEq
  obtain rfl : other.apply pool.world = world := Option.some.inj changed
  refine ⟨follows, fun id call entry row holds entryMem meets => ?_⟩
  obtain ⟨held, heldMem, same⟩ :=
    kept.stored id call entry row holds entryMem meets
  exact ⟨held, (other.keeps pool.world).symm ▸ heldMem, same⟩

theorem kept_step (event : GrantEvent) (kept : Kept deployment pool)
    (stepEq : step (system deployment) pool event = some next) :
    Kept deployment next := by
  cases event with
  | start id request => exact kept_start kept stepEq
  | advance id => exact kept_advance kept stepEq
  | fail id error => exact kept_fail kept stepEq
  | crash site => exact site.elim
  | change other => exact kept_change kept stepEq

/-- In every state that a run reaches, answers are attested and rows kept. -/
theorem kept_of_run {world : World} {events : List GrantEvent}
    (runs : exec (step (system deployment)) (.init world) events = some pool) :
    Kept deployment pool :=
  invariant (fun _ event _ kept stepEq => kept_step event kept stepEq) kept_init
    runs

/-- The tokens of an answered request are attested by what it has logged. -/
theorem Kept.source (kept : Kept deployment pool) {call : TokenCall}
    {data : TokenData} (answered : Answered pool call data) :
    (∃ clientId, Names deployment call clientId ∧
      data.accessToken.payload.aud = some (.one clientId)) ∧
    ∃ id held, pool.Holds id held ∧ Source call held.log data := by
  obtain ⟨id, held, holds, rfl, ended⟩ := answered
  obtain ⟨names, source⟩ := kept.follows.ended holds ended data rfl
  exact ⟨names, id, held, holds, source⟩

/-- Two rows that requests have met under one id are of one token. -/
theorem Kept.sameToken (kept : Kept deployment pool) {first second : Nat}
    {firstCall secondCall : Call TokenCall Stmt Stmt.Resp Exn TokenResponse}
    {firstEntry secondEntry : LogEntry Stmt Stmt.Resp Exn}
    {firstRow secondRow : RefreshTokenRow}
    (holdsFirst : pool.Holds first firstCall) (inFirst : firstEntry ∈ firstCall.log)
    (meetsFirst : Meets firstEntry firstRow)
    (holdsSecond : pool.Holds second secondCall)
    (inSecond : secondEntry ∈ secondCall.log)
    (meetsSecond : Meets secondEntry secondRow)
    (sameJti : firstRow.jti = secondRow.jti) : SameToken firstRow secondRow := by
  obtain ⟨held, heldMem, jtiEq, userEq, tenantEq, clientEq⟩ :=
    kept.stored _ _ _ _ holdsFirst inFirst meetsFirst
  obtain ⟨other, otherMem, otherJti, otherUser, otherTenant, otherClient⟩ :=
    kept.stored _ _ _ _ holdsSecond inSecond meetsSecond
  obtain rfl : held = other := KeyedTable.eq_of_key_eq heldMem otherMem
    (jtiEq.trans (sameJti.trans otherJti.symm))
  exact ⟨sameJti, userEq.symm.trans otherUser, tenantEq.symm.trans otherTenant,
    clientEq.symm.trans otherClient⟩

end Invariant

end GrantHistory

end HexIam
