import HexIam.LogoutEffect
import HexIam.OnboardedSignIn
import HexIam.RevocationEnforcement

/-!
# The end of a session at `/oidc/logout`

`end_session` takes a user and a tenant from the token of the hint, else from
that of the session cookie, revokes all sessions they have, and redirects the
browser.  A failure of the revocation is logged and dropped, so the answer says
nothing of it.  This file shows that there is nothing to drop: with the token of
a login, whatever becomes of the calls to Redis, the ids of all sessions of the
user are in the filter of the worker afterwards and their rows are revoked, and
no request on a checked path is served for one of them.
-/

namespace HexIam

open GuardedRun StatementTree

/-! ## The endpoint -/

/-- What `end_session` and its connection read of a request. -/
structure EndSessionRequest where
  tenantHeader : Option String := none
  queryClientId : Option String := none
  formClientId : PyValue := .none
  idTokenHint : Option String := none
  postLogoutRedirectUri : Option String := none
  state : Option String := none
  cookie : Option String := none

/-- A redirect that deletes a cookie. -/
structure EndSessionResponse where
  url : String
  statusCode : Nat := 302
  deletedCookie : String := "hex_iam_session"
  deriving DecidableEq, Repr

namespace EndSessionRequest

variable (request : EndSessionRequest)

/-- The user and the tenant of the token of the hint. -/
def hinted (tokens : TokenService) (now : Int) : Option String × Option String :=
  if given request.idTokenHint then
    match tokens.decodeJwtToken (request.idTokenHint.getD "") now true with
    | .ok payload => (orElse payload.userId payload.sub, payload.tenantId)
    | .error _ => (none, none)
  else (none, none)

/-- The user and the tenant that a request ends the sessions of.  The claims of
the cookie replace those of a hint without a user. -/
def subject (tokens : TokenService) (readings : Readings) :
    Option String × Option String :=
  let found := request.hinted tokens (readings.utcNow 0)
  if !given found.1 && given request.cookie then
    match tokens.decodeJwtToken (request.cookie.getD "") (readings.utcNow 1)
        true with
    | .ok payload => (payload.userId, payload.tenantId)
    | .error _ => found
  else found

/-- Where the browser goes from there. -/
def redirectUrl : String :=
  let uri := request.postLogoutRedirectUri.getD ""
  if given request.state && filled uri then
    uri ++ (if occursIn "?" uri then "&" else "?") ++ "state=" ++
      request.state.getD ""
  else if filled uri then uri
  else "/"

end EndSessionRequest

/-- `end_session`. -/
def endSession (deployment : Deployment) (worker : Nat) (readings : Readings)
    (request : EndSessionRequest) : App EndSessionResponse := do
  let (userId, tenantId) := request.subject deployment.tokens readings
  if given userId && given tenantId then
    tryCatch
      (do let _ ← revokeAllSessions worker (userId.getD "") (tenantId.getD "")
            "oidc_logout" none)
      fun _ => return ()
  return { url := request.redirectUrl }

/-- A request of `end_session`, with the dependency that gives it a
connection. -/
def requestEndSession (deployment : Deployment) (worker : Nat)
    (readings : Readings) (request : EndSessionRequest) :
    App EndSessionResponse := do
  let _ ← getDatabasePool request.tenantHeader request.queryClientId
    request.formClientId
  endSession deployment worker readings request

namespace EndSession

open LogoutCoverage SessionRevocation
open LogoutEffect (isNetwork)

/-! ## A logout whose calls may fail -/

section Lossy

variable {deployment : Deployment} {worker : Nat}
variable {userId tenantId reason : String}

/-- Afterwards the filter has these ids and what it had before; the sessions are
as before. -/
structure Marks (worker : Nat) (jtis : List String) (before after : World) :
    Prop where
  bloom : ∀ jti, jti ∈ after.bloom worker ↔
    jti ∈ jtis ∨ jti ∈ before.bloom worker
  sessions : after.userSessions = before.userSessions

theorem Marks.trans {first second : List String} {before middle after : World}
    (start : Marks worker first before middle)
    (rest : Marks worker second middle after) :
    Marks worker (first ++ second) before after where
  bloom jti := by
    rw [rest.bloom, start.bloom, List.mem_append, or_left_comm, or_assoc]
  sessions := rest.sessions.trans start.sessions

theorem Marks.xadd {jtis : List String} {before middle after : World}
    (marks : Marks worker jtis before middle) {jti : Option String}
    (moved : after = middle ∨
      after = (perform deployment (.redis (.xadd jti userId tenantId reason))
        middle).2) :
    Marks worker jtis before after := by
  rcases moved with rfl | rfl
  · exact marks
  · cases jti with
    | none => exact marks
    | some jti => exact ⟨marks.bloom, marks.sessions⟩

theorem Marks.publish {jtis : List String} {before middle after : World}
    (marks : Marks worker jtis before middle) {jti : String}
    (moved : after = middle ∨
      after = (perform deployment (.redis (.publish (some jti))) middle).2) :
    Marks worker jtis before after := by
  rcases moved with rfl | rfl
  · exact marks
  · have same : (middle.publish jti).bloom worker = middle.bloom worker :=
      bloom_publish jti
    exact ⟨fun other => same ▸ marks.bloom other, marks.sessions⟩

/-- `revoke_token` adds its id, whatever becomes of its calls. -/
theorem gives_revokeToken (jti : String)
    (state : List (Delivery Exn) × World) :
    Gives (lossy isNetwork (perform deployment))
      (revokeToken worker (some jti) userId tenantId reason) state
      fun _ after => Marks worker [jti] state.2 after.2 := by
  obtain ⟨deliveries, world⟩ := state
  have added : Marks worker [jti] world (world.bloomAdd worker jti) := by
    refine ⟨fun other => ?_, rfl⟩
    simp [World.bloom, World.bloomAdd]
  have asked : run (lossy isNetwork (perform deployment))
      (ask (.redis (.bloomAdd worker (some jti)))) (deliveries, world) =
      (.ok (), deliveries, world.bloomAdd worker jti) := rfl
  unfold revokeToken
  rw [gives_bind, gives_of_run asked, gives_bind]
  refine gives_lossy fun streamed later middle moved => ?_
  have kept := added.xadd moved
  have published (streamOk : Bool) : Gives (lossy isNetwork (perform deployment))
      (do tryCatch (ask (.redis (.publish (some jti)))) fun _ => return ()
          return streamOk : App Bool) (later, middle)
      fun _ after => Marks worker [jti] world after.2 := by
    rw [gives_bind]
    refine gives_lossy fun answer rest after movedAgain => ?_
    have stays := kept.publish movedAgain
    cases answer <;> exact ⟨_, rfl, _, rfl, stays⟩
  cases streamed with
  | ok answer => exact ⟨_, rfl, published true⟩
  | error error => exact ⟨_, rfl, published false⟩

theorem gives_revokeUserTokens (jtis : List String)
    (state : List (Delivery Exn) × World) :
    Gives (lossy isNetwork (perform deployment))
      (revokeUserTokens worker userId tenantId reason jtis) state
      fun _ after => Marks worker jtis state.2 after.2 := by
  induction jtis generalizing state with
  | nil =>
      have nothing : Marks worker [] state.2 state.2 := ⟨by simp, rfl⟩
      exact ⟨0, rfl, nothing⟩
  | cons jti rest ih =>
      unfold revokeUserTokens
      rw [gives_bind]
      refine (gives_revokeToken jti state).mono fun streamOk middle start => ?_
      rw [gives_bind]
      refine (ih middle).mono fun count after marks => ?_
      exact ⟨_, rfl, start.trans marks⟩

/-- What a logout leaves of the sessions of a user: the ids of the active ones
are in the filter, and every row is revoked with such an id or is an old one
that was not active. -/
structure Ended (worker : Nat) (userId tenantId : String)
    (before after : World) : Prop where
  bloom : ∀ jti, jti ∈ after.bloom worker ↔
    jti ∈ activeJtis before userId tenantId ∨ jti ∈ before.bloom worker
  sessions : ∀ row ∈ after.userSessions,
    (row ∈ before.userSessions ∧ ¬ ActiveOf userId tenantId row) ∨
      (row.jti ∈ activeJtis before userId tenantId ∧
        row.revokedAt.isSome = true)

/-- `revoke_all_sessions` returns and ends the sessions, whatever becomes of its
calls. -/
theorem gives_revokeAllSessions (state : List (Delivery Exn) × World) :
    Gives (lossy isNetwork (perform deployment))
      (revokeAllSessions worker userId tenantId reason none) state
      fun _ after => Ended worker userId tenantId state.2 after.2 := by
  obtain ⟨deliveries, world⟩ := state
  have asked : run (lossy isNetwork (perform deployment))
      (ask (.session (.ofUser userId tenantId none))) (deliveries, world) =
      (.ok (activeJtis world userId tenantId), deliveries, world) := rfl
  unfold revokeAllSessions
  rw [Option.filter_none, gives_bind, gives_of_run asked]
  split
  case isTrue noRows =>
    have noneActive := List.isEmpty_iff.mp noRows
    refine ⟨0, rfl, by simp [noneActive], fun row rowMem => ?_⟩
    exact .inl ⟨rowMem, not_activeOf rowMem noneActive⟩
  case isFalse =>
    rw [gives_bind]
    refine (gives_revokeUserTokens _ (deliveries, world)).mono
      fun count middle marks => ?_
    obtain ⟨later, between⟩ := middle
    let revoked := between.userSessions.revokeWhere
      (SessionRow.isOfUser userId tenantId none) between.now reason
    have updated : run (lossy isNetwork (perform deployment))
        (ask (.session (.revokeOfUser userId tenantId reason none)))
        (later, between) =
        (.ok revoked.1, later, { between with userSessions := revoked.2 }) := rfl
    rw [gives_bind, gives_of_run updated]
    refine ⟨_, rfl, marks.bloom, fun row rowMem => ?_⟩
    have sameSessions : between.userSessions = world.userSessions := marks.sessions
    have ofTable : row ∈ revoked.2 := rowMem
    simp only [revoked, sameSessions] at ofTable
    exact old_or_revoked ofTable

end Lossy

/-! ## Requests with a token -/

/-- A request presents a token of a user: as the hint, where an ID token names
the user as its `sub`, or as the cookie, where the hint names nobody. -/
def Presents (tokens : TokenService) (readings : Readings)
    (request : EndSessionRequest) (token : String) (payload : Claims)
    (userId : String) : Prop :=
  request.idTokenHint = some token ∧
      orElse payload.userId payload.sub = some userId ∨
    given (request.hinted tokens (readings.utcNow 0)).1 = false ∧
      request.cookie = some token ∧ payload.userId = some userId

/-- What becomes of a request, and the world after it. -/
def outcome (deployment : Deployment) (worker : Nat) (readings : Readings)
    (request : EndSessionRequest) (deliveries : List (Delivery Exn))
    (world : World) : Except Exn EndSessionResponse × World :=
  runLossy isNetwork (perform deployment)
    (requestEndSession deployment worker readings request) deliveries world

/-- The tenant of the header, or of a client that the request names, gives it a
connection. -/
def Connects (deployment : Deployment) (request : EndSessionRequest)
    (world : World) : Prop :=
  ∃ db, (App.run deployment (getDatabasePool request.tenantHeader
    request.queryClientId request.formClientId) world).1 = .ok db

section Request

variable {deployment : Deployment} {worker : Nat} {readings : Readings}
variable {request : EndSessionRequest} {token userId tenantId : String}
variable {payload : Claims} {deliveries : List (Delivery Exn)} {world : World}

/-- The dependency reads the table of clients only, which is no call to Redis. -/
theorem run_getDatabasePool (tenantHeader queryClientId : Option String)
    (formClientId : PyValue) :
    run (lossy isNetwork (perform deployment))
        (getDatabasePool tenantHeader queryClientId formClientId)
        (deliveries, world) =
      ((App.run deployment (getDatabasePool tenantHeader queryClientId
        formClientId) world).1, deliveries, world) := by
  have uses : Uses [.clients]
      (getDatabasePool tenantHeader queryClientId formClientId) :=
    uses_getDatabasePool List.mem_cons_self
  have isClient (stmt : Stmt) (used : stmt.table ∈ [Table.clients]) :
      ∃ query, stmt = .client query := by
    cases stmt with
    | client query => exact ⟨query, rfl⟩
    | _ => simp [Stmt.table] at used
  have calls : Within (fun stmt => isNetwork stmt = false)
      (getDatabasePool tenantHeader queryClientId formClientId) := by
    refine uses.mono fun stmt used => ?_
    obtain ⟨query, rfl⟩ := isClient stmt used
    rfl
  have reads (stmt : Stmt) (before : World) (used : stmt.table ∈ [Table.clients])
      (same : before = world) : (perform deployment stmt before).2 = world := by
    obtain ⟨query, rfl⟩ := isClient stmt used
    exact same
  have unmoved := uses.run_preserves reads rfl
  rw [calls.run_lossy, unmoved]
  rfl

theorem subject_of_presents
    (presents : Presents deployment.tokens readings request token payload userId)
    (reads : ∀ index, deployment.tokens.decodeJwtToken token
      (readings.utcNow index) true = .ok payload)
    (hasUser : filled userId = true)
    (tenantEq : payload.tenantId = some tenantId) :
    request.subject deployment.tokens readings = (some userId, some tenantId) := by
  have hasToken := TokenService.filled_of_decodeJwtToken (reads 0)
  rcases presents with ⟨hinted, named⟩ | ⟨unnamed, inCookie, userEq⟩
  · have found : request.hinted deployment.tokens (readings.utcNow 0) =
        (some userId, some tenantId) := by
      simp [EndSessionRequest.hinted, hinted, given, hasToken, reads, named,
        tenantEq]
    simp [EndSessionRequest.subject, found, given, hasUser]
  · have hasCookie : given (some token) = true := hasToken
    simp [EndSessionRequest.subject, unnamed, hasCookie, inCookie, reads, userEq,
      tenantEq]

theorem gives_endSession {state : List (Delivery Exn) × World}
    (subjectEq : request.subject deployment.tokens readings =
      (some userId, some tenantId))
    (hasUser : filled userId = true) (hasTenant : filled tenantId = true) :
    Gives (lossy isNetwork (perform deployment))
      (endSession deployment worker readings request) state
      fun answer after => answer = { url := request.redirectUrl } ∧
        Ended worker userId tenantId state.2 after.2 := by
  unfold endSession
  simp only [subjectEq, given, hasUser, hasTenant, Bool.and_self, if_true,
    Option.getD_some]
  rw [gives_bind, gives_tryCatch]
  refine .inl ?_
  rw [gives_bind]
  exact (gives_revokeAllSessions state).mono fun _ _ ended =>
    ⟨(), rfl, _, rfl, rfl, ended⟩

/-- With a token of the user, whatever becomes of the calls to Redis, the answer
is the redirect and the sessions have ended. -/
theorem outcome_of_presents (connects : Connects deployment request world)
    (presents : Presents deployment.tokens readings request token payload userId)
    (reads : ∀ index, deployment.tokens.decodeJwtToken token
      (readings.utcNow index) true = .ok payload)
    (hasUser : filled userId = true)
    (tenantEq : payload.tenantId = some tenantId)
    (hasTenant : filled tenantId = true) :
    let out := outcome deployment worker readings request deliveries world
    out.1 = .ok { url := request.redirectUrl } ∧
      Ended worker userId tenantId world out.2 := by
  have subjectEq := subject_of_presents presents reads hasUser tenantEq
  obtain ⟨answer, answered, rfl, ended⟩ := @gives_endSession deployment worker
    readings request userId tenantId (deliveries, world) subjectEq hasUser hasTenant
  obtain ⟨db, pool⟩ := connects
  have connected := @run_getDatabasePool deployment deliveries world
    request.tenantHeader request.queryClientId request.formClientId
  rw [pool] at connected
  unfold outcome runLossy requestEndSession
  rw [run_bind_of_ok _ connected]
  exact ⟨answered, ended⟩

end Request

/-! ## The sessions of logins -/

section Logins

variable {deployment : Deployment} {before : World} {login : IssueRequest}
variable {claims : Claims} {events : List IssueEvent} {state : IssueState}

/-- The session of a login stays in the table as requests follow. -/
theorem recorded_of_run (isLogin : login.isLogin)
    (issued : claims ∈ login.issues deployment before)
    (new : ∀ row ∈ before.userSessions, some row.jti ≠ claims.jti)
    (runs : exec (issueStep deployment)
      ⟨(App.run deployment (login.program deployment) before).2, []⟩ events =
        some state) :
    Recorded state.world claims := by
  have start := recorded_of_login isLogin issued new
  have keeps (state : IssueState) (event : IssueEvent) (next : IssueState)
      (recorded : Recorded state.world claims)
      (stepEq : issueStep deployment state event = some next) :
      Recorded next.world claims := by
    cases event with
    | wait seconds =>
        cases stepEq
        exact recorded
    | request request =>
        cases stepEq
        exact recorded.mono (grows_request request)
  exact invariant keeps start runs

end Logins

/-- A logout ends every session that logins of the user opened.  The token it is
given is any one of the user, an ID token as well, as the hint or the cookie,
under whichever keys still have its own, and any requests that issue tokens may
have come between the login and the logout.  Whatever becomes of the calls to
Redis, the browser is redirected, the sessions have ended, and however the worker
goes on, no request on a checked path is served for the token of the login. -/
theorem end_session_ends_logins {keyed : KeyedDeployment}
    {opening signing ending : Keyset} {worker : Nat} {readings : Readings}
    {request : EndSessionRequest} {deliveries : List (Delivery Exn)}
    {payload : Claims} {timeNs : Nat} {token : SignedToken}
    {userId tenantId jti : String} {login : IssueRequest} {before : World}
    {claims : Claims} {events : List IssueEvent} {state : IssueState}
    (holds : ∀ keys ∈ [signing, ending], keyed.Holds keys)
    (keeps : keyed.Keeps signing ending)
    (minted : (keyed.under signing).tokens.createJwtToken payload timeNs =
      .ok token)
    (hasUser : filled userId = true) (tenantEq : payload.tenantId = some tenantId)
    (hasTenant : filled tenantId = true)
    (unexpired : ∀ exp ∈ payload.exp, ∀ index, readings.utcNow index < exp)
    (started : ∀ iat ∈ payload.iat, ∀ index, iat ≤ readings.utcNow index)
    (presents : Presents (keyed.under ending).tokens readings request token.compact
      payload userId)
    (isLogin : login.isLogin)
    (issued : claims ∈ login.issues (keyed.under opening) before)
    (new : ∀ row ∈ before.userSessions, some row.jti ≠ claims.jti)
    (sameUser : claims.userId = some userId)
    (sameTenant : claims.tenantId = some tenantId) (hasJti : claims.jti = some jti)
    (runs : exec (issueStep (keyed.under opening))
      ⟨(App.run (keyed.under opening) (login.program (keyed.under opening))
        before).2, []⟩ events = some state)
    (connects : Connects (keyed.under ending) request state.world) :
    let out := outcome (keyed.under ending) worker readings request deliveries
      state.world
    out.1 = .ok { url := request.redirectUrl } ∧
      Ended worker userId tenantId state.world out.2 ∧ jti ∈ out.2.bloom worker ∧
      (∀ row ∈ out.2.userSessions, row.jti = jti → row.revokedAt.isSome = true) ∧
      ∀ {α : Type} (program : App α) (later : Keyset)
        (served : HttpWorker (keyed.under later).tokens) (other : HttpRequest)
        (now : Int) (accepted : String),
        served.bloom =
          (App.run (keyed.under later) program out.2).2.bloom worker →
        isExempt other.path = false →
        (served.serve other now).1.identity = some accepted →
        (keyed.under later).tokens.headerJti accepted ≠ some jti := by
  intro out
  have reads (index : Nat) : (keyed.under ending).tokens.decodeJwtToken
      token.compact (readings.utcNow index) true = .ok token.payload :=
    (holds signing (by simp)).decode_minted (holds ending (by simp)) keeps minted
      (fun exp expMem => unexpired exp expMem index)
      (fun iat iatMem => started iat iatMem index)
  obtain ⟨_, -, payloadEq, -⟩ := TokenService.createJwtToken_eq_ok minted
  have ofUser : Presents (keyed.under ending).tokens readings request token.compact
      token.payload userId := by
    rw [payloadEq]
    exact presents
  have ofTenant : token.payload.tenantId = some tenantId := by
    rw [payloadEq, ← tenantEq]
  obtain ⟨answered, ended⟩ := @outcome_of_presents (keyed.under ending) worker
    readings request token.compact userId tenantId token.payload deliveries
    state.world connects ofUser reads hasUser ofTenant hasTenant
  obtain ⟨row, rowMem, rowJti, rowUser, rowTenant, active⟩ :=
    recorded_of_run isLogin issued new runs
  rw [hasJti, Option.some.injEq] at rowJti
  rw [sameUser, Option.some.injEq] at rowUser
  rw [sameTenant, Option.some.injEq] at rowTenant
  have found : jti ∈ activeJtis state.world userId tenantId :=
    mem_activeJtis.mpr ⟨row, rowMem, rowUser, rowTenant, active, rowJti⟩
  have inFilter : jti ∈ out.2.bloom worker := (ended.bloom jti).mpr (.inl found)
  refine ⟨answered, ended, inFilter, fun after afterMem sameJti => ?_, ?_⟩
  · rcases ended.sessions after afterMem with ⟨old, notActive⟩ | ⟨-, revoked⟩
    · -- an old row with the id is the row of the login
      have same : after = row :=
        KeyedTable.eq_of_key_eq old rowMem (sameJti.trans rowJti.symm)
      rw [same] at notActive
      exact absurd ⟨rowUser, rowTenant, active⟩ notActive
    · exact revoked
  · intro α program later served other now accepted filterEq checked identity
      jtiEq
    have kept (stmt : Stmt) (world : World) (held : jti ∈ world.bloom worker) :
        jti ∈ (perform (keyed.under later) stmt world).2.bloom worker :=
      RevocationRetry.mem_bloom_perform held
    have stays := run_preserves (perform (keyed.under later)) kept program inFilter
    rw [← App.run, ← filterEq] at stays
    exact RevocationEnforcement.live_of_identity checked identity jtiEq stays

/-! ## A logout from another device -/

theorem issues_of_gives {deployment : Deployment} {world : World}
    {db : Connection} {readings : Readings} {ip email tenantId password : String}
    {deviceInfo : Option String} {token : SignedToken}
    (answers : App.Gives deployment (authenticate deployment db readings ip email
      tenantId password deviceInfo) world fun answer _ => answer = token) :
    (IssueRequest.authenticate db readings ip email tenantId password
      deviceInfo).issues deployment world = [token.payload] := by
  obtain ⟨answer, answered, rfl⟩ := answers
  have ran : App.run deployment (authenticate deployment db readings ip email
      tenantId password deviceInfo) world = (.ok answer, _) :=
    Prod.ext answered rfl
  unfold IssueRequest.issues IssueRequest.program
  rw [App.run_bind_of_ok ran]
  rfl

/-- The run without requests. -/
theorem runs_nil {deployment : Deployment} (world : World) :
    ∃ state : IssueState,
      exec (issueStep deployment) ⟨world, []⟩ [] = some state ∧ state.world = world :=
  ⟨_, rfl, rfl⟩

/-- What an ID token of Carla says. -/
def idPayload : Claims :=
  idTokenPayload CodeFlow.shownKeys.deployment 100 "f" "carla@x" "c" "app" none none
    none none

/-- What a browser session of Carla says. -/
def browserPayload : Claims where
  sub := some "carla@x"
  userId := some "f"
  tenantId := some "c"
  exp := some 3600

/-- The login of Carla through `authenticate`. -/
def carlasLogin : IssueRequest :=
  .authenticate (.forTenant "c") OnboardedSignIn.carla.signingIn "10.0.0.1"
    "carla@x" "c" "12345678" none

theorem issues_carlasLogin :
    ∃ claims : Claims,
      carlasLogin.issues (CodeFlow.shownKeys.under CodeFlow.firstKeys)
        (OnboardedSignIn.withCarla true) = [claims] ∧
      claims.userId = some "f" ∧ claims.tenantId = some "c" ∧
      claims.jti = some "f-5" := by
  obtain ⟨token, minted, answers⟩ := OnboardedSignIn.gives_getToken
    CodeFlow.holds_firstKeys.canSign OnboardedSignIn.carla_signs_in none .none
  have answersToken : App.Gives (CodeFlow.shownKeys.under CodeFlow.firstKeys)
      (authenticate (CodeFlow.shownKeys.under CodeFlow.firstKeys) (.forTenant "c")
        OnboardedSignIn.carla.signingIn "10.0.0.1" "carla@x" "c" "12345678" none)
      (OnboardedSignIn.withCarla true) fun answer _ => answer = token :=
    answers.mono fun _ _ answered => answered.1
  obtain ⟨userId, principalEq, payloadEq, -⟩ :=
    TokenService.createJwtToken_eq_ok minted
  cases principalEq
  refine ⟨token.payload, issues_of_gives answersToken, ?_, ?_, ?_⟩
  · rw [payloadEq]
    rfl
  · rw [payloadEq]
    rfl
  · rw [payloadEq]
    rfl

/-- A request with an ID token, or with a cookie. -/
def leaving (hint cookie : Option String) : EndSessionRequest where
  tenantHeader := some "c"
  idTokenHint := hint
  postLogoutRedirectUri := some "https://app/bye?lang=en"
  state := some "s"
  cookie := cookie

/-- What the server reads when Carla leaves. -/
def leavingAt : Readings :=
  ⟨fun _ => 300, fun _ => 9, fun _ => ""⟩

/-- Redis refuses the entry of the stream and loses its answer to the other
call. -/
def failing : List (Delivery Exn) :=
  [.refused (.redis "timeout"), .lost (.redis "timeout")]

/-- What becomes of a request that Carla sends after her login. -/
def carlasLogout (request : EndSessionRequest) :
    Except Exn EndSessionResponse × World :=
  outcome (CodeFlow.shownKeys.under CodeFlow.firstKeys) 0 leavingAt request failing
    (App.run (CodeFlow.shownKeys.under CodeFlow.firstKeys)
      (carlasLogin.program (CodeFlow.shownKeys.under CodeFlow.firstKeys))
      (OnboardedSignIn.withCarla true)).2

/-- An ID token ends the session of a login it has nothing to do with, and so does
a browser session. -/
theorem logouts_end_login :
    ∃ idToken session : SignedToken,
      createIdToken (CodeFlow.shownKeys.under CodeFlow.firstKeys) 100 7 "f" "carla@x"
        "c" "app" none none none none = .ok idToken ∧
      (CodeFlow.shownKeys.under CodeFlow.firstKeys).tokens.createJwtToken
        browserPayload 7 = .ok session ∧
      ∀ request ∈ [leaving (some idToken.compact) none,
          leaving none (some session.compact)],
        (carlasLogout request).1 =
            .ok { url := "https://app/bye?lang=en&state=s" } ∧
          "f-5" ∈ (carlasLogout request).2.bloom 0 ∧
          ∀ row ∈ (carlasLogout request).2.userSessions, row.jti = "f-5" →
            row.revokedAt.isSome = true := by
  have canSign := CodeFlow.holds_firstKeys.canSign
  have idSub : idPayload.sub.isSome = true := rfl
  have browserSub : browserPayload.sub.isSome = true := rfl
  obtain ⟨idToken, idMinted⟩ :=
    (@TokenService.createJwtToken_ok_iff _ _ 7 idSub).mpr canSign
  obtain ⟨session, minted⟩ :=
    (@TokenService.createJwtToken_ok_iff _ _ 7 browserSub).mpr canSign
  have holds : ∀ keys ∈ [CodeFlow.firstKeys, CodeFlow.firstKeys],
      CodeFlow.shownKeys.Holds keys := by
    intro keys keysMem
    obtain rfl : keys = CodeFlow.firstKeys := by simpa using keysMem
    exact CodeFlow.holds_firstKeys
  obtain ⟨claims, issuedEq, userEq, tenantEq, jtiEq⟩ := issues_carlasLogin
  have issued : claims ∈ carlasLogin.issues
      (CodeFlow.shownKeys.under CodeFlow.firstKeys)
      (OnboardedSignIn.withCarla true) := by
    rw [issuedEq]
    exact List.mem_singleton_self _
  have new : ∀ row ∈ (OnboardedSignIn.withCarla true).userSessions,
      some row.jti ≠ claims.jti :=
    fun row rowMem => absurd rowMem KeyedTable.not_mem_empty
  obtain ⟨state, runs, worldEq⟩ := @runs_nil
    (CodeFlow.shownKeys.under CodeFlow.firstKeys)
    (App.run (CodeFlow.shownKeys.under CodeFlow.firstKeys)
      (carlasLogin.program (CodeFlow.shownKeys.under CodeFlow.firstKeys))
      (OnboardedSignIn.withCarla true)).2
  have ends (payload : Claims) (token : SignedToken) (hint cookie : Option String)
      (tokenEq : (CodeFlow.shownKeys.under CodeFlow.firstKeys).tokens.createJwtToken
        payload 7 = .ok token)
      (ofTenant : payload.tenantId = some "c")
      (unexpired : ∀ exp ∈ payload.exp, ∀ index, leavingAt.utcNow index < exp)
      (started : ∀ iat ∈ payload.iat, ∀ index, iat ≤ leavingAt.utcNow index)
      (presents : Presents (CodeFlow.shownKeys.under CodeFlow.firstKeys).tokens
        leavingAt (leaving hint cookie) token.compact payload "f") :
      (carlasLogout (leaving hint cookie)).1 =
          .ok { url := "https://app/bye?lang=en&state=s" } ∧
        "f-5" ∈ (carlasLogout (leaving hint cookie)).2.bloom 0 ∧
        ∀ row ∈ (carlasLogout (leaving hint cookie)).2.userSessions,
          row.jti = "f-5" → row.revokedAt.isSome = true := by
    have connects : Connects (CodeFlow.shownKeys.under CodeFlow.firstKeys)
        (leaving hint cookie) state.world :=
      ⟨.forTenant "c", rfl⟩
    obtain ⟨answered, -, inFilter, revoked, -⟩ := @end_session_ends_logins
      CodeFlow.shownKeys CodeFlow.firstKeys CodeFlow.firstKeys CodeFlow.firstKeys 0
      leavingAt (leaving hint cookie) failing payload 7 token "f" "c" "f-5"
      carlasLogin (OnboardedSignIn.withCarla true) claims [] state holds
      CodeFlow.keeps_firstKeys tokenEq (by decide) ofTenant (by decide) unexpired
      started presents trivial issued new userEq tenantEq jtiEq runs connects
    have sameUrl : (leaving hint cookie).redirectUrl =
        (leaving none none).redirectUrl := rfl
    have url : (leaving none none).redirectUrl = "https://app/bye?lang=en&state=s" := by
      decide
    rw [worldEq] at answered inFilter revoked
    rw [sameUrl, url] at answered
    exact ⟨answered, inFilter, revoked⟩
  refine ⟨idToken, session, idMinted, minted, fun request requestMem => ?_⟩
  rcases List.mem_cons.mp requestMem with rfl | requestMem
  · refine ends idPayload idToken _ _ idMinted rfl ?_ ?_ (.inl ⟨rfl, rfl⟩)
    · rintro exp ⟨⟩ index
      exact (by decide : (300 : Int) < 100 + 3600)
    · rintro iat ⟨⟩ index
      exact (by decide : (100 : Int) ≤ 300)
  · cases List.mem_singleton.mp requestMem
    refine ends browserPayload session _ _ minted rfl ?_ ?_ (.inr ⟨rfl, rfl, rfl⟩)
    · rintro exp ⟨⟩ index
      exact (by decide : (300 : Int) < 3600)
    · rintro iat ⟨⟩

end EndSession

end HexIam
