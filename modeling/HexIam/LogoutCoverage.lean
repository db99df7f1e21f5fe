import HexIam.Auth
import HexIam.ConsentBinding
import HexIam.SessionRevocation
import HexIam.TokenCalls

/-!
# What a logout from all sessions reaches

`revoke_all_sessions` revokes the rows of `user_sessions`, and `authenticate`
is the only path that stores one.  This file runs the paths that issue tokens
in any order and asks which tokens a logout reaches at the end: all of them,
when every token that is still alive came from `authenticate` under an id that
was new to the table.
-/

namespace HexIam

open StatementTree GuardedRun

namespace LogoutCoverage

open ConsentBinding (FlowCall)
open SessionRevocation

/-! ## Requests that issue tokens -/

/-- A request to one of the issuing paths. -/
inductive IssueRequest : Type
  | authenticate (db : Connection) (readings : Readings)
      (ip email tenantId password : String) (deviceInfo : Option String)
  | refresh (worker : Nat) (db : Connection) (readings : Readings)
      (request : RefreshRequest)
  | flow (call : FlowCall)
  | token (readings : Readings) (request : TokenRequest)

/-- The session token in an answer of the authorization endpoints. -/
def sessionsOf : FlowResponse → List Claims
  | .consentPage _ _ _ _ (some session) => [session.payload]
  | _ => []

/-- The access token in an answer of `token_endpoint`. -/
def accessTokensOf : TokenResponse → List Claims
  | .tokens data => [data.accessToken.payload]
  | _ => []

namespace IssueRequest

/-- The claims of the access and session tokens a request answers with. -/
def program (deployment : Deployment) : IssueRequest → App (List Claims)
  | authenticate db readings ip email tenantId password deviceInfo => do
      let token ← HexIam.authenticate deployment db readings ip email tenantId
        password deviceInfo
      return [token.payload]
  | refresh worker db readings request => do
      let tokens ← HexIam.refresh deployment worker db readings request
      return [tokens.accessToken.payload]
  | flow call => do
      let response ← call.program deployment
      return sessionsOf response
  | token readings request => do
      let response ← postToken deployment readings request
      return accessTokensOf response

/-- What the request issues; a failed request issues nothing. -/
def issues (deployment : Deployment) (world : World) (request : IssueRequest) :
    List Claims :=
  match (App.run deployment (request.program deployment) world).1 with
  | .ok issued => issued
  | .error _ => []

/-- A request of `authenticate`. -/
def isLogin : IssueRequest → Prop
  | authenticate .. => True
  | _ => False

end IssueRequest

/-! ## Runs -/

/-- The world and the claims of the tokens issued so far. -/
structure IssueState where
  world : World
  issued : List Claims

/-- A request, or the passing of time. -/
inductive IssueEvent : Type
  | request (request : IssueRequest)
  | wait (seconds : Nat)

/-- The state after an event. -/
def issueStep (deployment : Deployment) (state : IssueState) :
    IssueEvent → Option IssueState
  | .request request => some {
      world := (App.run deployment (request.program deployment) state.world).2
      issued := request.issues deployment state.world ++ state.issued }
  | .wait seconds => some {
      state with world := { state.world with now := state.world.now + seconds } }

/-- Claims of a user in a tenant that have not expired. -/
structure Live (userId tenantId : String) (now : Int) (claims : Claims) :
    Prop where
  user : claims.userId = some userId
  tenant : claims.tenantId = some tenantId
  unexpired : ∀ exp, claims.exp = some exp → now < exp

/-- After the logout the worker's filter and the stream have the ids of all
live tokens of the user. -/
def Covered (deployment : Deployment) (worker : Nat)
    (userId tenantId reason : String) (state : IssueState) : Prop :=
  let outcome := App.run deployment
    (revokeAllSessions worker userId tenantId reason none) state.world
  (∃ count, outcome.1 = .ok count) ∧
    ∀ claims ∈ state.issued, Live userId tenantId state.world.now claims →
      ∃ jti, claims.jti = some jti ∧ jti ∈ outcome.2.bloom worker ∧
        jti ∈ outcome.2.revokedJtis

/-- Tokens of the user that are alive at the time of the logout are issued by
`authenticate`, under ids that no session has. -/
def Recording (deployment : Deployment) (userId tenantId : String)
    (logoutTime : Int) (state : IssueState) : IssueEvent → Prop
  | .request request => ∀ claims ∈ request.issues deployment state.world,
      Live userId tenantId logoutTime claims → request.isLogin ∧
        ∀ row ∈ state.world.userSessions, some row.jti ≠ claims.jti
  | .wait _ => True

/-! ## The logout -/

section Logout

variable {deployment : Deployment} {worker : Nat}
variable {userId tenantId reason : String}

/-- A logout reaches exactly the live tokens whose ids are in sessions of the
user, and those revoked before. -/
theorem covered_iff {state : IssueState} :
    Covered deployment worker userId tenantId reason state ↔
      ∀ claims ∈ state.issued, Live userId tenantId state.world.now claims →
        ∃ jti, claims.jti = some jti ∧
          (jti ∈ activeJtis state.world userId tenantId ∨
            jti ∈ state.world.bloom worker ∧ jti ∈ state.world.revokedJtis) := by
  obtain ⟨count, after, ran, loggedOut⟩ := @run_revokeAllSessions deployment
    state.world worker userId tenantId reason
  simp only [Covered, ran, loggedOut.bloom, loggedOut.stream, ← or_and_left]
  exact and_iff_right ⟨count, rfl⟩

end Logout

/-! ## What is recorded -/

/-- Sessions stay as they are, and new ones may be added. -/
def Grows (before after : World) : Prop :=
  ∀ row ∈ before.userSessions, row ∈ after.userSessions

instance : IsPreorder World Grows where
  refl _ _ rowMem := rowMem
  trans _ _ _ first second row rowMem := second row (first row rowMem)

section Programs

variable {deployment : Deployment} {world : World}

theorem userSessions_run {α : Type} (tables : List Table) {program : App α}
    (uses : Uses tables program) (unused : .sessions ∉ tables) :
    (App.run deployment program world).2.userSessions = world.userSessions :=
  frame_of_uses World.userSessions tables
    (fun _ _ => userSessions_perform deployment) uses unused

theorem uses_refresh {tables : List Table} {worker : Nat} {db : Connection}
    {readings : Readings} {request : RefreshRequest} (users : .users ∈ tables)
    (redis : .redis ∈ tables) :
    Uses tables (refresh deployment worker db readings request) := by
  unfold refresh
  refine (uses_ofExcept _).bind fun token => ?_
  split
  · exact within_done
  · refine (uses_ofExcept _).bind fun subject => ?_
    refine (uses_ask users).bind fun modified => ?_
    split
    · refine Within.bind ?_ fun _ => within_done
      refine (uses_ask redis).bind fun _ => ?_
      refine Within.bind (Within.tryCatch ?_ fun _ => within_done) fun _ => ?_
      · exact (uses_ask redis).bind fun _ => within_done
      · exact Within.bind (Within.tryCatch (uses_ask redis)
          fun _ => within_done) fun _ => within_done
    · unfold reissue
      refine (uses_ofExcept _).bind fun _ => (uses_ask users).bind fun rows => ?_
      split
      · exact within_done
      · split
        · exact within_done
        · exact (uses_ofExcept _).bind fun _ =>
            (uses_ofExcept _).bind fun _ => within_done

/-- Only `authenticate` uses the table of sessions. -/
theorem userSessions_of_not_login {request : IssueRequest}
    (other : ¬ request.isLogin) :
    (App.run deployment (request.program deployment) world).2.userSessions =
      world.userSessions := by
  cases request with
  | authenticate => exact absurd trivial other
  | refresh worker db readings request =>
      refine userSessions_run [.users, .redis] ?_ (by decide)
      exact (uses_refresh (by decide) (by decide)).bind fun _ => within_done
  | flow call =>
      exact userSessions_run _
        (ConsentBinding.uses_flow.bind fun _ => within_done) (by decide)
  | token readings request =>
      exact userSessions_run _
        (TokenCalls.uses_postToken.bind fun _ => within_done) (by decide)

theorem grows_insert_session {row : SessionRow} :
    Grows world (perform deployment (.session (.insert row)) world).2 := by
  intro held heldMem
  rcases @perform_insert_session deployment world row with
    ⟨same, -⟩ | inserted
  · rw [← same] at heldMem
    exact heldMem
  · exact (KeyedTable.mem_of_insert inserted).mpr (.inl heldMem)

/-- An accepted session with a new id is in the table. -/
theorem mem_insert_session {row : SessionRow}
    (answered : (perform deployment (.session (.insert row)) world).1 = .ok ())
    (new : ∀ held ∈ world.userSessions, held.jti ≠ row.jti) :
    row.fresh ∈
      (perform deployment (.session (.insert row)) world).2.userSessions := by
  rcases @perform_insert_session deployment world row with
    ⟨-, taken⟩ | inserted
  · obtain ⟨held, heldMem, same⟩ := taken answered
    exact absurd same (new held heldMem)
  · exact (KeyedTable.mem_of_insert inserted).mpr (.inr rfl)

/-- A row of the table for these claims. -/
def Recorded (world : World) (claims : Claims) : Prop :=
  ∃ row ∈ world.userSessions, some row.jti = claims.jti ∧
    some row.userId = claims.userId ∧ some row.tenantId = claims.tenantId ∧
    row.revokedAt = none

theorem Recorded.mono {before after : World} {claims : Claims}
    (grows : Grows before after) (recorded : Recorded before claims) :
    Recorded after claims := by
  obtain ⟨row, rowMem, same⟩ := recorded
  exact ⟨row, grows row rowMem, same⟩

theorem ensures_authenticate {db : Connection} {readings : Readings}
    {ip email tenantId password : String} {deviceInfo : Option String} :
    App.Ensures deployment Grows (authenticate deployment db readings ip email
        tenantId password deviceInfo) world
      fun token after =>
        (∀ row ∈ world.userSessions, some row.jti ≠ token.payload.jti) →
          Recorded after token.payload := by
  refine Ensures.tryCatch ?_ fun _ _ _ => ensures_throw
  unfold authenticateUnguarded
  split
  · exact ensures_throw
  · refine App.ensures_ask_bind (refl_of Grows world) ?_
    rintro rows _ - rfl -
    split
    · exact ensures_throw
    · rename_i persona _ _
      refine App.ensures_ofExcept_bind fun verified _ => ?_
      split
      · exact ensures_throw
      · refine App.ensures_ofExcept_bind fun policies _ =>
          App.ensures_ofExcept_bind fun claim _ =>
            App.ensures_ofExcept_bind fun token minted => ?_
        obtain ⟨userId, -, payloadEq, headerEq⟩ :=
          TokenService.createJwtToken_eq_ok minted
        have jtiEq : deployment.tokens.headerJti token.compact =
            some (userId ++ "-" ++ toString (readings.timeNs 0)) := by
          rw [headerEq, payloadEq]
        rw [jtiEq, Option.getD_some]
        refine App.ensures_ask_bind grows_insert_session
          fun _ after answered afterEq _ => ensures_value fun new => ?_
        rw [payloadEq] at new ⊢
        have stored := mem_insert_session answered fun held heldMem same =>
          new held heldMem (congrArg some same)
        exact ⟨_, afterEq ▸ stored, rfl, rfl, rfl, rfl⟩

theorem recorded_of_login {request : IssueRequest} (login : request.isLogin)
    {claims : Claims} (issued : claims ∈ request.issues deployment world)
    (new : ∀ row ∈ world.userSessions, some row.jti ≠ claims.jti) :
    Recorded (App.run deployment (request.program deployment) world).2
      claims := by
  cases request with
  | authenticate db readings ip email tenantId password deviceInfo =>
      have ensures : App.Ensures deployment Grows
          (IssueRequest.program deployment (.authenticate db readings ip email
            tenantId password deviceInfo)) world
          fun issued after => ∀ claims ∈ issued,
            (∀ row ∈ world.userSessions, some row.jti ≠ claims.jti) →
              Recorded after claims := by
        refine ensures_authenticate.bind fun token after _ holds =>
          ensures_value fun claims claimsMem => ?_
        rw [List.mem_singleton.mp claimsMem]
        exact holds
      unfold IssueRequest.issues at issued
      split at issued
      case h_1 found ran => exact ensures.2 found ran claims issued new
      case h_2 => cases issued
  | _ => exact login.elim

/-- No request removes a session. -/
theorem grows_request (request : IssueRequest) :
    Grows world (App.run deployment (request.program deployment) world).2 := by
  by_cases login : request.isLogin
  case neg =>
    intro row rowMem
    rwa [userSessions_of_not_login login]
  case pos =>
    cases request with
    | authenticate db readings ip email tenantId password deviceInfo =>
        have ensures : App.Ensures deployment Grows
            (IssueRequest.program deployment (.authenticate db readings ip email
              tenantId password deviceInfo)) world fun _ _ => True :=
          ensures_authenticate.bind fun _ _ _ _ => ensures_value trivial
        exact ensures.1
    | _ => exact login.elim

end Programs

/-! ## The result -/

/-- Every token of the user that is alive at the logout is recorded. -/
def AllRecorded (userId tenantId : String) (logoutTime : Int)
    (state : IssueState) : Prop :=
  ∀ claims ∈ state.issued, Live userId tenantId logoutTime claims →
    Recorded state.world claims

theorem allRecorded_step {deployment : Deployment} {userId tenantId : String}
    {logoutTime : Int} (state : IssueState) (event : IssueEvent)
    (next : IssueState) (all : AllRecorded userId tenantId logoutTime state)
    (recording : Recording deployment userId tenantId logoutTime state event)
    (stepEq : issueStep deployment state event = some next) :
    AllRecorded userId tenantId logoutTime next := by
  intro claims claimsMem live
  cases event with
  | wait seconds =>
      cases stepEq
      exact all claims claimsMem live
  | request request =>
      cases stepEq
      rcases List.mem_append.mp claimsMem with new | old
      · obtain ⟨login, free⟩ := recording claims new live
        exact recorded_of_login login new free
      · exact (all claims old live).mono (grows_request request)

/-- When the tokens of a user that are alive at the end of a run came from
`authenticate` under new ids, a logout from all sessions reaches all of
them. -/
theorem covered_of_run (deployment : Deployment) (world : World)
    (events : List IssueEvent) (state : IssueState) (worker : Nat)
    (userId tenantId reason : String)
    (runs : exec (issueStep deployment) ⟨world, []⟩ events = some state)
    (recording : Along (issueStep deployment)
      (Recording deployment userId tenantId state.world.now) ⟨world, []⟩
      events) :
    Covered deployment worker userId tenantId reason state := by
  have start : AllRecorded userId tenantId state.world.now ⟨world, []⟩ :=
    fun _ claimsMem => absurd claimsMem List.not_mem_nil
  have all : AllRecorded userId tenantId state.world.now state :=
    invariant_along allRecorded_step start recording runs
  rw [covered_iff]
  intro claims claimsMem live
  obtain ⟨row, rowMem, jtiEq, userEq, tenantEq, active⟩ :=
    all claims claimsMem live
  refine ⟨row.jti, jtiEq.symm, .inl (mem_activeJtis.mpr
    ⟨row, rowMem, ?_, ?_, active, rfl⟩)⟩
  · exact Option.some.inj (userEq.trans live.user)
  · exact Option.some.inj (tenantEq.trans live.tenant)

/-! ## A browser session -/

/-- A user of a tenant with a policy and one client. -/
def oneUser : World where
  tenants := .single { id := "t" }
  users := .single ⟨"u", "t", "u@t", "password", "U", "T", none, true, true, 0⟩
  userPolicies := .single ⟨"t", "u", "p", ⟨"documents", ["READ"], []⟩⟩
  clients :=
    .single ⟨"c", "t", "secret", "App", ["https://app/cb"], ["openid"], true⟩

/-- What the requests read. -/
def readings : Readings :=
  ⟨fun _ => 0, fun _ => 0, fun _ => "secret"⟩

/-- A login through `authenticate`. -/
def apiLogin : IssueEvent :=
  .request (.authenticate (.forTenant "t") readings "127.0.0.1" "u@t" "t"
    "password" none)

/-- A login through `login_submit`. -/
def browserLogin : IssueEvent :=
  .request (.flow {
    tenantHeader := some "t"
    readings := readings
    request := .login {
      email := "u@t"
      password := "password"
      params := { clientId := "c", redirectUri := "https://app/cb" } } none })

/-- A logout after a login through `authenticate` reaches its token. -/
theorem api_login_covered :
    ∃ state, exec (issueStep (.plain [])) ⟨oneUser, []⟩ [apiLogin] = some state ∧
      state.issued.length = 1 ∧
      Covered (.plain []) 0 "u" "t" "bulk_logout" state := by
  obtain ⟨state, runs, now, issued⟩ : ∃ state,
      exec (issueStep (.plain [])) ⟨oneUser, []⟩ [apiLogin] = some state ∧
        state.world.now = 0 ∧ state.issued.length = 1 :=
    ⟨_, rfl, rfl, rfl⟩
  refine ⟨state, runs, issued, covered_of_run _ _ _ state _ _ _ _ runs ?_⟩
  refine ⟨fun claims _ _ => ⟨trivial, fun row rowMem => ?_⟩,
    fun _ _ => trivial⟩
  exact absurd rowMem KeyedTable.not_mem_empty

/-- A logout after a login through `login_submit` does not: the session is
alive, and its id is neither in the filter nor in the stream. -/
theorem browser_login_survives :
    ∃ state, exec (issueStep (.plain [])) ⟨oneUser, []⟩ [browserLogin] =
        some state ∧
      ¬ Covered (.plain []) 0 "u" "t" "bulk_logout" state := by
  refine ⟨_, rfl, fun covered => ?_⟩
  obtain ⟨jti, -, inFilter, -⟩ := covered.2 _ List.mem_cons_self
    ⟨rfl, rfl, by rintro _ ⟨⟩; decide⟩
  cases inFilter

end LogoutCoverage

end HexIam
