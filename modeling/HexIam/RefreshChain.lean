import HexIam.Auth
import HexIam.GuardedRun
import HexIam.StatementRules

/-!
# The refresh chain

A refresh token arrives in a header that no middleware reads.  `refresh`
verifies its signature and expiry and asks `check_modified` whether a profile
has changed since the `iat` of the token.  The query compares a `TIMESTAMP`
column with that integer, which asyncpg does not bind: it takes `datetime`
values there.  So no call redeems a token, and none that is revoked or was
redeemed before.
-/

namespace HexIam

open GuardedRun

namespace RefreshChain

/-! ## Runs on one worker -/

/-- A call of `refresh` with what it reads. -/
structure RefreshCall where
  db : Connection
  readings : Readings
  request : RefreshRequest

/-- A call on the worker, or a change of what the calls read: the clock, the
profiles and the policies. -/
inductive ChainEvent : Type
  | refresh (call : RefreshCall)
  | logout (readings : Readings) (authorization : Option String)
  | revokeSession (jti userId tenantId : Option String) (reason : String)
  | revokeAllSessions (userId tenantId reason : String)
      (excludeJti : Option String)
  | revokeToken (jti : Option String) (userId tenantId reason : String)
  | wait (seconds : Nat)
  | edit (users : UserTable) (userPolicies : PolicyTable)

/-- The world, and the refresh tokens that were redeemed so far. -/
structure ChainState where
  world : World
  redeemed : List String

variable (deployment : Deployment) (worker : Nat)

/-- The outcome of a call of `refresh`. -/
def outcome (world : World) (call : RefreshCall) :
    Except Exn RefreshedTokens × World :=
  App.run deployment
    (HexIam.refresh deployment worker call.db call.readings call.request) world

/-- The call succeeds. -/
def Succeeds (world : World) (call : RefreshCall) : Prop :=
  ∃ tokens, (outcome deployment worker world call).1 = .ok tokens

/-- The state after an event.  A refresh that succeeds redeems its token. -/
def chainStep (state : ChainState) : ChainEvent → Option ChainState
  | .refresh call =>
      let after := outcome deployment worker state.world call
      some {
        world := after.2
        redeemed :=
          match after.1, call.request.token with
          | .ok _, .ok token => token :: state.redeemed
          | _, _ => state.redeemed }
  | .logout readings authorization =>
      some { state with world := (App.run deployment
        (HexIam.logout deployment worker readings authorization) state.world).2 }
  | .revokeSession jti userId tenantId reason =>
      some { state with world := (App.run deployment
        (HexIam.revokeSession worker jti userId tenantId reason)
        state.world).2 }
  | .revokeAllSessions userId tenantId reason excludeJti =>
      some { state with world := (App.run deployment
        (HexIam.revokeAllSessions worker userId tenantId reason excludeJti)
        state.world).2 }
  | .revokeToken jti userId tenantId reason =>
      some { state with world := (App.run deployment
        (HexIam.revokeToken worker jti userId tenantId reason) state.world).2 }
  | .wait seconds =>
      some { state with
        world := { state.world with now := state.world.now + seconds } }
  | .edit users userPolicies =>
      some { state with
        world := { state.world with
          users := users
          userPolicies := userPolicies } }

/-! ## The property -/

/-- The token is neither revoked on the worker nor redeemed before. -/
def Unspent (state : ChainState) (token : String) : Prop :=
  (∀ jti, deployment.tokens.headerJti token = some jti →
    jti ∉ state.world.bloom worker) ∧ token ∉ state.redeemed

/-- A refresh that succeeds was given an unspent token. -/
def Honoured (state : ChainState) : ChainEvent → Prop
  | .refresh call => Succeeds deployment worker state.world call →
      ∃ token, call.request.token = .ok token ∧
        Unspent deployment worker state token
  | _ => True

/-- What `refresh` does check: the token verifies and names an email and an
`iat`, no profile with that email has changed since, the tenant of the token is
that of the header, and both new tokens can be made. -/
def Accepts (world : World) (call : RefreshCall) (token : String) : Prop :=
  ∃ decoded email iat time, call.request.token = .ok token ∧
    deployment.tokens.decodeJwtToken token (call.readings.utcNow 0) true =
      .ok decoded ∧
    refreshSubject deployment decoded = .ok (email, iat) ∧
    deployment.bindTimestamp iat = some time ∧
    (world.usersWithEmail call.db email).any (fun user =>
      time < user.lastModified) = false ∧
    decoded.tenantId = call.request.tenantHeader ∧
    (∃ refreshToken, deployment.tokens.createJwtToken
      { decoded with iat := some (call.readings.utcNow 1) }
      (call.readings.timeNs 0) = .ok refreshToken) ∧
    ∃ persona first rest policy, world.joinAll deployment call.db
        (world.usersWithEmail call.db email) = .ok ((persona, first) :: rest) ∧
      policyClaim (((persona, first) :: rest).filterMap Prod.snd) [] =
        .ok policy ∧
      deployment.tokens.canSign

/-- asyncpg encodes `datetime` values for a `timestamp` parameter and refuses
integers. -/
def DatetimesOnly : Prop :=
  ∀ time, deployment.bindTimestamp time = none

/-! ## What a refresh checks -/

section Refresh

variable {deployment} {worker} {world : World}

theorem gives_reissue {db : Connection} {readings : Readings}
    {tenantHeader : Option String} {decoded : Claims} {email : String} :
    App.Gives deployment
        (reissue deployment db readings tenantHeader decoded email) world
        (fun _ _ => True) ↔
      (∃ refreshToken, deployment.tokens.createJwtToken
        { decoded with iat := some (readings.utcNow 1) } (readings.timeNs 0) =
          .ok refreshToken) ∧
      decoded.tenantId = tenantHeader ∧
      ∃ persona first rest policy, world.joinAll deployment db
          (world.usersWithEmail db email) = .ok ((persona, first) :: rest) ∧
        policyClaim (((persona, first) :: rest).filterMap Prod.snd) [] =
          .ok policy ∧
        deployment.tokens.canSign := by
  have hasSub (time : Int) (persona : UserRow) (policy : List (String × Nat)) :
      (loginPayload time email persona.id tenantHeader persona.role
        policy).sub.isSome = true := rfl
  unfold reissue
  rw [App.gives_bind, App.gives_ofExcept]
  constructor
  · rintro ⟨refreshToken, minted, gives⟩
    rw [App.gives_bind, App.gives_withPolicies] at gives
    obtain ⟨rows, rowsEq, gives⟩ := gives
    cases rows with
    | nil => exact absurd gives App.gives_throw
    | cons row rest =>
        obtain ⟨persona, first⟩ := row
        simp only at gives
        split at gives
        case isTrue => exact absurd gives App.gives_throw
        case isFalse sameTenant =>
          rw [App.gives_bind, App.gives_ofExcept] at gives
          obtain ⟨policy, policyEq, gives⟩ := gives
          rw [App.gives_bind, App.gives_ofExcept] at gives
          obtain ⟨accessToken, accessMinted, -⟩ := gives
          have signs := (TokenService.createJwtToken_ok_iff (hasSub _ _ _)).mp
            ⟨accessToken, accessMinted⟩
          exact ⟨⟨refreshToken, minted⟩, not_not.mp sameTenant, persona, first,
            rest, policy, rowsEq, policyEq, signs⟩
  · rintro ⟨⟨refreshToken, minted⟩, sameTenant, persona, first, rest, policy, rowsEq,
      policyEq, signs⟩
    refine ⟨refreshToken, minted, ?_⟩
    rw [App.gives_bind, App.gives_withPolicies]
    refine ⟨_, rowsEq, ?_⟩
    simp only [sameTenant, ne_eq, not_true_eq_false, if_false]
    rw [App.gives_bind, App.gives_ofExcept]
    refine ⟨policy, policyEq, ?_⟩
    rw [App.gives_bind, App.gives_ofExcept]
    obtain ⟨accessToken, accessMinted⟩ :=
      (TokenService.createJwtToken_ok_iff (hasSub _ _ _)).mpr signs
    exact ⟨accessToken, accessMinted, App.gives_pure.mpr trivial⟩

theorem succeeds_iff {call : RefreshCall} :
    Succeeds deployment worker world call ↔
      ∃ token, Accepts deployment world call token := by
  have gives_iff : Succeeds deployment worker world call ↔
      App.Gives deployment (HexIam.refresh deployment worker call.db call.readings
        call.request) world fun _ _ => True := by
    simp only [Succeeds, outcome, App.Gives, StatementTree.Gives, and_true]
    rfl
  rw [gives_iff, HexIam.refresh, App.gives_bind, App.gives_ofExcept]
  simp only [Accepts]
  constructor
  · rintro ⟨token, tokenEq, gives⟩
    cases decodedEq : deployment.tokens.decodeJwtToken token
        (call.readings.utcNow 0) true with
    | error error =>
        rw [decodedEq] at gives
        exact absurd gives App.gives_throw
    | ok decoded =>
        rw [decodedEq] at gives
        simp only at gives
        rw [App.gives_bind, App.gives_ofExcept] at gives
        obtain ⟨⟨email, iat⟩, subjectEq, gives⟩ := gives
        simp only at gives
        rw [App.gives_bind, App.gives_checkModified] at gives
        obtain ⟨time, timeEq, gives⟩ := gives
        split at gives
        case isTrue =>
          rw [App.gives_bind] at gives
          obtain ⟨_, -, gives⟩ := gives
          exact absurd gives App.gives_throw
        case isFalse unmodified =>
          obtain ⟨minted, sameTenant, rest⟩ := gives_reissue.mp gives
          exact ⟨token, decoded, email, iat, time, tokenEq, decodedEq, subjectEq,
            timeEq, eq_false_of_ne_true unmodified, sameTenant, minted,
            rest⟩
  · rintro ⟨token, decoded, email, iat, time, tokenEq, decodedEq, subjectEq, timeEq,
      unmodified, sameTenant, minted, rest⟩
    refine ⟨token, tokenEq, ?_⟩
    rw [decodedEq]
    simp only
    rw [App.gives_bind, App.gives_ofExcept]
    refine ⟨(email, iat), subjectEq, ?_⟩
    simp only
    rw [App.gives_bind, App.gives_checkModified]
    refine ⟨time, timeEq, ?_⟩
    rw [unmodified]
    exact gives_reissue.mpr ⟨minted, sameTenant, rest⟩

end Refresh

/-! ## The result -/

variable {deployment} {worker}

/-- The query of `check_modified` fails before a token is made. -/
theorem not_succeeds (datetimes : DatetimesOnly deployment) {world : World}
    {call : RefreshCall} : ¬ Succeeds deployment worker world call := by
  intro succeeds
  obtain ⟨token, decoded, email, iat, time, -, -, -, bound, -⟩ :=
    succeeds_iff.mp succeeds
  rw [datetimes iat] at bound
  cases bound

theorem honoured_step (datetimes : DatetimesOnly deployment) (state : ChainState)
    (event : ChainEvent) : Honoured deployment worker state event := by
  cases event with
  | refresh call => exact fun succeeds => absurd succeeds (not_succeeds datetimes)
  | _ => trivial

/-- Along every run, a refresh that succeeds honours revocation and rotation. -/
theorem honoured_along_run (datetimes : DatetimesOnly deployment)
    (state : ChainState) (events : List ChainEvent) :
    Along (chainStep deployment worker) (Honoured deployment worker) state
      events :=
  along_of_forall (honoured_step datetimes) state events

/-! ## A token presented twice -/

/-- A user of a tenant. -/
def oneUser : ChainState where
  world := {
    users := .single ⟨"u", "t", "u@t", "password", "U", "T", none, true, true, 0⟩ }
  redeemed := []

/-- A token of the user with an email and an `iat`, and a driver that binds no
integer to a timestamp. -/
def withToken : Deployment :=
  { Deployment.plain [("j.u-1", {
      sub := some "u"
      tenantId := some "t"
      email := some "u@t"
      iat := some 1
      exp := some 3600 })] with
    bindTimestamp := fun _ => none }

/-- The user presents the token. -/
def present : RefreshCall where
  db := .forTenant "t"
  readings := ⟨fun _ => 2, fun _ => 2, fun _ => ""⟩
  request := {
    refreshHeader := some "Refresh j.u-1"
    tenantHeader := some "t" }

/-- The token verifies, and both calls end at the query. -/
theorem presented_twice :
    (outcome withToken 0 oneUser.world present).1 =
        .error (.database "DataError: expected a datetime") ∧
      Along (chainStep withToken 0) (Honoured withToken 0) oneUser
        [.refresh present, .refresh present] :=
  ⟨rfl, honoured_along_run (fun _ => rfl) oneUser _⟩

end RefreshChain

end HexIam
