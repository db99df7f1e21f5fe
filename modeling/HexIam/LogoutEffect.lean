import HexIam.LogoutCoverage
import HexIam.LossyCalls
import HexIam.RevocationRetry

/-!
# What a logout from one session does to its token

`logout` verifies the token it is given and hands its id to `revoke_session`,
which adds the id to the filter only where its update finds a session with the
id, the user and the tenant of the token; `logout` answers alike in both cases.
A logout takes effect exactly where there is such a session, or the id is in
the filter already, whatever becomes of the calls to Redis.
-/

namespace HexIam

open StatementTree

namespace LogoutEffect

open LogoutCoverage

/-! ## The property and the condition -/

/-- The calls that go over the network to Redis; the filter is in memory. -/
def isNetwork : Stmt → Bool
  | .redis (.xadd ..) => true
  | .redis (.publish _) => true
  | _ => false

/-- The header carries the token in the form `Bearer <token>`. -/
def Presents (authorization : Option String) (token : String) : Prop :=
  given authorization = true ∧ ∃ scheme,
    splitOnce (authorization.getD "") ' ' = some (scheme, token) ∧
      lower scheme = "bearer"

section Logout

variable (deployment : Deployment) (worker : Nat) (readings : Readings)
variable (authorization : Option String) (jti : String)
variable (deliveries : List (Delivery Exn)) (world : World)

/-- What a call of `logout` answers, and the world after it. -/
def outcome : Except Exn Unit × World :=
  runLossy isNetwork (perform deployment)
    (logout deployment worker readings authorization) deliveries world

/-- If the logout succeeds, the id is in the filter of the worker. -/
def TakesEffect : Prop :=
  (outcome deployment worker readings authorization deliveries world).1 =
      .ok () →
    jti ∈ (outcome deployment worker readings authorization deliveries
      world).2.bloom worker

end Logout

/-- A session with this id, of the user and the tenant of the claims, that is
not revoked. -/
def HasSession (world : World) (jti : String) (claims : Claims) : Prop :=
  ∃ row ∈ world.userSessions, row.jti = jti ∧ some row.userId = claims.userId ∧
    some row.tenantId = claims.tenantId ∧ row.revokedAt = none

/-! ## The two branches of `revoke_session` -/

section Branches

variable {deployment : Deployment} {worker : Nat} {world : World}
variable {deliveries : List (Delivery Exn)} {jti : String} {claims : Claims}

theorem revokeWhere_ne_zero_iff :
    (world.userSessions.revokeWhere (SessionRow.isOne (some jti) claims.userId
        claims.tenantId) world.now "logout").1 ≠ 0 ↔
      HasSession world jti claims := by
  change (world.userSessions.activeRows (SessionRow.isOne (some jti) claims.userId
    claims.tenantId)).length ≠ 0 ↔ _
  rw [← Nat.pos_iff_ne_zero, List.length_pos_iff_exists_mem]
  simp only [SessionTable.activeRows, KeyedTable.mem_select, SessionRow.isOne,
    SessionRow.active, HasSession, Bool.and_eq_true, decide_eq_true_eq,
    Option.some.injEq, Option.isNone_iff_eq_none, and_assoc]

/-- An id in the filter stays there. -/
theorem mem_bloom_run {α : Type} {program : App α}
    (held : jti ∈ world.bloom worker) :
    jti ∈ (run (lossy isNetwork (perform deployment)) program
      (deliveries, world)).2.2.bloom worker := by
  have keeps (stmt : Stmt) (world : World) (held : jti ∈ world.bloom worker) :
      jti ∈ (perform deployment stmt world).2.bloom worker :=
    RevocationRetry.mem_bloom_perform held
  exact run_lossy_preserves keeps program held

/-- Whatever becomes of the calls to Redis, `revoke_token` adds its id. -/
theorem mem_bloom_of_revokeToken {userId tenantId reason : String}
    {after : List (Delivery Exn) × World} {result : Except Exn Bool}
    (ran : run (lossy isNetwork (perform deployment))
      (revokeToken worker (some jti) userId tenantId reason)
      (deliveries, world) = (result, after)) :
    jti ∈ after.2.bloom worker := by
  have added : jti ∈ (world.bloomAdd worker jti).bloom worker := by
    simp [World.bloomAdd, World.bloom]
  have asked : run (lossy isNetwork (perform deployment))
      (ask (.redis (.bloomAdd worker (some jti)))) (deliveries, world) =
      (.ok (), deliveries, world.bloomAdd worker jti) := rfl
  rw [revokeToken, run_bind_of_ok _ asked] at ran
  have afterEq : _ = after := congrArg Prod.snd ran
  rw [← afterEq]
  exact mem_bloom_run added

/-- The update of `revoke_session`, which is no call to Redis. -/
theorem run_revokeOne :
    ∃ after, run (lossy isNetwork (perform deployment))
        (ask (.session (.revokeOne (some jti) claims.userId claims.tenantId
          "logout"))) (deliveries, world) =
        (.ok (world.userSessions.revokeWhere (SessionRow.isOne (some jti)
          claims.userId claims.tenantId) world.now "logout").1,
          deliveries, after) ∧
      after.bloom worker = world.bloom worker :=
  ⟨_, rfl, rfl⟩

theorem mem_bloom_revokeSession (hasSession : HasSession world jti claims) :
    jti ∈ (run (lossy isNetwork (perform deployment))
      (revokeSession worker (some jti) claims.userId claims.tenantId "logout")
      (deliveries, world)).2.2.bloom worker := by
  have changed := revokeWhere_ne_zero_iff.mpr hasSession
  obtain ⟨updated, asked, -⟩ := @run_revokeOne deployment worker world deliveries
    jti claims
  rw [revokeSession, run_bind_of_ok _ asked, if_pos changed, run_bind]
  split
  case h_1 value after ran => exact mem_bloom_of_revokeToken ran
  case h_2 error after ran => exact mem_bloom_of_revokeToken ran

/-- Without one it returns false and leaves the filter. -/
theorem run_revokeSession_of_not (noSession : ¬ HasSession world jti claims) :
    ∃ after, run (lossy isNetwork (perform deployment))
        (revokeSession worker (some jti) claims.userId claims.tenantId "logout")
        (deliveries, world) = (.ok false, deliveries, after) ∧
      after.bloom worker = world.bloom worker := by
  have unchanged := mt revokeWhere_ne_zero_iff.mp noSession
  obtain ⟨updated, asked, same⟩ := @run_revokeOne deployment worker world
    deliveries jti claims
  refine ⟨updated, ?_, same⟩
  rw [revokeSession, run_bind_of_ok _ asked, if_neg unchanged]
  rfl

end Branches

/-! ## The result -/

section Result

variable {deployment : Deployment} {worker : Nat} {readings : Readings}
variable {authorization : Option String} {token jti : String} {claims : Claims}
variable {deliveries : List (Delivery Exn)} {world : World}

theorem logoutSession_of_presents (presents : Presents authorization token)
    (carries : deployment.tokens.headerJti token = some jti)
    (signed : deployment.tokens.decodeJwtToken token (readings.utcNow 0) false =
      .ok claims) :
    logoutSession deployment authorization (readings.utcNow 0) =
      .ok (some jti, claims.userId, claims.tenantId) := by
  obtain ⟨isGiven, scheme, pieces, bearer⟩ := presents
  unfold TokenService.headerJti at carries
  split at carries
  case h_2 => cases carries
  case h_1 header headerEq =>
    simp only [logoutSession, isGiven, pieces, bearer, headerEq, signed, carries,
      Bool.not_true, ne_eq, not_true_eq_false, if_false, Bool.false_eq_true]

theorem outcome_eq (presents : Presents authorization token)
    (carries : deployment.tokens.headerJti token = some jti)
    (signed : deployment.tokens.decodeJwtToken token (readings.utcNow 0) false =
      .ok claims) :
    outcome deployment worker readings authorization deliveries world =
      runLossy isNetwork (perform deployment)
        (tryCatch (revokeSession worker (some jti) claims.userId claims.tenantId
          "logout" >>= fun _ => pure ()) fun _ =>
            throw (.app .internal "Failed to blacklist token"))
        deliveries world := by
  rw [outcome, logout, logoutSession_of_presents presents carries signed]
  rfl

/-- With a session of the token the id enters the filter. -/
theorem mem_bloom_of_hasSession (presents : Presents authorization token)
    (carries : deployment.tokens.headerJti token = some jti)
    (signed : deployment.tokens.decodeJwtToken token (readings.utcNow 0) false =
      .ok claims) (hasSession : HasSession world jti claims) :
    jti ∈ (outcome deployment worker readings authorization deliveries
      world).2.bloom worker := by
  have revoked := @mem_bloom_revokeSession deployment worker world deliveries jti
    claims hasSession
  rw [outcome_eq presents carries signed, runLossy, run_tryCatch, run_bind]
  generalize run (lossy isNetwork (perform deployment)) (revokeSession worker
    (some jti) claims.userId claims.tenantId "logout") (deliveries, world) =
      ran at revoked ⊢
  obtain ⟨result, after⟩ := ran
  cases result <;> exact revoked

/-- Without one the logout succeeds and leaves the filter. -/
theorem outcome_of_not_hasSession (presents : Presents authorization token)
    (carries : deployment.tokens.headerJti token = some jti)
    (signed : deployment.tokens.decodeJwtToken token (readings.utcNow 0) false =
      .ok claims) (noSession : ¬ HasSession world jti claims) :
    (outcome deployment worker readings authorization deliveries world).1 =
        .ok () ∧
      (outcome deployment worker readings authorization deliveries
        world).2.bloom worker = world.bloom worker := by
  obtain ⟨after, ran, same⟩ := @run_revokeSession_of_not deployment worker world
    deliveries jti claims noSession
  rw [outcome_eq presents carries signed, runLossy, run_tryCatch, run_bind, ran]
  exact ⟨rfl, same⟩

/-- A logout takes effect exactly where the id is in the filter already, or the
token has a session that is not revoked. -/
theorem takesEffect_iff (deployment : Deployment) (worker : Nat)
    (readings : Readings) (authorization : Option String) (token jti : String)
    (claims : Claims) (deliveries : List (Delivery Exn)) (world : World)
    (presents : Presents authorization token)
    (carries : deployment.tokens.headerJti token = some jti)
    (signed : deployment.tokens.decodeJwtToken token (readings.utcNow 0) false =
      .ok claims) :
    TakesEffect deployment worker readings authorization jti deliveries world ↔
      jti ∈ world.bloom worker ∨ HasSession world jti claims := by
  by_cases hasSession : HasSession world jti claims
  case pos =>
    have inFilter := @mem_bloom_of_hasSession deployment worker readings
      authorization token jti claims deliveries world presents carries signed
      hasSession
    exact iff_of_true (fun _ => inFilter) (.inr hasSession)
  case neg =>
    obtain ⟨succeeds, same⟩ := @outcome_of_not_hasSession deployment worker
      readings authorization token jti claims deliveries world presents carries
      signed hasSession
    simp only [TakesEffect, succeeds, same, hasSession, forall_const, or_false]

end Result

/-! ## Where the token comes from -/

section Origin

variable {deployment : Deployment} {worker : Nat} {readings : Readings}
variable {authorization : Option String} {token jti : String} {claims : Claims}
variable {deliveries : List (Delivery Exn)} {world : World}

/-- A token that `authenticate` issues under a new id can be logged out. -/
theorem takesEffect_of_login {request : IssueRequest} (login : request.isLogin)
    (issued : claims ∈ request.issues deployment world)
    (new : ∀ row ∈ world.userSessions, some row.jti ≠ claims.jti)
    (presents : Presents authorization token)
    (carries : deployment.tokens.headerJti token = claims.jti)
    (signed : deployment.tokens.decodeJwtToken token (readings.utcNow 0) false =
      .ok claims) (hasJti : claims.jti = some jti) :
    TakesEffect deployment worker readings authorization jti deliveries
      (App.run deployment (request.program deployment) world).2 := by
  obtain ⟨row, rowMem, sameJti, sameUser, sameTenant, active⟩ :=
    recorded_of_login login issued new
  refine fun _ => mem_bloom_of_hasSession presents (carries.trans hasJti) signed
    ⟨row, rowMem, ?_, sameUser, sameTenant, active⟩
  exact Option.some.inj (sameJti.trans hasJti)

/-- A token that no login made, with a new id, cannot be logged out. -/
theorem not_takesEffect_of_not_login {request : IssueRequest}
    (other : ¬ request.isLogin)
    (new : ∀ row ∈ world.userSessions, row.jti ≠ jti)
    (unrevoked : jti ∉ (App.run deployment (request.program deployment)
      world).2.bloom worker)
    (presents : Presents authorization token)
    (carries : deployment.tokens.headerJti token = some jti)
    (signed : deployment.tokens.decodeJwtToken token (readings.utcNow 0) false =
      .ok claims) :
    ¬ TakesEffect deployment worker readings authorization jti deliveries
      (App.run deployment (request.program deployment) world).2 := by
  have noSession : ¬ HasSession (App.run deployment (request.program deployment)
      world).2 jti claims := by
    rintro ⟨row, rowMem, sameJti, -⟩
    rw [userSessions_of_not_login other] at rowMem
    exact new row rowMem sameJti
  obtain ⟨succeeds, same⟩ := @outcome_of_not_hasSession deployment worker readings
    authorization token jti claims deliveries _ presents carries signed noSession
  intro takesEffect
  have inFilter := takesEffect succeeds
  rw [same] at inFilter
  exact unrevoked inFilter

end Origin

/-! ## A token of the token endpoint -/

/-- A user of a tenant and a refresh token that a client holds for them. -/
def withRefreshToken : World where
  tenants := .single { id := "t" }
  users := .single ⟨"u", "t", "u@t", "password", "U", "T", none, true, true, 0⟩
  clients :=
    .single ⟨"c", "t", "secret", "App", ["https://app/cb"], ["profile"], true⟩
  refreshTokens := .single ⟨"r", "u", "t", "c", 100, false, 0⟩

/-- The client redeems the refresh token. -/
def redeeming : IssueRequest :=
  .token ⟨fun _ => 2, fun _ => 2, fun _ => "s"⟩ {
    tenantHeader := some "t"
    contentType := "application/x-www-form-urlencoded"
    form := [("grant_type", .text "refresh_token"), ("client_id", .text "c"),
      ("client_secret", .text "secret"), ("refresh_token", .text "r")] }

/-- The payload of the access token it gets. -/
def grantedClaims : Claims where
  sub := some "u@t"
  iss := some "https://hexalgon.com/t"
  aud := some (.one "c")
  exp := some 3602
  iat := some 2
  jti := some "u-2"
  userId := some "u"
  tenantId := some "t"
  policy := some []

/-- The token verifies. -/
def withToken : Deployment :=
  .plain [("j.u-2", grantedClaims)]

/-- What the logout reads. -/
def logoutReadings : Readings :=
  ⟨fun _ => 3, fun _ => 3, fun _ => ""⟩

/-- A session for the token. -/
def withSession : World where
  userSessions := .single ⟨"u-2", "u", "t", none, none, 3602, none, none⟩

theorem presents_token : Presents (some "Bearer j.u-2") "j.u-2" :=
  ⟨rfl, "Bearer", rfl, by decide⟩

/-- With a session the logout takes effect, also when Redis refuses. -/
theorem session_logs_out :
    TakesEffect withToken 0 logoutReadings (some "Bearer j.u-2") "u-2"
      [.refused (.redis "down"), .refused (.redis "down")] withSession :=
  (takesEffect_iff withToken 0 logoutReadings (some "Bearer j.u-2") "j.u-2"
    "u-2" grantedClaims _ withSession presents_token rfl rfl).mpr
    (.inr ⟨_, List.mem_cons_self, rfl, rfl, rfl, rfl⟩)

/-- The token of a grant is logged out with a success, and stays valid. -/
theorem granted_token_stays_valid :
    grantedClaims ∈ redeeming.issues withToken withRefreshToken ∧
      ¬ TakesEffect withToken 0 logoutReadings (some "Bearer j.u-2") "u-2" []
        (App.run withToken (redeeming.program withToken) withRefreshToken).2 := by
  have signed : withToken.tokens.decodeJwtToken "j.u-2"
      (logoutReadings.utcNow 0) false = .ok grantedClaims := rfl
  refine ⟨List.mem_singleton.mpr rfl, not_takesEffect_of_not_login id ?_ ?_
    presents_token rfl signed⟩
  · exact fun row rowMem => absurd rowMem KeyedTable.not_mem_empty
  · exact List.not_mem_nil

end LogoutEffect

end HexIam
