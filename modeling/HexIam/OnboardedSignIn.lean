import HexIam.DecisionEndpoint
import HexIam.InvitedSignIn
import HexIam.LoginAgreement
import HexIam.PolicyWrites

/-!
# From an onboarding to decisions

A founder onboards a tenant, opens the link of the mail and gets a token of
`get_token`.  Between the requests the database may change in any way that
leaves the founder and the default policy as they are.  Then every request is
answered as the next one needs it, and the decisions for the token are exactly
those of the default policy: four actions on the resource `all`.
-/

namespace HexIam

open ManagementApp StatementTree

namespace OnboardedSignIn

/-! ## The requests -/

/-- `get_token` for a request with the `X-TENANT-ID` header. -/
def getToken (deployment : Deployment) (readings : Readings)
    (tenantHeader : String) (queryClientId : Option String) (formClientId : PyValue)
    (ip email password : String) (deviceInfo : Option String) :
    App SignedToken := do
  let db ← getDatabasePool (some tenantHeader) queryClientId formClientId
  authenticate deployment db readings ip email tenantHeader password deviceInfo

/-- What the founder of a tenant brings along, and what the server reads from
clocks and `secrets` at each request. -/
structure Founder where
  request : TenantOnboardingRequest
  typedEmail : String
  ip : String
  deviceInfo : Option String
  onboarding : Readings
  mailing : Readings
  verifying : Readings
  signingIn : Readings

namespace Founder

variable (founder : Founder)

def tenantId : String :=
  founder.onboarding.secret 0

def userId : String :=
  founder.onboarding.secret 1

def email : String :=
  founder.request.email

def tenant : TenantRow where
  id := founder.tenantId
  name := founder.request.name
  domain := founder.request.domain
  root := founder.email

/-- The row of the founder, stored at a time. -/
def stored (deployment : Deployment) (now : Int) : UserRow :=
  { rootUser deployment founder.userId founder.tenantId founder.request with
    lastModified := now }

/-- The row of the default policy. -/
def policy : PolicyRow :=
  ⟨founder.tenantId, founder.userId, "admin_access", adminAccess⟩

/-- The id of the token. -/
def jti : String :=
  founder.userId ++ "-" ++ toString (founder.signingIn.timeNs 0)

/-- The session that the sign-in records. -/
def session : SessionRow where
  jti := founder.jti
  userId := founder.userId
  tenantId := founder.tenantId
  deviceInfo := founder.deviceInfo
  ipAddress := some founder.ip
  expiresAt := founder.signingIn.utcNow 0 + 3600
  revokedAt := none
  revokedReason := none

end Founder

/-! ## What each request looks up -/

/-- The tenant, the founder and the policy can be stored. -/
structure Onboards (founder : Founder) (world : World) : Prop where
  tenantFits : (founder.tenantId.length ≤ 50 && founder.request.name.length ≤ 100 &&
    founder.request.domain.length ≤ 100 && founder.email.length ≤ 255) = true
  userFits : (founder.email.length ≤ 255 &&
    founder.request.firstName.length ≤ 100 &&
      founder.request.lastName.length ≤ 100 &&
        fits 100 (some founder.request.role)) = true
  freshDomain : ∀ held ∈ world.tenants, held.domain ≠ founder.request.domain
  freshTenant : ∀ held ∈ world.tenants, held.id ≠ founder.tenantId
  freshUser : ∀ held ∈ world.users,
    held.id ≠ founder.userId ∧ held.tenantId ≠ founder.tenantId
  freshPolicy : ∀ held ∈ world.userPolicies, held.key ≠ founder.policy.key
  noTenantPolicies : founder.request.tenantPolicies.getD [] = []

/-- The founder is as the onboarding stored it, and the link is in time. -/
structure Verifies (deployment : Deployment) (founder : Founder) (storedAt : Int)
    (world : World) : Prop where
  found : world.users.lookup founder.userId =
    some (founder.stored deployment storedAt)
  issued : founder.mailing.utcNow 1 ≤ founder.verifying.utcNow 0
  inTime : founder.verifying.utcNow 0 < founder.mailing.utcNow 0 + 86400

/-- The founder, with the email verified or not, is the user with the email and
has the default policy only, and the session can be stored. -/
structure SignsIn (deployment : Deployment) (founder : Founder) (storedAt : Int)
    (world : World) (held : UserRow) : Prop where
  found : world.users.lookup founder.userId = some held
  unchanged : held = founder.stored deployment storedAt ∨
    held = (founder.stored deployment storedAt).verifyEmail
  verifiesHash : deployment.verifyPassword founder.request.password
    (deployment.hashPassword founder.request.password) = .ok true
  onlyUser : ∀ other ∈ world.users, other.tenantId = founder.tenantId →
    other.email = founder.email → other.id = founder.userId
  hasPolicy : founder.policy ∈ world.userPolicies
  onlyPolicy : ∀ other ∈ world.userPolicies, other.tenantId = founder.tenantId →
    other.userId = founder.userId → other.policyId = "admin_access"
  normalized : deployment.normalizeEmail founder.typedEmail = some founder.email
  hasTenant : world.hasTenant founder.tenantId = true
  hasTenantId : filled founder.tenantId = true
  hasUserId : filled founder.userId = true
  hasEmail : filled founder.email = true
  jtiFits : founder.jti.length ≤ 64
  isInet : deployment.isInet founder.ip = true
  freshSession : ∀ held ∈ world.userSessions, held.jti ≠ founder.jti

/-! ## Onboarding -/

section Onboarding

variable {deployment : Deployment} {world : World} {founder : Founder}

theorem perform_insert_tenant (onboards : Onboards founder world) :
    ∃ tenants, TenantStmt.perform .owner world (.insert founder.tenant) =
        (.ok (), tenants) ∧
      tenants.lookup founder.tenantId = some founder.tenant := by
  obtain ⟨tenants, inserted, lookedUp⟩ :=
    @KeyedTable.exists_insert _ _ _ world.tenants founder.tenant _
      onboards.freshTenant
  have isEmpty : (world.tenants.select fun held =>
      held.domain = founder.tenant.domain).isEmpty = true := by
    rw [List.isEmpty_iff, ← List.head?_eq_none_iff]
    refine KeyedTable.head?_select_eq_none fun held heldMem => ?_
    exact decide_eq_false (onboards.freshDomain held heldMem)
  have insertEq : world.tenants.insert { founder.tenant with isActive := true } =
      some tenants := inserted
  have tenantFits : (founder.tenant.id.length ≤ 50 &&
      founder.tenant.name.length ≤ 100 && founder.tenant.domain.length ≤ 100 &&
        founder.tenant.root.length ≤ 255) = true := onboards.tenantFits
  have mayInsert : Connection.owner.mayInsert founder.tenant.id = true := rfl
  refine ⟨tenants, ?_, lookedUp⟩
  simp only [TenantStmt.perform, tenantFits, mayInsert, isEmpty,
    require_true_bind, insertEq]

theorem perform_insert_default
    (freshPolicy : ∀ held ∈ world.userPolicies, held.key ≠ founder.policy.key)
    (hasTenant : world.hasTenant founder.tenantId = true)
    (hasUser : world.hasUser founder.userId = true) :
    ∃ policies, perform deployment (.policy .owner (.insert founder.policy)) world =
        (.ok 1, { world with userPolicies := policies }) ∧
      policies.lookup founder.policy.key = some founder.policy := by
  obtain ⟨policies, inserted, lookedUp⟩ := KeyedTable.exists_insert freshPolicy
  rcases @perform_insert_policy deployment world .owner founder.policy with
    ⟨-, table, insertEq, performed⟩ | ⟨refused, -⟩
  · cases insertEq.symm.trans inserted
    exact ⟨policies, performed, lookedUp⟩
  · have accepts : world.acceptsPolicy .owner founder.policy = .ok () := by
      have tenantEq : world.hasTenant founder.policy.tenantId = true := hasTenant
      have userEq : world.hasUser founder.policy.userId = true := hasUser
      have policyFits : decide (founder.policy.policyId.length ≤ 40) = true := by
        change decide ("admin_access".length ≤ 40) = true
        decide
      rw [World.acceptsPolicy, tenantEq, userEq, policyFits]
      rfl
    have free : world.userPolicies.lookup founder.policy.key = none :=
      KeyedTable.lookup_eq_none.mpr freshPolicy
    rw [World.insertsPolicy_eq_true.mpr ⟨accepts, free⟩] at refused
    cases refused

theorem onboardTenant_eq (onboards : Onboards founder world) :
    ∃ after, onboardTenant deployment .owner founder.onboarding founder.request
        world = (.ok (founder.tenantId, founder.userId), after) ∧
      after.tenants.lookup founder.tenantId = some founder.tenant ∧
      after.users.lookup founder.userId =
        some (founder.stored deployment world.now) ∧
      after.userPolicies.lookup founder.policy.key = some founder.policy := by
  obtain ⟨tenants, tenantPerformed, tenantFound⟩ := perform_insert_tenant onboards
  have tenantSent : ManagementApp.run deployment
      (send (.tenant .owner (.insert founder.tenant))) world =
        (.ok (), { world with tenants := tenants }) := by
    change manage deployment _ world = _
    simp only [manage, tenantPerformed]
  have hasTenant : World.hasTenant { world with tenants := tenants }
      founder.tenantId = true :=
    Option.isSome_iff_exists.mpr ⟨_, tenantFound⟩
  obtain ⟨users, userPerformed, userFound⟩ :=
    @InvitedSignIn.perform_insert_user deployment { world with tenants := tenants }
      .owner (rootUser deployment founder.userId founder.tenantId founder.request)
      onboards.userFits rfl hasTenant
      (fun held heldMem => by
        have other := (onboards.freshUser held heldMem).2
        simp [rootUser, other])
      (fun held heldMem => (onboards.freshUser held heldMem).1)
  have userSent : ManagementApp.run deployment (send (.core (.user .owner (.insert
      (rootUser deployment founder.userId founder.tenantId founder.request)))))
        { world with tenants := tenants } =
          (.ok (), { world with tenants := tenants, users := users }) := by
    change manage deployment _ _ = _
    simp only [manage, perform, userPerformed]
  have hasUser : World.hasUser { world with tenants := tenants, users := users }
      founder.userId = true :=
    Option.isSome_iff_exists.mpr ⟨_, userFound⟩
  obtain ⟨policies, policyPerformed, policyFound⟩ :=
    @perform_insert_default deployment
      { world with tenants := tenants, users := users } founder
      onboards.freshPolicy hasTenant hasUser
  have policySent : ManagementApp.run deployment
      (send (.core (.policy .owner (.insert founder.policy))))
        { world with tenants := tenants, users := users } = (.ok 1, { world with
          tenants := tenants
          users := users
          userPolicies := policies }) := policyPerformed
  refine ⟨{ world with
    tenants := tenants
    users := users
    userPolicies := policies }, ?_, tenantFound, userFound, policyFound⟩
  refine (StatementTree.runAtomic_eq_ok _).mpr ?_
  refine (ManagementApp.run_bind_of_ok tenantSent).trans ?_
  refine (ManagementApp.run_bind_of_ok userSent).trans ?_
  refine (ManagementApp.run_bind_of_ok
    ((ManagementApp.run_bind_of_ok policySent).trans rfl)).trans ?_
  unfold createTenantPolicies
  rw [onboards.noTenantPolicies]
  rfl

end Onboarding

/-! ## Signing in -/

section SigningIn

variable {deployment : Deployment} {world : World} {founder : Founder}
variable {storedAt : Int} {held : UserRow}

theorem SignsIn.row (signsIn : SignsIn deployment founder storedAt world held) :
    held.email = founder.email ∧ held.tenantId = founder.tenantId ∧
      held.role = some founder.request.role ∧
      deployment.verifyPassword founder.request.password held.password =
        .ok true := by
  rcases signsIn.unchanged with rfl | rfl <;>
    exact ⟨rfl, rfl, rfl, signsIn.verifiesHash⟩

/-- The join of `fetch_user_with_policy` is the founder with the default
policy. -/
theorem SignsIn.joined (signsIn : SignsIn deployment founder storedAt world held) :
    world.joinAll deployment (.forTenant founder.tenantId)
      (world.usersWithEmail (.forTenant founder.tenantId) founder.email) =
        .ok [(held, some adminAccess)] := by
  obtain ⟨heldMem, heldId⟩ := KeyedTable.lookup_eq_some.mp signsIn.found
  obtain ⟨emailEq, tenantEq, -, -⟩ := signsIn.row
  have users : world.usersWithEmail (.forTenant founder.tenantId) founder.email =
      [held] := by
    refine KeyedTable.select_eq_singleton heldMem ?_ ?_
    · simp [emailEq, tenantEq]
    · intro other otherMem kept
      simp only [Bool.and_eq_true, decide_eq_true_eq, Connection.forTenant_sees]
        at kept
      exact (signsIn.onlyUser other otherMem kept.2 kept.1).trans heldId.symm
  have policies : world.policiesOf (.forTenant founder.tenantId) held.id =
      [founder.policy] := by
    rw [heldId]
    refine KeyedTable.select_eq_singleton signsIn.hasPolicy ?_ ?_
    · simp [Founder.policy]
    · intro other otherMem kept
      simp only [Bool.and_eq_true, decide_eq_true_eq, Connection.forTenant_sees]
        at kept
      have sameId := signsIn.onlyPolicy other otherMem kept.2 kept.1
      simp [PolicyRow.key, Founder.policy, sameId, kept]
  have valid : validPolicies deployment world.now
      (world.policiesOf (.forTenant founder.tenantId) held.id) =
        .ok [adminAccess] := by
    rw [policies]
    rfl
  rw [users, LoginAgreement.joinAll_single valid]
  rfl

/-- The payload of the token. -/
def Founder.payload (founder : Founder) : Claims :=
  loginPayload (founder.signingIn.utcNow 0) founder.email founder.userId
    (some founder.tenantId) (some founder.request.role)
    [("all", weight adminAccess.actions)]

theorem perform_insert_session (signsIn : SignsIn deployment founder storedAt world held) :
    ∃ sessions, perform deployment (.session (.insert founder.session)) world =
        (.ok (), { world with userSessions := sessions }) ∧
      sessions.lookup founder.jti = some founder.session := by
  obtain ⟨sessions, inserted, lookedUp⟩ :=
    @KeyedTable.exists_insert _ _ _ world.userSessions founder.session.fresh _
      signsIn.freshSession
  refine ⟨sessions, ?_, lookedUp⟩
  have fits : decide (founder.session.jti.length ≤ 64) = true :=
    decide_eq_true signsIn.jtiFits
  have isInet : founder.session.ipAddress.all deployment.isInet = true :=
    signsIn.isInet
  have hasUser : world.hasUser founder.session.userId = true :=
    Option.isSome_iff_exists.mpr ⟨_, signsIn.found⟩
  have hasTenant : world.hasTenant founder.session.tenantId = true :=
    signsIn.hasTenant
  simp only [perform, SessionStmt.perform, fits, isInet, inserted, hasUser,
    hasTenant, require, if_true, Bool.and_self]

theorem gives_getToken (signs : deployment.tokens.canSign)
    (signsIn : SignsIn deployment founder storedAt world held)
    (query : Option String) (form : PyValue) :
    ∃ token, deployment.tokens.createJwtToken founder.payload
        (founder.signingIn.timeNs 0) = .ok token ∧
      App.Gives deployment (getToken deployment founder.signingIn founder.tenantId
          query form founder.ip founder.typedEmail founder.request.password
          founder.deviceInfo) world
        fun answer after => answer = token ∧
          after.userSessions.lookup founder.jti = some founder.session := by
  have hasSub : founder.payload.sub.isSome = true := rfl
  obtain ⟨token, minted⟩ := (TokenService.createJwtToken_ok_iff hasSub).mpr signs
  refine ⟨token, minted, ?_⟩
  obtain ⟨userId, principalEq, payloadEq, headerEq⟩ :=
    TokenService.createJwtToken_eq_ok minted
  have sameUser : userId = founder.userId := by
    have principal : TokenService.principal founder.payload =
        .ok founder.userId := by
      simp [TokenService.principal, Founder.payload, loginPayload, orElse, given,
        signsIn.hasUserId]
    exact Except.ok.inj (principalEq.symm.trans principal)
  have jtiEq : deployment.tokens.headerJti token.compact = some founder.jti := by
    rw [headerEq, payloadEq, sameUser]
    rfl
  have heldId := (KeyedTable.lookup_eq_some.mp signsIn.found).2
  obtain ⟨-, -, roleEq, passwordEq⟩ := signsIn.row
  obtain ⟨sessions, recorded, lookedUp⟩ := perform_insert_session signsIn
  have hasHeader : given (some founder.tenantId) = true := signsIn.hasTenantId
  have pool : App.Gives deployment (getDatabasePool (some founder.tenantId) query
      form) world fun db after => db = .forTenant founder.tenantId ∧ after = world := by
    unfold getDatabasePool requestTenant
    simp only [hasHeader, if_true]
    rw [App.gives_bind, App.gives_pure]
    simp [hasHeader]
  unfold getToken
  rw [App.gives_bind]
  refine pool.mono ?_
  rintro _ after ⟨rfl, rfl⟩
  unfold authenticate
  rw [App.gives_tryCatch]
  refine .inl ?_
  unfold authenticateUnguarded
  rw [signsIn.normalized]
  dsimp only
  rw [App.gives_bind, App.gives_withPolicies]
  refine ⟨_, signsIn.joined, ?_⟩
  dsimp only
  rw [App.gives_bind, App.gives_ofExcept]
  refine ⟨true, passwordEq, ?_⟩
  simp only [Bool.not_true, Bool.false_eq_true, if_false]
  rw [App.gives_bind, App.gives_ofExcept]
  refine ⟨[adminAccess], rfl, ?_⟩
  rw [App.gives_bind, App.gives_ofExcept]
  refine ⟨[("all", weight adminAccess.actions)], by decide, ?_⟩
  rw [App.gives_bind, App.gives_ofExcept]
  refine ⟨token, ?_, ?_⟩
  · rw [heldId, roleEq]
    exact minted
  · rw [jtiEq, heldId, App.gives_bind]
    refine (App.gives_answer recorded).mpr (App.gives_pure.mpr ⟨rfl, ?_⟩)
    exact lookedUp

/-- What the token says of the founder. -/
def Founder.verified (founder : Founder) : TokenService.VerifiedTokenData where
  email := founder.email
  tenantId := founder.tenantId
  policy := some [("all", weight adminAccess.actions)]
  role := some founder.request.role
  userId := founder.userId
  exp := some (founder.signingIn.utcNow 0 + 3600)
  iat := none
  aud := none

/-- The token is accepted until it expires under every key set that has its
key. -/
theorem verifyToken_eq {keyed : KeyedDeployment} {state later : Keyset}
    (holds : keyed.Holds state) (laterHolds : keyed.Holds later)
    (keeps : keyed.Keeps state later)
    (signsIn : SignsIn (keyed.under state) founder storedAt world held) {token : SignedToken}
    (minted : (keyed.under state).tokens.createJwtToken founder.payload
      (founder.signingIn.timeNs 0) = .ok token) {now : Int}
    (inTime : now < founder.signingIn.utcNow 0 + 3600) :
    (keyed.under later).tokens.verifyToken token.compact now =
      .ok founder.verified := by
  have decoded : (keyed.under later).tokens.decodeJwtToken token.compact now true =
      .ok token.payload :=
    holds.decode_minted laterHolds keeps minted
      (by simpa [Founder.payload, loginPayload] using inTime)
      (by simp [Founder.payload, loginPayload])
  obtain ⟨userId, -, payloadEq, -⟩ := TokenService.createJwtToken_eq_ok minted
  unfold TokenService.verifyToken
  rw [decoded, payloadEq]
  simp [Founder.payload, Founder.verified, loginPayload, orElse, given,
    signsIn.hasUserId, signsIn.hasTenantId, signsIn.hasEmail]

end SigningIn

/-! ## Decisions -/

/-- The actions of the default policy. -/
def grants (request : DecisionEndpoint.Authorize) : Bool :=
  request.resource = some adminAccess.resource &&
    lower request.action ∈ adminAccess.actions

theorem checkPermission_all (action : String) :
    checkPermission [("all", weight adminAccess.actions)] action "all" =
      decide (lower action ∈ adminAccess.actions) := by
  rw [Bool.eq_iff_iff, DecisionEndpoint.checkPermission_eq_true_iff,
    decide_eq_true_eq]
  have bits : ∀ entry ∈ permissionMap,
      (weight adminAccess.actions).testBit entry.2.bit = true ↔
        entry.1 ∈ adminAccess.actions := by
    decide
  have named : ∀ name ∈ adminAccess.actions, ∃ entry ∈ permissionMap,
      entry.1 = name := by
    decide
  have looked : (([("all", weight adminAccess.actions)] : List (String × Nat)).lookup
      "all").getD 0 = weight adminAccess.actions := rfl
  rw [looked]
  constructor
  · rintro ⟨entry, entryMem, sameName, set⟩
    exact sameName ▸ (bits entry entryMem).mp set
  · intro isGranted
    obtain ⟨entry, entryMem, sameName⟩ := named _ isGranted
    exact ⟨entry, entryMem, sameName,
      (bits entry entryMem).mpr (sameName ▸ isGranted)⟩

theorem checkPermission_other (action : String) {resource : String}
    (other : resource ≠ "all") :
    checkPermission [("all", weight adminAccess.actions)] action resource =
      false := by
  rw [Bool.eq_false_iff, ne_eq, DecisionEndpoint.checkPermission_eq_true_iff]
  rintro ⟨entry, -, -, set⟩
  have absent : (resource == "all") = false := beq_eq_false_iff_ne.mpr other
  rw [List.lookup_cons, absent] at set
  simp at set

section Decisions

variable {founder : Founder} {decodeJsonb : PyValue → PyValue} {world : World}
variable {dbconnection : Option Connection} {request : DecisionEndpoint.Authorize}
variable {headers : DecisionEndpoint.Headers}

theorem permitted_eq : DecisionEndpoint.permitted founder.verified request =
    .ok (grants request) := by
  unfold DecisionEndpoint.permitted grants
  cases request.resource with
  | none => rfl
  | some resource =>
      by_cases isAll : resource = "all"
      · subst isAll
        exact congrArg Except.ok ((checkPermission_all _).trans (by simp [adminAccess]))
      · refine congrArg Except.ok ((checkPermission_other _ isAll).trans ?_)
        simp [adminAccess, isAll]

/-- Other grant types are refused. -/
theorem postDecide_of_rba (rba : request.grantType ≠ "fga") :
    DecisionEndpoint.postDecide decodeJsonb world dbconnection founder.verified
      request headers = .error (.app .businessValidation
        ("Unsupported grant type: grant_type '" ++ request.grantType ++
          "' not supported")) := by
  rw [DecisionEndpoint.postDecide, DecisionEndpoint.authorize, if_neg rba]
  rfl

/-- Where the policy refuses, or no conditions are asked for, the decision for the
founder is that of the default policy. -/
theorem postDecide_eq (fga : request.grantType = "fga")
    (decided : request.checkCondition = true → grants request = false)
    (isLegacy : DecisionEndpoint.isTrue headers.includePrincipal = false) :
    DecisionEndpoint.postDecide decodeJsonb world dbconnection founder.verified
      request headers = .ok (.legacy (some (grants request))) := by
  rw [DecisionEndpoint.postDecide_of_legacy isLegacy]
  unfold DecisionEndpoint.authorize DecisionEndpoint.conditionResult
  rw [if_pos fga, permitted_eq, isLegacy]
  cases checks : request.checkCondition with
  | false => simp [bind, Except.bind, pure, Except.pure]
  | true => simp [decided checks, bind, Except.bind, pure, Except.pure]

/-- In either form nothing but the default policy is granted. -/
theorem grants_of_postDecide {answer : DecisionEndpoint.Answer}
    (answered : DecisionEndpoint.postDecide decodeJsonb world dbconnection
      founder.verified request headers = .ok answer)
    (granted : answer.decision = some true) : grants request = true := by
  cases refuses : grants request with
  | true => rfl
  | false =>
      cases form : DecisionEndpoint.isTrue headers.includePrincipal with
      | true =>
          obtain ⟨error, failed, -⟩ := @DecisionEndpoint.postDecide_of_enhanced
            decodeJsonb world dbconnection founder.verified request headers form
          cases failed.symm.trans answered
      | false =>
          by_cases fga : request.grantType = "fga"
          · rw [postDecide_eq fga (fun _ => refuses) form] at answered
            cases answered
            rw [refuses] at granted
            cases granted
          · cases (postDecide_of_rba fga).symm.trans answered

end Decisions

/-! ## The result -/

/-- Whoever onboards a tenant can verify the email and sign in: the requests
succeed one after the other, the link of the mail carries the token, and until
it expires the access token is accepted and decided by the default policy.  What
conditions a granted request asks for can only refuse it. -/
theorem onboarding_completes {keyed : KeyedDeployment}
    {mailing verifying signingIn : Keyset} {founder : Founder}
    {first second third : World} {held : UserRow} (replaced : List UInt8 → String)
    (query : Option String) (form : PyValue)
    (holds : ∀ state ∈ [mailing, verifying, signingIn], keyed.Holds state)
    (keepsMail : keyed.Keeps mailing verifying)
    (plain : InvitedSignIn.PlainLinks keyed.deployment)
    (onboards : Onboards founder first)
    (verifies : Verifies (keyed.under verifying) founder first.now second)
    (signsIn : SignsIn (keyed.under signingIn) founder first.now third held) :
    ∃ mail token : SignedToken,
      (∃ after, onboardTenant keyed.deployment .owner founder.onboarding
          founder.request first = (.ok (founder.tenantId, founder.userId), after) ∧
        after.tenants.lookup founder.tenantId = some founder.tenant ∧
        after.users.lookup founder.userId =
          some (founder.stored keyed.deployment first.now) ∧
        after.userPolicies.lookup founder.policy.key = some founder.policy) ∧
      onboardingToken (keyed.under mailing) founder.mailing founder.tenantId
        founder.userId = .ok mail ∧
      UrlQuery.urlParams replaced
          (InvitedSignIn.verifyUrl keyed.deployment mail.compact) =
        [("token", mail.compact)] ∧
      Gives (manage (keyed.under verifying)) (verifyEmail (keyed.under verifying)
          .owner founder.verifying mail.compact) second
        (fun answer after => answer = .success () ∧
          after.users.lookup founder.userId =
            some (founder.stored (keyed.under verifying) first.now).verifyEmail) ∧
      App.Gives (keyed.under signingIn) (getToken (keyed.under signingIn)
          founder.signingIn founder.tenantId query form founder.ip
          founder.typedEmail founder.request.password founder.deviceInfo) third
        (fun answer after => answer = token ∧
          after.userSessions.lookup founder.jti = some founder.session) ∧
      ∀ later now, keyed.Holds later → keyed.Keeps signingIn later →
        now < founder.signingIn.utcNow 0 + 3600 →
        (keyed.under later).tokens.verifyToken token.compact now =
            .ok founder.verified ∧
          ∀ (decodeJsonb : PyValue → PyValue) (world : World)
            (dbconnection : Option Connection)
            (request : DecisionEndpoint.Authorize)
            (headers : DecisionEndpoint.Headers),
            (request.grantType = "fga" →
              (request.checkCondition = true → grants request = false) →
              DecisionEndpoint.isTrue headers.includePrincipal = false →
              DecisionEndpoint.postDecide decodeJsonb world dbconnection
                founder.verified request headers =
                  .ok (.legacy (some (grants request)))) ∧
            (request.grantType ≠ "fga" →
              DecisionEndpoint.postDecide decodeJsonb world dbconnection
                founder.verified request headers = .error (.app .businessValidation
                  ("Unsupported grant type: grant_type '" ++ request.grantType ++
                    "' not supported"))) ∧
            ∀ answer, DecisionEndpoint.postDecide decodeJsonb world dbconnection
                founder.verified request headers = .ok answer →
              answer.decision = some true → grants request = true := by
  have mailHolds := holds mailing (by simp)
  have verifyHolds := holds verifying (by simp)
  have signHolds := holds signingIn (by simp)
  obtain ⟨mail, made, -, mailSigned⟩ := mailHolds.exists_purposeToken
    (TokenService.verificationPayload (founder.mailing.utcNow 0)
      (founder.mailing.utcNow 1) founder.userId founder.tenantId)
    (some (keyed.under mailing).tokens.jwtSecret)
  obtain ⟨token, minted, signed⟩ := gives_getToken signHolds.canSign signsIn query
    form
  refine ⟨mail, token, onboardTenant_eq onboards, made, ?_, ?_, signed, ?_⟩
  · exact InvitedSignIn.urlParams_verifyUrl replaced plain
      (InvitedSignIn.urlSafe_of_signedUnder mailSigned plain)
  · exact InvitedSignIn.gives_verifyEmail verifyHolds keepsMail mailSigned
      verifies.found verifies.issued verifies.inTime
  · intro later now laterHolds keeps inTime
    refine ⟨verifyToken_eq signHolds laterHolds keeps signsIn minted inTime, ?_⟩
    intro decodeJsonb world dbconnection request headers
    exact ⟨postDecide_eq, postDecide_of_rba, fun _ => grants_of_postDecide⟩

/-! ## A founder -/

/-- Carla onboards her company. -/
def carla : Founder where
  request := {
    name := "Acme"
    domain := "acme"
    email := "carla@x"
    password := "12345678"
    firstName := "Carla"
    lastName := "C" }
  typedEmail := "carla@x"
  ip := "10.0.0.1"
  deviceInfo := none
  onboarding := ⟨fun _ => 0, fun _ => 0, fun draw => if draw = 0 then "c" else "f"⟩
  mailing := ⟨fun _ => 1, fun _ => 0, fun _ => ""⟩
  verifying := ⟨fun _ => 100, fun _ => 0, fun _ => ""⟩
  signingIn := ⟨fun _ => 200, fun _ => 5, fun _ => ""⟩

/-- The database after her onboarding, with or without her email verified. -/
def withCarla (verified : Bool) : World where
  tenants := .single carla.tenant
  users := .single (bif verified then
    (carla.stored CodeFlow.shownKeys.deployment 0).verifyEmail
    else carla.stored CodeFlow.shownKeys.deployment 0)
  userPolicies := .single carla.policy

theorem carla_onboards : Onboards carla CodeFlow.annasTenant := by
  refine ⟨by decide, by decide, ?_, ?_, ?_, ?_, rfl⟩
  · intro held heldMem
    obtain rfl := List.mem_singleton.mp heldMem
    decide
  · intro held heldMem
    obtain rfl := List.mem_singleton.mp heldMem
    decide
  · intro held heldMem
    obtain rfl := List.mem_singleton.mp heldMem
    exact ⟨by decide, by decide⟩
  · intro held heldMem
    cases heldMem

theorem carla_signs_in : SignsIn (CodeFlow.shownKeys.under CodeFlow.firstKeys) carla 0
    (withCarla true) (carla.stored CodeFlow.shownKeys.deployment 0).verifyEmail := by
  refine ⟨rfl, .inr rfl, rfl, ?_, ?_, ?_, rfl, rfl, by decide, by decide, by decide,
    by decide, rfl, ?_⟩
  · intro other otherMem _ _
    obtain rfl := List.mem_singleton.mp otherMem
    rfl
  · exact List.mem_singleton_self _
  · intro other otherMem _ _
    obtain rfl := List.mem_singleton.mp otherMem
    rfl
  · intro held heldMem
    cases heldMem

/-- Carla may manage everything called `all`, but not read it. -/
theorem carlas_onboarding_completes :
    ∃ token : SignedToken, ∃ manages reads : DecisionEndpoint.Authorize,
      App.Gives (CodeFlow.shownKeys.under CodeFlow.firstKeys)
        (getToken (CodeFlow.shownKeys.under CodeFlow.firstKeys) carla.signingIn "c"
          none .none carla.ip "carla@x" "12345678" none) (withCarla true)
        (fun answer _ => answer = token) ∧
      (CodeFlow.shownKeys.under CodeFlow.firstKeys).tokens.verifyToken token.compact
        300 = .ok carla.verified ∧
      manages.action = "manage" ∧ reads.action = "read" ∧
      DecisionEndpoint.postDecide id (withCarla true) none carla.verified manages
        DecisionEndpoint.noHeaders = .ok (.legacy (some true)) ∧
      DecisionEndpoint.postDecide id (withCarla true) none carla.verified reads
        DecisionEndpoint.noHeaders = .ok (.legacy (some false)) := by
  have holds : ∀ state ∈ [CodeFlow.firstKeys, CodeFlow.firstKeys,
      CodeFlow.firstKeys], CodeFlow.shownKeys.Holds state := by
    intro state stateMem
    obtain rfl : state = CodeFlow.firstKeys := by simpa using stateMem
    exact CodeFlow.holds_firstKeys
  have verifies : Verifies (CodeFlow.shownKeys.under CodeFlow.firstKeys) carla 0
      (withCarla false) :=
    ⟨rfl, by decide, by decide⟩
  obtain ⟨mail, token, -, -, -, -, signedIn, accepted⟩ :=
    @onboarding_completes _ _ _ _ _ _ _ _ _ (fun _ => "") none .none holds
      CodeFlow.keeps_firstKeys InvitedSignIn.plainLinks_shownKeys carla_onboards
      verifies carla_signs_in
  obtain ⟨verified, decided⟩ := accepted CodeFlow.firstKeys 300
    CodeFlow.holds_firstKeys CodeFlow.keeps_firstKeys (by decide)
  have asks (action : String) : ∃ request : DecisionEndpoint.Authorize,
      request.action = action ∧ request.resource = some "all" ∧
        request.grantType = "fga" ∧ request.checkCondition = false :=
    ⟨⟨action, some "all", false, none, "fga", (fun _ held => by cases held),
      List.mem_cons_self, (fun checks => by cases checks)⟩, rfl, rfl, rfl, rfl⟩
  obtain ⟨manages, managesEq, managesAll, managesFga, managesPlain⟩ := asks "manage"
  obtain ⟨reads, readsEq, readsAll, readsFga, readsPlain⟩ := asks "read"
  refine ⟨token, manages, reads, signedIn.mono fun _ _ answered => answered.1, verified,
    managesEq, readsEq, ?_, ?_⟩
  · have granted := (decided id (withCarla true) none manages
      DecisionEndpoint.noHeaders).1 managesFga (by simp [managesPlain]) (by decide)
    rw [granted, grants, managesEq, managesAll]
    rfl
  · have refused := (decided id (withCarla true) none reads
      DecisionEndpoint.noHeaders).1 readsFga (by simp [readsPlain]) (by decide)
    rw [refused, grants, readsEq, readsAll]
    rfl

end OnboardedSignIn

end HexIam
