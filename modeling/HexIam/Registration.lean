import HexIam.Management

/-!
# Registration

`onboard_tenant`, the two signup endpoints and `verify_email`.  The mails with
the verification tokens are left out; their tokens are returned.
-/

namespace HexIam

open ManagementApp

/-! ## Onboarding -/

/-- `TenantOnboardingRequest`; the policy documents of `tenant_policies` are not
read. -/
structure TenantOnboardingRequest where
  name : String
  domain : String
  email : String
  password : String
  firstName : String
  lastName : String
  role : String := "root"
  tenantPolicies : Option (List String) := none

/-- The default policy of a root user. -/
def adminAccess : PolicyDoc :=
  ⟨"all", ["manage", "write", "archive", "delete"], []⟩

/-- The row `create_user` inserts. -/
def rootUser (deployment : Deployment) (userId tenantId : String)
    (request : TenantOnboardingRequest) : UserRow where
  id := userId
  tenantId := tenantId
  email := request.email
  password := deployment.hashPassword request.password
  firstName := request.firstName
  lastName := request.lastName
  role := some request.role
  isActive := true
  emailVerified := false
  lastModified := 0

/-- `assign_policies` with the default policies. -/
def assignDefaultPolicies (db : Connection) (tenantId userId : String) :
    ManagementApp Unit := do
  let inserted ← send (.core (.policy db
    (.insert ⟨tenantId, userId, "admin_access", adminAccess⟩)))
  if inserted = 0 then throw (.database "user_policies_pkey") else return ()

/-- `create_tenant_policies`, whose statement names columns that
`tenant_policies` does not have. -/
def createTenantPolicies (policyIds : List String) : ManagementApp Unit :=
  if policyIds.isEmpty then return ()
  else throw (.database "column \"policy_id\" does not exist")

/-- The transaction of `onboard_tenant`; it returns the ids of the tenant and of
its root user. -/
def onboardTransaction (deployment : Deployment) (db : Connection)
    (readings : Readings) (request : TenantOnboardingRequest) :
    ManagementApp (String × String) := do
  let tenantId := readings.secret 0
  send (.tenant db (.insert {
    id := tenantId
    name := request.name
    domain := request.domain
    root := request.email }))
  let userId := readings.secret 1
  send (.core (.user db (.insert (rootUser deployment userId tenantId request))))
  assignDefaultPolicies db tenantId userId
  createTenantPolicies (request.tenantPolicies.getD [])
  return (tenantId, userId)

/-- `onboard_tenant`. -/
def onboardTenant (deployment : Deployment) (db : Connection)
    (readings : Readings) (request : TenantOnboardingRequest) (world : World) :
    Except Exn (String × String) × World :=
  runAtomic deployment (onboardTransaction deployment db readings request) world

/-- The verification token of the mail to the root user, which is made when the
mail is sent. -/
def onboardingToken (deployment : Deployment) (readings : Readings)
    (tenantId userId : String) : Except Exn SignedToken :=
  deployment.tokens.createVerificationToken (readings.utcNow 0)
    (readings.utcNow 1) userId tenantId

/-! ## Signup -/

/-- A request of `signup_submit` or `signup_api`. -/
structure SignupRequest where
  email : String
  password : String
  confirmPassword : String
  firstName : String
  lastName : String
  clientId : String := ""
  invitationToken : String := ""

/-- `decode_purpose_token(.., expected_purpose="invitation")`. -/
def decodeInvitation (deployment : Deployment) (token : String) (now : Int) :
    Except Exn Claims :=
  deployment.tokens.decodePurposeToken token now
    (some deployment.tokens.jwtSecret)
    (some deployment.tokens.manager.algorithm) (some "invitation")

/-- The tenant of the client of a signup. -/
def signupTenant (deployment : Deployment) (clientId : String) :
    ManagementApp (Option String) := do
  if filled clientId then
    let client ← core (validateClient deployment (.text clientId) .none)
    return client.map ClientRow.tenantId
  else
    return none

/-- The pending invitation of a signup. -/
def signupInvitation (deployment : Deployment) (token : String) (now : Int) :
    ManagementApp (Option InvitationRow) := do
  let payload ← lift (decodeInvitation deployment token now)
  send (.invitation (.pending payload.invitationId))

/-- The user a signup inserts. -/
def signupUser (deployment : Deployment) (userId tenantId email : String)
    (role : Option String) (request : SignupRequest) : UserRow where
  id := userId
  tenantId := tenantId
  email := email
  password := deployment.hashPassword request.password
  firstName := request.firstName
  lastName := request.lastName
  role := role
  isActive := true
  emailVerified := false
  lastModified := 0

/-- The part of both endpoints that accepts the invitation; an exception is
ignored. -/
def acceptInvitation (deployment : Deployment) (token : String) (now : Int) :
    ManagementApp Unit :=
  if filled token then
    tryCatch
      (do
        let payload ← lift (decodeInvitation deployment token now)
        send (.invitation (.accept payload.invitationId)))
      fun _ => return ()
  else return ()

/-- The part of both endpoints that inserts the user; it returns the user's id
and the verification token. -/
def insertSignup (deployment : Deployment) (db : Connection)
    (readings : Readings) (tenantId email : String) (role : Option String)
    (request : SignupRequest) : ManagementApp (Answer (String × SignedToken)) := do
  let userId := readings.secret 0
  send (.core (.user db
    (.insert (signupUser deployment userId tenantId email role request))))
  acceptInvitation deployment request.invitationToken (readings.utcNow 1)
  let token ← lift (deployment.tokens.createVerificationToken
    (readings.utcNow 2) (readings.utcNow 3) userId tenantId)
  return .success (userId, token)

/-- The tenant, the role and the email of a signup: those of its invitation, or
the tenant of its client.  `signup_submit` takes the email of the invitation,
`signup_api` keeps the one of the request. -/
def signupSubject (deployment : Deployment) (readings : Readings)
    (invitedEmail : Bool) (request : SignupRequest) :
    ManagementApp (Answer (Option String × Option String × String)) := do
  let tenantId ← signupTenant deployment request.clientId
  if filled request.invitationToken then
    let invite ← tryCatch
      (do
        let invite ← signupInvitation deployment request.invitationToken
          (readings.utcNow 0)
        return .ok invite)
      fun cause => return .error cause
    match (invite : Except Exn (Option InvitationRow)) with
    | .error _ =>
        return .failure 400 "invalid_token" "Invalid invitation token"
    | .ok none =>
        return .failure 400 "invalid_invitation" "Invalid or expired invitation"
    | .ok (some invite) =>
        return .success (some invite.tenantId, invite.role,
          if invitedEmail then invite.email else request.email)
  else
    return .success (tenantId, none, request.email)

/-- `signup_submit`, whose answers are pages with these messages. -/
def signupSubmit (deployment : Deployment) (db : Connection)
    (readings : Readings) (request : SignupRequest) :
    ManagementApp (Answer (String × SignedToken)) := do
  if request.password ≠ request.confirmPassword then
    let _ ← signupTenant deployment request.clientId
    return .failure 200 "" "Passwords do not match"
  else if request.password.length < 8 then
    let _ ← signupTenant deployment request.clientId
    return .failure 200 "" "Password must be at least 8 characters"
  else
    match ← signupSubject deployment readings true request with
    | .failure _ _ message => return .failure 200 "" message
    | .success (tenantId, role, email) =>
        if !given tenantId then
          return .failure 200 "" ("Unable to determine organization. Please " ++
            "use a valid signup link.")
        else
          let existing ← send (.core (.user db
            (.byTenantEmail (tenantId.getD "") email)))
          if existing.isSome then
            return .failure 200 "" "An account with this email already exists"
          else
            insertSignup deployment db readings (tenantId.getD "") email role
              request

/-- `signup_api`. -/
def signupApi (deployment : Deployment) (db : Connection) (readings : Readings)
    (request : SignupRequest) : ManagementApp (Answer (String × SignedToken)) := do
  match ← signupSubject deployment readings false request with
  | .failure status error message => return .failure status error message
  | .success (tenantId, role, email) =>
      if !given tenantId then
        return .failure 400 "invalid_request" "Unable to determine organization"
      else
        let existing ← send (.core (.user db
          (.byTenantEmail (tenantId.getD "") email)))
        if existing.isSome then
          return .failure 409 "user_exists"
            "An account with this email already exists"
        else if request.password.length < 8 then
          return .failure 400 "weak_password"
            "Password must be at least 8 characters"
        else
          insertSignup deployment db readings (tenantId.getD "") email role
            request

/-! ## Verification -/

/-- The user a verification link names, or the exception of reading it. -/
def verifiedUser (deployment : Deployment) (token : String) (now : Int) :
    Except Exn String :=
  match deployment.tokens.decodePurposeToken token now none none none with
  | .error error => .error error
  | .ok payload =>
      if payload.purpose ≠ none && payload.purpose ≠ some "email_verify" then
        .error (.value "Invalid token purpose")
      else
        match payload.userId with
        | none => .error (.other "KeyError")
        | some userId => .ok userId

/-- `verify_email`; every exception is one answer. -/
def verifyEmail (deployment : Deployment) (db : Connection)
    (readings : Readings) (token : String) : ManagementApp (Answer Unit) :=
  tryCatch
    (do
      let userId ← lift (verifiedUser deployment token (readings.utcNow 0))
      let tenantId ← send (.verification db (.tenantOf userId))
      send (.verification db (.verifyEmail userId tenantId))
      return .success ())
    fun _ => return (.failure 400 "INVALID_OR_EXPIRED_TOKEN"
      "Invalid or expired token")

end HexIam
