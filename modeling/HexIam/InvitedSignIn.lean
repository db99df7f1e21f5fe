import HexIam.CodeFlow
import HexIam.Registration
import HexIam.UrlQuery

/-!
# From an invitation to a login

A member invites an email, the invited person opens the link of the mail and
signs up, opens the link of the second mail and signs in.  Between the requests
the database may change in any way that leaves the invitation pending and the
user as it is.  Then every request is answered as the next one needs it, and
`login_submit` signs a session of the user.
-/

namespace HexIam

open ManagementApp StatementTree

namespace InvitedSignIn

/-! ## The mails -/

/-- The `accept_url` of `send_invitation_email`. -/
def acceptUrl (deployment : Deployment) (token : String) : String :=
  stripEnd deployment.appBaseUrl '/' ++ "/api/v1/oidc/signup?invitation=" ++
    token

/-- The `verify_url` of `send_verification_email`. -/
def verifyUrl (deployment : Deployment) (token : String) : String :=
  deployment.appBaseUrl ++ "/api/v1/onboarding/email/verify?token=" ++ token

/-- The base URL has no query and no fragment, and compact tokens have only
characters that a query takes as they are. -/
structure PlainLinks (deployment : Deployment) : Prop where
  noQuery : '?' ∉ deployment.appBaseUrl.toList
  noFragment : '#' ∉ deployment.appBaseUrl.toList
  urlSafe : ∀ claims key algorithm header,
    ∀ char ∈ (deployment.tokens.jwt.encode claims key algorithm header).toList,
      char ∈ UrlQuery.alwaysSafe

/-! ## The parties -/

/-- What the inviter and the invited person bring along, and what the server
reads from clocks and `secrets` at each request. -/
structure Invitee where
  inviter : Principal
  request : InvitationRequest
  typedEmail : String
  password : String
  firstName : String
  lastName : String
  inviting : Readings
  signingUp : Readings
  verifying : Readings

namespace Invitee

variable (invitee : Invitee)

/-- The row of the invitation. -/
def row : InvitationRow where
  id := invitee.inviting.secret 0
  tenantId := invitee.inviter.tenantId
  clientId := invitee.request.clientId
  email := invitee.request.email
  role := invitee.request.role
  invitedBy := some invitee.inviter.userId
  expiresAt := invitee.inviting.utcNow 0 + 604800
  acceptedAt := none

/-- The signup form with the token of the invitation. -/
def form (token : String) : SignupRequest where
  email := invitee.typedEmail
  password := invitee.password
  confirmPassword := invitee.password
  firstName := invitee.firstName
  lastName := invitee.lastName
  invitationToken := token

/-- The user that the signup inserts. -/
def user (deployment : Deployment) : UserRow :=
  signupUser deployment (invitee.signingUp.secret 0) invitee.inviter.tenantId
    invitee.request.email invitee.request.role (invitee.form "")

/-- The row of the user, stored at a time. -/
def stored (deployment : Deployment) (now : Int) : UserRow :=
  { invitee.user deployment with lastModified := now }

end Invitee

/-! ## What each request looks up -/

/-- Nobody has the email in the tenant. -/
def NoUser (invitee : Invitee) (world : World) : Prop :=
  ∀ held ∈ world.users, held.tenantId = invitee.inviter.tenantId →
    held.email ≠ invitee.request.email

/-- The invitation can be stored, and nobody has the email. -/
structure Invites (invitee : Invitee) (world : World) : Prop where
  noUser : NoUser invitee world
  fits : (invitee.row.id.length ≤ 50 && invitee.row.email.length ≤ 255 &&
    HexIam.fits 100 invitee.row.role && HexIam.fits 50 invitee.row.invitedBy &&
      HexIam.fits 50 invitee.row.clientId) = true
  hasTenant : world.hasTenant invitee.inviter.tenantId = true
  hasClient : (invitee.request.clientId.all fun clientId =>
    (world.clients.lookup clientId).isSome) = true
  noInvitation : ∀ held ∈ world.invitations,
    held.tenantId = invitee.inviter.tenantId →
      held.email ≠ invitee.request.email
  freshId : ∀ held ∈ world.invitations, held.id ≠ invitee.row.id

/-- The invitation is pending, by the clocks of the database and the service,
and the user can be stored. -/
structure SignsUp (deployment : Deployment) (invitee : Invitee) (world : World) :
    Prop where
  stored : world.invitations.lookup invitee.row.id = some invitee.row
  pending : world.now < invitee.row.expiresAt
  issued : ∀ draw < 2, invitee.inviting.utcNow 1 ≤ invitee.signingUp.utcNow draw
  inTime : ∀ draw < 2, invitee.signingUp.utcNow draw < invitee.row.expiresAt
  longPassword : 8 ≤ invitee.password.length
  named : filled invitee.inviter.tenantId = true
  noUser : NoUser invitee world
  fits : ((invitee.user deployment).email.length ≤ 255 &&
    (invitee.user deployment).firstName.length ≤ 100 &&
      (invitee.user deployment).lastName.length ≤ 100 &&
        HexIam.fits 100 (invitee.user deployment).role) = true
  hasTenant : world.hasTenant invitee.inviter.tenantId = true
  freshId : ∀ held ∈ world.users, held.id ≠ invitee.signingUp.secret 0

/-- The user is there, and the link is in time. -/
structure Verifies (invitee : Invitee) (world : World) (held : UserRow) : Prop where
  found : world.users.lookup (invitee.signingUp.secret 0) = some held
  issued : invitee.signingUp.utcNow 3 ≤ invitee.verifying.utcNow 0
  inTime : invitee.verifying.utcNow 0 < invitee.signingUp.utcNow 2 + 86400

/-- The login form has the email and the password of the invited person, the
client is active in the tenant, and no other user there has the email. -/
structure LogsIn (invitee : Invitee) (signIn : CodeFlow.SignIn) (world : World)
    (client : ClientRow) (held : UserRow) : Prop where
  email : signIn.email = invitee.request.email
  password : signIn.password = invitee.password
  hasClientId : filled signIn.params.clientId = true
  active : world.activeClient signIn.params.clientId = some client
  ofTenant : client.tenantId = invitee.inviter.tenantId
  found : held ∈ world.users
  onlyUser : ∀ other ∈ world.users, other.tenantId = invitee.inviter.tenantId →
    other.email = invitee.request.email → other.id = invitee.signingUp.secret 0

/-! ## Statements -/

section Statements

variable {α : Type} {deployment : Deployment} {world after : World}
variable {post : α → World → Prop}

theorem gives_send {stmt : ManagementStmt} {answer : stmt.Resp}
    {continuation : stmt.Resp → ManagementApp α}
    (performed : manage deployment stmt world = (.ok answer, after)) :
    Gives (manage deployment) (send stmt >>= continuation) world post ↔
      Gives (manage deployment) (continuation answer) after post := by
  rw [StatementTree.gives_bind]
  exact StatementTree.gives_of_run performed

theorem gives_lift {β : Type} {result : Except Exn β} {value : β}
    {continuation : β → ManagementApp α} (succeeds : result = .ok value) :
    Gives (manage deployment) (lift result >>= continuation) world post ↔
      Gives (manage deployment) (continuation value) world post := by
  rw [succeeds]
  rfl

theorem NoUser.differs {invitee : Invitee} (noUser : NoUser invitee world)
    {held : UserRow} (heldMem : held ∈ world.users) :
    (held.tenantId = invitee.inviter.tenantId &&
      held.email = invitee.request.email) = false := by
  by_cases sameTenant : held.tenantId = invitee.inviter.tenantId
  · have other := noUser held heldMem sameTenant
    simp [other]
  · simp [sameTenant]

theorem NoUser.performed {invitee : Invitee} (noUser : NoUser invitee world)
    (db : Connection) :
    manage deployment (.core (.user db
      (.byTenantEmail invitee.inviter.tenantId invitee.request.email))) world =
        (.ok none, world) := by
  refine Prod.ext (congrArg Except.ok ?_) rfl
  refine KeyedTable.head?_select_eq_none fun held heldMem => ?_
  rw [noUser.differs heldMem, Bool.false_and]

/-- The insert of an invitation succeeds where the constraints let it in. -/
theorem perform_insert_invitation {invitee : Invitee}
    (invites : Invites invitee world) :
    ∃ after, InvitationStmt.perform world (.insert invitee.row) = (.ok (), after) ∧
      after.lookup invitee.row.id = some invitee.row := by
  obtain ⟨table, inserted, lookedUp⟩ := KeyedTable.exists_insert invites.freshId
  have isEmpty : (world.invitations.select fun held =>
      held.tenantId = invitee.row.tenantId && held.email = invitee.row.email).isEmpty =
        true := by
    rw [List.isEmpty_iff, ← List.head?_eq_none_iff]
    refine KeyedTable.head?_select_eq_none fun held heldMem => ?_
    by_cases sameTenant : held.tenantId = invitee.inviter.tenantId
    · have other := invites.noInvitation held heldMem sameTenant
      simp [Invitee.row, other]
    · simp [Invitee.row, sameTenant]
  have hasTenant : world.hasTenant invitee.row.tenantId = true :=
    invites.hasTenant
  have hasClient : (invitee.row.clientId.all fun clientId =>
      (world.clients.lookup clientId).isSome) = true := invites.hasClient
  have insertEq : world.invitations.insert { invitee.row with acceptedAt := none } =
      some table := inserted
  refine ⟨table, ?_, lookedUp⟩
  simp only [InvitationStmt.perform, invites.fits, hasTenant, hasClient, isEmpty,
    require_true_bind, insertEq]

/-- The insert of a user succeeds where the constraints let it in. -/
theorem perform_insert_user {db : Connection} {row : UserRow}
    (fits : (row.email.length ≤ 255 && row.firstName.length ≤ 100 &&
      row.lastName.length ≤ 100 && HexIam.fits 100 row.role) = true)
    (mayInsert : db.mayInsert row.tenantId = true)
    (hasTenant : world.hasTenant row.tenantId = true)
    (noUser : ∀ held ∈ world.users,
      (held.tenantId = row.tenantId && held.email = row.email) = false)
    (freshId : ∀ held ∈ world.users, held.id ≠ row.id) :
    ∃ users, UserStmt.perform deployment db world (.insert row) =
        (.ok (), users) ∧
      users.lookup row.id = some { row with lastModified := world.now } := by
  obtain ⟨table, inserted, lookedUp⟩ :=
    @KeyedTable.exists_insert _ _ _ world.users { row with lastModified := world.now }
      _ freshId
  have isEmpty : (world.users.select fun held =>
      held.tenantId = row.tenantId && held.email = row.email).isEmpty = true := by
    rw [List.isEmpty_iff, ← List.head?_eq_none_iff]
    exact KeyedTable.head?_select_eq_none noUser
  refine ⟨table, ?_, lookedUp⟩
  simp only [UserStmt.perform, fits, mayInsert, hasTenant, isEmpty,
    require_true_bind, inserted]

end Statements

/-! ## The requests -/

section Requests

variable {keyed : KeyedDeployment} {state later : Keyset} {world : World}
variable {invitee : Invitee}

/-- The payload of the token in the link of the invitation. -/
def Invitee.payload (invitee : Invitee) : Claims :=
  TokenService.invitationPayload invitee.row.expiresAt (invitee.inviting.utcNow 1)
    invitee.row.id

theorem gives_createInvitation (holds : keyed.Holds state) (db : Connection)
    (invites : Invites invitee world) :
    Gives (manage (keyed.under state)) (createInvitation (keyed.under state) db
        invitee.inviting invitee.inviter invitee.request) world
      fun answer after => ∃ token, answer = .success (invitee.row, token) ∧
        keyed.SignedUnder state token.compact invitee.payload ∧
        after.invitations.lookup invitee.row.id = some invitee.row := by
  have noInvitation : manage (keyed.under state) (.invitation
      (.pendingFor invitee.request.email invitee.inviter.tenantId)) world =
        (.ok none, world) := by
    refine Prod.ext (congrArg Except.ok ?_) rfl
    refine KeyedTable.head?_select_eq_none fun held heldMem => ?_
    by_cases sameTenant : held.tenantId = invitee.inviter.tenantId
    · have other := invites.noInvitation held heldMem sameTenant
      simp [other]
    · simp [sameTenant]
  obtain ⟨table, performed, lookedUp⟩ := perform_insert_invitation invites
  obtain ⟨token, made, -, signed⟩ := holds.exists_purposeToken invitee.payload
    (some (keyed.under state).tokens.jwtSecret)
  unfold createInvitation
  rw [gives_send noInvitation]
  simp only [Option.isSome_none, Bool.false_eq_true, if_false]
  rw [gives_send (invites.noUser.performed db)]
  simp only [Option.isSome_none, Bool.false_eq_true, if_false]
  have inserts : manage (keyed.under state) (.invitation (.insert invitee.row))
      world = (.ok (), { world with invitations := table }) := by
    simp only [manage, performed]
  refine (gives_send inserts).mpr ((gives_lift made).mpr ?_)
  exact ⟨_, rfl, token, rfl, signed, lookedUp⟩

/-- The token of the invitation is accepted while the invitation is. -/
theorem decodeInvitation_eq_ok (laterHolds : keyed.Holds later)
    (keeps : keyed.Keeps state later) {compact : String}
    (signed : keyed.SignedUnder state compact invitee.payload)
    (signsUp : SignsUp (keyed.under later) invitee world) {draw : Nat}
    (small : draw < 2) :
    decodeInvitation (keyed.under later) compact
      (invitee.signingUp.utcNow draw) = .ok invitee.payload := by
  refine signed.decodePurposeToken laterHolds keeps (.inr rfl) _ (.inr rfl) ?_ ?_
  · have inTime := signsUp.inTime draw small
    simpa [Invitee.payload, TokenService.invitationPayload] using inTime
  · have issued := signsUp.issued draw small
    simpa [Invitee.payload, TokenService.invitationPayload] using issued

theorem gives_signupSubject {α : Type} (laterHolds : keyed.Holds later)
    (keeps : keyed.Keeps state later) {compact : String}
    (signed : keyed.SignedUnder state compact invitee.payload)
    (signsUp : SignsUp (keyed.under later) invitee world)
    {continuation : Answer (Option String × Option String × String) →
      ManagementApp α} {post : α → World → Prop} :
    Gives (manage (keyed.under later)) (signupSubject (keyed.under later)
        invitee.signingUp true (invitee.form compact) >>= continuation) world post ↔
      Gives (manage (keyed.under later)) (continuation (.success
        (some invitee.inviter.tenantId, invitee.request.role,
          invitee.request.email))) world post := by
  have hasToken : filled (invitee.form compact).invitationToken = true :=
    signed.filled
  have decodes : decodeInvitation (keyed.under later)
      (invitee.form compact).invitationToken (invitee.signingUp.utcNow 0) =
        .ok invitee.payload :=
    decodeInvitation_eq_ok laterHolds keeps signed signsUp Nat.zero_lt_two
  have found : manage (keyed.under later)
      (.invitation (.pending invitee.payload.invitationId)) world =
        (.ok (some invitee.row), world) := by
    refine Prod.ext (congrArg Except.ok ?_) rfl
    change (world.invitations.lookup invitee.row.id).filter _ = _
    have isPending : invitee.row.pending world.now = true := by
      simp [InvitationRow.pending, InvitationRow.unaccepted, Invitee.row,
        show world.now < invitee.inviting.utcNow 0 + 604800 from signsUp.pending]
    rw [signsUp.stored, Option.filter_some, if_pos isPending]
  have ran : ManagementApp.run (keyed.under later) (signupSubject
      (keyed.under later) invitee.signingUp true (invitee.form compact)) world =
        (.ok (.success (some invitee.inviter.tenantId, invitee.request.role,
          invitee.request.email)), world) := by
    have noClient : filled (invitee.form compact).clientId = false := rfl
    unfold signupSubject signupTenant signupInvitation
    simp only [noClient, Bool.false_eq_true, if_false, hasToken, if_true, decodes]
    have asked : ManagementApp.run (keyed.under later) (send
        (.invitation (.pending invitee.payload.invitationId))) world =
          (.ok (some invitee.row), world) := found
    have tried : ManagementApp.run (keyed.under later) (tryCatch (do
          let invite ← send
            (.invitation (.pending invitee.payload.invitationId))
          return .ok invite) fun cause => return .error cause) world =
        (.ok (.ok (some invitee.row) : Except Exn (Option InvitationRow)),
          world) := by
      unfold ManagementApp.run
      rw [StatementTree.run_tryCatch, StatementTree.run_bind_of_ok _ asked]
      rfl
    exact ManagementApp.run_bind_of_ok tried
  rw [StatementTree.gives_bind]
  exact StatementTree.gives_of_run ran

theorem run_acceptInvitation {deployment : Deployment} {compact : String}
    {now : Int} (hasToken : filled compact = true)
    (decoded : decodeInvitation deployment compact now = .ok invitee.payload) :
    ManagementApp.run deployment (acceptInvitation deployment compact now) world =
      (.ok (), { world with
        invitations := world.invitations.update
          (fun row => some row.id = some invitee.row.id)
          (InvitationRow.accept world.now) (InvitationRow.accept_id world.now) }) := by
  unfold acceptInvitation ManagementApp.run
  rw [if_pos hasToken, StatementTree.run_tryCatch, decoded]
  rfl

theorem acceptedAt_update {row : InvitationRow}
    (stored : world.invitations.lookup row.id = some row) :
    ((world.invitations.update (fun held => some held.id = some row.id)
      (InvitationRow.accept world.now) (InvitationRow.accept_id world.now)).lookup
        row.id).bind InvitationRow.acceptedAt = some world.now := by
  rw [KeyedTable.lookup_update, stored]
  simp [InvitationRow.accept]

theorem gives_signupSubmit (laterHolds : keyed.Holds later)
    (keeps : keyed.Keeps state later) {compact : String}
    (signed : keyed.SignedUnder state compact invitee.payload)
    (signsUp : SignsUp (keyed.under later) invitee world) :
    Gives (manage (keyed.under later)) (signupSubmit (keyed.under later) .owner
        invitee.signingUp (invitee.form compact)) world
      fun answer after => ∃ token,
        answer = .success (invitee.signingUp.secret 0, token) ∧
        keyed.SignedUnder later token.compact (TokenService.verificationPayload
          (invitee.signingUp.utcNow 2) (invitee.signingUp.utcNow 3)
          (invitee.signingUp.secret 0) invitee.inviter.tenantId) ∧
        after.users.lookup (invitee.signingUp.secret 0) =
          some (invitee.stored (keyed.under later) world.now) ∧
        (after.invitations.lookup invitee.row.id).bind InvitationRow.acceptedAt =
          some world.now := by
  have hasToken : filled (invitee.form compact).invitationToken = true :=
    signed.filled
  have decodes (draw : Nat) (small : draw < 2) :
      decodeInvitation (keyed.under later) (invitee.form compact).invitationToken
        (invitee.signingUp.utcNow draw) = .ok invitee.payload :=
    decodeInvitation_eq_ok laterHolds keeps signed signsUp small
  have notShort : ¬ (invitee.form compact).password.length < 8 :=
    not_lt_of_ge signsUp.longPassword
  unfold signupSubmit
  rw [if_neg (by simp [Invitee.form]), if_neg notShort,
    gives_signupSubject laterHolds keeps signed signsUp]
  have given : given (some invitee.inviter.tenantId) = true := signsUp.named
  simp only [given, Bool.not_true, Bool.false_eq_true, if_false,
    Option.getD_some]
  rw [gives_send (signsUp.noUser.performed .owner)]
  simp only [Option.isSome_none, Bool.false_eq_true, if_false]
  obtain ⟨users, performed, lookedUp⟩ :=
    @perform_insert_user (keyed.under later) world .owner
      (invitee.user (keyed.under later)) signsUp.fits rfl signsUp.hasTenant
      (fun _ heldMem => signsUp.noUser.differs heldMem) signsUp.freshId
  have inserts : manage (keyed.under later) (.core (.user .owner
      (.insert (invitee.user (keyed.under later))))) world =
        (.ok (), { world with users := users }) := by
    simp only [manage, perform, performed]
  obtain ⟨token, made, -, tokenSigned⟩ := laterHolds.exists_purposeToken
    (TokenService.verificationPayload (invitee.signingUp.utcNow 2)
      (invitee.signingUp.utcNow 3) (invitee.signingUp.secret 0)
      invitee.inviter.tenantId) (some (keyed.under later).tokens.jwtSecret)
  have accepts := @run_acceptInvitation { world with users := users } invitee
    (keyed.under later) _ _ hasToken (decodes 1 Nat.one_lt_two)
  unfold insertSignup
  refine (gives_send inserts).mpr ?_
  rw [StatementTree.gives_bind]
  refine (StatementTree.gives_of_run accepts).mpr ((gives_lift made).mpr ?_)
  exact ⟨_, rfl, token, rfl, tokenSigned, lookedUp,
    acceptedAt_update signsUp.stored⟩

theorem gives_verifyEmail (holds : keyed.Holds later)
    (keeps : keyed.Keeps state later) {compact userId tenantId : String}
    {madeAt issuedAt : Int} {verifying : Readings} {held : UserRow}
    (signed : keyed.SignedUnder state compact
      (TokenService.verificationPayload madeAt issuedAt userId tenantId))
    (found : world.users.lookup userId = some held)
    (issued : issuedAt ≤ verifying.utcNow 0)
    (inTime : verifying.utcNow 0 < madeAt + 86400) :
    Gives (manage (keyed.under later)) (verifyEmail (keyed.under later) .owner
        verifying compact) world
      fun answer after => answer = .success () ∧
        after.users.lookup userId = some held.verifyEmail := by
  have decoded : (keyed.under later).tokens.decodePurposeToken compact
      (verifying.utcNow 0) none none none =
        .ok (TokenService.verificationPayload madeAt issuedAt userId tenantId) := by
    refine signed.decodePurposeToken holds keeps (.inl rfl) none (.inl rfl) ?_ ?_
    · simpa [TokenService.verificationPayload] using inTime
    · simpa [TokenService.verificationPayload] using issued
  have userEq : verifiedUser (keyed.under later) compact (verifying.utcNow 0) =
      .ok userId := by
    rw [verifiedUser, decoded]
    rfl
  have tenant : manage (keyed.under later) (.verification .owner
      (.tenantOf userId)) world = (.ok (some held.tenantId), world) := by
    refine Prod.ext (congrArg Except.ok ?_) rfl
    rw [found]
    rfl
  have idEq := (KeyedTable.lookup_eq_some.mp found).2
  unfold verifyEmail
  rw [StatementTree.gives_tryCatch]
  refine .inl ((gives_lift userEq).mpr ((gives_send tenant).mpr ?_))
  refine (gives_send rfl).mpr ⟨_, rfl, rfl, ?_⟩
  refine (KeyedTable.lookup_update UserRow.verifyEmail_id _).trans ?_
  rw [found]
  simp [idEq]

end Requests

/-! ## The way to the login -/

theorem urlSafe_of_signedUnder {keyed : KeyedDeployment} {state : Keyset}
    {compact : String} {payload : Claims}
    (signed : keyed.SignedUnder state compact payload)
    (plain : PlainLinks keyed.deployment) :
    ∀ char ∈ compact.toList, char ∈ UrlQuery.alwaysSafe := by
  obtain ⟨record, header, -, -, rfl⟩ := signed
  exact plain.urlSafe _ _ _ _

theorem notMem_stripEnd {text : String} {char final : Char}
    (absent : char ∉ text.toList) : char ∉ (stripEnd text final).toList := by
  intro charMem
  unfold stripEnd at charMem
  rw [String.toList_ofList, List.mem_reverse] at charMem
  exact absent (List.mem_reverse.mp ((List.dropWhile_sublist _).subset charMem))

theorem safe_of_all {name : String}
    (all : name.toList.all UrlQuery.alwaysSafe.contains = true) :
    ∀ char ∈ name.toList, char ∈ UrlQuery.alwaysSafe := by
  intro char charMem
  exact List.contains_iff_mem.mp (List.all_eq_true.mp all char charMem)

section Links

variable {deployment : Deployment} (replaced : List UInt8 → String)

theorem urlParams_link {base path name token : String}
    (noQuery : '?' ∉ base.toList) (noFragment : '#' ∉ base.toList)
    (plainPath : '?' ∉ path.toList ∧ '#' ∉ path.toList)
    (safeName : ∀ char ∈ name.toList, char ∈ UrlQuery.alwaysSafe)
    (safe : ∀ char ∈ token.toList, char ∈ UrlQuery.alwaysSafe) :
    UrlQuery.urlParams replaced (base ++ (path ++ "?" ++ name ++ "=") ++ token) =
      [(name, token)] := by
  have written : base ++ (path ++ "?" ++ name ++ "=") ++ token =
      base ++ path ++ "?" ++ (name ++ "=" ++ token) := by
    simp only [String.append_assoc]
  rw [written]
  refine UrlQuery.urlParams_of_safe replaced ?_ ?_ safeName safe
  · rw [String.toList_append, List.mem_append, not_or]
    exact ⟨noQuery, plainPath.1⟩
  · rw [String.toList_append, List.mem_append, not_or]
    exact ⟨noFragment, plainPath.2⟩

theorem urlParams_acceptUrl (plain : PlainLinks deployment) {token : String}
    (safe : ∀ char ∈ token.toList, char ∈ UrlQuery.alwaysSafe) :
    UrlQuery.urlParams replaced (acceptUrl deployment token) =
      [("invitation", token)] :=
  @urlParams_link replaced _ "/api/v1/oidc/signup" "invitation" token
    (notMem_stripEnd plain.noQuery) (notMem_stripEnd plain.noFragment)
    (by decide) (safe_of_all (by decide)) safe

theorem urlParams_verifyUrl (plain : PlainLinks deployment) {token : String}
    (safe : ∀ char ∈ token.toList, char ∈ UrlQuery.alwaysSafe) :
    UrlQuery.urlParams replaced (verifyUrl deployment token) =
      [("token", token)] :=
  @urlParams_link replaced _ "/api/v1/onboarding/email/verify" "token" token
    plain.noQuery plain.noFragment (by decide) (safe_of_all (by decide)) safe

end Links

theorem head?_select_of_unique {world : World} {user : UserRow}
    (userMem : user ∈ world.users)
    (unique : ∀ other ∈ world.users, other.tenantId = user.tenantId →
      other.email = user.email → other.id = user.id) :
    (world.users.select fun held => held.email = user.email &&
      held.tenantId = user.tenantId &&
        (Connection.forTenant user.tenantId).sees held.tenantId).head? =
      some user := by
  have keep (held : UserRow) : (held.email = user.email &&
      held.tenantId = user.tenantId &&
        (Connection.forTenant user.tenantId).sees held.tenantId) = true ↔
      held.email = user.email ∧ held.tenantId = user.tenantId := by
    simp [Connection.sees, Connection.forTenant]
  rw [KeyedTable.select_eq_singleton userMem ((keep user).mpr ⟨rfl, rfl⟩) ?_]
  · rfl
  · intro other otherMem kept
    obtain ⟨sameEmail, sameTenant⟩ := (keep other).mp kept
    exact unique other otherMem sameTenant sameEmail

/-- `login_submit` signs a session of the user with the verified email, which is
read back as that of the invited email, tenant and role until it expires. -/
theorem gives_login {keyed : KeyedDeployment} {signingUp loggingIn : Keyset}
    {invitee : Invitee} {signIn : CodeFlow.SignIn} {world : World}
    {client : ClientRow} {storedAt : Int} (holds : keyed.Holds loggingIn)
    (named : filled invitee.inviter.tenantId = true)
    (verifiesHash : keyed.deployment.verifyPassword invitee.password
      (keyed.deployment.hashPassword invitee.password) = .ok true)
    (logsIn : LogsIn invitee signIn world client
      (invitee.stored (keyed.under signingUp) storedAt).verifyEmail) :
    ∃ session : SignedToken,
      App.Gives (keyed.under loggingIn) ((signIn.loginCall
          signIn.loginParams).program (keyed.under loggingIn)) world
        (fun answer after => answer = .consentPage client.name
            (some invitee.request.email) (splitWhitespace signIn.scope)
              signIn.loginParams.orNone (some session) ∧
          after = world) ∧
      ∀ later now, keyed.Holds later → keyed.Keeps loggingIn later →
        signIn.loggingIn.utcNow 0 ≤ now →
        now < signIn.loggingIn.utcNow 0 + 3600 →
        ∃ payload, (keyed.under later).tokens.decodeJwtToken session.compact now
            true = .ok payload ∧
          payload.sub = some invitee.request.email ∧
          payload.userId = some (invitee.signingUp.secret 0) ∧
          payload.tenantId = some invitee.inviter.tenantId ∧
          payload.role = invitee.request.role := by
  have admits : CodeFlow.Admits (keyed.under loggingIn) signIn world client
      (invitee.stored (keyed.under signingUp) storedAt).verifyEmail := by
    refine ⟨logsIn.active, ?_, ?_, rfl, rfl⟩
    · rw [logsIn.email, logsIn.ofTenant]
      exact head?_select_of_unique logsIn.found logsIn.onlyUser
    · rw [logsIn.password]
      exact verifiesHash
  obtain ⟨session, minted, answered⟩ := CodeFlow.gives_login holds.canSign
    logsIn.hasClientId (logsIn.ofTenant ▸ named) admits
  refine ⟨session, answered, ?_⟩
  intro later now laterHolds keeps issued inTime
  obtain ⟨subject, -, payloadEq, -⟩ := TokenService.createJwtToken_eq_ok minted
  refine ⟨_, holds.decode_minted laterHolds keeps minted ?_ ?_, ?_⟩
  · simpa [buildSessionPayload] using inTime
  · simpa [buildSessionPayload] using issued
  · rw [payloadEq]
    exact ⟨rfl, rfl, congrArg some logsIn.ofTenant, rfl⟩

/-- Whoever is invited can sign in: the four requests succeed one after the
other, the links of the mails carry the tokens, and the session of the login is
that of the invited email, tenant and role. -/
theorem invitation_completes {keyed : KeyedDeployment}
    {inviting signingUp verifying loggingIn : Keyset} {invitee : Invitee}
    {first second third fourth : World} {signIn : CodeFlow.SignIn}
    {client : ClientRow} (db : Connection) (replaced : List UInt8 → String)
    (holds : ∀ state ∈ [inviting, signingUp, verifying, loggingIn],
      keyed.Holds state)
    (keepsInvitation : keyed.Keeps inviting signingUp)
    (keepsMail : keyed.Keeps signingUp verifying)
    (plain : PlainLinks keyed.deployment)
    (verifiesHash : keyed.deployment.verifyPassword invitee.password
      (keyed.deployment.hashPassword invitee.password) = .ok true)
    (invites : Invites invitee first)
    (signsUp : SignsUp (keyed.under signingUp) invitee second)
    (verifies : Verifies invitee third
      (invitee.stored (keyed.under signingUp) second.now))
    (logsIn : LogsIn invitee signIn fourth client
      (invitee.stored (keyed.under signingUp) second.now).verifyEmail) :
    ∃ invitation mail session : SignedToken,
      Gives (manage (keyed.under inviting)) (createInvitation
          (keyed.under inviting) db invitee.inviting invitee.inviter
          invitee.request) first
        (fun answer after => answer = .success (invitee.row, invitation) ∧
          after.invitations.lookup invitee.row.id = some invitee.row) ∧
      UrlQuery.urlParams replaced (acceptUrl keyed.deployment invitation.compact) =
        [("invitation", invitation.compact)] ∧
      Gives (manage (keyed.under signingUp)) (signupSubmit (keyed.under signingUp)
          .owner invitee.signingUp (invitee.form invitation.compact)) second
        (fun answer after =>
          answer = .success (invitee.signingUp.secret 0, mail) ∧
          after.users.lookup (invitee.signingUp.secret 0) =
            some (invitee.stored (keyed.under signingUp) second.now) ∧
          (after.invitations.lookup invitee.row.id).bind
            InvitationRow.acceptedAt = some second.now) ∧
      UrlQuery.urlParams replaced (verifyUrl keyed.deployment mail.compact) =
        [("token", mail.compact)] ∧
      Gives (manage (keyed.under verifying)) (verifyEmail (keyed.under verifying)
          .owner invitee.verifying mail.compact) third
        (fun answer after => answer = .success () ∧
          after.users.lookup (invitee.signingUp.secret 0) = some
            (invitee.stored (keyed.under signingUp) second.now).verifyEmail) ∧
      App.Gives (keyed.under loggingIn) ((signIn.loginCall
          signIn.loginParams).program (keyed.under loggingIn)) fourth
        (fun answer after => answer = .consentPage client.name
            (some invitee.request.email) (splitWhitespace signIn.scope)
              signIn.loginParams.orNone (some session) ∧
          after = fourth) ∧
      ∀ later now, keyed.Holds later → keyed.Keeps loggingIn later →
        signIn.loggingIn.utcNow 0 ≤ now →
        now < signIn.loggingIn.utcNow 0 + 3600 →
        ∃ payload, (keyed.under later).tokens.decodeJwtToken session.compact now
            true = .ok payload ∧
          payload.sub = some invitee.request.email ∧
          payload.userId = some (invitee.signingUp.secret 0) ∧
          payload.tenantId = some invitee.inviter.tenantId ∧
          payload.role = invitee.request.role := by
  have inviteHolds := holds inviting (by simp)
  have signupHolds := holds signingUp (by simp)
  have verifyHolds := holds verifying (by simp)
  obtain ⟨_, invited, invitation, rfl, invitationSigned, stored⟩ :=
    gives_createInvitation inviteHolds db invites
  obtain ⟨_, signed, mail, rfl, mailSigned, inserted, accepted⟩ :=
    gives_signupSubmit signupHolds keepsInvitation invitationSigned signsUp
  have verified := gives_verifyEmail verifyHolds keepsMail mailSigned
    verifies.found verifies.issued verifies.inTime
  obtain ⟨session, loggedIn, readBack⟩ := gives_login (holds loggingIn (by simp))
    signsUp.named verifiesHash logsIn
  refine ⟨invitation, mail, session, ⟨_, invited, rfl, stored⟩, ?_,
    ⟨_, signed, rfl, inserted, accepted⟩, ?_, verified, loggedIn, readBack⟩
  · exact urlParams_acceptUrl replaced plain
      (urlSafe_of_signedUnder invitationSigned plain)
  · exact urlParams_verifyUrl replaced plain
      (urlSafe_of_signedUnder mailSigned plain)

/-! ## An invitation -/

/-- Anna invites Ben, who signs up a hundred seconds later. -/
def ben : Invitee where
  inviter := ⟨"u", "t", some "admin"⟩
  request := { email := "ben@x", role := some "member" }
  typedEmail := "b@x"
  password := "12345678"
  firstName := "Ben"
  lastName := "B"
  inviting := ⟨fun _ => 0, fun _ => 0, fun _ => "i"⟩
  signingUp := ⟨fun _ => 100, fun _ => 1, fun _ => "v"⟩
  verifying := ⟨fun _ => 200, fun _ => 2, fun _ => ""⟩

/-- Anna's tenant with the invitation. -/
def withInvitation : World :=
  { CodeFlow.annasTenant with invitations := .single ben.row }

/-- The tenant with Ben as its user. -/
def withBen : World :=
  { CodeFlow.annasTenant with
    users := .single
      (ben.stored (CodeFlow.shownKeys.under CodeFlow.firstKeys) 0) }

/-- And with Ben, whose email is verified. -/
def withVerifiedBen : World :=
  { CodeFlow.annasTenant with
    users := .single
      (ben.stored (CodeFlow.shownKeys.under CodeFlow.firstKeys) 0).verifyEmail }

/-- Ben signs in to the client of the tenant. -/
def bensSignIn : CodeFlow.SignIn :=
  { CodeFlow.annasSignIn with
    email := "ben@x"
    password := "12345678"
    loggingIn := ⟨fun _ => 300, fun _ => 3, fun _ => ""⟩ }

theorem plainLinks_shownKeys : PlainLinks CodeFlow.shownKeys.deployment where
  noQuery := by decide
  noFragment := by decide
  urlSafe claims key algorithm header char charMem := by
    change char ∈ (KeyTokens.write (claims, key, algorithm, header)).toList
      at charMem
    rw [KeyTokens.write, String.toList_ofList, List.mem_append] at charMem
    rcases charMem with ones | dot
    · rw [List.eq_of_mem_replicate ones]
      decide
    · rw [List.mem_singleton.mp dot]
      decide

/-- Ben is invited, signs up, has his email verified and signs in. -/
theorem bens_invitation_completes :
    ∃ invitation mail session : SignedToken,
      Gives (manage (CodeFlow.shownKeys.under CodeFlow.firstKeys))
        (createInvitation (CodeFlow.shownKeys.under CodeFlow.firstKeys) .owner
          ben.inviting ben.inviter ben.request) CodeFlow.annasTenant
        (fun answer _ => answer = .success (ben.row, invitation)) ∧
      UrlQuery.urlParams (fun _ => "")
          (acceptUrl CodeFlow.shownKeys.deployment invitation.compact) =
        [("invitation", invitation.compact)] ∧
      Gives (manage (CodeFlow.shownKeys.under CodeFlow.firstKeys))
        (signupSubmit (CodeFlow.shownKeys.under CodeFlow.firstKeys) .owner
          ben.signingUp (ben.form invitation.compact)) withInvitation
        (fun answer _ => answer = .success ("v", mail)) ∧
      UrlQuery.urlParams (fun _ => "")
          (verifyUrl CodeFlow.shownKeys.deployment mail.compact) =
        [("token", mail.compact)] ∧
      Gives (manage (CodeFlow.shownKeys.under CodeFlow.firstKeys))
        (verifyEmail (CodeFlow.shownKeys.under CodeFlow.firstKeys) .owner
          ben.verifying mail.compact) withBen
        (fun answer _ => answer = .success ()) ∧
      App.Gives (CodeFlow.shownKeys.under CodeFlow.firstKeys)
        ((bensSignIn.loginCall bensSignIn.loginParams).program
          (CodeFlow.shownKeys.under CodeFlow.firstKeys)) withVerifiedBen
        (fun answer _ => answer = .consentPage "App" (some "ben@x")
          (splitWhitespace bensSignIn.scope) bensSignIn.loginParams.orNone
            (some session)) ∧
      ∃ payload, (CodeFlow.shownKeys.under
          CodeFlow.firstKeys).tokens.decodeJwtToken session.compact 400 true =
            .ok payload ∧
        payload.sub = some "ben@x" ∧ payload.userId = some "v" ∧
          payload.tenantId = some "t" ∧ payload.role = some "member" := by
  have holds : ∀ state ∈ [CodeFlow.firstKeys, CodeFlow.firstKeys,
      CodeFlow.firstKeys, CodeFlow.firstKeys], CodeFlow.shownKeys.Holds state := by
    intro state stateMem
    obtain rfl : state = CodeFlow.firstKeys := by simpa using stateMem
    exact CodeFlow.holds_firstKeys
  have noBen : NoUser ben CodeFlow.annasTenant := by
    intro held heldMem _
    obtain rfl := List.mem_singleton.mp heldMem
    decide
  have invites : Invites ben CodeFlow.annasTenant :=
    ⟨noBen, by decide, rfl, rfl, (fun _ held => by cases held),
      (fun _ held => by cases held)⟩
  have signsUp : SignsUp (CodeFlow.shownKeys.under CodeFlow.firstKeys) ben
      withInvitation := by
    have issued : (0 : Int) ≤ 100 := by decide
    have inTime : (100 : Int) < 0 + 604800 := by decide
    refine ⟨rfl, by decide, fun _ _ => issued, fun _ _ => inTime, by decide,
      by decide, noBen, by decide, rfl, ?_⟩
    intro held heldMem
    obtain rfl := List.mem_singleton.mp heldMem
    decide
  have verifies : Verifies ben withBen
      (ben.stored (CodeFlow.shownKeys.under CodeFlow.firstKeys) 0) :=
    ⟨rfl, by decide, by decide⟩
  have logsIn : LogsIn ben bensSignIn withVerifiedBen CodeFlow.app
      (ben.stored (CodeFlow.shownKeys.under CodeFlow.firstKeys) 0).verifyEmail := by
    refine ⟨rfl, rfl, by decide, rfl, rfl, List.mem_singleton_self _, ?_⟩
    intro other otherMem _ _
    obtain rfl := List.mem_singleton.mp otherMem
    rfl
  obtain ⟨invitation, mail, session, invited, accepts, signed, confirms, verified,
    loggedIn, readBack⟩ :=
    @invitation_completes _ _ _ _ CodeFlow.firstKeys _ _ _ _ withVerifiedBen
      bensSignIn CodeFlow.app .owner (fun _ => "") holds CodeFlow.keeps_firstKeys
      CodeFlow.keeps_firstKeys plainLinks_shownKeys rfl invites signsUp verifies
      logsIn
  exact ⟨invitation, mail, session, invited.mono fun _ _ answered => answered.1,
    accepts, signed.mono fun _ _ answered => answered.1, confirms,
    verified.mono fun _ _ answered => answered.1,
    loggedIn.mono fun _ _ answered => answered.1,
    readBack CodeFlow.firstKeys 400 CodeFlow.holds_firstKeys
      CodeFlow.keeps_firstKeys (by decide) (by decide)⟩

end InvitedSignIn

end HexIam
