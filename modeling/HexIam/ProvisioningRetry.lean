import HexIam.FailingRun
import HexIam.FederatedSignIn

/-!
# Federated provisioning when a statement fails

`_find_or_create_local_user` inserts a user and then its link, and each of the
two statements commits by itself.  A failure in between leaves a user without a
link.  The next call with the same claims finds it by the email of the claims,
and links it only where an unverified email is good enough for the provider.
Claims without an email give the same synthesized address again, which is taken
now.
-/

namespace HexIam

open StatementTree

namespace ProvisioningRetry

open FederatedSignIn

/-! ## The property -/

/-- The constraint `UNIQUE(tenant_id, email)`. -/
def UniqueEmails (world : World) : Prop :=
  ∀ user ∈ world.users, ∀ other ∈ world.users,
    user.tenantId = other.tenantId → user.email = other.email → user = other

/-- The two ids a call generates are stored nowhere yet. -/
structure Unused (world : World) (readings : Readings) : Prop where
  user : ∀ held ∈ world.users, held.id ≠ readings.secret 0
  links : ∀ row ∈ world.identities,
    row.id ≠ readings.secret 2 ∧ row.userId ≠ readings.secret 0

section Property

variable (deployment : Deployment) (db : Connection) (readings : Readings)
variable (tenantId : String) (provider : ProviderRow) (claims : UpstreamClaims)

/-- A call returns a user with this email, and leaves one user with it and one
link for the subject. -/
def Recovers (email : String) (world : World) : Prop :=
  ∃ user final subject,
    App.run deployment (findOrCreateLocalUser deployment db readings tenantId
      provider claims) world = (.ok user, final) ∧
    user.email = email ∧ Subject claims subject ∧
    (∃! held, held ∈ final.users ∧ held.tenantId = user.tenantId ∧
      held.email = user.email) ∧
    ∃! row, row ∈ final.identities ∧ row.key = (tenantId, provider.id, subject)

end Property

/-! ## The condition -/

section Condition

variable (db : Connection) (tenantId : String) (provider : ProviderRow)
variable (claims : UpstreamClaims)

/-- How many statements precede the insert of a user. -/
def insertAt : Nat :=
  if (PyValue.get claims "email").truthy then 2 else 1

/-- The call provisions a user and fails after its insert. -/
structure LeavesUnlinked (world : World) (place : Nat) : Prop where
  unlinked : ∀ subject, Subject claims subject →
    linkedUser world db tenantId provider.id subject = none
  nobody : ∀ email, Email claims email →
    userWithEmail world db tenantId email = none
  afterInsert : insertAt claims < place

/-- The claims have an email, and the provider may link by it. -/
def MayLinkByEmail : Prop :=
  (PyValue.get claims "email").truthy = true ∧
    (provider.linkByEmailVerifiedOnly = true →
      normalizedEmailVerified claims = true)

end Condition

/-! ## Accepted rows -/

section Rows

variable {deployment : Deployment} {db : Connection} {world after : World}

/-- The constraints on a new user other than its id. -/
structure AcceptsUser (world : World) (db : Connection) (row : UserRow) : Prop where
  lengths : row.email.length ≤ 255 ∧ row.firstName.length ≤ 100 ∧
    row.lastName.length ≤ 100 ∧ fits 100 row.role = true
  mayInsert : db.mayInsert row.tenantId = true
  hasTenant : world.hasTenant row.tenantId = true
  unique : ∀ user ∈ world.users, user.tenantId = row.tenantId →
    user.email ≠ row.email

theorem insert_user_eq_ok {row : UserRow} :
    perform deployment (.user db (.insert row)) world = (.ok (), after) ↔
      AcceptsUser world db row ∧ ∃ users,
        world.users.insert { row with lastModified := world.now } = some users ∧
        after = { world with users := users } := by
  have lengths_iff : (row.email.length ≤ 255 && row.firstName.length ≤ 100 &&
      row.lastName.length ≤ 100 && fits 100 row.role) = true ↔
      row.email.length ≤ 255 ∧ row.firstName.length ≤ 100 ∧
        row.lastName.length ≤ 100 ∧ fits 100 row.role = true := by
    simp [and_assoc]
  have unique_iff : (world.users.select fun user => user.tenantId = row.tenantId &&
      user.email = row.email).isEmpty = true ↔
      ∀ user ∈ world.users, user.tenantId = row.tenantId →
        user.email ≠ row.email := by
    rw [List.isEmpty_iff, List.eq_nil_iff_forall_not_mem]
    simp [KeyedTable.mem_select]
  simp only [perform, UserStmt.perform, Prod.mk.injEq]
  split
  case h_1 users accepted =>
    simp only [require_bind_eq_ok, lengths_iff, unique_iff] at accepted
    obtain ⟨lengths, mayInsert, hasTenant, unique, inserted⟩ := accepted
    have insertedEq : world.users.insert { row with lastModified := world.now } =
        some users := by
      split at inserted
      case h_1 found =>
        cases inserted
        exact found
      case h_2 => cases inserted
    simp only [true_and, insertedEq, Option.some.injEq, exists_eq_left']
    exact ⟨fun same => ⟨⟨lengths, mayInsert, hasTenant, unique⟩, same.symm⟩,
      fun holds => holds.2.symm⟩
  case h_2 error refused =>
    simp only [reduceCtorEq, false_and, false_iff]
    rintro ⟨⟨lengths, mayInsert, hasTenant, unique⟩, users, inserted, -⟩
    simp only [require, lengths_iff.mpr lengths, mayInsert, hasTenant,
      unique_iff.mpr unique, inserted] at refused
    cases refused

theorem uniqueEmails_insert {row : UserRow} (unique : UniqueEmails world)
    (accepts : AcceptsUser world db row) {users : UserTable}
    (inserted : world.users.insert { row with lastModified := world.now } =
      some users) : UniqueEmails { world with users := users } := by
  intro user userMem other otherMem sameTenant sameEmail
  rcases (KeyedTable.mem_of_insert inserted).mp userMem with old | rfl <;>
    rcases (KeyedTable.mem_of_insert inserted).mp otherMem with otherOld | rfl
  · exact unique user old other otherOld sameTenant sameEmail
  · exact absurd sameEmail (accepts.unique user old sameTenant)
  · exact absurd sameEmail.symm (accepts.unique other otherOld sameTenant.symm)
  · rfl

/-- The constraints on a link that is not there yet. -/
structure AcceptsLink (world : World) (row : IdentityRow) : Prop where
  unique : ∀ held ∈ world.identities, held.id ≠ row.id ∧
    ¬ (held.tenantId = row.tenantId ∧ held.providerId = row.providerId ∧
      held.userId = row.userId)
  keys : world.hasTenant row.tenantId = true ∧ world.hasUser row.userId = true ∧
    (world.providers.lookup row.providerId).isSome = true

theorem accepts_eq_ok {row : IdentityRow} :
    IdentityStmt.accepts world row = .ok () ↔ AcceptsLink world row := by
  have unique_iff : (world.identities.select fun held => held.id = row.id ||
      (held.tenantId = row.tenantId && held.providerId = row.providerId &&
        held.userId = row.userId)).isEmpty = true ↔
      ∀ held ∈ world.identities, held.id ≠ row.id ∧
        ¬ (held.tenantId = row.tenantId ∧ held.providerId = row.providerId ∧
          held.userId = row.userId) := by
    rw [List.isEmpty_iff, List.eq_nil_iff_forall_not_mem]
    simp [KeyedTable.mem_select, and_assoc]
  unfold IdentityStmt.accepts
  rw [require_bind_eq_ok, unique_iff]
  have keys_iff : require (world.hasTenant row.tenantId &&
      world.hasUser row.userId && (world.providers.lookup row.providerId).isSome)
      "federated_identities_fkey" = .ok () ↔
      world.hasTenant row.tenantId = true ∧ world.hasUser row.userId = true ∧
        (world.providers.lookup row.providerId).isSome = true := by
    simp [require, and_assoc, Option.isSome_iff_ne_none]
  rw [keys_iff]
  exact ⟨fun holds => ⟨holds.1, holds.2⟩, fun holds => ⟨holds.unique, holds.keys⟩⟩

/-- The links after an upsert. -/
def putLink (world : World) (row : IdentityRow) : World :=
  let links := world.identities.upsert row
    (IdentityRow.setEmail row.externalEmail)
    (IdentityRow.setEmail_key row.externalEmail)
  { world with identities := links }

theorem upsert_link_eq_ok {id tenantId providerId userId subject : String}
    {email : Option String} :
    perform deployment (.identity db (.upsert id tenantId providerId userId
        (some subject) email)) world = (.ok (), after) ↔
      ((world.identities.lookup (tenantId, providerId, subject)).isSome = true ∨
        AcceptsLink world ⟨id, tenantId, providerId, userId, subject, email⟩) ∧
      after =
        putLink world ⟨id, tenantId, providerId, userId, subject, email⟩ := by
  rw [← accepts_eq_ok]
  simp only [perform, IdentityStmt.perform, Prod.mk.injEq, IdentityRow.key]
  by_cases isLinked :
      (world.identities.lookup (tenantId, providerId, subject)).isSome = true
  · simp only [isLinked, if_true, true_or, true_and]
    exact eq_comm
  · rw [Bool.not_eq_true] at isLinked
    cases accepted : IdentityStmt.accepts world
        ⟨id, tenantId, providerId, userId, subject, email⟩ with
    | ok =>
        simp only [isLinked, Bool.false_eq_true, if_false, false_or, true_and]
        exact eq_comm
    | error error => simp [isLinked]

/-- There is one link for the subject after an upsert. -/
theorem existsUnique_putLink {row : IdentityRow} :
    ∃! held, held ∈ (putLink world row).identities ∧ held.key = row.key := by
  have isSome : ∃ held, (putLink world row).identities.lookup row.key =
      some held := by
    unfold putLink
    dsimp only
    rw [KeyedTable.lookup_upsert, if_pos rfl]
    exact ⟨_, rfl⟩
  obtain ⟨held, found⟩ := isSome
  refine ⟨held, KeyedTable.lookup_eq_some.mp found, ?_⟩
  rintro other ⟨otherMem, sameKey⟩
  exact Option.some.inj ((KeyedTable.lookup_eq_some.mpr
    ⟨otherMem, sameKey⟩).symm.trans found)

end Rows

/-! ## The courses of a call that returns -/

section Courses

variable (deployment : Deployment) (db : Connection) (readings : Readings)
variable (tenantId : String) (provider : ProviderRow) (claims : UpstreamClaims)

/-- The email of the claims, and that the tenant has nobody with it. -/
def NewEmail (world : World) (email : Option String) : Prop :=
  email = none ∧ (PyValue.get claims "email").truthy = false ∨
    ∃ address, email = some address ∧ Email claims address ∧
      userWithEmail world db tenantId address = none

/-- The query for the link of a subject. -/
abbrev findLink (subject : String) : Stmt :=
  .identity db (.linkedUser tenantId provider.id (some subject))

/-- The statement that stores a link. -/
abbrev storeLink (userId subject : String) (externalEmail : Option String) :
    Stmt :=
  .identity db (.upsert (readings.secret 2) tenantId provider.id userId
    (some subject) externalEmail)

/-- The query for the email of the claims. -/
def findEmail (email : Option String) : List Stmt :=
  email.toList.map fun address => .user db (.byTenantEmail tenantId address)

/-- The statements of a call that returns the user, and the world after it. -/
inductive Course (subject : String) (before : World) (user : UserRow) :
    List Stmt → World → Prop
  | linked (found : linkedUser before db tenantId provider.id subject =
        some user) :
      Course subject before user [findLink db tenantId provider subject] before
  | existing (email : String) (externalEmail : Option String) (after : World)
      (missing : linkedUser before db tenantId provider.id subject = none)
      (autoLink : provider.autoLink = true) (isEmail : Email claims email)
      (found : userWithEmail before db tenantId email = some user)
      (verified : provider.linkByEmailVerifiedOnly = true →
        normalizedEmailVerified claims = true)
      (bound : bindText (PyValue.get claims "email") = .ok externalEmail)
      (stored : perform deployment (storeLink db readings tenantId provider
        user.id subject externalEmail) before = (.ok (), after)) :
      Course subject before user
        [findLink db tenantId provider subject,
          .user db (.byTenantEmail tenantId email),
          storeLink db readings tenantId provider user.id subject externalEmail]
        after
  | provisioned (email externalEmail : Option String) (row : UserRow)
      (between after : World)
      (missing : linkedUser before db tenantId provider.id subject = none)
      (autoLink : provider.autoLink = true)
      (newEmail : NewEmail db tenantId claims before email)
      (isRow : provisionedUser deployment readings tenantId provider claims
        (some subject) email = .ok row)
      (inserted : perform deployment (.user db (.insert row)) before =
        (.ok (), between))
      (sees : db.sees row.tenantId = true)
      (isUser : user = { row with lastModified := before.now })
      (bound : bindText (PyValue.get claims "email") = .ok externalEmail)
      (stored : perform deployment (storeLink db readings tenantId provider
        user.id subject externalEmail) between = (.ok (), after)) :
      Course subject before user
        (findLink db tenantId provider subject :: findEmail db tenantId email ++
          [.user db (.insert row), .user db (.byId row.id),
            storeLink db readings tenantId provider user.id subject
              externalEmail])
        after

end Courses

section Runs

variable {deployment : Deployment} {db : Connection} {readings : Readings}
variable {tenantId : String} {provider : ProviderRow} {claims : UpstreamClaims}
variable {world after : World} {user : UserRow} {subject : String}

theorem performs_ofExcept {α : Type} {result : Except Exn α} :
    Performs (perform deployment) (ofExcept result) world [] result world :=
  performs_done

theorem performs_userToLink {email : String} (isEmail : Email claims email) :
    Performs (perform deployment) (userToLink db tenantId provider claims) world
      [.user db (.byTenantEmail tenantId email)]
      (if (userWithEmail world db tenantId email).isSome &&
          provider.linkByEmailVerifiedOnly && !normalizedEmailVerified claims then
        .error (.value
          "Provider email must be verified before auto-linking to an existing user")
      else .ok (userWithEmail world db tenantId email)) world := by
  have truthy : (PyValue.get claims "email").truthy = true := by
    rw [isEmail.1]
    exact isEmail.2
  have bound : bindText (PyValue.get claims "email") = .ok (some email) := by
    rw [isEmail.1]
    rfl
  unfold userToLink
  dsimp only
  rw [if_pos truthy, bound]
  have asked : Performs (perform deployment)
      (ask (.user db (.byTenantEmail tenantId email))) world _
      (.ok (userWithEmail world db tenantId email)) world := performs_ask rfl
  refine performs_ofExcept.bind (asked.bind ?_)
  split
  · exact performs_done
  · exact performs_done

theorem performs_userToLink_of_falsy
    (falsy : (PyValue.get claims "email").truthy = false) :
    Performs (perform deployment) (userToLink db tenantId provider claims) world
      [] (.ok none) world := by
  unfold userToLink
  dsimp only
  rw [falsy, if_neg Bool.false_ne_true]
  exact performs_done

/-- The email of the claims, as `provisionUser` reads it. -/
theorem email_eq {email : Option String}
    (newEmail : NewEmail db tenantId claims world email) :
    (if (PyValue.get claims "email").truthy then
      bindText (PyValue.get claims "email") else .ok none) = .ok email := by
  rcases newEmail with ⟨rfl, falsy⟩ | ⟨address, rfl, isEmail, -⟩
  · rw [falsy]
    rfl
  · rw [isEmail.1]
    exact if_pos isEmail.2

theorem performs_provisionUser {email : Option String} {row : UserRow}
    {between : World} (newEmail : NewEmail db tenantId claims world email)
    (isRow : provisionedUser deployment readings tenantId provider claims
      (some subject) email = .ok row)
    (inserted : perform deployment (.user db (.insert row)) world =
      (.ok (), between))
    (sees : db.sees row.tenantId = true) :
    Performs (perform deployment) (provisionUser deployment db readings tenantId
        provider claims (some subject)) world
      [.user db (.insert row), .user db (.byId row.id)]
      (.ok { row with lastModified := world.now }) between := by
  obtain ⟨-, users, stored, rfl⟩ := insert_user_eq_ok.mp inserted
  have found : users.lookup row.id = some { row with lastModified := world.now } :=
    KeyedTable.lookup_eq_some.mpr
      ⟨(KeyedTable.mem_of_insert stored).mpr (.inr rfl), rfl⟩
  have asked : Performs (perform deployment) (ask (.user db (.byId row.id)))
      { world with users := users } [.user db (.byId row.id)]
      (.ok (some { row with lastModified := world.now }))
      { world with users := users } := by
    refine performs_ask ?_
    simp only [perform, UserStmt.perform, found, Option.filter_some, sees, if_true]
  have made : Performs (perform deployment) (ofExcept (provisionedUser deployment
      readings tenantId provider claims (some subject) email)) world [] (.ok row)
      world := by
    rw [isRow]
    exact performs_ofExcept
  unfold provisionUser
  dsimp only
  rw [email_eq newEmail]
  exact performs_ofExcept.bind (made.bind
    ((performs_ask inserted).bind (asked.bind performs_done)))

theorem performs_linkOrProvision {email : Option String} {row : UserRow}
    {between : World} (newEmail : NewEmail db tenantId claims world email)
    (isRow : provisionedUser deployment readings tenantId provider claims
      (some subject) email = .ok row)
    (inserted : perform deployment (.user db (.insert row)) world =
      (.ok (), between))
    (sees : db.sees row.tenantId = true) :
    Performs (perform deployment) (linkOrProvision deployment db readings
        tenantId provider claims (some subject)) world
      (findEmail db tenantId email ++
        [.user db (.insert row), .user db (.byId row.id)])
      (.ok { row with lastModified := world.now }) between := by
  have made := performs_provisionUser newEmail isRow inserted sees
  rcases newEmail with ⟨rfl, falsy⟩ | ⟨address, rfl, isEmail, nobody⟩
  · exact (performs_userToLink_of_falsy falsy).bind made
  · have asked := @performs_userToLink deployment db tenantId provider claims
      world address isEmail
    rw [nobody] at asked
    exact asked.bind made

theorem performs_linkOrProvision_of_existing {email : String}
    (isEmail : Email claims email)
    (found : userWithEmail world db tenantId email = some user)
    (verified : provider.linkByEmailVerifiedOnly = true →
      normalizedEmailVerified claims = true) :
    Performs (perform deployment) (linkOrProvision deployment db readings
        tenantId provider claims (some subject)) world
      [.user db (.byTenantEmail tenantId email)] (.ok user) world := by
  have lookedUp := @performs_userToLink deployment db tenantId provider claims
    world email isEmail
  have allowed : ¬ ((userWithEmail world db tenantId email).isSome &&
      provider.linkByEmailVerifiedOnly && !normalizedEmailVerified claims) =
      true := by
    cases only : provider.linkByEmailVerifiedOnly with
    | false => simp
    | true => simp [verified only]
  rw [if_neg allowed, found] at lookedUp
  exact lookedUp.bind performs_done

theorem performs_unlinked {externalEmail : Option String} {stmts : List Stmt}
    {between : World} (isSubject : Subject claims subject)
    (missing : linkedUser world db tenantId provider.id subject = none)
    (autoLink : provider.autoLink = true)
    (chosen : Performs (perform deployment) (linkOrProvision deployment db
      readings tenantId provider claims (some subject)) world stmts (.ok user)
      between)
    (bound : bindText (PyValue.get claims "email") = .ok externalEmail)
    (stored : perform deployment (storeLink db readings tenantId provider user.id
      subject externalEmail) between = (.ok (), after)) :
    Performs (perform deployment) (findOrCreateLocalUser deployment db readings
        tenantId provider claims) world
      (findLink db tenantId provider subject :: (stmts ++
        [storeLink db readings tenantId provider user.id subject externalEmail]))
      (.ok user) after := by
  have asked : Performs (perform deployment)
      (ask (findLink db tenantId provider subject)) world
      [findLink db tenantId provider subject] (.ok none) world := by
    rw [← missing]
    exact performs_ask rfl
  unfold findOrCreateLocalUser
  rw [isSubject]
  refine performs_ofExcept.bind (asked.bind ?_)
  dsimp only
  rw [autoLink, Bool.not_true, if_neg Bool.false_ne_true, bound]
  exact chosen.bind (performs_ofExcept.bind
    ((performs_ask stored).bind performs_done))

theorem performs_findOrCreateLocalUser {stmts : List Stmt}
    (isSubject : Subject claims subject)
    (course : Course deployment db readings tenantId provider claims subject world
      user stmts after) :
    Performs (perform deployment) (findOrCreateLocalUser deployment db readings
      tenantId provider claims) world stmts (.ok user) after := by
  cases course with
  | linked found =>
      have asked : Performs (perform deployment)
          (ask (findLink db tenantId provider subject)) world
          [findLink db tenantId provider subject] (.ok (some user)) world := by
        rw [← found]
        exact performs_ask rfl
      unfold findOrCreateLocalUser
      rw [isSubject]
      exact performs_ofExcept.bind (asked.bind performs_done)
  | existing email externalEmail after missing autoLink isEmail found verified
      bound stored =>
      exact performs_unlinked isSubject missing autoLink
        (performs_linkOrProvision_of_existing isEmail found verified) bound stored
  | provisioned email externalEmail row between after missing autoLink newEmail
      isRow inserted sees isUser bound stored =>
      subst isUser
      have made := performs_unlinked isSubject missing autoLink
        (performs_linkOrProvision newEmail isRow inserted sees) bound stored
      rwa [List.append_assoc] at made

theorem provisionUser_inserted
    (ran : App.run deployment (provisionUser deployment db readings tenantId
      provider claims (some subject)) world = (.ok user, after)) :
    ∃ email row,
      (email = none ∧ (PyValue.get claims "email").truthy = false ∨
        ∃ address, email = some address ∧ Email claims address) ∧
      provisionedUser deployment readings tenantId provider claims (some subject)
        email = .ok row ∧
      perform deployment (.user db (.insert row)) world = (.ok (), after) ∧
      db.sees row.tenantId = true ∧
      user = { row with lastModified := world.now } := by
  obtain ⟨email, _, first, rest⟩ := App.run_bind_eq_ok.mp ran
  obtain ⟨emailEq, rfl⟩ := Prod.mk.inj first
  obtain ⟨row, _, second, rest⟩ := App.run_bind_eq_ok.mp rest
  obtain ⟨rowEq, rfl⟩ := Prod.mk.inj second
  obtain ⟨⟨⟩, between, inserted, rest⟩ := App.run_bind_eq_ok.mp rest
  obtain ⟨-, users, stored, rfl⟩ := insert_user_eq_ok.mp inserted
  have found : users.lookup row.id = some { row with lastModified := world.now } :=
    KeyedTable.lookup_eq_some.mpr
      ⟨(KeyedTable.mem_of_insert stored).mpr (.inr rfl), rfl⟩
  obtain ⟨back, _, read, rest⟩ := App.run_bind_eq_ok.mp rest
  obtain ⟨backEq, rfl⟩ := Prod.mk.inj read
  have backEq : (users.lookup row.id).filter (fun user => db.sees user.tenantId) =
      back := Except.ok.inj backEq
  rw [found] at backEq
  cases back with
  | none => cases rest
  | some held =>
      obtain ⟨isRow, sees⟩ := Option.filter_eq_some_iff.mp backEq
      cases isRow
      cases rest
      exact ⟨email, row, email_of_bindText emailEq, rowEq, inserted, sees, rfl⟩

theorem email_unique {email other : Option String}
    (isEmail : email = none ∧ (PyValue.get claims "email").truthy = false ∨
      ∃ address, email = some address ∧ Email claims address)
    (isOther : other = none ∧ (PyValue.get claims "email").truthy = false ∨
      ∃ address, other = some address ∧ Email claims address) :
    email = other := by
  have not_falsy {address : String} (isAddress : Email claims address) :
      (PyValue.get claims "email").truthy ≠ false := by
    rw [isAddress.1, PyValue.truthy, isAddress.2]
    exact Bool.true_eq_false.mp
  rcases isEmail with ⟨rfl, falsy⟩ | ⟨address, rfl, isAddress⟩ <;>
    rcases isOther with ⟨rfl, otherFalsy⟩ | ⟨otherAddress, rfl, isOtherAddress⟩
  · rfl
  · exact absurd falsy (not_falsy isOtherAddress)
  · exact absurd otherFalsy (not_falsy isAddress)
  · rw [PyValue.text.inj (isAddress.1.symm.trans isOtherAddress.1)]

theorem accepted_of_linkOrProvision {email : Option String} {row : UserRow}
    (newEmail : NewEmail db tenantId claims world email)
    (isRow : provisionedUser deployment readings tenantId provider claims
      (some subject) email = .ok row)
    (ran : App.run deployment (linkOrProvision deployment db readings tenantId
      provider claims (some subject)) world = (.ok user, after)) :
    AcceptsUser world db row := by
  have lookedUp : App.run deployment (userToLink db tenantId provider claims)
      world = (.ok none, world) := by
    rcases newEmail with ⟨rfl, falsy⟩ | ⟨address, rfl, isEmail, nobody⟩
    · exact (performs_userToLink_of_falsy falsy).ran
    · have asked := @performs_userToLink deployment db tenantId provider claims
        world address isEmail
      rw [nobody] at asked
      exact asked.ran
  unfold linkOrProvision at ran
  rw [App.run_bind_of_ok lookedUp] at ran
  obtain ⟨other, otherRow, isOther, isOtherRow, inserted, -⟩ :=
    provisionUser_inserted ran
  cases email_unique isOther (newEmail.imp_right fun ⟨address, isAddress, isEmail, _⟩ =>
    ⟨address, isAddress, isEmail⟩)
  cases isOtherRow.symm.trans isRow
  exact (insert_user_eq_ok.mp inserted).1

/-- A call that returns a user took one of the courses. -/
theorem course_of_ok
    (ran : App.run deployment (findOrCreateLocalUser deployment db readings
      tenantId provider claims) world = (.ok user, after)) :
    ∃ subject stmts, Subject claims subject ∧
      Course deployment db readings tenantId provider claims subject world user
        stmts after := by
  obtain ⟨subject, isSubject, resolves, sees⟩ := findOrCreateLocalUser_eq_ok ran
  refine ⟨subject, ?_⟩
  cases resolves with
  | linked found => exact ⟨_, isSubject, .linked found⟩
  | unlinked between _ missing autoLink chosen links =>
      obtain ⟨externalEmail, bound, stored⟩ := links.email
      cases chosen with
      | existing email isEmail found verified =>
          exact ⟨_, isSubject, .existing email externalEmail after missing autoLink
            isEmail found verified bound stored⟩
      | provisioned email users isEmail row isRow isUser inserted =>
          have asked : App.run deployment (ask (findLink db tenantId provider
              subject)) world = (.ok none, world) := by
            rw [← missing]
            rfl
          have subjectBound : App.run deployment
              (ofExcept (bindText (.text subject))) world =
              (.ok (some subject), world) := rfl
          unfold findOrCreateLocalUser at ran
          rw [isSubject] at ran
          dsimp only at ran
          rw [App.run_bind_of_ok subjectBound, App.run_bind_of_ok asked] at ran
          dsimp only at ran
          rw [autoLink, Bool.not_true, if_neg Bool.false_ne_true] at ran
          obtain ⟨made, _, first, -⟩ := App.run_bind_eq_ok.mp ran
          have accepts := accepted_of_linkOrProvision isEmail isRow first
          exact ⟨_, isSubject, .provisioned email externalEmail row _ after missing
            autoLink isEmail isRow
            (insert_user_eq_ok.mpr ⟨accepts, users, isUser ▸ inserted, rfl⟩)
            (by rw [isUser] at sees; exact sees) isUser bound stored⟩

end Runs

/-! ## What a course leaves -/

section Leaves

variable {deployment : Deployment} {db : Connection} {readings : Readings}
variable {tenantId : String} {provider : ProviderRow} {claims : UpstreamClaims}
variable {world after : World} {user : UserRow} {subject : String}
variable {stmts : List Stmt}

theorem uniqueEmails_of_course (unique : UniqueEmails world)
    (course : Course deployment db readings tenantId provider claims subject world
      user stmts after) : UniqueEmails after := by
  cases course with
  | linked found => exact unique
  | existing email externalEmail after missing autoLink isEmail found verified
      bound stored =>
      rw [(upsert_link_eq_ok.mp stored).2]
      exact unique
  | provisioned email externalEmail row between after missing autoLink newEmail
      isRow inserted sees isUser bound stored =>
      obtain ⟨accepts, users, insertedEq, rfl⟩ := insert_user_eq_ok.mp inserted
      rw [(upsert_link_eq_ok.mp stored).2]
      exact uniqueEmails_insert unique accepts insertedEq

/-- There is one link for the subject. -/
theorem existsUnique_link_of_course
    (course : Course deployment db readings tenantId provider claims subject world
      user stmts after) :
    ∃! row, row ∈ after.identities ∧
      row.key = (tenantId, provider.id, subject) := by
  cases course with
  | linked found =>
      obtain ⟨row, rowEq, -⟩ := Option.bind_eq_some_iff.mp found
      refine ⟨row, KeyedTable.lookup_eq_some.mp rowEq, ?_⟩
      rintro other ⟨otherMem, sameKey⟩
      exact Option.some.inj ((KeyedTable.lookup_eq_some.mpr
        ⟨otherMem, sameKey⟩).symm.trans rowEq)
  | existing email externalEmail after missing autoLink isEmail found verified
      bound stored =>
      rw [(upsert_link_eq_ok.mp stored).2]
      exact existsUnique_putLink
  | provisioned email externalEmail row between after missing autoLink newEmail
      isRow inserted sees isUser bound stored =>
      rw [(upsert_link_eq_ok.mp stored).2]
      exact existsUnique_putLink

theorem recovers_of_course (isSubject : Subject claims subject)
    (unique : UniqueEmails world)
    (course : Course deployment db readings tenantId provider claims subject world
      user stmts after) :
    Recovers deployment db readings tenantId provider claims user.email world := by
  have ran := (performs_findOrCreateLocalUser isSubject course).ran
  obtain ⟨other, -, resolves, -⟩ := findOrCreateLocalUser_eq_ok ran
  have userMem := resolves.user_mem
  refine ⟨user, after, subject, ran, rfl, isSubject, ⟨user, ⟨userMem, rfl, rfl⟩, ?_⟩,
    existsUnique_link_of_course course⟩
  rintro held ⟨heldMem, sameTenant, sameEmail⟩
  exact uniqueEmails_of_course unique course held heldMem user userMem sameTenant
    sameEmail

end Leaves

/-! ## The failing call -/

/-- A user is inserted for the claims, and its link could still be stored. -/
def HalfDone (deployment : Deployment) (db : Connection) (readings : Readings)
    (tenantId : String) (provider : ProviderRow) (claims : UpstreamClaims)
    (subject : String) (user : UserRow) (before middle : World) : Prop :=
  ∃ email externalEmail row after, provider.autoLink = true ∧
    linkedUser before db tenantId provider.id subject = none ∧
    NewEmail db tenantId claims before email ∧
    provisionedUser deployment readings tenantId provider claims (some subject)
      email = .ok row ∧
    perform deployment (.user db (.insert row)) before = (.ok (), middle) ∧
    db.sees row.tenantId = true ∧
    user = { row with lastModified := before.now } ∧
    bindText (PyValue.get claims "email") = .ok externalEmail ∧
    perform deployment (storeLink db readings tenantId provider user.id subject
      externalEmail) middle = (.ok (), after)

section Failure

variable {deployment : Deployment} {db : Connection} {readings : Readings}
variable {tenantId : String} {provider : ProviderRow} {claims : UpstreamClaims}
variable {world middle after : World} {user : UserRow} {subject : String}
variable {stmts : List Stmt}

theorem propagates_findOrCreateLocalUser :
    Propagates (findOrCreateLocalUser deployment db readings tenantId provider
      claims) := by
  have userToLink : Propagates (userToLink db tenantId provider claims) := by
    unfold userToLink
    dsimp only
    split
    · refine (propagates_done _).bind fun email =>
        (propagates_ask _).bind fun found => ?_
      split <;> exact propagates_done _
    · exact propagates_done _
  have provision (subject : Option String) : Propagates (provisionUser deployment db
      readings tenantId provider claims subject) := by
    refine (propagates_done _).bind fun email => (propagates_done _).bind fun row =>
      (propagates_ask _).bind fun _ => (propagates_ask _).bind fun found => ?_
    split <;> exact propagates_done _
  unfold findOrCreateLocalUser
  split
  · exact propagates_done _
  · refine (propagates_done _).bind fun subject =>
      (propagates_ask _).bind fun found => ?_
    split
    · exact propagates_done _
    · split
      · exact propagates_done _
      · refine Propagates.bind (userToLink.bind fun found => ?_) fun user =>
          (propagates_done _).bind fun email =>
            (propagates_ask _).bind fun _ => propagates_done _
        split
        · exact propagates_done _
        · exact provision subject

/-- A call that fails has performed some of the statements of its course. -/
theorem middle_of_failure {error : Exn} {place : Nat}
    (isSubject : Subject claims subject)
    (course : Course deployment db readings tenantId provider claims subject world
      user stmts after)
    (fails : runFailing (fun _ => true) error (perform deployment)
      (findOrCreateLocalUser deployment db readings tenantId provider claims)
      (some place) world = (.error error, middle)) :
    place < stmts.length ∧ middle = (stmts.take place).foldl
      (fun world stmt => (perform deployment stmt world).2) world := by
  have performs := performs_findOrCreateLocalUser isSubject course
  rw [propagates_findOrCreateLocalUser.runFailing_eq, performs.performed_eq] at fails
  split at fails
  case isTrue early => exact ⟨early, (Prod.mk.inj fails).2.symm⟩
  case isFalse =>
    cases performs.ran.symm.trans fails

/-- A call for claims without a user leaves one unlinked when it fails late
enough. -/
theorem leavesUnlinked_iff {email : Option String}
    (isSubject : Subject claims subject)
    (missing : linkedUser world db tenantId provider.id subject = none)
    (newEmail : NewEmail db tenantId claims world email) (place : Nat) :
    LeavesUnlinked db tenantId provider claims world place ↔
      insertAt claims < place := by
  refine ⟨fun leaves => leaves.afterInsert, fun afterInsert => ⟨?_, ?_, afterInsert⟩⟩
  · intro other isOther
    cases Option.some.inj (isSubject.symm.trans isOther)
    exact missing
  · intro address isAddress
    rcases newEmail with ⟨-, falsy⟩ | ⟨other, -, isOther, nobody⟩
    · rw [isAddress.1, PyValue.truthy, isAddress.2] at falsy
      cases falsy
    · rw [PyValue.text.inj (isAddress.1.symm.trans isOther.1)]
      exact nobody

/-- Either nothing has changed, or a user is inserted and not linked. -/
theorem failure_cases {error : Exn} {place : Nat}
    (isSubject : Subject claims subject)
    (course : Course deployment db readings tenantId provider claims subject world
      user stmts after)
    (fails : runFailing (fun _ => true) error (perform deployment)
      (findOrCreateLocalUser deployment db readings tenantId provider claims)
      (some place) world = (.error error, middle)) :
    ¬ LeavesUnlinked db tenantId provider claims world place ∧ middle = world ∨
      LeavesUnlinked db tenantId provider claims world place ∧
        HalfDone deployment db readings tenantId provider claims subject user world
          middle := by
  obtain ⟨early, middleEq⟩ := middle_of_failure isSubject course fails
  cases course with
  | linked found =>
      refine .inl ⟨fun leaves => ?_, ?_⟩
      · rw [leaves.unlinked subject isSubject] at found
        cases found
      · cases place with
        | zero => exact middleEq
        | succ later => exact absurd early (by simp)
  | existing email externalEmail after missing autoLink isEmail found verified
      bound stored =>
      refine .inl ⟨fun leaves => ?_, ?_⟩
      · rw [leaves.nobody email isEmail] at found
        cases found
      · rcases place with _ | _ | _ | later
        · exact middleEq
        · exact middleEq
        · exact middleEq
        · exact absurd early (by simp)
  | provisioned email externalEmail row between after missing autoLink newEmail
      isRow inserted sees isUser bound stored =>
      have betweenEq : (perform deployment (.user db (.insert row)) world).2 =
          between := by rw [inserted]
      have leaves_iff := leavesUnlinked_iff isSubject missing newEmail place
      have leaves (afterInsert : insertAt claims < place) (same : middle = between) :
          LeavesUnlinked db tenantId provider claims world place ∧
            HalfDone deployment db readings tenantId provider claims subject user
              world middle :=
        ⟨leaves_iff.mpr afterInsert, email, externalEmail, row, after, autoLink,
          missing, newEmail, isRow, same ▸ inserted, sees, isUser, bound,
          same ▸ stored⟩
      rw [leaves_iff] at leaves ⊢
      rcases newEmail with ⟨rfl, falsy⟩ | ⟨address, rfl, isEmail, nobody⟩
      · have insertPlace : insertAt claims = 1 := by simp [insertAt, falsy]
        rw [insertPlace] at leaves ⊢
        rcases place with _ | _ | _ | _ | later
        · exact .inl ⟨by decide, middleEq⟩
        · exact .inl ⟨by decide, middleEq⟩
        · exact .inr (leaves (by decide) (middleEq.trans betweenEq))
        · exact .inr (leaves (by decide) (middleEq.trans betweenEq))
        · exact absurd early (by simp [findEmail])
      · have insertPlace : insertAt claims = 2 := by
          simp [insertAt, isEmail.1, PyValue.truthy, isEmail.2]
        rw [insertPlace] at leaves ⊢
        rcases place with _ | _ | _ | _ | _ | later
        · exact .inl ⟨by decide, middleEq⟩
        · exact .inl ⟨by decide, middleEq⟩
        · exact .inl ⟨by decide, middleEq⟩
        · exact .inr (leaves (by decide) (middleEq.trans betweenEq))
        · exact .inr (leaves (by decide) (middleEq.trans betweenEq))
        · exact absurd early (by simp [findEmail])

end Failure

/-! ## The later call -/

section Later

variable {deployment : Deployment} {db : Connection} {first second : Readings}
variable {tenantId : String} {provider : ProviderRow} {claims : UpstreamClaims}
variable {world after : World} {user : UserRow} {subject : String}
variable {stmts : List Stmt}

theorem stored_again {userId : String} {externalEmail : Option String}
    (stored : perform deployment (storeLink db first tenantId provider userId
      subject externalEmail) world = (.ok (), after))
    (unused : Unused world second) (now : Int) :
    ∃ final, perform deployment (storeLink db second tenantId provider userId
      subject externalEmail) { world with now := now } = (.ok (), final) := by
  obtain ⟨accepted, -⟩ := upsert_link_eq_ok.mp stored
  refine ⟨_, upsert_link_eq_ok.mpr ⟨accepted.imp_right fun accepts => ?_, rfl⟩⟩
  exact ⟨fun held heldMem => ⟨(unused.links held heldMem).1,
    (accepts.unique held heldMem).2⟩, accepts.keys⟩

/-- The columns of a provisioned user do not depend on the readings, except for
the id and the password. -/
theorem provisionedUser_again {email : Option String} {row : UserRow}
    (isRow : provisionedUser deployment first tenantId provider claims
      (some subject) email = .ok row) :
    provisionedUser deployment second tenantId provider claims (some subject)
        email = .ok { row with
          id := second.secret 0
          password := deployment.hashPassword (second.secret 1) } := by
  simp only [provisionedUser, except_bind_eq_ok] at isRow ⊢
  obtain ⟨given, givenEq, firstName, firstEq, family, familyEq, lastName, lastEq,
    isRow⟩ := isRow
  cases isRow
  exact ⟨given, givenEq, firstName, firstEq, family, familyEq, lastName, lastEq,
    rfl⟩

theorem exists_insert {row : UserRow} {users : UserTable}
    (free : ∀ held ∈ users, held.id ≠ row.id) :
    ∃ inserted, users.insert row = some inserted := by
  cases insertedEq : users.insert row with
  | some inserted => exact ⟨inserted, rfl⟩
  | none =>
      obtain ⟨held, heldMem, same⟩ := KeyedTable.insert_eq_none.mp insertedEq
      exact absurd same (free held heldMem)

/-- Where a call can take a course, a later one can take one to a user with the
same email. -/
theorem course_again
    (course : Course deployment db first tenantId provider claims subject world
      user stmts after) (unused : Unused world second) (now : Int) :
    ∃ again others final, Course deployment db second tenantId provider claims
        subject { world with now := now } again others final ∧
      again.email = user.email := by
  cases course with
  | linked found => exact ⟨user, _, _, .linked found, rfl⟩
  | existing email externalEmail after missing autoLink isEmail found verified
      bound stored =>
      obtain ⟨final, storedAgain⟩ := stored_again stored unused now
      exact ⟨user, _, final, .existing email externalEmail final missing autoLink
        isEmail found verified bound storedAgain, rfl⟩
  | provisioned email externalEmail row between after missing autoLink newEmail
      isRow inserted sees isUser bound stored =>
      obtain ⟨accepts, users, -, rfl⟩ := insert_user_eq_ok.mp inserted
      let again : UserRow := { row with
        id := second.secret 0
        password := deployment.hashPassword (second.secret 1) }
      obtain ⟨moreUsers, insertedAgain⟩ := @exists_insert
        { again with lastModified := now } world.users unused.user
      have acceptsAgain : AcceptsUser { world with now := now } db again :=
        ⟨accepts.lengths, accepts.mayInsert, accepts.hasTenant, accepts.unique⟩
      have again_mem : ({ again with lastModified := now } : UserRow) ∈ moreUsers :=
        (KeyedTable.mem_of_insert insertedAgain).mpr (.inr rfl)
      have hasUser : (moreUsers.lookup again.id).isSome = true := by
        rw [KeyedTable.lookup_eq_some.mpr ⟨again_mem, rfl⟩]
        rfl
      have accepted : ((world.identities.lookup
            (tenantId, provider.id, subject)).isSome = true ∨
          AcceptsLink { world with users := moreUsers, now := now }
            ⟨second.secret 2, tenantId, provider.id, again.id, subject,
              externalEmail⟩) := by
        refine (upsert_link_eq_ok.mp stored).1.imp_right fun acceptsLink => ?_
        refine ⟨fun held heldMem => ⟨(unused.links held heldMem).1, ?_⟩,
          acceptsLink.keys.1, hasUser, acceptsLink.keys.2.2⟩
        exact fun same => (unused.links held heldMem).2 same.2.2
      exact ⟨{ again with lastModified := now }, _, _,
        .provisioned email externalEmail again _ _ missing autoLink newEmail
          (provisionedUser_again isRow)
          (insert_user_eq_ok.mpr ⟨acceptsAgain, moreUsers, insertedAgain, rfl⟩)
          sees rfl bound (upsert_link_eq_ok.mpr ⟨accepted, rfl⟩), by rw [isUser]⟩

theorem userWithEmail_insert {row : UserRow} {email : String}
    (inserted : perform deployment (.user db (.insert row)) world =
      (.ok (), after)) (sees : db.sees row.tenantId = true)
    (rowTenant : row.tenantId = tenantId) (rowEmail : row.email = email) :
    userWithEmail after db tenantId email =
      some { row with lastModified := world.now } := by
  subst rowTenant rowEmail
  obtain ⟨accepts, users, insertedEq, rfl⟩ := insert_user_eq_ok.mp inserted
  cases found : userWithEmail { world with users := users } db row.tenantId
      row.email with
  | none =>
      have selected : ({ row with lastModified := world.now } : UserRow) ∈
          users.select fun user => user.tenantId = row.tenantId &&
            user.email = row.email && db.sees user.tenantId :=
        KeyedTable.mem_select.mpr
          ⟨(KeyedTable.mem_of_insert insertedEq).mpr (.inr rfl), by simp [sees]⟩
      rw [List.head?_eq_none_iff.mp found] at selected
      cases selected
  | some user =>
      obtain ⟨userMem, sameTenant, sameEmail, -⟩ := mem_of_userWithEmail found
      rcases (KeyedTable.mem_of_insert insertedEq).mp userMem with old | rfl
      · exact absurd sameEmail (accepts.unique user old sameTenant)
      · rfl

theorem linkedUser_insert {row : UserRow}
    (inserted : perform deployment (.user db (.insert row)) world =
      (.ok (), after))
    (notLinked : ∀ link ∈ world.identities, link.userId ≠ row.id) :
    linkedUser after db tenantId provider.id subject =
      linkedUser world db tenantId provider.id subject := by
  obtain ⟨accepts, users, insertedEq, rfl⟩ := insert_user_eq_ok.mp inserted
  unfold linkedUser
  dsimp only
  cases found : world.identities.lookup (tenantId, provider.id, subject) with
  | none => rfl
  | some link =>
      have linkMem := (KeyedTable.lookup_eq_some.mp found).1
      have same : users.lookup link.userId = world.users.lookup link.userId := by
        refine Option.ext fun held => ?_
        rw [KeyedTable.lookup_eq_some, KeyedTable.lookup_eq_some,
          KeyedTable.mem_of_insert insertedEq]
        constructor
        · rintro ⟨old | rfl, keyEq⟩
          · exact ⟨old, keyEq⟩
          · exact absurd keyEq.symm (notLinked link linkMem)
        · exact fun ⟨old, keyEq⟩ => ⟨.inl old, keyEq⟩
      rw [Option.bind_some, Option.bind_some, same]

/-- After an interruption a later call recovers where it may link by email. -/
theorem recovers_of_halfDone {middle : World} (isSubject : Subject claims subject)
    (halfDone : HalfDone deployment db first tenantId provider claims subject user
      world middle) (unique : UniqueEmails world) (unused : Unused world first)
    (unusedLater : Unused middle second) (may : MayLinkByEmail provider claims)
    (now : Int) :
    Recovers deployment db second tenantId provider claims user.email
      { middle with now := now } := by
  obtain ⟨email, externalEmail, row, after, autoLink, missing, newEmail, isRow,
    inserted, sees, rfl, bound, stored⟩ := halfDone
  obtain ⟨rowId, rowTenant, rowEmail, -, -⟩ := provisionedUser_eq_ok isRow
  rcases newEmail with ⟨-, falsy⟩ | ⟨address, rfl, isEmail, -⟩
  · rw [may.1] at falsy
    cases falsy
  have rowEmail : row.email = address := rowEmail.trans (if_pos isEmail.2)
  have stillMissing : linkedUser middle db tenantId provider.id subject = none :=
    (linkedUser_insert inserted fun link linkMem =>
      rowId ▸ (unused.links link linkMem).2).trans missing
  have found := userWithEmail_insert inserted sees rowTenant rowEmail
  obtain ⟨final, storedAgain⟩ := stored_again stored unusedLater now
  have uniqueMiddle : UniqueEmails { middle with now := now } := by
    obtain ⟨accepts, users, insertedEq, rfl⟩ := insert_user_eq_ok.mp inserted
    exact uniqueEmails_insert unique accepts insertedEq
  exact recovers_of_course isSubject uniqueMiddle
    (.existing address externalEmail final stillMissing autoLink isEmail found may.2
      bound storedAgain)

/-- Otherwise it does not: the user is refused, or its address is taken. -/
theorem not_recovers_of_halfDone {middle : World} {email : String}
    (isSubject : Subject claims subject)
    (halfDone : HalfDone deployment db first tenantId provider claims subject user
      world middle) (unused : Unused world first)
    (mayNot : ¬ MayLinkByEmail provider claims) (now : Int) :
    ¬ Recovers deployment db second tenantId provider claims email
      { middle with now := now } := by
  obtain ⟨address, externalEmail, row, after, autoLink, missing, newEmail, isRow,
    inserted, sees, rfl, bound, stored⟩ := halfDone
  obtain ⟨rowId, rowTenant, rowEmail, -, -⟩ := provisionedUser_eq_ok isRow
  have stillMissing : linkedUser middle db tenantId provider.id subject = none :=
    (linkedUser_insert inserted fun link linkMem =>
      rowId ▸ (unused.links link linkMem).2).trans missing
  rintro ⟨again, final, -, ran, -⟩
  obtain ⟨other, stmts, isOther, course⟩ := course_of_ok ran
  cases Option.some.inj (isSubject.symm.trans isOther)
  cases course with
  | linked found => cases stillMissing.symm.trans found
  | existing email externalEmail after missing autoLink isEmail found verified
      bound stored =>
      refine mayNot ⟨?_, verified⟩
      rw [isEmail.1]
      exact isEmail.2
  | provisioned again externalEmail otherRow between after missing autoLink
      newAgain isOtherRow insertedAgain sees isUser bound stored =>
      -- the address is that of the user left behind
      have sameAddress : again = address := email_unique
        (newAgain.imp_right fun ⟨given, isGiven, isEmail, _⟩ =>
          ⟨given, isGiven, isEmail⟩)
        (newEmail.imp_right fun ⟨given, isGiven, isEmail, _⟩ =>
          ⟨given, isGiven, isEmail⟩)
      obtain ⟨-, otherTenant, otherEmail, -, -⟩ := provisionedUser_eq_ok isOtherRow
      obtain ⟨-, users, insertedEq, rfl⟩ := insert_user_eq_ok.mp inserted
      have left : ({ row with lastModified := world.now } : UserRow) ∈ users :=
        (KeyedTable.mem_of_insert insertedEq).mpr (.inr rfl)
      refine (insert_user_eq_ok.mp insertedAgain).1.unique _ left
        (rowTenant.trans otherTenant.symm) ?_
      rw [otherEmail, sameAddress]
      exact rowEmail

end Later

/-- A later call recovers from a failure exactly when no user was left without
its link, or the provider may link it by its email. -/
theorem recovers_iff (deployment : Deployment) (db : Connection)
    (first second : Readings) (tenantId : String) (provider : ProviderRow)
    (claims : UpstreamClaims) (world middle after : World) (user : UserRow)
    (error : Exn) (place : Nat) (now : Int) (unique : UniqueEmails world)
    (unused : Unused world first) (unusedLater : Unused middle second)
    (succeeds : App.run deployment (findOrCreateLocalUser deployment db first
      tenantId provider claims) world = (.ok user, after))
    (fails : runFailing (fun _ => true) error (perform deployment)
      (findOrCreateLocalUser deployment db first tenantId provider claims)
      (some place) world = (.error error, middle)) :
    Recovers deployment db second tenantId provider claims user.email
        { middle with now := now } ↔
      ¬ LeavesUnlinked db tenantId provider claims world place ∨
        MayLinkByEmail provider claims := by
  obtain ⟨subject, stmts, isSubject, course⟩ := course_of_ok succeeds
  rcases failure_cases isSubject course fails with
    ⟨notLeft, rfl⟩ | ⟨leaves, halfDone⟩
  · obtain ⟨again, others, final, courseAgain, sameEmail⟩ :=
      course_again course unusedLater now
    have uniqueNow : UniqueEmails { middle with now := now } := unique
    have recovers := recovers_of_course isSubject uniqueNow courseAgain
    rw [sameEmail] at recovers
    exact iff_of_true recovers (.inl notLeft)
  · by_cases may : MayLinkByEmail provider claims
    · exact iff_of_true (recovers_of_halfDone isSubject halfDone unique unused
        unusedLater may now) (.inr may)
    · refine iff_of_false
        (not_recovers_of_halfDone isSubject halfDone unused may now) ?_
      rintro (notLeft | may')
      · exact notLeft leaves
      · exact may may'

/-! ## Two sign-ins -/

/-- A tenant with its provider, and no users. -/
def newTenant : World where
  tenants := .single { id := "t" }
  providers := .single idp

/-- The random values of a call. -/
def readingsOf (userId linkId : String) : Readings where
  utcNow _ := 0
  timeNs _ := 0
  secret index := if index = 2 then linkId else userId

/-- The claims of a person with an email. -/
def person (emailVerified : Bool) : UpstreamClaims :=
  [("sub", .text "s"), ("email", .text "p@idp"), ("given_name", .text "P"),
    ("family_name", .text "Q"), ("email_verified", .bool emailVerified)]

/-- The call fails when the user is inserted, and the later call links it. -/
theorem verified_email_recovers :
    ∃ middle, runFailing (fun _ => true) (.database "connection lost")
        (perform (.plain [])) (findOrCreateLocalUser (.plain []) (.forTenant "t")
          (readingsOf "u" "l") "t" idp (person true)) (some 3) newTenant =
        (.error (.database "connection lost"), middle) ∧
      Recovers (.plain []) (.forTenant "t") (readingsOf "v" "m") "t" idp
        (person true) "p@idp" { middle with now := 1 } := by
  refine ⟨_, rfl, (recovers_iff (.plain []) (.forTenant "t") (readingsOf "u" "l")
    (readingsOf "v" "m") "t" idp (person true) newTenant _ _ _
    (.database "connection lost") 3 1 ?_ ?_ ?_ rfl rfl).mpr
    (.inr ⟨rfl, fun _ => rfl⟩)⟩
  · exact fun _ userMem => absurd userMem KeyedTable.not_mem_empty
  · exact ⟨fun _ userMem => absurd userMem KeyedTable.not_mem_empty,
      fun _ linkMem => absurd linkMem KeyedTable.not_mem_empty⟩
  · refine ⟨fun held heldMem => ?_,
      fun _ linkMem => absurd linkMem KeyedTable.not_mem_empty⟩
    cases List.mem_singleton.mp heldMem
    decide

/-- Without a failure the call returns a user; after one the later call is
refused, though the user is the one the first call made for these claims. -/
theorem unverified_email_stays_unlinked :
    (∃ user after, App.run (.plain []) (findOrCreateLocalUser (.plain [])
        (.forTenant "t") (readingsOf "u" "l") "t" idp (person false)) newTenant =
        (.ok user, after)) ∧
      ∃ middle, runFailing (fun _ => true) (.database "connection lost")
          (perform (.plain [])) (findOrCreateLocalUser (.plain [])
            (.forTenant "t") (readingsOf "u" "l") "t" idp (person false)) (some 3)
          newTenant = (.error (.database "connection lost"), middle) ∧
        ¬ Recovers (.plain []) (.forTenant "t") (readingsOf "v" "m") "t" idp
          (person false) "p@idp" middle := by
  refine ⟨⟨_, _, rfl⟩, _, rfl, ?_⟩
  rintro ⟨user, final, subject, ran, -⟩
  cases ran

end ProvisioningRetry

end HexIam
