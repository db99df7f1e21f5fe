import HexIam.AuthorizationFlow
import HexIam.Footprint
import HexIam.TenantRows

/-!
# What a federated sign-in does

A sign-in through an identity provider resolves the claims of the provider to a
user: the one its identity is linked to, the one with its email, or a new one.
This file says what a call that returns a user has done to the tables, for the
callback and for the token exchange alike.
-/

namespace HexIam

open StatementTree

namespace FederatedSignIn

/-! ## Resolutions -/

/-- The user a connection sees behind a link. -/
def linkedUser (world : World) (db : Connection)
    (tenantId providerId subject : String) : Option UserRow :=
  (world.identities.lookup (tenantId, providerId, subject)).bind fun row =>
    (world.users.lookup row.userId).filter fun user => db.sees user.tenantId

/-- The user of a tenant with an email, if the connection sees it. -/
def userWithEmail (world : World) (db : Connection) (tenantId email : String) :
    Option UserRow :=
  (world.users.select fun user => user.tenantId = tenantId &&
    user.email = email && db.sees user.tenantId).head?

/-- The subject of claims. -/
def Subject (claims : UpstreamClaims) (subject : String) : Prop :=
  (claims.find? fun claim => claim.1 = "sub").map Prod.snd =
    some (.text subject)

/-- The email of claims that have one. -/
def Email (claims : UpstreamClaims) (email : String) : Prop :=
  PyValue.get claims "email" = .text email ∧ filled email = true

section SignIns

variable (deployment : Deployment) (db : Connection) (readings : Readings)
variable (tenantId : String) (provider : ProviderRow) (claims : UpstreamClaims)

/-- How the user of claims without a link is found: it is there, with the email
of the claims, or it is inserted. -/
inductive Chosen (subject : String) (before : World) (user : UserRow) :
    World → Prop
  | existing (email : String) (isEmail : Email claims email)
      (found : userWithEmail before db tenantId email = some user)
      (verified : provider.linkByEmailVerifiedOnly = true →
        normalizedEmailVerified claims = true) :
      Chosen subject before user before
  | provisioned (email : Option String) (users : UserTable)
      (isEmail : email = none ∧ (PyValue.get claims "email").truthy = false ∨
        ∃ address, email = some address ∧ Email claims address ∧
          userWithEmail before db tenantId address = none)
      (row : UserRow)
      (isRow : provisionedUser deployment readings tenantId provider claims
        (some subject) email = .ok row)
      (isUser : user = { row with lastModified := before.now })
      (inserted : before.users.insert user = some users) :
      Chosen subject before user { before with users := users }

/-- The link of a user is stored. -/
structure Links (subject : String) (user : UserRow) (before after : World) :
    Prop where
  email : ∃ externalEmail,
    bindText (PyValue.get claims "email") = .ok externalEmail ∧
    perform deployment (.identity db (.upsert (readings.secret 2) tenantId
      provider.id user.id (some subject) externalEmail)) before =
        (.ok (), after)

/-- A call of `_find_or_create_local_user` resolves the claims to the user. -/
inductive Resolves (subject : String) (before : World) (user : UserRow) :
    World → Prop
  | linked (found : linkedUser before db tenantId provider.id subject =
        some user) :
      Resolves subject before user before
  | unlinked (between after : World)
      (missing : linkedUser before db tenantId provider.id subject = none)
      (autoLink : provider.autoLink = true)
      (chosen : Chosen deployment db readings tenantId provider claims subject
        before user between)
      (links : Links deployment db readings tenantId provider claims subject user
        between after) :
      Resolves subject before user after

/-- A call of `_find_or_create_local_user` that found no user has inserted one,
whatever became of the call. -/
structure Provisions (subject : Option String) (row : UserRow) (before : World)
    (users : UserTable) : Prop where
  isSubject : ∃ sub, (claims.find? fun claim => claim.1 = "sub").map Prod.snd =
    some sub ∧ bindText sub = .ok subject
  missing : subject.bind (linkedUser before db tenantId provider.id) = none
  autoLink : provider.autoLink = true
  made : ∃ email,
    (email = none ∧ (PyValue.get claims "email").truthy = false ∨
      ∃ address, email = some address ∧ Email claims address ∧
        userWithEmail before db tenantId address = none) ∧
    provisionedUser deployment readings tenantId provider claims subject email =
      .ok row
  inserted : before.users.insert { row with lastModified := before.now } =
    some users

end SignIns

/-! ## `_find_or_create_local_user` -/

section Calls

variable {deployment : Deployment} {db : Connection} {readings : Readings}
variable {tenantId : String} {provider : ProviderRow} {claims : UpstreamClaims}
variable {world after : World} {user : UserRow}

theorem mem_of_linkedUser {providerId subject : String}
    (found : linkedUser world db tenantId providerId subject = some user) :
    user ∈ world.users := by
  obtain ⟨row, -, seen⟩ := Option.bind_eq_some_iff.mp found
  exact (KeyedTable.lookup_eq_some.mp (Option.filter_eq_some_iff.mp seen).1).1

theorem sees_of_linkedUser {providerId subject : String}
    (found : linkedUser world db tenantId providerId subject = some user) :
    db.sees user.tenantId = true := by
  obtain ⟨row, -, seen⟩ := Option.bind_eq_some_iff.mp found
  exact (Option.filter_eq_some_iff.mp seen).2

theorem mem_of_userWithEmail {email : String}
    (found : userWithEmail world db tenantId email = some user) :
    user ∈ world.users ∧ user.tenantId = tenantId ∧ user.email = email ∧
      db.sees user.tenantId = true := by
  obtain ⟨userMem, selected⟩ :=
    KeyedTable.mem_select.mp (List.mem_of_mem_head? found)
  simp only [Bool.and_eq_true, decide_eq_true_eq] at selected
  exact ⟨userMem, selected.1.1, selected.1.2, selected.2⟩

theorem userToLink_eq_ok {found : Option UserRow}
    (ran : App.run deployment (userToLink db tenantId provider claims) world =
      (.ok found, after)) :
    after = world ∧
      (found = none ∧ (PyValue.get claims "email").truthy = false ∨
        ∃ email, Email claims email ∧
          found = userWithEmail world db tenantId email ∧
          (found.isSome = true → provider.linkByEmailVerifiedOnly = true →
            normalizedEmailVerified claims = true)) := by
  unfold userToLink at ran
  by_cases truthy : (PyValue.get claims "email").truthy = true
  case neg =>
    dsimp only at ran
    rw [if_neg truthy] at ran
    cases ran
    exact ⟨rfl, .inl ⟨rfl, by simpa using truthy⟩⟩
  case pos =>
    dsimp only at ran
    rw [if_pos truthy] at ran
    obtain ⟨bound, _, first, rest⟩ := App.run_bind_eq_ok.mp ran
    obtain ⟨boundEq, rfl⟩ := Prod.mk.inj first
    obtain ⟨email, isText, isFilled, rfl⟩ :=
      (@bindText_of_truthy _ (fun value => value = bound) truthy).mp
        ⟨bound, boundEq, rfl⟩
    have asked : App.run deployment
        (ask (.user db (.byTenantEmail tenantId email))) world =
        (.ok (userWithEmail world db tenantId email), world) := rfl
    rw [Option.getD_some, App.run_bind_of_ok asked] at rest
    split at rest
    case isTrue => cases rest
    case isFalse allowed =>
      cases rest
      refine ⟨rfl, .inr ⟨email, ⟨isText, isFilled⟩, rfl, ?_⟩⟩
      intro isSome only
      simpa [isSome, only] using allowed

theorem email_of_bindText {email : Option String}
    (emailEq : (if (PyValue.get claims "email").truthy then
        bindText (PyValue.get claims "email") else .ok none) = .ok email) :
    email = none ∧ (PyValue.get claims "email").truthy = false ∨
      ∃ address, email = some address ∧ Email claims address := by
  by_cases truthy : (PyValue.get claims "email").truthy = true
  · rw [if_pos truthy] at emailEq
    obtain ⟨address, isText, isFilled, isEmail⟩ :=
      (@bindText_of_truthy _ (fun value => email = value) truthy).mp
        ⟨email, emailEq, rfl⟩
    exact .inr ⟨address, isEmail, isText, isFilled⟩
  · rw [if_neg truthy] at emailEq
    cases emailEq
    exact .inl ⟨rfl, by simpa using truthy⟩

theorem provisionUser_eq_ok {subject : Option String}
    (ran : App.run deployment (provisionUser deployment db readings tenantId
      provider claims subject) world = (.ok user, after)) :
    ∃ email row users,
      (email = none ∧ (PyValue.get claims "email").truthy = false ∨
        ∃ address, email = some address ∧ Email claims address) ∧
      provisionedUser deployment readings tenantId provider claims subject
        email = .ok row ∧
      user = { row with lastModified := world.now } ∧
      world.users.insert user = some users ∧
      after = { world with users := users } ∧ db.sees user.tenantId = true := by
  obtain ⟨email, _, first, rest⟩ := App.run_bind_eq_ok.mp ran
  obtain ⟨emailEq, rfl⟩ := Prod.mk.inj first
  obtain ⟨row, _, second, rest⟩ := App.run_bind_eq_ok.mp rest
  obtain ⟨rowEq, rfl⟩ := Prod.mk.inj second
  obtain ⟨answer, between, third, rest⟩ := App.run_bind_eq_ok.mp rest
  obtain ⟨inserted, betweenEq⟩ := TenantCoherence.insert_user_eq_ok third
  have stored : between.users.lookup row.id =
      some { row with lastModified := world.now } :=
    KeyedTable.lookup_eq_some.mpr
      ⟨(KeyedTable.mem_of_insert inserted).mpr (.inr rfl), rfl⟩
  have asked : App.run deployment (ask (.user db (.byId row.id))) between =
      (.ok ((some { row with lastModified := world.now }).filter fun user =>
        db.sees user.tenantId), between) := by
    rw [← stored]
    rfl
  rw [App.run_bind_of_ok asked] at rest
  split at rest
  case h_2 => cases rest
  case h_1 found foundEq =>
    cases rest
    obtain ⟨userEq, seen⟩ := Option.filter_eq_some_iff.mp foundEq
    cases userEq
    exact ⟨email, row, after.users, email_of_bindText emailEq, rowEq, rfl,
      inserted, betweenEq, seen⟩

theorem linkOrProvision_eq_ok {subject : String}
    (ran : App.run deployment (linkOrProvision deployment db readings tenantId
      provider claims (some subject)) world = (.ok user, after)) :
    Chosen deployment db readings tenantId provider claims subject world user
      after ∧ db.sees user.tenantId = true := by
  obtain ⟨found, _, first, rest⟩ := App.run_bind_eq_ok.mp ran
  obtain ⟨rfl, which⟩ := userToLink_eq_ok first
  cases found with
  | some existing =>
      cases rest
      rcases which with ⟨isNone, -⟩ | ⟨email, isEmail, found, verified⟩
      · cases isNone
      · exact ⟨.existing email isEmail found.symm (verified rfl),
          (mem_of_userWithEmail found.symm).2.2.2⟩
  | none =>
      obtain ⟨email, row, users, isEmail, isRow, isUser, inserted, rfl, seen⟩ :=
        provisionUser_eq_ok rest
      refine ⟨.provisioned email users ?_ row isRow isUser inserted, seen⟩
      rcases which with ⟨-, falsy⟩ | ⟨other, isOther, nobody, -⟩
      · rcases isEmail with without | ⟨address, -, isText, isFilled⟩
        · exact .inl without
        · rw [isText] at falsy
          rw [PyValue.truthy, isFilled] at falsy
          cases falsy
      · rcases isEmail with ⟨-, falsy⟩ | ⟨address, rfl, isAddress⟩
        · rw [isOther.1, PyValue.truthy, isOther.2] at falsy
          cases falsy
        · have same : address = other :=
            PyValue.text.inj (isAddress.1.symm.trans isOther.1)
          exact .inr ⟨address, rfl, isAddress, same ▸ nobody.symm⟩

/-- What a call of `_find_or_create_local_user` that returns has done. -/
theorem findOrCreateLocalUser_eq_ok
    (ran : App.run deployment (findOrCreateLocalUser deployment db readings
      tenantId provider claims) world = (.ok user, after)) :
    ∃ subject, Subject claims subject ∧
      Resolves deployment db readings tenantId provider claims subject world user
        after ∧ db.sees user.tenantId = true := by
  unfold findOrCreateLocalUser at ran
  cases subEq : (claims.find? fun claim => claim.1 = "sub").map Prod.snd with
  | none =>
      rw [subEq] at ran
      cases ran
  | some sub =>
      rw [subEq] at ran
      obtain ⟨bound, _, first, rest⟩ := App.run_bind_eq_ok.mp ran
      obtain ⟨boundEq, rfl⟩ := Prod.mk.inj first
      have asked : App.run deployment
          (ask (.identity db (.linkedUser tenantId provider.id bound))) world =
          (.ok (bound.bind (linkedUser world db tenantId provider.id)), world) :=
        rfl
      rw [App.run_bind_of_ok asked] at rest
      cases linked : bound.bind (linkedUser world db tenantId provider.id) with
      | some found =>
          rw [linked] at rest
          cases rest
          obtain ⟨subject, rfl, found⟩ := Option.bind_eq_some_iff.mp linked
          have isSubject : Subject claims subject :=
            subEq.trans (congrArg some (bindText_eq_some.mp boundEq))
          exact ⟨subject, isSubject, .linked found, sees_of_linkedUser found⟩
      | none =>
          rw [linked] at rest
          dsimp only at rest
          cases autoLink : provider.autoLink with
          | false =>
              rw [autoLink] at rest
              cases rest
          | true =>
              rw [autoLink, Bool.not_true, if_neg Bool.false_ne_true] at rest
              obtain ⟨chosen, between, second, rest⟩ :=
                App.run_bind_eq_ok.mp rest
              obtain ⟨externalEmail, _, third, rest⟩ :=
                App.run_bind_eq_ok.mp rest
              obtain ⟨externalEq, rfl⟩ := Prod.mk.inj third
              obtain ⟨answer, final, fourth, rest⟩ :=
                App.run_bind_eq_ok.mp rest
              cases rest
              -- A null subject is refused by the table of the links.
              cases bound with
              | none => cases (Prod.mk.inj fourth).1
              | some subject =>
                  have isSubject : Subject claims subject :=
                    subEq.trans (congrArg some (bindText_eq_some.mp boundEq))
                  obtain ⟨isChosen, seen⟩ := linkOrProvision_eq_ok second
                  exact ⟨subject, isSubject, .unlinked between _ linked autoLink
                    isChosen ⟨externalEmail, externalEq, fourth⟩, seen⟩

/-! ## What a failed call leaves -/

/-- A program without statements on users leaves them as they are. -/
theorem users_of_uses {α : Type} (tables : List Table) {program : App α}
    (uses : Uses tables program) (unused : .users ∉ tables) :
    (App.run deployment program world).2.users = world.users :=
  frame_of_uses World.users tables (fun _ _ => users_perform deployment) uses
    unused

/-- A row for the claims was inserted. -/
def Inserted (deployment : Deployment) (readings : Readings) (tenantId : String)
    (provider : ProviderRow) (claims : UpstreamClaims) (subject : Option String)
    (before after : World) : Prop :=
  ∃ email row, (email = none ∧ (PyValue.get claims "email").truthy = false ∨
      ∃ address, email = some address ∧ Email claims address) ∧
    provisionedUser deployment readings tenantId provider claims subject email =
      .ok row ∧
    before.users.insert { row with lastModified := before.now } =
      some after.users

theorem ends_provisionUser {subject : Option String} :
    App.Ends deployment (provisionUser deployment db readings tenantId provider
        claims subject) world fun after => after.users = world.users ∨
      Inserted deployment readings tenantId provider claims subject world
        after := by
  unfold provisionUser
  refine App.ends_ofExcept_bind (fun email emailEq => ?_) (.inl rfl)
  refine App.ends_ofExcept_bind (fun row rowEq => ?_) (.inl rfl)
  rcases @TenantCoherence.perform_insert_user deployment world db row with
    ⟨-, inserted⟩ | ⟨⟨error, failed⟩, unchanged⟩
  · have provisioned (after : World) (same : after.users =
        (perform deployment (.user db (.insert row)) world).2.users) :
        after.users = world.users ∨ Inserted deployment readings tenantId
          provider claims subject world after :=
      .inr ⟨email, row, email_of_bindText emailEq, rowEq, same ▸ inserted⟩
    refine App.ends_ask_bind (fun answer answered => ?_) (provisioned _ rfl)
    refine App.ends_ask_bind (fun found foundEq => ?_) (provisioned _ rfl)
    split <;> exact provisioned _ rfl
  · refine App.ends_ask_bind (fun answer answered => ?_) (.inl unchanged)
    have failed : (perform deployment (.user db (.insert row)) world).1 =
        .error error := failed
    rw [failed] at answered
    cases answered

theorem ends_userToLink :
    App.Ends deployment (userToLink db tenantId provider claims) world
      fun after => after = world := by
  unfold userToLink
  dsimp only
  split
  case isFalse => rfl
  case isTrue =>
    refine App.ends_ofExcept_bind (fun email emailEq => ?_) rfl
    refine App.ends_ask_bind (fun user userEq => ?_) rfl
    split <;> rfl

theorem ends_linkOrProvision {subject : Option String} :
    App.Ends deployment (linkOrProvision deployment db readings tenantId provider
        claims subject) world fun after => after.users = world.users ∨
      (∀ address, Email claims address →
        userWithEmail world db tenantId address = none) ∧
      Inserted deployment readings tenantId provider claims subject world
        after := by
  unfold linkOrProvision
  refine StatementTree.ends_bind (fun found between ran => ?_)
    (fun error after ran => .inl ?_)
  · obtain ⟨rfl, which⟩ := userToLink_eq_ok ran
    cases found with
    | some user => exact .inl rfl
    | none =>
        refine ends_provisionUser.mono fun after ends =>
          ends.imp_right fun inserted => ⟨?_, inserted⟩
        intro address isEmail
        rcases which with ⟨-, falsy⟩ | ⟨other, isOther, nobody, -⟩
        · rw [isEmail.1, PyValue.truthy, isEmail.2] at falsy
          cases falsy
        · have same : address = other :=
            PyValue.text.inj (isEmail.1.symm.trans isOther.1)
          exact same ▸ nobody.symm
  · have ends := @ends_userToLink deployment db tenantId provider claims world
    have ended : (StatementTree.run (perform deployment)
        (userToLink db tenantId provider claims) world).2 = world := ends
    rw [ran] at ended
    exact congrArg World.users ended

/-- A user is inserted for claims only when they are linked to nobody and
nobody has their email; otherwise users stay. -/
theorem ends_findOrCreateLocalUser :
    App.Ends deployment (findOrCreateLocalUser deployment db readings tenantId
        provider claims) world fun after => after.users = world.users ∨
      ∃ subject row, Provisions deployment db readings tenantId provider claims
        subject row world after.users := by
  unfold findOrCreateLocalUser
  cases subEq : (claims.find? fun claim => claim.1 = "sub").map Prod.snd with
  | none => exact .inl rfl
  | some sub =>
      refine App.ends_ofExcept_bind (fun subject subjectEq => ?_) (.inl rfl)
      refine App.ends_ask_bind (fun found foundEq => ?_) (.inl rfl)
      have foundEq : subject.bind (linkedUser world db tenantId provider.id) =
          found := Except.ok.inj foundEq
      cases found with
      | some user => exact .inl rfl
      | none =>
          dsimp only
          cases autoLink : provider.autoLink with
          | false => exact .inl rfl
          | true =>
              rw [Bool.not_true, if_neg Bool.false_ne_true]
              have chosen {after : World} (ends : after.users = world.users ∨
                  (∀ address, Email claims address →
                    userWithEmail world db tenantId address = none) ∧
                  Inserted deployment readings tenantId provider claims subject
                    world after) :
                  after.users = world.users ∨ ∃ subject row,
                    Provisions deployment db readings tenantId provider claims
                      subject row world after.users := by
                refine ends.imp_right ?_
                rintro ⟨nobody, email, row, isEmail, made, inserted⟩
                refine ⟨subject, row, ⟨sub, subEq, subjectEq⟩, foundEq, autoLink,
                  ⟨email, isEmail.imp_right ?_, made⟩, inserted⟩
                rintro ⟨address, isAddress, isEmail⟩
                exact ⟨address, isAddress, isEmail, nobody address isEmail⟩
              have ends {result : Except Exn UserRow} {after : World}
                  (ran : App.run deployment (linkOrProvision deployment db readings
                    tenantId provider claims subject) world = (result, after)) :
                  after.users = world.users ∨ ∃ subject row,
                    Provisions deployment db readings tenantId provider claims
                      subject row world after.users := by
                have ended := chosen (@ends_linkOrProvision deployment db readings
                  tenantId provider claims world subject)
                rwa [show StatementTree.run (perform deployment) _ world = _ from ran]
                  at ended
              refine StatementTree.ends_bind (fun user between ran => ?_)
                (fun error after ran => ends ran)
              have stored := ends ran
              refine App.ends_ofExcept_bind (fun email emailEq => ?_) stored
              exact App.ends_ask_bind (fun answer answered => stored) stored

/-! ## What a resolution leaves -/

theorem Chosen.tenantId_eq {subject : String} {before : World}
    (chosen : Chosen deployment db readings tenantId provider claims subject
      before user after) : user.tenantId = tenantId := by
  cases chosen with
  | existing email isEmail found verified =>
      exact (mem_of_userWithEmail found).2.1
  | provisioned email users isEmail row isRow isUser inserted =>
      rw [isUser]
      exact (provisionedUser_eq_ok isRow).2.1

/-- Storing a link changes only the links. -/
theorem Links.after_eq {subject : String} {before : World}
    (links : Links deployment db readings tenantId provider claims subject user
      before after) :
    ∃ identities, after = { before with identities := identities } := by
  obtain ⟨externalEmail, -, performed⟩ := links.email
  exact ⟨_, (Prod.mk.inj performed).2.symm⟩

/-- The user a sign-in resolves to is stored. -/
theorem Resolves.user_mem {subject : String}
    (resolves : Resolves deployment db readings tenantId provider claims subject
      world user after) : user ∈ after.users := by
  cases resolves with
  | linked found => exact mem_of_linkedUser found
  | unlinked between _ missing autoLink chosen links =>
      obtain ⟨identities, rfl⟩ := links.after_eq
      cases chosen with
      | existing email isEmail found verified =>
          exact (mem_of_userWithEmail found).1
      | provisioned email users isEmail row isRow isUser inserted =>
          exact (KeyedTable.mem_of_insert inserted).mpr (.inr rfl)

/-- A sign-in changes only users and links. -/
theorem Resolves.after_eq {subject : String}
    (resolves : Resolves deployment db readings tenantId provider claims subject
      world user after) :
    ∃ users identities,
      after = { world with users := users, identities := identities } := by
  cases resolves with
  | linked found => exact ⟨_, _, rfl⟩
  | unlinked between _ missing autoLink chosen links =>
      obtain ⟨identities, rfl⟩ := links.after_eq
      cases chosen with
      | existing => exact ⟨_, identities, rfl⟩
      | provisioned email users => exact ⟨users, identities, rfl⟩

/-! ## What the provider asserts -/

/-- A program of statements on providers and of requests to them changes only
how many requests were sent. -/
theorem run_upstream {α : Type} {program : App α}
    (uses : Uses [.providers, .upstream] program) :
    ∃ calls, (App.run deployment program world).2 =
      { world with upstreamCalls := calls } := by
  have keeps (stmt : Stmt) (before : World)
      (mem : stmt.table ∈ [Table.providers, Table.upstream])
      (held : ∃ calls, before = { world with upstreamCalls := calls }) :
      ∃ calls, (perform deployment stmt before).2 =
        { world with upstreamCalls := calls } := by
    obtain ⟨calls, rfl⟩ := held
    cases stmt with
    | provider stmt => exact ⟨calls, rfl⟩
    | upstream stmt => exact ⟨_, rfl⟩
    | _ => simp [Stmt.table] at mem
  exact uses.run_preserves keeps ⟨world.upstreamCalls, rfl⟩

/-- A program of statements on clients changes nothing. -/
theorem run_clients {α : Type} {program : App α}
    (uses : Uses [.clients] program) :
    (App.run deployment program world).2 = world := by
  have keeps (stmt : Stmt) (before : World)
      (mem : stmt.table ∈ [Table.clients]) (same : before = world) :
      (perform deployment stmt before).2 = world := by
    rw [← same]
    cases stmt with
    | client stmt => rfl
    | _ => simp [Stmt.table] at mem
  exact uses.run_preserves keeps rfl

/-- The claims a provider asserts for a code, and the world after it was
asked. -/
def Asserts (deployment : Deployment) (readings : Readings)
    (provider : ProviderRow) (code redirectUri : String) (claims : UpstreamClaims)
    (before after : World) : Prop :=
  ∃ tokens between,
    App.run deployment
      (exchangeCodeForProviderTokens deployment provider code redirectUri)
      before = (.ok tokens, between) ∧
    App.run deployment
      (providerClaims deployment provider tokens (readings.utcNow 0)) between =
        (.ok claims, after)

theorem Asserts.after_eq {code redirectUri : String} {before : World}
    (asserts : Asserts deployment readings provider code redirectUri claims before
      after) : ∃ calls, after = { before with upstreamCalls := calls } := by
  obtain ⟨tokens, between, exchanged, claimed⟩ := asserts
  obtain ⟨first, betweenEq⟩ := @run_upstream deployment before _ _
    (@uses_exchangeCodeForProviderTokens [.providers, .upstream] deployment
      provider code redirectUri (by decide))
  obtain ⟨second, afterEq⟩ := @run_upstream deployment between _ _
    (@uses_providerClaims [.providers, .upstream] deployment provider tokens
      (readings.utcNow 0) (by decide))
  rw [exchanged] at betweenEq
  rw [claimed] at afterEq
  dsimp only at betweenEq afterEq
  exact ⟨second, by rw [afterEq, betweenEq]⟩

/-- The claims of a subject token that the provider of its issuer signed. -/
def Presents (deployment : Deployment) (tenantId : String)
    (subjectToken : PyValue) (audience : Option String) (issuerHint : PyValue)
    (utcNow : Int) (provider : ProviderRow) (claims : UpstreamClaims)
    (before after : World) : Prop :=
  App.run deployment (validateBrokerSubjectToken deployment tenantId subjectToken
    audience issuerHint utcNow) before = (.ok (some (provider, claims)), after)

theorem Presents.after_eq {subjectToken issuerHint : PyValue}
    {audience : Option String} {utcNow : Int} {before : World}
    (presents : Presents deployment tenantId subjectToken audience issuerHint
      utcNow provider claims before after) :
    ∃ calls, after = { before with upstreamCalls := calls } := by
  obtain ⟨calls, afterEq⟩ := @run_upstream deployment before _ _
    (@uses_validateBrokerSubjectToken [.providers, .upstream] deployment tenantId
      subjectToken issuerHint audience utcNow (by decide) (by decide))
  rw [presents] at afterEq
  exact ⟨calls, afterEq⟩

theorem Presents.provider_mem {subjectToken issuerHint : PyValue}
    {audience : Option String} {utcNow : Int}
    (presents : Presents deployment tenantId subjectToken audience issuerHint
      utcNow provider claims world after) :
    provider ∈ world.providers ∧ provider.tenantId = tenantId := by
  unfold Presents validateBrokerSubjectToken at presents
  split at presents
  case h_2 => cases presents
  case h_1 token =>
    obtain ⟨unverified, _, first, rest⟩ := App.run_bind_eq_ok.mp presents
    have unmoved := @run_clients deployment world _ _
      (uses_ofJwt (deployment.upstreamUnverified token))
    rw [first] at unmoved
    dsimp only at rest unmoved
    rw [unmoved] at rest
    split at rest
    case isTrue => cases rest
    case isFalse =>
      obtain ⟨issuer, _, bound, rest⟩ := App.run_bind_eq_ok.mp rest
      obtain ⟨-, rfl⟩ := Prod.mk.inj bound
      obtain ⟨found, _, asked, rest⟩ := App.run_bind_eq_ok.mp rest
      obtain ⟨foundEq, rfl⟩ := Prod.mk.inj asked
      cases found with
      | none => cases rest
      | some selected =>
          obtain ⟨verified, _, -, rest⟩ := App.run_bind_eq_ok.mp rest
          cases rest
          have isFirst := Except.ok.inj foundEq
          obtain ⟨providerMem, selectedBy⟩ :=
            KeyedTable.mem_select.mp (List.mem_of_mem_head? isFirst)
          simp only [Bool.and_eq_true, decide_eq_true_eq] at selectedBy
          exact ⟨providerMem, selectedBy.1.1.1⟩

theorem resolveOrProvisionFederatedUser_eq_ok
    {subjectToken issuerHint : PyValue} {audience : Option String}
    (ran : App.run deployment (resolveOrProvisionFederatedUser deployment db
      readings tenantId subjectToken audience issuerHint) world =
        (.ok (user, provider, claims), after)) :
    ∃ between subject, Presents deployment tenantId subjectToken audience
        issuerHint (readings.utcNow 0) provider claims world between ∧
      Subject claims subject ∧
      Resolves deployment db readings tenantId provider claims subject between
        user after ∧ db.sees user.tenantId = true := by
  obtain ⟨found, between, presents, rest⟩ := App.run_bind_eq_ok.mp ran
  cases found with
  | none => cases rest
  | some found =>
      obtain ⟨chosen, final, resolved, rest⟩ := App.run_bind_eq_ok.mp rest
      cases rest
      obtain ⟨subject, isSubject, resolves, seen⟩ :=
        findOrCreateLocalUser_eq_ok resolved
      exact ⟨between, subject, presents, isSubject, resolves, seen⟩

theorem resolveOrProvisionFromProviderTokens_eq_ok {tokens : UpstreamTokens}
    (ran : App.run deployment (resolveOrProvisionFromProviderTokens deployment db
      readings tenantId provider tokens) world = (.ok (user, claims), after)) :
    ∃ between subject,
      App.run deployment (providerClaims deployment provider tokens
        (readings.utcNow 0)) world = (.ok claims, between) ∧
      Subject claims subject ∧
      Resolves deployment db readings tenantId provider claims subject between
        user after ∧ db.sees user.tenantId = true := by
  obtain ⟨found, between, claimed, rest⟩ := App.run_bind_eq_ok.mp ran
  obtain ⟨chosen, final, resolved, rest⟩ := App.run_bind_eq_ok.mp rest
  cases rest
  obtain ⟨subject, isSubject, resolves, seen⟩ :=
    findOrCreateLocalUser_eq_ok resolved
  exact ⟨between, subject, claimed, isSubject, resolves, seen⟩

/-! ## The callback -/

/-- The open transaction of a state. -/
def transactionFor (world : World) (providerId upstreamState : String) :
    Option TransactionRow :=
  (world.transactions.select fun row => row.providerId = providerId &&
    row.upstreamState = upstreamState && row.consumedAt.isNone &&
      world.now < row.expiresAt).head?

/-- The enabled provider of a tenant. -/
def providerFor (world : World) (tenantId providerId : String) :
    Option ProviderRow :=
  ((world.providers.lookup providerId).filter fun row =>
    row.tenantId = tenantId).filter ProviderRow.enabled

/-- A callback that signs a user in: its transaction, the claims of the
provider, and the user they resolve to. -/
structure CallbackSignIn (deployment : Deployment) (readings : Readings)
    (request : CallbackRequest) (world : World) (txn : TransactionRow)
    (provider : ProviderRow) (claims : UpstreamClaims) (subject : String)
    (user : UserRow) (after : World) : Prop where
  isTransaction : transactionFor world request.providerId
    (request.state.getD "") = some txn
  isProvider : providerFor world txn.tenantId request.providerId = some provider
  resolves : ∃ between resolved,
    Asserts deployment readings provider (request.code.getD "")
      (providerCallbackUri deployment request.providerId) claims world between ∧
    Subject claims subject ∧
    Resolves deployment .owner readings txn.tenantId provider claims subject
      between user resolved ∧
    after = (perform deployment (.transaction (.consume txn.id)) resolved).2

/-- What is caught gives no value. -/
theorem run_tryCatch_some {α : Type} {program : App (Option α)} {value : α}
    (ran : App.run deployment (tryCatch program fun _ => return none) world =
      (.ok (some value), after)) :
    App.run deployment program world = (.ok (some value), after) := by
  unfold App.run at ran ⊢
  rw [StatementTree.run_tryCatch] at ran
  split at ran
  case h_1 found between done => rw [done, ran]
  case h_2 => cases ran

theorem federationCallback_eq_ok {request : CallbackRequest}
    {clientName : String} {email : Option String} {scopes : List String}
    {params : AuthorizationParams} {session : SignedToken}
    (ran : App.run deployment (federationCallback deployment readings request)
      world = (.ok (.consentPage clientName email scopes params (some session)),
        after)) :
    ∃ txn provider claims subject user,
      CallbackSignIn deployment readings request world txn provider claims subject
        user after ∧
      deployment.tokens.createJwtToken (buildSessionPayload deployment
        (readings.utcNow 1) user txn.tenantId txn.clientId)
          (readings.timeNs 0) = .ok session := by
  unfold federationCallback at ran
  split at ran
  case isTrue => cases ran
  split at ran
  case isTrue => cases ran
  have askedTransaction : App.run deployment
      (getFederationAuthTransactionByState request.providerId
        (request.state.getD "")) world =
      (.ok (transactionFor world request.providerId (request.state.getD "")),
        world) := rfl
  rw [App.run_bind_of_ok askedTransaction] at ran
  cases transaction : transactionFor world request.providerId
      (request.state.getD "") with
  | none =>
      rw [transaction] at ran
      cases ran
  | some txn =>
      rw [transaction] at ran
      have askedProvider : App.run deployment
          (getIdentityProvider txn.tenantId request.providerId) world =
          (.ok ((world.providers.lookup request.providerId).filter fun row =>
            row.tenantId = txn.tenantId), world) := rfl
      dsimp only at ran
      rw [App.run_bind_of_ok askedProvider] at ran
      cases providerEq : providerFor world txn.tenantId request.providerId with
      | none =>
          rw [providerFor] at providerEq
          rw [providerEq] at ran
          cases ran
      | some provider =>
          have filtered := providerEq
          rw [providerFor] at filtered
          rw [filtered] at ran
          obtain ⟨resolved, middle, tried, rest⟩ := App.run_bind_eq_ok.mp ran
          cases resolved with
          | none => cases rest
          | some user =>
              obtain ⟨tokens, between, exchanged, tried⟩ :=
                App.run_bind_eq_ok.mp (run_tryCatch_some tried)
              obtain ⟨⟨found, claims⟩, resolvedWorld, resolved, tried⟩ :=
                App.run_bind_eq_ok.mp tried
              cases tried
              obtain ⟨asserted, subject, claimed, isSubject, resolves, -⟩ :=
                resolveOrProvisionFromProviderTokens_eq_ok resolved
              have consumed : App.run deployment
                  (consumeFederationAuthTransaction txn.id) middle =
                  (.ok (), (perform deployment (.transaction (.consume txn.id))
                    middle).2) := rfl
              dsimp only at rest
              rw [App.run_bind_of_ok consumed] at rest
              obtain ⟨client, validated, validatedEq, rest⟩ :=
                App.run_bind_eq_ok.mp rest
              cases client with
              | none => cases rest
              | some client =>
                  obtain ⟨token, _, minted, rest⟩ := App.run_bind_eq_ok.mp rest
                  obtain ⟨mintedEq, rfl⟩ := Prod.mk.inj minted
                  cases rest
                  have unchanged : after = (perform deployment
                      (.transaction (.consume txn.id)) middle).2 := by
                    have same := @run_clients deployment
                      (perform deployment (.transaction (.consume txn.id))
                        middle).2 _ _
                      (@uses_validateClient [.clients] deployment
                        (.text txn.clientId) .none (by decide))
                    rwa [validatedEq] at same
                  refine ⟨txn, provider, claims, subject, found,
                    ⟨transaction, providerEq, asserted, middle,
                      ⟨tokens, between, exchanged, claimed⟩, isSubject, resolves,
                      unchanged⟩, mintedEq⟩

/-! ## The token exchange -/

theorem run_tryCatch_ok {α : Type} {program : App α} {value : α}
    (ran : App.run deployment
      (tryCatch (do let value ← program; return .ok value) fun cause =>
        return (.error cause : Except Exn α)) world = (.ok (.ok value), after)) :
    App.run deployment program world = (.ok value, after) := by
  unfold App.run at ran ⊢
  rw [StatementTree.run_tryCatch, StatementTree.run_bind] at ran
  rcases programEq : StatementTree.run (perform deployment) program world with
    ⟨result, between⟩
  rw [programEq] at ran
  cases result with
  | error error => cases ran
  | ok found =>
      cases ran
      rfl

theorem userId_of_createJwtToken {service : TokenService} {payload : Claims}
    {timeNs : Nat} {token : SignedToken}
    (minted : service.createJwtToken payload timeNs = .ok token) :
    token.payload.userId = payload.userId ∧ token.payload.sub = payload.sub := by
  obtain ⟨_, -, payloadEq, -⟩ := TokenService.createJwtToken_eq_ok minted
  rw [payloadEq]
  exact ⟨rfl, rfl⟩

theorem sub_of_createIdToken {wanted : Prop} [Decidable wanted] {utcNow : Int}
    {timeNs : Nat} {userId email clientId : String}
    {nonce firstName lastName role : Option String} {idToken : Option SignedToken}
    (minted : (if wanted then
        (createIdToken deployment utcNow timeNs userId email tenantId clientId
          nonce firstName lastName role).map some
      else .ok none) = .ok idToken) :
    ∀ token ∈ idToken, token.payload.sub = some userId := by
  intro token isToken
  split at minted
  case isFalse =>
    cases minted
    cases isToken
  case isTrue =>
    cases created : createIdToken deployment utcNow timeNs userId email tenantId
        clientId nonce firstName lastName role with
    | error error =>
        rw [created] at minted
        cases minted
    | ok found =>
        rw [created] at minted
        cases minted
        cases isToken
        exact (userId_of_createJwtToken created).2

theorem fetchUserPolicies_world {userId : String} {policies : List (String × Nat)}
    (ran : App.run deployment (fetchUserPolicies db userId tenantId) world =
      (.ok policies, after)) : after = world := by
  obtain ⟨documents, between, asked, rest⟩ := App.run_bind_eq_ok.mp ran
  cases rest
  exact (Prod.mk.inj asked).2.symm

theorem createRefreshToken_world {random userId clientId jti : String}
    {utcNow : Int}
    (ran : App.run deployment
      (createRefreshToken random utcNow userId tenantId clientId) world =
        (.ok jti, after)) :
    ∃ refreshTokens, after = { world with refreshTokens := refreshTokens } := by
  obtain ⟨answer, between, asked, rest⟩ := App.run_bind_eq_ok.mp ran
  cases rest
  exact ⟨_, (Prod.mk.inj asked).2.symm⟩

/-- A token exchange that signs a user in. -/
structure ExchangeSignIn (deployment : Deployment) (db : Connection)
    (readings : Readings) (client : ClientRow) (data : List (String × PyValue))
    (world : World) (provider : ProviderRow) (claims : UpstreamClaims)
    (subject : String) (user : UserRow) (after : World) : Prop where
  isSubject : Subject claims subject
  resolves : ∃ between resolved refreshTokens,
    Presents deployment client.tenantId (PyValue.get data "subject_token")
      (some client.id) (PyValue.get data "issuer_hint") (readings.utcNow 0)
      provider claims world between ∧
    Resolves deployment db readings client.tenantId provider claims subject
      between user resolved ∧
    after = { resolved with refreshTokens := refreshTokens }

theorem tokenExchangeGrant_eq_ok {client : ClientRow}
    {data : List (String × PyValue)} {tokens : TokenData}
    (ran : App.run deployment
      (tokenExchangeGrant deployment db readings client data) world =
        (.ok (.tokens tokens), after)) :
    ∃ provider claims subject user,
      ExchangeSignIn deployment db readings client data world provider claims
        subject user after ∧
      tokens.accessToken.payload.userId = some user.id ∧
      ∀ token ∈ tokens.idToken, token.payload.sub = some user.id := by
  unfold tokenExchangeGrant at ran
  dsimp only at ran
  split at ran
  case isTrue => cases ran
  split at ran
  case isTrue => cases ran
  obtain ⟨resolved, middle, tried, rest⟩ := App.run_bind_eq_ok.mp ran
  cases resolved with
  | error cause => cases rest
  | ok resolved =>
      obtain ⟨user, provider, claims⟩ := resolved
      obtain ⟨between, subject, presents, isSubject, resolves, -⟩ :=
        resolveOrProvisionFederatedUser_eq_ok (run_tryCatch_ok tried)
      dsimp only at rest
      obtain ⟨policies, fetched, fetching, rest⟩ := App.run_bind_eq_ok.mp rest
      obtain ⟨accessToken, _, minted, rest⟩ := App.run_bind_eq_ok.mp rest
      obtain ⟨accessEq, rfl⟩ := Prod.mk.inj minted
      obtain ⟨refreshToken, stored, storing, rest⟩ := App.run_bind_eq_ok.mp rest
      have same := fetchUserPolicies_world fetching
      obtain ⟨refreshTokens, storedEq⟩ := createRefreshToken_world storing
      rw [same] at storedEq
      split at rest
      case h_1 => cases rest
      case h_2 scope scopeEq =>
        obtain ⟨idToken, _, minted, rest⟩ := App.run_bind_eq_ok.mp rest
        obtain ⟨idEq, rfl⟩ := Prod.mk.inj minted
        cases rest
        exact ⟨provider, claims, subject, user,
          ⟨isSubject, between, middle, refreshTokens, presents, resolves,
            storedEq⟩,
          (userId_of_createJwtToken accessEq).1, sub_of_createIdToken idEq⟩

/-! ## The users a failed sign-in leaves -/

/-- What is known of the users stays known while nothing touches them. -/
theorem ends_bind_of_frame {α β : Type} {program : App α}
    {continuation : α → App β} {known : UserTable → Prop}
    (ends : App.Ends deployment program world fun after => known after.users)
    (frame : ∀ value between,
      (App.run deployment (continuation value) between).2.users = between.users) :
    App.Ends deployment (program >>= continuation) world
      fun after => known after.users := by
  have ended {result : Except Exn α} {between : World}
      (ran : App.run deployment program world = (result, between)) :
      known between.users := by
    have left : known (App.run deployment program world).2.users := ends
    rwa [ran] at left
  refine StatementTree.ends_bind (fun value between ran => ?_)
    (fun error between ran => ended ran)
  have left := ended ran
  rw [← frame value between] at left
  exact left

theorem ends_tryCatch_of_frame {α : Type} {program : App α} {handler : Exn → α}
    {known : UserTable → Prop}
    (ends : App.Ends deployment program world fun after => known after.users) :
    App.Ends deployment (tryCatch program fun error => return handler error) world
      fun after => known after.users := by
  have ended {result : Except Exn α} {between : World}
      (ran : App.run deployment program world = (result, between)) :
      known between.users := by
    have left : known (App.run deployment program world).2.users := ends
    rwa [ran] at left
  exact StatementTree.ends_tryCatch (fun _ _ ran => ended ran)
    fun _ _ ran => ended ran

/-- A program before a sign-in that does not touch users leaves them, and the
sign-in starts where it ends. -/
theorem ends_bind_of_uses {α β : Type} {program : App α}
    {continuation : α → App β} {known : UserTable → Prop} (tables : List Table)
    (uses : Uses tables program) (unused : .users ∉ tables)
    (here : known world.users)
    (onValue : ∀ value between,
      App.run deployment program world = (.ok value, between) →
      between.users = world.users →
      App.Ends deployment (continuation value) between
        fun after => known after.users) :
    App.Ends deployment (program >>= continuation) world
      fun after => known after.users := by
  have same {result : Except Exn α} {between : World}
      (ran : App.run deployment program world = (result, between)) :
      between.users = world.users := by
    have left := @users_of_uses deployment world _ tables _ uses unused
    rwa [ran] at left
  refine StatementTree.ends_bind
    (fun value between ran => onValue value between ran (same ran))
    fun error between ran => ?_
  exact (same ran).symm ▸ here

/-- What a callback does for a state and a code of its provider: the claims
that the provider asserts for them. -/
structure CallbackAsserts (deployment : Deployment) (readings : Readings)
    (request : CallbackRequest) (world : World) (txn : TransactionRow)
    (provider : ProviderRow) (claims : UpstreamClaims) (between : World) :
    Prop where
  requested : given request.error = false ∧ given request.code = true ∧
    given request.state = true
  isTransaction : transactionFor world request.providerId
    (request.state.getD "") = some txn
  isProvider : providerFor world txn.tenantId request.providerId = some provider
  asserts : Asserts deployment readings provider (request.code.getD "")
    (providerCallbackUri deployment request.providerId) claims world between

/-- The users stay, or one is inserted for claims that the provider asserts. -/
def CallbackUsers (deployment : Deployment) (readings : Readings)
    (request : CallbackRequest) (world : World) (users : UserTable) : Prop :=
  users = world.users ∨ ∃ txn provider claims between subject row,
    CallbackAsserts deployment readings request world txn provider claims
      between ∧
    Provisions deployment .owner readings txn.tenantId provider claims subject row
      between users

theorem ends_federationCallback {request : CallbackRequest} :
    App.Ends deployment (federationCallback deployment readings request) world
      fun after =>
        CallbackUsers deployment readings request world after.users := by
  unfold federationCallback
  split
  case isTrue => exact .inl rfl
  case isFalse noError =>
    split
    case isTrue => exact .inl rfl
    case isFalse complete =>
      have requested : given request.error = false ∧
          given request.code = true ∧ given request.state = true := by
        simpa using And.intro noError complete
      refine App.ends_ask_bind (fun found foundEq => ?_) (.inl rfl)
      have transaction : transactionFor world request.providerId
          (request.state.getD "") = found := Except.ok.inj foundEq
      cases found with
      | none => exact .inl rfl
      | some txn =>
          refine App.ends_ask_bind (fun found foundEq => ?_) (.inl rfl)
          have isFound : (world.providers.lookup request.providerId).filter
              (fun row => row.tenantId = txn.tenantId) = found :=
            Except.ok.inj foundEq
          split
          case h_1 => exact .inl rfl
          case h_2 provider providerEq =>
            have isProvider : providerFor world txn.tenantId request.providerId =
                some provider := by
              rw [providerFor, isFound, providerEq]
            refine ends_bind_of_frame (ends_tryCatch_of_frame ?_)
              fun resolved between => ?_
            · refine ends_bind_of_uses [.providers, .upstream]
                (uses_exchangeCodeForProviderTokens (by decide)) (by decide)
                (.inl rfl) fun tokens first exchanged firstUsers => ?_
              refine ends_bind_of_frame ?_ fun _ _ => rfl
              unfold resolveOrProvisionFromProviderTokens
              refine ends_bind_of_uses [.upstream]
                (uses_providerClaims (by decide)) (by decide) (.inl firstUsers)
                fun claims second claimed secondUsers => ?_
              refine ends_bind_of_frame ?_ fun _ _ => rfl
              have asserts : CallbackAsserts deployment readings request world txn
                  provider claims second :=
                ⟨requested, transaction, isProvider, tokens, first, exchanged,
                  claimed⟩
              refine ends_findOrCreateLocalUser.mono fun after ends => ?_
              rcases ends with same | ⟨subject, row, provisions⟩
              · exact .inl (same.trans (secondUsers.trans firstUsers))
              · exact .inr ⟨txn, provider, claims, second, subject, row, asserts,
                  provisions⟩
            · cases resolved with
              | none => rfl
              | some user =>
                  refine users_of_uses [.transactions, .clients] ?_ (by decide)
                  refine Within.bind (uses_ask (by simp [Stmt.table])) fun _ =>
                    (uses_validateClient (by decide)).bind fun client => ?_
                  cases client with
                  | none => exact within_done
                  | some client => exact (uses_ofExcept _).bind fun _ => within_done

/-- The users stay, or one is inserted for claims that a subject token
presents. -/
def ExchangeUsers (deployment : Deployment) (db : Connection)
    (readings : Readings) (client : ClientRow) (data : List (String × PyValue))
    (world : World) (users : UserTable) : Prop :=
  users = world.users ∨ ∃ provider claims between subject row,
    Presents deployment client.tenantId (PyValue.get data "subject_token")
      (some client.id) (PyValue.get data "issuer_hint") (readings.utcNow 0)
      provider claims world between ∧
    Provisions deployment db readings client.tenantId provider claims subject row
      between users

theorem ends_tokenExchangeGrant {client : ClientRow}
    {data : List (String × PyValue)} :
    App.Ends deployment (tokenExchangeGrant deployment db readings client data)
      world fun after =>
        ExchangeUsers deployment db readings client data world after.users := by
  unfold tokenExchangeGrant
  dsimp only
  split
  case isTrue => exact .inl rfl
  case isFalse =>
    split
    case isTrue => exact .inl rfl
    case isFalse =>
      refine ends_bind_of_frame (ends_tryCatch_of_frame ?_)
        fun resolved between => ?_
      · refine ends_bind_of_frame ?_ fun _ _ => rfl
        unfold resolveOrProvisionFederatedUser
        refine ends_bind_of_uses [.providers, .upstream]
          (uses_validateBrokerSubjectToken (by decide) (by decide)) (by decide)
          (.inl rfl) fun found first presented firstUsers => ?_
        cases found with
        | none => exact .inl firstUsers
        | some found =>
            obtain ⟨provider, claims⟩ := found
            have presents : Presents deployment client.tenantId
                (PyValue.get data "subject_token") (some client.id)
                (PyValue.get data "issuer_hint") (readings.utcNow 0) provider
                claims world first := presented
            refine ends_bind_of_frame ?_ fun _ _ => rfl
            refine ends_findOrCreateLocalUser.mono fun after ends => ?_
            rcases ends with same | ⟨subject, row, provisions⟩
            · exact .inl (same.trans firstUsers)
            · exact .inr ⟨provider, claims, first, subject, row, presents,
                provisions⟩
      · rcases resolved with cause | ⟨user, provider, claims⟩
        · rfl
        · refine users_of_uses [.policies, .refreshTokens] ?_ (by decide)
          refine (uses_fetchUserPolicies (by decide)).bind fun _ =>
            (uses_ofExcept _).bind fun _ =>
            (uses_createRefreshToken (by decide)).bind fun _ => ?_
          split
          · exact within_done
          · exact (uses_ofExcept _).bind fun _ => within_done

end Calls

/-- An identity provider with a shared secret. -/
def idp : ProviderRow where
  id := "p"
  tenantId := "t"
  name := "IdP"
  protocol := "oidc"
  issuerUrl := "https://idp"
  clientId := some "iam"
  clientSecret := none
  discoveryUrl := none
  authorizationEndpoint := some "https://idp/authorize"
  tokenEndpoint := some "https://idp/token"
  userinfoEndpoint := none
  jwksUri := none
  jwtValidationSecret := some "shared"
  enabled := true
  autoLink := true
  authorizationScopes := none
  tokenEndpointAuthMethod := none
  claimsSource := none
  linkByEmailVerifiedOnly := true
  defaultRole := some "member"
  createdAt := 0

end FederatedSignIn

end HexIam
