import HexIam.AccountStatus
import HexIam.ConcurrentSignIns

/-!
# External identities that share a user

The rule that a provider's email must be verified guards the linking of a user
that is already there; a user that a sign-in provisions takes its email as the
provider gives it.  When two external identities come to share a user, all but
the one that it was provisioned for have proven the email.  The history of the
sign-ins is kept next to the world, so that a link can be traced back to the
sign-in that stored it.
-/

namespace HexIam

open StatementTree GuardedRun

namespace SharedAccounts

open FederatedSignIn ConcurrentSignIns

/-! ## Histories -/

/-- A sign-in that returned a user: the world it found, and its claims. -/
structure SignedIn where
  before : World
  providerId : String
  claims : UpstreamClaims
  user : UserRow

namespace SignedIn

/-- The external identity of a sign-in, a provider and a subject. -/
def IsOf (entry : SignedIn) (identity : String × String) : Prop :=
  entry.providerId = identity.1 ∧ Subject entry.claims identity.2

/-- The sign-in stored the link of the identity. -/
def Creates (tenantId : String) (entry : SignedIn)
    (identity : String × String) : Prop :=
  entry.IsOf identity ∧
    entry.before.identities.lookup (tenantId, identity.1, identity.2) = none

/-- The sign-in provisioned its user. -/
def Provisions (entry : SignedIn) : Prop :=
  entry.before.users.lookup entry.user.id = none

/-- The sign-in presented the email of its user as verified. -/
def Vouches (entry : SignedIn) : Prop :=
  Email entry.claims entry.user.email ∧
    normalizedEmailVerified entry.claims = true

end SignedIn

/-- The world, and the sign-ins so far. -/
structure History where
  world : World
  log : List SignedIn

/-- A token exchange, the sign-in of a callback for the tokens of a provider,
or anything that changes neither users nor links. -/
inductive SignInEvent : Type
  | exchange (db : Connection) (readings : Readings) (subjectToken : PyValue)
      (audience : Option String) (issuerHint : PyValue)
  | callback (readings : Readings) (provider : ProviderRow)
      (tokens : UpstreamTokens)
  | elsewhere (world : World)

/-- The history after a sign-in; it is recorded if it returns a user. -/
def History.record (state : History)
    (outcome : Except Exn (UserRow × String × UpstreamClaims) × World) :
    History where
  world := outcome.2
  log := match outcome.1 with
    | .ok (user, providerId, claims) =>
        state.log ++ [⟨state.world, providerId, claims, user⟩]
    | .error _ => state.log

/-- A token exchange, with the provider it went to. -/
def exchange (deployment : Deployment) (tenantId : String) (db : Connection)
    (readings : Readings) (subjectToken : PyValue) (audience : Option String)
    (issuerHint : PyValue) : App (UserRow × String × UpstreamClaims) := do
  let (user, provider, claims) ← resolveOrProvisionFederatedUser deployment db
    readings tenantId subjectToken audience issuerHint
  return (user, provider.id, claims)

/-- The sign-in of a callback, with the provider it went to. -/
def callback (deployment : Deployment) (tenantId : String) (readings : Readings)
    (provider : ProviderRow) (tokens : UpstreamTokens) :
    App (UserRow × String × UpstreamClaims) := do
  let (user, claims) ← resolveOrProvisionFromProviderTokens deployment .owner
    readings tenantId provider tokens
  return (user, provider.id, claims)

/-- The history after an event. -/
def historyStep (deployment : Deployment) (tenantId : String) (state : History) :
    SignInEvent → Option History
  | .exchange db readings subjectToken audience issuerHint =>
      some (state.record (App.run deployment (SharedAccounts.exchange deployment
        tenantId db readings subjectToken audience issuerHint) state.world))
  | .callback readings provider tokens =>
      some (state.record (App.run deployment (SharedAccounts.callback deployment
        tenantId readings provider tokens) state.world))
  | .elsewhere world =>
      some { state with world := { world with
        users := state.world.users
        identities := state.world.identities } }

/-- A provider that links automatically, and only by verified emails. -/
def StrictProvider (provider : ProviderRow) : Prop :=
  provider.autoLink = true ∧ provider.linkByEmailVerifiedOnly = true

/-- All sign-ins go through such providers. -/
def Strict (tenantId : String) (state : History) : SignInEvent → Prop
  | .exchange .. => ∀ provider ∈ state.world.providers,
      provider.tenantId = tenantId → StrictProvider provider
  | .callback _ provider _ => StrictProvider provider
  | .elsewhere _ => True

/-! ## The property -/

/-- A sign-in of the identity has returned the user. -/
def ResolvesTo (log : List SignedIn) (identity : String × String)
    (userId : String) : Prop :=
  ∃ entry ∈ log, entry.IsOf identity ∧ entry.user.id = userId

/-- Two identities share a user. -/
def Share (log : List SignedIn) (first second : String × String)
    (userId : String) : Prop :=
  first ≠ second ∧ ResolvesTo log first userId ∧ ResolvesTo log second userId

/-- An identity that shares its user has presented the user's email as verified
when its link was stored. -/
def AllVouched (tenantId : String) (state : History) : Prop :=
  ∀ first second userId, Share state.log first second userId →
    ∀ entry ∈ state.log, entry.Creates tenantId first → entry.Vouches

/-- The sign-ins that stored the links of two identities that share a user: each
of them returned this user and presented its email as verified or provisioned
it, and only one of them provisioned it. -/
structure Vouched (tenantId : String) (state : History)
    (first second : String × String) (userId : String) : Prop where
  created : ∃ entry ∈ state.log, entry.Creates tenantId first
  isUser : ∀ entry ∈ state.log, entry.Creates tenantId first →
    entry.user.id = userId ∧ state.world.users.lookup userId = some entry.user
  vouches : ∀ entry ∈ state.log, entry.Creates tenantId first →
    entry.Provisions ∨ entry.Vouches
  once : ∀ entry ∈ state.log, ∀ other ∈ state.log,
    entry.Creates tenantId first → other.Creates tenantId second →
    ¬ (entry.Provisions ∧ other.Provisions)

/-- Identities that share a user have proven its email, but for the one that it
was provisioned for. -/
def VouchedButOne (tenantId : String) (state : History) : Prop :=
  ∀ first second userId, Share state.log first second userId →
    Vouched tenantId state first second userId

/-! ## The condition -/

/-- The provider and the verified claims of the token that a sign-in presents. -/
def Presents (deployment : Deployment) (tenantId : String) (world : World) :
    SignInEvent → ProviderRow → UpstreamClaims → Prop
  | .exchange _ readings subjectToken audience issuerHint, provider, claims =>
      (App.run deployment (validateBrokerSubjectToken deployment tenantId
        subjectToken audience issuerHint (readings.utcNow 0)) world).1 =
          .ok (some (provider, claims))
  | .callback readings own tokens, provider, claims => provider = own ∧
      (App.run deployment (providerClaims deployment own tokens
        (readings.utcNow 0)) world).1 = .ok claims
  | .elsewhere _, _, _ => False

/-- No identity without a link presents, as verified, the email of a user that an
earlier sign-in provisioned without presenting it as verified. -/
def Apart (deployment : Deployment) (tenantId : String) (state : History)
    (event : SignInEvent) : Prop :=
  ∀ provider claims subject, Presents deployment tenantId state.world event
      provider claims →
    Subject claims subject →
    state.world.identities.lookup (tenantId, provider.id, subject) = none →
    normalizedEmailVerified claims = true →
    ∀ entry ∈ state.log, entry.Provisions → Email claims entry.user.email →
      entry.Vouches

/-! ## What the history records -/

/-- Every link was stored by a recorded sign-in, every recorded sign-in has its
link, and a sign-in that stored one has vouched for its user or provisioned
it. -/
structure Recorded (tenantId : String) (state : History) : Prop where
  users : ∀ entry ∈ state.log,
    entry.user ∈ state.world.users ∧ entry.user.tenantId = tenantId
  links : ∀ row ∈ state.world.identities, row.tenantId = tenantId ∧
    ∃ entry ∈ state.log,
      entry.Creates tenantId (row.providerId, row.externalSubject) ∧
        entry.user.id = row.userId
  resolved : ∀ entry ∈ state.log, LinkedTo state.world.identities tenantId
    entry.providerId entry.claims entry.user
  vouches : ∀ entry ∈ state.log, ∀ identity, entry.Creates tenantId identity →
    entry.Provisions ∨ entry.Vouches
  once : ∀ entry ∈ state.log, ∀ other ∈ state.log, entry.Provisions →
    other.Provisions → entry.user.id = other.user.id → entry = other

section Invariant

variable {deployment : Deployment} {tenantId : String} {state : History}

theorem subject_unique {claims : UpstreamClaims} {subject other : String}
    (isSubject : Subject claims subject) (isOther : Subject claims other) :
    subject = other :=
  PyValue.text.inj (Option.some.inj (isSubject.symm.trans isOther))

theorem Recorded.frame {world : World} (recorded : Recorded tenantId state)
    (links : world.identities = state.world.identities)
    (users : ∀ user ∈ state.world.users, user ∈ world.users) :
    Recorded tenantId { state with world := world } where
  users entry entryMem :=
    ⟨users _ (recorded.users entry entryMem).1,
      (recorded.users entry entryMem).2⟩
  links row rowMem := recorded.links row (links ▸ rowMem)
  resolved entry entryMem :=
    (recorded.resolved entry entryMem).kept (linksKept_of_eq links)
  vouches := recorded.vouches
  once := recorded.once

theorem Recorded.lookup_user {entry : SignedIn}
    (recorded : Recorded tenantId state) (entryMem : entry ∈ state.log) :
    state.world.users.lookup entry.user.id = some entry.user :=
  KeyedTable.lookup_eq_some.mpr ⟨(recorded.users entry entryMem).1, rfl⟩

theorem Recorded.unlinked {db : Connection} {providerId subject : String}
    (recorded : Recorded tenantId state) (sees : db.sees tenantId = true)
    (missing : linkedUser state.world db tenantId providerId subject = none) :
    state.world.identities.lookup (tenantId, providerId, subject) = none := by
  cases found : state.world.identities.lookup (tenantId, providerId, subject) with
  | none => rfl
  | some row =>
      obtain ⟨rowMem, -⟩ := KeyedTable.lookup_eq_some.mp found
      obtain ⟨-, entry, entryMem, -, isUser⟩ := recorded.links row rowMem
      have stored := recorded.lookup_user entryMem
      have seen : db.sees entry.user.tenantId = true := by
        rw [(recorded.users entry entryMem).2, sees]
      rw [linkedUser, found, Option.bind_some, ← isUser, stored,
        Option.filter_some, if_pos seen] at missing
      cases missing

/-- A sign-in keeps the record when the links it leaves are old ones or its
own. -/
theorem Recorded.append {world : World} {entry : SignedIn}
    (recorded : Recorded tenantId state) (before : entry.before = state.world)
    (grow : ∀ user ∈ state.world.users, user ∈ world.users)
    (isUser : entry.user ∈ world.users ∧ entry.user.tenantId = tenantId)
    (kept : LinksKept state.world.identities world.identities)
    (links : ∀ row ∈ world.identities,
      (∃ held ∈ state.world.identities, held.key = row.key ∧
        held.userId = row.userId) ∨
      row.tenantId = tenantId ∧
        entry.Creates tenantId (row.providerId, row.externalSubject) ∧
        entry.user.id = row.userId)
    (resolved : LinkedTo world.identities tenantId entry.providerId entry.claims
      entry.user)
    (vouches : ∀ identity, entry.Creates tenantId identity →
      entry.Provisions ∨ entry.Vouches) :
    Recorded tenantId { world := world, log := state.log ++ [entry] } := by
  -- A user that the sign-in provisions is nobody's before.
  have fresh (provisions : entry.Provisions) (other : SignedIn)
      (otherMem : other ∈ state.log) : other.user.id ≠ entry.user.id := by
    intro same
    have absent : state.world.users.lookup entry.user.id = none :=
      before ▸ provisions
    rw [← same, recorded.lookup_user otherMem] at absent
    cases absent
  constructor
  · intro other otherMem
    rcases List.mem_append.mp otherMem with old | new
    · exact ⟨grow _ (recorded.users other old).1, (recorded.users other old).2⟩
    · rwa [List.mem_singleton.mp new]
  · intro row rowMem
    rcases links row rowMem with ⟨held, heldMem, sameKey, sameUser⟩ | ⟨sameTenant, own⟩
    · obtain ⟨sameTenant, creator, creatorMem, creates, isOwner⟩ :=
        recorded.links held heldMem
      obtain ⟨tenantEq, providerEq, subjectEq⟩ : held.tenantId = row.tenantId ∧
          held.providerId = row.providerId ∧
          held.externalSubject = row.externalSubject := by
        simpa [IdentityRow.key] using sameKey
      rw [providerEq, subjectEq] at creates
      exact ⟨tenantEq ▸ sameTenant, creator, List.mem_append_left _ creatorMem,
        creates, isOwner.trans sameUser⟩
    · exact ⟨sameTenant, entry, List.mem_append_right _ List.mem_cons_self, own⟩
  · intro other otherMem
    rcases List.mem_append.mp otherMem with old | new
    · exact (recorded.resolved other old).kept kept
    · rwa [List.mem_singleton.mp new]
  · intro other otherMem identity creates
    rcases List.mem_append.mp otherMem with old | new
    · exact recorded.vouches other old identity creates
    · rw [List.mem_singleton.mp new] at creates ⊢
      exact vouches identity creates
  · intro first firstMem second secondMem firstProvisions secondProvisions same
    rcases List.mem_append.mp firstMem with firstOld | firstNew <;>
      rcases List.mem_append.mp secondMem with secondOld | secondNew
    · exact recorded.once first firstOld second secondOld firstProvisions
        secondProvisions same
    · rw [List.mem_singleton.mp secondNew] at secondProvisions same
      exact absurd same (fresh secondProvisions first firstOld)
    · rw [List.mem_singleton.mp firstNew] at firstProvisions same
      exact absurd same.symm (fresh firstProvisions second secondOld)
    · rw [List.mem_singleton.mp firstNew, List.mem_singleton.mp secondNew]

/-- A sign-in of a linked identity is recorded with the user of its link. -/
theorem Recorded.linked {db : Connection} {providerId subject : String}
    {claims : UpstreamClaims} {user : UserRow} {world : World}
    (recorded : Recorded tenantId state) (isSubject : Subject claims subject)
    (found : linkedUser state.world db tenantId providerId subject = some user)
    (users : world.users = state.world.users)
    (links : world.identities = state.world.identities) :
    Recorded tenantId {
      world := world
      log := state.log ++ [⟨state.world, providerId, claims, user⟩] } := by
  obtain ⟨row, rowEq, seen⟩ := Option.bind_eq_some_iff.mp found
  have userEq := (Option.filter_eq_some_iff.mp seen).1
  obtain ⟨rowMem, -⟩ := KeyedTable.lookup_eq_some.mp rowEq
  obtain ⟨-, creator, creatorMem, -, isUser⟩ := recorded.links row rowMem
  have stored := recorded.lookup_user creatorMem
  rw [isUser] at stored
  obtain rfl : creator.user = user := Option.some.inj (stored.symm.trans userEq)
  refine recorded.append rfl (fun user userMem => users ▸ userMem)
    (users ▸ recorded.users creator creatorMem) (linksKept_of_eq links)
    (fun held heldMem => .inl ⟨held, links ▸ heldMem, rfl, rfl⟩)
    ⟨subject, row, isSubject, links ▸ rowEq, isUser.symm⟩ ?_
  -- The link was there before.
  rintro identity ⟨⟨rfl, isOther⟩, absent⟩
  obtain rfl := subject_unique isSubject isOther
  cases rowEq.symm.trans absent

section Resolves

variable {db : Connection} {readings : Readings} {provider : ProviderRow}
variable {claims : UpstreamClaims} {subject : String} {user : UserRow}
variable {before between after : World}

/-- A chosen user keeps the others, and was provisioned or vouched for. -/
theorem users_of_chosen
    (chosen : Chosen deployment db readings tenantId provider claims subject
      before user between) :
    user ∈ between.users ∧ (∀ other ∈ before.users, other ∈ between.users) ∧
      between.identities = before.identities := by
  cases chosen with
  | existing email isEmail found verified =>
      exact ⟨(mem_of_userWithEmail found).1, fun _ => id, rfl⟩
  | provisioned email users isEmail row isRow isUser inserted =>
      exact ⟨(KeyedTable.mem_of_insert inserted).mpr (.inr rfl),
        fun _ otherMem => (KeyedTable.mem_of_insert inserted).mpr (.inl otherMem),
        rfl⟩

theorem vouches_of_chosen (strict : provider.linkByEmailVerifiedOnly = true)
    (chosen : Chosen deployment db readings tenantId provider claims subject
      before user between) :
    before.users.lookup user.id = none ∨
      Email claims user.email ∧ normalizedEmailVerified claims = true := by
  cases chosen with
  | existing email isEmail found verified =>
      have same : user.email = email := (mem_of_userWithEmail found).2.2.1
      exact .inr ⟨same ▸ isEmail, verified strict⟩
  | provisioned email users isEmail row isRow isUser inserted =>
      exact .inl (KeyedTable.lookup_eq_none.mpr
        (KeyedTable.insert_eq_some.mp inserted).1)

theorem linksKept_of_stored
    (links : Links deployment db readings tenantId provider claims subject user
      between after) : LinksKept between.identities after.identities := by
  obtain ⟨externalEmail, -, performed⟩ := links.email
  have kept := @linksKept_perform deployment between (.identity db (.upsert
    (readings.secret 2) tenantId provider.id user.id (some subject) externalEmail))
  rwa [performed] at kept

theorem links_of_stored
    (links : Links deployment db readings tenantId provider claims subject user
      between after)
    (absent : between.identities.lookup (tenantId, provider.id, subject) = none) :
    (∃ row, after.identities.lookup (tenantId, provider.id, subject) = some row ∧
      row.userId = user.id) ∧
    ∀ row ∈ after.identities,
      (∃ held ∈ between.identities, held.key = row.key ∧
        held.userId = row.userId) ∨
      row.key = (tenantId, provider.id, subject) ∧ row.userId = user.id := by
  obtain ⟨externalEmail, -, performed⟩ := links.email
  obtain ⟨done, afterEq⟩ := Prod.mk.inj performed
  have identitiesEq : (IdentityStmt.perform db between (.upsert
      (readings.secret 2) tenantId provider.id user.id (some subject)
      externalEmail)).2 = after.identities := congrArg World.identities afterEq
  constructor
  · rcases @TenantCoherence.perform_upsert between db (readings.secret 2) tenantId
      provider.id user.id subject externalEmail with
      ⟨-, upserted⟩ | ⟨⟨⟨error, refused⟩, -⟩, -⟩
    · rw [← identitiesEq, upserted, KeyedTable.lookup_upsert, absent]
      exact ⟨_, if_pos rfl, rfl⟩
    · cases done.symm.trans refused
  · intro row rowMem
    rw [← identitiesEq] at rowMem
    rcases TenantCoherence.mem_perform_upsert rowMem with
      old | rfl | ⟨held, heldMem, rfl⟩
    · exact .inl ⟨row, old, rfl, rfl⟩
    · exact .inr ⟨rfl, rfl⟩
    · exact .inl ⟨held, heldMem, rfl, rfl⟩

/-- A sign-in that returns a user keeps the record. -/
theorem Recorded.resolves {calls : Nat} (recorded : Recorded tenantId state)
    (strict : provider.linkByEmailVerifiedOnly = true)
    (isSubject : Subject claims subject) (sees : db.sees user.tenantId = true)
    (resolves : Resolves deployment db readings tenantId provider claims subject
      { state.world with upstreamCalls := calls } user after) :
    Recorded tenantId {
      world := after
      log := state.log ++ [⟨state.world, provider.id, claims, user⟩] } := by
  cases resolves with
  | linked found => exact recorded.linked isSubject found rfl rfl
  | unlinked between _ missing autoLink chosen links =>
      have ofTenant : user.tenantId = tenantId := chosen.tenantId_eq
      have absent : state.world.identities.lookup
          (tenantId, provider.id, subject) = none :=
        recorded.unlinked (ofTenant ▸ sees) missing
      obtain ⟨userMem, grow, sameLinks⟩ := users_of_chosen chosen
      obtain ⟨⟨row, rowEq, isUser⟩, stored⟩ :=
        links_of_stored links (sameLinks ▸ absent)
      obtain ⟨identities, afterEq⟩ := links.after_eq
      have sameUsers : after.users = between.users := by rw [afterEq]
      refine recorded.append rfl (fun other otherMem => ?_) ?_ ?_ ?_ ?_ ?_
      · exact sameUsers ▸ grow other otherMem
      · exact ⟨sameUsers ▸ userMem, ofTenant⟩
      · have kept := linksKept_of_stored links
        rwa [sameLinks] at kept
      · intro held heldMem
        rcases stored held heldMem with ⟨old, oldMem, same⟩ | ⟨sameKey, isOwner⟩
        · exact .inl ⟨old, sameLinks ▸ oldMem, same⟩
        · obtain ⟨tenantEq, providerEq, subjectEq⟩ : held.tenantId = tenantId ∧
              held.providerId = provider.id ∧ held.externalSubject = subject := by
            simpa [IdentityRow.key] using sameKey
          rw [providerEq, subjectEq]
          exact .inr ⟨tenantEq, ⟨⟨rfl, isSubject⟩, absent⟩, isOwner.symm⟩
      · exact ⟨subject, row, isSubject, rowEq, isUser⟩
      · have vouched := vouches_of_chosen strict chosen
        exact fun _ _ => vouched

end Resolves

/-- A sign-in that raises keeps the record. -/
theorem Recorded.fails {α : Type} {program : App α} {after : World} {error : Exn}
    (recorded : Recorded tenantId state)
    (ran : App.run deployment program state.world = (.error error, after))
    (links : after.identities = state.world.identities) :
    Recorded tenantId { state with world := after } := by
  refine recorded.frame links fun user userMem => ?_
  have stays : user ∈ (App.run deployment program state.world).2.users :=
    AccountStatus.users_grow program userMem
  rwa [ran] at stays

section Errors

variable {db : Connection} {readings : Readings} {world after : World}
variable {error : Exn}

theorem identities_of_uses {α : Type} (tables : List Table) {program : App α}
    {result : Except Exn α} (uses : Uses tables program)
    (unused : .identities ∉ tables)
    (ran : App.run deployment program world = (result, after)) :
    after.identities = world.identities := by
  have same := @frame_of_uses _ _ deployment World.identities tables .identities
    program world (fun _ _ => identities_perform deployment) uses unused
  rwa [ran] at same

theorem identities_of_findOrCreateLocalUser {provider : ProviderRow}
    {claims : UpstreamClaims}
    (ran : App.run deployment (findOrCreateLocalUser deployment db readings
      tenantId provider claims) world = (.error error, after)) :
    after.identities = world.identities :=
  unfinished_findOrCreateLocalUser.identities_of_error ran

/-- A token exchange that raises has stored no link. -/
theorem identities_of_exchange {subjectToken issuerHint : PyValue}
    {audience : Option String}
    (ran : App.run deployment (exchange deployment tenantId db readings
      subjectToken audience issuerHint) world = (.error error, after)) :
    after.identities = world.identities := by
  rcases App.run_bind_eq_error.mp ran with raised | ⟨_, _, -, rest⟩
  case inr => cases rest
  have uses : Uses [.providers, .upstream] (validateBrokerSubjectToken deployment
      tenantId subjectToken audience issuerHint (readings.utcNow 0)) :=
    uses_validateBrokerSubjectToken (by decide) (by decide)
  rcases App.run_bind_eq_error.mp raised with failed | ⟨found, between, validated, rest⟩
  · exact identities_of_uses _ uses (by decide) failed
  · have same := identities_of_uses _ uses (by decide) validated
    cases found with
    | none =>
        cases rest
        exact same
    | some found =>
        rcases App.run_bind_eq_error.mp rest with failed | ⟨_, _, -, rest⟩
        · exact (identities_of_findOrCreateLocalUser failed).trans same
        · cases rest

theorem identities_of_callback {provider : ProviderRow} {tokens : UpstreamTokens}
    (ran : App.run deployment (callback deployment tenantId readings provider
      tokens) world = (.error error, after)) :
    after.identities = world.identities := by
  rcases App.run_bind_eq_error.mp ran with raised | ⟨_, _, -, rest⟩
  case inr => cases rest
  have uses : Uses [.upstream] (providerClaims deployment provider tokens
      (readings.utcNow 0)) := uses_providerClaims (by decide)
  rcases App.run_bind_eq_error.mp raised with failed | ⟨claims, between, claimed, rest⟩
  · exact identities_of_uses _ uses (by decide) failed
  · have same := identities_of_uses _ uses (by decide) claimed
    rcases App.run_bind_eq_error.mp rest with failed | ⟨_, _, -, rest⟩
    · exact (identities_of_findOrCreateLocalUser failed).trans same
    · cases rest

end Errors

/-! ## Runs -/

theorem recorded_exchange {db : Connection} {readings : Readings}
    {subjectToken issuerHint : PyValue} {audience : Option String}
    (recorded : Recorded tenantId state)
    (strict : Strict tenantId state
      (.exchange db readings subjectToken audience issuerHint)) :
    Recorded tenantId (state.record (App.run deployment (exchange deployment
      tenantId db readings subjectToken audience issuerHint) state.world)) := by
  rcases ran : App.run deployment (exchange deployment tenantId db readings
    subjectToken audience issuerHint) state.world with ⟨result, after⟩
  cases result with
  | error error => exact recorded.fails ran (identities_of_exchange ran)
  | ok answer =>
      obtain ⟨⟨user, provider, claims⟩, between, resolved, rest⟩ :=
        App.run_bind_eq_ok.mp ran
      cases rest
      obtain ⟨presented, subject, presents, isSubject, resolves, seen⟩ :=
        resolveOrProvisionFederatedUser_eq_ok resolved
      obtain ⟨providerMem, ofTenant⟩ := presents.provider_mem
      obtain ⟨calls, rfl⟩ := presents.after_eq
      exact recorded.resolves (strict provider providerMem ofTenant).2 isSubject
        seen resolves

theorem recorded_callback {readings : Readings} {provider : ProviderRow}
    {tokens : UpstreamTokens} (recorded : Recorded tenantId state)
    (strict : StrictProvider provider) :
    Recorded tenantId (state.record (App.run deployment (callback deployment
      tenantId readings provider tokens) state.world)) := by
  rcases ran : App.run deployment (callback deployment tenantId readings provider
    tokens) state.world with ⟨result, after⟩
  cases result with
  | error error => exact recorded.fails ran (identities_of_callback ran)
  | ok answer =>
      obtain ⟨⟨user, claims⟩, between, resolved, rest⟩ :=
        App.run_bind_eq_ok.mp ran
      cases rest
      obtain ⟨asserted, subject, claimed, isSubject, resolves, seen⟩ :=
        resolveOrProvisionFromProviderTokens_eq_ok resolved
      obtain ⟨calls, assertedEq⟩ := @run_upstream deployment state.world _ _
        (@uses_providerClaims [.providers, .upstream] deployment provider tokens
          (readings.utcNow 0) (by decide))
      rw [claimed] at assertedEq
      dsimp only at assertedEq
      rw [assertedEq] at resolves
      exact recorded.resolves strict.2 isSubject seen resolves

theorem recorded_step {event : SignInEvent} {next : History}
    (recorded : Recorded tenantId state) (strict : Strict tenantId state event)
    (stepEq : historyStep deployment tenantId state event = some next) :
    Recorded tenantId next := by
  cases event with
  | exchange db readings subjectToken audience issuerHint =>
      cases stepEq
      exact recorded_exchange recorded strict
  | callback readings provider tokens =>
      cases stepEq
      exact recorded_callback recorded strict
  | elsewhere world =>
      cases stepEq
      exact recorded.frame rfl fun _ => id

/-- Recorded sign-ins that share a user have vouched for it, but for the one that
provisioned it. -/
theorem vouchedButOne_of_recorded (recorded : Recorded tenantId state) :
    VouchedButOne tenantId state := by
  -- The user that an identity resolves to is the one of its link.
  have linkOf {identity : String × String} {userId : String}
      (resolves : ResolvesTo state.log identity userId) :
      ∃ row, state.world.identities.lookup
        (tenantId, identity.1, identity.2) = some row ∧ row.userId = userId := by
    obtain ⟨entry, entryMem, ⟨providerEq, isSubject⟩, isUser⟩ := resolves
    obtain ⟨subject, row, isOther, rowEq, sameUser⟩ :=
      recorded.resolved entry entryMem
    obtain rfl := subject_unique isOther isSubject
    exact ⟨row, providerEq ▸ rowEq, sameUser.trans isUser⟩
  have userOf {identity : String × String} {userId : String} {entry : SignedIn}
      (resolves : ResolvesTo state.log identity userId)
      (entryMem : entry ∈ state.log) (creates : entry.Creates tenantId identity) :
      entry.user.id = userId := by
    obtain ⟨row, rowEq, isUser⟩ := linkOf resolves
    obtain ⟨other, otherEq, isOther⟩ :=
      linkOf ⟨entry, entryMem, creates.1, rfl⟩
    obtain rfl : row = other := Option.some.inj (rowEq.symm.trans otherEq)
    exact isOther.symm.trans isUser
  rintro first second userId ⟨distinct, firstResolves, secondResolves⟩
  constructor
  · obtain ⟨row, rowEq, -⟩ := linkOf firstResolves
    obtain ⟨rowMem, keyEq⟩ := KeyedTable.lookup_eq_some.mp rowEq
    obtain ⟨-, entry, entryMem, creates, -⟩ := recorded.links row rowMem
    have isFirst : (row.providerId, row.externalSubject) = first :=
      congrArg Prod.snd keyEq
    exact ⟨entry, entryMem, isFirst ▸ creates⟩
  · intro entry entryMem creates
    have isUser := userOf firstResolves entryMem creates
    exact ⟨isUser, isUser ▸ recorded.lookup_user entryMem⟩
  · exact fun entry entryMem => recorded.vouches entry entryMem first
  · rintro entry entryMem other otherMem creates otherCreates ⟨made, otherMade⟩
    have sameUser : entry.user.id = other.user.id :=
      (userOf firstResolves entryMem creates).trans
        (userOf secondResolves otherMem otherCreates).symm
    have same := recorded.once entry entryMem other otherMem made otherMade sameUser
    rw [← same] at otherCreates
    refine distinct (Prod.ext ?_ ?_)
    · exact creates.1.1.symm.trans otherCreates.1.1
    · exact subject_unique creates.1.2 otherCreates.1.2

end Invariant

/-! ## The result -/

/-- In every run of strict sign-ins that starts without links, external
identities share a user only if all of them but the one that it was provisioned
for have proven its email. -/
theorem sharing_is_vouched (deployment : Deployment) (tenantId : String)
    (world : World) (events : List SignInEvent)
    (unlinked : ∀ row, row ∉ world.identities)
    (strict : Along (historyStep deployment tenantId) (Strict tenantId)
      ⟨world, []⟩ events) :
    Always (historyStep deployment tenantId) (VouchedButOne tenantId) ⟨world, []⟩
      events := by
  have start : Recorded tenantId ⟨world, []⟩ :=
    ⟨nofun, fun row rowMem => absurd rowMem (unlinked row), nofun, nofun, nofun⟩
  have recorded : Always (historyStep deployment tenantId) (Recorded tenantId)
      ⟨world, []⟩ events :=
    always_of_along (fun _ _ _ recorded strict stepEq =>
      recorded_step recorded strict stepEq) start strict
  exact always_mono (fun _ => vouchedButOne_of_recorded) recorded

/-! ## Runs that keep identities apart -/

/-- The users of linking sign-ins were provisioned with a proven email, if a
sign-in provisioned them. -/
def Separate (tenantId : String) (state : History) : Prop :=
  ∀ entry ∈ state.log, ∀ other ∈ state.log, ∀ identity, entry.Provisions →
    other.Creates tenantId identity → ¬ other.Provisions →
    entry.user.id = other.user.id → entry.Vouches

section Separate

variable {deployment : Deployment} {tenantId : String} {state : History}

theorem Separate.append {world : World} {new : SignedIn}
    (separate : Separate tenantId state) (recorded : Recorded tenantId state)
    (nextRecorded : Recorded tenantId ⟨world, state.log ++ [new]⟩)
    (before : new.before = state.world)
    (apart : ∀ subject, Subject new.claims subject →
      state.world.identities.lookup (tenantId, new.providerId, subject) = none →
      normalizedEmailVerified new.claims = true →
      ∀ entry ∈ state.log, entry.Provisions → Email new.claims entry.user.email →
        entry.Vouches) :
    Separate tenantId ⟨world, state.log ++ [new]⟩ := by
  intro entry entryMem other otherMem identity provisions creates links sameUser
  rcases List.mem_append.mp entryMem with oldEntry | newEntry <;>
    rcases List.mem_append.mp otherMem with oldOther | newOther
  · exact separate entry oldEntry other oldOther identity provisions creates links
      sameUser
  · -- the new sign-in links to the user of an old one
    rw [List.mem_singleton] at newOther
    subst newOther
    obtain ⟨isEmail, isVerified⟩ :=
      (nextRecorded.vouches other otherMem identity creates).resolve_left links
    obtain ⟨⟨sameProvider, isSubject⟩, absent⟩ := creates
    rw [before, ← sameProvider] at absent
    have stored := nextRecorded.lookup_user entryMem
    rw [sameUser, nextRecorded.lookup_user otherMem, Option.some.injEq] at stored
    rw [stored] at isEmail
    exact apart identity.2 isSubject absent isVerified entry oldEntry provisions
      isEmail
  · -- the user of an old sign-in is not provisioned again
    rw [List.mem_singleton] at newEntry
    subst newEntry
    have absent : state.world.users.lookup entry.user.id = none :=
      before ▸ provisions
    rw [sameUser, recorded.lookup_user oldOther] at absent
    cases absent
  · rw [List.mem_singleton] at newEntry newOther
    rw [newOther, ← newEntry] at links
    exact absurd provisions links

/-- What a token exchange that returns a user has verified. -/
theorem validated_of_resolved {db : Connection} {readings : Readings}
    {subjectToken issuerHint : PyValue} {audience : Option String}
    {world after : World} {user : UserRow} {provider : ProviderRow}
    {claims : UpstreamClaims}
    (resolved : App.run deployment (resolveOrProvisionFederatedUser deployment db
      readings tenantId subjectToken audience issuerHint) world =
        (.ok (user, provider, claims), after)) :
    (App.run deployment (validateBrokerSubjectToken deployment tenantId
      subjectToken audience issuerHint (readings.utcNow 0)) world).1 =
        .ok (some (provider, claims)) := by
  obtain ⟨found, between, validated, rest⟩ := App.run_bind_eq_ok.mp resolved
  cases found with
  | none => cases rest
  | some found =>
      obtain ⟨_, _, -, rest⟩ := App.run_bind_eq_ok.mp rest
      cases rest
      rw [validated]

/-- What a callback that returns a user has verified. -/
theorem claimed_of_resolved {db : Connection} {readings : Readings}
    {provider : ProviderRow} {tokens : UpstreamTokens} {world after : World}
    {user : UserRow} {claims : UpstreamClaims}
    (resolved : App.run deployment (resolveOrProvisionFromProviderTokens deployment
      db readings tenantId provider tokens) world = (.ok (user, claims), after)) :
    (App.run deployment (providerClaims deployment provider tokens
      (readings.utcNow 0)) world).1 = .ok claims := by
  obtain ⟨found, between, claimed, rest⟩ := App.run_bind_eq_ok.mp resolved
  obtain ⟨_, _, -, rest⟩ := App.run_bind_eq_ok.mp rest
  cases rest
  rw [claimed]

theorem separate_step {event : SignInEvent} {next : History}
    (recorded : Recorded tenantId state) (separate : Separate tenantId state)
    (strict : Strict tenantId state event)
    (apart : Apart deployment tenantId state event)
    (stepEq : historyStep deployment tenantId state event = some next) :
    Separate tenantId next := by
  have nextRecorded := recorded_step recorded strict stepEq
  cases event with
  | exchange db readings subjectToken audience issuerHint =>
      cases stepEq
      rcases ran : App.run deployment (exchange deployment tenantId db readings
        subjectToken audience issuerHint) state.world with ⟨result, after⟩
      simp only [History.record, ran] at nextRecorded ⊢
      cases result with
      | error error => exact separate
      | ok answer =>
          obtain ⟨⟨user, provider, claims⟩, between, resolved, rest⟩ :=
            App.run_bind_eq_ok.mp ran
          cases rest
          have presents := validated_of_resolved resolved
          exact separate.append recorded nextRecorded rfl fun subject =>
            apart provider claims subject presents
  | callback readings provider tokens =>
      cases stepEq
      rcases ran : App.run deployment (callback deployment tenantId readings
        provider tokens) state.world with ⟨result, after⟩
      simp only [History.record, ran] at nextRecorded ⊢
      cases result with
      | error error => exact separate
      | ok answer =>
          obtain ⟨⟨user, claims⟩, between, resolved, rest⟩ :=
            App.run_bind_eq_ok.mp ran
          cases rest
          have presents := claimed_of_resolved resolved
          exact separate.append recorded nextRecorded rfl fun subject =>
            apart provider claims subject ⟨rfl, presents⟩
  | elsewhere world =>
      cases stepEq
      exact separate

/-- Where linked users are separate, identities that share a user have proven
its email. -/
theorem allVouched_of_separate (shared : VouchedButOne tenantId state)
    (separate : Separate tenantId state) : AllVouched tenantId state := by
  intro first second userId share entry entryMem creates
  obtain ⟨distinct, firstResolves, secondResolves⟩ := share
  have ofFirst := shared first second userId
    ⟨distinct, firstResolves, secondResolves⟩
  have ofSecond := shared second first userId
    ⟨distinct.symm, secondResolves, firstResolves⟩
  rcases ofFirst.vouches entry entryMem creates with provisions | vouches
  · obtain ⟨other, otherMem, otherCreates⟩ := ofSecond.created
    have links : ¬ other.Provisions := fun otherProvisions =>
      ofFirst.once entry entryMem other otherMem creates otherCreates
        ⟨provisions, otherProvisions⟩
    have sameUser : entry.user.id = other.user.id :=
      (ofFirst.isUser entry entryMem creates).1.trans
        (ofSecond.isUser other otherMem otherCreates).1.symm
    exact separate entry entryMem other otherMem second provisions otherCreates
      links sameUser
  · exact vouches

end Separate

/-- In every run of strict sign-ins that starts without links and links nobody to
a user whose email was not proven when it was provisioned, external identities
that share a user have proven its email. -/
theorem sharing_is_proven (deployment : Deployment) (tenantId : String)
    (world : World) (events : List SignInEvent)
    (unlinked : ∀ row, row ∉ world.identities)
    (strict : Along (historyStep deployment tenantId) (Strict tenantId)
      ⟨world, []⟩ events)
    (apart : Along (historyStep deployment tenantId) (Apart deployment tenantId)
      ⟨world, []⟩ events) :
    Always (historyStep deployment tenantId) (AllVouched tenantId) ⟨world, []⟩
      events := by
  have start : Recorded tenantId ⟨world, []⟩ ∧ Separate tenantId ⟨world, []⟩ :=
    ⟨⟨nofun, fun row rowMem => absurd rowMem (unlinked row), nofun, nofun, nofun⟩,
      nofun⟩
  have separate : Always (historyStep deployment tenantId)
      (fun state => Recorded tenantId state ∧ Separate tenantId state) ⟨world, []⟩
      events :=
    always_of_along (fun _ _ _ holds conditions stepEq =>
      ⟨recorded_step holds.1 conditions.1 stepEq,
        separate_step holds.1 holds.2 conditions.1 conditions.2 stepEq⟩) start
      (along_both strict apart)
  have shared := sharing_is_vouched deployment tenantId world events unlinked strict
  exact always_mono (fun _ holds => allVouched_of_separate holds.1 holds.2.2)
    (always_both shared separate)

/-! ## An email that is taken before it is proven -/

/-- A tenant with two identity providers. -/
def twoProviders : World where
  tenants := .single { id := "t" }
  providers := ⟨[idp, { idp with id := "q", issuerUrl := "https://other" }],
    by decide⟩

/-- The tokens of two subjects with one email, which only one of them has
proven. -/
def oneEmail : Deployment :=
  { Deployment.plain [] with
    upstreamDecode := fun token _ _ _ _ _ =>
      .ok [("sub", .text token), ("email", .text "u@t"),
        ("email_verified", .bool (token = "owner"))] }

def signInWith (userId linkId token : String) (provider : ProviderRow) :
    SignInEvent :=
  .callback {
    utcNow := fun _ => 0
    timeNs := fun _ => 0
    secret
      | 0 => userId
      | 1 => "password"
      | _ => linkId } provider { idToken := some token }

/-- Somebody signs in with the email of another, who signs in later through the
other provider. -/
def takenFirst : List SignInEvent :=
  [signInWith "u1" "l1" "taker" idp,
    signInWith "u2" "l2" "owner" { idp with
      id := "q", issuerUrl := "https://other" }]

theorem takenFirst_strict :
    Along (historyStep oneEmail "t") (Strict "t") ⟨twoProviders, []⟩
      takenFirst :=
  along_of_step rfl ⟨rfl, rfl⟩ (along_of_step rfl ⟨rfl, rfl⟩ (along_nil _))

/-- They share the user, for whose email the first has not vouched. -/
theorem taker_has_not_vouched :
    Along (historyStep oneEmail "t") (Strict "t") ⟨twoProviders, []⟩ takenFirst ∧
      ¬ Always (historyStep oneEmail "t") (AllVouched "t") ⟨twoProviders, []⟩
        takenFirst := by
  refine ⟨takenFirst_strict, fun always => ?_⟩
  have runs : exec (historyStep oneEmail "t") ⟨twoProviders, []⟩ takenFirst =
      some _ := rfl
  have vouched := always_iff.mp always takenFirst [] _
    (List.append_nil _).symm runs
  have vouches := vouched ("p", "taker") ("q", "owner") "u1"
    ⟨by decide, ⟨_, .head _, ⟨rfl, rfl⟩, rfl⟩,
      ⟨_, .tail _ (.head _), ⟨rfl, rfl⟩, rfl⟩⟩ _ (.head _) ⟨⟨rfl, rfl⟩, rfl⟩
  exact absurd vouches.2 (by decide)

/-! ## An email that is proven each time -/

/-- Both subjects have proven the email. -/
def provenEmail : Deployment :=
  { Deployment.plain [] with
    upstreamDecode := fun token _ _ _ _ _ =>
      .ok [("sub", .text token), ("email", .text "u@t"),
        ("email_verified", .bool true)] }

/-- The second sign-in is linked to the user of the first. -/
theorem proven_first :
    Always (historyStep provenEmail "t") (AllVouched "t") ⟨twoProviders, []⟩
      takenFirst := by
  have strict : Along (historyStep provenEmail "t") (Strict "t") ⟨twoProviders, []⟩
      takenFirst :=
    along_of_step rfl ⟨rfl, rfl⟩ (along_of_step rfl ⟨rfl, rfl⟩ (along_nil _))
  have first (event : SignInEvent) :
      Apart provenEmail "t" ⟨twoProviders, []⟩ event := by
    intro provider claims subject presents isSubject absent verified entry entryMem
    cases entryMem
  have apart : Along (historyStep provenEmail "t") (Apart provenEmail "t")
      ⟨twoProviders, []⟩ takenFirst := by
    refine along_of_step rfl (first _) (along_of_step rfl ?_ (along_nil _))
    intro provider claims subject presents isSubject absent verified entry entryMem
      provisions isEmail
    obtain rfl := List.mem_singleton.mp entryMem
    exact ⟨⟨rfl, rfl⟩, rfl⟩
  exact sharing_is_proven _ _ _ _ (fun _ => KeyedTable.not_mem_empty) strict apart

end SharedAccounts

end HexIam
