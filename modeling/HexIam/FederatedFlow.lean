import HexIam.CodeFlow
import HexIam.ProvisioningRetry
import HexIam.UpstreamNonce

/-!
# The authorization code flow through an identity provider

`authorize` sends the browser to an identity provider and keeps the request in
`federation_auth_transactions`.  The provider sends it back to
`federation_callback`, which resolves the claims of the provider to a user and
goes on with the consent page, as after a login.  The subject of the claims is
linked to the user, so that the next sign-in with it ends at the same user.
-/

namespace HexIam

open FederatedSignIn LoginRoutes ProvisioningRetry
open CodeFlow (SignIn Serves Stores Redeems Issues)
open ConsentBinding (FlowCall)

namespace FederatedFlow

/-! ## The parties -/

/-- What the browser and the client bring along, the code of the provider, and
what the server reads from clocks and `secrets` at each of the four requests. -/
structure Visit where
  query : AuthorizeQuery
  accept : String
  providerCode : String
  clientSecret : String
  codeVerifier : Option String
  authorizing : Readings
  returning : Readings
  consenting : Readings
  redeeming : Readings

namespace Visit

variable (visit : Visit)

/-- The sign-in that the callback goes on with.  A transaction has no response
type, and the callback reads the clock for the session after it read the claims.
-/
def signIn : SignIn where
  query := { visit.query with responseType := none }
  accept := visit.accept
  email := ""
  password := ""
  clientSecret := visit.clientSecret
  codeVerifier := visit.codeVerifier
  authorizing := visit.authorizing
  loggingIn := {
    visit.returning with utcNow := fun _ => visit.returning.utcNow 1 }
  consenting := visit.consenting
  redeeming := visit.redeeming

/-- The state the provider sends back. -/
def upstreamState : String :=
  visit.authorizing.secret 0

/-- The row that keeps the request. -/
def transaction (client : ClientRow) (provider : ProviderRow) :
    TransactionRow where
  id := visit.authorizing.secret 2
  tenantId := client.tenantId
  providerId := provider.id
  clientId := visit.query.params.clientId
  redirectUri := visit.query.params.redirectUri
  scope := visit.query.params.scope
  state := visit.query.params.state
  nonce := visit.query.params.nonce
  codeChallenge := visit.query.params.codeChallenge
  codeChallengeMethod := visit.query.params.codeChallengeMethod
  upstreamState := visit.upstreamState
  upstreamNonce := some (visit.authorizing.secret 1)
  expiresAt := visit.authorizing.utcNow 1 + 600
  consumedAt := none

/-- The request for the first page. -/
def authorizeCall : FlowCall :=
  Context.authorize { accept := visit.accept, readings := visit.authorizing }
    visit.query

/-- The request the provider sends the browser back with. -/
def callbackCall (client : ClientRow) (provider : ProviderRow) : FlowCall :=
  Context.callback { readings := visit.returning }
    (visit.transaction client provider) (some visit.providerCode)

/-- The query of the request to the provider. -/
def upstreamQuery (deployment : Deployment) (provider : ProviderRow) :
    List (String × String) :=
  [("client_id", provider.clientId.getD "None"),
    ("redirect_uri", providerCallbackUri deployment provider.id),
    ("response_type", "code"),
    ("scope", scopesOrDefault provider.authorizationScopes),
    ("state", visit.upstreamState)] ++
    if filled (visit.authorizing.secret 1) then
      [("nonce", visit.authorizing.secret 1)]
    else []

end Visit

/-! ## What each request looks up -/

/-- The endpoint is configured, or the discovery document that the provider
answers next has it. -/
inductive Locates (deployment : Deployment) (calls : Nat) (provider : ProviderRow)
    (configured : Option String) (discovered : Discovery → Option String)
    (endpoint : String) : Prop
  | configured (isConfigured : configured = some endpoint)
  | discovered (document : Discovery) (missing : given configured = false)
      (answered : deployment.upstream calls
        (.discovery (discoveryUrl provider)) = .ok document)
      (isDiscovered : discovered document = some endpoint)

/-- The provider is asked for, or it is the only one. -/
inductive Selects (query : AuthorizeQuery) (enabled : List ProviderRow)
    (provider : ProviderRow) : Prop
  | asked (isGiven : given query.providerId = true)
      (isFirst : enabled.find? (fun row => some row.id = query.providerId) =
        some provider) :
      Selects query enabled provider
  | only (notGiven : given query.providerId = false)
      (isOnly : enabled = [provider]) :
      Selects query enabled provider

/-- The enabled providers of a tenant, the oldest first. -/
def enabledProviders (world : World) (tenantId : String) : List ProviderRow :=
  (world.providers.select fun row => row.tenantId = tenantId &&
    row.enabled && row.protocol = "oidc").mergeSort
      fun first second => first.createdAt ≤ second.createdAt

/-- The browser is sent to the provider, and the transaction can be stored. -/
structure Sends (deployment : Deployment) (visit : Visit) (world : World)
    (client : ClientRow) (provider : ProviderRow) (endpoint : String) : Prop where
  isHtml : occursIn "text/html" visit.accept = true
  federated : visit.query.localLogin = false
  selected : Selects visit.query (enabledProviders world client.tenantId) provider
  hasTenant : world.hasTenant client.tenantId = true
  freshId : ∀ held ∈ world.transactions, held.id ≠ visit.authorizing.secret 2
  freshState : ∀ held ∈ world.transactions, held.providerId = provider.id →
    held.upstreamState ≠ visit.upstreamState
  hasProvider : (world.providers.lookup provider.id).isSome = true
  inTime : world.now < visit.authorizing.utcNow 1 + 600
  hasEndpoint : filled endpoint = true
  located : Locates deployment world.upstreamCalls provider
    provider.authorizationEndpoint Discovery.authorizationEndpoint endpoint

/-- A link of the user can be stored. -/
structure Linkable (world : World) (id tenantId providerId userId : String) :
    Prop where
  unique : ∀ held ∈ world.identities, held.id ≠ id ∧
    ¬ (held.tenantId = tenantId ∧ held.providerId = providerId ∧
      held.userId = userId)
  hasTenant : world.hasTenant tenantId = true
  hasProvider : (world.providers.lookup providerId).isSome = true

/-- The user of a subject: the one it is linked to, the one with the email of
the claims, or a new one.  What there is to store can be stored. -/
inductive Leads (deployment : Deployment) (readings : Readings)
    (tenantId : String) (provider : ProviderRow) (claims : UpstreamClaims)
    (subject : String) (world : World) : UserRow → Prop
  | linked (user : UserRow)
      (found : linkedUser world .owner tenantId provider.id subject =
        some user) :
      Leads deployment readings tenantId provider claims subject world user
  | existing (user : UserRow) (email : String)
      (unlinked : world.identities.lookup (tenantId, provider.id, subject) = none)
      (autoLink : provider.autoLink = true) (isEmail : Email claims email)
      (found : userWithEmail world .owner tenantId email = some user)
      (verified : provider.linkByEmailVerifiedOnly = true →
        normalizedEmailVerified claims = true)
      (linkable : Linkable world (readings.secret 2) tenantId provider.id
        user.id) :
      Leads deployment readings tenantId provider claims subject world user
  | provisioned (row : UserRow) (email externalEmail : Option String)
      (unlinked : world.identities.lookup (tenantId, provider.id, subject) = none)
      (autoLink : provider.autoLink = true)
      (newEmail : NewEmail .owner tenantId claims world email)
      (bound : bindText (PyValue.get claims "email") = .ok externalEmail)
      (isRow : provisionedUser deployment readings tenantId provider claims
        (some subject) email = .ok row)
      (accepts : AcceptsUser world .owner row)
      (freshId : ∀ held ∈ world.users, held.id ≠ row.id)
      (linkable : Linkable world (readings.secret 2) tenantId provider.id
        row.id) :
      Leads deployment readings tenantId provider claims subject world
        { row with lastModified := world.now }

/-- The transaction is there, unconsumed and in time, for an enabled provider
and an active client, and the provider vouches for a subject of the user. -/
structure Returns (deployment : Deployment) (visit : Visit) (world : World)
    (client : ClientRow) (provider current : ProviderRow)
    (claims : UpstreamClaims) (subject : String) (user : UserRow) : Prop where
  hasCode : filled visit.providerCode = true
  hasState : filled visit.upstreamState = true
  stored : transactionFor world provider.id visit.upstreamState =
    some (visit.transaction client provider)
  enabled : providerFor world client.tenantId provider.id = some current
  vouched : ∃ asked, Asserts deployment visit.returning current
    visit.providerCode (providerCallbackUri deployment provider.id) claims world
    asked
  isSubject : Subject claims subject
  leads : Leads deployment visit.returning client.tenantId current claims subject
    world user
  active : world.activeClient visit.query.params.clientId = some client

/-! ## The requests -/

section Requests

variable {deployment : Deployment} {world after : World} {visit : Visit}
variable {client : ClientRow} {provider current : ProviderRow}
variable {claims : UpstreamClaims} {subject : String} {user : UserRow}

/-! ### To the provider -/

theorem gives_resolveEndpoint {α : Type} {configured : Option String}
    {discovered : Discovery → Option String} {endpoint : String} {missing : Exn}
    {continuation : String → App α} {post : α → World → Prop}
    (hasEndpoint : filled endpoint = true)
    (located : Locates deployment world.upstreamCalls provider configured
      discovered endpoint)
    (gives : ∀ calls, App.Gives deployment (continuation endpoint)
      { world with upstreamCalls := calls } post) :
    App.Gives deployment
      (resolveEndpoint provider configured discovered missing >>= continuation)
      world post := by
  have isGiven : given (some endpoint) = true := hasEndpoint
  unfold resolveEndpoint resolveDiscovery
  rw [App.gives_bind]
  cases located with
  | configured isConfigured =>
      rw [isConfigured, if_pos isGiven, App.gives_pure]
      exact gives world.upstreamCalls
  | discovered document missing answered isDiscovered =>
      rw [missing, if_neg Bool.false_ne_true, App.gives_bind, App.gives_ask]
      refine ⟨document, answered, ?_⟩
      rw [isDiscovered, if_pos isGiven, App.gives_pure]
      exact gives (world.upstreamCalls + 1)

theorem perform_insert_transaction {row : TransactionRow}
    (hasTenant : world.hasTenant row.tenantId = true)
    (hasProvider : (world.providers.lookup row.providerId).isSome = true)
    (hasClient : (world.clients.lookup row.clientId).isSome = true)
    (freshId : ∀ held ∈ world.transactions, held.id ≠ row.id)
    (freshState : ∀ held ∈ world.transactions, held.providerId = row.providerId →
      held.upstreamState ≠ row.upstreamState) :
    ∃ table, TransactionStmt.perform world (.insert row) = (.ok (), table) ∧
      ∀ held, held ∈ table ↔
        held ∈ world.transactions ∨ held = { row with consumedAt := none } := by
  have free : (world.transactions.select fun held =>
      held.providerId = row.providerId &&
        held.upstreamState = row.upstreamState).isEmpty = true := by
    rw [List.isEmpty_iff, List.eq_nil_iff_forall_not_mem]
    intro held selected
    obtain ⟨heldMem, same⟩ := KeyedTable.mem_select.mp selected
    simp only [Bool.and_eq_true, decide_eq_true_eq] at same
    exact freshState held heldMem same.1 same.2
  obtain ⟨table, inserted, -⟩ :=
    @KeyedTable.exists_insert _ _ _ world.transactions
      { row with consumedAt := none } _ freshId
  refine ⟨table, ?_, fun held => KeyedTable.mem_of_insert inserted⟩
  simp only [TransactionStmt.perform, free, hasTenant, hasProvider, hasClient,
    Bool.and_self, require_true_bind, inserted]

theorem transactionFor_eq_some {row : TransactionRow}
    (rowMem : row ∈ world.transactions) (opened : row.consumedAt = none)
    (inTime : world.now < row.expiresAt)
    (unique : ∀ held ∈ world.transactions, held.providerId = row.providerId →
      held.upstreamState = row.upstreamState → held = row) :
    transactionFor world row.providerId row.upstreamState = some row := by
  unfold transactionFor
  rw [KeyedTable.select_eq_singleton rowMem]
  · rfl
  · simp [opened, inTime]
  · intro held heldMem selected
    simp only [Bool.and_eq_true, decide_eq_true_eq] at selected
    rw [unique held heldMem selected.1.1.1 selected.1.1.2]

theorem gives_beginFederatedAuthorization {endpoint : String}
    (serves : Serves visit.signIn world client)
    (sends : Sends deployment visit world client provider endpoint) :
    App.Gives deployment (beginFederatedAuthorization deployment visit.authorizing
        provider client.tenantId visit.query.params) world
      fun answer after => answer = .redirect (endpoint ++ "?" ++
          deployment.urlencode (visit.upstreamQuery deployment provider)) ∧
        transactionFor after provider.id visit.upstreamState =
          some (visit.transaction client provider) := by
  have hasClient : (world.clients.lookup visit.query.params.clientId).isSome =
      true :=
    Option.isSome_of_eq_some (CodeFlow.lookup_of_activeClient serves.active)
  obtain ⟨table, inserts, memTable⟩ :=
    @perform_insert_transaction world (visit.transaction client provider)
      sends.hasTenant sends.hasProvider hasClient sends.freshId sends.freshState
  have stored : transactionFor { world with transactions := table } provider.id
      visit.upstreamState = some (visit.transaction client provider) := by
    refine @transactionFor_eq_some { world with transactions := table }
      (visit.transaction client provider) ((memTable _).mpr (.inr rfl)) rfl
      sends.inTime ?_
    intro held heldMem sameProvider sameState
    rcases (memTable held).mp heldMem with old | isNew
    · exact absurd sameState (sends.freshState held old sameProvider)
    · exact isNew
  have inserted : perform deployment (.transaction (.insert
      (visit.transaction client provider))) world =
        (.ok (), { world with transactions := table }) := by
    simp only [perform, inserts]
  unfold beginFederatedAuthorization createFederationAuthTransaction
  dsimp only
  rw [App.gives_bind, App.gives_bind]
  refine (App.gives_answer inserted).mpr ?_
  rw [App.gives_ask]
  refine ⟨_, rfl, ?_⟩
  unfold buildProviderAuthorizeUrl
  rw [App.gives_bind]
  refine gives_resolveEndpoint sends.hasEndpoint sends.located fun calls => ?_
  rw [App.gives_pure, App.gives_pure]
  exact ⟨rfl, stored⟩

/-! ### Back from the provider -/

/-- The subject is linked to the user, and only users and links have changed. -/
structure Settles (tenantId providerId subject : String) (user : UserRow)
    (before after : World) : Prop where
  linked : linkedUser after .owner tenantId providerId subject = some user
  frame : ∃ users identities,
    after = { before with users := users, identities := identities }

theorem linkedUser_putLink {id tenantId providerId : String}
    {externalEmail : Option String}
    (unlinked : world.identities.lookup (tenantId, providerId, subject) = none)
    (stored : world.users.lookup user.id = some user) :
    linkedUser (putLink world ⟨id, tenantId, providerId, user.id, subject,
      externalEmail⟩) .owner tenantId providerId subject = some user := by
  have found : (putLink world ⟨id, tenantId, providerId, user.id, subject,
      externalEmail⟩).identities.lookup (tenantId, providerId, subject) =
        some ⟨id, tenantId, providerId, user.id, subject, externalEmail⟩ := by
    refine (KeyedTable.lookup_upsert _ _).trans ((if_pos rfl).trans ?_)
    rw [unlinked]
    rfl
  unfold linkedUser
  rw [found, Option.bind_some]
  exact Option.filter_eq_some_iff.mpr ⟨stored, rfl⟩

theorem stores_link {id tenantId providerId : String}
    {externalEmail : Option String}
    (unlinked : world.identities.lookup (tenantId, providerId, subject) = none)
    (linkable : Linkable world id tenantId providerId user.id)
    (stored : world.users.lookup user.id = some user) :
    ∃ after, perform deployment (.identity .owner (.upsert id tenantId providerId
        user.id (some subject) externalEmail)) world = (.ok (), after) ∧
      Settles tenantId providerId subject user world after := by
  have accepts : AcceptsLink world
      ⟨id, tenantId, providerId, user.id, subject, externalEmail⟩ :=
    ⟨linkable.unique, linkable.hasTenant, Option.isSome_of_eq_some stored,
      linkable.hasProvider⟩
  exact ⟨_, upsert_link_eq_ok.mpr ⟨.inr accepts, rfl⟩,
    linkedUser_putLink unlinked stored, _, _, rfl⟩

theorem gives_findOrCreateLocalUser {tenantId : String} {readings : Readings}
    (isSubject : Subject claims subject)
    (leads : Leads deployment readings tenantId provider claims subject world
      user) :
    App.Gives deployment (findOrCreateLocalUser deployment .owner readings tenantId
        provider claims) world fun found after => found = user ∧
      Settles tenantId provider.id subject user world after := by
  have linkedNone
      (unlinked : world.identities.lookup (tenantId, provider.id, subject) = none) :
      linkedUser world .owner tenantId provider.id subject = none := by
    rw [linkedUser, unlinked]
    rfl
  have resolved {stmts : List Stmt} {after : World}
      (course : Course deployment .owner readings tenantId provider claims subject
        world user stmts after)
      (settles : Settles tenantId provider.id subject user world after) :
      App.Gives deployment (findOrCreateLocalUser deployment .owner readings
          tenantId provider claims) world fun found after => found = user ∧
        Settles tenantId provider.id subject user world after :=
    (StatementTree.gives_of_run
      (performs_findOrCreateLocalUser isSubject course).ran).mpr ⟨rfl, settles⟩
  cases leads with
  | linked user found => exact resolved (.linked found) ⟨found, _, _, rfl⟩
  | existing user email unlinked autoLink isEmail found verified linkable =>
      have stored := KeyedTable.lookup_eq_some.mpr
        ⟨(mem_of_userWithEmail found).1, rfl⟩
      have bound : bindText (PyValue.get claims "email") = .ok (some email) := by
        rw [isEmail.1]
        rfl
      obtain ⟨after, stores, settles⟩ :=
        @stores_link deployment world subject user _ _ _ (some email) unlinked
          linkable stored
      exact resolved (.existing email (some email) after (linkedNone unlinked)
        autoLink isEmail found verified bound stores) settles
  | provisioned row email externalEmail unlinked autoLink newEmail bound isRow
      accepts freshId linkable =>
      obtain ⟨users, inserted, stored⟩ :=
        @KeyedTable.exists_insert _ _ _ world.users
          { row with lastModified := world.now } _ freshId
      have linkableAfter : Linkable { world with users := users }
          (readings.secret 2) tenantId provider.id row.id :=
        ⟨linkable.unique, linkable.hasTenant, linkable.hasProvider⟩
      obtain ⟨after, stores, settles⟩ :=
        @stores_link deployment { world with users := users } subject
          { row with lastModified := world.now } _ _ _ externalEmail unlinked
          linkableAfter stored
      obtain ⟨_, identities, afterEq⟩ := settles.frame
      refine resolved (.provisioned email externalEmail row
        { world with users := users } after (linkedNone unlinked) autoLink newEmail
        isRow (insert_user_eq_ok.mpr ⟨accepts, users, inserted, rfl⟩) rfl rfl bound
        stores) ⟨settles.linked, _, _, afterEq⟩

/-- The requests to a provider leave what a resolution looks up. -/
theorem Leads.asked {tenantId : String} {readings : Readings} {calls : Nat}
    (leads : Leads deployment readings tenantId provider claims subject world
      user) :
    Leads deployment readings tenantId provider claims subject
      { world with upstreamCalls := calls } user := by
  cases leads with
  | linked user found => exact .linked user found
  | existing user email unlinked autoLink isEmail found verified linkable =>
      exact .existing user email unlinked autoLink isEmail found verified
        ⟨linkable.unique, linkable.hasTenant, linkable.hasProvider⟩
  | provisioned row email externalEmail unlinked autoLink newEmail bound isRow
      accepts freshId linkable =>
      exact .provisioned row email externalEmail unlinked autoLink newEmail bound
        isRow ⟨accepts.lengths, accepts.mayInsert, accepts.hasTenant,
          accepts.unique⟩ freshId
        ⟨linkable.unique, linkable.hasTenant, linkable.hasProvider⟩

/-- The world after the user was resolved. -/
structure Resolved (tenantId providerId subject : String) (user : UserRow)
    (before after : World) : Prop where
  linked : linkedUser after .owner tenantId providerId subject = some user
  clients : after.clients = before.clients
  transactions : after.transactions = before.transactions
  now : after.now = before.now

theorem gives_resolved {tenantId code redirectUri : String} {readings : Readings}
    {asked : World}
    (vouched : Asserts deployment readings provider code redirectUri claims world
      asked)
    (isSubject : Subject claims subject)
    (leads : Leads deployment readings tenantId provider claims subject world
      user) :
    App.Gives deployment
      (tryCatch (do
        let tokens ←
          exchangeCodeForProviderTokens deployment provider code redirectUri
        let (user, _) ← resolveOrProvisionFromProviderTokens deployment .owner
          readings tenantId provider tokens
        return some user) fun _ => return none) world fun found after =>
      found = some user ∧
        Resolved tenantId provider.id subject user world after := by
  obtain ⟨calls, rfl⟩ := vouched.after_eq
  obtain ⟨tokens, between, exchanged, claimed⟩ := vouched
  refine App.gives_tryCatch.mpr (.inl ?_)
  rw [App.gives_bind]
  refine (StatementTree.gives_of_run exchanged).mpr ?_
  unfold resolveOrProvisionFromProviderTokens
  rw [App.gives_bind, App.gives_bind]
  refine (StatementTree.gives_of_run claimed).mpr ?_
  rw [App.gives_bind]
  refine (gives_findOrCreateLocalUser isSubject leads.asked).mono ?_
  rintro found after ⟨rfl, linked, users, identities, rfl⟩
  rw [App.gives_pure, App.gives_pure]
  exact ⟨rfl, linked, rfl, rfl, rfl⟩

theorem consumed_consume {row : TransactionRow}
    (stored : row ∈ world.transactions) :
    ((TransactionStmt.perform world (.consume row.id)).2.lookup row.id).map
      TransactionRow.consumedAt = some (some world.now) := by
  simp only [TransactionStmt.perform]
  rw [KeyedTable.lookup_update, KeyedTable.lookup_eq_some.mpr ⟨stored, rfl⟩]
  simp [TransactionRow.consume]

theorem gives_callback (signs : deployment.tokens.canSign)
    (returns : Returns deployment visit world client provider current claims
      subject user) :
    ∃ session, deployment.tokens.createJwtToken
        (buildSessionPayload deployment (visit.signIn.loggingIn.utcNow 0) user
          client.tenantId visit.signIn.params.clientId)
          (visit.signIn.loggingIn.timeNs 0) = .ok session ∧
      App.Gives deployment
        ((visit.callbackCall client provider).program deployment) world
        fun answer after => answer = .consentPage client.name (some user.email)
            (splitWhitespace visit.signIn.scope) visit.signIn.params
              (some session) ∧
          linkedUser after .owner client.tenantId provider.id subject =
            some user ∧
          (after.transactions.lookup (visit.transaction client provider).id).map
            TransactionRow.consumedAt = some (some world.now) := by
  have hasSub : (buildSessionPayload deployment
      (visit.signIn.loggingIn.utcNow 0) user client.tenantId
      visit.signIn.params.clientId).sub.isSome = true := rfl
  obtain ⟨session, minted⟩ :=
    (TokenService.createJwtToken_ok_iff hasSub).mpr signs
  refine ⟨session, minted, ?_⟩
  obtain ⟨asked, vouched⟩ := returns.vouched
  have sameId : current.id = provider.id := by
    obtain ⟨found, -⟩ := Option.filter_eq_some_iff.mp returns.enabled
    obtain ⟨found, -⟩ := Option.filter_eq_some_iff.mp found
    exact (KeyedTable.lookup_eq_some.mp found).2
  have stored : visit.transaction client provider ∈ world.transactions :=
    (KeyedTable.mem_select.mp (List.mem_of_mem_head? returns.stored)).1
  have hasCode : given (some visit.providerCode) = true := returns.hasCode
  have hasState : given (some visit.upstreamState) = true := returns.hasState
  have noError : given none = false := rfl
  change App.Gives deployment (federationCallback deployment visit.returning
    { providerId := provider.id
      code := some visit.providerCode
      state := some visit.upstreamState }) world _
  unfold federationCallback
  simp only [noError, hasCode, hasState, Bool.not_true, Bool.or_self,
    Bool.false_eq_true, if_false]
  have asksTransaction : App.run deployment
      (getFederationAuthTransactionByState provider.id visit.upstreamState) world =
        (.ok (some (visit.transaction client provider)), world) :=
    Prod.ext (congrArg Except.ok returns.stored) rfl
  rw [App.gives_bind]
  refine (StatementTree.gives_of_run asksTransaction).mpr ?_
  have asksProvider : App.run deployment
      (getIdentityProvider client.tenantId provider.id) world =
        (.ok ((world.providers.lookup provider.id).filter fun row =>
          row.tenantId = client.tenantId), world) := rfl
  have enabled : ((world.providers.lookup provider.id).filter fun row =>
      decide (row.tenantId = client.tenantId)).filter ProviderRow.enabled =
        some current := returns.enabled
  dsimp only
  rw [App.gives_bind]
  refine (StatementTree.gives_of_run asksProvider).mpr ?_
  rw [enabled]
  dsimp only
  rw [App.gives_bind]
  refine (gives_resolved vouched returns.isSubject returns.leads).mono ?_
  rintro found middle ⟨rfl, linked, clients, transactions, now⟩
  dsimp only
  unfold consumeFederationAuthTransaction
  rw [App.gives_bind, App.gives_ask]
  refine ⟨(), rfl, ?_⟩
  have active : (perform deployment (.transaction (.consume
      (visit.transaction client provider).id)) middle).2.activeClient
        visit.query.params.clientId = some client := by
    change (middle.clients.lookup _).filter ClientRow.isActive = some client
    rw [clients]
    exact returns.active
  change App.Gives deployment (validateClient deployment
    (.text visit.query.params.clientId) .none >>= _) _ _
  rw [CodeFlow.gives_validateClient active]
  dsimp only
  rw [App.gives_bind, App.gives_ofExcept]
  refine ⟨session, minted, ?_⟩
  rw [App.gives_pure]
  refine ⟨rfl, sameId ▸ linked, ?_⟩
  have consumed := @consumed_consume middle (visit.transaction client provider)
    (transactions ▸ stored)
  rw [now] at consumed
  exact consumed

theorem gives_authorize {endpoint : String}
    (serves : Serves visit.signIn world client)
    (sends : Sends deployment visit world client provider endpoint) :
    App.Gives deployment (visit.authorizeCall.program deployment) world
      fun answer after => answer = .redirect (endpoint ++ "?" ++
          deployment.urlencode (visit.upstreamQuery deployment provider)) ∧
        transactionFor after provider.id visit.upstreamState =
          some (visit.transaction client provider) := by
  have begins := gives_beginFederatedAuthorization serves sends
  refine (@CodeFlow.gives_authorize_iff _ _ _ visit.query _ _ _ serves.active
    serves.registered serves.hasClientId serves.hasTenant sends.isHtml).mpr ?_
  unfold chooseLogin listEnabledIdentityProviders
  simp only [sends.federated, Bool.false_eq_true, if_false]
  rw [App.gives_bind, App.gives_ask]
  refine ⟨enabledProviders world client.tenantId, rfl, ?_⟩
  rcases sends.selected with ⟨isGiven, isFirst⟩ | ⟨notGiven, isOnly⟩
  · rw [if_pos isGiven, isFirst]
    exact begins
  · rw [notGiven, if_neg Bool.false_ne_true, isOnly]
    exact begins

end Requests

/-! ## The flow -/

/-- A browser that opens the page, signs in at the provider and agrees, and a
client that redeems its code, end with the tokens of the user that the claims of
the provider lead to.  The subject of the claims is linked to that user from the
callback on.  Between the requests the database may become any other one that
answers what the next request looks up, and the keys may rotate as long as the
key of the session is kept. -/
theorem federated_flow_completes {keyed : KeyedDeployment}
    {opening returning consenting redeeming : Keyset}
    {first second third fourth : World} {visit : Visit} {client : ClientRow}
    {provider current : ProviderRow} {endpoint : String} {claims : UpstreamClaims}
    {subject : String} {user holder : UserRow} {policies : List PolicyDoc}
    (holds : ∀ state ∈ [returning, consenting, redeeming], keyed.Holds state)
    (keeps : keyed.Keeps returning consenting)
    (serves : Serves visit.signIn first client)
    (sends : Sends (keyed.under opening) visit first client provider endpoint)
    (returns : Returns (keyed.under returning) visit second client provider current
      claims subject user)
    (stores : Stores visit.signIn third client user)
    (redeems : Redeems (keyed.under redeeming) visit.signIn fourth client user
      holder)
    (valid : fourth.currentPolicies (keyed.under redeeming)
      (.forTenant client.tenantId) holder.id client.tenantId = .ok policies) :
    ∃ session,
      App.Gives (keyed.under opening)
        (visit.authorizeCall.program (keyed.under opening)) first
        (fun answer after => answer = .redirect (endpoint ++ "?" ++
            (keyed.under opening).urlencode
              (visit.upstreamQuery (keyed.under opening) provider)) ∧
          transactionFor after provider.id visit.upstreamState =
            some (visit.transaction client provider)) ∧
      App.Gives (keyed.under returning)
        ((visit.callbackCall client provider).program (keyed.under returning))
        second
        (fun answer after => answer = .consentPage client.name (some user.email)
            (splitWhitespace visit.signIn.scope) visit.signIn.params
              (some session) ∧
          linkedUser after .owner client.tenantId provider.id subject =
            some user ∧
          (after.transactions.lookup (visit.transaction client provider).id).map
            TransactionRow.consumedAt = some (some second.now)) ∧
      (hiddenInputs visit.signIn.params).params = some visit.signIn.loginParams ∧
      App.Gives (keyed.under consenting) ((visit.signIn.consentCall session
          visit.signIn.loginParams).program (keyed.under consenting)) third
        (fun answer after =>
          answer = .clientRedirect visit.signIn.params.redirectUri
            (("code", visit.signIn.code) :: stateParam visit.signIn.params) ∧
          after.codes.lookup visit.signIn.code =
            some (visit.signIn.codeRow client user)) ∧
      App.Gives (keyed.under redeeming) (postToken (keyed.under redeeming)
          visit.signIn.redeeming visit.signIn.tokenRequest) fourth
        fun answer after => ∃ tokens, answer = .tokens tokens ∧
          Issues (keyed.under redeeming) visit.signIn client holder policies tokens
            after ∧
          ∀ later now, keyed.Holds later → keyed.Keeps redeeming later →
            visit.redeeming.utcNow 0 ≤ now →
            now < visit.redeeming.utcNow 0 + 3600 →
            (keyed.under later).tokens.decodeJwtToken tokens.accessToken.compact
              now true = .ok tokens.accessToken.payload := by
  have signHolds := holds returning (by simp)
  obtain ⟨session, minted, callback⟩ := gives_callback signHolds.canSign returns
  refine ⟨session, gives_authorize serves sends, callback, ?_, ?_, ?_⟩
  · exact CodeFlow.params_hiddenInputs serves.hasClientId serves.hasRedirectUri
  · exact CodeFlow.gives_consent_of_session signHolds (holds consenting (by simp))
      keeps serves.hasClientId serves.hasTenant stores minted
  · exact CodeFlow.gives_token_accepted (holds redeeming (by simp))
      serves.hasClientId serves.hasRedirectUri serves.hasTenant redeems valid

/-! ## A sign-in -/

/-- What the provider says about Bea. -/
def beasClaims : UpstreamClaims :=
  [("sub", .text "bea"), ("email", .text "bea@x"), ("given_name", .text "Bea"),
    ("family_name", .text "B")]

theorem isAsymmetric_config :
    CodeFlow.shownKeys.config.algorithm ∈ asymmetricSigningAlgorithms :=
  CodeFlow.shownKeys.asymmetric

/-- Bea's provider answers every code with an ID token of hers. -/
def brokered : KeyedDeployment where
  deployment :=
    { CodeFlow.shownKeys.deployment with
      upstream := (UpstreamNonce.answering "").upstream
      upstreamDecode := fun _ _ _ _ _ _ => .ok beasClaims }
  generator := KeyTokens.markedKeys
  config := CodeFlow.shownKeys.config
  secret := "secret"
  roundTrip := KeyTokens.shownJwt_roundTrip isAsymmetric_config
  asymmetric := isAsymmetric_config

theorem holds_firstKeys : brokered.Holds CodeFlow.firstKeys where
  wellFormed := CodeFlow.holds_firstKeys.wellFormed
  generated := CodeFlow.holds_firstKeys.generated

/-- A request with a challenge, ten seconds for each page. -/
def beasVisit : Visit where
  query := {
    clientId := "app"
    redirectUri := "https://app/back"
    state := some "s"
    codeChallenge := some "sha256:v" }
  accept := "text/html"
  providerCode := "pc"
  clientSecret := "cs"
  codeVerifier := some "v"
  authorizing := ⟨fun _ => 0, fun _ => 0,
    fun draw => if draw = 0 then "us" else if draw = 1 then "un" else "txn"⟩
  returning := ⟨fun _ => 10, fun _ => 1,
    fun draw => if draw = 2 then "link" else "u"⟩
  consenting := ⟨fun _ => 20, fun _ => 2, fun draw => if draw = 0 then "c" else "i"⟩
  redeeming := ⟨fun _ => 30, fun _ => 3, fun _ => "r"⟩

def bea : UserRow where
  id := "u"
  tenantId := "t"
  email := "bea@x"
  password := brokered.deployment.hashPassword "u"
  firstName := "Bea"
  lastName := "B"
  role := some "member"
  isActive := true
  emailVerified := true
  lastModified := 0

/-- A tenant with its client and its provider, and no users. -/
def newTenant : World where
  tenants := .single { id := "t" }
  clients := .single CodeFlow.app
  providers := .single idp

/-- The tenant while Bea is at the provider. -/
def whileAway : World :=
  { newTenant with
    transactions := .single (beasVisit.transaction CodeFlow.app idp) }

theorem sends_beasVisit : Sends (brokered.under CodeFlow.firstKeys) beasVisit
    newTenant CodeFlow.app idp "https://idp/authorize" where
  isHtml := by decide
  federated := rfl
  selected := .only rfl (List.mergeSort_singleton idp)
  hasTenant := rfl
  freshId _ held := by cases held
  freshState _ held := by cases held
  hasProvider := rfl
  inTime := by decide
  hasEndpoint := by decide
  located := .configured rfl

/-- Nobody has Bea's email, so she is provisioned. -/
theorem leads_bea : Leads (brokered.under CodeFlow.firstKeys) beasVisit.returning
    "t" idp beasClaims "bea" whileAway bea := by
  refine .provisioned bea (some "bea@x") (some "bea@x") rfl rfl
    (.inr ⟨"bea@x", rfl, ⟨rfl, by decide⟩, rfl⟩) rfl rfl ?_
    (fun _ held => by cases held) ?_
  · exact ⟨by decide, rfl, rfl, (fun _ held => by cases held)⟩
  · exact ⟨(fun _ held => by cases held), rfl, rfl⟩

theorem returns_beasVisit : Returns (brokered.under CodeFlow.firstKeys) beasVisit
    whileAway CodeFlow.app idp idp beasClaims "bea" bea :=
  ⟨by decide, by decide, rfl, rfl, ⟨_, _, _, rfl, rfl⟩, rfl, leads_bea, rfl⟩

/-- Bea, whom nobody knew, gets her tokens. -/
theorem beas_flow_completes :
    ∃ session,
      App.Gives (brokered.under CodeFlow.firstKeys) (beasVisit.authorizeCall.program
          (brokered.under CodeFlow.firstKeys)) newTenant
        (fun answer after => answer = .redirect ("https://idp/authorize?" ++
            (brokered.under CodeFlow.firstKeys).urlencode (beasVisit.upstreamQuery
              (brokered.under CodeFlow.firstKeys) idp)) ∧
          transactionFor after "p" "us" =
            some (beasVisit.transaction CodeFlow.app idp)) ∧
      App.Gives (brokered.under CodeFlow.firstKeys)
        ((beasVisit.callbackCall CodeFlow.app idp).program
          (brokered.under CodeFlow.firstKeys)) whileAway
        (fun answer after => answer = .consentPage "App" (some "bea@x")
            (splitWhitespace "openid") beasVisit.signIn.params (some session) ∧
          linkedUser after .owner "t" "p" "bea" = some bea ∧
          (after.transactions.lookup "txn").map TransactionRow.consumedAt =
            some (some 0)) ∧
      (hiddenInputs beasVisit.signIn.params).params =
        some beasVisit.signIn.loginParams ∧
      App.Gives (brokered.under CodeFlow.firstKeys) ((beasVisit.signIn.consentCall
          session beasVisit.signIn.loginParams).program
            (brokered.under CodeFlow.firstKeys))
        { newTenant with users := .single bea }
        (fun answer after =>
          answer = .clientRedirect "https://app/back"
            (("code", "c") :: stateParam beasVisit.signIn.params) ∧
          after.codes.lookup "c" =
            some (beasVisit.signIn.codeRow CodeFlow.app bea)) ∧
      App.Gives (brokered.under CodeFlow.firstKeys)
        (postToken (brokered.under CodeFlow.firstKeys) beasVisit.signIn.redeeming
          beasVisit.signIn.tokenRequest)
        { newTenant with
          users := .single bea
          codes := .single (beasVisit.signIn.codeRow CodeFlow.app bea) }
        fun answer after => ∃ tokens, answer = .tokens tokens ∧
          Issues (brokered.under CodeFlow.firstKeys) beasVisit.signIn CodeFlow.app
            bea [] tokens after ∧
          ∀ later now, brokered.Holds later →
            brokered.Keeps CodeFlow.firstKeys later → 30 ≤ now →
            now < 30 + 3600 →
            (brokered.under later).tokens.decodeJwtToken tokens.accessToken.compact
              now true = .ok tokens.accessToken.payload := by
  have holds : ∀ state ∈ [CodeFlow.firstKeys, CodeFlow.firstKeys,
      CodeFlow.firstKeys], brokered.Holds state := by
    intro state stateMem
    obtain rfl : state = CodeFlow.firstKeys := by simpa using stateMem
    exact holds_firstKeys
  have keeps : brokered.Keeps CodeFlow.firstKeys CodeFlow.firstKeys :=
    CodeFlow.keeps_firstKeys
  have serves : Serves beasVisit.signIn newTenant CodeFlow.app :=
    ⟨rfl, List.mem_cons_self, by decide, by decide, by decide⟩
  have stores : Stores beasVisit.signIn { newTenant with users := .single bea }
      CodeFlow.app bea :=
    ⟨by decide, rfl, rfl, rfl, by decide, (fun _ held => by cases held),
      (fun _ held => by cases held)⟩
  have redeems : Redeems (brokered.under CodeFlow.firstKeys) beasVisit.signIn
      { newTenant with
        users := .single bea
        codes := .single (beasVisit.signIn.codeRow CodeFlow.app bea) }
      CodeFlow.app bea bea := by
    refine ⟨rfl, by decide, rfl, by decide, fun _ => rfl, rfl, rfl, ?_⟩
    exact ⟨by decide, by decide, rfl, rfl, (fun _ held => by cases held)⟩
  exact federated_flow_completes holds keeps serves sends_beasVisit
    returns_beasVisit stores redeems rfl

end FederatedFlow

end HexIam
