import HexIam.EmailProvenance
import HexIam.Management
import HexIam.TenantCoherence

/-!
# The tenants of federated identities

A link in `federated_identities` names a tenant, a provider and a user, and the
lookup of a sign-in joins the user by its id alone.  A sign-in therefore stays
within its tenant as long as every link does.  Whatever is provisioned, linked,
looked up or deleted, in any order of the calls, every link does.
-/

namespace HexIam

open StatementTree GuardedRun

namespace World

variable {world : World}

/-- The tenant of an identity provider. -/
def providerTenant (world : World) (providerId : String) : Option String :=
  (world.providers.lookup providerId).map ProviderRow.tenantId

theorem providerTenant_eq_some {providerId tenantId : String} :
    world.providerTenant providerId = some tenantId ↔
      ∃ provider ∈ world.providers, provider.id = providerId ∧
        provider.tenantId = tenantId := by
  simp [providerTenant, KeyedTable.lookup_eq_some, and_assoc]

end World

namespace FederatedTenants

open ConsentBinding (FlowCall FlowRequest)
open FederatedSignIn
open TenantCoherence (UserOf)

/-! ## Runs -/

/-- A write on the providers of a tenant, a request of the authorization flow,
a request of `token_endpoint`, or the passing of time. -/
inductive FederationEvent : Type
  | createProvider (readings : Readings) (tenantId : String)
      (payload : IdentityProviderCreate)
  | updateProvider (tenantId providerId : String)
      (payload : IdentityProviderUpdate)
  | deleteProvider (tenantId providerId : String)
  | flow (call : FlowCall)
  | token (readings : Readings) (request : TokenRequest)
  | wait (seconds : Nat)

/-- The world after an event. -/
def federationStep (deployment : Deployment) (world : World) :
    FederationEvent → Option World
  | .createProvider readings tenantId payload =>
      some (ManagementApp.run deployment
        (createIdentityProvider readings tenantId payload) world).2
  | .updateProvider tenantId providerId payload =>
      some (ManagementApp.run deployment
        (updateIdentityProvider tenantId providerId payload) world).2
  | .deleteProvider tenantId providerId =>
      some (ManagementApp.run deployment
        (deleteIdentityProvider tenantId providerId) world).2
  | .flow call => some (App.run deployment (call.program deployment) world).2
  | .token readings request =>
      some (App.run deployment (postToken deployment readings request) world).2
  | .wait seconds => some { world with now := world.now + seconds }

/-! ## The property -/

/-- The user and the provider of every link belong to its tenant. -/
structure Linked (world : World) : Prop where
  users : ∀ row ∈ world.identities,
    world.userTenant row.userId = some row.tenantId
  providers : ∀ row ∈ world.identities,
    world.providerTenant row.providerId = some row.tenantId

/-- A resolution within a request returns a user, for the tenant of the
authenticated client or for the one of the stored transaction. -/
inductive Resolution (deployment : Deployment) (world : World) :
    FederationEvent → (tenantId : String) → UserRow → World → Prop
  | exchange (readings : Readings) (request : TokenRequest) (db : Connection)
      (data : List (String × PyValue)) (client : ClientRow) (user : UserRow)
      (provider : ProviderRow) (claims : UpstreamClaims) (final : World)
      (connected : App.run deployment (getDatabasePool request.tenantHeader
        request.queryClientId (PyValue.get request.form "client_id")) world =
          (.ok db, world))
      (dataEq : request.data = .ok data)
      (authenticated : App.run deployment (validateClient deployment
        (extractClientCredentials deployment request.authorization data).1
        (extractClientCredentials deployment request.authorization data).2)
          world = (.ok (some client), world))
      (resolved : App.run deployment (resolveOrProvisionFederatedUser deployment
        db readings client.tenantId (PyValue.get data "subject_token")
        (some client.id) (PyValue.get data "issuer_hint")) world =
          (.ok (user, provider, claims), final)) :
      Resolution deployment world (.token readings request) client.tenantId user
        final
  | callback (call : FlowCall) (request : CallbackRequest) (txn : TransactionRow)
      (provider : ProviderRow) (tokens : UpstreamTokens) (claims : UpstreamClaims)
      (user : UserRow) (between final : World)
      (isCallback : call.request = .callback request)
      (isTransaction : transactionFor world request.providerId
        (request.state.getD "") = some txn)
      (isProvider : providerFor world txn.tenantId request.providerId =
        some provider)
      (exchanged : App.run deployment (exchangeCodeForProviderTokens deployment
        provider (request.code.getD "")
        (providerCallbackUri deployment request.providerId)) world =
          (.ok tokens, between))
      (resolved : App.run deployment (resolveOrProvisionFromProviderTokens
        deployment .owner call.readings txn.tenantId provider tokens) between =
          (.ok (user, claims), final)) :
      Resolution deployment world (.flow call) txn.tenantId user final

/-- The users that resolutions return are stored, in the tenant they are for. -/
def InTenant (deployment : Deployment) (world : World)
    (event : FederationEvent) : Prop :=
  ∀ tenantId user final,
    Resolution deployment world event tenantId user final →
    user ∈ final.users ∧ user.tenantId = tenantId

/-! ## Resolutions -/

section Resolutions

variable {deployment : Deployment} {db : Connection} {readings : Readings}
variable {tenantId : String} {provider : ProviderRow} {claims : UpstreamClaims}
variable {world after : World} {user : UserRow}

/-- A link leads to a user of its tenant. -/
theorem tenantId_of_linkedUser {providerId subject : String}
    (linked : Linked world)
    (found : linkedUser world db tenantId providerId subject = some user) :
    user.tenantId = tenantId := by
  obtain ⟨row, rowEq, seen⟩ := Option.bind_eq_some_iff.mp found
  obtain ⟨rowMem, keyEq⟩ := KeyedTable.lookup_eq_some.mp rowEq
  have userEq := (Option.filter_eq_some_iff.mp seen).1
  obtain ⟨held, heldEq, heldTenant⟩ :=
    World.userTenant_eq_some.mp (linked.users row rowMem)
  obtain rfl : held = user := Option.some.inj (heldEq.symm.trans userEq)
  exact heldTenant.trans (congrArg Prod.fst keyEq)

/-- Claims resolve to a user of the tenant they are resolved in. -/
theorem tenantId_of_resolves {subject : String} (linked : Linked world)
    (resolves : Resolves deployment db readings tenantId provider claims subject
      world user after) : user.tenantId = tenantId := by
  cases resolves with
  | linked found => exact tenantId_of_linkedUser linked found
  | unlinked between _ missing autoLink chosen links => exact chosen.tenantId_eq

/-- Requests to a provider leave the links in their tenants. -/
theorem Linked.upstream {calls : Nat} (linked : Linked world) :
    Linked { world with upstreamCalls := calls } :=
  ⟨linked.users, linked.providers⟩

theorem inTenant_of_linked {event : FederationEvent} (linked : Linked world) :
    InTenant deployment world event := by
  intro tenantId user after resolution
  cases resolution with
  | exchange readings request db data client _ provider claims _ connected dataEq
      authenticated resolved =>
      obtain ⟨between, subject, presents, isSubject, resolves, -⟩ :=
        resolveOrProvisionFederatedUser_eq_ok resolved
      obtain ⟨calls, rfl⟩ := presents.after_eq
      exact ⟨resolves.user_mem, tenantId_of_resolves linked.upstream resolves⟩
  | callback call request txn provider tokens claims _ between _ isCallback
      isTransaction isProvider exchanged resolved =>
      obtain ⟨asserted, subject, claimed, isSubject, resolves, -⟩ :=
        resolveOrProvisionFromProviderTokens_eq_ok resolved
      have asserts : Asserts deployment call.readings provider
          (request.code.getD "")
          (providerCallbackUri deployment request.providerId) claims world
          asserted := ⟨tokens, between, exchanged, claimed⟩
      obtain ⟨calls, rfl⟩ := asserts.after_eq
      exact ⟨resolves.user_mem, tenantId_of_resolves linked.upstream resolves⟩

end Resolutions

/-! ## Sign-ins -/

/-- How a request may move the world: providers stay, users keep their tenants,
and links stay in theirs. -/
structure Federates (before after : World) : Prop where
  providers : after.providers = before.providers
  users : ∀ userId tenantId, before.userTenant userId = some tenantId →
    after.userTenant userId = some tenantId
  linked : Linked before → Linked after

instance : IsPreorder World Federates where
  refl _ := ⟨rfl, fun _ _ held => held, id⟩
  trans _ _ _ first second :=
    ⟨second.providers.trans first.providers,
      fun _ _ held => second.users _ _ (first.users _ _ held),
      fun linked => second.linked (first.linked linked)⟩

theorem Federates.providerTenant {before after : World} {providerId : String}
    (federates : Federates before after) :
    after.providerTenant providerId = before.providerTenant providerId := by
  rw [World.providerTenant, federates.providers, World.providerTenant]

/-- What a statement must fulfil to keep the links in their tenants. -/
def Fitting (world : World) : Stmt → Prop
  | .identity _ (.upsert _ tenantId providerId userId (some _) _) =>
      world.userTenant userId = some tenantId ∧
        world.providerTenant providerId = some tenantId
  | _ => True

section Statements

variable {deployment : Deployment} {world : World} {stmt : Stmt}

/-- Each link after a fitting statement is of an old link's user and provider,
or of a fitting one's. -/
theorem linked_fitting (fitting : Fitting world stmt) (linked : Linked world) :
    ∀ row ∈ (perform deployment stmt world).2.identities,
      world.userTenant row.userId = some row.tenantId ∧
        world.providerTenant row.providerId = some row.tenantId := by
  intro row rowMem
  have old (row : IdentityRow) (held : row ∈ world.identities) :
      world.userTenant row.userId = some row.tenantId ∧
        world.providerTenant row.providerId = some row.tenantId :=
    ⟨linked.users row held, linked.providers row held⟩
  by_cases other : stmt.table = .identities
  case neg => exact old row (identities_perform deployment other ▸ rowMem)
  case pos =>
    cases stmt with
    | identity db stmt =>
        cases stmt with
        | linkedUser tenantId providerId subject => exact old row rowMem
        | upsert id tenantId providerId userId subject email =>
            cases subject with
            | none => exact old row rowMem
            | some subject =>
                rcases TenantCoherence.mem_perform_upsert rowMem with
                  held | rfl | ⟨kept, keptMem, rfl⟩
                · exact old row held
                · exact fitting
                · exact old kept keptMem
    | _ => cases other

theorem federates_perform (fitting : Fitting world stmt) :
    Federates world (perform deployment stmt world).2 := by
  have same : (perform deployment stmt world).2.providers = world.providers :=
    (managed_perform deployment).2.2.1
  refine ⟨same, fun _ _ => TenantCoherence.userTenant_perform, ?_⟩
  intro linked
  constructor
  · intro row rowMem
    exact TenantCoherence.userTenant_perform
      (linked_fitting fitting linked row rowMem).1
  · intro row rowMem
    rw [World.providerTenant, same]
    exact (linked_fitting fitting linked row rowMem).2

end Statements

section Programs

variable {deployment : Deployment} {world : World} {db : Connection}
variable {readings : Readings} {tenantId : String} {provider : ProviderRow}
variable {claims : UpstreamClaims}

/-- A program that does not write links. -/
theorem federates_of_uses {α : Type} (tables : List Table) {program : App α}
    (uses : Uses tables program) (unused : .identities ∉ tables) :
    App.Ensures deployment Federates program world fun _ _ => True := by
  refine Within.ensures uses fun stmt before mem => federates_perform ?_
  cases stmt with
  | identity db stmt => exact absurd mem unused
  | _ => trivial

theorem federates_linkOrProvision {subject : Option String} :
    App.Ensures deployment Federates (linkOrProvision deployment db readings
      tenantId provider claims subject) world (UserOf tenantId) :=
  ⟨(federates_of_uses [.users] (uses_linkOrProvision (by decide))
    (by decide)).1, TenantCoherence.keeps_linkOrProvision.2⟩

theorem federates_findOrCreateLocalUser
    (ofTenant : world.providerTenant provider.id = some tenantId) :
    App.Ensures deployment Federates (findOrCreateLocalUser deployment db readings
      tenantId provider claims) world fun _ _ => True := by
  unfold findOrCreateLocalUser
  split
  case h_1 => exact ensures_throw
  case h_2 sub subEq =>
    refine App.ensures_ofExcept_bind fun subject _ =>
      App.ensures_ask_bind (federates_perform trivial) ?_
    rintro linked _ - rfl -
    split
    · exact ensures_value trivial
    · split
      · exact ensures_throw
      · refine federates_linkOrProvision.bind fun user between moved isUser =>
          App.ensures_ofExcept_bind fun email _ =>
            App.ensures_ask_bind (federates_perform ?_) fun _ _ _ _ _ =>
              ensures_value trivial
        cases subject with
        | none => trivial
        | some subject => exact ⟨isUser, moved.providerTenant.trans ofTenant⟩

theorem providerTenant_of_presents {subjectToken issuerHint : PyValue}
    {audience : Option String} {utcNow : Int} {after : World}
    (presents : Presents deployment tenantId subjectToken audience issuerHint
      utcNow provider claims world after) :
    world.providerTenant provider.id = some tenantId :=
  World.providerTenant_eq_some.mpr
    ⟨provider, presents.provider_mem.1, rfl, presents.provider_mem.2⟩

theorem federates_resolveOrProvisionFederatedUser
    {subjectToken issuerHint : PyValue} {audience : Option String} :
    App.Ensures deployment Federates (resolveOrProvisionFederatedUser deployment db
      readings tenantId subjectToken audience issuerHint) world
      fun _ _ => True := by
  unfold resolveOrProvisionFederatedUser
  have validated : App.Ensures deployment Federates
      (validateBrokerSubjectToken deployment tenantId subjectToken audience
        issuerHint (readings.utcNow 0)) world
      fun found after => ∀ provider claims, found = some (provider, claims) →
        after.providerTenant provider.id = some tenantId := by
    have moves := (@federates_of_uses deployment world _
      [.providers, .upstream] _
      (@uses_validateBrokerSubjectToken _ deployment tenantId subjectToken
        issuerHint audience (readings.utcNow 0) (by decide) (by decide))
      (by decide)).1
    refine ⟨moves, fun found ran provider claims isFound => ?_⟩
    rw [isFound] at ran
    rw [moves.providerTenant]
    exact providerTenant_of_presents (Prod.ext ran rfl)
  refine validated.bind fun found between _ ofTenant => ?_
  rcases found with - | ⟨provider, claims⟩
  · exact ensures_throw
  · exact (federates_findOrCreateLocalUser (ofTenant _ _ rfl)).bind
      fun _ _ _ _ => ensures_value trivial

theorem federates_resolveOrProvisionFromProviderTokens {tokens : UpstreamTokens}
    (ofTenant : world.providerTenant provider.id = some tenantId) :
    App.Ensures deployment Federates (resolveOrProvisionFromProviderTokens
      deployment db readings tenantId provider tokens) world
      fun _ _ => True := by
  refine (federates_of_uses [.upstream] (uses_providerClaims (by decide))
    (by decide)).bind fun claims between moved _ => ?_
  exact (federates_findOrCreateLocalUser (moved.providerTenant.trans ofTenant)).bind
    fun _ _ _ _ => ensures_value trivial

theorem providerTenant_of_providerFor {providerId : String}
    (found : providerFor world tenantId providerId = some provider) :
    world.providerTenant provider.id = some tenantId := by
  obtain ⟨ofTenant, -⟩ := Option.filter_eq_some_iff.mp found
  obtain ⟨stored, sameTenant⟩ := Option.filter_eq_some_iff.mp ofTenant
  exact World.providerTenant_eq_some.mpr
    ⟨provider, (KeyedTable.lookup_eq_some.mp stored).1, rfl,
      of_decide_eq_true sameTenant⟩

/-- The sign-in of a callback, whose failures are answered by the callback. -/
theorem federates_signIn {code callbackUri : String}
    (ofTenant : world.providerTenant provider.id = some tenantId) :
    App.Ensures deployment Federates (tryCatch
      (do
        let tokens ← exchangeCodeForProviderTokens deployment provider code callbackUri
        let (user, _) ← resolveOrProvisionFromProviderTokens deployment db readings
          tenantId provider tokens
        return some user)
      fun _ => return none) world fun _ _ => True := by
  refine Ensures.tryCatch ?_ fun _ _ _ => ensures_value trivial
  refine (federates_of_uses [.upstream]
    (uses_exchangeCodeForProviderTokens (by decide))
    (by decide)).bind fun tokens between moved _ => ?_
  exact (federates_resolveOrProvisionFromProviderTokens
    (moved.providerTenant.trans ofTenant)).bind fun _ _ _ _ => ensures_value trivial

theorem federates_federationCallback {request : CallbackRequest} :
    App.Ensures deployment Federates
      (federationCallback deployment readings request) world
      fun _ _ => True := by
  unfold federationCallback
  split
  · exact ensures_value trivial
  split
  · exact ensures_value trivial
  refine App.ensures_ask_bind (federates_perform trivial) ?_
  rintro found _ - rfl -
  cases found with
  | none => exact ensures_value trivial
  | some txn =>
      refine App.ensures_ask_bind (federates_perform trivial) ?_
      rintro listed _ listedEq rfl -
      dsimp only
      split
      case h_1 => exact ensures_value trivial
      case h_2 provider providerEq =>
        have isProvider : providerFor world txn.tenantId request.providerId =
            some provider := by
          have isListed : (world.providers.lookup request.providerId).filter
              (fun row => row.tenantId = txn.tenantId) = listed :=
            Except.ok.inj listedEq
          rw [providerFor, isListed, providerEq]
        have ofTenant := providerTenant_of_providerFor isProvider
        refine (federates_signIn ofTenant).bind fun resolved between _ _ => ?_
        cases resolved with
        | none => exact ensures_value trivial
        | some user =>
            refine federates_of_uses [.transactions, .clients] ?_ (by decide)
            have consumes : Uses [.transactions, .clients]
                (consumeFederationAuthTransaction txn.id) :=
              uses_ask (List.mem_cons_self)
            refine consumes.bind fun _ =>
              (uses_validateClient (by decide)).bind fun client => ?_
            cases client with
            | none => exact within_done
            | some client => exact (uses_ofExcept _).bind fun _ => within_done

/-- Every request of the flow but a callback leaves the links alone. -/
theorem federates_flow {call : FlowCall} :
    App.Ensures deployment Federates (call.program deployment) world
      fun _ _ => True := by
  unfold FlowCall.program
  cases call.request with
  | authorize request formClientId =>
      exact federates_of_uses [.clients, .providers, .transactions, .upstream]
        ((uses_getDatabasePool (by decide)).bind fun _ =>
          uses_authorize (by decide) (by decide) (by decide) (by decide))
        (by decide)
  | login request queryClientId =>
      exact federates_of_uses [.clients, .users]
        ((uses_getDatabasePool (by decide)).bind fun _ =>
          uses_loginSubmit (by decide) (by decide)) (by decide)
  | callback request => exact federates_federationCallback
  | consent request queryClientId =>
      exact federates_of_uses [.clients, .codes]
        ((uses_getDatabasePool (by decide)).bind fun _ =>
          uses_consentSubmit (by decide)) (by decide)

theorem federates_tokenExchangeGrant {client : ClientRow}
    {data : List (String × PyValue)} :
    App.Ensures deployment Federates
      (tokenExchangeGrant deployment db readings client data) world
      fun _ _ => True := by
  unfold tokenExchangeGrant
  dsimp only
  split
  · exact ensures_value trivial
  split
  · exact ensures_value trivial
  have resolves : App.Ensures deployment Federates (tryCatch
      (do
        let resolved ← resolveOrProvisionFederatedUser deployment db readings
          client.tenantId (PyValue.get data "subject_token") (some client.id)
          (PyValue.get data "issuer_hint")
        return Except.ok resolved)
      fun cause => return Except.error cause) world fun _ _ => True :=
    Ensures.tryCatch (federates_resolveOrProvisionFederatedUser.bind
      fun _ _ _ _ => ensures_value trivial) fun _ _ _ => ensures_value trivial
  refine resolves.bind fun resolved between _ _ => ?_
  rcases resolved with cause | ⟨user, provider, claims⟩
  · exact ensures_value trivial
  · refine federates_of_uses [.policies, .refreshTokens] ?_ (by decide)
    refine (uses_fetchUserPolicies (by decide)).bind fun _ =>
      (uses_ofExcept _).bind fun _ =>
        (uses_createRefreshToken (by decide)).bind fun _ => ?_
    split
    · exact within_done
    · exact (uses_ofExcept _).bind fun _ => within_done

attribute [local irreducible] SigningKeyManager.signToken in
theorem federates_postToken {request : TokenRequest} :
    App.Ensures deployment Federates (postToken deployment readings request) world
      fun _ _ => True := by
  unfold postToken tokenEndpoint
  refine (federates_of_uses [.clients] (uses_getDatabasePool (by decide))
    (by decide)).bind fun db _ _ _ => App.ensures_ofExcept_bind fun data _ => ?_
  refine (federates_of_uses [.clients] (uses_validateClient (by decide))
    (by decide)).bind fun found _ _ _ => ?_
  cases found with
  | none => exact ensures_value trivial
  | some client =>
      unfold grant
      dsimp only
      split
      · exact federates_of_uses [.users, .codes, .policies, .refreshTokens]
          (TokenCalls.uses_authorizationCodeGrant (by decide) (by decide)
            (by decide) (by decide)) (by decide)
      · split
        · exact federates_of_uses [.users, .policies, .refreshTokens]
            (TokenCalls.uses_refreshTokenGrant (by decide) (by decide)
              (by decide)) (by decide)
        · split
          · exact federates_of_uses [] TokenCalls.uses_clientCredentialsGrant
              (by decide)
          · split
            · exact federates_tokenExchangeGrant
            · exact ensures_value trivial

end Programs

/-! ## Writes on the providers -/

section Writes

variable {deployment : Deployment} {world : World}

theorem Linked.of_kept {before after : World} (linked : Linked before)
    (users : after.users = before.users)
    (kept : ∀ row ∈ after.identities, row ∈ before.identities ∧
      ∀ provider ∈ before.providers, provider.id = row.providerId →
        ∃ held ∈ after.providers, held.id = provider.id ∧
          held.tenantId = provider.tenantId) : Linked after := by
  constructor
  · intro row rowMem
    rw [World.userTenant, users]
    exact linked.users row (kept row rowMem).1
  · intro row rowMem
    obtain ⟨old, stored⟩ := kept row rowMem
    obtain ⟨provider, providerMem, idEq, tenantEq⟩ :=
      World.providerTenant_eq_some.mp (linked.providers row old)
    obtain ⟨held, heldMem, sameId, sameTenant⟩ :=
      stored provider providerMem idEq
    exact World.providerTenant_eq_some.mpr
      ⟨held, heldMem, sameId.trans idEq, sameTenant.trans tenantEq⟩

/-- A provider takes its links with it when it is deleted; it never changes its
tenant. -/
theorem linked_providerUpdate (stmt : ProviderUpdateStmt)
    (linked : Linked world) : Linked (stmt.perform world).2 := by
  cases stmt with
  | insert row =>
      simp only [ProviderUpdateStmt.perform]
      split
      case h_2 => exact linked
      case h_1 providers inserted =>
        simp only [except_bind_eq_ok] at inserted
        obtain ⟨_, -, _, -, _, -, _, -, inserted⟩ := inserted
        split at inserted
        case h_2 => cases inserted
        case h_1 found =>
          cases inserted
          refine linked.of_kept rfl fun row rowMem =>
            ⟨rowMem, fun provider providerMem _ => ?_⟩
          exact ⟨provider, (KeyedTable.mem_of_insert found).mpr
            (.inl providerMem), rfl, rfl⟩
  | update tenantId id row =>
      simp only [ProviderUpdateStmt.perform]
      split
      · exact linked
      split
      · exact linked
      refine linked.of_kept rfl fun link linkMem =>
        ⟨linkMem, fun provider providerMem _ => ?_⟩
      refine ⟨_, (KeyedTable.mem_update row.set_id).mpr
        ⟨provider, providerMem, rfl⟩, ?_⟩
      split <;> exact ⟨rfl, rfl⟩
  | delete tenantId id =>
      refine linked.of_kept rfl fun link linkMem => ?_
      obtain ⟨old, stays⟩ := KeyedTable.mem_delete.mp linkMem
      refine ⟨old, fun provider providerMem isProvider => ?_⟩
      have found : world.providers.lookup link.providerId = some provider :=
        KeyedTable.lookup_eq_some.mpr ⟨providerMem, isProvider⟩
      dsimp only at stays
      rw [found, Option.any_some] at stays
      exact ⟨provider, KeyedTable.mem_delete.mpr ⟨providerMem, stays⟩, rfl, rfl⟩

/-- A statement on the providers. -/
def OnProviders : ManagementStmt → Prop
  | .provider _ => True
  | .core (.provider _) => True
  | _ => False

theorem linked_of_onProviders {α : Type} {program : ManagementApp α}
    (within : Within OnProviders program) (linked : Linked world) :
    Linked (ManagementApp.run deployment program world).2 := by
  refine within.run_preserves (fun stmt before allowed held => ?_) linked
  cases stmt with
  | provider stmt => exact linked_providerUpdate stmt held
  | core stmt =>
      cases stmt with
      | provider stmt => exact held
      | _ => cases allowed
  | _ => cases allowed

theorem onProviders_send {stmt : ManagementStmt} (allowed : OnProviders stmt) :
    Within OnProviders (ManagementApp.send stmt) :=
  within_perform.mpr ⟨allowed, fun _ => within_done⟩

theorem onProviders_createIdentityProvider {readings : Readings}
    {tenantId : String} {payload : IdentityProviderCreate} :
    Within OnProviders (createIdentityProvider readings tenantId payload) := by
  unfold createIdentityProvider
  split
  · exact within_done
  · exact (onProviders_send (by exact trivial)).bind fun _ =>
      onProviders_send (by exact trivial)

theorem onProviders_updateIdentityProvider {tenantId providerId : String}
    {payload : IdentityProviderUpdate} :
    Within OnProviders
      (updateIdentityProvider tenantId providerId payload) := by
  unfold updateIdentityProvider
  refine (onProviders_send (by exact trivial)).bind fun found => ?_
  cases found with
  | none => exact within_done
  | some current =>
      dsimp only
      split
      · exact within_done
      · exact (onProviders_send (by exact trivial)).bind fun _ =>
          onProviders_send (by exact trivial)

end Writes

/-! ## The result -/

theorem linked_step {deployment : Deployment} {world next : World}
    {event : FederationEvent} (linked : Linked world)
    (stepEq : federationStep deployment world event = some next) :
    Linked next := by
  cases event with
  | createProvider readings tenantId payload =>
      cases stepEq
      exact linked_of_onProviders onProviders_createIdentityProvider linked
  | updateProvider tenantId providerId payload =>
      cases stepEq
      exact linked_of_onProviders onProviders_updateIdentityProvider linked
  | deleteProvider tenantId providerId =>
      cases stepEq
      refine linked_of_onProviders ?_ linked
      exact (onProviders_send (by exact trivial)).bind fun _ => within_done
  | flow call =>
      cases stepEq
      exact federates_flow.1.linked linked
  | token readings request =>
      cases stepEq
      exact federates_postToken.1.linked linked
  | wait seconds =>
      cases stepEq
      exact ⟨linked.users, linked.providers⟩

/-- In every run the links stay in their tenants, and so do the users that
sign-ins resolve to. -/
theorem federation_stays_in_tenants (deployment : Deployment) (world : World)
    (events : List FederationEvent) (linked : Linked world) :
    Always (federationStep deployment) Linked world events ∧
      Along (federationStep deployment) (InTenant deployment) world events := by
  have always : Always (federationStep deployment) Linked world events :=
    always_of_invariant (fun _ _ _ held stepEq => linked_step held stepEq) linked
  refine ⟨always, along_of_always ?_ always⟩
  exact fun state event held => inTenant_of_linked held

theorem tenants_distinct :
    (([{ id := "t1" }, { id := "t2" }] : List TenantRow).map TenantRow.id).Nodup := by
  decide

/-- Two tenants, each with a client and a user of the same email. -/
def twoTenants : World where
  tenants := ⟨[{ id := "t1" }, { id := "t2" }], tenants_distinct⟩
  users := ⟨[⟨"u1", "t1", "u@t", "password", "U", "T", none, true, true, 0⟩,
    ⟨"u2", "t2", "u@t", "password", "U", "T", none, true, true, 0⟩], by decide⟩
  clients := ⟨[⟨"c1", "t1", "secret", "App", [], [], true⟩,
    ⟨"c2", "t2", "secret", "App", [], [], true⟩], by decide⟩

/-- Every subject token is of the same subject and email. -/
def oneSubject : Deployment :=
  { Deployment.plain [] with
    upstreamUnverified := fun _ => .ok [("iss", .text "https://idp")]
    upstreamDecode := fun _ _ _ _ _ _ => .ok [("sub", .text "s"),
      ("email", .text "u@t"), ("email_verified", .bool true)] }

def createIdp (tenantId providerId : String) : FederationEvent :=
  .createProvider ⟨fun _ => 0, fun _ => 0, fun _ => providerId⟩ tenantId {
    name := "IdP"
    issuerUrl := "https://idp"
    jwtValidationSecret := some "shared" }

def exchange (clientId link : String) : FederationEvent :=
  .token ⟨fun _ => 0, fun _ => 0, fun _ => link⟩ {
    contentType := "application/x-www-form-urlencoded"
    form := [("grant_type",
        .text "urn:ietf:params:oauth:grant-type:token-exchange"),
      ("client_id", .text clientId), ("subject_token", .text "token")] }

/-- The same subject signs in to both tenants. -/
def bothTenants : List FederationEvent :=
  [createIdp "t1" "p1", createIdp "t2" "p2", exchange "c1" "l1",
    exchange "c2" "l2", .deleteProvider "t1" "p1"]

theorem both_tenants_apart :
    Always (federationStep oneSubject) Linked twoTenants bothTenants ∧
      Along (federationStep oneSubject) (InTenant oneSubject) twoTenants
        bothTenants :=
  federation_stays_in_tenants _ _ _
    ⟨fun _ rowMem => absurd rowMem KeyedTable.not_mem_empty,
      fun _ rowMem => absurd rowMem KeyedTable.not_mem_empty⟩

end FederatedTenants

end HexIam
