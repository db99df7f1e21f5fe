import HexIam.FederatedSignIn
import HexIam.RedirectUrls
import HexIam.RowHistory

/-!
# The nonce of an upstream login

`_begin_federated_authorization` sends a nonce to the identity provider and
stores it in the transaction, but `federation_callback` never compares it with
the nonce of the ID token that comes back.  The redirect and the row of a login
have the same state and the same nonce, so sessions are bound to the request that
started them in the runs whose callbacks bring the code of their own redirect; a
code from another flow is taken as well.
-/

namespace HexIam

open StatementTree GuardedRun

namespace UpstreamNonce

open ConsentBinding (FlowCall FlowRequest FlowEvent flowStep)
open FederatedSignIn

/-! ## The property -/

/-- `resolve_or_provision_from_provider_tokens` takes the claims from the ID
token. -/
def usesIdToken (provider : ProviderRow) (tokens : UpstreamTokens) : Bool :=
  let source := (orElse provider.claimsSource (some "auto")).getD ""
  (source = "auto" || source = "id_token") && given tokens.idToken

/-- The nonce a transaction stores. -/
def storedNonce (txn : TransactionRow) : PyValue :=
  (txn.upstreamNonce.map PyValue.text).getD .none

/-- The tokens a provider answers a callback with: those for its code, from the
provider of the transaction that its state selects. -/
structure Answers (deployment : Deployment) (request : CallbackRequest)
    (world : World) (txn : TransactionRow) (provider : ProviderRow)
    (tokens : UpstreamTokens) (between : World) : Prop where
  isTransaction : transactionFor world request.providerId
    (request.state.getD "") = some txn
  isProvider : providerFor world txn.tenantId request.providerId = some provider
  exchanged : App.run deployment
    (exchangeCodeForProviderTokens deployment provider (request.code.getD "")
      (providerCallbackUri deployment request.providerId)) world =
    (.ok tokens, between)

/-- The session is for the user that the claims of the tokens resolve to. -/
structure SignsIn (deployment : Deployment) (readings : Readings)
    (txn : TransactionRow) (provider : ProviderRow) (tokens : UpstreamTokens)
    (claims : UpstreamClaims) (session : SignedToken) (between : World) :
    Prop where
  claimed : ∃ asserted subject user resolved,
    App.run deployment
      (providerClaims deployment provider tokens (readings.utcNow 0)) between =
        (.ok claims, asserted) ∧
    Subject claims subject ∧
    Resolves deployment .owner readings txn.tenantId provider claims subject
      asserted user resolved ∧
    session.payload.userId = some user.id

/-- A session comes from the tokens of its callback; if their ID token is used,
its nonce is the one of the transaction. -/
def BoundSession (deployment : Deployment) (readings : Readings)
    (request : CallbackRequest) (world : World) (session : SignedToken) : Prop :=
  ∃ txn provider tokens claims between,
    Answers deployment request world txn provider tokens between ∧
    SignsIn deployment readings txn provider tokens claims session between ∧
    (usesIdToken provider tokens = true →
      PyValue.get claims "nonce" = storedNonce txn)

/-- The sessions of a callback are bound to the request that started it. -/
def Bound (deployment : Deployment) (world : World) : FlowEvent → Prop
  | .request call => ∀ request clientName email scopes params session after,
      call.request = .callback request →
      App.run deployment (call.program deployment) world =
        (.ok (.consentPage clientName email scopes params (some session)),
          after) →
      BoundSession deployment call.readings request world session
  | _ => True

/-! ## Requests to providers -/

/-- The redirect asks a provider for a code, with this state and this nonce. -/
def Carries (deployment : Deployment) (providerId url state nonce : String) :
    Prop :=
  ∃ (provider : ProviderRow) (endpoint : String), provider.id = providerId ∧
    url = endpoint ++ "?" ++ deployment.urlencode (RedirectUrls.providerParams
      provider (providerCallbackUri deployment provider.id) state (some nonce))

/-- The table has a transaction with this state, and all of these have the
nonce. -/
def Stores (table : TransactionTable) (providerId state nonce : String) : Prop :=
  (∃ row ∈ table, row.providerId = providerId ∧ row.upstreamState = state) ∧
    ∀ row ∈ table, row.providerId = providerId → row.upstreamState = state →
      row.upstreamNonce = some nonce

/-- The world, and the redirects that `authorize` has answered with. -/
structure NonceState where
  world : World
  sent : List String

/-- The redirects that an event answers with. -/
def sentBy (deployment : Deployment) (world : World) : FlowEvent → List String
  | .request call =>
      match call.request, (App.run deployment (call.program deployment) world).1 with
      | .authorize .., .ok (.redirect url) => [url]
      | _, _ => []
  | _ => []

/-- The state after an event. -/
def nonceStep (deployment : Deployment) (state : NonceState)
    (event : FlowEvent) : Option NonceState :=
  (flowStep deployment state.world event).map fun world =>
    ⟨world, sentBy deployment state.world event ++ state.sent⟩

/-! ## The condition -/

/-- For which redirect a provider has given out a code. -/
abbrev Issues :=
  (providerId code : String) → Option String

/-- The code of a callback was given out for a redirect of the run that had the
state of the callback. -/
def OwnCode (deployment : Deployment) (issuedFor : Issues) (sent : List String)
    (request : CallbackRequest) : Prop :=
  ∃ url ∈ sent,
    issuedFor request.providerId (request.code.getD "") = some url ∧
      ∃ nonce, Carries deployment request.providerId url
        (request.state.getD "") nonce

/-- The ID token has the nonce of the redirect that its code was given out
for. -/
def Repeats (deployment : Deployment) (issuedFor : Issues)
    (request : CallbackRequest) (claims : UpstreamClaims) : Prop :=
  ∀ url state nonce,
    issuedFor request.providerId (request.code.getD "") = some url →
    Carries deployment request.providerId url state nonce →
    PyValue.get claims "nonce" = .text nonce

/-- A callback that is answered with an ID token that verifies brings the code of
its own redirect, and the provider repeats the nonce of the redirect. -/
def OwnFlow (deployment : Deployment) (issuedFor : Issues) (state : NonceState) :
    FlowEvent → Prop
  | .request call => ∀ request txn provider tokens claims between asserted,
      call.request = .callback request →
      Answers deployment request state.world txn provider tokens between →
      usesIdToken provider tokens = true →
      App.run deployment (verifyJwt deployment (tokens.idToken.getD "") provider
        provider.clientId (call.readings.utcNow 0)) between =
          (.ok claims, asserted) →
      OwnCode deployment issuedFor state.sent request ∧
        Repeats deployment issuedFor request claims
  | _ => True

/-! ## What a redirect tells -/

section Redirects

variable {deployment : Deployment}

theorem providerParams_inj {first second : ProviderRow}
    {firstUri secondUri firstState secondState firstNonce secondNonce : String}
    (same : RedirectUrls.providerParams first firstUri firstState
        (some firstNonce) =
      RedirectUrls.providerParams second secondUri secondState
        (some secondNonce)) :
    firstUri = secondUri ∧ firstState = secondState ∧
      firstNonce = secondNonce := by
  simp only [RedirectUrls.providerParams, List.cons_append, List.nil_append,
    List.cons.injEq, Prod.mk.injEq, true_and, given_some] at same
  obtain ⟨-, uriEq, -, stateEq, nonceEq⟩ := same
  refine ⟨uriEq, stateEq, ?_⟩
  cases firstFilled : filled firstNonce <;>
    cases secondFilled : filled secondNonce <;>
    simp [firstFilled, secondFilled] at nonceEq
  · simp only [filled, ne_eq, decide_eq_false_iff_not, not_not] at *
    rw [firstFilled, secondFilled]
  · exact nonceEq

/-- The parameters follow the last question mark. -/
theorem params_inj (isUrlencode : deployment.urlencode = UrlQuery.urlencode)
    {first second : String} {firstParams secondParams : List (String × String)}
    (same : first ++ "?" ++ deployment.urlencode firstParams =
      second ++ "?" ++ deployment.urlencode secondParams) :
    firstParams = secondParams := by
  rw [isUrlencode] at same
  have chars := congrArg String.toList same
  simp only [String.toList_append, List.append_assoc] at chars
  have noMark (params : List (String × String)) :
      '?' ∉ (UrlQuery.urlencode params).toList := by
    rw [UrlQuery.urlencode, String.toList_ofList]
    exact UrlQuery.notMem_encoded params (by simp)
  obtain ⟨-, encodedEq⟩ := append_cons_inj_of_notMem_right (noMark firstParams)
    (noMark secondParams) chars
  rw [UrlQuery.urlencode, UrlQuery.urlencode, String.toList_ofList,
    String.toList_ofList] at encodedEq
  have read := congrArg (UrlQuery.parseQuery fun _ => "") encodedEq
  rwa [← UrlQuery.encoded, ← UrlQuery.encoded, UrlQuery.parseQuery_encoded,
    UrlQuery.parseQuery_encoded] at read

theorem Carries.unique (isUrlencode : deployment.urlencode = UrlQuery.urlencode)
    {url providerId otherId state otherState nonce otherNonce : String}
    (carries : Carries deployment providerId url state nonce)
    (other : Carries deployment otherId url otherState otherNonce) :
    providerId = otherId ∧ state = otherState ∧ nonce = otherNonce := by
  obtain ⟨provider, endpoint, rfl, rfl⟩ := carries
  obtain ⟨otherProvider, otherEndpoint, rfl, same⟩ := other
  obtain ⟨uriEq, stateEq, nonceEq⟩ :=
    providerParams_inj (params_inj isUrlencode same)
  refine ⟨?_, stateEq, nonceEq⟩
  have chars := congrArg String.toList uriEq
  simp only [providerCallbackUri, String.toList_append] at chars
  exact String.toList_injective (List.append_cancel_left chars)

end Redirects

/-! ## What a login stores -/

section Transactions

variable {deployment : Deployment} {world between after : World}
variable {readings : Readings} {url : String}

/-- Transactions stay, and a new one has a state of its own. -/
structure Grows (before after : TransactionTable) : Prop where
  stays : ∀ row ∈ before, ∃ held ∈ after, held.providerId = row.providerId ∧
    held.upstreamState = row.upstreamState
  origin : ∀ row ∈ after,
    (∃ held ∈ before, held.providerId = row.providerId ∧
      held.upstreamState = row.upstreamState ∧
      held.upstreamNonce = row.upstreamNonce) ∨
    ∀ held ∈ before, held.providerId = row.providerId →
      held.upstreamState ≠ row.upstreamState

theorem Grows.refl (table : TransactionTable) : Grows table table :=
  ⟨fun row rowMem => ⟨row, rowMem, rfl, rfl⟩,
    fun row rowMem => .inl ⟨row, rowMem, rfl, rfl, rfl⟩⟩

theorem Grows.trans {first second third : TransactionTable}
    (before : Grows first second) (later : Grows second third) :
    Grows first third where
  stays row rowMem := by
    obtain ⟨held, heldMem, sameProvider, sameState⟩ := before.stays row rowMem
    obtain ⟨last, lastMem, isProvider, isState⟩ := later.stays held heldMem
    exact ⟨last, lastMem, isProvider.trans sameProvider,
      isState.trans sameState⟩
  origin row rowMem := by
    rcases later.origin row rowMem with ⟨held, heldMem, isProvider, isState,
      isNonce⟩ | isNew
    · rcases before.origin held heldMem with ⟨old, oldMem, sameProvider,
        sameState, sameNonce⟩ | isNew
      · exact .inl ⟨old, oldMem, sameProvider.trans isProvider,
          sameState.trans isState, sameNonce.trans isNonce⟩
      · exact .inr fun old oldMem sameProvider sameState =>
          isNew old oldMem (sameProvider.trans isProvider.symm)
            (sameState.trans isState.symm)
    · refine .inr fun old oldMem sameProvider sameState => ?_
      obtain ⟨held, heldMem, isProvider, isState⟩ := before.stays old oldMem
      exact isNew held heldMem (isProvider.trans sameProvider)
        (isState.trans sameState)

theorem Stores.of_grows {before after : TransactionTable}
    {providerId state nonce : String} (grows : Grows before after)
    (stores : Stores before providerId state nonce) :
    Stores after providerId state nonce := by
  obtain ⟨⟨row, rowMem, isProvider, isState⟩, all⟩ := stores
  constructor
  · obtain ⟨held, heldMem, sameProvider, sameState⟩ := grows.stays row rowMem
    exact ⟨held, heldMem, sameProvider.trans isProvider,
      sameState.trans isState⟩
  · intro held heldMem heldProvider heldState
    rcases grows.origin held heldMem with ⟨old, oldMem, sameProvider, sameState,
      sameNonce⟩ | isNew
    · rw [← sameNonce]
      exact all old oldMem (sameProvider.trans heldProvider)
        (sameState.trans heldState)
    · exact absurd (isState.trans heldState.symm)
        (isNew row rowMem (isProvider.trans heldProvider.symm))

theorem grows_perform (stmt : Stmt) (world : World) :
    Grows world.transactions (perform deployment stmt world).2.transactions := by
  by_cases isTable : stmt.table = .transactions
  case neg =>
    rw [transactions_perform deployment isTable]
    exact .refl _
  case pos =>
    cases stmt with
    | transaction stmt =>
        cases stmt with
        | insert row =>
            rcases RowHistory.insert_transaction world row with
              ⟨-, kept⟩ | ⟨-, inserted, free⟩
            · exact kept ▸ .refl _
            · constructor
              · intro held heldMem
                exact ⟨held, (KeyedTable.mem_of_insert inserted).mpr
                  (.inl heldMem), rfl, rfl⟩
              · intro held heldMem
                rcases (KeyedTable.mem_of_insert inserted).mp heldMem with
                  old | rfl
                · exact .inl ⟨held, old, rfl, rfl, rfl⟩
                · exact .inr free
        | byId id => exact .refl _
        | byState providerId upstreamState => exact .refl _
        | consume id =>
            constructor
            · intro held heldMem
              refine ⟨_, (KeyedTable.mem_update
                (TransactionRow.consume_id world.now)).mpr
                ⟨held, heldMem, rfl⟩, ?_⟩
              split <;> exact ⟨rfl, rfl⟩
            · intro row rowMem
              obtain ⟨held, heldMem, rowEq⟩ := (KeyedTable.mem_update
                (TransactionRow.consume_id world.now)).mp rowMem
              refine .inl ⟨held, heldMem, ?_⟩
              rw [rowEq]
              split <;> exact ⟨rfl, rfl, rfl⟩
    | _ => cases isTable

theorem grows_run {α : Type} (program : App α) (world : World) :
    Grows world.transactions
      (App.run deployment program world).2.transactions := by
  have keeps (stmt : Stmt) (before : World)
      (grown : Grows world.transactions before.transactions) :
      Grows world.transactions
        (perform deployment stmt before).2.transactions :=
    grown.trans (grows_perform stmt before)
  exact StatementTree.run_preserves _ keeps program (.refl _)

theorem stores_insert {row : TransactionRow} {nonce : String}
    (isNonce : row.upstreamNonce = some nonce)
    (accepted : (TransactionStmt.perform world (.insert row)).1 = .ok ()) :
    Stores (TransactionStmt.perform world (.insert row)).2 row.providerId
      row.upstreamState nonce := by
  rcases RowHistory.insert_transaction world row with
    ⟨refused, -⟩ | ⟨-, inserted, free⟩
  · exact absurd accepted refused
  constructor
  · exact ⟨_, (KeyedTable.mem_of_insert inserted).mpr (.inr rfl), rfl, rfl⟩
  · intro held heldMem sameProvider sameState
    rcases (KeyedTable.mem_of_insert inserted).mp heldMem with old | rfl
    · exact absurd sameState (free held old sameProvider)
    · exact isNonce

/-- The state and the nonce of the redirect are those of the stored row. -/
theorem stores_beginFederatedAuthorization {provider : ProviderRow}
    {tenantId : String} {params : AuthorizationParams}
    (ran : App.run deployment (beginFederatedAuthorization deployment readings
      provider tenantId params) world = (.ok (.redirect url), after)) :
    Carries deployment provider.id url (readings.secret 0) (readings.secret 1) ∧
      Stores after.transactions provider.id (readings.secret 0)
        (readings.secret 1) := by
  obtain ⟨found, stored, storing, building⟩ := App.run_bind_eq_ok.mp ran
  obtain ⟨_, inserted, inserting, reading⟩ := App.run_bind_eq_ok.mp storing
  obtain ⟨address, built, endpointing, answering⟩ := App.run_bind_eq_ok.mp building
  cases answering
  constructor
  · obtain ⟨endpoint, resolved, -, assembling⟩ :=
      App.run_bind_eq_ok.mp endpointing
    cases assembling
    exact ⟨provider, endpoint, rfl, rfl⟩
  · have grown : Grows inserted.transactions after.transactions := by
      have first := @grows_run deployment _ (ask (.transaction (.byId
        (readings.secret 2)))) inserted
      have second := @grows_run deployment _ (buildProviderAuthorizeUrl deployment
        provider (providerCallbackUri deployment provider.id) (readings.secret 0)
        (some (readings.secret 1))) stored
      rw [reading] at first
      rw [endpointing] at second
      exact first.trans second
    refine Stores.of_grows grown ?_
    rw [App.run_ask] at inserting
    have accepted := congrArg Prod.fst inserting
    have isTable := congrArg World.transactions (congrArg Prod.snd inserting)
    rw [← isTable]
    exact stores_insert rfl accepted

/-- The redirect has a transaction with its state and its nonce. -/
def Remembered (deployment : Deployment) (table : TransactionTable)
    (url : String) : Prop :=
  ∃ providerId state nonce, Carries deployment providerId url state nonce ∧
    Stores table providerId state nonce

theorem remembered_chooseLogin {request : AuthorizeRequest} {client : ClientRow}
    (ran : App.run deployment (chooseLogin deployment readings request client)
      world = (.ok (.redirect url), after)) :
    Remembered deployment after.transactions url := by
  unfold chooseLogin at ran
  dsimp only at ran
  split at ran
  case isTrue => cases ran
  case isFalse =>
    obtain ⟨providers, _, -, rest⟩ := App.run_bind_eq_ok.mp ran
    split at rest
    case isTrue =>
      split at rest
      · cases rest
      · exact ⟨_, _, _, stores_beginFederatedAuthorization rest⟩
    case isFalse =>
      split at rest
      · cases rest
      · exact ⟨_, _, _, stores_beginFederatedAuthorization rest⟩
      · cases rest

theorem remembered_authorize {request : AuthorizeRequest}
    (ran : App.run deployment (authorize deployment readings request) world =
      (.ok (.redirect url), after)) :
    Remembered deployment after.transactions url := by
  obtain ⟨found, _, -, rest⟩ := App.run_bind_eq_ok.mp ran
  cases found with
  | none =>
      dsimp only at rest
      split at rest <;> cases rest
  | some client =>
      obtain ⟨registered, _, -, rest⟩ := App.run_bind_eq_ok.mp rest
      split at rest
      case isTrue => split at rest <;> cases rest
      case isFalse =>
        split at rest
        case h_1 => split at rest <;> cases rest
        case h_2 =>
          split at rest
          case isTrue =>
            obtain ⟨providers, _, -, rest⟩ := App.run_bind_eq_ok.mp rest
            cases rest
          case isFalse => exact remembered_chooseLogin rest

/-- Every redirect that was sent has its transaction. -/
def NonceState.Holds (deployment : Deployment) (state : NonceState) : Prop :=
  ∀ url ∈ state.sent, Remembered deployment state.world.transactions url

theorem holds_nonceStep {state next : NonceState} {event : FlowEvent}
    (holds : state.Holds deployment)
    (stepEq : nonceStep deployment state event = some next) :
    next.Holds deployment := by
  cases event with
  | request call =>
      cases stepEq
      intro url urlMem
      rcases List.mem_append.mp urlMem with isNew | old
      · simp only [sentBy] at isNew
        split at isNew
        case h_1 request formClientId address isAuthorize answered =>
          rw [List.mem_singleton.mp isNew]
          have ran : App.run deployment (call.program deployment) state.world =
              (.ok (.redirect address), _) := Prod.ext answered rfl
          rw [FlowCall.program, isAuthorize] at ran
          obtain ⟨db, connected, -, authorizing⟩ := App.run_bind_eq_ok.mp ran
          have remembered := remembered_authorize authorizing
          rwa [FlowCall.program, isAuthorize]
        case h_2 => cases isNew
      · obtain ⟨providerId, upstreamState, nonce, carries, stores⟩ :=
          holds url old
        exact ⟨providerId, upstreamState, nonce, carries,
          stores.of_grows (grows_run _ _)⟩
  | wait seconds =>
      cases stepEq
      exact holds
  | manage clients =>
      cases stepEq
      exact holds

end Transactions

section Callbacks

variable {deployment : Deployment} {world : World}

/-- The claims of tokens whose ID token is used are those that it verifies
to. -/
theorem providerClaims_of_usesIdToken {provider : ProviderRow}
    {tokens : UpstreamTokens} (uses : usesIdToken provider tokens = true)
    (utcNow : Int) :
    providerClaims deployment provider tokens utcNow =
      verifyJwt deployment (tokens.idToken.getD "") provider provider.clientId
        utcNow :=
  if_pos uses

/-- A callback that answers with a session has asked the provider for the
tokens it comes from. -/
theorem answers_of_session {readings : Readings} {request : CallbackRequest}
    {clientName : String} {email : Option String} {scopes : List String}
    {params : AuthorizationParams} {session : SignedToken} {after : World}
    (ran : App.run deployment (federationCallback deployment readings request)
      world = (.ok (.consentPage clientName email scopes params (some session)),
        after)) :
    ∃ txn provider tokens claims between,
      Answers deployment request world txn provider tokens between ∧
      SignsIn deployment readings txn provider tokens claims session between := by
  obtain ⟨txn, provider, claims, subject, user, signIn, minted⟩ :=
    federationCallback_eq_ok ran
  obtain ⟨asserted, resolved, asserts, isSubject, resolves, -⟩ := signIn.resolves
  obtain ⟨tokens, between, exchanged, claimed⟩ := asserts
  have isUser := (userId_of_createJwtToken minted).1
  exact ⟨txn, provider, tokens, claims, between,
    ⟨signIn.isTransaction, signIn.isProvider, exchanged⟩,
    ⟨asserted, subject, user, resolved, claimed, isSubject, resolves, isUser⟩⟩

theorem storedNonce_eq {providerId upstreamState nonce : String}
    {txn : TransactionRow}
    (stores : Stores world.transactions providerId upstreamState nonce)
    (isTransaction : transactionFor world providerId upstreamState = some txn) :
    storedNonce txn = .text nonce := by
  have selected := KeyedTable.mem_select.mp (List.mem_of_mem_head? isTransaction)
  simp only [Bool.and_eq_true, decide_eq_true_eq] at selected
  obtain ⟨txnMem, ⟨⟨isProvider, isState⟩, -⟩, -⟩ := selected
  rw [storedNonce, stores.2 txn txnMem isProvider isState]
  rfl

theorem bound_of_ownFlow (isUrlencode : deployment.urlencode = UrlQuery.urlencode)
    {issuedFor : Issues} {state : NonceState} {event : FlowEvent}
    (holds : state.Holds deployment)
    (own : OwnFlow deployment issuedFor state event) :
    Bound deployment state.world event := by
  cases event with
  | request call =>
      intro request clientName email scopes params session after isCallback ran
      rw [FlowCall.program, isCallback] at ran
      obtain ⟨txn, provider, tokens, claims, between, answers, signsIn⟩ :=
        answers_of_session ran
      refine ⟨txn, provider, tokens, claims, between, answers, signsIn, ?_⟩
      intro uses
      obtain ⟨asserted, _, _, _, claimed, -⟩ := signsIn.claimed
      rw [providerClaims_of_usesIdToken uses] at claimed
      obtain ⟨⟨url, urlMem, issued, nonce, carries⟩, repeats⟩ := own request txn
        provider tokens claims between asserted isCallback answers uses claimed
      -- what was sent with the state of the callback is what is stored for it
      obtain ⟨providerId, upstreamState, sentNonce, sent, stores⟩ :=
        holds url urlMem
      obtain ⟨rfl, rfl, rfl⟩ := sent.unique isUrlencode carries
      rw [repeats url _ _ issued carries,
        storedNonce_eq stores answers.isTransaction]
  | wait seconds => trivial
  | manage clients => trivial

end Callbacks

/-! ## The result -/

theorem along_world {deployment : Deployment}
    {property : World → FlowEvent → Prop} {state : NonceState}
    {events : List FlowEvent}
    (along : Along (nonceStep deployment)
      (fun state event => property state.world event) state events) :
    Along (flowStep deployment) property state.world events := by
  induction events generalizing state with
  | nil => trivial
  | cons event rest ih =>
      refine ⟨along.1, fun after stepEq => ?_⟩
      have next : nonceStep deployment state event = some
          ⟨after, sentBy deployment state.world event ++ state.sent⟩ := by
        rw [nonceStep, stepEq]
        rfl
      exact ih (along.2 _ next)

/-- In the runs where every callback brings the code of its own redirect and the
provider repeats the nonce of the redirect, every session is bound to the request
that started it. -/
theorem bound_along_of_ownFlow (deployment : Deployment)
    (isUrlencode : deployment.urlencode = UrlQuery.urlencode) (issuedFor : Issues)
    (world : World) (events : List FlowEvent)
    (own : Along (nonceStep deployment) (OwnFlow deployment issuedFor) ⟨world, []⟩
      events) :
    Along (flowStep deployment) (Bound deployment) world events := by
  have start : NonceState.Holds deployment ⟨world, []⟩ := by
    intro url urlMem
    cases urlMem
  exact @along_world deployment (Bound deployment) ⟨world, []⟩ events
    (along_of_invariant (fun _ _ _ holds _ => holds_nonceStep holds)
      (fun _ _ holds => bound_of_ownFlow isUrlencode holds) start own)

/-! ## A token of another flow -/

/-- A tenant with a client and the identity provider. -/
def oneProvider : World where
  tenants := .single { id := "t" }
  clients :=
    .single ⟨"c", "t", "secret", "App", ["https://app/cb"], ["openid"], true⟩
  providers := .single idp

/-- The provider answers every code with an ID token that carries the nonce. -/
def answering (nonce : String) : Deployment :=
  { Deployment.plain [] with
    upstream := fun _ stmt =>
      match stmt with
      | .exchangeCode .. => .ok { idToken := some "id" }
      | _ => .error (.other "ConnectError")
    upstreamDecode := fun _ _ _ _ _ _ => .ok [("sub", .text "s"),
      ("email", .text "u@t"), ("nonce", .text nonce)] }

/-- The nonces of the two codes that the provider gives out. -/
def nonceFor (code : String) : String :=
  if code = "c1" then "n1" else "n2"

/-- The provider answers each of its codes with an ID token that has the nonce of
the code. -/
def repeating : Deployment :=
  { Deployment.plain [] with
    urlencode := UrlQuery.urlencode
    upstream := fun _ stmt =>
      match stmt with
      | .exchangeCode _ form _ =>
          .ok { idToken := some ((form.lookup "code").join.getD "") }
      | _ => .error (.other "ConnectError")
    upstreamDecode := fun token _ _ _ _ _ => .ok [("sub", .text "s"),
      ("email", .text "u@t"), ("nonce", .text (nonceFor token))] }

/-- What a flow reads: its upstream state, its upstream nonce and the id of its
transaction. -/
def readingsOf (state nonce id : String) : Readings where
  utcNow _ := 0
  timeNs _ := 0
  secret
    | 0 => state
    | 1 => nonce
    | _ => id

def startCall (state nonce id : String) : FlowCall where
  readings := readingsOf state nonce id
  request := .authorize {
    params := { clientId := "c", redirectUri := "https://app/cb" } } .none

/-- A browser starts a login. -/
def start (state nonce id : String) : FlowEvent :=
  .request (startCall state nonce id)

/-- A browser comes back from the provider with the state of a flow and a code. -/
def finish (state code : String) : FlowEvent :=
  .request {
    readings := readingsOf "u" "password" "link"
    request := .callback {
      providerId := "p"
      code := some code
      state := some state } }

/-- The redirect of a flow. -/
def redirectOf (state nonce : String) : String :=
  "https://idp/authorize" ++ "?" ++ UrlQuery.urlencode
    (RedirectUrls.providerParams idp (providerCallbackUri repeating "p") state
      (some nonce))

theorem carries_redirectOf (state nonce : String) :
    Carries repeating "p" (redirectOf state nonce) state nonce :=
  ⟨idp, "https://idp/authorize", rfl, rfl⟩

/-- The provider gives out its first code for the redirect of the first flow. -/
def issued : Issues
  | _, "c1" => some (redirectOf "s1" "n1")
  | _, _ => some (redirectOf "s2" "n2")

/-- A login goes to the only provider. -/
theorem run_start (state upstreamNonce id : String)
    (transactions : TransactionTable) :
    App.run repeating ((startCall state upstreamNonce id).program repeating)
        { oneProvider with transactions := transactions } =
      App.run repeating
        (beginFederatedAuthorization repeating
          (readingsOf state upstreamNonce id) idp "t"
          { clientId := "c", redirectUri := "https://app/cb" })
        { oneProvider with transactions := transactions } := by
  have listed : App.run repeating (listEnabledIdentityProviders "t" "oidc")
      { oneProvider with transactions := transactions } =
      (.ok [idp], { oneProvider with transactions := transactions }) :=
    congrArg (fun found => (Except.ok found, _)) (List.mergeSort_singleton idp)
  have chosen : App.run repeating ((startCall state upstreamNonce id).program repeating)
      { oneProvider with transactions := transactions } =
      App.run repeating
        (chooseLogin repeating (readingsOf state upstreamNonce id)
          { params := { clientId := "c", redirectUri := "https://app/cb" } }
          ⟨"c", "t", "secret", "App", ["https://app/cb"], ["openid"], true⟩)
        { oneProvider with transactions := transactions } := rfl
  rw [chosen, chooseLogin]
  dsimp only
  rw [if_neg Bool.false_ne_true, App.run_bind_of_ok listed]
  rfl

theorem flowStep_start (state upstreamNonce id : String)
    (transactions : TransactionTable) :
    flowStep repeating { oneProvider with transactions := transactions }
        (start state upstreamNonce id) =
      some (App.run repeating
        (beginFederatedAuthorization repeating
          (readingsOf state upstreamNonce id) idp "t"
          { clientId := "c", redirectUri := "https://app/cb" })
        { oneProvider with transactions := transactions }).2 :=
  congrArg (fun ran : Except Exn FlowResponse × World => some ran.2)
    (run_start ..)

/-- The first login answers with its redirect. -/
theorem nonceStep_start (state upstreamNonce id : String) :
    nonceStep repeating ⟨oneProvider, []⟩ (start state upstreamNonce id) =
      some ⟨(App.run repeating
        (beginFederatedAuthorization repeating
          (readingsOf state upstreamNonce id) idp "t"
          { clientId := "c", redirectUri := "https://app/cb" }) oneProvider).2,
        [redirectOf state upstreamNonce]⟩ := by
  have ran := run_start state upstreamNonce id oneProvider.transactions
  have answered : (App.run repeating
      ((startCall state upstreamNonce id).program repeating) oneProvider).1 =
        .ok (.redirect (redirectOf state upstreamNonce)) :=
    congrArg Prod.fst ran
  have sent : sentBy repeating oneProvider (start state upstreamNonce id) =
      [redirectOf state upstreamNonce] := by
    simp only [sentBy, start, answered]
    rfl
  have stepEq := flowStep_start state upstreamNonce id oneProvider.transactions
  change (flowStep repeating oneProvider (start state upstreamNonce id)).map _ = _
  exact (congrArg _ stepEq).trans (by rw [sent]; rfl)

/-- A browser brings the code of its own flow. -/
theorem own_code_bound :
    Along (flowStep repeating) (Bound repeating) oneProvider
      [start "s1" "n1" "txn1", finish "s1" "c1"] := by
  refine bound_along_of_ownFlow repeating rfl issued oneProvider _ ⟨?_, ?_⟩
  · rintro _ _ _ _ _ _ _ ⟨⟩
  intro next started
  cases started.symm.trans (nonceStep_start "s1" "n1" "txn1")
  refine ⟨?_, fun _ _ => trivial⟩
  rintro request txn provider tokens claims between asserted ⟨⟩ answers - verified
  have ownCode : OwnCode repeating issued [redirectOf "s1" "n1"]
      { providerId := "p", code := some "c1", state := some "s1" } :=
    ⟨_, List.mem_cons_self, rfl, "n1", carries_redirectOf "s1" "n1"⟩
  refine ⟨ownCode, ?_⟩
  rintro url state nonce ⟨⟩ carries
  obtain ⟨-, -, rfl⟩ := carries.unique rfl (carries_redirectOf "s1" "n1")
  cases answers.isTransaction
  cases answers.isProvider
  cases answers.exchanged
  cases verified
  rfl

/-- A code of another flow is taken for the flow of a browser. -/
theorem code_of_other_flow_taken :
    ¬ Along (flowStep repeating) (Bound repeating) oneProvider
      [start "s1" "n1" "txn1", start "s2" "n2" "txn2", finish "s1" "c2"] := by
  rintro ⟨-, started⟩
  obtain ⟨-, both⟩ := started _ (flowStep_start _ _ _ oneProvider.transactions)
  obtain ⟨finished, -⟩ := both _ (flowStep_start _ _ _ _)
  obtain ⟨txn, provider, tokens, claims, between, answers, signsIn, bound⟩ :=
    finished _ _ _ _ _ _ _ rfl rfl
  cases answers.isTransaction
  cases answers.isProvider
  cases answers.exchanged
  obtain ⟨asserted, subject, user, resolved, claimed, -⟩ := signsIn.claimed
  cases claimed
  have same : "n2" = "n1" := PyValue.text.inj (bound rfl)
  exact absurd same (by decide)

end UpstreamNonce

end HexIam
