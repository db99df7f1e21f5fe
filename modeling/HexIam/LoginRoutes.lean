import HexIam.ConsentBinding
import HexIam.FederatedSignIn

/-!
# The routes from a request to its code

The parameters of an authorization request reach `consent_submit` through the
forms of the login and consent pages, through the links of the provider
chooser, or through a row of `federation_auth_transactions`.  All routes store
the same code, except that the links leave out an empty
`code_challenge_method`, for which `authorize` then takes `S256`.
-/

namespace HexIam

open StatementTree GuardedRun

namespace LoginRoutes

open ConsentBinding (FlowCall FlowRequest codeOf)

/-! ## Queries, forms and links -/

/-- The query of `authorize`; what is `none` is absent. -/
structure AuthorizeQuery where
  clientId : String
  redirectUri : String
  responseType : Option String := none
  scope : Option String := none
  state : Option String := none
  nonce : Option String := none
  codeChallenge : Option String := none
  codeChallengeMethod : Option String := none
  providerId : Option String := none
  localLogin : Bool := false
  deriving DecidableEq

/-- The arguments of `authorize`, with the defaults of its signature. -/
def AuthorizeQuery.params (query : AuthorizeQuery) : AuthorizationParams where
  clientId := query.clientId
  redirectUri := query.redirectUri
  responseType := query.responseType.getD "code"
  scope := query.scope.getD "openid"
  state := query.state
  nonce := query.nonce
  codeChallenge := query.codeChallenge
  codeChallengeMethod := some (query.codeChallengeMethod.getD "S256")

/-- The hidden inputs of `login.html` and `consent.html`. -/
structure HiddenInputs where
  clientId : String
  redirectUri : String
  responseType : String
  scope : String
  state : String
  nonce : String
  codeChallenge : String
  codeChallengeMethod : String
  deriving DecidableEq

/-- The hidden inputs of a page: `value or ''` where a parameter is optional. -/
def hiddenInputs (params : AuthorizationParams) : HiddenInputs where
  clientId := params.clientId
  redirectUri := params.redirectUri
  responseType := params.responseType
  scope := params.scope
  state := params.state.getD ""
  nonce := params.nonce.getD ""
  codeChallenge := params.codeChallenge.getD ""
  codeChallengeMethod := params.codeChallengeMethod.getD ""

def scopeOrOpenid (scope : String) : String :=
  if filled scope then scope else "openid"

/-- What `login_submit` and `consent_submit` take from a form: an empty field
is a missing one, so a required field refuses it and another one takes its
default. -/
def HiddenInputs.params (form : HiddenInputs) : Option AuthorizationParams :=
  if filled form.clientId && filled form.redirectUri then
    some {
      clientId := form.clientId
      redirectUri := form.redirectUri
      responseType :=
        if filled form.responseType then form.responseType else "code"
      scope := scopeOrOpenid form.scope
      state := some form.state
      nonce := some form.nonce
      codeChallenge := some form.codeChallenge
      codeChallengeMethod := some form.codeChallengeMethod }
  else
    none

/-- `base_params` of `render_provider_chooser_page`. -/
def baseParams (params : AuthorizationParams) : AuthorizeQuery where
  clientId := params.clientId
  redirectUri := params.redirectUri
  responseType := some params.responseType
  scope := some params.scope
  state := params.state.filter filled
  nonce := params.nonce.filter filled
  codeChallenge := params.codeChallenge.filter filled
  codeChallengeMethod := params.codeChallengeMethod.filter filled

/-- The links of `render_provider_chooser_page`. -/
def chooserLinks (params : AuthorizationParams) (providers : List ProviderRow) :
    List AuthorizeQuery :=
  providers.map (fun provider =>
    { baseParams params with providerId := some provider.id }) ++
  [{ baseParams params with localLogin := true }]

/-! ## Runs of browsers -/

/-- Where a page or a sign-in comes from: the first request, and whether the
chooser page lies between. -/
structure Origin where
  query : AuthorizeQuery
  viaChooser : Bool := false
  deriving DecidableEq

/-- What a page lets its browser send. -/
inductive Offer : Type
  | login (form : HiddenInputs)
  | consent (form : HiddenInputs)
  | link (query : AuthorizeQuery)
  deriving DecidableEq

/-- The forms and links of a page, with their origin. -/
def offers (origin : Origin) : FlowResponse → List (Origin × Offer)
  | .loginPage _ params _ => [(origin, .login (hiddenInputs params))]
  | .consentPage _ _ _ params _ => [(origin, .consent (hiddenInputs params))]
  | .providerChooser _ providers params =>
      (chooserLinks params providers).map fun query =>
        ({ origin with viaChooser := true }, .link query)
  | _ => []

/-- A consent that was given: the stored row and the returned state. -/
structure Grant where
  origin : Origin
  row : CodeRow
  state : Option String
  deriving DecidableEq

/-- The world, what the browsers were offered, the sign-ins begun at identity
providers, and the consents given. -/
structure Browsing where
  world : World
  offered : List (Origin × Offer) := []
  begun : List (Origin × TransactionRow) := []
  grants : List Grant := []

/-- The transactions of a request. -/
def newTransactions (before after : World) : List TransactionRow :=
  after.transactions.select fun row =>
    (before.transactions.select fun held => held.id = row.id).isEmpty

/-- The codes of a request. -/
def newCodes (before after : World) : List CodeRow :=
  after.codes.select fun row =>
    (before.codes.select fun held => held.code = row.code).isEmpty

/-- The consents that an answer completes. -/
def grantsOf (origin : Origin) (rows : List CodeRow) :
    FlowResponse → List Grant
  | .clientRedirect _ params =>
      rows.map fun row => ⟨origin, row, params.lookup "state"⟩
  | _ => []

/-- The state after a request and its answer. -/
def serve (deployment : Deployment) (state : Browsing) (origin : Origin)
    (call : FlowCall) : Browsing :=
  let outcome := App.run deployment (call.program deployment) state.world
  { world := outcome.2
    offered := state.offered ++ (outcome.1.toOption.map (offers origin)).getD []
    begun := state.begun ++
      (newTransactions state.world outcome.2).map fun row => (origin, row)
    grants := state.grants ++ (outcome.1.toOption.map
      (grantsOf origin (newCodes state.world outcome.2))).getD [] }

/-- What a browser sends with any request, and what the server reads from
clocks and `secrets`. -/
structure Context where
  tenantHeader : Option String := none
  session : BrowserSession := {}
  accept : String := ""
  readings : Readings

/-- A call of `authorize`. -/
def Context.authorize (context : Context) (query : AuthorizeQuery) :
    FlowCall where
  tenantHeader := context.tenantHeader
  readings := context.readings
  request := .authorize {
    session := context.session
    accept := context.accept
    params := query.params
    providerId := query.providerId
    localLogin := query.localLogin } .none

/-- A call of `login_submit`. -/
def Context.login (context : Context) (email password : String)
    (params : AuthorizationParams) : FlowCall where
  tenantHeader := context.tenantHeader
  readings := context.readings
  request := .login { email, password, params } none

/-- A call of `federation_callback` for the state of a transaction. -/
def Context.callback (context : Context) (row : TransactionRow)
    (code : Option String) : FlowCall where
  readings := context.readings
  request := .callback {
    providerId := row.providerId
    code := code
    state := some row.upstreamState }

/-- A call of `consent_submit`. -/
def Context.consent (context : Context) (action : String)
    (params : AuthorizationParams) : FlowCall where
  tenantHeader := context.tenantHeader
  readings := context.readings
  request := .consent { session := context.session, action, params } none

/-- A browser opens a request, follows an offer or comes back from an identity
provider; or something else happens. -/
inductive BrowserEvent : Type
  | start (query : AuthorizeQuery) (context : Context)
  | follow (origin : Origin) (query : AuthorizeQuery) (context : Context)
  | login (origin : Origin) (form : HiddenInputs) (email password : String)
      (context : Context)
  | comeBack (origin : Origin) (row : TransactionRow) (code : Option String)
      (context : Context)
  | consent (origin : Origin) (form : HiddenInputs) (action : String)
      (context : Context)
  | otherTransaction (stmt : TransactionStmt)
  | elsewhere (world : World)

/-- The state after an event.  Browsers send what they were offered; everything
but the transactions may change between their requests. -/
def browse (deployment : Deployment) (state : Browsing) :
    BrowserEvent → Option Browsing
  | .start query context =>
      some (serve deployment state { query } (context.authorize query))
  | .follow origin query context =>
      if (origin, .link query) ∈ state.offered then
        some (serve deployment state origin (context.authorize query))
      else none
  | .login origin form email password context =>
      if (origin, .login form) ∈ state.offered then
        form.params.map fun params =>
          serve deployment state origin (context.login email password params)
      else none
  | .comeBack origin row code context =>
      if (origin, row) ∈ state.begun then
        some (serve deployment state origin (context.callback row code))
      else none
  | .consent origin form action context =>
      if (origin, .consent form) ∈ state.offered then
        form.params.map fun params =>
          serve deployment state origin (context.consent action params)
      else none
  | .otherTransaction stmt =>
      some { state with
        world := (perform deployment (.transaction stmt) state.world).2 }
  | .elsewhere world =>
      some { state with
        world := { world with transactions := state.world.transactions } }

/-! ## The property -/

/-- The rows agree apart from code, id and expiry, and so do the states. -/
def SameGrant (one other : Grant) : Prop :=
  { one.row with
    code := other.row.code
    id := other.row.id
    expiresAt := other.row.expiresAt } = other.row ∧ one.state = other.state

/-! ## What the routes keep -/

/-- What the code and the answer of a consent take from a request. -/
@[ext]
structure Kept where
  clientId : String
  redirectUri : String
  scope : String
  state : Option String
  nonce : Option String
  codeChallenge : Option String
  codeChallengeMethod : Option String

def keptOf (params : AuthorizationParams) : Kept where
  clientId := params.clientId
  redirectUri := params.redirectUri
  scope := scopeOrOpenid params.scope
  state := params.state.filter filled
  nonce := params.nonce.filter filled
  codeChallenge := params.codeChallenge.filter filled
  codeChallengeMethod := params.codeChallengeMethod.filter filled

/-- The chooser page sets the default method where there is none. -/
def Kept.chosen (kept : Kept) : Kept :=
  { kept with codeChallengeMethod := some (kept.codeChallengeMethod.getD "S256") }

/-- What the consents of an origin keep. -/
def Origin.kept (origin : Origin) : Kept :=
  if origin.viaChooser then (keptOf origin.query.params).chosen
  else keptOf origin.query.params

theorem filter_filter_filled (value : Option String) :
    (value.filter filled).filter filled = value.filter filled := by
  simp [Option.filter_filter]

theorem filter_getD_filled (value : Option String) :
    (some (value.getD "")).filter filled = value.filter filled := by
  cases value with
  | none => rfl
  | some text => rfl

theorem filter_getD_method (value : Option String) :
    (some ((value.filter filled).getD "S256")).filter filled =
      some ((value.filter filled).getD "S256") := by
  cases kept : value.filter filled with
  | none => rfl
  | some text =>
      rw [Option.getD_some, Option.filter_some,
        (Option.filter_eq_some_iff.mp kept).2, if_pos rfl]

@[simp]
theorem scopeOrOpenid_idem (scope : String) :
    scopeOrOpenid (scopeOrOpenid scope) = scopeOrOpenid scope := by
  unfold scopeOrOpenid
  by_cases isFilled : filled scope = true <;> simp [isFilled]

@[simp]
theorem keptOf_orNone (params : AuthorizationParams) :
    keptOf params.orNone = keptOf params := by
  simp only [keptOf, AuthorizationParams.orNone, filter_filter_filled]

/-- A form keeps what its page was made for. -/
theorem keptOf_form {params read : AuthorizationParams}
    (submitted : (hiddenInputs params).params = some read) :
    keptOf read = keptOf params := by
  unfold HiddenInputs.params at submitted
  split at submitted
  case isTrue =>
    cases submitted
    simp only [keptOf, hiddenInputs, filter_getD_filled,
      scopeOrOpenid_idem]
  case isFalse => cases submitted

theorem ownScope_of_form {form : HiddenInputs} {params : AuthorizationParams}
    (submitted : form.params = some params) :
    scopeOrOpenid params.scope = params.scope := by
  unfold HiddenInputs.params at submitted
  split at submitted
  case isTrue =>
    cases submitted
    exact scopeOrOpenid_idem form.scope
  case isFalse => cases submitted

@[simp]
theorem chosen_chosen (kept : Kept) : kept.chosen.chosen = kept.chosen :=
  rfl

theorem keptOf_baseParams (params : AuthorizationParams) :
    keptOf (baseParams params).params = (keptOf params).chosen := by
  simp only [keptOf, Kept.chosen, baseParams, AuthorizeQuery.params,
    Option.getD_some, filter_filter_filled, filter_getD_method]

theorem keptOf_chooserLink {params : AuthorizationParams}
    {providers : List ProviderRow} {query : AuthorizeQuery}
    (link : query ∈ chooserLinks params providers) :
    keptOf query.params = (keptOf params).chosen := by
  rw [← keptOf_baseParams]
  rcases List.mem_append.mp link with ofProvider | isLocal
  · obtain ⟨provider, -, rfl⟩ := List.mem_map.mp ofProvider
    rfl
  · cases List.mem_singleton.mp isLocal
    rfl

theorem Origin.kept_viaChooser (origin : Origin) :
    Origin.kept { origin with viaChooser := true } = origin.kept.chosen := by
  obtain ⟨query, viaChooser⟩ := origin
  cases viaChooser <;> rfl

/-! ## The transactions between requests -/

/-- The request parameters of a transaction. -/
def transactionParams (row : TransactionRow) : AuthorizationParams where
  clientId := row.clientId
  redirectUri := row.redirectUri
  scope := row.scope
  state := row.state
  nonce := row.nonce
  codeChallenge := row.codeChallenge
  codeChallengeMethod := row.codeChallengeMethod

/-- The row before it is consumed. -/
def opened (row : TransactionRow) : TransactionRow :=
  { row with consumedAt := none }

/-- What `UNIQUE (provider_id, upstream_state)` is about. -/
def stateKey (row : TransactionRow) : String × String :=
  (row.providerId, row.upstreamState)

theorem stateKey_opened (row : TransactionRow) :
    stateKey (opened row) = stateKey row :=
  rfl

theorem keptOf_opened (row : TransactionRow) :
    keptOf (transactionParams (opened row)) = keptOf (transactionParams row) :=
  rfl

theorem stateKey_of_opened {row other : TransactionRow}
    (same : opened row = opened other) : stateKey row = stateKey other := by
  rw [← stateKey_opened, same, stateKey_opened]

theorem keptOf_of_opened {row other : TransactionRow}
    (same : opened row = opened other) :
    keptOf (transactionParams row) = keptOf (transactionParams other) := by
  rw [← keptOf_opened, same, keptOf_opened]

theorem id_of_opened {row other : TransactionRow}
    (same : opened row = opened other) : row.id = other.id := by
  have sameId := congrArg TransactionRow.id same
  exact sameId

/-- The row has an id and a state of its own. -/
def Fresh (world : World) (row : TransactionRow) : Prop :=
  ∀ held ∈ world.transactions, held.id ≠ row.id ∧ stateKey held ≠ stateKey row

/-- Transactions stay but for their consumption, and new ones keep what is
allowed. -/
structure Grows (allowed : Kept → Prop) (before after : World) : Prop where
  stays : ∀ row ∈ before.transactions, ∃ held ∈ after.transactions,
    opened held = opened row
  grown : ∀ held ∈ after.transactions,
    (∃ row ∈ before.transactions, opened held = opened row) ∨
      allowed (keptOf (transactionParams held)) ∧ Fresh before held

theorem grows_of_eq {allowed : Kept → Prop} {before after : World}
    (same : after.transactions = before.transactions) :
    Grows allowed before after := by
  constructor
  · exact fun row rowMem => ⟨row, same ▸ rowMem, rfl⟩
  · exact fun held heldMem => .inl ⟨held, same ▸ heldMem, rfl⟩

instance (allowed : Kept → Prop) : IsPreorder World (Grows allowed) where
  refl _ := grows_of_eq rfl
  trans before between after first second := by
    constructor
    · intro row rowMem
      obtain ⟨held, heldMem, same⟩ := first.stays row rowMem
      obtain ⟨last, lastMem, lastSame⟩ := second.stays held heldMem
      exact ⟨last, lastMem, lastSame.trans same⟩
    · intro held heldMem
      rcases second.grown held heldMem with ⟨middle, middleMem, same⟩ | new
      · rcases first.grown middle middleMem with ⟨row, rowMem, old⟩ | new
        · exact .inl ⟨row, rowMem, same.trans old⟩
        · refine .inr ⟨keptOf_of_opened same ▸ new.1, fun row rowMem => ?_⟩
          rw [id_of_opened same, stateKey_of_opened same]
          exact new.2 row rowMem
      · refine .inr ⟨new.1, fun row rowMem => ?_⟩
        obtain ⟨middle, middleMem, same⟩ := first.stays row rowMem
        rw [← id_of_opened same, ← stateKey_of_opened same]
        exact new.2 middle middleMem

section Statements

variable {allowed : Kept → Prop} {deployment : Deployment} {world : World}

theorem fresh_of_isEmpty {row : TransactionRow}
    (freeState : (world.transactions.select fun held =>
      held.providerId = row.providerId &&
        held.upstreamState = row.upstreamState).isEmpty = true)
    (freeId : ∀ held ∈ world.transactions, held.id ≠ row.id) :
    Fresh world row := by
  refine fun held heldMem => ⟨freeId held heldMem, fun same => ?_⟩
  obtain ⟨sameProvider, sameState⟩ := Prod.mk.inj same
  have selected : held ∈ world.transactions.select fun held =>
      held.providerId = row.providerId &&
        held.upstreamState = row.upstreamState :=
    KeyedTable.mem_select.mpr ⟨heldMem, by simp [sameProvider, sameState]⟩
  rw [List.isEmpty_iff.mp freeState] at selected
  cases selected

theorem grows_insert {row : TransactionRow}
    (keeps : allowed (keptOf (transactionParams row))) :
    Grows allowed world
      (perform deployment (.transaction (.insert row)) world).2 := by
  simp only [perform, TransactionStmt.perform]
  split
  case h_2 => exact grows_of_eq rfl
  case h_1 table inserted =>
    simp only [require_bind_eq_ok] at inserted
    obtain ⟨freeState, -, inserted⟩ := inserted
    split at inserted
    case h_2 => cases inserted
    case h_1 after insertEq =>
      cases inserted
      have freeId := (KeyedTable.insert_eq_some.mp insertEq).1
      constructor
      · exact fun held heldMem =>
          ⟨held, (KeyedTable.mem_of_insert insertEq).mpr (.inl heldMem), rfl⟩
      · intro held heldMem
        rcases (KeyedTable.mem_of_insert insertEq).mp heldMem with old | rfl
        · exact .inl ⟨held, old, rfl⟩
        · exact .inr ⟨keeps, fresh_of_isEmpty freeState freeId⟩

theorem grows_consume {id : String} :
    Grows allowed world
      (perform deployment (.transaction (.consume id)) world).2 := by
  have mem_after {row : TransactionRow} :=
    @KeyedTable.mem_update _ _ _ world.transactions row
      (fun row => row.id = id) (TransactionRow.consume world.now)
      (TransactionRow.consume_id world.now)
  have keeps (row : TransactionRow) : opened (if decide (row.id = id) then
      row.consume world.now else row) = opened row := by
    split <;> rfl
  constructor
  · exact fun row rowMem => ⟨_, mem_after.mpr ⟨row, rowMem, rfl⟩, keeps row⟩
  · intro held heldMem
    obtain ⟨row, rowMem, rfl⟩ := mem_after.mp heldMem
    exact .inl ⟨row, rowMem, keeps row⟩

theorem grows_perform {stmt : Stmt}
    (keeps : ∀ row, stmt = .transaction (.insert row) →
      allowed (keptOf (transactionParams row))) :
    Grows allowed world (perform deployment stmt world).2 := by
  by_cases other : stmt.table = .transactions
  case neg => exact grows_of_eq (transactions_perform deployment other)
  case pos =>
    cases stmt with
    | transaction stmt =>
        cases stmt with
        | insert row => exact grows_insert (keeps row rfl)
        | byId id => exact grows_of_eq rfl
        | byState providerId upstreamState => exact grows_of_eq rfl
        | consume id => exact grows_consume
    | _ => cases other

end Statements

/-! ## What the endpoints keep -/

/-- What is sent from the offer keeps what its origin keeps. -/
def Offer.Keeps (kept : Kept) : Offer → Prop
  | .login form | .consent form =>
      ∀ params, form.params = some params → keptOf params = kept
  | .link query => keptOf query.params = kept

/-- The row and the state keep what their origin keeps. -/
structure Grant.Keeps (grant : Grant) : Prop where
  clientId : grant.row.clientId = grant.origin.kept.clientId
  redirectUri : grant.row.redirectUri = grant.origin.kept.redirectUri
  scope : grant.row.scope = grant.origin.kept.scope
  state : grant.state = grant.origin.kept.state
  nonce : grant.row.nonce = grant.origin.kept.nonce
  codeChallenge : grant.row.codeChallenge = grant.origin.kept.codeChallenge
  codeChallengeMethod :
    grant.row.codeChallengeMethod = grant.origin.kept.codeChallengeMethod
  unused : grant.row.used = false

/-- The answer keeps what its origin keeps, and completes no consent. -/
structure OnlyOffers (origin : Origin) (response : FlowResponse) : Prop where
  keeps : ∀ offered ∈ offers origin response, offered.2.Keeps offered.1.kept
  completes : ∀ rows, grantsOf origin rows response = []

section Endpoints

variable {deployment : Deployment} {world : World} {readings : Readings}
variable {origin : Origin} {params : AuthorizationParams}

theorem onlyOffers_loginPage {clientName : String} {error : Option String}
    (same : keptOf params = origin.kept) :
    OnlyOffers origin (.loginPage clientName params error) := by
  refine ⟨fun offered mem => ?_, fun _ => rfl⟩
  cases List.mem_singleton.mp mem
  exact fun read submitted => (keptOf_form submitted).trans same

theorem onlyOffers_consentPage {clientName : String} {email : Option String}
    {scopes : List String} {cookie : Option SignedToken}
    (same : keptOf params = origin.kept) :
    OnlyOffers origin (.consentPage clientName email scopes params cookie) := by
  refine ⟨fun offered mem => ?_, fun _ => rfl⟩
  cases List.mem_singleton.mp mem
  exact fun read submitted => (keptOf_form submitted).trans same

theorem onlyOffers_providerChooser {clientName : String}
    {providers : List ProviderRow} (same : keptOf params = origin.kept) :
    OnlyOffers origin (.providerChooser clientName providers params) := by
  refine ⟨fun offered mem => ?_, fun _ => rfl⟩
  obtain ⟨query, link, rfl⟩ := List.mem_map.mp mem
  have linked : keptOf query.params = origin.kept.chosen := by
    rw [keptOf_chooserLink link, same]
  exact linked.trans origin.kept_viaChooser.symm

theorem onlyOffers_nothing {response : FlowResponse}
    (noOffer : offers origin response = [])
    (noGrant : ∀ rows, grantsOf origin rows response = []) :
    OnlyOffers origin response := by
  refine ⟨fun offered mem => ?_, noGrant⟩
  rw [noOffer] at mem
  cases mem

theorem onlyOffers_failure {html : Bool} {title message code : String} :
    OnlyOffers origin (.failure html title message code) :=
  onlyOffers_nothing rfl fun _ => rfl

/-- The program only opens transactions that keep what the origin keeps. -/
abbrev Keeps (deployment : Deployment) (origin : Origin)
    (program : App FlowResponse) (world : World) : Prop :=
  App.Ensures deployment (Grows (· = origin.kept)) program world
    fun response _ => OnlyOffers origin response

theorem grows_of_uses {α : Type} {allowed : Kept → Prop} (tables : List Table)
    {program : App α} (uses : Uses tables program)
    (unused : .transactions ∉ tables) :
    App.Ensures deployment (Grows allowed) program world fun _ _ => True := by
  refine Within.ensures uses fun stmt before mem => ?_
  exact grows_of_eq (transactions_perform deployment fun isTransaction =>
    unused (isTransaction ▸ mem))

theorem keeps_beginFederatedAuthorization {provider : ProviderRow}
    {tenantId : String} (same : keptOf params = origin.kept) :
    Keeps deployment origin (beginFederatedAuthorization deployment readings
      provider tenantId params) world := by
  unfold beginFederatedAuthorization createFederationAuthTransaction
  rw [StatementTree.bind_assoc]
  refine App.ensures_ask_bind (grows_perform ?_) fun _ _ _ _ _ =>
    App.ensures_ask_bind (grows_of_eq rfl) fun _ _ _ _ _ => ?_
  · rintro row ⟨⟩
    exact same
  · refine (grows_of_uses [.upstream] ?_ (by decide)).bind fun url _ _ _ =>
      ensures_value (onlyOffers_nothing rfl fun _ => rfl)
    unfold buildProviderAuthorizeUrl
    exact (uses_resolveEndpoint (by decide)).bind fun _ => within_done

theorem keeps_chooseLogin {request : AuthorizeRequest} {client : ClientRow}
    (same : keptOf request.params = origin.kept) :
    Keeps deployment origin (chooseLogin deployment readings request client)
      world := by
  unfold chooseLogin listEnabledIdentityProviders
  dsimp only
  split
  · exact ensures_value (onlyOffers_loginPage same)
  · refine App.ensures_ask_bind (grows_of_eq rfl) fun enabled _ _ _ _ => ?_
    split
    · split
      · exact ensures_value onlyOffers_failure
      · exact keeps_beginFederatedAuthorization same
    · split
      · exact ensures_value (onlyOffers_loginPage same)
      · exact keeps_beginFederatedAuthorization same
      · exact ensures_value (onlyOffers_providerChooser same)

theorem keeps_authorize {request : AuthorizeRequest}
    (same : keptOf request.params = origin.kept) :
    Keeps deployment origin (authorize deployment readings request) world := by
  unfold authorize listEnabledIdentityProviders
  refine (grows_of_uses [.clients] (uses_validateClient (by decide))
    (by decide)).bind fun found between _ _ => ?_
  cases found with
  | none => exact ensures_value (by split <;> exact onlyOffers_failure)
  | some client =>
      refine (grows_of_uses [.clients] (uses_validateRedirectUri (by decide))
        (by decide)).bind fun registered checked _ _ => ?_
      dsimp only
      split
      · exact ensures_value (by split <;> exact onlyOffers_failure)
      · split
        · refine ensures_value ?_
          split
          · exact onlyOffers_nothing rfl fun _ => rfl
          · exact onlyOffers_consentPage same
        · split
          · refine App.ensures_ask_bind (grows_of_eq rfl) fun _ _ _ _ _ => ?_
            exact ensures_value (onlyOffers_nothing rfl fun _ => rfl)
          · exact keeps_chooseLogin same

theorem keeps_loginSubmit {db : Connection} {request : LoginRequest}
    (same : keptOf request.params = origin.kept) :
    Keeps deployment origin (loginSubmit deployment db readings request)
      world := by
  have same : keptOf request.params.orNone = origin.kept := by
    rw [keptOf_orNone, same]
  unfold loginSubmit
  refine (grows_of_uses [.clients] (uses_validateClient (by decide))
    (by decide)).bind fun found between _ _ => ?_
  cases found with
  | none => exact ensures_value onlyOffers_failure
  | some client =>
      refine App.ensures_ask_bind (grows_of_eq rfl) fun user _ _ _ _ => ?_
      cases user with
      | none => exact ensures_value (onlyOffers_loginPage same)
      | some user =>
          refine App.ensures_ofExcept_bind fun verified _ => ?_
          dsimp only
          split
          · exact ensures_value (onlyOffers_loginPage same)
          · split
            · exact ensures_value (onlyOffers_loginPage same)
            · split
              · exact ensures_value (onlyOffers_loginPage same)
              · exact App.ensures_ofExcept_bind fun _ _ =>
                  ensures_value (onlyOffers_consentPage same)

theorem keeps_federationCallback {request : CallbackRequest}
    (same : ∀ txn, FederatedSignIn.transactionFor world request.providerId
      (request.state.getD "") = some txn →
        keptOf (transactionParams txn) = origin.kept) :
    Keeps deployment origin (federationCallback deployment readings request)
      world := by
  unfold federationCallback getFederationAuthTransactionByState
    getIdentityProvider consumeFederationAuthTransaction
  split
  · exact ensures_value onlyOffers_failure
  · split
    · exact ensures_value onlyOffers_failure
    · refine App.ensures_ask_bind (grows_of_eq rfl) fun txn _ answered _ _ => ?_
      cases txn with
      | none => exact ensures_value onlyOffers_failure
      | some txn =>
          have txnKept := same txn (Except.ok.inj answered)
          refine App.ensures_ask_bind (grows_of_eq rfl) fun _ _ _ _ _ => ?_
          dsimp only
          split
          · exact ensures_value onlyOffers_failure
          · refine (grows_of_uses [.users, .identities, .upstream]
              (Within.tryCatch ?_ fun _ => within_done) (by decide)).bind
                fun resolved _ _ _ => ?_
            · exact (uses_exchangeCodeForProviderTokens (by decide)).bind
                fun _ => (uses_resolveOrProvisionFromProviderTokens (by decide)
                  (by decide) (by decide)).bind fun _ => within_done
            · cases resolved with
              | none => exact ensures_value onlyOffers_failure
              | some user =>
                  refine App.ensures_ask_bind grows_consume fun _ _ _ _ _ =>
                    (grows_of_uses [.clients] (uses_validateClient (by decide))
                      (by decide)).bind fun client _ _ _ => ?_
                  cases client with
                  | none => exact ensures_value onlyOffers_failure
                  | some client =>
                      exact App.ensures_ofExcept_bind fun _ _ =>
                        ensures_value (onlyOffers_consentPage txnKept)

/-- The answer keeps what its origin keeps, and so do the consents that it
completes. -/
structure Serves (origin : Origin) (before : World) (response : FlowResponse)
    (after : World) : Prop where
  keeps : ∀ offered ∈ offers origin response, offered.2.Keeps offered.1.kept
  grants : ∀ grant ∈ grantsOf origin (newCodes before after) response,
    grant.Keeps

theorem OnlyOffers.serves {response : FlowResponse} {before after : World}
    (only : OnlyOffers origin response) : Serves origin before response after := by
  refine ⟨only.keeps, fun grant mem => ?_⟩
  rw [only.completes] at mem
  cases mem

theorem lookup_stateParam (params : AuthorizationParams) (code : String) :
    ([("code", code)] ++ stateParam params).lookup "state" =
      params.state.filter filled := by
  unfold stateParam
  cases params.state with
  | none => rfl
  | some state =>
      rw [Option.filter_some, given]
      split <;> rfl

theorem not_mem_newCodes {row : CodeRow} : row ∉ newCodes world world := by
  intro new
  obtain ⟨rowMem, free⟩ := KeyedTable.mem_select.mp new
  have held : row ∈ world.codes.select fun held => held.code = row.code :=
    KeyedTable.mem_select.mpr ⟨rowMem, decide_eq_true rfl⟩
  rw [List.isEmpty_iff.mp free] at held
  cases held

theorem newCodes_insert {row other : CodeRow}
    (inserted : (perform deployment (.code (.insert row)) world).1 = .ok ())
    (new : other ∈ newCodes world
      (perform deployment (.code (.insert row)) world).2) :
    other = { row with used := false } := by
  rcases @ConsentBinding.perform_insert_code world row with
    ⟨-, -, rowsEq⟩ | ⟨-, ⟨error, answered⟩, -⟩
  · obtain ⟨otherMem, free⟩ := KeyedTable.mem_select.mp new
    rcases List.mem_append.mp (rowsEq ▸ KeyedTable.mem_def.mp otherMem) with
      old | isRow
    · exact absurd (KeyedTable.mem_select.mpr ⟨old, free⟩) not_mem_newCodes
    · exact List.mem_singleton.mp isRow
  · exact absurd (inserted.symm.trans answered) nofun

theorem serves_clientRedirect {before after : World} {uri : String}
    {answer : List (String × String)}
    (grants : ∀ row ∈ newCodes before after,
      Grant.Keeps ⟨origin, row, answer.lookup "state"⟩) :
    Serves origin before (.clientRedirect uri answer) after := by
  constructor
  · intro offered mem
    cases mem
  · intro grant mem
    obtain ⟨row, new, rfl⟩ := List.mem_map.mp mem
    exact grants row new

/-- What is stored and returned for a form. -/
theorem keeps_codeOf {userId tenantId code : String} {request : ConsentRequest}
    (same : keptOf request.params = origin.kept)
    (ownScope : scopeOrOpenid request.params.scope = request.params.scope) :
    Grant.Keeps ⟨origin, codeOf readings request.params userId tenantId,
      ([("code", code)] ++ stateParam request.params.orNone).lookup "state"⟩ where
  clientId := congrArg Kept.clientId same
  redirectUri := congrArg Kept.redirectUri same
  scope := ownScope.symm.trans (congrArg Kept.scope same)
  state := by
    rw [lookup_stateParam]
    exact (filter_filter_filled _).trans (congrArg Kept.state same)
  nonce := congrArg Kept.nonce same
  codeChallenge := congrArg Kept.codeChallenge same
  codeChallengeMethod := congrArg Kept.codeChallengeMethod same
  unused := rfl

theorem serves_consentSubmit {request : ConsentRequest}
    (same : keptOf request.params = origin.kept)
    (ownScope : scopeOrOpenid request.params.scope = request.params.scope) :
    App.Ensures deployment (Grows (· = origin.kept))
      (consentSubmit deployment readings request) world
      fun response after => Serves origin world response after := by
  unfold consentSubmit storeAuthorizationCode
  dsimp only
  split
  · exact ensures_value (onlyOffers_nothing rfl fun _ => rfl).serves
  · split
    · refine ensures_value (serves_clientRedirect fun row new => ?_)
      exact absurd new not_mem_newCodes
    · split
      · refine App.ensures_ask_bind (grows_of_eq rfl) ?_
        rintro _ _ answered rfl -
        refine ensures_value (serves_clientRedirect fun row new => ?_)
        rw [newCodes_insert answered new]
        exact keeps_codeOf same ownScope
      · exact ensures_throw

end Endpoints

/-! ## Runs -/

/-- What the browsers were offered, the open transactions and the consents keep
what their origins keep. -/
structure Faithful (state : Browsing) : Prop where
  offered : ∀ offered ∈ state.offered, offered.2.Keeps offered.1.kept
  stored : ∀ begun ∈ state.begun, ∃ held ∈ state.world.transactions,
    stateKey held = stateKey begun.2
  begun : ∀ begun ∈ state.begun, ∀ held ∈ state.world.transactions,
    stateKey held = stateKey begun.2 →
      keptOf (transactionParams held) = begun.1.kept
  grants : ∀ grant ∈ state.grants, grant.Keeps

section Runs

variable {deployment : Deployment} {state : Browsing} {origin : Origin}
variable {allowed : Kept → Prop} {after : World} {row : TransactionRow}

theorem Faithful.stored_grows (faithful : Faithful state)
    (grows : Grows allowed state.world after) {begun : Origin × TransactionRow}
    (mem : begun ∈ state.begun) :
    ∃ held ∈ after.transactions, stateKey held = stateKey begun.2 := by
  obtain ⟨held, heldMem, sameKey⟩ := faithful.stored begun mem
  obtain ⟨later, laterMem, same⟩ := grows.stays held heldMem
  exact ⟨later, laterMem, (stateKey_of_opened same).trans sameKey⟩

theorem Faithful.begun_grows (faithful : Faithful state)
    (grows : Grows allowed state.world after) {begun : Origin × TransactionRow}
    (mem : begun ∈ state.begun) {held : TransactionRow}
    (heldMem : held ∈ after.transactions)
    (sameKey : stateKey held = stateKey begun.2) :
    keptOf (transactionParams held) = begun.1.kept := by
  rcases grows.grown held heldMem with ⟨earlier, earlierMem, same⟩ | ⟨-, fresh⟩
  · rw [keptOf_of_opened same]
    exact faithful.begun begun mem earlier earlierMem
      ((stateKey_of_opened same).symm.trans sameKey)
  · obtain ⟨first, firstMem, firstKey⟩ := faithful.stored begun mem
    exact absurd (firstKey.trans sameKey.symm) (fresh first firstMem).2

theorem Faithful.elsewhere (faithful : Faithful state)
    (grows : Grows allowed state.world after) :
    Faithful { state with world := after } where
  offered := faithful.offered
  stored _ mem := faithful.stored_grows grows mem
  begun _ mem _ heldMem := faithful.begun_grows grows mem heldMem
  grants := faithful.grants

theorem fresh_of_mem_newTransactions {before : World}
    (grows : Grows allowed before after)
    (new : row ∈ newTransactions before after) :
    row ∈ after.transactions ∧ Fresh before row := by
  obtain ⟨rowMem, free⟩ := KeyedTable.mem_select.mp new
  refine ⟨rowMem, ?_⟩
  rcases grows.grown row rowMem with ⟨earlier, earlierMem, same⟩ | ⟨-, fresh⟩
  · have held : earlier ∈ before.transactions.select fun held =>
        held.id = row.id := KeyedTable.mem_select.mpr
      ⟨earlierMem, decide_eq_true (id_of_opened same).symm⟩
    rw [List.isEmpty_iff.mp free] at held
    cases held
  · exact fresh

theorem kept_of_new {before : World} {held : TransactionRow}
    (grows : Grows allowed before after)
    (new : row ∈ newTransactions before after)
    (heldMem : held ∈ after.transactions)
    (sameKey : stateKey held = stateKey row) :
    allowed (keptOf (transactionParams held)) := by
  have fresh := (fresh_of_mem_newTransactions grows new).2
  rcases grows.grown held heldMem with ⟨earlier, earlierMem, same⟩ | ⟨keeps, -⟩
  · exact absurd ((stateKey_of_opened same).symm.trans sameKey)
      (fresh earlier earlierMem).2
  · exact keeps

theorem mem_answered {α : Type} {result : Except Exn FlowResponse}
    {itemsOf : FlowResponse → List α} {item : α}
    (mem : item ∈ (result.toOption.map itemsOf).getD []) :
    ∃ response, result = .ok response ∧ item ∈ itemsOf response := by
  cases result with
  | error error => cases mem
  | ok response => exact ⟨response, rfl, mem⟩

theorem Faithful.serve {call : FlowCall} (faithful : Faithful state)
    (serves : App.Ensures deployment (Grows (· = origin.kept))
      (call.program deployment) state.world
      fun response after => Serves origin state.world response after) :
    Faithful (serve deployment state origin call) := by
  obtain ⟨grows, answers⟩ := serves
  constructor
  · intro offered mem
    rcases List.mem_append.mp mem with old | new
    · exact faithful.offered offered old
    · obtain ⟨response, answered, offeredMem⟩ := mem_answered new
      exact (answers response answered).keeps offered offeredMem
  · intro begun mem
    rcases List.mem_append.mp mem with old | new
    · exact faithful.stored_grows grows old
    · obtain ⟨row, rowNew, rfl⟩ := List.mem_map.mp new
      exact ⟨row, (fresh_of_mem_newTransactions grows rowNew).1, rfl⟩
  · intro begun mem held heldMem sameKey
    rcases List.mem_append.mp mem with old | new
    · exact faithful.begun_grows grows old heldMem sameKey
    · obtain ⟨row, rowNew, rfl⟩ := List.mem_map.mp new
      exact kept_of_new grows rowNew heldMem sameKey
  · intro grant mem
    rcases List.mem_append.mp mem with old | new
    · exact faithful.grants grant old
    · obtain ⟨response, answered, grantMem⟩ := mem_answered new
      exact (answers response answered).grants grant grantMem

theorem serves_authorize {context : Context} {query : AuthorizeQuery}
    (same : keptOf query.params = origin.kept) :
    App.Ensures deployment (Grows (· = origin.kept))
      ((context.authorize query).program deployment) state.world
      fun response after => Serves origin state.world response after := by
  refine (grows_of_uses [.clients] (uses_getDatabasePool (by decide))
    (by decide)).bind fun _ between _ _ => ?_
  exact (keeps_authorize same).mono fun response after _ only => only.serves

theorem serves_login {context : Context} {email password : String}
    {params : AuthorizationParams} (same : keptOf params = origin.kept) :
    App.Ensures deployment (Grows (· = origin.kept))
      ((context.login email password params).program deployment) state.world
      fun response after => Serves origin state.world response after := by
  refine (grows_of_uses [.clients] (uses_getDatabasePool (by decide))
    (by decide)).bind fun _ between _ _ => ?_
  exact Ensures.mono (keeps_loginSubmit same) fun response after _ only =>
    only.serves

theorem serves_consent {context : Context} {action : String}
    {params : AuthorizationParams} (same : keptOf params = origin.kept)
    (ownScope : scopeOrOpenid params.scope = params.scope) :
    App.Ensures deployment (Grows (· = origin.kept))
      ((context.consent action params).program deployment) state.world
      fun response after => Serves origin state.world response after := by
  have unchanged : App.Ensures deployment (Grows (· = origin.kept))
      (getDatabasePool context.tenantHeader none (.text params.clientId))
      state.world fun _ between => between = state.world := by
    have ran := @ConsentBinding.run_getDatabasePool deployment state.world
      context.tenantHeader none params.clientId
    have same := congrArg Prod.snd ran
    exact ⟨grows_of_eq (congrArg World.transactions same), fun _ _ => same⟩
  refine unchanged.bind fun db between _ unmoved => ?_
  rw [unmoved]
  exact serves_consentSubmit same ownScope

theorem mem_of_transactionFor {world : World} {providerId upstreamState : String}
    {txn : TransactionRow}
    (found : FederatedSignIn.transactionFor world providerId upstreamState =
      some txn) :
    txn ∈ world.transactions ∧ stateKey txn = (providerId, upstreamState) := by
  obtain ⟨txnMem, selected⟩ :=
    KeyedTable.mem_select.mp (List.mem_of_mem_head? found)
  simp only [Bool.and_eq_true, decide_eq_true_eq] at selected
  exact ⟨txnMem, Prod.ext selected.1.1.1 selected.1.1.2⟩

theorem serves_callback {context : Context} {code : Option String}
    (faithful : Faithful state) (mem : (origin, row) ∈ state.begun) :
    App.Ensures deployment (Grows (· = origin.kept))
      ((context.callback row code).program deployment) state.world
      fun response after => Serves origin state.world response after := by
  refine Ensures.mono (keeps_federationCallback fun txn found => ?_)
    fun response after _ only => only.serves
  obtain ⟨txnMem, sameKey⟩ := mem_of_transactionFor found
  exact faithful.begun (origin, row) mem txn txnMem sameKey

theorem Faithful.step {event : BrowserEvent} {next : Browsing}
    (faithful : Faithful state) (steps : browse deployment state event = some next) :
    Faithful next := by
  cases event with
  | start query context =>
      cases steps
      exact faithful.serve (serves_authorize rfl)
  | follow origin query context =>
      simp only [browse, Option.ite_none_right_eq_some] at steps
      obtain ⟨mem, isNext⟩ := steps
      cases isNext
      exact faithful.serve (serves_authorize (faithful.offered _ mem))
  | login origin form email password context =>
      simp only [browse, Option.ite_none_right_eq_some, Option.map_eq_some_iff]
        at steps
      obtain ⟨mem, params, submitted, rfl⟩ := steps
      exact faithful.serve (serves_login (faithful.offered _ mem params submitted))
  | comeBack origin row code context =>
      simp only [browse, Option.ite_none_right_eq_some] at steps
      obtain ⟨mem, isNext⟩ := steps
      cases isNext
      exact faithful.serve (serves_callback faithful mem)
  | consent origin form action context =>
      simp only [browse, Option.ite_none_right_eq_some, Option.map_eq_some_iff]
        at steps
      obtain ⟨mem, params, submitted, rfl⟩ := steps
      exact faithful.serve (serves_consent (faithful.offered _ mem params submitted)
        (ownScope_of_form submitted))
  | otherTransaction stmt =>
      cases steps
      have grows : Grows (fun _ => True) state.world
          (perform deployment (.transaction stmt) state.world).2 :=
        grows_perform fun _ _ => trivial
      exact faithful.elsewhere grows
  | elsewhere world =>
      cases steps
      have grows : Grows (fun _ => True) state.world
          { world with transactions := state.world.transactions } :=
        grows_of_eq rfl
      exact faithful.elsewhere grows

theorem faithful_start (world : World) : Faithful { world } := by
  constructor
  · intro _ mem
    cases mem
  · intro _ mem
    cases mem
  · intro _ mem
    cases mem
  · intro _ mem
    cases mem

theorem faithful_of_exec {world : World} {events : List BrowserEvent}
    (runs : exec (browse deployment) { world } events = some state) :
    Faithful state :=
  invariant (fun _ _ _ faithful steps => faithful.step steps)
    (faithful_start world) runs

end Runs

/-! ## The result -/

theorem sameRow_iff {row other : CodeRow} :
    { row with
      code := other.code
      id := other.id
      expiresAt := other.expiresAt } = other ↔
      row.clientId = other.clientId ∧ row.userId = other.userId ∧
      row.tenantId = other.tenantId ∧ row.redirectUri = other.redirectUri ∧
      row.scope = other.scope ∧ row.codeChallenge = other.codeChallenge ∧
      row.codeChallengeMethod = other.codeChallengeMethod ∧
      row.nonce = other.nonce ∧ row.used = other.used := by
  obtain ⟨⟩ := row
  obtain ⟨⟩ := other
  simp only [CodeRow.mk.injEq, true_and, and_true]

/-- Two consents of one user agree as far as their origins keep the same. -/
theorem sameGrant_iff_kept {one other : Grant} (oneKeeps : one.Keeps)
    (otherKeeps : other.Keeps) (sameUser : one.row.userId = other.row.userId)
    (sameTenant : one.row.tenantId = other.row.tenantId) :
    SameGrant one other ↔ one.origin.kept = other.origin.kept := by
  unfold SameGrant
  rw [sameRow_iff, oneKeeps.clientId, oneKeeps.redirectUri, oneKeeps.scope,
    oneKeeps.codeChallenge, oneKeeps.codeChallengeMethod, oneKeeps.nonce,
    oneKeeps.unused, oneKeeps.state, otherKeeps.clientId,
    otherKeeps.redirectUri, otherKeeps.scope, otherKeeps.codeChallenge,
    otherKeeps.codeChallengeMethod, otherKeeps.nonce, otherKeeps.unused,
    otherKeeps.state, Kept.ext_iff]
  tauto

theorem kept_method_of_default {query : AuthorizeQuery}
    (notEmpty : query.codeChallengeMethod ≠ some "") :
    (keptOf query.params).codeChallengeMethod =
      some (query.codeChallengeMethod.getD "S256") := by
  refine Option.filter_eq_some_iff.mpr ⟨rfl, ?_⟩
  cases method : query.codeChallengeMethod with
  | none => rfl
  | some text =>
      refine decide_eq_true fun isEmpty => notEmpty ?_
      exact method.trans (congrArg some isEmpty)

/-- The chooser changes what is kept exactly when the method is empty. -/
theorem chosen_eq_iff {query : AuthorizeQuery} :
    (keptOf query.params).chosen = keptOf query.params ↔
      query.codeChallengeMethod ≠ some "" := by
  constructor
  · intro same isEmpty
    have method := congrArg Kept.codeChallengeMethod same
    have dropped : (keptOf query.params).codeChallengeMethod = none := by
      simp [keptOf, AuthorizeQuery.params, isEmpty, filled]
    rw [dropped] at method
    cases method
  · intro notEmpty
    rw [Kept.chosen, kept_method_of_default notEmpty]
    exact congrArg (fun method =>
      { keptOf query.params with codeChallengeMethod := method })
      (kept_method_of_default notEmpty).symm

theorem kept_eq_iff {one other : Origin} (sameQuery : one.query = other.query) :
    one.kept = other.kept ↔
      one.query.codeChallengeMethod ≠ some "" ∨
        one.viaChooser = other.viaChooser := by
  obtain ⟨query, oneWay⟩ := one
  obtain ⟨_, otherWay⟩ := other
  cases sameQuery
  cases oneWay with
  | false =>
      cases otherWay with
      | false => simp
      | true => simpa [Origin.kept] using eq_comm.trans chosen_eq_iff
  | true =>
      cases otherWay with
      | false => simpa [Origin.kept] using chosen_eq_iff
      | true => simp

/-- Two consents of one user to one request agree, in whatever runs they were
given, exactly when the request has no empty `code_challenge_method` or both
routes or none lead over the chooser page. -/
theorem sameGrant_iff {deployment : Deployment} {world otherWorld : World}
    {events otherEvents : List BrowserEvent} {state otherState : Browsing}
    {one other : Grant}
    (runs : exec (browse deployment) { world } events = some state)
    (otherRuns : exec (browse deployment) { world := otherWorld } otherEvents =
      some otherState)
    (oneMem : one ∈ state.grants) (otherMem : other ∈ otherState.grants)
    (sameQuery : one.origin.query = other.origin.query)
    (sameUser : one.row.userId = other.row.userId)
    (sameTenant : one.row.tenantId = other.row.tenantId) :
    SameGrant one other ↔
      one.origin.query.codeChallengeMethod ≠ some "" ∨
        one.origin.viaChooser = other.origin.viaChooser := by
  rw [sameGrant_iff_kept ((faithful_of_exec runs).grants one oneMem)
    ((faithful_of_exec otherRuns).grants other otherMem) sameUser sameTenant]
  exact kept_eq_iff sameQuery

/-! ## A request with an empty method -/

/-- A client of a tenant with two identity providers. -/
def twoProviders : World where
  tenants := .single { id := "t" }
  users := .single ⟨"u", "t", "u@t", "password", "U", "T", none, true, true, 0⟩
  clients :=
    .single ⟨"c", "t", "secret", "App", ["https://app/cb"], ["openid"], true⟩
  providers := ⟨[FederatedSignIn.idp, { FederatedSignIn.idp with id := "q" }],
    by decide⟩

/-- A query with an empty method. -/
def emptyMethod : AuthorizeQuery where
  clientId := "c"
  redirectUri := "https://app/cb"
  state := some "s"
  codeChallengeMethod := some ""

/-- A browser, with the session of the user or without. -/
def browser (cookie : Option String) : Context where
  session := { cookie }
  readings := ⟨fun _ => 0, fun _ => 0, fun _ => "code"⟩

/-- The user already has a session. -/
def direct : List BrowserEvent :=
  [.start emptyMethod (browser (some "j.u-1")),
    .consent { query := emptyMethod } (hiddenInputs emptyMethod.params) "approve"
      (browser (some "j.u-1"))]

/-- The user picks local login on the chooser page. -/
def overChooser : List BrowserEvent :=
  let origin := { query := emptyMethod, viaChooser := true }
  let link := { baseParams emptyMethod.params with localLogin := true }
  [.start emptyMethod (browser none),
    .follow origin link (browser none),
    .login origin (hiddenInputs link.params) "u@t" "password" (browser none),
    .consent origin (hiddenInputs link.params) "approve"
      (browser (some "j.u-1"))]

/-- The row that is stored. -/
def storedRow (codeChallengeMethod : Option String) : CodeRow where
  id := "code"
  code := "code"
  clientId := "c"
  userId := "u"
  tenantId := "t"
  redirectUri := "https://app/cb"
  scope := "openid"
  codeChallenge := none
  codeChallengeMethod := codeChallengeMethod
  nonce := none
  used := false
  expiresAt := 600

theorem grants_direct :
    (exec (browse ConsentBinding.signedIn) { world := twoProviders }
      direct).map Browsing.grants =
        some [⟨{ query := emptyMethod }, storedRow none, some "s"⟩] :=
  rfl

/-- Without a session, the request leads to the chooser page. -/
theorem browse_start :
    browse ConsentBinding.signedIn { world := twoProviders }
        (.start emptyMethod (browser none)) =
      some {
        world := twoProviders
        offered := (chooserLinks emptyMethod.params twoProviders.providers.rows).map
          fun query => ({ query := emptyMethod, viaChooser := true }, .link query) } := by
  have sorted : List.mergeSort twoProviders.providers.rows
      (fun first second => first.createdAt ≤ second.createdAt) =
        twoProviders.providers.rows := by
    apply List.mergeSort_of_pairwise
    decide
  have listed : App.run ConsentBinding.signedIn
      (listEnabledIdentityProviders "t" "oidc") twoProviders =
      (.ok twoProviders.providers.rows, twoProviders) :=
    congrArg (fun found => (Except.ok found, _)) sorted
  have ran : App.run ConsentBinding.signedIn
      (((browser none).authorize emptyMethod).program ConsentBinding.signedIn)
      twoProviders =
      (.ok (.providerChooser "App" twoProviders.providers.rows
        emptyMethod.params), twoProviders) := by
    have chosen : App.run ConsentBinding.signedIn
        (((browser none).authorize emptyMethod).program ConsentBinding.signedIn)
        twoProviders =
        App.run ConsentBinding.signedIn
          (chooseLogin ConsentBinding.signedIn (browser none).readings
            { params := emptyMethod.params }
            ⟨"c", "t", "secret", "App", ["https://app/cb"], ["openid"], true⟩)
          twoProviders := rfl
    rw [chosen, chooseLogin]
    dsimp only
    rw [if_neg Bool.false_ne_true, App.run_bind_of_ok listed]
    rfl
  simp only [browse, serve, ran]
  rfl

theorem grants_overChooser :
    (exec (browse ConsentBinding.signedIn) { world := twoProviders }
      overChooser).map Browsing.grants =
        some [⟨{ query := emptyMethod, viaChooser := true },
          storedRow (some "S256"), some "s"⟩] := by
  rw [overChooser, exec_cons, browse_start]
  rfl

/-- The stored methods of the two routes agree as far as the query asks for
it. -/
theorem emptyMethod_sameGrant_iff :
    SameGrant ⟨{ query := emptyMethod }, storedRow none, some "s"⟩
        ⟨{ query := emptyMethod, viaChooser := true }, storedRow (some "S256"),
          some "s"⟩ ↔
      emptyMethod.codeChallengeMethod ≠ some "" ∨ false = true := by
  obtain ⟨state, runs, grants⟩ := Option.map_eq_some_iff.mp grants_direct
  obtain ⟨otherState, otherRuns, otherGrants⟩ :=
    Option.map_eq_some_iff.mp grants_overChooser
  exact sameGrant_iff runs otherRuns (grants ▸ List.mem_singleton_self _)
    (otherGrants ▸ List.mem_singleton_self _) rfl rfl rfl

/-- A session leads to a code without a method, the chooser page to one with
`S256`. -/
theorem routes_store_different_methods :
    ∃ direct overChooser one other,
      (exec (browse ConsentBinding.signedIn) { world := twoProviders }
        direct).map Browsing.grants = some [one] ∧
      (exec (browse ConsentBinding.signedIn) { world := twoProviders }
        overChooser).map Browsing.grants = some [other] ∧
      one.origin.query = other.origin.query ∧
      one.row.userId = other.row.userId ∧
      one.row.tenantId = other.row.tenantId ∧ ¬ SameGrant one other := by
  refine ⟨direct, overChooser, _, _, grants_direct, grants_overChooser, rfl, rfl,
    rfl, ?_⟩
  rintro ⟨sameRow, -⟩
  cases congrArg CodeRow.codeChallengeMethod sameRow

end LoginRoutes

end HexIam
