import HexIam.ConsentBinding
import HexIam.UrlQuery

/-!
# Redirect URLs

`consent_submit` and `build_provider_authorize_url` write a question mark and the
encoded parameters behind an address, whatever it has already, where `end_session`
looks for a question mark first.  So the parameters come back, after those of the
address, exactly when it has no query and no fragment.
-/

namespace HexIam

open StatementTree UrlQuery

namespace RedirectUrls

/-! ## The property -/

/-- The query of the URL gives the parameters of the address and then these. -/
def Decodes (replaced : List UInt8 → String) (address url : String)
    (params : List (String × String)) : Prop :=
  urlParams replaced url = urlParams replaced address ++ params

/-- The address has no query and no fragment. -/
def Plain (address : String) : Prop :=
  '?' ∉ address.toList ∧ '#' ∉ address.toList

abbrev Log := List (LogEntry Stmt Stmt.Resp Exn)

/-- Whatever its statements are answered, the program ends like this. -/
def Leaves {α : Type} (post : Log → Except Exn α → Prop) (program : App α) : Prop :=
  Obeys (fun _ _ => True) (fun _ _ => True) post program []

/-- What a consent form tells the client. -/
def consentParams (readings : Readings) (request : ConsentRequest) :
    List (String × String) :=
  (if request.action = "deny" then
      [("error", "access_denied"), ("error_description", "User denied the request")]
    else [("code", readings.secret 0)]) ++
    stateParam request.params

/-- What an authorization request tells a provider. -/
def providerParams (provider : ProviderRow) (redirectUri upstreamState : String)
    (upstreamNonce : Option String) : List (String × String) := [
  ("client_id", provider.clientId.getD "None"),
  ("redirect_uri", redirectUri),
  ("response_type", "code"),
  ("scope", scopesOrDefault provider.authorizationScopes),
  ("state", upstreamState)] ++
    if given upstreamNonce then [("nonce", upstreamNonce.getD "")] else []

/-- The provider's authorization endpoint is configured or was discovered. -/
def IsEndpoint (provider : ProviderRow) (log : Log) (endpoint : String) : Prop :=
  provider.authorizationEndpoint = some endpoint ∨
    ∃ discovery : Discovery,
      (⟨.upstream (.discovery (discoveryUrl provider)), .ok discovery⟩ :
        LogEntry Stmt Stmt.Resp Exn) ∈ log ∧
      discovery.authorizationEndpoint = some endpoint

/-- A redirect to the client is to the address of the form, with what the form tells
it, and this comes back if the condition holds of the address. -/
def ConsentDecodes (replaced : List UInt8 → String) (deployment : Deployment)
    (readings : Readings) (request : ConsentRequest)
    (result : Except Exn FlowResponse) : Prop :=
  ∀ address params, result = .ok (.clientRedirect address params) →
    address = request.params.redirectUri ∧ params = consentParams readings request ∧
      (Decodes replaced address (clientLocation deployment address params) params ↔
        Plain address)

theorem obeys_trivial {α : Type} (program : App α) (log : Log) :
    Obeys (fun _ _ => True) (fun _ _ => True) (fun _ _ => True) program log := by
  induction program generalizing log with
  | done result => trivial
  | perform stmt next ih => exact ⟨trivial, fun answer _ => ih answer _⟩

theorem stateParam_orNone (params : AuthorizationParams) :
    stateParam params.orNone = stateParam params := by
  unfold stateParam AuthorizationParams.orNone
  cases params.state with
  | none => rfl
  | some state =>
      cases isFilled : filled state with
      | false => simp [Option.filter, isFilled]
      | true => simp [Option.filter, isFilled]

section Builders

variable (replaced : List UInt8 → String) {deployment : Deployment}

theorem decodes_iff (isUrlencode : deployment.urlencode = urlencode)
    (address : String) {params : List (String × String)} (nonempty : params ≠ []) :
    Decodes replaced address (address ++ "?" ++ deployment.urlencode params) params ↔
      Plain address := by
  rw [isUrlencode]
  exact urlParams_append_iff replaced address nonempty

theorem leaves_consentSubmit (isUrlencode : deployment.urlencode = urlencode)
    (readings : Readings) (request : ConsentRequest) :
    Leaves (fun _ => ConsentDecodes replaced deployment readings request)
      (consentSubmit deployment readings request) := by
  unfold consentSubmit
  cases signedIn : getSessionUser deployment.tokens request.session
      (readings.utcNow 0) with
  | none => rintro _ _ ⟨⟩
  | some user =>
      dsimp only
      split_ifs with denied
      · rintro address params ⟨⟩
        refine ⟨rfl, ?_, decodes_iff replaced isUrlencode _ (by simp)⟩
        rw [consentParams, if_pos denied, stateParam_orNone]
      · cases user.userId with
        | none => rintro _ _ ⟨⟩
        | some userId =>
            cases user.tenantId with
            | none => rintro _ _ ⟨⟩
            | some tenantId =>
                refine (obeys_trivial _ _).bind (fun log _ _ => ?_)
                  (fun _ _ _ _ _ same => nomatch same)
                rintro address params ⟨⟩
                refine ⟨rfl, ?_, decodes_iff replaced isUrlencode _ (by simp)⟩
                rw [consentParams, if_neg denied, stateParam_orNone]

theorem leaves_resolveEndpoint (provider : ProviderRow) :
    Leaves (fun log result => ∀ endpoint, result = .ok endpoint →
        IsEndpoint provider log endpoint)
      (resolveEndpoint provider provider.authorizationEndpoint
        Discovery.authorizationEndpoint
        (.value "Provider missing authorization endpoint")) := by
  unfold resolveEndpoint
  split_ifs with configured
  · obtain ⟨endpoint, isConfigured, -⟩ := given_eq_true.mp configured
    rintro _ ⟨⟩
    rw [isConfigured]
    exact .inl isConfigured
  · refine ⟨trivial, fun answer _ => ?_⟩
    cases answer with
    | error error => exact fun _ same => nomatch same
    | ok discovery =>
        change Obeys _ _ _ (if given discovery.authorizationEndpoint = true then
          _ else _) _
        split_ifs with discovered
        · obtain ⟨endpoint, isDiscovered, -⟩ := given_eq_true.mp discovered
          rintro _ ⟨⟩
          rw [isDiscovered]
          exact .inr ⟨discovery, List.mem_cons_self, isDiscovered⟩
        · exact fun _ same => nomatch same

/-- A URL for a provider goes to its endpoint, and the parameters come back if the
condition holds of the endpoint. -/
def ProviderDecodes (provider : ProviderRow) (redirectUri upstreamState : String)
    (upstreamNonce : Option String) (log : Log) (result : Except Exn String) : Prop :=
  ∀ url, result = .ok url → ∃ endpoint, IsEndpoint provider log endpoint ∧
    let params := providerParams provider redirectUri upstreamState upstreamNonce
    (Decodes replaced endpoint url params ↔ Plain endpoint)

theorem leaves_buildProviderAuthorizeUrl
    (isUrlencode : deployment.urlencode = urlencode) (provider : ProviderRow)
    (redirectUri upstreamState : String) (upstreamNonce : Option String) :
    Leaves (ProviderDecodes replaced provider redirectUri upstreamState upstreamNonce)
      (buildProviderAuthorizeUrl deployment provider redirectUri upstreamState
        upstreamNonce) := by
  refine (leaves_resolveEndpoint provider).bind (fun log endpoint isEndpoint => ?_)
    fun _ _ _ _ same => nomatch same
  rintro url ⟨⟩
  exact ⟨endpoint, isEndpoint endpoint rfl,
    decodes_iff replaced isUrlencode endpoint (by simp)⟩

/-- Each URL gives the parameters of its address and then its own exactly when the
address has no query and no fragment. -/
theorem redirects_decode_iff (isUrlencode : deployment.urlencode = urlencode) :
    (∀ readings request,
      Leaves (fun _ => ConsentDecodes replaced deployment readings request)
        (consentSubmit deployment readings request)) ∧
    ∀ provider redirectUri upstreamState upstreamNonce,
      Leaves (ProviderDecodes replaced provider redirectUri upstreamState
          upstreamNonce)
        (buildProviderAuthorizeUrl deployment provider redirectUri upstreamState
          upstreamNonce) :=
  ⟨leaves_consentSubmit replaced isUrlencode,
    leaves_buildProviderAuthorizeUrl replaced isUrlencode⟩

end Builders

/-! ## A user who denies -/

def deployed : Deployment :=
  { ConsentBinding.signedIn with urlencode := urlencode }

def start : Readings :=
  ⟨fun _ => 0, fun _ => 0, fun _ => "code"⟩

def denial (redirectUri : String) : ConsentRequest where
  session := { cookie := some "j.u-1" }
  action := "deny"
  params := { clientId := "c", redirectUri }

def denied : List (String × String) :=
  [("error", "access_denied"), ("error_description", "User denied the request")]

theorem plain_address_decodes :
    Decodes (fun _ => "") "https://app/cb"
      (clientLocation deployed "https://app/cb" denied) denied := by
  have leaves : ConsentDecodes (fun _ => "") deployed start (denial "https://app/cb")
      (.ok (.clientRedirect "https://app/cb" denied)) :=
    (@redirects_decode_iff (fun _ => "") deployed rfl).1 start (denial "https://app/cb")
  exact (leaves _ _ rfl).2.2.mpr ⟨by decide, by decide⟩

/-- The error is read as a part of the client's own parameter. -/
theorem second_question_mark :
    consentSubmit deployed start (denial "https://app/cb?flow=web") =
        .done (.ok (.clientRedirect "https://app/cb?flow=web" denied)) ∧
      urlParams (fun _ => "")
          (clientLocation deployed "https://app/cb?flow=web" denied) =
        [("flow", "web?error=access_denied"),
          ("error_description", "User denied the request")] ∧
      ¬ Decodes (fun _ => "") "https://app/cb?flow=web"
        (clientLocation deployed "https://app/cb?flow=web" denied) denied := by
  refine ⟨rfl, by decide +kernel, ?_⟩
  unfold Decodes
  decide +kernel

end RedirectUrls

end HexIam
