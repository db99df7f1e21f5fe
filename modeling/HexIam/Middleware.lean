import HexIam.CachedVerification
import HexIam.PathTemplate
import HexIam.TokenEndpoint

/-!
# The middleware and the routes

A request passes `middle_ware`, which looks an identity's token up in the bloom
filter of the worker unless the path is exempt, and is then routed to a
handler.  The handlers read the token of an identity in three ways:
`verify_and_return_jwt_payload`, `get_session_user`, and by hand in `userinfo`.
-/

namespace HexIam

/-! ## Routes -/

/-- How a handler reads the token of an identity, if it does. -/
inductive IdentityReader : Type
  | anonymous
  | verifyAndReturnJwtPayload
  | getSessionUser
  | userinfo
  deriving DecidableEq, Repr

/-- A route: a method, the template of its paths, and what its handler reads. -/
structure Route where
  method : String
  path : String
  reader : IdentityReader
  deriving DecidableEq, Repr

/-- `include_router(router, prefix=front)`. -/
def includeRouter (front : String) (router : List Route) : List Route :=
  router.map fun route => { route with path := front ++ route.path }

/-- `api/v1/auth.py`. -/
def authRouter : List Route := [
  ⟨"POST", "/token", .anonymous⟩,
  ⟨"POST", "/logout", .anonymous⟩,
  ⟨"GET", "/refresh", .anonymous⟩,
  ⟨"GET", "/sessions", .verifyAndReturnJwtPayload⟩,
  ⟨"POST", "/logout-all", .verifyAndReturnJwtPayload⟩,
  ⟨"POST", "/logout-others", .verifyAndReturnJwtPayload⟩,
  ⟨"DELETE", "/sessions/{jti}", .verifyAndReturnJwtPayload⟩,
  ⟨"GET", "/session/device", .verifyAndReturnJwtPayload⟩,
  ⟨"GET", "/sessions/all", .verifyAndReturnJwtPayload⟩,
  ⟨"GET", "/sessions/user/{user_id}", .verifyAndReturnJwtPayload⟩,
  ⟨"POST", "/sessions/bulk-revoke", .verifyAndReturnJwtPayload⟩,
  ⟨"POST", "/sessions/user/{user_id}/revoke-all",
    .verifyAndReturnJwtPayload⟩]

/-- `api/v1/authz.py`. -/
def authzRouter : List Route := [
  ⟨"POST", "/decide", .verifyAndReturnJwtPayload⟩]

/-- `api/v1/onboarding.py`. -/
def onboardingRouter : List Route := [
  ⟨"GET", "/email/verify", .anonymous⟩,
  ⟨"POST", "/tenant/", .anonymous⟩]

/-- `api/v1/policies.py`. -/
def policiesRouter : List Route := [
  ⟨"GET", "/me", .verifyAndReturnJwtPayload⟩,
  ⟨"GET", "/me/{policy_id}", .verifyAndReturnJwtPayload⟩,
  ⟨"GET", "/user/{user_id}", .verifyAndReturnJwtPayload⟩,
  ⟨"GET", "/user/{user_id}/{policy_id}", .verifyAndReturnJwtPayload⟩,
  ⟨"POST", "/user/{user_id}", .verifyAndReturnJwtPayload⟩,
  ⟨"PUT", "/user/{user_id}/{policy_id}", .verifyAndReturnJwtPayload⟩,
  ⟨"DELETE", "/user/{user_id}/{policy_id}", .verifyAndReturnJwtPayload⟩,
  ⟨"POST", "/assign", .verifyAndReturnJwtPayload⟩,
  ⟨"POST", "/bulk-assign", .verifyAndReturnJwtPayload⟩,
  ⟨"DELETE", "/revoke/{user_id}/{policy_id}", .verifyAndReturnJwtPayload⟩,
  ⟨"GET", "/tenant", .verifyAndReturnJwtPayload⟩,
  ⟨"GET", "/templates", .verifyAndReturnJwtPayload⟩,
  ⟨"GET", "/templates/{template_id}", .verifyAndReturnJwtPayload⟩,
  ⟨"POST", "/templates", .verifyAndReturnJwtPayload⟩,
  ⟨"PUT", "/templates/{template_id}", .verifyAndReturnJwtPayload⟩,
  ⟨"DELETE", "/templates/{template_id}", .verifyAndReturnJwtPayload⟩,
  ⟨"POST", "/templates/assign", .verifyAndReturnJwtPayload⟩]

/-- `api/v1/users.py`. -/
def usersRouter : List Route := [
  ⟨"GET", "/", .verifyAndReturnJwtPayload⟩,
  ⟨"GET", "/{user_id}", .verifyAndReturnJwtPayload⟩]

/-- `api/v1/tenants.py`. -/
def tenantsRouter : List Route := [
  ⟨"GET", "/me", .anonymous⟩,
  ⟨"GET", "/me/settings", .verifyAndReturnJwtPayload⟩,
  ⟨"PATCH", "/me/settings", .verifyAndReturnJwtPayload⟩,
  ⟨"PUT", "/me/settings/mfa", .verifyAndReturnJwtPayload⟩,
  ⟨"PUT", "/me/settings/tokens", .verifyAndReturnJwtPayload⟩,
  ⟨"PUT", "/me/settings/password-policy", .verifyAndReturnJwtPayload⟩,
  ⟨"PUT", "/me/settings/branding", .verifyAndReturnJwtPayload⟩,
  ⟨"GET", "/", .verifyAndReturnJwtPayload⟩,
  ⟨"GET", "/{tenant_id}", .verifyAndReturnJwtPayload⟩,
  ⟨"POST", "/{tenant_id}/deactivate", .verifyAndReturnJwtPayload⟩,
  ⟨"POST", "/{tenant_id}/activate", .verifyAndReturnJwtPayload⟩]

/-- `sso/oidc/discovery.py`. -/
def discoveryRouter : List Route := [
  ⟨"GET", "/.well-known/openid-configuration", .anonymous⟩]

/-- `sso/oidc/endpoints.py`.  `end_session` decodes tokens to end the sessions
they name, not as the identity of a caller. -/
def oidcRouter : List Route := [
  ⟨"GET", "/authorize", .getSessionUser⟩,
  ⟨"POST", "/login", .anonymous⟩,
  ⟨"GET", "/federation/callback/{provider_id}", .anonymous⟩,
  ⟨"POST", "/consent", .getSessionUser⟩,
  ⟨"POST", "/token", .anonymous⟩,
  ⟨"GET", "/userinfo", .userinfo⟩,
  ⟨"GET", "/jwks", .anonymous⟩,
  ⟨"POST", "/introspect", .anonymous⟩,
  ⟨"GET", "/logout", .anonymous⟩,
  ⟨"POST", "/logout", .anonymous⟩]

/-- `sso/oidc/signup.py`. -/
def signupRouter : List Route := [
  ⟨"GET", "/signup", .anonymous⟩,
  ⟨"POST", "/signup", .anonymous⟩,
  ⟨"POST", "/signup/api", .anonymous⟩,
  ⟨"POST", "/invite", .verifyAndReturnJwtPayload⟩,
  ⟨"GET", "/invitations", .verifyAndReturnJwtPayload⟩,
  ⟨"DELETE", "/invitations/{invitation_id}", .verifyAndReturnJwtPayload⟩]

/-- `sso/oidc/clients.py`. -/
def clientsRouter : List Route := [
  ⟨"POST", "/clients", .verifyAndReturnJwtPayload⟩,
  ⟨"GET", "/clients", .verifyAndReturnJwtPayload⟩,
  ⟨"GET", "/clients/{client_id}", .verifyAndReturnJwtPayload⟩,
  ⟨"PATCH", "/clients/{client_id}", .verifyAndReturnJwtPayload⟩,
  ⟨"POST", "/clients/{client_id}/rotate-secret", .verifyAndReturnJwtPayload⟩,
  ⟨"DELETE", "/clients/{client_id}", .verifyAndReturnJwtPayload⟩]

/-- `api/v1/federation.py`. -/
def federationRouter : List Route := [
  ⟨"GET", "/providers", .verifyAndReturnJwtPayload⟩,
  ⟨"POST", "/providers", .verifyAndReturnJwtPayload⟩,
  ⟨"GET", "/providers/{provider_id}", .verifyAndReturnJwtPayload⟩,
  ⟨"PATCH", "/providers/{provider_id}", .verifyAndReturnJwtPayload⟩,
  ⟨"DELETE", "/providers/{provider_id}", .verifyAndReturnJwtPayload⟩,
  ⟨"GET", "/providers/{provider_id}/links", .verifyAndReturnJwtPayload⟩]

/-- `api/v1/__init__.py`. -/
def v1Router : List Route :=
  includeRouter "/authenticate" authRouter ++
  includeRouter "/pdp" authzRouter ++
  includeRouter "/onboarding" onboardingRouter ++
  includeRouter "/policies" policiesRouter ++
  includeRouter "/users" usersRouter ++
  includeRouter "/tenants" tenantsRouter ++
  discoveryRouter ++
  includeRouter "/oidc" oidcRouter ++
  includeRouter "/oidc" signupRouter ++
  includeRouter "/oidc" clientsRouter ++
  includeRouter "/federation" federationRouter

/-- The routes of `app`. -/
def routes : List Route :=
  includeRouter "/api" (includeRouter "/v1" v1Router) ++
    [⟨"GET", "/health", .anonymous⟩]

/-- The template of a route. -/
def Route.template (route : Route) : PathTemplate Char :=
  PathTemplate.compileFrom false route.path.toList

/-- Whether a path is one of a route.  The `$` that ends the regular expression
of a route also matches before a final line feed. -/
def Route.matchesPath (route : Route) (path : String) : Bool :=
  route.template.accepts '/' path.toList ||
    path.toList.getLast? = some '\n' &&
      route.template.accepts '/' path.toList.dropLast

/-! ## `middle_ware` -/

/-- What the middleware and the handlers read of a request.  Whether a handler
gets to the token is decided by what comes before it: the parsing of the
parameters, its other dependencies, and in `authorize` the checks of the
client. -/
structure HttpRequest where
  method : String
  path : String
  session : BrowserSession := {}
  accept : String := ""
  secFetchDest : String := ""
  secFetchMode : String := ""
  reachesToken : Bool := true
  deriving DecidableEq, Repr

/-- The first route that takes a request. -/
def HttpRequest.route (request : HttpRequest) : Option Route :=
  routes.find? fun route =>
    request.method = route.method && route.matchesPath request.path

/-- `PUBLIC_PATHS`. -/
def publicPaths : List String := [
  "/docs", "/openapi.json", "/health", "/favicon.ico",
  "/api/v1/onboarding/tenant", "/api/v1/onboarding/tenant/"]

/-- `PUBLIC_PREFIXES`. -/
def publicPrefixes : List String := [
  "/api/v1/oidc/authorize", "/api/v1/oidc/login", "/api/v1/oidc/consent",
  "/api/v1/oidc/token", "/api/v1/oidc/signup", "/api/v1/oidc/logout",
  "/api/v1/oidc/federation/callback",
  "/api/v1/oidc/jwks", "/api/v1/oidc/userinfo", "/api/v1/oidc/introspect",
  "/api/v1/.well-known/openid-configuration",
  "/api/v1/onboarding/email/verify"]

/-- Whether `middle_ware` lets a path through unchecked. -/
def isExempt (path : String) : Bool :=
  path ∈ publicPaths || publicPrefixes.any (startsWith path) ||
    endsWith path "/token"

/-- What `middle_ware` answers in place of a handler. -/
inductive Refusal : Type
  | page (title message : String) (status : Nat) (code : String)
  | error (code message : String) (status : Nat)
      (headers : List (String × String))
  | raised (error : JwtError)
  deriving DecidableEq, Repr

/-- `wants_html`. -/
def wantsHtml (request : HttpRequest) : Bool :=
  occursIn "text/html" request.accept || request.secFetchDest = "document" ||
    request.secFetchMode = "navigate"

/-- `_unauthorized_response`. -/
def unauthorizedResponse (request : HttpRequest) (detail : String) : Refusal :=
  if wantsHtml request then
    .page "Authentication Required" detail 401 "UNAUTHORIZED"
  else .error "UNAUTHORIZED" detail 401 [("WWW-Authenticate", "Bearer")]

/-- `_bad_request_response`. -/
def badRequestResponse (request : HttpRequest) (detail : String) : Refusal :=
  if wantsHtml request then .page "Bad Request" detail 400 "BAD_REQUEST"
  else .error "BAD_REQUEST" detail 400 []

/-- The token `middle_ware` checks: `token_header.split(" ")[-1]`. -/
def lastPiece (header : String) : String :=
  (split header ' ').getLast?.getD ""

/-- `middle_ware` with the bloom filter of its worker; `none` is
`call_next`. -/
def middleWare (jwt : JwtLibrary) (bloom : List String)
    (request : HttpRequest) : Option Refusal :=
  if isExempt request.path then none
  else
    let header := request.session.authorization.getD ""
    if !filled header || !startsWith header "Bearer " then
      some (unauthorizedResponse request "Could not validate credentials")
    else
      let token := lastPiece header
      if !filled token then
        some (badRequestResponse request "Unable to get authorization token")
      else
        match jwt.unverifiedHeader token with
        | .error error =>
            if error.isInvalidToken then
              some (unauthorizedResponse request "Invalid token format")
            else some (.raised error)
        | .ok header =>
            if !given header.jti then
              some (unauthorizedResponse request "Token missing JTI")
            else if header.jti.getD "" ∈ bloom then
              some (unauthorizedResponse request "Token has been revoked")
            else none

/-! ## Identities -/

/-- A worker: the key set and the verification cache of its process, whose
entries were verified once, and its bloom filter. -/
structure HttpWorker (service : TokenService) where
  verifier : CachedVerification.VerifierState
  sound : CachedVerification.Sound service verifier
  bloom : List String

namespace HttpWorker

variable {service : TokenService}

/-- The token service of a worker. -/
def tokens (worker : HttpWorker service) : TokenService :=
  CachedVerification.serviceOf service worker.verifier

/-- `verify_and_return_jwt_payload` on a worker. -/
def verifyAndReturnJwtPayload (worker : HttpWorker service)
    (authorization : Option String) (now : Int) :
    Except Exn TokenService.VerifiedTokenData × HttpWorker service :=
  let answer := worker.tokens.verifyAndReturnJwtPayload worker.verifier.cache
    authorization now
  (answer.1, { worker with
    verifier := { worker.verifier with cache := answer.2 }
    sound := by
      simp only [answer, TokenService.verifyAndReturnJwtPayload]
      split
      case h_1 => exact worker.sound
      case h_2 token _ =>
        exact CachedVerification.sound_step service worker.verifier
          (.call token now) _ worker.sound rfl })

/-- The token a handler takes for an identity, and the worker after it. -/
def identify (worker : HttpWorker service) (session : BrowserSession)
    (now : Int) : IdentityReader → Option String × HttpWorker service
  | .anonymous => (none, worker)
  | .verifyAndReturnJwtPayload =>
      let answer := worker.verifyAndReturnJwtPayload session.authorization now
      match TokenService.extractToken session.authorization, answer.1 with
      | .ok token, .ok _ => (some token, answer.2)
      | _, _ => (none, answer.2)
  | .getSessionUser =>
      match getSessionUser worker.tokens session now with
      | none => (none, worker)
      | some _ => (session.token, worker)
  | .userinfo =>
      match userinfoToken session.authorization with
      | none => (none, worker)
      | some token =>
          match worker.tokens.decodeJwtToken token now true with
          | .error _ => (none, worker)
          | .ok _ => (some token, worker)

/-- What becomes of a request. -/
inductive Served : Type
  | refused (refusal : Refusal)
  | unrouted
  | handled (route : Route) (identity : Option String)
  deriving DecidableEq, Repr

/-- The token taken for an identity. -/
def Served.identity : Served → Option String
  | .handled _ identity => identity
  | _ => none

/-- `middle_ware` followed by the handler of the matched route. -/
def serve (worker : HttpWorker service) (request : HttpRequest) (now : Int) :
    Served × HttpWorker service :=
  match middleWare service.jwt worker.bloom request with
  | some refusal => (.refused refusal, worker)
  | none =>
      match request.route with
      | none => (.unrouted, worker)
      | some route =>
          if request.reachesToken then
            let answer := worker.identify request.session now route.reader
            (.handled route answer.1, answer.2)
          else (.handled route none, worker)

/-! ## Handlers without an identity -/

section Unidentified

variable {worker : HttpWorker service} {deployment : Deployment}
  {readings : Readings}

theorem getSessionUser_anonymous (tokens : TokenService) (now : Int) :
    getSessionUser tokens {} now = none :=
  rfl

theorem getSessionUser_of_unidentified {session : BrowserSession} {now : Int}
    (unidentified : (worker.identify session now .getSessionUser).1 = none) :
    getSessionUser worker.tokens session now = none := by
  cases userEq : getSessionUser worker.tokens session now with
  | none => rfl
  | some user =>
      simp only [identify, userEq] at unidentified
      simp [getSessionUser, unidentified] at userEq

theorem consentSubmit_of_unidentified {request : ConsentRequest}
    (sameTokens : deployment.tokens = worker.tokens)
    (unidentified : (worker.identify request.session (readings.utcNow 0)
      .getSessionUser).1 = none) :
    consentSubmit deployment readings request =
      consentSubmit deployment readings { request with session := {} } := by
  have noUser := getSessionUser_of_unidentified unidentified
  simp only [consentSubmit, sameTokens, noUser, getSessionUser_anonymous]

theorem authorize_of_unidentified {request : AuthorizeRequest}
    (sameTokens : deployment.tokens = worker.tokens)
    (unidentified : (worker.identify request.session (readings.utcNow 0)
      .getSessionUser).1 = none) :
    authorize deployment readings request =
      authorize deployment readings { request with session := {} } := by
  have noUser := getSessionUser_of_unidentified unidentified
  simp only [authorize, chooseLogin, sameTokens, noUser,
    getSessionUser_anonymous]

/-- Without an identity `userinfo` gives no claims. -/
theorem userinfo_of_unidentified {db : Connection}
    {authorization : Option String}
    (sameTokens : deployment.tokens = worker.tokens)
    (unidentified : (worker.identify { authorization := authorization }
      (readings.utcNow 0) .userinfo).1 = none) :
    ∃ description, userinfo deployment db readings authorization =
      return .failure description := by
  unfold userinfo
  simp only [identify] at unidentified
  cases tokenEq : userinfoToken authorization with
  | none => exact ⟨_, rfl⟩
  | some token =>
      simp only [tokenEq] at unidentified
      rw [sameTokens]
      simp only
      cases decoded : worker.tokens.decodeJwtToken token (readings.utcNow 0)
          true with
      | error error => exact ⟨_, rfl⟩
      | ok claims =>
          rw [decoded] at unidentified
          cases unidentified

end Unidentified

end HttpWorker

end HexIam
