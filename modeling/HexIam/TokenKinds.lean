import HexIam.ClientAuthentication
import HexIam.RefreshChain
import HexIam.Registration

/-!
# Kinds of tokens

Access tokens, ID tokens, browser sessions, client tokens and the tokens of
mails are signed by one key, and the functions that check tokens tell them
apart by the claims they happen to carry.  This file goes through all kinds and
all of these functions and says which token passes where it does not belong.
-/

namespace HexIam

namespace TokenKinds

open ClientAuthentication (Verifies gives_introspectAccessToken
  gives_validateClient)
open RefreshChain (RefreshCall)

/-! ## Kinds -/

inductive TokenKind : Type
  | access
  | identity
  | session
  | clientCredentials
  | verification
  | invitation
  deriving DecidableEq, Repr

/-- The tokens of each kind, as the functions that mint them make them. -/
inductive Minted (deployment : Deployment) : TokenKind → SignedToken → Prop
  | login {utcNow : Int} {timeNs : Nat} {email userId : String}
      {tenantId role : Option String} {policy : List (String × Nat)}
      {token : SignedToken}
      (minted : deployment.tokens.createJwtToken
        (loginPayload utcNow email userId tenantId role policy) timeNs =
          .ok token) :
      Minted deployment .access token
  | grant {utcNow : Int} {timeNs : Nat} {issuerTenant tenantId audience : String}
      {user : UserRow} {scope : Option String} {policy : List (String × Nat)}
      {amr : Option (List String)} {brokerIss : Option String}
      {token : SignedToken}
      (minted : deployment.tokens.createJwtToken
        { accessPayload deployment utcNow issuerTenant tenantId audience user
            scope policy with
          amr := amr
          brokerIss := brokerIss } timeNs = .ok token) :
      Minted deployment .access token
  | identity {utcNow : Int} {timeNs : Nat}
      {userId email tenantId clientId : String}
      {nonce firstName lastName role : Option String} {token : SignedToken}
      (minted : createIdToken deployment utcNow timeNs userId email tenantId
        clientId nonce firstName lastName role = .ok token) :
      Minted deployment .identity token
  | session {utcNow : Int} {timeNs : Nat} {user : UserRow}
      {tenantId clientId : String} {token : SignedToken}
      (minted : deployment.tokens.createJwtToken
        (buildSessionPayload deployment utcNow user tenantId clientId) timeNs =
          .ok token) :
      Minted deployment .session token
  | clientCredentials {utcNow : Int} {timeNs : Nat} {client : ClientRow}
      {token : SignedToken}
      (minted : deployment.tokens.createJwtToken
        (clientCredentialsPayload deployment utcNow client) timeNs = .ok token) :
      Minted deployment .clientCredentials token
  | verification {expNow iatNow : Int} {userId tenantId : String}
      {token : SignedToken}
      (minted : deployment.tokens.createVerificationToken expNow iatNow userId
        tenantId = .ok token) :
      Minted deployment .verification token
  | invitation {expiresAt iatNow : Int} {invitationId : String}
      {token : SignedToken}
      (minted : deployment.tokens.createPurposeToken
        (TokenService.invitationPayload expiresAt iatNow invitationId)
        (some deployment.tokens.jwtSecret)
        (some deployment.tokens.manager.algorithm) = .ok token) :
      Minted deployment .invitation token

/-- What `jwt.decode` returns for the token is what was signed. -/
def Ideal (deployment : Deployment) (token : SignedToken) : Prop :=
  ∀ key algorithms options now claims,
    deployment.tokens.jwt.decode token.compact key algorithms options now =
      .ok claims → claims = token.payload

/-! ## Consumers -/

/-- The cache of a process that has verified these tokens at these times. -/
def cacheAfter (service : TokenService) (history : List (String × Int)) :
    TokenService.VerifyCache :=
  history.foldl
    (fun cache call => (service.cachedVerifyToken cache call.1 call.2).2) .empty

/-- A call of one of the functions that check tokens. -/
inductive Call : Type
  | verify (history : List (String × Int)) (authorization : Option String)
      (now : Int)
  | session (session : BrowserSession) (now : Int)
  | refresh (worker : Nat) (call : RefreshCall) (world : World)
  | introspect (worker : Nat) (readings : Readings) (request : TokenRequest)
      (world : World)
  | verifyEmail (db : Connection) (readings : Readings) (token : String)
      (world : World)
  | invitation (token : String) (now : Int)

namespace Call

/-- The token the call checks. -/
def Presents : Call → String → Prop
  | .verify _ authorization _, token =>
      TokenService.extractToken authorization = .ok token
  | .session browser _, token => browser.token = some token
  | .refresh _ call _, token => call.request.token = .ok token
  | .introspect _ _ request _, token => ∃ data, request.data = .ok data ∧
      PyValue.get data "token" = .text token
  | .verifyEmail _ _ presented _, token => presented = token
  | .invitation presented _, token => presented = token

/-- The call accepts its token; `introspect` does when it reports an access
token. -/
def Accepts (deployment : Deployment) : Call → Prop
  | .verify history authorization now => ∃ data,
      (deployment.tokens.verifyAndReturnJwtPayload
        (cacheAfter deployment.tokens history) authorization now).1 = .ok data
  | .session browser now =>
      (getSessionUser deployment.tokens browser now).isSome = true
  | .refresh worker call world =>
      RefreshChain.Succeeds deployment worker world call
  | .introspect worker readings request world => ∃ clientId payload,
      (App.run deployment (HexIam.introspect deployment worker readings request)
        world).1 = .ok (.accessToken clientId payload)
  | .verifyEmail db readings token world =>
      (ManagementApp.run deployment (HexIam.verifyEmail deployment db readings
        token) world).1 = .ok (.success ())
  | .invitation token now => ∃ payload,
      decodeInvitation deployment token now = .ok payload

end Call

/-- The calls a kind of token is for.  Client tokens are access tokens, but not
of a user. -/
def Own : TokenKind → Call → Prop
  | .access, .verify .. => True
  | .access, .introspect .. => True
  | .session, .session .. => True
  | .clientCredentials, .introspect .. => True
  | .verification, .verifyEmail .. => True
  | .invitation, .invitation .. => True
  | _, _ => False

/-! ## What the calls check -/

/-- The token decodes, or the process has verified it before. -/
def Call.Decodes (deployment : Deployment) (token : String) : Call → Prop
  | .verify history _ now =>
      ((cacheAfter deployment.tokens history).find token).isSome = true ∨
        ∃ claims, deployment.tokens.decodeJwtToken token now true = .ok claims
  | .session _ now =>
      ∃ claims, deployment.tokens.decodeJwtToken token now true = .ok claims
  | .refresh _ call _ => ∃ claims, deployment.tokens.decodeJwtToken token
      (call.readings.utcNow 0) true = .ok claims
  | .introspect _ readings _ _ => ∃ claims,
      deployment.tokens.decodeJwtToken token (readings.utcNow 0) true = .ok claims
  | .verifyEmail _ readings _ _ => ∃ claims,
      deployment.tokens.decodeJwtToken token (readings.utcNow 0) true = .ok claims
  | .invitation _ now => ∃ claims,
      deployment.tokens.manager.decodeToken deployment.tokens.jwt token
        { verifyAud := false, verifyExp := true }
        (some deployment.tokens.manager.algorithm)
        (some deployment.tokens.jwtSecret) now = .ok claims

/-- The claims pass for a refresh, and the rows and the clock let it happen. -/
def Refreshable (deployment : Deployment) (world : World) (call : RefreshCall)
    (claims : Claims) : Prop :=
  ∃ email iat time, refreshSubject deployment claims = .ok (email, iat) ∧
    deployment.bindTimestamp iat = some time ∧
    (world.usersWithEmail call.db email).any (fun user =>
      time < user.lastModified) = false ∧
    claims.tenantId = call.request.tenantHeader ∧
    (∃ refreshToken, deployment.tokens.createJwtToken
      { claims with iat := some (call.readings.utcNow 1) }
      (call.readings.timeNs 0) = .ok refreshToken) ∧
    ∃ persona first rest policy, world.joinAll deployment call.db
        (world.usersWithEmail call.db email) = .ok ((persona, first) :: rest) ∧
      policyClaim (((persona, first) :: rest).filterMap Prod.snd) [] =
        .ok policy ∧
      deployment.tokens.canSign

/-- The request is of a client that the claims are for and that passes its
check, the claims are not revoked, and the hint does not send the request to
the refresh tokens. -/
def Introspectable (deployment : Deployment) (worker : Nat) (world : World)
    (request : TokenRequest) (claims : Claims) : Prop :=
  ∃ data, request.data = .ok data ∧
    (PyValue.get data "token_type_hint").isText "refresh_token" = false ∧
    ∃ id client, (extractClientCredentials deployment request.authorization
        data).1 = .text id ∧
      world.activeClient id = some client ∧
      ((extractClientCredentials deployment request.authorization
          data).2.truthy = true →
        Verifies deployment client (extractClientCredentials deployment
          request.authorization data).2) ∧
      clientMatchesToken claims client.id = true ∧
      (given claims.jti = true → claims.jti.getD "" ∉ world.bloom worker)

/-- The claims pass the check of the call. -/
def Call.Passes (deployment : Deployment) (claims : Claims) : Call → Prop
  | .verify .. => given claims.sub = true ∧ given claims.tenantId = true
  | .session .. => True
  | .refresh _ call world => Refreshable deployment world call claims
  | .introspect worker _ request world =>
      Introspectable deployment worker world request claims
  | .verifyEmail .. => claims.userId.isSome = true ∧
      (claims.purpose = none ∨ claims.purpose = some "email_verify")
  | .invitation .. => claims.purpose = some "invitation"

section Checks

variable {deployment : Deployment} {token : SignedToken}

theorem decode_iff (ideal : Ideal deployment token) {now : Int} {claims : Claims} :
    deployment.tokens.decodeJwtToken token.compact now true = .ok claims ↔
      claims = token.payload ∧ ∃ claims,
        deployment.tokens.decodeJwtToken token.compact now true = .ok claims := by
  constructor
  · intro decoded
    obtain ⟨key, algorithms, options, result⟩ :=
      TokenService.decode_of_decodeJwtToken decoded
    exact ⟨ideal _ _ _ _ _ result, claims, decoded⟩
  · rintro ⟨rfl, other, decoded⟩
    obtain ⟨key, algorithms, options, result⟩ :=
      TokenService.decode_of_decodeJwtToken decoded
    rw [decoded, ideal _ _ _ _ _ result]

theorem exists_verifyToken_iff {service : TokenService} {compact : String}
    {now : Int} :
    (∃ data, service.verifyToken compact now = .ok data) ↔
      ∃ claims, service.decodeJwtToken compact now true = .ok claims ∧
        given claims.sub = true ∧ given claims.tenantId = true := by
  unfold TokenService.verifyToken
  cases service.decodeJwtToken compact now true with
  | error error => simp
  | ok claims =>
      have named (sub : given claims.sub = true) :
          given (orElse claims.userId claims.sub) = true := by
        unfold orElse
        split
        case isTrue user => exact user
        case isFalse => exact sub
      cases sub : given claims.sub with
      | false => simp [sub]
      | true =>
          cases tenant : given claims.tenantId <;> simp [sub, tenant, named sub]

theorem holds_cacheAfter (service : TokenService) (history : List (String × Int)) :
    LruCache.Holds
      (fun compact data => ∃ now, service.verifyToken compact now = .ok data)
      (cacheAfter service history) := by
  unfold cacheAfter
  have start : LruCache.Holds
      (fun compact data => ∃ now, service.verifyToken compact now = .ok data)
      (.empty : TokenService.VerifyCache) := LruCache.holds_empty _
  generalize LruCache.empty = cache at start ⊢
  induction history generalizing cache with
  | nil => exact start
  | cons call rest ih =>
      refine ih _ (LruCache.holds_call start fun data verified => ?_)
      exact ⟨call.2, TokenService.uncachedVerifyToken_eq_ok.mp verified⟩

theorem accepts_verify (ideal : Ideal deployment token)
    {history : List (String × Int)} {authorization : Option String} {now : Int}
    (presents : (Call.verify history authorization now).Presents token.compact) :
    (Call.verify history authorization now).Accepts deployment ↔
      (Call.verify history authorization now).Decodes deployment token.compact ∧
        (Call.verify history authorization now).Passes deployment
          token.payload := by
  have extracted : TokenService.extractToken authorization = .ok token.compact :=
    presents
  have passes {time : Int} (verified : ∃ data,
      deployment.tokens.verifyToken token.compact time = .ok data) :
      given token.payload.sub = true ∧ given token.payload.tenantId = true := by
    obtain ⟨claims, decoded, holds⟩ := exists_verifyToken_iff.mp verified
    obtain ⟨rfl, -⟩ := (decode_iff ideal).mp decoded
    exact holds
  simp only [Call.Accepts, Call.Decodes, Call.Passes,
    TokenService.verifyAndReturnJwtPayload, extracted,
    TokenService.cachedVerifyToken]
  unfold LruCache.call
  cases cached : (cacheAfter deployment.tokens history).find token.compact with
  | some data =>
      obtain ⟨time, verified⟩ :=
        holds_cacheAfter deployment.tokens history _ _ cached
      exact iff_of_true ⟨data, rfl⟩ ⟨.inl rfl, passes ⟨data, verified⟩⟩
  | none =>
      simp only [Option.isSome_none, Bool.false_eq_true, false_or]
      constructor
      · rintro ⟨data, answered⟩
        split at answered
        case h_1 data verified =>
          have verified := TokenService.uncachedVerifyToken_eq_ok.mp verified
          exact ⟨TokenService.decodeJwtToken_of_verifyToken verified,
            passes ⟨data, verified⟩⟩
        case h_2 => cases answered
      · rintro ⟨⟨claims, decoded⟩, holds⟩
        obtain ⟨rfl, -⟩ := (decode_iff ideal).mp decoded
        obtain ⟨data, verified⟩ :=
          exists_verifyToken_iff.mpr ⟨_, decoded, holds⟩
        rw [TokenService.uncachedVerifyToken_eq_ok.mpr verified]
        exact ⟨data, rfl⟩

theorem accepts_session {browser : BrowserSession} {now : Int}
    (presents : (Call.session browser now).Presents token.compact) :
    (Call.session browser now).Accepts deployment ↔
      (Call.session browser now).Decodes deployment token.compact := by
  have presented : browser.token = some token.compact := presents
  simp only [Call.Accepts, Call.Decodes, getSessionUser, presented]
  cases deployment.tokens.decodeJwtToken token.compact now true <;>
    simp [Except.toOption]

theorem accepts_refresh (ideal : Ideal deployment token) {worker : Nat}
    {call : RefreshCall} {world : World}
    (presents : (Call.refresh worker call world).Presents token.compact) :
    (Call.refresh worker call world).Accepts deployment ↔
      (Call.refresh worker call world).Decodes deployment token.compact ∧
        (Call.refresh worker call world).Passes deployment token.payload := by
  have presented : call.request.token = .ok token.compact := presents
  refine RefreshChain.succeeds_iff.trans ?_
  simp only [Call.Decodes, Call.Passes, RefreshChain.Accepts, Refreshable,
    presented]
  constructor
  · rintro ⟨_, claims, email, iat, time, ⟨⟩, decoded, rest⟩
    obtain ⟨rfl, -⟩ := (decode_iff ideal).mp decoded
    exact ⟨⟨_, decoded⟩, email, iat, time, rest⟩
  · rintro ⟨decodes, email, iat, time, rest⟩
    exact ⟨token.compact, token.payload, email, iat, time, rfl,
      (decode_iff ideal).mpr ⟨rfl, decodes⟩, rest⟩

/-- The answer reports an access token. -/
abbrev saysAccessToken : IntrospectResponse → World → Prop :=
  fun response _ => ∃ clientId payload, response = .accessToken clientId payload

theorem not_gives_introspectRefreshToken {world : World} {presented : PyValue}
    {client : ClientRow} :
    ¬ App.Gives deployment (introspectRefreshToken presented client) world
      saysAccessToken := by
  unfold introspectRefreshToken
  rw [App.gives_bind]
  rintro ⟨found, -, gives⟩
  cases found <;> simp [saysAccessToken] at gives

theorem gives_introspect_accessToken {worker : Nat} {readings : Readings}
    {request : TokenRequest} {world : World} {compact : String}
    {data : List (String × PyValue)} (dataEq : request.data = .ok data)
    (tokenEq : PyValue.get data "token" = .text compact) :
    App.Gives deployment (introspect deployment worker readings request) world
        saysAccessToken ↔
      ∃ claims, deployment.tokens.decodeJwtToken compact (readings.utcNow 0)
          true = .ok claims ∧
        Introspectable deployment worker world request claims := by
  unfold introspect
  rw [App.gives_bind, App.gives_ofExcept]
  simp only [dataEq, Except.ok.injEq, exists_eq_left', tokenEq, Introspectable]
  by_cases isFilled : filled compact = true
  case neg =>
    have empty : (PyValue.text compact).truthy = false := by
      simpa [PyValue.truthy] using isFilled
    rw [empty, Bool.not_false, if_pos rfl, App.gives_pure]
    refine iff_of_false (by simp) ?_
    rintro ⟨claims, decoded, -⟩
    exact isFilled (TokenService.filled_of_decodeJwtToken decoded)
  case pos =>
    have truthy : (PyValue.text compact).truthy = true := isFilled
    rw [truthy, Bool.not_true, if_neg Bool.false_ne_true,
      gives_validateClient (by simp)]
    by_cases hint : (PyValue.get data "token_type_hint").isText
        "refresh_token" = true
    case pos =>
      simp only [hint, if_true]
      refine iff_of_false ?_ (by simp)
      rintro ⟨id, client, -, -, -, gives⟩
      exact not_gives_introspectRefreshToken gives
    case neg =>
      simp only [hint]
      cases decoded : deployment.tokens.decodeJwtToken compact
          (readings.utcNow 0) true with
      | error error =>
          simp only [reduceCtorEq, false_and, exists_false, iff_false]
          rintro ⟨id, client, -, -, -, gives⟩
          exact not_gives_introspectRefreshToken gives
      | ok claims =>
          simp only [Bool.false_eq_true, if_false, Except.ok.injEq,
            exists_eq_left', true_and]
          refine exists_congr fun id => exists_congr fun client =>
            and_congr_right fun _ => and_congr_right fun _ =>
            and_congr_right fun _ => ?_
          refine (gives_introspectAccessToken (by simp)).trans ?_
          simp

theorem accepts_introspect (ideal : Ideal deployment token) {worker : Nat}
    {readings : Readings} {request : TokenRequest} {world : World}
    (presents : (Call.introspect worker readings request world).Presents
      token.compact) :
    (Call.introspect worker readings request world).Accepts deployment ↔
      (Call.introspect worker readings request world).Decodes deployment
          token.compact ∧
        (Call.introspect worker readings request world).Passes deployment
          token.payload := by
  obtain ⟨data, dataEq, tokenEq⟩ := presents
  have gives_iff : (Call.introspect worker readings request world).Accepts
      deployment ↔ App.Gives deployment (introspect deployment worker readings
        request) world saysAccessToken := by
    constructor
    · rintro ⟨clientId, payload, answered⟩
      exact ⟨_, answered, clientId, payload, rfl⟩
    · rintro ⟨_, answered, clientId, payload, rfl⟩
      exact ⟨clientId, payload, answered⟩
  rw [gives_iff, gives_introspect_accessToken dataEq tokenEq]
  constructor
  · rintro ⟨claims, decoded, holds⟩
    obtain ⟨rfl, decodes⟩ := (decode_iff ideal).mp decoded
    exact ⟨decodes, holds⟩
  · rintro ⟨decodes, holds⟩
    exact ⟨token.payload, (decode_iff ideal).mpr ⟨rfl, decodes⟩, holds⟩

theorem accepts_verifyEmail (ideal : Ideal deployment token) {db : Connection}
    {readings : Readings} {presented : String} {world : World}
    (presents : (Call.verifyEmail db readings presented world).Presents
      token.compact) :
    (Call.verifyEmail db readings presented world).Accepts deployment ↔
      (Call.verifyEmail db readings presented world).Decodes deployment
          token.compact ∧
        (Call.verifyEmail db readings presented world).Passes deployment
          token.payload := by
  obtain rfl : presented = token.compact := presents
  have verified : (Call.verifyEmail db readings token.compact world).Accepts
      deployment ↔ ∃ userId, verifiedUser deployment token.compact
        (readings.utcNow 0) = .ok userId := by
    simp only [Call.Accepts, verifyEmail]
    cases verifiedUser deployment token.compact (readings.utcNow 0) with
    | ok userId => exact iff_of_true rfl ⟨userId, rfl⟩
    | error error => exact iff_of_false nofun nofun
  rw [verified]
  simp only [Call.Decodes, Call.Passes, verifiedUser]
  constructor
  · rintro ⟨userId, verified⟩
    split at verified
    case h_1 => cases verified
    case h_2 claims decoded =>
      obtain ⟨decoded, -⟩ := TokenService.decodePurposeToken_eq_ok.mp decoded
      obtain ⟨rfl, decodes⟩ := (decode_iff ideal).mp decoded
      split at verified
      case isTrue => cases verified
      case isFalse purpose =>
        refine ⟨decodes, ?_, by simpa [or_iff_not_imp_left] using purpose⟩
        split at verified
        case h_1 => cases verified
        case h_2 userId userEq => rw [userEq, Option.isSome_some]
  · rintro ⟨decodes, user, purpose⟩
    obtain ⟨userId, userEq⟩ := Option.isSome_iff_exists.mp user
    have decoded : deployment.tokens.decodePurposeToken token.compact
        (readings.utcNow 0) none none none = .ok token.payload :=
      TokenService.decodePurposeToken_eq_ok.mpr
        ⟨(decode_iff ideal).mpr ⟨rfl, decodes⟩, nofun⟩
    refine ⟨userId, ?_⟩
    rw [decoded]
    dsimp only
    rw [if_neg (by simpa [or_iff_not_imp_left] using purpose), userEq]

theorem accepts_invitation (ideal : Ideal deployment token) {presented : String}
    {now : Int}
    (presents : (Call.invitation presented now).Presents token.compact) :
    (Call.invitation presented now).Accepts deployment ↔
      (Call.invitation presented now).Decodes deployment token.compact ∧
        (Call.invitation presented now).Passes deployment token.payload := by
  obtain rfl : presented = token.compact := presents
  have isGiven : given (some "invitation") = true := rfl
  simp only [Call.Accepts, Call.Decodes, Call.Passes, decodeInvitation,
    TokenService.decodePurposeToken]
  cases decoded : deployment.tokens.manager.decodeToken deployment.tokens.jwt
      token.compact { verifyAud := false, verifyExp := true }
      (some deployment.tokens.manager.algorithm)
      (some deployment.tokens.jwtSecret) now with
  | error error => simp
  | ok claims =>
      obtain ⟨key, algorithms, result⟩ :=
        TokenService.decode_of_decodeToken decoded
      obtain rfl := ideal _ _ _ _ _ result
      simp only [isGiven, Bool.true_and]
      by_cases purpose : token.payload.purpose = some "invitation" <;>
        simp [purpose]

theorem accepts_iff (ideal : Ideal deployment token) {call : Call}
    (presents : call.Presents token.compact) :
    call.Accepts deployment ↔
      call.Decodes deployment token.compact ∧
        call.Passes deployment token.payload := by
  cases call with
  | verify => exact accepts_verify ideal presents
  | session =>
      rw [accepts_session presents]
      exact (and_iff_left trivial).symm
  | refresh => exact accepts_refresh ideal presents
  | introspect => exact accepts_introspect ideal presents
  | verifyEmail => exact accepts_verifyEmail ideal presents
  | invitation => exact accepts_invitation ideal presents

end Checks

/-! ## What the kinds carry -/

namespace TokenKind

/-- The `purpose` of a kind. -/
def purpose : TokenKind → Option String
  | .verification => some "email_verify"
  | .invitation => some "invitation"
  | _ => none

/-- Tokens of the kind carry a `user_id`. -/
def namesUser : TokenKind → Bool
  | .access => true
  | .session => true
  | .verification => true
  | _ => false

/-- Tokens of the kind are sent in mails. -/
def isMailed : TokenKind → Bool
  | .verification => true
  | .invitation => true
  | _ => false

end TokenKind

/-- The claims by which a kind can be told. -/
structure Carries (kind : TokenKind) (claims : Claims) : Prop where
  purpose : claims.purpose = kind.purpose
  userId : claims.userId.isSome = kind.namesUser
  email : kind ≠ .identity → claims.email = none
  mailed : kind.isMailed = true →
    claims.sub = none ∧ claims.aud = none ∧ claims.clientId = none

section Kinds

variable {deployment : Deployment} {kind : TokenKind} {token : SignedToken}

/-- The id that is added to a payload leaves what tells its kind. -/
theorem Carries.minted {payload : Claims} {timeNs : Nat}
    (carries : Carries kind payload)
    (minted : deployment.tokens.createJwtToken payload timeNs = .ok token) :
    Carries kind token.payload := by
  obtain ⟨_, -, payloadEq, -⟩ := TokenService.createJwtToken_eq_ok minted
  rw [payloadEq]
  exact ⟨carries.purpose, carries.userId, carries.email, carries.mailed⟩

theorem Minted.carries (minted : Minted deployment kind token) :
    Carries kind token.payload := by
  cases minted with
  | login minted => exact Carries.minted ⟨rfl, rfl, fun _ => rfl, nofun⟩ minted
  | grant minted => exact Carries.minted ⟨rfl, rfl, fun _ => rfl, nofun⟩ minted
  | identity minted =>
      exact Carries.minted ⟨rfl, rfl, fun other => absurd rfl other, nofun⟩ minted
  | session minted => exact Carries.minted ⟨rfl, rfl, fun _ => rfl, nofun⟩ minted
  | clientCredentials minted =>
      exact Carries.minted ⟨rfl, rfl, fun _ => rfl, nofun⟩ minted
  | verification minted =>
      rw [TokenService.payload_of_createVerificationToken minted]
      exact ⟨rfl, rfl, fun _ => rfl, fun _ => ⟨rfl, rfl, rfl⟩⟩
  | invitation minted =>
      rw [TokenService.payload_of_createPurposeToken minted]
      exact ⟨rfl, rfl, fun _ => rfl, fun _ => ⟨rfl, rfl, rfl⟩⟩

/-- The kinds that pass the check of a call they are not for, and which of
their tokens do. -/
def Confusable (deployment : Deployment) (claims : Claims) :
    TokenKind → Call → Prop
  | .identity, .verify ..
  | .session, .verify ..
  | .clientCredentials, .verify .. =>
      given claims.sub = true ∧ given claims.tenantId = true
  | .access, .session ..
  | .identity, .session ..
  | .clientCredentials, .session ..
  | .verification, .session ..
  | .invitation, .session .. => True
  | .identity, .refresh _ call world => Refreshable deployment world call claims
  | .identity, .introspect worker _ request world
  | .session, .introspect worker _ request world =>
      Introspectable deployment worker world request claims
  | .access, .verifyEmail ..
  | .session, .verifyEmail .. => True
  | _, _ => False

variable {claims : Claims}

theorem Carries.not_verify (carries : Carries kind claims)
    (mailed : kind.isMailed = true) : given claims.sub ≠ true := by
  simp [(carries.mailed mailed).1]

theorem Carries.not_refreshable (carries : Carries kind claims)
    (other : kind ≠ .identity) {world : World} {call : RefreshCall} :
    ¬ Refreshable deployment world call claims := by
  rintro ⟨email, iat, time, subject, -⟩
  simp [refreshSubject, carries.email other] at subject

theorem Carries.not_introspectable (carries : Carries kind claims)
    (mailed : kind.isMailed = true) {worker : Nat} {world : World}
    {request : TokenRequest} :
    ¬ Introspectable deployment worker world request claims := by
  rintro ⟨data, -, -, id, client, -, -, -, matching, -⟩
  obtain ⟨-, aud, clientId⟩ := carries.mailed mailed
  simp [clientMatchesToken, aud, clientId] at matching

/-- Claims of a kind pass the check of a call they are not for when they are
confusable. -/
theorem Carries.passes_iff (carries : Carries kind claims) {call : Call}
    (other : ¬ Own kind call) :
    call.Passes deployment claims ↔ Confusable deployment claims kind call := by
  cases call with
  | verify history authorization now =>
      cases kind with
      | access => exact absurd trivial other
      | verification =>
          exact iff_of_false (fun passes => carries.not_verify rfl passes.1) id
      | invitation =>
          exact iff_of_false (fun passes => carries.not_verify rfl passes.1) id
      | _ => exact Iff.rfl
  | session browser now =>
      cases kind with
      | session => exact absurd trivial other
      | _ => exact Iff.rfl
  | refresh worker call world =>
      cases kind with
      | identity => exact Iff.rfl
      | _ => exact iff_of_false (carries.not_refreshable nofun) id
  | introspect worker readings request world =>
      cases kind with
      | access => exact absurd trivial other
      | clientCredentials => exact absurd trivial other
      | verification => exact iff_of_false (carries.not_introspectable rfl) id
      | invitation => exact iff_of_false (carries.not_introspectable rfl) id
      | _ => exact Iff.rfl
  | verifyEmail db readings presented world =>
      have purpose := carries.purpose
      have user := carries.userId
      cases kind with
      | verification => exact absurd trivial other
      | access => exact iff_of_true ⟨user, .inl purpose⟩ trivial
      | session => exact iff_of_true ⟨user, .inl purpose⟩ trivial
      | _ =>
          refine iff_of_false (fun passes => ?_) id
          rw [passes.1] at user
          cases user
  | invitation presented now =>
      have purpose := carries.purpose
      cases kind with
      | invitation => exact absurd trivial other
      | _ =>
          refine iff_of_false (fun passes => ?_) id
          have passes : claims.purpose = some "invitation" := passes
          rw [passes] at purpose
          simp [TokenKind.purpose] at purpose

/-- No call confuses its own kind. -/
theorem not_confusable_of_own {call : Call} (own : Own kind call) :
    ¬ Confusable deployment claims kind call := by
  cases kind <;> cases call <;> first | exact own.elim | exact id

end Kinds

/-! ## The result -/

/-- A token is accepted only by the calls of its kind exactly when it is not
presented, while it decodes, to a call that confuses it. -/
theorem own_of_accepts_iff (deployment : Deployment) (kind : TokenKind)
    (token : SignedToken) (call : Call) (minted : Minted deployment kind token)
    (ideal : Ideal deployment token) (presents : call.Presents token.compact) :
    (call.Accepts deployment → Own kind call) ↔
      ¬ (call.Decodes deployment token.compact ∧
        Confusable deployment token.payload kind call) := by
  have accepts := accepts_iff ideal presents
  by_cases own : Own kind call
  case pos =>
    exact iff_of_true (fun _ => own) fun both => not_confusable_of_own own both.2
  case neg =>
    rw [accepts, minted.carries.passes_iff own]
    exact imp_iff_not own

/-! ## A browser session -/

/-- A user of a tenant. -/
def user : UserRow :=
  ⟨"u", "t", "u@t", "password", "U", "T", none, true, true, 0⟩

/-- The token of a browser session of the user. -/
def sessionToken : SignedToken where
  header := { jti := some "u-0" }
  payload := { buildSessionPayload (.plain []) 0 user "t" "c" with
    jti := some "u-0" }
  compact := "j.u-0"

/-- A deployment whose library knows the token. -/
def withSession : Deployment :=
  .plain [("j.u-0", sessionToken.payload)]

theorem sessionToken_minted : Minted withSession .session sessionToken :=
  @Minted.session withSession 0 0 user "t" "c" sessionToken rfl

theorem sessionToken_ideal : Ideal withSession sessionToken := by
  intro key algorithms options now claims decoded
  have held : [("j.u-0", sessionToken.payload)].lookup sessionToken.compact =
      some sessionToken.payload := rfl
  simp only [withSession, Deployment.plain, JwtLibrary.plain, held] at decoded
  split at decoded
  case isTrue => cases decoded
  case isFalse =>
    split at decoded
    case isTrue => cases decoded
    case isFalse => exact (Except.ok.inj decoded).symm

/-- The browser session decodes where an invitation is asked for, and is not
accepted there as one. -/
theorem session_token_is_no_invitation :
    (Call.invitation "j.u-0" 0).Decodes withSession "j.u-0" ∧
      ((Call.invitation "j.u-0" 0).Accepts withSession →
        Own .session (Call.invitation "j.u-0" 0)) := by
  constructor
  · exact ⟨_, rfl⟩
  · apply (own_of_accepts_iff withSession .session sessionToken
      (.invitation "j.u-0" 0) sessionToken_minted sessionToken_ideal rfl).mpr
    exact fun both => both.2

/-- The browser session is accepted as an access token. -/
theorem session_token_verifies :
    ¬ ∀ kind token call, Minted withSession kind token →
      call.Presents token.compact → call.Accepts withSession →
        Own kind call := by
  intro owns
  exact owns .session sessionToken (.verify [] (some "Bearer j.u-0") 0)
    sessionToken_minted rfl ⟨_, rfl⟩

end TokenKinds

end HexIam
