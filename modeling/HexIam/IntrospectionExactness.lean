import HexIam.CachedVerification
import HexIam.GrantHistory

/-!
# What `introspect` reports

`introspect` decodes a token as a JWT and, when that fails, looks it up as a
refresh token; a hint of `refresh_token` skips the first step.  It reports any
JWT of the service whose audience is the client, whichever function has signed
it.  This file computes the answer and says when it is the right one.
-/

namespace HexIam

open StatementTree CallPool GuardedRun GrantHistory
open ClientAuthentication (Verifies gives_introspectRefreshToken
  gives_validateClient)
open TokenCalls (TokenCall TokenPool)

namespace IntrospectionExactness

variable (deployment : Deployment) (history : TokenPool) (world : World)
variable (worker : Nat) (call : TokenCall) (client : ClientRow) (token : String)

/-! ## Requests -/

/-- The request asks an active client's question about a string, and a secret
that it presents verifies. -/
def Asks : Prop :=
  ∃ data clientId, call.request.data = .ok data ∧
    PyValue.get data "token" = .text token ∧
    (extractClientCredentials deployment call.request.authorization data).1 =
      .text clientId ∧
    world.activeClient clientId = some client ∧
    ((extractClientCredentials deployment call.request.authorization
        data).2.truthy = true →
      Verifies deployment client (extractClientCredentials deployment
        call.request.authorization data).2)

/-- What the request is answered. -/
def answer : Except Exn IntrospectResponse :=
  (App.run deployment
    (introspect deployment worker call.readings call.request) world).1

/-- The fields of a body without the hint. -/
def withoutHint (fields : List (String × PyValue)) : List (String × PyValue) :=
  fields.filter fun field => field.1 ≠ "token_type_hint"

/-- The same request without a hint. -/
def unhinted : TokenCall :=
  { call with request := { call.request with
      form := withoutHint call.request.form
      json := call.request.json.map fun body =>
        match body with
        | .dict fields => .dict (withoutHint fields)
        | other => other } }

/-- The request says that the token is a refresh token. -/
def Hinted : Prop :=
  (call.field "token_type_hint").isText "refresh_token" = true

/-! ## The property -/

/-- `token_endpoint` has answered a request of the client with this access
token. -/
def IssuedTo (clientId : String) (payload : Claims) : Prop :=
  ∃ request data, Answered history request data ∧
    Names deployment request clientId ∧
    data.accessToken.compact = token ∧ data.accessToken.payload = payload

/-- The claims have not expired when the request reads the clock. -/
def Unexpired (payload : Claims) : Prop :=
  ∀ exp ∈ payload.exp, call.readings.utcNow 0 < exp

/-- The id of the claims is in the bloom filter of the worker. -/
def IsRevoked (payload : Claims) : Prop :=
  given payload.jti = true ∧ payload.jti.getD "" ∈ world.bloom worker

/-- The token is an access token of the client that is validly signed, unexpired
and not revoked. -/
def LiveAccessToken : Prop :=
  ∃ payload, IssuedTo deployment history token client.id payload ∧
    deployment.tokens.decodeJwtToken token (call.readings.utcNow 0) false =
      .ok payload ∧
    Unexpired call payload ∧ ¬ IsRevoked world worker payload

/-- The token is a refresh token of the client that is unrevoked and
unexpired. -/
def LiveRefreshToken : Prop :=
  ∃ row ∈ world.refreshTokens, row.jti = token ∧ row.clientId = client.id ∧
    row.revoked = false ∧ world.now < row.expiresAt

/-- The answer is exact: active for the live tokens of the client alone, the
same without the hint, and never an expired JWT or one of another client. -/
structure Exact : Prop where
  active : (∃ response, answer deployment world worker call = .ok response ∧
      response.active = true) ↔
    LiveAccessToken deployment history world worker call client token ∨
      LiveRefreshToken world client token
  hint : answer deployment world worker call =
    answer deployment world worker (unhinted call)
  own : ∀ clientId payload,
    answer deployment world worker call = .ok (.accessToken clientId payload) →
      Unexpired call payload ∧ clientMatchesToken payload client.id = true

/-! ## The condition -/

/-- The claims pass the checks of the endpoint. -/
def Passes (payload : Claims) : Prop :=
  clientMatchesToken payload client.id = true ∧ ¬ IsRevoked world worker payload

/-- The token verifies as a JWT with these claims. -/
def DecodesTo (payload : Claims) : Prop :=
  deployment.tokens.decodeJwtToken token (call.readings.utcNow 0) true =
    .ok payload

/-- A live refresh token is not empty and not a JWT that fails the checks; a
JWT that passes them is an access token of the client, and comes without the
hint. -/
structure Ordinary : Prop where
  nonempty : LiveRefreshToken world client token → token ≠ ""
  unshadowed : ∀ payload, DecodesTo deployment call token payload →
    LiveRefreshToken world client token → Passes world worker client payload
  unhinted : ∀ payload, DecodesTo deployment call token payload →
    Passes world worker client payload → ¬ Hinted call
  issued : ∀ payload, DecodesTo deployment call token payload →
    Passes world worker client payload →
      IssuedTo deployment history token client.id payload ∨
        LiveRefreshToken world client token

/-! ## The answer -/

instance (payload : Claims) : Decidable (IsRevoked world worker payload) :=
  inferInstanceAs (Decidable (_ ∧ _))

instance (payload : Claims) : Decidable (Passes world worker client payload) :=
  inferInstanceAs (Decidable (_ ∧ _))

instance : Decidable (Hinted call) :=
  inferInstanceAs (Decidable (_ = true))

/-- The answer about a refresh token. -/
def refreshVerdict : IntrospectResponse :=
  match world.liveRefreshToken token client.id with
  | none => .inactive
  | some row => .refreshToken row

/-- The answer about verified claims. -/
def accessVerdict (payload : Claims) : IntrospectResponse :=
  if Passes world worker client payload then .accessToken client.id payload
  else .inactive

/-- The answer to a request that asks about the token. -/
def verdict : IntrospectResponse :=
  if filled token = false then
    .failure 400 "invalid_request" "Missing token"
  else if Hinted call then
    refreshVerdict world client token
  else
    match deployment.tokens.decodeJwtToken token (call.readings.utcNow 0) true with
    | .error _ => refreshVerdict world client token
    | .ok payload => accessVerdict world worker client payload

variable {deployment} {history} {world} {worker} {call} {client} {token}

section Answers

variable {post : IntrospectResponse → World → Prop}

theorem gives_refreshVerdict (isFilled : filled token = true) :
    App.Gives deployment (introspectRefreshToken (.text token) client) world post ↔
      post (refreshVerdict world client token) world := by
  have truthy : (PyValue.text token).truthy = true := isFilled
  refine (gives_introspectRefreshToken truthy).trans ?_
  cases live : world.liveRefreshToken token client.id <;>
    simp [refreshVerdict, isFilled, live]

theorem gives_accessVerdict {payload : Claims} :
    App.Gives deployment (do
        if !clientMatchesToken payload client.id then
          return .inactive
        else if ← tokenIsRevoked worker payload.jti then
          return .inactive
        else
          return .accessToken client.id payload) world post ↔
      post (accessVerdict world worker client payload) world := by
  unfold tokenIsRevoked isRevoked accessVerdict
  by_cases matching : clientMatchesToken payload client.id = true
  · simp only [Passes, IsRevoked, matching, Bool.not_true, Bool.false_eq_true,
      if_false, true_and]
    rw [App.gives_bind]
    by_cases hasJti : given payload.jti = true
    · simp only [hasJti, if_true, true_and]
      rw [App.gives_bloomHas]
      by_cases revoked : payload.jti.getD "" ∈ world.bloom worker <;>
        simp [revoked]
    · simp [hasJti]
  · simp [Passes, matching]

end Answers

theorem refreshVerdict_ne_failure {status : Nat} {error description : String} :
    refreshVerdict world client token ≠ .failure status error description := by
  unfold refreshVerdict
  split <;> nofun

theorem verdict_ne_failure {status : Nat} {error description : String}
    (isFilled : filled token = true) :
    verdict deployment world worker call client token ≠
      .failure status error description := by
  unfold verdict accessVerdict
  rw [isFilled, if_neg (by decide)]
  split
  · exact refreshVerdict_ne_failure
  · split
    · exact refreshVerdict_ne_failure
    · split <;> nofun

theorem answer_eq_verdict (asks : Asks deployment world call client token) :
    answer deployment world worker call =
      .ok (verdict deployment world worker call client token) := by
  obtain ⟨data, clientId, dataEq, tokenEq, named, active, verifies⟩ := asks
  have hintEq : Hinted call ↔
      (PyValue.get data "token_type_hint").isText "refresh_token" = true := by
    unfold Hinted
    rw [field_eq_get dataEq]
  have gives : App.Gives deployment
      (introspect deployment worker call.readings call.request) world
      fun response _ =>
        response = verdict deployment world worker call client token := by
    unfold introspect
    rw [App.gives_bind, App.gives_ofExcept]
    refine ⟨data, dataEq, ?_⟩
    dsimp only
    rw [tokenEq, PyValue.truthy_text]
    by_cases isFilled : filled token = true
    · have notFailure {status : Nat} {error description : String} :=
        @verdict_ne_failure deployment world worker call client token status error
          description isFilled
      rw [isFilled, if_neg (by decide)]
      rw [gives_validateClient (by simp [notFailure.symm])]
      refine ⟨clientId, client, named, active, verifies, ?_⟩
      unfold verdict
      rw [isFilled, if_neg (by decide)]
      by_cases hinted : Hinted call
      · rw [if_pos hinted]
        dsimp only
        rw [if_pos (hintEq.mp hinted)]
        exact (gives_refreshVerdict isFilled).mpr rfl
      · rw [if_neg hinted]
        dsimp only
        rw [if_neg (mt hintEq.mpr hinted)]
        cases decoded : deployment.tokens.decodeJwtToken token
            (call.readings.utcNow 0) true with
        | error error => exact (gives_refreshVerdict isFilled).mpr rfl
        | ok payload => exact gives_accessVerdict.mpr rfl
    · rw [Bool.not_eq_true] at isFilled
      simp [verdict, isFilled]
  obtain ⟨response, ran, rfl⟩ := gives
  exact ran

/-! ### Without the hint -/

section Unhinted

variable {fields data : List (String × PyValue)}

theorem get_withoutHint {name : String} (other : name ≠ "token_type_hint") :
    PyValue.get (withoutHint fields) name = PyValue.get fields name := by
  unfold PyValue.get withoutHint
  rw [List.find?_filter]
  congr 3
  funext field
  by_cases same : field.1 = name
  · simp [same, other]
  · simp [same]

theorem get_hint_withoutHint :
    PyValue.get (withoutHint fields) "token_type_hint" = .none := by
  have absent : (withoutHint fields).find?
      (fun field => field.1 = "token_type_hint") = none := by
    simp [withoutHint]
  rw [PyValue.get, absent]
  rfl

theorem data_unhinted (dataEq : call.request.data = .ok data) :
    (unhinted call).request.data = .ok (withoutHint data) := by
  unfold TokenRequest.data at dataEq
  unfold TokenRequest.data unhinted
  dsimp only
  split at dataEq
  case isTrue isForm =>
    cases dataEq
    rw [if_pos isForm]
  case isFalse isJson =>
    rw [if_neg isJson]
    split at dataEq
    · cases dataEq
    · rename_i found jsonEq
      cases dataEq
      rw [jsonEq, Option.map_some]
    · cases dataEq

theorem asks_unhinted (asks : Asks deployment world call client token) :
    Asks deployment world (unhinted call) client token := by
  obtain ⟨data, clientId, dataEq, tokenEq, named, active, verifies⟩ := asks
  have sameCredentials :
      extractClientCredentials deployment (unhinted call).request.authorization
          (withoutHint data) =
        extractClientCredentials deployment call.request.authorization data := by
    unfold extractClientCredentials
    rw [get_withoutHint (by decide), get_withoutHint (by decide)]
    rfl
  refine ⟨withoutHint data, clientId, data_unhinted dataEq, ?_, ?_, active, ?_⟩
  · rw [get_withoutHint (by decide), tokenEq]
  · rw [sameCredentials, named]
  · rwa [sameCredentials]

theorem not_hinted_unhinted (asks : Asks deployment world call client token) :
    ¬ Hinted (unhinted call) := by
  obtain ⟨data, -, dataEq, -⟩ := asks
  unfold Hinted
  rw [field_eq_get (data_unhinted dataEq), get_hint_withoutHint]
  decide

end Unhinted

/-! ## Live tokens -/

section Live

theorem liveRefreshToken_iff :
    LiveRefreshToken world client token ↔
      ∃ row, world.liveRefreshToken token client.id = some row := by
  unfold LiveRefreshToken World.liveRefreshToken
  simp only [Option.filter_eq_some_iff, KeyedTable.lookup_eq_some,
    Bool.and_eq_true, decide_eq_true_eq, Bool.not_eq_true']
  refine exists_congr fun row => ?_
  tauto

theorem refreshVerdict_active :
    (refreshVerdict world client token).active = true ↔
      LiveRefreshToken world client token := by
  rw [liveRefreshToken_iff]
  unfold refreshVerdict
  cases world.liveRefreshToken token client.id <;>
    simp [IntrospectResponse.active]

theorem refreshVerdict_of_not_live
    (dead : ¬ LiveRefreshToken world client token) :
    refreshVerdict world client token = .inactive := by
  unfold refreshVerdict
  cases found : world.liveRefreshToken token client.id with
  | none => rfl
  | some row => exact absurd (liveRefreshToken_iff.mpr ⟨row, found⟩) dead

theorem accessVerdict_active {payload : Claims} :
    (accessVerdict world worker client payload).active = true ↔
      Passes world worker client payload := by
  unfold accessVerdict
  split
  case isTrue passes => exact iff_of_true rfl passes
  case isFalse fails => exact iff_of_false (by simp [IntrospectResponse.active]) fails

theorem refreshVerdict_ne_access {clientId : String} {payload : Claims} :
    refreshVerdict world client token ≠ .accessToken clientId payload := by
  unfold refreshVerdict
  split <;> nofun

theorem decodesTo_unique {first second : Claims}
    (decodesFirst : DecodesTo deployment call token first)
    (decodesSecond : DecodesTo deployment call token second) : first = second :=
  Except.ok.inj (decodesFirst.symm.trans decodesSecond)

theorem names_unique {request : TokenCall} {first second : String}
    (namesFirst : Names deployment request first)
    (namesSecond : Names deployment request second) : first = second := by
  obtain ⟨data, dataEq, firstEq⟩ := namesFirst
  obtain ⟨other, otherEq, secondEq⟩ := namesSecond
  cases Except.ok.inj (dataEq.symm.trans otherEq)
  exact PyValue.text.inj (firstEq.symm.trans secondEq)

theorem matches_of_issuedTo (kept : Kept deployment history) {payload : Claims}
    (issued : IssuedTo deployment history token client.id payload) :
    clientMatchesToken payload client.id = true := by
  obtain ⟨request, data, answered, names, -, rfl⟩ := issued
  obtain ⟨⟨clientId, named, audEq⟩, -⟩ := kept.source answered
  cases names_unique named names
  simp [clientMatchesToken, audEq]

theorem liveAccessToken_iff (lawful : deployment.tokens.jwt.ChecksExpiry)
    (kept : Kept deployment history) :
    LiveAccessToken deployment history world worker call client token ↔
      ∃ payload, DecodesTo deployment call token payload ∧
        Passes world worker client payload ∧
        IssuedTo deployment history token client.id payload := by
  unfold LiveAccessToken DecodesTo
  refine exists_congr fun payload => ?_
  rw [CachedVerification.decodeJwtToken_expiry lawful]
  constructor
  · rintro ⟨issued, signed, unexpired, valid⟩
    exact ⟨⟨signed, unexpired⟩, ⟨matches_of_issuedTo kept issued, valid⟩, issued⟩
  · rintro ⟨⟨signed, unexpired⟩, ⟨-, valid⟩, issued⟩
    exact ⟨issued, signed, unexpired, valid⟩

end Live

/-! ## The verdict by cases -/

section Verdicts

variable (isFilled : filled token = true)
include isFilled

theorem verdict_of_hinted (hinted : Hinted call) :
    verdict deployment world worker call client token =
      refreshVerdict world client token := by
  unfold verdict
  rw [isFilled, if_neg (by decide), if_pos hinted]

theorem verdict_of_decodesTo (notHinted : ¬ Hinted call) {payload : Claims}
    (decodes : DecodesTo deployment call token payload) :
    verdict deployment world worker call client token =
      accessVerdict world worker client payload := by
  unfold DecodesTo at decodes
  unfold verdict
  rw [isFilled, if_neg (by decide), if_neg notHinted, decodes]

theorem verdict_of_no_claims
    (none : ∀ payload, ¬ DecodesTo deployment call token payload) :
    verdict deployment world worker call client token =
      refreshVerdict world client token := by
  unfold verdict
  rw [isFilled, if_neg (by decide)]
  cases decoded : deployment.tokens.decodeJwtToken token
      (call.readings.utcNow 0) true with
  | error error => exact ite_self _
  | ok payload => exact absurd decoded (none payload)

end Verdicts

theorem reported_iff (asks : Asks deployment world call client token) :
    (∃ response, answer deployment world worker call = .ok response ∧
        response.active = true) ↔
      (verdict deployment world worker call client token).active = true := by
  rw [answer_eq_verdict asks]
  simp

theorem same_iff (asks : Asks deployment world call client token) :
    answer deployment world worker call =
        answer deployment world worker (unhinted call) ↔
      verdict deployment world worker call client token =
        verdict deployment world worker (unhinted call) client token := by
  rw [answer_eq_verdict asks, answer_eq_verdict (asks_unhinted asks)]
  exact ⟨Except.ok.inj, congrArg Except.ok⟩

theorem own_of_reported (lawful : deployment.tokens.jwt.ChecksExpiry)
    (asks : Asks deployment world call client token) {clientId : String}
    {payload : Claims}
    (reported : answer deployment world worker call =
      .ok (.accessToken clientId payload)) :
    Unexpired call payload ∧ clientMatchesToken payload client.id = true := by
  rw [answer_eq_verdict asks] at reported
  have isVerdict := Except.ok.inj reported
  unfold verdict at isVerdict
  split at isVerdict
  · cases isVerdict
  · split at isVerdict
    · exact absurd isVerdict refreshVerdict_ne_access
    · split at isVerdict
      case h_1 => exact absurd isVerdict refreshVerdict_ne_access
      case h_2 found decoded =>
        unfold accessVerdict at isVerdict
        split at isVerdict
        case isFalse => cases isVerdict
        case isTrue passes =>
          cases isVerdict
          obtain ⟨-, unexpired⟩ :=
            (CachedVerification.decodeJwtToken_expiry lawful).mp decoded
          exact ⟨unexpired, passes.1⟩

/-! ## The result -/

section Result

variable (asks : Asks deployment world call client token)
include asks

theorem ordinary_of_exact (lawful : deployment.tokens.jwt.ChecksExpiry)
    (kept : Kept deployment history)
    (exactly : Exact deployment history world worker call client token) :
    Ordinary deployment history world worker call client token := by
  have activeIff := (reported_iff asks).symm.trans exactly.active
  have sameVerdict := (same_iff asks).mp exactly.hint
  -- A hint hides the JWT, unless both answers are that nothing is active.
  have hidden {payload : Claims} (hinted : Hinted call)
      (decodes : DecodesTo deployment call token payload) :
      refreshVerdict world client token =
        accessVerdict world worker client payload := by
    have isFilled := TokenService.filled_of_decodeJwtToken decodes
    rwa [verdict_of_hinted isFilled hinted,
      verdict_of_decodesTo isFilled (not_hinted_unhinted asks) decodes]
      at sameVerdict
  have notHinted {payload : Claims}
      (decodes : DecodesTo deployment call token payload)
      (passes : Passes world worker client payload) : ¬ Hinted call := by
    intro hinted
    have same := hidden hinted decodes
    rw [accessVerdict, if_pos passes] at same
    exact refreshVerdict_ne_access same
  refine ⟨?_, ?_, fun payload => notHinted, ?_⟩
  · rintro live rfl
    cases activeIff.mpr (.inr live)
  · intro payload decodes live
    by_cases hinted : Hinted call
    · have active := refreshVerdict_active.mpr live
      rw [hidden hinted decodes] at active
      exact accessVerdict_active.mp active
    · have isFilled := TokenService.filled_of_decodeJwtToken decodes
      have active := activeIff.mpr (.inr live)
      rw [verdict_of_decodesTo isFilled hinted decodes] at active
      exact accessVerdict_active.mp active
  · intro payload decodes passes
    have isFilled := TokenService.filled_of_decodeJwtToken decodes
    have isVerdict := @verdict_of_decodesTo deployment world worker call client
      token isFilled (notHinted decodes passes) payload decodes
    have active := accessVerdict_active.mpr passes
    rw [← isVerdict] at active
    rcases activeIff.mp active with live | live
    · obtain ⟨other, decodesOther, -, issued⟩ :=
        (liveAccessToken_iff lawful kept).mp live
      exact .inl (decodesTo_unique decodes decodesOther ▸ issued)
    · exact .inr live

theorem exact_of_ordinary (lawful : deployment.tokens.jwt.ChecksExpiry)
    (kept : Kept deployment history)
    (ordinary : Ordinary deployment history world worker call client token) :
    Exact deployment history world worker call client token := by
  have liveAccess := @liveAccessToken_iff deployment history world worker call
    client token lawful kept
  refine ⟨?_, ?_, fun clientId payload => own_of_reported lawful asks⟩
  · rw [reported_iff asks]
    by_cases isFilled : filled token = true
    case neg =>
      have isEmpty : token = "" := by simpa [filled] using isFilled
      refine iff_of_false ?_ ?_
      · simp [verdict, isFilled, IntrospectResponse.active]
      · rintro (live | live)
        · obtain ⟨payload, decodes, -⟩ := liveAccess.mp live
          exact isFilled (TokenService.filled_of_decodeJwtToken decodes)
        · exact ordinary.nonempty live isEmpty
    by_cases decodes : ∃ payload, DecodesTo deployment call token payload
    case neg =>
      have none (payload : Claims) : ¬ DecodesTo deployment call token payload :=
        fun decoded => decodes ⟨payload, decoded⟩
      rw [verdict_of_no_claims isFilled none, refreshVerdict_active]
      refine ⟨.inr, fun live => live.resolve_left fun access => ?_⟩
      obtain ⟨payload, decoded, -⟩ := liveAccess.mp access
      exact none payload decoded
    obtain ⟨payload, decodes⟩ := decodes
    -- Either kind of live token passes the checks on its claims.
    have passes_of_live : LiveAccessToken deployment history world worker call
        client token ∨ LiveRefreshToken world client token →
        Passes world worker client payload := by
      rintro (live | live)
      · obtain ⟨other, decodesOther, passes, -⟩ := liveAccess.mp live
        exact decodesTo_unique decodes decodesOther ▸ passes
      · exact ordinary.unshadowed payload decodes live
    by_cases hinted : Hinted call
    · rw [verdict_of_hinted isFilled hinted, refreshVerdict_active]
      refine ⟨.inr, fun live => ?_⟩
      exact absurd hinted
        (ordinary.unhinted payload decodes (passes_of_live live))
    · rw [verdict_of_decodesTo isFilled hinted decodes, accessVerdict_active]
      refine ⟨fun passes => ?_, passes_of_live⟩
      refine (ordinary.issued payload decodes passes).imp_left fun issued => ?_
      exact liveAccess.mpr ⟨payload, decodes, passes, issued⟩
  · rw [same_iff asks]
    have notHinted := not_hinted_unhinted asks
    by_cases isFilled : filled token = true
    case neg => simp [verdict, isFilled]
    by_cases decodes : ∃ payload, DecodesTo deployment call token payload
    case neg =>
      have none (payload : Claims) : ¬ DecodesTo deployment call token payload :=
        fun decoded => decodes ⟨payload, decoded⟩
      have noneUnhinted (payload : Claims) :
          ¬ DecodesTo deployment (unhinted call) token payload := none payload
      rw [verdict_of_no_claims isFilled none,
        verdict_of_no_claims isFilled noneUnhinted]
    obtain ⟨payload, decodes⟩ := decodes
    rw [verdict_of_decodesTo isFilled notHinted decodes]
    by_cases hinted : Hinted call
    · have fails : ¬ Passes world worker client payload :=
        fun passes => ordinary.unhinted payload decodes passes hinted
      have dead : ¬ LiveRefreshToken world client token :=
        fun live => fails (ordinary.unshadowed payload decodes live)
      rw [verdict_of_hinted isFilled hinted, refreshVerdict_of_not_live dead,
        accessVerdict, if_neg fails]
    · exact verdict_of_decodesTo isFilled hinted decodes

end Result

/-- After every run of token requests, and whatever the tables and the bloom
filters hold, `introspect` answers a client exactly when the token is
ordinary. -/
theorem exact_iff_ordinary (lawful : deployment.tokens.jwt.ChecksExpiry)
    {start : World} {events : List GrantEvent}
    (runs : exec (step (system deployment)) (.init start) events = some history)
    (asks : Asks deployment world call client token) :
    Exact deployment history world worker call client token ↔
      Ordinary deployment history world worker call client token :=
  have kept := kept_of_run runs
  ⟨ordinary_of_exact asks lawful kept, exact_of_ordinary asks lawful kept⟩

/-! ## An access token with and without the hint -/

open RefreshRotation (oneGrant tokenCall)

/-- The claims of the access token that the client gets for its code. -/
def codeClaims : Claims where
  sub := some "u@t"
  iss := some "https://hexalgon.com/t"
  userId := some "u"
  tenantId := some "t"
  aud := some (.one "c")
  scope := some "profile"
  policy := some []
  exp := some 3600
  iat := some 0
  jti := some "u-0"

/-- A deployment in which that token verifies. -/
def verifying : Deployment :=
  .plain [("j.u-0", codeClaims)]

/-- The client redeems its code. -/
def redeems : List GrantEvent :=
  [.start 0 (tokenCall "0" [("grant_type", .text "authorization_code"),
      ("code", .text "code"), ("redirect_uri", .text "https://app/cb")]),
    .advance 0, .advance 0, .advance 0, .advance 0, .advance 0, .advance 0]

def theClient : ClientRow :=
  ⟨"c", "t", "secret", "App", ["https://app/cb"], ["profile"], true⟩

/-- The client asks about its access token. -/
def lookUp (hint : List (String × PyValue)) : TokenCall :=
  tokenCall "" ([("token", .text "j.u-0")] ++ hint)

theorem issued_to_client :
    ∃ pool, exec (step (system verifying)) (.init oneGrant) redeems = some pool ∧
      IssuedTo verifying pool "j.u-0" theClient.id codeClaims :=
  ⟨_, rfl, _, _, ⟨0, _, rfl, rfl, rfl⟩, ⟨_, rfl, rfl⟩, rfl, rfl⟩

/-- With the hint of a refresh token, the live access token is not active. -/
theorem hinted_token_inactive :
    ∃ pool, exec (step (system verifying)) (.init oneGrant) redeems = some pool ∧
      Asks verifying oneGrant
        (lookUp [("token_type_hint", .text "refresh_token")]) theClient "j.u-0" ∧
      ¬ Exact verifying pool oneGrant 0
        (lookUp [("token_type_hint", .text "refresh_token")]) theClient
        "j.u-0" := by
  obtain ⟨pool, runs, issued⟩ := issued_to_client
  refine ⟨pool, runs, ⟨_, _, rfl, rfl, rfl, rfl, fun _ => rfl⟩, ?_⟩
  intro exactly
  have live : LiveAccessToken verifying pool oneGrant 0
      (lookUp [("token_type_hint", .text "refresh_token")]) theClient "j.u-0" := by
    refine ⟨codeClaims, issued, rfl, ?_, by decide⟩
    rintro exp ⟨⟩
    decide
  obtain ⟨response, answered, active⟩ := exactly.active.mpr (.inl live)
  have inactive : answer verifying oneGrant 0
      (lookUp [("token_type_hint", .text "refresh_token")]) = .ok .inactive := rfl
  cases answered.symm.trans inactive
  cases active

/-- Without the hint its answer is exact. -/
theorem unhinted_token_exact :
    ∃ pool, exec (step (system verifying)) (.init oneGrant) redeems = some pool ∧
      Exact verifying pool oneGrant 0 (lookUp []) theClient "j.u-0" := by
  obtain ⟨pool, runs, issued⟩ := issued_to_client
  have asks : Asks verifying oneGrant (lookUp []) theClient "j.u-0" :=
    ⟨_, _, rfl, rfl, rfl, rfl, fun _ => rfl⟩
  have dead : ¬ LiveRefreshToken oneGrant theClient "j.u-0" := by
    rintro ⟨row, rowMem, -⟩
    cases rowMem
  refine ⟨pool, runs, (exact_iff_ordinary
    (CachedVerification.plain_checksExpiry _) runs asks).mpr ⟨?_, ?_, ?_, ?_⟩⟩
  · exact fun live => absurd live dead
  · exact fun _ _ live => absurd live dead
  · exact fun _ _ _ => by decide
  · intro payload decodes _
    cases decodes.symm.trans (rfl : _ = Except.ok codeClaims)
    exact .inl issued

end IntrospectionExactness

end HexIam
