import HexIam.Middleware

/-!
# Where a revoked token is refused

On a path that `middle_ware` checks, the piece of the `Authorization` header it
looks up is the token the handler accepts, so a revoked token is no identity
there.  On an exempt path nothing is looked up: `authorize`, `consent_submit`
and `userinfo` are always exempt, and so is every route whose last parameter is
the text `token`.
-/

namespace HexIam

namespace RevocationEnforcement

open HttpWorker TokenService

variable {service : TokenService}

/-! ## The routes -/

/-- The paths of `authorize`, `consent_submit` and `userinfo` start with public
prefixes. -/
theorem reads_public_prefix : ∀ route ∈ routes,
    route.reader = .anonymous ∨ route.reader = .verifyAndReturnJwtPayload ∨
      ∃ front ∈ publicPrefixes,
        front.toList.map .literal <+: route.template := by
  decide +kernel

/-- No path of a handler that calls `verify_and_return_jwt_payload` is public
or starts with a public prefix. -/
theorem bearer_not_public : ∀ route ∈ routes,
    route.reader = .verifyAndReturnJwtPayload →
      (∀ path ∈ publicPaths, route.matchesPath path = false) ∧
      ∀ front ∈ publicPrefixes,
        PathTemplate.mayStart route.template front.toList = false := by
  decide +kernel

variable {request : HttpRequest} {route : Route}

theorem startsWith_iff {text front : String} :
    startsWith text front = true ↔ front.toList <+: text.toList :=
  List.isPrefixOf_iff_prefix

theorem route_eq_some (routed : request.route = some route) :
    route ∈ routes ∧ route.matchesPath request.path = true := by
  have found := List.find?_some routed
  simp only [Bool.and_eq_true, decide_eq_true_eq] at found
  exact ⟨List.mem_of_find?_eq_some routed, found.2⟩

theorem startsWith_of_matchesPath {path front : String}
    (matched : route.matchesPath path = true)
    (isFront : front.toList.map .literal <+: route.template) :
    startsWith path front = true := by
  rw [startsWith_iff]
  simp only [Route.matchesPath, Bool.or_eq_true, Bool.and_eq_true] at matched
  rcases matched with accepted | ⟨-, accepted⟩
  · exact PathTemplate.prefix_of_accepts accepted isFront
  · exact (PathTemplate.prefix_of_accepts accepted isFront).trans
      (List.dropLast_prefix _)

theorem reader_of_checked (checked : isExempt request.path = false)
    (routed : request.route = some route) :
    route.reader = .anonymous ∨ route.reader = .verifyAndReturnJwtPayload := by
  obtain ⟨routeMem, matched⟩ := route_eq_some routed
  rcases reads_public_prefix route routeMem with
    anonymous | bearer | ⟨front, frontMem, isFront⟩
  · exact .inl anonymous
  · exact .inr bearer
  · have starts := startsWith_of_matchesPath matched isFront
    have exempt : isExempt request.path = true := by
      simp only [isExempt, Bool.or_eq_true, List.any_eq_true]
      exact .inl (.inr ⟨front, frontMem, starts⟩)
    rw [checked] at exempt
    cases exempt

/-- A final line feed is no part of a front without one. -/
theorem prefix_dropLast {front path : List Char} (isFront : front <+: path)
    (last : path.getLast? = some '\n') (noFeed : '\n' ∉ front) :
    front <+: path.dropLast := by
  obtain ⟨before, rfl⟩ := List.getLast?_eq_some_iff.mp last
  rw [List.dropLast_concat]
  rcases List.prefix_concat_iff.mp isFront with rfl | ahead
  · simp at noFeed
  · exact ahead

theorem publicPrefixes_no_feed : ∀ front ∈ publicPrefixes,
    '\n' ∉ front.toList := by
  decide +kernel

/-- An exempt path of a handler that calls `verify_and_return_jwt_payload` ends
in `/token`. -/
theorem endsWith_token_of_exempt (exempt : isExempt request.path = true)
    (routed : request.route = some route)
    (reads : route.reader = .verifyAndReturnJwtPayload) :
    endsWith request.path "/token" = true := by
  obtain ⟨routeMem, matched⟩ := route_eq_some routed
  obtain ⟨notPath, notPrefix⟩ := bearer_not_public route routeMem reads
  simp only [isExempt, Bool.or_eq_true, List.any_eq_true, decide_eq_true_eq]
    at exempt
  rcases exempt with (isPath | ⟨front, frontMem, starts⟩) | ends
  · rw [notPath _ isPath] at matched
    cases matched
  · exfalso
    have may : PathTemplate.mayStart route.template front.toList = true := by
      have isFront := startsWith_iff.mp starts
      simp only [Route.matchesPath, Bool.or_eq_true, Bool.and_eq_true,
        decide_eq_true_eq] at matched
      rcases matched with accepted | ⟨last, accepted⟩
      · exact PathTemplate.mayStart_of_accepts accepted isFront
      · exact PathTemplate.mayStart_of_accepts accepted
          (prefix_dropLast isFront last (publicPrefixes_no_feed _ frontMem))
    rw [notPrefix _ frontMem] at may
    cases may
  · exact ends

/-! ## The token that is checked -/

theorem middleWare_eq_none {jwt : JwtLibrary} {bloom : List String}
    (checked : isExempt request.path = false)
    (passed : middleWare jwt bloom request = none) :
    let header := request.session.authorization.getD ""
    startsWith header "Bearer " = true ∧
      ∃ found, jwt.unverifiedHeader (lastPiece header) = .ok found ∧
        ∀ jti, found.jti = some jti → jti ∉ bloom := by
  simp only [middleWare, checked, Bool.false_eq_true, if_false] at passed
  split at passed
  · cases passed
  case isFalse isBearer =>
    split at passed
    · cases passed
    · split at passed
      case h_1 => split at passed <;> cases passed
      case h_2 found headerEq =>
        split at passed
        · cases passed
        · split at passed
          · cases passed
          case isFalse live =>
            simp only [Bool.or_eq_true, Bool.not_eq_true', not_or,
              Bool.not_eq_false] at isBearer
            refine ⟨isBearer.2, found, headerEq, ?_⟩
            rintro jti jtiEq
            rwa [jtiEq] at live

theorem getLast_splitOn_of_not_mem {separator : Char} {chars : List Char}
    (absent : separator ∉ chars) :
    (chars.splitOn separator).getLast? = some chars := by
  rw [List.splitOn_eq_singleton absent]
  rfl

theorem exists_last_occurrence {char : Char} {chars : List Char}
    (present : char ∈ chars) :
    ∃ front back, chars = front ++ char :: back ∧ char ∉ back := by
  obtain ⟨back, front, reverseEq, absent⟩ :=
    List.eq_append_cons_of_mem (List.mem_reverse.mpr present)
  refine ⟨front.reverse, back.reverse, ?_, by simpa using absent⟩
  have charsEq := congrArg List.reverse reverseEq
  simpa using charsEq

theorem lastPiece_of_not_mem {text : String} (absent : ' ' ∉ text.toList) :
    lastPiece text = text := by
  simp [lastPiece, split, getLast_splitOn_of_not_mem absent]

theorem lastPiece_of_append {text : String} {front back : List Char}
    (charsEq : text.toList = front ++ ' ' :: back) :
    lastPiece text = lastPiece (String.ofList back) := by
  simp [lastPiece, split, charsEq, split_getLast_append]

/-- A header that starts with `Bearer ` gives `extract_token` all that
follows. -/
theorem extractToken_bearer {header : String}
    (isBearer : startsWith header "Bearer " = true) :
    ∃ rest, header.toList = "Bearer".toList ++ ' ' :: rest ∧
      extractToken (some header) = .ok (String.ofList rest) := by
  obtain ⟨rest, charsEq⟩ := startsWith_iff.mp isBearer
  have headerEq : header.toList = "Bearer".toList ++ ' ' :: rest :=
    charsEq.symm
  have schemeEq : "Bearer".toList = ['B', 'e', 'a', 'r', 'e', 'r'] := rfl
  have schemeLower : lower "Bearer" = "bearer" := by decide
  have notEmpty : filled header = true := by
    simp only [filled, decide_eq_true_eq]
    rintro rfl
    cases headerEq
  refine ⟨rest, headerEq, ?_⟩
  have pieces : splitOnce header ' ' = some ("Bearer", String.ofList rest) := by
    simp [splitOnce, headerEq, schemeEq]
  simp [extractToken, notEmpty, pieces, schemeLower]

/-- The piece of a header that has a token's form is the token that verifies:
a blank of a verified token can only stand after its last dot. -/
theorem lastPiece_eq_token {jwt : JwtLibrary} {header token key : String}
    {algorithms : List String} {options : DecodeOptions} {now : Int}
    {claims : Claims} {found : TokenHeader}
    (isBearer : startsWith header "Bearer " = true)
    (hasForm : jwt.unverifiedHeader (lastPiece header) = .ok found)
    (extracted : extractToken (some header) = .ok token)
    (decoded : jwt.decode token key algorithms options now = .ok claims) :
    lastPiece header = token := by
  obtain ⟨rest, headerEq, restExtracted⟩ := extractToken_bearer isBearer
  rw [extracted] at restExtracted
  cases restExtracted
  rw [lastPiece_of_append headerEq] at hasForm ⊢
  by_cases blank : ' ' ∈ rest
  · exfalso
    obtain ⟨front, back, restEq, noBlank⟩ := exists_last_occurrence blank
    have pieceEq : lastPiece (String.ofList rest) = String.ofList back := by
      rw [lastPiece_of_append (by simpa using restEq), lastPiece_of_not_mem]
      simpa using noBlank
    have dot : '.' ∈ back := by
      rw [pieceEq] at hasForm
      simpa using jwt.header_dot _ _ hasForm
    obtain ⟨signed, signature, backEq, noDot⟩ := exists_last_occurrence dot
    have tokenEq : (String.ofList rest).toList =
        (front ++ ' ' :: signed) ++ '.' :: signature := by
      simp [restEq, backEq]
    have clean := jwt.signed_no_blank _ _ _ _ _ _ _ _ decoded tokenEq noDot
    exact clean (by simp)
  · exact lastPiece_of_not_mem (by simpa using blank)

/-! ## The property -/

/-- The token a request presents to a reader. -/
def presentedToken (session : BrowserSession) : IdentityReader → Option String
  | .anonymous => none
  | .verifyAndReturnJwtPayload =>
      (extractToken session.authorization).toOption
  | .getSessionUser => session.token
  | .userinfo => userinfoToken session.authorization

/-- A worker accepts a token: it verifies it, or has its data stored where the
reader is cached. -/
def Accepts (worker : HttpWorker service) (token : String) (now : Int) :
    IdentityReader → Prop
  | .anonymous => False
  | .verifyAndReturnJwtPayload =>
      (∃ data, worker.verifier.cache.find token = some data) ∨
        ∃ data, worker.tokens.verifyToken token now = .ok data
  | _ => ∃ claims, worker.tokens.decodeJwtToken token now true = .ok claims

/-- A request presents an accepted token that is revoked. -/
def PresentsRevoked (worker : HttpWorker service) (session : BrowserSession)
    (now : Int) (reader : IdentityReader) : Prop :=
  ∃ token, presentedToken session reader = some token ∧
    Accepts worker token now reader ∧
    ∃ jti, service.headerJti token = some jti ∧ jti ∈ worker.bloom

/-- No revoked token is taken for an identity.  The id of a token is that of
its header, where minting puts the id of the payload too. -/
def Enforced (worker : HttpWorker service) (request : HttpRequest)
    (now : Int) : Prop :=
  ∀ token, (worker.serve request now).1.identity = some token →
    ∀ jti, service.headerJti token = some jti → jti ∉ worker.bloom

/-- A revoked token reaches `authorize`, `consent_submit` or `userinfo`, or a
path that ends in `/token`. -/
def Slips (worker : HttpWorker service) (request : HttpRequest)
    (now : Int) : Prop :=
  request.reachesToken = true ∧ ∃ route, request.route = some route ∧
    (route.reader ≠ .verifyAndReturnJwtPayload ∨
      endsWith request.path "/token" = true) ∧
    PresentsRevoked worker request.session now route.reader

variable {worker : HttpWorker service} {session : BrowserSession} {now : Int}

theorem cached_or_verified {authorization : Option String} {token : String}
    (extracted : extractToken authorization = .ok token) :
    (∃ data, (worker.verifyAndReturnJwtPayload authorization now).1 =
        .ok data) ↔
      Accepts worker token now .verifyAndReturnJwtPayload := by
  simp only [HttpWorker.verifyAndReturnJwtPayload,
    TokenService.verifyAndReturnJwtPayload, extracted, cachedVerifyToken,
    LruCache.call, Accepts]
  cases worker.verifier.cache.find token with
  | some data => simp
  | none =>
      cases verified : worker.tokens.verifyToken token now with
      | ok data => simp [uncachedVerifyToken, verified, Except.mapError]
      | error failure => simp [uncachedVerifyToken, verified, Except.mapError]

theorem identify_eq_some {reader : IdentityReader} {token : String} :
    (worker.identify session now reader).1 = some token ↔
      presentedToken session reader = some token ∧
        Accepts worker token now reader := by
  cases reader with
  | anonymous => simp [HttpWorker.identify, presentedToken]
  | verifyAndReturnJwtPayload =>
      cases extracted : extractToken session.authorization with
      | error failure =>
          simp [HttpWorker.identify, presentedToken, extracted,
            Except.toOption]
      | ok presented =>
          have accepts : _ ↔ Accepts worker presented now _ :=
            cached_or_verified extracted
          simp only [HttpWorker.identify, presentedToken, extracted,
            Except.toOption]
          cases answered :
              (worker.verifyAndReturnJwtPayload session.authorization now).1
            with
          | ok data =>
              have accepted := accepts.mp ⟨data, answered⟩
              simp only [Option.some.injEq]
              exact ⟨fun eq => ⟨eq, eq ▸ accepted⟩, fun both => both.1⟩
          | error error =>
              simp only [answered, reduceCtorEq, exists_false, false_iff]
                at accepts
              simp only [reduceCtorEq, Option.some.injEq, false_iff, not_and]
              rintro rfl
              exact accepts
  | getSessionUser =>
      simp only [HttpWorker.identify, presentedToken, Accepts, getSessionUser]
      cases tokenEq : session.token with
      | none => simp
      | some presented =>
          simp only [Option.some.injEq]
          cases decoded : worker.tokens.decodeJwtToken presented now true with
          | ok claims =>
              simp only [Except.toOption, Option.some.injEq]
              refine ⟨?_, fun both => both.1⟩
              rintro rfl
              exact ⟨rfl, claims, decoded⟩
          | error error =>
              simp only [Except.toOption, reduceCtorEq, false_iff, not_and]
              rintro rfl ⟨claims, accepted⟩
              rw [decoded] at accepted
              cases accepted
  | userinfo =>
      simp only [HttpWorker.identify, presentedToken, Accepts]
      cases tokenEq : userinfoToken session.authorization with
      | none => simp
      | some presented =>
          simp only [Option.some.injEq]
          cases decoded : worker.tokens.decodeJwtToken presented now true with
          | ok claims =>
              simp only [Option.some.injEq]
              refine ⟨?_, fun both => both.1⟩
              rintro rfl
              exact ⟨rfl, claims, decoded⟩
          | error error =>
              simp only [reduceCtorEq, false_iff, not_and]
              rintro rfl ⟨claims, accepted⟩
              rw [decoded] at accepted
              cases accepted

theorem decode_of_accepts {reader : IdentityReader} {token : String}
    (accepts : Accepts worker token now reader) :
    ∃ key algorithms options time claims,
      service.jwt.decode token key algorithms options time = .ok claims := by
  have verified : ∃ (before : TokenService) (time : Int) (claims : Claims),
      before.jwt = service.jwt ∧
        before.decodeJwtToken token time true = .ok claims := by
    cases reader with
    | anonymous => exact accepts.elim
    | verifyAndReturnJwtPayload =>
        rcases accepts with ⟨data, stored⟩ | ⟨data, verified⟩
        · obtain ⟨before, sameJwt, time, verified⟩ :=
            worker.sound token data stored
          obtain ⟨claims, decoded⟩ := decodeJwtToken_of_verifyToken verified
          exact ⟨before, time, claims, sameJwt, decoded⟩
        · obtain ⟨claims, decoded⟩ := decodeJwtToken_of_verifyToken verified
          exact ⟨worker.tokens, now, claims, rfl, decoded⟩
    | getSessionUser =>
        obtain ⟨claims, decoded⟩ := accepts
        exact ⟨worker.tokens, now, claims, rfl, decoded⟩
    | userinfo =>
        obtain ⟨claims, decoded⟩ := accepts
        exact ⟨worker.tokens, now, claims, rfl, decoded⟩
  obtain ⟨before, time, claims, sameJwt, decoded⟩ := verified
  obtain ⟨key, algorithms, options, result⟩ := decode_of_decodeJwtToken decoded
  rw [sameJwt] at result
  exact ⟨key, algorithms, options, time, claims, result⟩

/-- The token a checked request is let through with is the one it presents, so
its id is not in the filter. -/
theorem live_of_checked {token jti : String}
    (checked : isExempt request.path = false)
    (passed : middleWare service.jwt worker.bloom request = none)
    (presented : extractToken request.session.authorization = .ok token)
    (accepts : Accepts worker token now .verifyAndReturnJwtPayload)
    (jtiEq : service.headerJti token = some jti) : jti ∉ worker.bloom := by
  obtain ⟨isBearer, found, hasForm, live⟩ := middleWare_eq_none checked passed
  obtain ⟨header, headerEq⟩ :
      ∃ header, request.session.authorization = some header := by
    cases headerEq : request.session.authorization with
    | some header => exact ⟨header, rfl⟩
    | none =>
        rw [headerEq] at presented
        cases presented
  rw [headerEq] at presented
  rw [headerEq, Option.getD_some] at isBearer hasForm
  obtain ⟨key, algorithms, options, time, claims, decoded⟩ :=
    decode_of_accepts accepts
  have same := lastPiece_eq_token isBearer hasForm presented decoded
  apply live
  rw [same] at hasForm
  rw [TokenService.headerJti, hasForm] at jtiEq
  exact jtiEq

theorem serve_identity {token : String} :
    (worker.serve request now).1.identity = some token ↔
      middleWare service.jwt worker.bloom request = none ∧
        request.reachesToken = true ∧
        ∃ route, request.route = some route ∧
          presentedToken request.session route.reader = some token ∧
          Accepts worker token now route.reader := by
  simp only [HttpWorker.serve, ← identify_eq_some]
  cases middleWare service.jwt worker.bloom request with
  | some refusal => simp [Served.identity]
  | none =>
      cases request.route with
      | none => simp [Served.identity]
      | some route => cases request.reachesToken <;> simp [Served.identity]

/-- The identity of a request on a checked path is no revoked token. -/
theorem live_of_identity {token jti : String}
    (checked : isExempt request.path = false)
    (identity : (worker.serve request now).1.identity = some token)
    (jtiEq : service.headerJti token = some jti) : jti ∉ worker.bloom := by
  obtain ⟨passed, -, route, routed, presented, accepts⟩ :=
    serve_identity.mp identity
  rcases reader_of_checked checked routed with anonymous | bearer
  · rw [anonymous] at presented
    cases presented
  · rw [bearer] at presented accepts
    have extracted : extractToken request.session.authorization = .ok token := by
      unfold presentedToken at presented
      cases extracted : extractToken request.session.authorization with
      | ok found =>
          rw [extracted] at presented
          cases presented
          rfl
      | error failure =>
          rw [extracted] at presented
          cases presented
    exact live_of_checked checked passed extracted accepts jtiEq

/-- Revocation is enforced on a request exactly when the request does not slip
past it. -/
theorem enforced_iff (worker : HttpWorker service) (request : HttpRequest)
    (now : Int) : Enforced worker request now ↔ ¬ Slips worker request now := by
  constructor
  · rintro enforced ⟨reaches, route, routed, unchecked, token, presented,
      accepts, jti, jtiEq, revoked⟩
    have exempt : isExempt request.path = true := by
      rcases unchecked with otherReader | ends
      · by_contra checked
        rw [Bool.not_eq_true] at checked
        rcases reader_of_checked checked routed with anonymous | bearer
        · rw [anonymous] at presented
          cases presented
        · exact otherReader bearer
      · simp [isExempt, ends]
    have passed : middleWare service.jwt worker.bloom request = none := by
      simp [middleWare, exempt]
    have identity := serve_identity.mpr
      ⟨passed, reaches, route, routed, presented, accepts⟩
    exact enforced token identity jti jtiEq revoked
  · intro holds token identity jti jtiEq revoked
    obtain ⟨-, reaches, route, routed, presented, accepts⟩ :=
      serve_identity.mp identity
    refine holds ⟨reaches, route, routed, ?_, token, presented, accepts, jti,
      jtiEq, revoked⟩
    by_cases reads : route.reader = .verifyAndReturnJwtPayload
    · cases exempt : isExempt request.path with
      | true => exact .inr (endsWith_token_of_exempt exempt routed reads)
      | false =>
          have live := live_of_identity exempt identity jtiEq
          exact absurd revoked live
    · exact .inl reads

/-! ## A revoked token at `userinfo` -/

/-- A service with one token. -/
def plainService : TokenService where
  jwt := .plain [("j.u-1", {
    sub := some "u@t"
    userId := some "u"
    tenantId := some "t" })]
  manager := ⟨"HS256", "secret", "", []⟩
  jwtSecret := "secret"

/-- A worker that knows the token to be revoked. -/
def revokedWorker : HttpWorker plainService where
  verifier := ⟨"", [], .empty⟩
  sound := LruCache.holds_empty _
  bloom := ["u-1"]

/-- `userinfo` answers for the revoked token. -/
theorem userinfo_takes_revoked_token :
    ¬ Enforced revokedWorker {
      method := "GET"
      path := "/api/v1/oidc/userinfo"
      session := { authorization := some "Bearer j.u-1" } } 0 := by
  intro enforced
  exact enforced "j.u-1" (by decide) "u-1" (by decide) (by decide)

end RevocationEnforcement

end HexIam
