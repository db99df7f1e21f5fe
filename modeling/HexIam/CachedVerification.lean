import HexIam.GuardedRun
import HexIam.Tokens

/-!
# Cached verification

`cached_verify_token` keeps what a token was verified to and looks neither at
the clock nor at the keys again.  A run of calls answers as `VerifyToken` does
exactly when a token whose data is still cached is presented only before it
expires and while some key still verifies it.
-/

namespace HexIam

open GuardedRun

/-- The options with the expiry check on or off. -/
def DecodeOptions.checkExp (options : DecodeOptions) (verifyExp : Bool) :
    DecodeOptions :=
  { options with verifyExp := verifyExp }

/-- What `jwt.decode` documents of the expiry check: it only adds a refusal of
expired tokens, the claims are those of the token, and a bad key is refused
before the claims are looked at. -/
structure JwtLibrary.ChecksExpiry (jwt : JwtLibrary) : Prop where
  accepts_iff (token key : String) (algorithms : List String)
      (options : DecodeOptions) (now : Int) (claims : Claims) :
    jwt.decode token key algorithms (options.checkExp true) now = .ok claims ↔
      jwt.decode token key algorithms (options.checkExp false) now =
        .ok claims ∧ ∀ exp ∈ claims.exp, now < exp
  payload {token firstKey secondKey : String}
      {firstAlgorithms secondAlgorithms : List String}
      {firstOptions secondOptions : DecodeOptions} {firstNow secondNow : Int}
      {first second : Claims}
      (decodedFirst : jwt.decode token firstKey firstAlgorithms firstOptions
        firstNow = .ok first)
      (decodedSecond : jwt.decode token secondKey secondAlgorithms
        secondOptions secondNow = .ok second) : first = second
  invalidKey (token key : String) (algorithms : List String)
      (options : DecodeOptions) (now : Int) :
    jwt.decode token key algorithms (options.checkExp true) now =
        .error .invalidKey ↔
      jwt.decode token key algorithms (options.checkExp false) now =
        .error .invalidKey

namespace CachedVerification

variable {service : TokenService}

/-! ## Expiry -/

section Expiry

variable {jwt : JwtLibrary}

theorem isInvalidToken_iff (error : JwtError) :
    error.isInvalidToken = true ↔ error ≠ .invalidKey := by
  cases error <;> simp [JwtError.isInvalidToken]

theorem decodeWithKeys_expiry (lawful : jwt.ChecksExpiry)
    {token resolved : String} (options : DecodeOptions) {now : Int}
    {keys : List KeyRecord} (lastError otherError : JwtError) {claims : Claims} :
    SigningKeyManager.decodeWithKeys jwt token resolved (options.checkExp true)
        now keys lastError = .ok claims ↔
      SigningKeyManager.decodeWithKeys jwt token resolved
        (options.checkExp false) now keys otherError = .ok claims ∧
        ∀ exp ∈ claims.exp, now < exp := by
  induction keys generalizing lastError otherError with
  | nil => simp [SigningKeyManager.decodeWithKeys]
  | cons candidate rest ih =>
      have accepts := lawful.accepts_iff token candidate.publicPem [resolved]
        options now
      have refused := lawful.invalidKey token candidate.publicPem [resolved]
        options now
      unfold SigningKeyManager.decodeWithKeys
      cases unchecked : jwt.decode token candidate.publicPem [resolved]
          (options.checkExp false) now with
      | ok found =>
          rw [unchecked] at accepts refused
          cases checked : jwt.decode token candidate.publicPem [resolved]
              (options.checkExp true) now with
          | ok same =>
              obtain ⟨⟨⟩, live⟩ := (accepts same).mp checked
              simp only [Except.ok.injEq]
              exact ⟨fun eq => ⟨eq, eq ▸ live⟩, fun both => both.1⟩
          | error error =>
              -- An expired token: no key of the rest accepts it either.
              have invalid : error.isInvalidToken = true := by
                rw [isInvalidToken_iff]
                rintro rfl
                cases refused.mp checked
              have expired : ¬ ∀ exp ∈ found.exp, now < exp := by
                intro live
                rw [(accepts found).mpr ⟨rfl, live⟩] at checked
                cases checked
              simp only [invalid, if_true, Except.ok.injEq]
              constructor
              · intro decoded
                obtain ⟨key, decodedUnder⟩ :=
                  TokenService.decode_of_decodeWithKeys decoded
                obtain rfl := lawful.payload unchecked decodedUnder
                obtain ⟨-, live⟩ := (ih error error).mp decoded
                exact absurd live expired
              · rintro ⟨rfl, live⟩
                exact absurd live expired
      | error error =>
          rw [unchecked] at accepts refused
          cases checked : jwt.decode token candidate.publicPem [resolved]
              (options.checkExp true) now with
          | ok claims => cases ((accepts claims).mp checked).1
          | error other =>
              rw [checked] at refused
              simp only [Except.error.injEq] at refused
              have same : other.isInvalidToken = error.isInvalidToken := by
                rw [Bool.eq_iff_iff, isInvalidToken_iff, isInvalidToken_iff]
                exact not_congr refused
              simp only [same]
              split
              case isTrue => exact ih other error
              case isFalse => simp

/-- A token is accepted when it is accepted without regard to its expiry and
has not expired. -/
theorem decodeJwtToken_expiry (lawful : service.jwt.ChecksExpiry)
    {token : String} {now : Int} {claims : Claims} :
    service.decodeJwtToken token now true = .ok claims ↔
      service.decodeJwtToken token now false = .ok claims ∧
        ∀ exp ∈ claims.exp, now < exp := by
  unfold TokenService.decodeJwtToken SigningKeyManager.decodeToken
  cases service.jwt.unverifiedHeader token with
  | error error => simp [bind, Except.bind]
  | ok header =>
      simp only [bind, Except.bind]
      split
      case isTrue =>
        exact lawful.accepts_iff _ _ _ { verifyAud := false } now claims
      case isFalse =>
        split
        case isTrue => simp
        case isFalse =>
          exact decodeWithKeys_expiry lawful { verifyAud := false } _ _

end Expiry

/-- The data a token is verified to is read from its claims. -/
theorem verifyToken_congr {other : TokenService} {token : String}
    {now otherNow : Int} {claims : Claims}
    (decoded : service.decodeJwtToken token now true = .ok claims)
    (otherDecoded : other.decodeJwtToken token otherNow true = .ok claims) :
    service.verifyToken token now = other.verifyToken token otherNow := by
  unfold TokenService.verifyToken
  rw [decoded, otherDecoded]

/-- Data that some service of the library gave is given again by every service
of the library that accepts the token. -/
theorem verifyToken_again_iff (lawful : service.jwt.ChecksExpiry)
    {before : TokenService} (sameJwt : before.jwt = service.jwt)
    {token : String} {beforeNow : Int} {data : TokenService.VerifiedTokenData}
    (verified : before.verifyToken token beforeNow = .ok data) (now : Int) :
    service.verifyToken token now = .ok data ↔
      ∃ claims, service.decodeJwtToken token now false = .ok claims ∧
        ∀ exp ∈ claims.exp, now < exp := by
  obtain ⟨claims, decoded⟩ := TokenService.decodeJwtToken_of_verifyToken verified
  constructor
  · intro again
    obtain ⟨claims, decodedAgain⟩ :=
      TokenService.decodeJwtToken_of_verifyToken again
    exact ⟨claims, (decodeJwtToken_expiry lawful).mp decodedAgain⟩
  · rintro ⟨others, accepted⟩
    have decodedAgain := (decodeJwtToken_expiry lawful).mpr accepted
    obtain ⟨_, _, _, first⟩ := TokenService.decode_of_decodeJwtToken decoded
    obtain ⟨_, _, _, second⟩ := TokenService.decode_of_decodeJwtToken decodedAgain
    rw [sameJwt] at first
    obtain rfl := lawful.payload first second
    rw [verifyToken_congr decodedAgain decoded, verified]

/-! ## Runs -/

/-- The key set of a process and the cache of its verifications. -/
structure VerifierState where
  activeKid : String
  keys : List KeyRecord
  cache : TokenService.VerifyCache

/-- A call of `cached_verify_token` at a time, or a change of the key set: a
rotation, a pruning, or both. -/
inductive VerifierEvent : Type
  | call (token : String) (now : Int)
  | rekey (activeKid : String) (keys : List KeyRecord)

variable (service)

/-- The service with the key set of a state. -/
def serviceOf (state : VerifierState) : TokenService :=
  { service with
    manager := { service.manager with
      activeKid := state.activeKid
      keys := state.keys } }

/-- The state after an event. -/
def verifierStep (state : VerifierState) :
    VerifierEvent → Option VerifierState
  | .call token now =>
      some { state with
        cache := ((serviceOf service state).cachedVerifyToken state.cache token
          now).2 }
  | .rekey activeKid keys =>
      some { state with
        activeKid := activeKid
        keys := keys }

/-- A call answers as an uncached verification does. -/
def Faithful (state : VerifierState) : VerifierEvent → Prop
  | .call token now =>
      ((serviceOf service state).cachedVerifyToken state.cache token now).1 =
        (serviceOf service state).uncachedVerifyToken token now
  | .rekey _ _ => True

/-- A token whose data is cached is presented before it expires and while a key
still verifies it. -/
def Timely (state : VerifierState) : VerifierEvent → Prop
  | .call token now =>
      state.cache.find token ≠ none →
        ∃ claims, (serviceOf service state).decodeJwtToken token now false =
            .ok claims ∧ ∀ exp ∈ claims.exp, now < exp
  | .rekey _ _ => True

/-- What is cached was once verified. -/
def Sound (state : VerifierState) : Prop :=
  state.cache.Holds fun token data => ∃ before : TokenService,
    before.jwt = service.jwt ∧ ∃ now, before.verifyToken token now = .ok data

theorem sound_step (state : VerifierState) (event : VerifierEvent)
    (next : VerifierState) (sound : Sound service state)
    (stepEq : verifierStep service state event = some next) :
    Sound service next := by
  cases event with
  | call token now =>
      cases stepEq
      refine LruCache.holds_call sound ?_
      intro data given
      exact ⟨serviceOf service state, rfl, now,
        TokenService.uncachedVerifyToken_eq_ok.mp given⟩
  | rekey activeKid keys =>
      cases stepEq
      exact sound

variable {service}

theorem faithful_iff_timely (lawful : service.jwt.ChecksExpiry)
    {state : VerifierState} (sound : Sound service state)
    (event : VerifierEvent) :
    Faithful service state event ↔ Timely service state event := by
  cases event with
  | rekey activeKid keys => exact Iff.rfl
  | call token now =>
      refine LruCache.call_eq_iff.trans ?_
      simp only [TokenService.uncachedVerifyToken_eq_ok, Timely]
      cases found : state.cache.find token with
      | none => simp
      | some data =>
          obtain ⟨before, sameJwt, beforeNow, verified⟩ := sound token data found
          have lawfulHere : (serviceOf service state).jwt.ChecksExpiry := lawful
          have again := verifyToken_again_iff lawfulHere sameJwt verified now
          constructor
          · intro unchanged _
            exact again.mp (unchanged data rfl)
          · rintro timely _ ⟨⟩
            exact again.mpr (timely (Option.some_ne_none data))

/-- Every call of a run answers as an uncached verification does exactly when
the run is timely. -/
theorem faithful_along_iff_timely (lawful : service.jwt.ChecksExpiry)
    (activeKid : String) (keys : List KeyRecord) (events : List VerifierEvent) :
    Along (verifierStep service) (Faithful service) ⟨activeKid, keys, .empty⟩
        events ↔
      Along (verifierStep service) (Timely service) ⟨activeKid, keys, .empty⟩
        events :=
  along_congr (sound_step service)
    (fun _ event sound => faithful_iff_timely lawful sound event)
    (LruCache.holds_empty _)

/-! ## A token outlives its expiry -/

theorem plain_checksExpiry (known : List (String × Claims)) :
    (JwtLibrary.plain known).ChecksExpiry where
  accepts_iff token key algorithms options now claims := by
    simp only [JwtLibrary.plain, DecodeOptions.checkExp]
    split
    case isTrue => simp
    case isFalse =>
      split
      case h_1 => simp
      case h_2 held _ =>
        cases expEq : held.exp with
        | none =>
            simp only [Option.any_none, Bool.and_false, Bool.false_eq_true,
              if_false, Except.ok.injEq]
            exact ⟨fun same => ⟨same, by simp [← same, expEq]⟩, fun both => both.1⟩
        | some exp =>
            simp only [Option.any_some, Bool.true_and, Bool.false_and,
              decide_eq_true_eq, Bool.false_eq_true, if_false]
            split
            case isTrue expired =>
              refine iff_of_false (by simp) ?_
              rintro ⟨⟨⟩, live⟩
              exact absurd (live exp expEq) (Int.not_lt.mpr expired)
            case isFalse live =>
              simp only [Except.ok.injEq]
              refine ⟨fun same => ⟨same, ?_⟩, fun both => both.1⟩
              intro other otherEq
              rw [← same, expEq] at otherEq
              cases otherEq
              exact Int.not_le.mp live
  payload {token} {_ _ _ _ _ _ _ _ first second} decodedFirst decodedSecond := by
    simp only [JwtLibrary.plain] at decodedFirst decodedSecond
    split at decodedFirst
    case isTrue => cases decodedFirst
    case isFalse blank =>
      rw [if_neg blank] at decodedSecond
      cases found : known.lookup token with
      | none => simp [found] at decodedFirst
      | some held =>
          rw [found] at decodedFirst decodedSecond
          simp only at decodedFirst decodedSecond
          split at decodedFirst
          · cases decodedFirst
          · split at decodedSecond
            · cases decodedSecond
            · cases decodedFirst
              cases decodedSecond
              rfl
  invalidKey token key algorithms options now := by
    simp only [JwtLibrary.plain, DecodeOptions.checkExp]
    split
    case isTrue => simp
    case isFalse =>
      split
      case h_1 => simp
      case h_2 =>
        refine iff_of_false ?_ (by simp)
        split <;> simp

/-- A token that expires at ten. -/
def expiring : TokenService where
  jwt := .plain [("j.u-1", {
    sub := some "u@t"
    userId := some "u"
    tenantId := some "t"
    exp := some 10 })]
  manager := ⟨"HS256", "secret", "", []⟩
  jwtSecret := "secret"

theorem faithful_while_timely :
    Along (verifierStep expiring) (Faithful expiring) ⟨"", [], .empty⟩
      [.call "j.u-1" 0, .call "j.u-1" 9] := by
  rw [faithful_along_iff_timely (plain_checksExpiry _)]
  refine along_of_step rfl (fun cached => absurd rfl cached) ?_
  refine along_of_step rfl (fun _ => ⟨_, rfl, ?_⟩) trivial
  rintro _ ⟨⟩
  decide

/-- The cache still answers with the data when the token has expired. -/
theorem expired_token_accepted :
    ¬ Along (verifierStep expiring) (Faithful expiring) ⟨"", [], .empty⟩
      [.call "j.u-1" 0, .call "j.u-1" 10] := by
  rintro ⟨-, again⟩
  obtain ⟨faithful, -⟩ := again _ rfl
  cases faithful

end CachedVerification

end HexIam
