import HexIam.Database
import HexIam.KeyTokens
import HexIam.PurposeTokens

/-!
# Deployments with generated keys

A deployment whose workers sign under the keys of a key set that rotations may
replace.  What one worker signs under its active key, every worker reads back
whose key set still has that key.
-/

namespace HexIam

/-- A deployment whose managers have generated keys in memory, under the
settings `config`. -/
structure KeyedDeployment where
  deployment : Deployment
  generator : KeyGenerator
  config : RotationConfig
  secret : String
  roundTrip : deployment.tokens.jwt.RoundTrip generator config.algorithm
  asymmetric : config.algorithm ∈ asymmetricSigningAlgorithms

namespace KeyedDeployment

variable (keyed : KeyedDeployment)

/-- The deployment as a worker with this key set serves it. -/
def under (state : Keyset) : Deployment :=
  { keyed.deployment with
    tokens := { keyed.deployment.tokens with
      manager := state.manager keyed.config keyed.secret } }

/-- The key set is one that rotations make of generated keys. -/
structure Holds (state : Keyset) : Prop where
  wellFormed : state.WellFormed keyed.config
  generated : ∀ record ∈ state.keys, ∃ count,
    record = keyed.generator.generateKeyRecord count record.createdAt

/-- The active key of one key set is still in the other. -/
def Keeps (signing later : Keyset) : Prop :=
  ∀ record, signing.getActiveKey keyed.config = .ok record → record ∈ later.keys

/-- The algorithm that a caller passes: none, or the one of the managers. -/
def Passes (algorithm : Option String) : Prop :=
  algorithm = none ∨ algorithm = some keyed.config.algorithm

variable {keyed} {state later : Keyset}

/-! ## Signing -/

theorem Holds.canSign (holds : keyed.Holds state) :
    (keyed.under state).tokens.canSign := by
  obtain ⟨record, active, -⟩ := holds.wellFormed.getActiveKey_isOk
  exact .inr ⟨Keyset.upper_asymmetric _ keyed.asymmetric, record, active⟩

theorem resolved_of_passes {algorithm : Option String}
    (passes : keyed.Passes algorithm) :
    upper ((orElse algorithm (some keyed.config.algorithm)).getD "") =
      keyed.config.algorithm := by
  have isUpper := Keyset.upper_asymmetric _ keyed.asymmetric
  have isFilled := Keyset.filled_asymmetric _ keyed.asymmetric
  rcases passes with rfl | rfl
  · exact isUpper
  · simp [orElse, given, isFilled, isUpper]

theorem Holds.signToken_eq (holds : keyed.Holds state) (payload : Claims)
    (header : TokenHeader) {algorithm : Option String}
    (passes : keyed.Passes algorithm) (secretKey : Option String) :
    ∃ record, state.getActiveKey keyed.config = .ok record ∧
      (keyed.under state).tokens.manager.signToken keyed.deployment.tokens.jwt
        payload header algorithm secretKey =
          .ok ⟨{ header with kid := some record.kid }, payload,
            keyed.deployment.tokens.jwt.encode payload record.privatePem
              keyed.config.algorithm { header with kid := some record.kid }⟩ := by
  obtain ⟨record, active, -⟩ := holds.wellFormed.getActiveKey_isOk
  refine ⟨record, active, ?_⟩
  have resolvedEq := resolved_of_passes passes
  have notMac := AlgorithmConfusion.asymmetric_ne_HS256 _ keyed.asymmetric
  have activeEq : (keyed.under state).tokens.manager.getActiveKey = .ok record :=
    active
  have sameAlgorithm : (keyed.under state).tokens.manager.algorithm =
      keyed.config.algorithm := rfl
  unfold SigningKeyManager.signToken
  simp only [sameAlgorithm, resolvedEq, notMac, if_false, ne_eq,
    not_true_eq_false, activeEq, bind, Except.bind]

/-! ## Reading back -/

/-- The compact form of a token under the active key. -/
def SignedUnder (keyed : KeyedDeployment) (state : Keyset) (compact : String)
    (payload : Claims) : Prop :=
  ∃ record, ∃ header : TokenHeader,
    state.getActiveKey keyed.config = .ok record ∧ header.alg = none ∧
      compact = keyed.deployment.tokens.jwt.encode payload record.privatePem
        keyed.config.algorithm { header with kid := some record.kid }

/-- A key set that still has the key reads the token back while its times allow
it. -/
theorem SignedUnder.decodeToken {compact : String} {payload : Claims}
    (signed : keyed.SignedUnder state compact payload)
    (laterHolds : keyed.Holds later) (keeps : keyed.Keeps state later)
    {options : DecodeOptions} (noAudience : options.verifyAud = false)
    {algorithm : Option String} (passes : keyed.Passes algorithm)
    (secretKey : Option String) {now : Int}
    (unexpired : ∀ exp ∈ payload.exp, now < exp)
    (issued : ∀ iat ∈ payload.iat, iat ≤ now) :
    (keyed.under later).tokens.manager.decodeToken keyed.deployment.tokens.jwt
      compact options algorithm secretKey now = .ok payload := by
  obtain ⟨record, header, active, unset, rfl⟩ := signed
  have recordMem := keeps record active
  obtain ⟨count, generated⟩ := laterHolds.generated record recordMem
  have withoutAlgorithm := Keyset.decodeToken_of_mem keyed.roundTrip
    keyed.asymmetric laterHolds.wellFormed.nodup recordMem generated unset
    noAudience unexpired issued keyed.secret
  obtain ⟨found, headerEq, algEq, -⟩ := keyed.roundTrip.header_alg payload
    record.privatePem { header with kid := some record.kid } unset
  -- the header names the algorithm, so the key of the caller is not read
  have isFilled := Keyset.filled_asymmetric _ keyed.asymmetric
  have named : orElse found.alg (some keyed.config.algorithm) =
      some keyed.config.algorithm := by
    simp [orElse, algEq, given, isFilled]
  have resolvedEq := resolved_of_passes passes
  have ownEq : upper ((orElse none (some keyed.config.algorithm)).getD "") =
      keyed.config.algorithm := resolved_of_passes (.inl rfl)
  have notMac := AlgorithmConfusion.asymmetric_ne_HS256 _ keyed.asymmetric
  have sameAlgorithm (keys : Keyset) :
      (keys.manager keyed.config keyed.secret).algorithm =
        keyed.config.algorithm := rfl
  unfold SigningKeyManager.decodeToken at withoutAlgorithm ⊢
  simp only [headerEq, bind, Except.bind, sameAlgorithm, named, ownEq, notMac,
    if_false] at withoutAlgorithm
  simp only [under, headerEq, bind, Except.bind, sameAlgorithm, named, resolvedEq,
    notMac, if_false]
  exact withoutAlgorithm

theorem SignedUnder.filled {compact : String} {payload : Claims}
    (signed : keyed.SignedUnder state compact payload) : filled compact = true := by
  obtain ⟨record, header, -, unset, rfl⟩ := signed
  obtain ⟨found, headerEq, -⟩ := keyed.roundTrip.header_alg payload
    record.privatePem { header with kid := some record.kid } unset
  have dotted := keyed.deployment.tokens.jwt.header_dot _ _ headerEq
  generalize keyed.deployment.tokens.jwt.encode _ _ _ _ = text at dotted
  by_cases isFilled : HexIam.filled text = true
  · exact isFilled
  · have isEmpty : text = "" := by simpa [HexIam.filled] using isFilled
    simp [isEmpty] at dotted

/-! ## The tokens of the service -/

theorem Holds.signedUnder_of_createJwtToken (holds : keyed.Holds state)
    {payload : Claims} {timeNs : Nat} {token : SignedToken}
    (minted : (keyed.under state).tokens.createJwtToken payload timeNs =
      .ok token) : keyed.SignedUnder state token.compact token.payload := by
  unfold TokenService.createJwtToken at minted
  cases userEq : TokenService.principal payload with
  | error error =>
      rw [userEq] at minted
      cases minted
  | ok userId =>
      let jti := userId ++ "-" ++ toString timeNs
      obtain ⟨record, active, signed⟩ := holds.signToken_eq
        { payload with jti := some jti } { jti := some jti } (.inl rfl)
        (some keyed.deployment.tokens.jwtSecret)
      rw [userEq] at minted
      cases minted.symm.trans signed
      exact ⟨record, { jti := some jti }, active, rfl, rfl⟩

/-- A token that a worker mints verifies, while its times allow it, under every
key set that still has its key. -/
theorem Holds.decode_minted (holds : keyed.Holds state)
    (laterHolds : keyed.Holds later) (keeps : keyed.Keeps state later)
    {payload : Claims} {timeNs : Nat} {token : SignedToken}
    (minted : (keyed.under state).tokens.createJwtToken payload timeNs =
      .ok token) {now : Int} (unexpired : ∀ exp ∈ payload.exp, now < exp)
    (issued : ∀ iat ∈ payload.iat, iat ≤ now) :
    (keyed.under later).tokens.decodeJwtToken token.compact now true =
      .ok token.payload := by
  obtain ⟨userId, -, payloadEq, -⟩ := TokenService.createJwtToken_eq_ok minted
  exact (holds.signedUnder_of_createJwtToken minted).decodeToken laterHolds keeps
    rfl (.inl rfl) none (by simpa [payloadEq] using unexpired)
    (by simpa [payloadEq] using issued)

theorem Holds.exists_purposeToken (holds : keyed.Holds state) (payload : Claims)
    (secretKey : Option String) :
    ∃ token, (keyed.under state).tokens.createPurposeToken payload secretKey
        (some keyed.config.algorithm) = .ok token ∧ token.payload = payload ∧
      keyed.SignedUnder state token.compact payload := by
  obtain ⟨record, active, signed⟩ := holds.signToken_eq payload {} (.inr rfl)
    secretKey
  exact ⟨_, signed, rfl, record, {}, active, rfl, rfl⟩

theorem SignedUnder.decodePurposeToken {compact : String} {payload : Claims}
    (signed : keyed.SignedUnder state compact payload)
    (laterHolds : keyed.Holds later) (keeps : keyed.Keeps state later)
    {algorithm : Option String} (passes : keyed.Passes algorithm)
    (secretKey : Option String) {expected : Option String}
    (purpose : expected = none ∨ payload.purpose = expected) {now : Int}
    (unexpired : ∀ exp ∈ payload.exp, now < exp)
    (issued : ∀ iat ∈ payload.iat, iat ≤ now) :
    (keyed.under later).tokens.decodePurposeToken compact now secretKey algorithm
      expected = .ok payload := by
  have noAudience : ({ verifyAud := false, verifyExp := true } :
      DecodeOptions).verifyAud = false := rfl
  have decoded : (keyed.under later).tokens.manager.decodeToken
      (keyed.under later).tokens.jwt compact
      { verifyAud := false, verifyExp := true } algorithm secretKey now =
        .ok payload :=
    signed.decodeToken laterHolds keeps noAudience passes secretKey unexpired issued
  unfold TokenService.decodePurposeToken
  rw [decoded]
  rcases purpose with rfl | same
  · rfl
  · simp [same]

end KeyedDeployment

end HexIam
