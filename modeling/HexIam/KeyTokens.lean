import HexIam.AlgorithmConfusion
import HexIam.Keyset
import Mathlib.Logic.Equiv.List
import Mathlib.Tactic.DeriveEncodable

/-!
# Tokens under the keys of a key set

A token signed under the active key of one key set is accepted under every key
set that still has that key, and `jwks` lists the key.
-/

namespace HexIam

/-! ## The published keys -/

/-- An entry of `jwks`.  The numbers of the public key are kept in its PEM. -/
structure PublicJwk where
  kty : String
  use : String
  alg : String
  kid : String
  publicPem : String
  deriving DecidableEq, Repr

/-- `public_jwk` of a generated key. -/
def KeyRecord.publicJwk (algorithm : String) (record : KeyRecord) :
    PublicJwk where
  kty := if algorithm = "RS256" then "RSA" else "EC"
  use := "sig"
  alg := if algorithm = "RS256" then "RS256" else "ES256"
  kid := record.kid
  publicPem := record.publicPem

/-- `jwks` after `ensure_ready`. -/
def SigningKeyManager.jwks (manager : SigningKeyManager) : List PublicJwk :=
  if manager.algorithm ∈ asymmetricSigningAlgorithms then
    manager.keys.map (KeyRecord.publicJwk manager.algorithm)
  else []

/-! ## Tokens of generated keys -/

/-- What PyJWT does with a token made under a generated key for `algorithm`: its
header names the algorithm and the kid, and it verifies under the public key
while its times allow it.  A kid, the hash of a public key, is not empty. -/
structure JwtLibrary.RoundTrip (jwt : JwtLibrary) (generator : KeyGenerator)
    (algorithm : String) : Prop where
  header_alg (claims : Claims) (key : String) (header : TokenHeader)
      (unset : header.alg = none) :
    ∃ found, jwt.unverifiedHeader (jwt.encode claims key algorithm header) =
      .ok found ∧ found.alg = some algorithm ∧ found.kid = header.kid
  decode_encode {claims : Claims} (count : Nat) (header : TokenHeader)
      {options : DecodeOptions} {now : Int}
      (noAudience : options.verifyAud = false)
      (unexpired : ∀ exp ∈ claims.exp, now < exp)
      (issued : ∀ iat ∈ claims.iat, iat ≤ now) :
    jwt.decode (jwt.encode claims (generator.privatePem count) algorithm header)
      (generator.publicOf (generator.privatePem count)) [algorithm] options now =
        .ok claims
  kid_filled (count : Nat) :
    filled (generator.buildKid
      (generator.publicOf (generator.privatePem count))) = true

namespace Keyset

variable {jwt : JwtLibrary} {generator : KeyGenerator} {config : RotationConfig}
  {state : Keyset} {record : KeyRecord} {claims : Claims} {header : TokenHeader}

theorem upper_asymmetric :
    ∀ algorithm ∈ asymmetricSigningAlgorithms, upper algorithm = algorithm := by
  decide

theorem filled_asymmetric :
    ∀ algorithm ∈ asymmetricSigningAlgorithms, filled algorithm = true := by
  decide

theorem signToken_eq_ok (asymmetric : config.algorithm ∈
      asymmetricSigningAlgorithms) {secret : String} {token : SignedToken}
    (active : state.getActiveKey config = .ok record)
    (signed : (state.manager config secret).signToken jwt claims header none
      none = .ok token) :
    token.payload = claims ∧
      token.compact = jwt.encode claims record.privatePem config.algorithm
        { header with kid := some record.kid } := by
  have resolvedEq : upper ((orElse none (some config.algorithm)).getD "") =
      config.algorithm := by
    change upper config.algorithm = config.algorithm
    exact upper_asymmetric _ asymmetric
  have notMac := AlgorithmConfusion.asymmetric_ne_HS256 _ asymmetric
  have sameAlgorithm : (state.manager config secret).algorithm =
      config.algorithm := rfl
  have activeEq : (state.manager config secret).getActiveKey = .ok record := active
  unfold SigningKeyManager.signToken at signed
  simp only [resolvedEq, notMac, sameAlgorithm, if_false, ne_eq,
    not_true_eq_false, activeEq, bind, Except.bind] at signed
  cases signed
  exact ⟨rfl, rfl⟩

theorem getCandidateKeys_of_mem (nodup : (state.keys.map KeyRecord.kid).Nodup)
    (recordMem : record ∈ state.keys) (kidFilled : filled record.kid = true)
    (secret : String) :
    ∃ rest, (state.manager config secret).getCandidateKeys (some record.kid) =
      record :: rest := by
  have found : record ∈ state.keys.filter fun item =>
      some record.kid = some item.kid :=
    List.mem_filter.mpr ⟨recordMem, by simp⟩
  unfold SigningKeyManager.getCandidateKeys manager
  dsimp only
  cases matchesEq : state.keys.filter fun item =>
      some record.kid = some item.kid with
  | nil =>
      rw [matchesEq] at found
      cases found
  | cons first rest =>
      have firstMem : first ∈ state.keys.filter fun item =>
          some record.kid = some item.kid := by
        rw [matchesEq]
        exact List.mem_cons_self
      obtain ⟨firstKey, kidEq⟩ := List.mem_filter.mp firstMem
      have firstEq : first = record :=
        List.inj_on_of_nodup_map nodup firstKey recordMem
          (by simpa using (of_decide_eq_true kidEq).symm)
      refine ⟨rest, ?_⟩
      simp [given, kidFilled, firstEq]

/-- A token made under a key of the key set is accepted. -/
theorem decodeToken_of_mem
    (roundTrip : jwt.RoundTrip generator config.algorithm)
    (asymmetric : config.algorithm ∈ asymmetricSigningAlgorithms)
    (nodup : (state.keys.map KeyRecord.kid).Nodup)
    (recordMem : record ∈ state.keys) {count : Nat}
    (generated : record = generator.generateKeyRecord count record.createdAt)
    (unset : header.alg = none) {options : DecodeOptions} {now : Int}
    (noAudience : options.verifyAud = false)
    (unexpired : ∀ exp ∈ claims.exp, now < exp)
    (issued : ∀ iat ∈ claims.iat, iat ≤ now) (secret : String) :
    (state.manager config secret).decodeToken jwt
      (jwt.encode claims record.privatePem config.algorithm
        { header with kid := some record.kid }) options none none now =
          .ok claims := by
  obtain ⟨found, headerEq, algEq, kidEq⟩ := roundTrip.header_alg claims
    record.privatePem { header with kid := some record.kid } unset
  have kidFilled : filled record.kid = true := by
    rw [generated]
    exact roundTrip.kid_filled count
  obtain ⟨rest, candidatesEq⟩ : ∃ rest, (state.manager config
      secret).getCandidateKeys (some record.kid) = record :: rest :=
    getCandidateKeys_of_mem nodup recordMem kidFilled secret
  have verified := roundTrip.decode_encode count
    { header with kid := some record.kid } noAudience unexpired issued
  have privateEq : generator.privatePem count = record.privatePem := by
    rw [generated]
    rfl
  have publicEq : generator.publicOf (generator.privatePem count) =
      record.publicPem := by
    rw [generated]
    rfl
  rw [publicEq, privateEq] at verified
  have resolvedEq : upper ((orElse none (orElse found.alg
      (some config.algorithm))).getD "") = config.algorithm := by
    rw [algEq]
    unfold orElse
    simp [given, filled_asymmetric _ asymmetric, upper_asymmetric _ asymmetric]
  have notMac := AlgorithmConfusion.asymmetric_ne_HS256 _ asymmetric
  have sameAlgorithm : (state.manager config secret).algorithm =
      config.algorithm := rfl
  unfold SigningKeyManager.decodeToken
  simp only [headerEq, bind, Except.bind, resolvedEq, notMac, sameAlgorithm,
    if_false, ne_eq, not_true_eq_false, kidEq, candidatesEq,
    SigningKeyManager.decodeWithKeys, verified]

theorem kid_mem_jwks (asymmetric : config.algorithm ∈
      asymmetricSigningAlgorithms) (recordMem : record ∈ state.keys)
    (secret : String) :
    record.kid ∈ (state.manager config secret).jwks.map PublicJwk.kid := by
  have jwksEq : (state.manager config secret).jwks =
      state.keys.map (KeyRecord.publicJwk config.algorithm) :=
    if_pos asymmetric
  rw [jwksEq, List.map_map]
  exact List.mem_map.mpr ⟨record, recordMem, rfl⟩

end Keyset

/-! ## Tokens that show how they were made -/

namespace KeyTokens

/-- Keys that are numbered. -/
def markedKeys : KeyGenerator where
  privatePem count := String.ofList (List.replicate count 'k')
  publicOf privatePem := "public " ++ privatePem
  buildKid publicPem := publicPem
  fresh := by
    intro first second same
    have chars := congrArg (fun text => text.toList.length) same
    simpa using chars

instance encodableChar : Encodable Char :=
  Encodable.ofLeftInjection Char.toNat (fun code => some (Char.ofNat code))
    fun char => by simp

instance encodableString : Encodable String :=
  Encodable.ofLeftInjection String.toList (fun chars => some (String.ofList chars))
    fun text => by simp

deriving instance Encodable for Audience
deriving instance Encodable for TokenHeader
deriving instance Encodable for Claims

/-- The claims, the key, the algorithm and the header of a token, as a number
written with ones. -/
def write (content : Claims × String × String × TokenHeader) : String :=
  String.ofList (List.replicate (Encodable.encode content) '1' ++ ['.'])

/-- What a token without blanks shows. -/
def contentOf (token : String) :
    Option (Claims × String × String × TokenHeader) :=
  if ' ' ∈ token.toList then none
  else Encodable.decode (token.toList.takeWhile (· = '1')).length

@[simp]
theorem contentOf_write (content : Claims × String × String × TokenHeader) :
    contentOf (write content) = some content := by
  have noBlank : ' ' ∉ (write content).toList := by simp [write]
  have ones : ((write content).toList.takeWhile (· = '1')).length =
      Encodable.encode content := by
    unfold write
    rw [String.toList_ofList, List.takeWhile_append_of_pos (by simp)]
    simp
  unfold contentOf
  rw [if_neg noBlank, ones, Encodable.encodek]

theorem dot_mem_write (content : Claims × String × String × TokenHeader) :
    '.' ∈ (write content).toList := by
  simp [write]

/-- A library whose tokens show how they were made.  Only the algorithms, the
key and the times are checked. -/
def shownJwt (publicOf : String → String) : JwtLibrary where
  encode claims key algorithm header := write (claims, key, algorithm, header)
  unverifiedHeader token :=
    match contentOf token with
    | none => .error .decode
    | some (_, _, algorithm, header) =>
        if '.' ∈ token.toList then .ok { header with alg := some algorithm }
        else .error .decode
  decode token key algorithms options now :=
    match contentOf token with
    | none => .error .decode
    | some (claims, made, algorithm, _) =>
        if algorithm ∉ algorithms then .error .invalidAlgorithm
        else if (if algorithm = "HS256" then made else publicOf made) ≠ key then
          .error .invalidSignature
        else if options.verifyExp && claims.exp.any fun exp => exp ≤ now then
          .error .expiredSignature
        else if claims.iat.any fun iat => now < iat then .error .invalidToken
        else .ok claims
  header_encode claims key algorithm header := by
    simp [dot_mem_write]
  header_dot token header headerEq := by
    split at headerEq
    case h_1 => cases headerEq
    case h_2 =>
      split at headerEq
      case isTrue dotted => exact dotted
      case isFalse => cases headerEq
  signed_no_blank token key algorithms options now claims front back accepted
      charsEq _ blank := by
    have inToken : ' ' ∈ token.toList := by
      rw [charsEq]
      exact List.mem_append_left _ blank
    have noContent : contentOf token = none := if_pos inToken
    rw [noContent] at accepted
    cases accepted

theorem shownJwt_roundTrip {algorithm : String}
    (asymmetric : algorithm ∈ asymmetricSigningAlgorithms) :
    (shownJwt markedKeys.publicOf).RoundTrip markedKeys algorithm where
  header_alg claims key header unset := by
    simp [shownJwt, dot_mem_write]
  decode_encode {claims} count header {options now} noAudience unexpired
      issued := by
    have notMac := AlgorithmConfusion.asymmetric_ne_HS256 _ asymmetric
    have current : (claims.exp.any fun exp => decide (exp ≤ now)) = false := by
      rw [Option.any_eq_false]
      intro exp expMem
      simpa using unexpired exp expMem
    have past : (claims.iat.any fun iat => decide (now < iat)) = false := by
      rw [Option.any_eq_false]
      intro iat iatMem
      simpa using issued iat iatMem
    simp [shownJwt, notMac, current, past]
  kid_filled count := by
    have chars : (markedKeys.buildKid
        (markedKeys.publicOf (markedKeys.privatePem count))).toList =
          "public ".toList ++ List.replicate count 'k' := by
      simp [markedKeys]
    simp [filled, ← String.toList_eq_nil_iff, chars]

end KeyTokens

end HexIam
