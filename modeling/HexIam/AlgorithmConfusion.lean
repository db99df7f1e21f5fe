import HexIam.Tokens

/-!
# Algorithm confusion

`decode_token` takes the algorithm of a token from its header, and verifies an
HS256 token with the configured secret even where the service signs with RS256
or ES256.  A service that is configured without a secret verifies such tokens
with the empty key, which everyone holds.
-/

namespace HexIam

/-! ## The constructor -/

/-- `SUPPORTED_SIGNING_ALGORITHMS`. -/
def supportedSigningAlgorithms : List String :=
  ["HS256", "RS256", "ES256"]

/-- `ASYMMETRIC_SIGNING_ALGORITHMS`. -/
def asymmetricSigningAlgorithms : List String :=
  ["RS256", "ES256"]

/-- `SigningKeyManager.__init__`, with the key set that is loaded later. -/
def SigningKeyManager.construct (algorithm : String) (secret : Option String)
    (activeKid : String) (keys : List KeyRecord) :
    Except Exn SigningKeyManager :=
  let resolved := upper (if filled algorithm then algorithm else "HS256")
  if resolved ∉ supportedSigningAlgorithms then
    .error (.value ("Unsupported JWT algorithm: " ++ resolved))
  else
    let secret := secret.getD ""
    if resolved = "HS256" && !filled secret then
      .error (.value "JWT_SECRET must be configured for HS256 signing")
    else
      .ok ⟨resolved, secret, activeKid, keys⟩

theorem SigningKeyManager.construct_eq_ok {algorithm activeKid : String}
    {secret : Option String} {keys : List KeyRecord} {manager : SigningKeyManager}
    (constructed : construct algorithm secret activeKid keys = .ok manager) :
    manager.secret = secret.getD "" ∧ manager.keys = keys := by
  unfold construct at constructed
  generalize upper (if filled algorithm then algorithm else "HS256") = resolved
    at constructed
  dsimp only at constructed
  split at constructed
  · cases constructed
  · split at constructed
    · cases constructed
    · cases constructed
      exact ⟨rfl, rfl⟩

/-! ## Ideal tokens -/

/-- Ideal signatures and MACs.  The header of a token names the algorithm it
was made with; a token that verifies was made with the key it verifies under,
or with the private half of that key; and the MAC takes the empty key. -/
structure JwtLibrary.Ideal (jwt : JwtLibrary) (publicOf : String → String) :
    Prop where
  publicOf_injective : Function.Injective publicOf
  header_alg (claims : Claims) (key algorithm : String) (header : TokenHeader)
      (unset : header.alg = none) :
    ∃ found, jwt.unverifiedHeader (jwt.encode claims key algorithm header) =
      .ok found ∧ found.alg = some algorithm
  mac_sound {token key : String} {options : DecodeOptions} {now : Int}
      {decoded : Claims}
      (accepted : jwt.decode token key ["HS256"] options now = .ok decoded) :
    ∃ claims header, token = jwt.encode claims key "HS256" header
  signature_sound {token publicKey algorithm : String}
      {options : DecodeOptions} {now : Int} {decoded : Claims}
      (asymmetric : algorithm ∈ asymmetricSigningAlgorithms)
      (accepted : jwt.decode token publicKey [algorithm] options now =
        .ok decoded) :
    ∃ made claims header, publicOf made = publicKey ∧ header.alg = none ∧
      token = jwt.encode claims made algorithm header
  mac_empty (claims : Claims) (now : Int) (noExp : claims.exp = none)
      (noIat : claims.iat = none) :
    ∃ decoded, jwt.decode (jwt.encode claims "" "HS256" {}) "" ["HS256"] {} now =
      .ok decoded

namespace AlgorithmConfusion

variable {jwt : JwtLibrary} {publicOf : String → String}
  {manager : SigningKeyManager}

/-- The token was signed under a private key of the key set, or made by someone
who holds a configured secret. -/
def Genuine (jwt : JwtLibrary) (manager : SigningKeyManager) (token : String) :
    Prop :=
  (∃ record ∈ manager.keys, ∃ claims header, header.alg = none ∧
    token = jwt.encode claims record.privatePem manager.algorithm header) ∨
  (filled manager.secret = true ∧ ∃ claims header,
    token = jwt.encode claims manager.secret "HS256" header)

/-- Every token that `decode_token` accepts is genuine. -/
def NoConfusion (jwt : JwtLibrary) (manager : SigningKeyManager) : Prop :=
  ∀ token options now claims,
    manager.decodeToken jwt token options none none now = .ok claims →
      Genuine jwt manager token

theorem mem_of_decodeWithKeys {token resolved : String}
    {options : DecodeOptions} {now : Int} {keys : List KeyRecord}
    {lastError : JwtError} {claims : Claims}
    (decoded : SigningKeyManager.decodeWithKeys jwt token resolved options now
      keys lastError = .ok claims) :
    ∃ record ∈ keys,
      jwt.decode token record.publicPem [resolved] options now = .ok claims := by
  induction keys generalizing lastError with
  | nil => cases decoded
  | cons candidate rest ih =>
      simp only [SigningKeyManager.decodeWithKeys] at decoded
      split at decoded
      case h_1 found result =>
        cases decoded
        exact ⟨candidate, List.mem_cons_self, result⟩
      case h_2 error result =>
        split at decoded
        · obtain ⟨record, recordMem, accepted⟩ := ih decoded
          exact ⟨record, List.mem_cons_of_mem _ recordMem, accepted⟩
        · cases decoded

theorem mem_of_getCandidateKeys {kid : Option String} {record : KeyRecord}
    (candidate : record ∈ manager.getCandidateKeys kid) :
    record ∈ manager.keys := by
  unfold SigningKeyManager.getCandidateKeys at candidate
  dsimp only at candidate
  split at candidate
  · exact List.mem_of_mem_filter candidate
  · exact candidate

/-- An accepted token verifies with the secret, or under a key of the key
set. -/
theorem accepted_cases {token : String} {options : DecodeOptions} {now : Int}
    {claims : Claims}
    (accepted : manager.decodeToken jwt token options none none now =
      .ok claims) :
    jwt.decode token manager.secret ["HS256"] options now = .ok claims ∨
      ∃ record ∈ manager.keys, jwt.decode token record.publicPem
        [manager.algorithm] options now = .ok claims := by
  unfold SigningKeyManager.decodeToken at accepted
  cases headerEq : jwt.unverifiedHeader token with
  | error error => simp [headerEq, bind, Except.bind] at accepted
  | ok header =>
      simp only [headerEq, bind, Except.bind] at accepted
      split at accepted
      case isTrue symmetric =>
        rw [symmetric] at accepted
        exact .inl accepted
      case isFalse =>
        split at accepted
        case isTrue => cases accepted
        case isFalse same =>
          rw [not_not] at same
          rw [same] at accepted
          obtain ⟨record, candidate, verified⟩ := mem_of_decodeWithKeys accepted
          exact .inr ⟨record, mem_of_getCandidateKeys candidate, verified⟩

theorem empty_key_accepted (ideal : jwt.Ideal publicOf)
    (noSecret : manager.secret = "") :
    ∃ claims, manager.decodeToken jwt (jwt.encode {} "" "HS256" {}) {} none none
      0 = .ok claims := by
  obtain ⟨header, headerEq, algEq⟩ :=
    ideal.header_alg {} "" "HS256" {} rfl
  obtain ⟨claims, accepted⟩ := ideal.mac_empty {} 0 rfl rfl
  have resolved : upper ((orElse none (orElse header.alg
      (some manager.algorithm))).getD "") = "HS256" := by
    rw [algEq]
    change upper "HS256" = "HS256"
    decide
  refine ⟨claims, ?_⟩
  unfold SigningKeyManager.decodeToken
  simp only [headerEq, bind, Except.bind, resolved, if_true, noSecret]
  exact accepted

theorem asymmetric_ne_HS256 :
    ∀ algorithm ∈ asymmetricSigningAlgorithms, algorithm ≠ "HS256" := by
  decide

/-- A service that signs with RS256 or ES256 accepts only genuine tokens
exactly when it was given a secret. -/
theorem noConfusion_iff_secret (ideal : jwt.Ideal publicOf)
    {algorithm activeKid : String} {secret : Option String}
    {keys : List KeyRecord}
    (constructed : SigningKeyManager.construct algorithm secret activeKid keys =
      .ok manager)
    (asymmetric : manager.algorithm ∈ asymmetricSigningAlgorithms)
    (paired : ∀ record ∈ keys, publicOf record.privatePem = record.publicPem) :
    NoConfusion jwt manager ↔ given secret = true := by
  obtain ⟨secretEq, keysEq⟩ := SigningKeyManager.construct_eq_ok constructed
  have givenEq : given secret = filled manager.secret := by
    rw [secretEq]
    cases secret <;> rfl
  rw [givenEq]
  constructor
  · intro noConfusion
    by_contra missing
    have noSecret : manager.secret = "" := by simpa [filled] using missing
    obtain ⟨claims, accepted⟩ := empty_key_accepted ideal noSecret
    rcases noConfusion _ _ _ _ accepted with
      ⟨record, recordMem, made, header, unset, same⟩ | ⟨hasSecret, -⟩
    · obtain ⟨first, firstEq, firstAlg⟩ :=
        ideal.header_alg {} "" "HS256" {} rfl
      obtain ⟨second, secondEq, secondAlg⟩ :=
        ideal.header_alg made record.privatePem manager.algorithm header unset
      rw [same, secondEq] at firstEq
      cases firstEq
      rw [firstAlg] at secondAlg
      exact asymmetric_ne_HS256 _ asymmetric (Option.some.inj secondAlg).symm
    · exact missing hasSecret
  · intro hasSecret token options now claims accepted
    rcases accepted_cases accepted with verified | ⟨record, recordMem, verified⟩
    · obtain ⟨made, header, same⟩ := ideal.mac_sound verified
      exact .inr ⟨hasSecret, made, header, same⟩
    · obtain ⟨key, made, header, isPublic, unset, same⟩ :=
        ideal.signature_sound asymmetric verified
      have isPrivate : key = record.privatePem := by
        apply ideal.publicOf_injective
        rw [isPublic, paired record (keysEq ▸ recordMem)]
      exact .inl ⟨record, recordMem, made, header, unset, isPrivate ▸ same⟩

/-! ## A library of ideal tokens -/

section Symbolic

/-- A text with its length in front. -/
def frame (text rest : List Char) : List Char :=
  List.replicate text.length '1' ++ '.' :: (text ++ rest)

/-- The first text of a sequence of frames, and the rest. -/
def unframe (chars : List Char) : List Char × List Char :=
  let size := (chars.takeWhile (· = '1')).length
  let body := chars.drop (size + 1)
  (body.take size, body.drop size)

theorem unframe_frame (text rest : List Char) :
    unframe (frame text rest) = (text, rest) := by
  have size : ((frame text rest).takeWhile (· = '1')).length = text.length := by
    unfold frame
    rw [List.takeWhile_append_of_pos (by simp)]
    simp
  unfold unframe
  rw [size]
  unfold frame
  simp [List.drop_append, List.drop_eq_nil_of_le]

/-- The parts of a token: its algorithm, the key it was made with, and the id in
its header. -/
def render (algorithm key : String) (jti : Option String) : List Char :=
  frame algorithm.toList (frame key.toList (match jti with
    | none => []
    | some jti => '+' :: jti.toList))

theorem dot_mem_render (algorithm key : String) (jti : Option String) :
    '.' ∈ render algorithm key jti := by
  simp [render, frame]

/-- The algorithm, the key and the id that a token shows. -/
def parts (token : String) : String × String × Option String :=
  let algorithm := unframe token.toList
  let key := unframe algorithm.2
  (String.ofList algorithm.1, String.ofList key.1, match key.2 with
    | [] => none
    | _ :: jti => some (String.ofList jti))

@[simp]
theorem parts_render (algorithm key : String) (jti : Option String) :
    parts (String.ofList (render algorithm key jti)) = (algorithm, key, jti) := by
  cases jti <;> simp [parts, render, unframe_frame]

/-- The token shows that it was made for one of the algorithms with the key, or
with its private half. -/
def shows (token key : String) (algorithms : List String) : Bool :=
  let made := (parts token).2.1
  (parts token).1 ∈ algorithms &&
    token = String.ofList (render (parts token).1 made (parts token).2.2) &&
    (if (parts token).1 = "HS256" then made else "public " ++ made) = key

/-- A library whose tokens show the key they were made with.  A public key is
its private key with a mark. -/
def symbolicJwt : JwtLibrary where
  encode _ key algorithm header :=
    String.ofList (render algorithm key header.jti)
  unverifiedHeader token :=
    if '.' ∈ token.toList then
      .ok {
        alg := some (parts token).1
        jti := (parts token).2.2 }
    else .error .decode
  decode token key algorithms _ _ :=
    if ' ' ∉ token.toList ∧ shows token key algorithms = true then .ok {}
    else .error .invalidSignature
  header_encode claims key algorithm header := by
    simp [dot_mem_render]
  header_dot token header headerEq := by
    split at headerEq
    case isTrue dotted => exact dotted
    case isFalse => cases headerEq
  signed_no_blank token key algorithms options now claims front back accepted
      charsEq _ blank := by
    split at accepted
    case isTrue shown =>
      refine shown.1 ?_
      rw [charsEq]
      exact List.mem_append_left _ blank
    case isFalse => cases accepted

theorem shown_of_decode {token key algorithm : String} {options : DecodeOptions}
    {now : Int} {decoded : Claims}
    (accepted : symbolicJwt.decode token key [algorithm] options now =
      .ok decoded) :
    ∃ made jti, token = String.ofList (render algorithm made jti) ∧
      (if algorithm = "HS256" then made else "public " ++ made) = key := by
  simp only [symbolicJwt] at accepted
  split at accepted
  case isTrue shown =>
    obtain ⟨-, shown⟩ := shown
    simp only [shows, List.mem_singleton, Bool.and_eq_true, decide_eq_true_eq]
      at shown
    obtain ⟨⟨algorithmEq, tokenEq⟩, keyEq⟩ := shown
    rw [algorithmEq] at tokenEq keyEq
    exact ⟨_, _, tokenEq, keyEq⟩
  case isFalse => cases accepted

theorem symbolicJwt_ideal : symbolicJwt.Ideal ("public " ++ ·) where
  publicOf_injective first second same := by
    have chars : ("public " ++ first).toList = ("public " ++ second).toList :=
      congrArg String.toList same
    rw [String.toList_append, String.toList_append] at chars
    exact String.toList_inj.mp (List.append_cancel_left chars)
  header_alg claims key algorithm header unset := by
    simp [symbolicJwt, dot_mem_render]
  mac_sound {token key} {_ _ _} accepted := by
    obtain ⟨made, jti, tokenEq, keyEq⟩ := shown_of_decode accepted
    rw [if_pos rfl] at keyEq
    subst keyEq
    exact ⟨{}, { jti := jti }, tokenEq⟩
  signature_sound {_ _ algorithm} {_ _ _} asymmetric accepted := by
    obtain ⟨made, jti, tokenEq, keyEq⟩ := shown_of_decode accepted
    rw [if_neg (asymmetric_ne_HS256 algorithm asymmetric)] at keyEq
    exact ⟨made, {}, { jti := jti }, keyEq, rfl, tokenEq⟩
  mac_empty claims now _ _ := by
    refine ⟨{}, ?_⟩
    have unblank : ' ' ∉ (String.ofList (render "HS256" "" none)).toList := by
      decide
    have shown : shows (String.ofList (render "HS256" "" none)) "" ["HS256"] =
        true := by decide
    exact if_pos ⟨unblank, shown⟩

/-- A key pair of the key set. -/
def signingKey : KeyRecord where
  kid := "k"
  createdAt := 0
  privatePem := "pem"
  publicPem := "public pem"

/-- With a secret, the service accepts only genuine tokens. -/
theorem noConfusion_with_secret :
    NoConfusion symbolicJwt ⟨"RS256", "secret", "k", [signingKey]⟩ :=
  have constructed : SigningKeyManager.construct "RS256" (some "secret") "k"
      [signingKey] = .ok ⟨"RS256", "secret", "k", [signingKey]⟩ := rfl
  (noConfusion_iff_secret symbolicJwt_ideal constructed (by decide)
    (by simp [signingKey])).mpr rfl

/-- Without one it accepts a token that anyone can make. -/
theorem empty_secret_confuses :
    SigningKeyManager.construct "RS256" none "k" [signingKey] =
        .ok ⟨"RS256", "", "k", [signingKey]⟩ ∧
      ¬ NoConfusion symbolicJwt ⟨"RS256", "", "k", [signingKey]⟩ := by
  refine ⟨rfl, fun noConfusion => ?_⟩
  have genuine := noConfusion (String.ofList (render "HS256" "" none)) {} 0 {} rfl
  rcases genuine with ⟨record, -, claims, header, -, same⟩ | ⟨hasSecret, -⟩
  · have shown := congrArg parts same
    simp [symbolicJwt] at shown
  · cases hasSecret

end Symbolic

end AlgorithmConfusion

end HexIam
