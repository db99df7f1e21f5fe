import HexIam.AlgorithmConfusion
import HexIam.Base64Url
import HexIam.Keyset
import HexIam.UrlQuery

/-!
# Public JWKs

A key is published with its public numbers as base64url texts, RSA numbers in
their shortest octets and coordinates of P-256 in 32.  A relying party that
decodes the texts reads the numbers of the key, whatever they are.
-/

namespace HexIam

namespace PublicJwks

/-! ## Octets and texts in `signing_keys` -/

/-- The alphabet of `base64.b64encode`. -/
def standardAlphabet : List Char :=
  "ABCDEFGHIJKLMNOPQRSTUVWXYZabcdefghijklmnopqrstuvwxyz0123456789+/".toList

def ascii (char : Char) : UInt8 :=
  UInt8.ofNat char.toNat

def standardSymbol (sextet : Nat) : UInt8 :=
  ascii (standardAlphabet.getD sextet 'A')

/-- `base64.b64encode(raw)`. -/
def b64encode (raw : List UInt8) : List UInt8 :=
  (Base64Url.sextetsOf raw).map standardSymbol ++
    List.replicate ((3 - raw.length % 3) % 3) (ascii '=')

/-- What `base64.urlsafe_b64encode` makes of a byte of `base64.b64encode`. -/
def urlsafeByte (byte : UInt8) : UInt8 :=
  if byte = ascii '+' then ascii '-'
  else if byte = ascii '/' then ascii '_'
  else byte

/-- `base64.urlsafe_b64encode(raw)`. -/
def urlsafeB64encode (raw : List UInt8) : List UInt8 :=
  (b64encode raw).map urlsafeByte

/-- `raw.decode("ascii")`. -/
def decodeAscii (raw : List UInt8) : Except Exn String :=
  if raw.all (· < 128) then
    .ok (String.ofList (raw.map fun byte => Char.ofNat byte.toNat))
  else
    .error (.other "UnicodeDecodeError")

/-- `_base64url_encode`. -/
def base64urlEncode (raw : List UInt8) : Except Exn String := do
  let text ← decodeAscii (urlsafeB64encode raw)
  return stripEnd text '='

/-- `value.to_bytes(size, byteorder="big")`. -/
def toBytes (value size : Int) : Except Exn (List UInt8) :=
  if size < 0 then .error (.value "length argument must be non-negative")
  else if value < 0 then .error (.other "OverflowError")
  else if 256 ^ size.toNat ≤ value.toNat then .error (.other "OverflowError")
  else .ok (BigEndian.octets size.toNat value.toNat)

/-- `value.bit_length()`. -/
def bitLength (value : Int) : Nat :=
  value.natAbs.size

/-- `_int_to_bytes`. -/
def intToBytes (value : Int) (size : Option Int) : Except Exn (List UInt8) :=
  match size with
  | none => toBytes value (max 1 ((bitLength value + 7) / 8) : Nat)
  | some size => toBytes value size

/-! ### The text of octets -/

section Text

variable {raw : List UInt8}

theorem standardSymbol_facts : ∀ sextet < 64,
    urlsafeByte (standardSymbol sextet) < 128 ∧
      Char.ofNat (urlsafeByte (standardSymbol sextet)).toNat =
        Base64Url.symbol sextet := by
  decide +kernel

theorem urlsafeB64encode_eq (raw : List UInt8) :
    urlsafeB64encode raw =
      (Base64Url.sextetsOf raw).map (urlsafeByte ∘ standardSymbol) ++
        List.replicate ((3 - raw.length % 3) % 3) (ascii '=') := by
  rw [urlsafeB64encode, b64encode, List.map_append, List.map_map, List.map_replicate]
  rfl

/-- A text whose end is the only place of a character is stripped of it. -/
theorem stripEnd_append_replicate {text : List Char} {char : Char} (count : Nat)
    (absent : char ∉ text) :
    stripEnd (String.ofList (text ++ List.replicate count char)) char =
      String.ofList text := by
  have kept : text.reverse.dropWhile (· = char) = text.reverse := by
    refine List.dropWhile_eq_self_iff.mpr fun nonempty => ?_
    have headMem := List.mem_reverse.mp (List.getElem_mem nonempty)
    intro isChar
    rw [of_decide_eq_true isChar] at headMem
    exact absent headMem
  have stripped : (List.replicate count char ++ text.reverse).dropWhile (· = char) =
      text.reverse := by
    rw [List.dropWhile_append_of_pos fun other otherMem => by
      simpa using List.eq_of_mem_replicate otherMem, kept]
  rw [stripEnd, String.toList_ofList, List.reverse_append, List.reverse_replicate,
    stripped, List.reverse_reverse]

/-- `_base64url_encode` gives the unpadded base64url text of the octets. -/
theorem base64urlEncode_eq (raw : List UInt8) :
    base64urlEncode raw = .ok (String.ofList (Base64Url.encode raw)) := by
  have isAscii : (urlsafeB64encode raw).all (· < 128) = true := by
    rw [urlsafeB64encode_eq, List.all_eq_true]
    intro byte byteMem
    refine decide_eq_true ?_
    rcases List.mem_append.mp byteMem with symbolMem | padMem
    · obtain ⟨sextet, sextetMem, rfl⟩ := List.mem_map.mp symbolMem
      exact (standardSymbol_facts sextet (Base64Url.sextetsOf_lt raw sextet sextetMem)).1
    · rw [List.eq_of_mem_replicate padMem]
      decide
  have symbols : (Base64Url.sextetsOf raw).map
      ((fun byte : UInt8 => Char.ofNat byte.toNat) ∘ urlsafeByte ∘ standardSymbol) =
        Base64Url.encode raw := by
    refine List.map_congr_left fun sextet sextetMem => ?_
    exact (standardSymbol_facts sextet (Base64Url.sextetsOf_lt raw sextet sextetMem)).2
  have text : (urlsafeB64encode raw).map (fun byte => Char.ofNat byte.toNat) =
      Base64Url.encode raw ++ List.replicate ((3 - raw.length % 3) % 3) '=' := by
    rw [urlsafeB64encode_eq, List.map_append, List.map_map, symbols, List.map_replicate]
    rfl
  rw [base64urlEncode, decodeAscii, if_pos isAscii, text]
  exact congrArg Except.ok
    (stripEnd_append_replicate _ (Base64Url.pad_notMem_encode raw))

/-- A text is that of the octets just when it decodes to them. -/
theorem base64urlEncode_eq_ok {text : String} :
    base64urlEncode raw = .ok text ↔ Base64Url.decode text.toList = some raw := by
  rw [base64urlEncode_eq, Base64Url.decode_eq_some, Except.ok.injEq]
  constructor
  · rintro rfl
    exact String.toList_ofList
  · intro same
    rw [← same, String.ofList_toList]

end Text

/-! ### The octets of an integer -/

section Octets

variable {value size : Int} {raw : List UInt8}

theorem toBytes_of_lt {value size : Nat} (fits : value < 256 ^ size) :
    toBytes value size = .ok (BigEndian.octets size value) := by
  have sizeOk : ¬ (size : Int) < 0 := by omega
  have valueOk : ¬ (value : Int) < 0 := by omega
  rw [toBytes, if_neg sizeOk, if_neg valueOk, Int.toNat_natCast, Int.toNat_natCast,
    if_neg (Nat.not_le.mpr fits)]

/-- `to_bytes` returns the octets of the length asked for that read as the
integer, and fails when there are none. -/
theorem toBytes_eq_ok :
    toBytes value size = .ok raw ↔
      (raw.length : Int) = size ∧ (BigEndian.number raw : Int) = value := by
  constructor
  · intro returned
    unfold toBytes at returned
    split at returned
    · cases returned
    split at returned
    · cases returned
    split at returned
    · cases returned
    · rename_i sizeOk valueOk fits
      cases returned
      rw [BigEndian.length_octets,
        BigEndian.number_octets_of_lt (Nat.not_le.mp fits)]
      omega
  · rintro ⟨rfl, rfl⟩
    rw [toBytes_of_lt (BigEndian.number_lt raw), BigEndian.octets_number]

theorem number_of_intToBytes {given : Option Int}
    (returned : intToBytes value given = .ok raw) :
    (BigEndian.number raw : Int) = value := by
  cases given with
  | none => exact (toBytes_eq_ok.mp returned).2
  | some size => exact (toBytes_eq_ok.mp returned).2

theorem intToBytes_none (value : Nat) :
    intToBytes value none =
      .ok (BigEndian.octets (max 1 (BigEndian.width value)) value) :=
  toBytes_of_lt (BigEndian.lt_pow_of_width_le (Nat.le_max_right _ _))

end Octets

/-! ## The round trip -/

/-- A text that a relying party decodes to the octets, and these to the number. -/
structure Carries (text : String) (raw : List UInt8) (value : Nat) : Prop where
  decodes : Base64Url.decode text.toList = some raw
  number : BigEndian.number raw = value
  unpadded : '=' ∉ text.toList
  urlSafe : ∀ char ∈ text.toList, Base64Url.IsUrlSafe char

theorem carries_encode {raw : List UInt8} {value : Nat}
    (number : BigEndian.number raw = value) :
    Carries (String.ofList (Base64Url.encode raw)) raw value where
  decodes := base64urlEncode_eq_ok.mp (base64urlEncode_eq raw)
  number := number
  unpadded := by
    rw [String.toList_ofList]
    exact Base64Url.pad_notMem_encode raw
  urlSafe := by
    rw [String.toList_ofList]
    exact fun char charMem => Base64Url.isUrlSafe_of_mem_encode charMem

/-- A number of a JWK in its shortest octets. -/
theorem shortest_carries (value : Nat) :
    ∃ raw text, intToBytes value none = .ok raw ∧ base64urlEncode raw = .ok text ∧
      Carries text raw value ∧ (0 < value → raw.head? ≠ some 0) := by
  have fits : value < 256 ^ max 1 (BigEndian.width value) :=
    BigEndian.lt_pow_of_width_le (Nat.le_max_right _ _)
  refine ⟨_, _, intToBytes_none value, base64urlEncode_eq _,
    carries_encode (BigEndian.number_octets_of_lt fits), fun positive => ?_⟩
  rw [Nat.max_eq_right (BigEndian.width_pos positive)]
  exact BigEndian.head?_octets_width positive

/-- A coordinate in 32 octets, those of its leading zeros included. -/
theorem coordinate_carries {value : Nat} (small : value < 2 ^ 256) :
    ∃ raw text, intToBytes value (some 32) = .ok raw ∧
      base64urlEncode raw = .ok text ∧ Carries text raw value ∧
      text.length = 43 ∧ raw.length = 32 := by
  have fits : value < 256 ^ 32 := small
  refine ⟨_, _, toBytes_of_lt fits, base64urlEncode_eq _,
    carries_encode (BigEndian.number_octets_of_lt fits), ?_,
    BigEndian.length_octets 32 value⟩
  rw [String.length_ofList, Base64Url.length_encode, BigEndian.length_octets]

/-- Integers with one text are the same, whatever sizes they were given. -/
theorem integer_of_text {value other : Int} {size otherSize : Option Int}
    {raw otherRaw : List UInt8} {text : String}
    (returned : intToBytes value size = .ok raw)
    (otherReturned : intToBytes other otherSize = .ok otherRaw)
    (encoded : base64urlEncode raw = .ok text)
    (otherEncoded : base64urlEncode otherRaw = .ok text) : value = other := by
  have decoded := base64urlEncode_eq_ok.mp encoded
  rw [base64urlEncode_eq_ok.mp otherEncoded] at decoded
  cases decoded
  rw [← number_of_intToBytes returned, number_of_intToBytes otherReturned]

/-- The integers of a JWK come back from their texts. -/
theorem integers_round_trip (value : Nat) :
    (∃ raw text, intToBytes value none = .ok raw ∧ base64urlEncode raw = .ok text ∧
      Carries text raw value ∧ (0 < value → raw.head? ≠ some 0)) ∧
    (value < 2 ^ 256 →
      ∃ raw text, intToBytes value (some 32) = .ok raw ∧
        base64urlEncode raw = .ok text ∧ Carries text raw value ∧
        text.length = 43 ∧ raw.length = 32) :=
  ⟨shortest_carries value, coordinate_carries⟩

/-- A coordinate that begins with zeros. -/
theorem integers_round_trip_leading_zeros :
    ∃ raw text, intToBytes 65537 (some 32) = .ok raw ∧
      base64urlEncode raw = .ok text ∧ Carries text raw 65537 ∧
      text.length = 43 ∧ raw.length = 32 :=
  (integers_round_trip 65537).2 (by decide)

example : ((intToBytes 65537 none).bind base64urlEncode) = .ok "AQAB" := by
  decide +kernel

/-! ## Keys and their JWKs -/

structure RsaPublicNumbers where
  n : Nat
  e : Nat

/-- The coordinates of a point of P-256 are less than its prime. -/
structure EcPublicNumbers where
  x : Nat
  y : Nat
  xSmall : x < 2 ^ 256
  ySmall : y < 2 ^ 256

/-- `cryptography` and `hashlib`.  A private key is named by its PEM, and the
pairs are generated one after the other. -/
structure KeyLibrary where
  generateRsa : Nat → String
  generateEc : Nat → String
  publicPem : String → String
  rsaNumbers : String → RsaPublicNumbers
  ecNumbers : String → EcPublicNumbers
  sha256 : List UInt8 → List UInt8

abbrev Jwk := List (String × String)

/-- A record of the key-set file. -/
structure PublishedKey where
  record : KeyRecord
  publicJwk : Jwk

namespace KeyLibrary

variable (library : KeyLibrary)

/-- `_build_kid`. -/
def buildKid (publicPem : String) : Except Exn String :=
  base64urlEncode ((library.sha256 (UrlQuery.utf8 publicPem)).take 12)

def rsaJwk (numbers : RsaPublicNumbers) : Except Exn Jwk := do
  let n ← base64urlEncode (← intToBytes numbers.n none)
  let e ← base64urlEncode (← intToBytes numbers.e none)
  return [("kty", "RSA"), ("use", "sig"), ("alg", "RS256"), ("n", n), ("e", e)]

def ecJwk (numbers : EcPublicNumbers) : Except Exn Jwk := do
  let x ← base64urlEncode (← intToBytes numbers.x (some 32))
  let y ← base64urlEncode (← intToBytes numbers.y (some 32))
  return [("kty", "EC"), ("use", "sig"), ("alg", "ES256"), ("crv", "P-256"),
    ("x", x), ("y", y)]

def privatePem (algorithm : String) (count : Nat) : String :=
  if algorithm = "RS256" then library.generateRsa count else library.generateEc count

/-- `_generate_key_record_locked`. -/
def generateKeyRecord (algorithm : String) (count : Nat) (createdAt : Int) :
    Except Exn PublishedKey := do
  let privatePem := library.privatePem algorithm count
  let publicPem := library.publicPem privatePem
  let publicJwk ←
    if algorithm = "RS256" then rsaJwk (library.rsaNumbers publicPem)
    else ecJwk (library.ecNumbers publicPem)
  let kid ← library.buildKid publicPem
  return ⟨⟨kid, createdAt, privatePem, publicPem⟩, publicJwk ++ [("kid", kid)]⟩

end KeyLibrary

/-- `jwks`, with the keys of the key set. -/
def jwks (algorithm : String) (keys : List PublishedKey) : List Jwk :=
  if algorithm ∈ asymmetricSigningAlgorithms then keys.map PublishedKey.publicJwk
  else []

/-! ### What a relying party reads -/

/-- The octets of a member of a JWK. -/
def readOctets (jwk : Jwk) (name : String) : Option (List UInt8) :=
  (jwk.lookup name).bind fun text => Base64Url.decode text.toList

def readNumber (jwk : Jwk) (name : String) : Option Nat :=
  (readOctets jwk name).map BigEndian.number

/-- A coordinate of P-256 has 32 octets. -/
def readCoordinate (jwk : Jwk) (name : String) : Option Nat :=
  ((readOctets jwk name).filter fun raw => raw.length = 32).map BigEndian.number

/-- A JWK with the kid of its record, from which the public numbers of the key
are read. -/
structure Publishes (library : KeyLibrary) (algorithm : String) (key : PublishedKey) :
    Prop where
  kid : key.publicJwk.lookup "kid" = some key.record.kid
  rsa : algorithm = "RS256" →
    key.publicJwk.lookup "kty" = some "RSA" ∧
      readNumber key.publicJwk "n" =
        some (library.rsaNumbers key.record.publicPem).n ∧
      readNumber key.publicJwk "e" =
        some (library.rsaNumbers key.record.publicPem).e
  ec : algorithm ≠ "RS256" →
    key.publicJwk.lookup "kty" = some "EC" ∧
      readCoordinate key.publicJwk "x" =
        some (library.ecNumbers key.record.publicPem).x ∧
      readCoordinate key.publicJwk "y" =
        some (library.ecNumbers key.record.publicPem).y

theorem readOctets_of_lookup {jwk : Jwk} {name text : String} {raw : List UInt8}
    {value : Nat} (found : jwk.lookup name = some text)
    (carries : Carries text raw value) : readOctets jwk name = some raw := by
  rw [readOctets, found, Option.bind_some, carries.decodes]

theorem readNumber_of_lookup {jwk : Jwk} {name text : String} {raw : List UInt8}
    {value : Nat} (found : jwk.lookup name = some text)
    (carries : Carries text raw value) : readNumber jwk name = some value := by
  rw [readNumber, readOctets_of_lookup found carries, Option.map_some, carries.number]

theorem readCoordinate_of_lookup {jwk : Jwk} {name text : String} {raw : List UInt8}
    {value : Nat} (found : jwk.lookup name = some text)
    (carries : Carries text raw value) (length : raw.length = 32) :
    readCoordinate jwk name = some value := by
  rw [readCoordinate, readOctets_of_lookup found carries,
    Option.filter_some, if_pos (by simpa using length), Option.map_some, carries.number]

/-! ### Generation -/

namespace KeyLibrary

variable {library : KeyLibrary} {algorithm : String}

theorem rsaJwk_reads (numbers : RsaPublicNumbers) :
    ∃ jwk, rsaJwk numbers = .ok jwk ∧ jwk.lookup "kty" = some "RSA" ∧
      jwk.lookup "kid" = none ∧ readNumber jwk "n" = some numbers.n ∧
      readNumber jwk "e" = some numbers.e := by
  obtain ⟨nRaw, n, nRawEq, nEq, nCarries, -⟩ := shortest_carries numbers.n
  obtain ⟨eRaw, e, eRawEq, eEq, eCarries, -⟩ := shortest_carries numbers.e
  refine ⟨[("kty", "RSA"), ("use", "sig"), ("alg", "RS256"), ("n", n), ("e", e)], ?_,
    rfl, rfl, readNumber_of_lookup rfl nCarries, readNumber_of_lookup rfl eCarries⟩
  rw [rsaJwk, nRawEq, eRawEq]
  simp only [bind, Except.bind, nEq, eEq]
  rfl

theorem ecJwk_reads (numbers : EcPublicNumbers) :
    ∃ jwk, ecJwk numbers = .ok jwk ∧ jwk.lookup "kty" = some "EC" ∧
      jwk.lookup "kid" = none ∧ readCoordinate jwk "x" = some numbers.x ∧
      readCoordinate jwk "y" = some numbers.y := by
  obtain ⟨xRaw, x, xRawEq, xEq, xCarries, -, xLength⟩ := coordinate_carries numbers.xSmall
  obtain ⟨yRaw, y, yRawEq, yEq, yCarries, -, yLength⟩ := coordinate_carries numbers.ySmall
  refine ⟨[("kty", "EC"), ("use", "sig"), ("alg", "ES256"), ("crv", "P-256"), ("x", x),
    ("y", y)], ?_, rfl, rfl, readCoordinate_of_lookup rfl xCarries xLength,
    readCoordinate_of_lookup rfl yCarries yLength⟩
  rw [ecJwk, xRawEq, yRawEq]
  simp only [bind, Except.bind, xEq, yEq]
  rfl

/-- The kid of a public key. -/
def kidOf (library : KeyLibrary) (publicPem : String) : String :=
  String.ofList (Base64Url.encode ((library.sha256 (UrlQuery.utf8 publicPem)).take 12))

theorem buildKid_eq (library : KeyLibrary) (publicPem : String) :
    library.buildKid publicPem = .ok (library.kidOf publicPem) :=
  base64urlEncode_eq _

/-- The kid comes last in a JWK, and hides nothing of it. -/
theorem lookup_append_kid {jwk : Jwk} {name kid : String} (other : name ≠ "kid") :
    (jwk ++ [("kid", kid)]).lookup name = jwk.lookup name := by
  have absent : List.lookup name [("kid", kid)] = none := by
    rw [List.lookup_cons, beq_eq_false_iff_ne.mpr other]
    rfl
  rw [List.lookup_append, absent, Option.or_none]

theorem readNumber_append_kid {jwk : Jwk} {name kid : String} (other : name ≠ "kid") :
    readNumber (jwk ++ [("kid", kid)]) name = readNumber jwk name := by
  rw [readNumber, readOctets, lookup_append_kid other]
  rfl

theorem readCoordinate_append_kid {jwk : Jwk} {name kid : String}
    (other : name ≠ "kid") :
    readCoordinate (jwk ++ [("kid", kid)]) name = readCoordinate jwk name := by
  rw [readCoordinate, readOctets, lookup_append_kid other]
  rfl

theorem lookup_kid {jwk : Jwk} {kid : String} (absent : jwk.lookup "kid" = none) :
    (jwk ++ [("kid", kid)]).lookup "kid" = some kid := by
  rw [List.lookup_append, absent, Option.none_or, List.lookup_cons_self]

/-- The record of a key pair. -/
def keyRecord (library : KeyLibrary) (algorithm : String) (count : Nat)
    (createdAt : Int) : KeyRecord :=
  let privatePem := library.privatePem algorithm count
  let publicPem := library.publicPem privatePem
  ⟨library.kidOf publicPem, createdAt, privatePem, publicPem⟩

/-- Generation never fails, and the JWK publishes the numbers of the key. -/
theorem generateKeyRecord_publishes (count : Nat) (createdAt : Int) :
    ∃ key, library.generateKeyRecord algorithm count createdAt = .ok key ∧
      key.record = library.keyRecord algorithm count createdAt ∧
      Publishes library algorithm key := by
  let privatePem := library.privatePem algorithm count
  let publicPem := library.publicPem privatePem
  let kid := library.kidOf publicPem
  by_cases isRsa : algorithm = "RS256"
  · obtain ⟨jwk, jwkEq, kty, noKid, n, e⟩ := rsaJwk_reads (library.rsaNumbers publicPem)
    refine ⟨⟨⟨kid, createdAt, privatePem, publicPem⟩, jwk ++ [("kid", kid)]⟩, ?_, rfl,
      lookup_kid noKid, fun _ => ⟨?_, ?_, ?_⟩, absurd isRsa⟩
    · simp only [generateKeyRecord, if_pos isRsa, buildKid_eq, bind, Except.bind]
      exact congrArg (Except.map _) jwkEq
    · exact (lookup_append_kid (by decide)).trans kty
    · exact (readNumber_append_kid (by decide)).trans n
    · exact (readNumber_append_kid (by decide)).trans e
  · obtain ⟨jwk, jwkEq, kty, noKid, x, y⟩ := ecJwk_reads (library.ecNumbers publicPem)
    refine ⟨⟨⟨kid, createdAt, privatePem, publicPem⟩, jwk ++ [("kid", kid)]⟩, ?_, rfl,
      lookup_kid noKid, fun rsa => absurd rsa isRsa, fun _ => ⟨?_, ?_, ?_⟩⟩
    · simp only [generateKeyRecord, if_neg isRsa, buildKid_eq, bind, Except.bind]
      exact congrArg (Except.map _) jwkEq
    · exact (lookup_append_kid (by decide)).trans kty
    · exact (readCoordinate_append_kid (by decide)).trans x
    · exact (readCoordinate_append_kid (by decide)).trans y

end KeyLibrary

/-! ### The published key set -/

section Published

variable {library : KeyLibrary} {algorithm : String} {keys : List PublishedKey}

/-- The keys have been generated for the algorithm. -/
def Generated (library : KeyLibrary) (algorithm : String) (keys : List PublishedKey) :
    Prop :=
  ∀ key ∈ keys, ∃ count createdAt,
    library.generateKeyRecord algorithm count createdAt = .ok key

theorem publishes_of_generated (generated : Generated library algorithm keys)
    {key : PublishedKey}
    (keyMem : key ∈ keys) : Publishes library algorithm key := by
  obtain ⟨count, createdAt, isGenerated⟩ := generated key keyMem
  obtain ⟨same, sameEq, -, publishes⟩ :=
    @KeyLibrary.generateKeyRecord_publishes library algorithm count createdAt
  rw [isGenerated] at sameEq
  cases sameEq
  exact publishes

/-- A relying party that looks for the kid of a key finds its JWK. -/
theorem jwks_find (asymmetric : algorithm ∈ asymmetricSigningAlgorithms)
    (generated : Generated library algorithm keys)
    (nodup : (keys.map fun key => key.record.kid).Nodup) {key : PublishedKey}
    (keyMem : key ∈ keys) :
    (jwks algorithm keys).find? (fun jwk => jwk.lookup "kid" = some key.record.kid) =
      some key.publicJwk := by
  rw [jwks, if_pos asymmetric, List.find?_map]
  cases found : keys.find?
      ((fun jwk => decide (jwk.lookup "kid" = some key.record.kid)) ∘
        PublishedKey.publicJwk) with
  | none =>
      have isOther := List.find?_eq_none.mp found key keyMem
      exact absurd
        (decide_eq_true (publishes_of_generated generated keyMem).kid) isOther
  | some other =>
      have otherMem := List.mem_of_find?_eq_some found
      have hasKid : other.publicJwk.lookup "kid" = some key.record.kid := by
        simpa using List.find?_some found
      rw [(publishes_of_generated generated otherMem).kid] at hasKid
      rw [List.inj_on_of_nodup_map nodup otherMem keyMem (Option.some.inj hasKid)]
      rfl

end Published

end PublicJwks

end HexIam
