import HexIam.GuardedRun
import HexIam.KeyTokens
import HexIam.PublicJwks

/-!
# The published keys of a rotating key set

A relying party looks up the kid of a token in the JSON Web Key Set.  Whatever
rotations come in between, a token that is signed now finds there, until the
retention time of its key is over, the JWK from which the public key of its
signature is read.
-/

namespace HexIam

open GuardedRun PublicJwks

/-- The JSON document of a key set, with the JWKs of its records. -/
structure PublishedKeyset where
  algorithm : String
  activeKid : String
  keys : List PublishedKey

namespace PublishedKeyset

/-- The key set without its JWKs. -/
def content (keyset : PublishedKeyset) : Keyset where
  algorithm := keyset.algorithm
  activeKid := keyset.activeKid
  keys := keyset.keys.map PublishedKey.record

variable (config : RotationConfig)

/-- `_build_initial_state_locked`. -/
def buildInitialState (key : PublishedKey) : PublishedKeyset where
  algorithm := config.algorithm
  activeKid := key.record.kid
  keys := [key]

/-- `_prune_keys`. -/
def pruneKeys (now : Int) (keys : List PublishedKey) (activeKid : String) :
    List PublishedKey :=
  let cutoff := now - max config.retention 0
  keys.filter fun item =>
    item.record.kid = activeKid || cutoff ≤ item.record.createdAt

/-- The key set that a rotation writes. -/
def rotated (now : Int) (newKey : PublishedKey) (keyset : PublishedKeyset) :
    PublishedKeyset where
  algorithm := keyset.algorithm
  activeKid := newKey.record.kid
  keys := pruneKeys config now (keyset.keys ++ [newKey]) newKey.record.kid

variable {config}

theorem mem_rotated {now : Int} {newKey key : PublishedKey}
    {keyset : PublishedKeyset} :
    key ∈ (keyset.rotated config now newKey).keys ↔
      (key ∈ keyset.keys ∨ key = newKey) ∧ (key.record.kid = newKey.record.kid ∨
        now - max config.retention 0 ≤ key.record.createdAt) := by
  simp only [rotated, pruneKeys, List.mem_filter, List.mem_append,
    List.mem_singleton, Bool.or_eq_true, decide_eq_true_eq]

theorem content_buildInitialState (key : PublishedKey) :
    (buildInitialState config key).content =
      Keyset.buildInitialState config key.record :=
  rfl

/-- The records rotate as they do without their JWKs. -/
theorem content_rotated (now : Int) (newKey : PublishedKey)
    (keyset : PublishedKeyset) :
    (keyset.rotated config now newKey).content =
      keyset.content.rotated config now newKey.record := by
  simp only [content, rotated, pruneKeys, Keyset.rotated, Keyset.pruneKeys,
    Keyset.mk.injEq, true_and]
  rw [← List.map_singleton, ← List.map_append, List.filter_map]
  rfl

end PublishedKeyset

namespace JwksRotation

/-! ## Rotations -/

/-- The key set of the file, with the number of keys generated for it and the
last time at which it was looked at. -/
structure KeyFile where
  clock : Int
  count : Nat
  keyset : PublishedKeyset

/-- The three times that a rotation reads: to see whether the active key is due,
for the new key, and to prune the old ones. -/
structure Rotation where
  checked : Int
  created : Int
  pruned : Int

variable (config : RotationConfig) (library : KeyLibrary)

/-- A file that is new. -/
def Initial (file : KeyFile) : Prop :=
  ∃ key, library.generateKeyRecord config.algorithm 0 file.clock = .ok key ∧
    file.count = 1 ∧ file.keyset = .buildInitialState config key

/-- `_maybe_rotate_locked` under the file lock.  The clock does not go back. -/
def step (file : KeyFile) (rotation : Rotation) : Option KeyFile :=
  if file.clock ≤ rotation.checked ∧ rotation.checked ≤ rotation.created ∧
      rotation.created ≤ rotation.pruned then
    let kept := { file with clock := rotation.pruned }
    if config.rotationEnabled && 0 < config.rotationInterval then
      match file.keyset.content.getActiveKey config with
      | .error _ => some kept
      | .ok activeKey =>
          if Keyset.due config rotation.checked activeKey then
            match library.generateKeyRecord config.algorithm file.count
              rotation.created with
            | .error _ => some kept
            | .ok newKey => some {
                clock := rotation.pruned
                count := file.count + 1
                keyset := file.keyset.rotated config rotation.pruned newKey }
          else some kept
    else some kept
  else none

/-- The next key to be generated has a kid that no key of the file has: the
digests of the public keys do not begin alike. -/
def NoCollision (file : KeyFile) (rotation : Rotation) : Prop :=
  (library.keyRecord config.algorithm file.count rotation.created).kid ∉
    file.keyset.keys.map fun key => key.record.kid

/-- The keys of the file were generated for it, and are in good order. -/
structure Valid (file : KeyFile) : Prop where
  wellFormed : file.keyset.content.WellFormed config
  generated : Generated library config.algorithm file.keyset.keys
  past : ∀ key ∈ file.keyset.keys, key.record.createdAt ≤ file.clock

/-- The key is in the file, or its retention time is over. -/
def Retained (key : PublishedKey) (file : KeyFile) : Prop :=
  key ∈ file.keyset.keys ∨
    key.record.createdAt + max config.retention 0 < file.clock

variable {config} {library} {file next : KeyFile} {rotation : Rotation}

theorem step_cases (stepEq : step config library file rotation = some next) :
    file.clock ≤ rotation.pruned ∧
      (next = { file with clock := rotation.pruned } ∨
        ∃ activeKey newKey, file.keyset.content.getActiveKey config = .ok activeKey ∧
          Keyset.due config rotation.checked activeKey = true ∧
          library.generateKeyRecord config.algorithm file.count rotation.created =
            .ok newKey ∧
          file.clock ≤ rotation.created ∧ rotation.checked ≤ rotation.created ∧
          rotation.created ≤ rotation.pruned ∧
          next = ⟨rotation.pruned, file.count + 1,
            file.keyset.rotated config rotation.pruned newKey⟩) := by
  unfold step at stepEq
  split at stepEq
  case isFalse => cases stepEq
  case isTrue ordered =>
    obtain ⟨checked, created, pruned⟩ := ordered
    refine ⟨by linarith, ?_⟩
    dsimp only at stepEq
    split at stepEq
    case isFalse => exact .inl (Option.some.inj stepEq).symm
    case isTrue =>
      split at stepEq
      case h_1 => exact .inl (Option.some.inj stepEq).symm
      case h_2 activeKey active =>
        split at stepEq
        case isFalse => exact .inl (Option.some.inj stepEq).symm
        case isTrue isDue =>
          split at stepEq
          case h_1 => exact .inl (Option.some.inj stepEq).symm
          case h_2 newKey generated =>
            exact .inr ⟨activeKey, newKey, active, isDue, generated, by linarith,
              created, pruned, (Option.some.inj stepEq).symm⟩

theorem Valid.nodup (valid : Valid config library file) :
    (file.keyset.keys.map fun key => key.record.kid).Nodup := by
  have nodup := valid.wellFormed.nodup
  rwa [PublishedKeyset.content, List.map_map] at nodup

theorem valid_of_initial (initial : Initial config library file) :
    Valid config library file := by
  obtain ⟨key, isGenerated, -, keysetEq⟩ := initial
  obtain ⟨same, sameEq, recordEq, -⟩ :=
    @KeyLibrary.generateKeyRecord_publishes library config.algorithm 0 file.clock
  cases isGenerated.symm.trans sameEq
  refine ⟨?_, ?_, ?_⟩
  · rw [keysetEq, PublishedKeyset.content_buildInitialState]
    exact Keyset.wellFormed_buildInitialState key.record
  · rw [keysetEq]
    intro held heldMem
    obtain rfl := List.mem_singleton.mp heldMem
    exact ⟨0, file.clock, isGenerated⟩
  · rw [keysetEq]
    intro held heldMem
    obtain rfl := List.mem_singleton.mp heldMem
    exact (congrArg KeyRecord.createdAt recordEq).le

theorem valid_step (file : KeyFile) (rotation : Rotation) (next : KeyFile)
    (valid : Valid config library file)
    (distinct : NoCollision config library file rotation)
    (stepEq : step config library file rotation = some next) :
    Valid config library next := by
  obtain ⟨later, rfl | ⟨activeKey, newKey, active, isDue, isGenerated,
    afterAll, checked, created, rfl⟩⟩ := step_cases stepEq
  · exact ⟨valid.wellFormed, valid.generated,
      fun key keyMem => (valid.past key keyMem).trans later⟩
  obtain ⟨same, sameEq, recordEq, -⟩ :=
    @KeyLibrary.generateKeyRecord_publishes library config.algorithm file.count
      rotation.created
  cases isGenerated.symm.trans sameEq
  have createdAt : newKey.record.createdAt = rotation.created :=
    congrArg KeyRecord.createdAt recordEq
  refine ⟨?_, fun key keyMem => ?_, fun key keyMem => ?_⟩
  · rw [PublishedKeyset.content_rotated]
    obtain ⟨last, found, lastEq⟩ := valid.wellFormed.getActiveKey_isOk
    cases active.symm.trans found
    obtain ⟨key, keyMem, keyEq⟩ := List.mem_map.mp (List.mem_of_getLast? lastEq)
    have past := valid.past key keyMem
    rw [keyEq] at past
    refine valid.wellFormed.rotated active isDue (createdAt ▸ checked) (by linarith) ?_
    rw [recordEq, PublishedKeyset.content, List.map_map]
    exact distinct
  · rcases (PublishedKeyset.mem_rotated.mp keyMem).1 with before | rfl
    · exact valid.generated key before
    · exact ⟨file.count, rotation.created, isGenerated⟩
  · rcases (PublishedKeyset.mem_rotated.mp keyMem).1 with before | rfl
    · exact (valid.past key before).trans later
    · exact createdAt ▸ created

/-- A step drops a key only after its retention time. -/
theorem retained_step {key : PublishedKey} (file : KeyFile) (rotation : Rotation)
    (next : KeyFile) (retained : Retained config key file)
    (stepEq : step config library file rotation = some next) :
    Retained config key next := by
  obtain ⟨later, rfl | ⟨activeKey, newKey, -, -, -, -, -, -, rfl⟩⟩ :=
    step_cases stepEq
  · exact retained.imp_right fun passed => lt_of_lt_of_le passed later
  rcases retained with keyMem | passed
  · by_cases recent : rotation.pruned - max config.retention 0 ≤ key.record.createdAt
    · exact .inl (PublishedKeyset.mem_rotated.mpr ⟨.inl keyMem, .inr recent⟩)
    · refine .inr ?_
      change key.record.createdAt + max config.retention 0 < rotation.pruned
      linarith
  · exact .inr (lt_of_lt_of_le passed later)

/-! ## Relying parties -/

/-- The JWK that a relying party finds under the kid. -/
def lookup (jwks : List Jwk) (kid : String) : Option Jwk :=
  jwks.find? fun jwk => jwk.lookup "kid" = some kid

/-- In every run of rotations in which kids do not collide: a token that is
signed under the key set of some state names a kid under which the published key
set of every later state has, up to the end of the retention time of the key,
the JWK from which the public key of the signing key is read. -/
theorem published_until_retired {before after : List Rotation}
    {start signing later : KeyFile} {jwt : JwtLibrary} {claims : Claims}
    {header : TokenHeader} {secret : String} {token : SignedToken}
    (asymmetric : config.algorithm ∈ asymmetricSigningAlgorithms)
    (initial : Initial config library start)
    (distinct : Along (step config library) (NoCollision config library) start
      (before ++ after))
    (reached : exec (step config library) start before = some signing)
    (signed : (signing.keyset.content.manager config secret).signToken jwt claims
      header none none = .ok token)
    (runs : exec (step config library) signing after = some later) :
    ∃ key ∈ signing.keyset.keys,
      token.compact = jwt.encode claims key.record.privatePem config.algorithm
        { header with kid := some key.record.kid } ∧
      key.record.publicPem = library.publicPem key.record.privatePem ∧
      (later.clock ≤ key.record.createdAt + max config.retention 0 →
        lookup (jwks config.algorithm later.keyset.keys) key.record.kid =
            some key.publicJwk ∧
          Publishes library config.algorithm key) := by
  have validSigning : Valid config library signing :=
    invariant_along valid_step (valid_of_initial initial) (along_of_append distinct)
      reached
  have validLater : Valid config library later :=
    invariant_along valid_step validSigning (along_rest distinct reached) runs
  obtain ⟨record, active, lastEq⟩ := validSigning.wellFormed.getActiveKey_isOk
  obtain ⟨key, keyMem, rfl⟩ := List.mem_map.mp (List.mem_of_getLast? lastEq)
  obtain ⟨-, compactEq⟩ := Keyset.signToken_eq_ok asymmetric active signed
  have publishes := publishes_of_generated validSigning.generated keyMem
  refine ⟨key, keyMem, compactEq, ?_, fun recent => ⟨?_, publishes⟩⟩
  · obtain ⟨count, createdAt, isGenerated⟩ := validSigning.generated key keyMem
    obtain ⟨same, sameEq, recordEq, -⟩ :=
      @KeyLibrary.generateKeyRecord_publishes library config.algorithm count createdAt
    cases isGenerated.symm.trans sameEq
    rw [recordEq]
    rfl
  · have retained : Retained config key later :=
      invariant retained_step (.inl keyMem) runs
    have keyMemLater := retained.resolve_right (not_lt.mpr recent)
    exact jwks_find asymmetric validLater.generated validLater.nodup keyMemLater

/-! ## One rotation -/

/-- Keys that are numbered, with digests that show them. -/
def numberedKeys : KeyLibrary where
  generateRsa count := String.ofList (List.replicate count 'k')
  generateEc count := String.ofList (List.replicate count 'k')
  publicPem privatePem := privatePem ++ " public"
  rsaNumbers publicPem := ⟨publicPem.length, 65537⟩
  ecNumbers _ := ⟨0, 0, Nat.two_pow_pos 256, Nat.two_pow_pos 256⟩
  sha256 octets := octets

theorem one_le_checkInterval : (1 : Int) ≤ 1 :=
  Int.le_refl 1

def everyTen : RotationConfig where
  algorithm := "RS256"
  rotationEnabled := true
  rotationInterval := 10
  retention := 100
  checkInterval := 1
  checked := one_le_checkInterval

def firstKey : PublishedKey where
  record := numberedKeys.keyRecord "RS256" 0 0
  publicJwk := [("kty", "RSA"), ("use", "sig"), ("alg", "RS256"), ("n", "Bw"),
    ("e", "AQAB"), ("kid", "IHB1YmxpYw")]

def firstFile : KeyFile where
  clock := 0
  count := 1
  keyset := .buildInitialState everyTen firstKey

/-- A token is signed under the first key, which a rotation replaces. -/
theorem first_key_published : ∃ later,
    exec (step everyTen numberedKeys) firstFile [⟨10, 10, 10⟩] = some later ∧
      later.keyset.activeKid ≠ firstKey.record.kid ∧
      lookup (jwks "RS256" later.keyset.keys) firstKey.record.kid =
        some firstKey.publicJwk := by
  have initial : Initial everyTen numberedKeys firstFile := ⟨_, rfl, rfl, rfl⟩
  have distinct : Along (step everyTen numberedKeys) (NoCollision everyTen numberedKeys)
      firstFile ([] ++ [⟨10, 10, 10⟩]) := by
    refine ⟨?_, fun next _ => trivial⟩
    change _ ∉ [_]
    decide +kernel
  have reached : exec (step everyTen numberedKeys) firstFile [] = some firstFile := rfl
  have runs : exec (step everyTen numberedKeys) firstFile [⟨10, 10, 10⟩] = some _ :=
    rfl
  obtain ⟨key, keyMem, -, -, published⟩ := @published_until_retired everyTen
    numberedKeys _ _ _ _ _ (KeyTokens.shownJwt id) {} {} "" _ List.mem_cons_self
    initial distinct reached rfl runs
  obtain rfl := List.mem_singleton.mp keyMem
  refine ⟨_, runs, ?_, (published ?_).1⟩
  · decide +kernel
  · decide

end JwksRotation

end HexIam
