import HexIam.SpacedTimes
import HexIam.Tokens

/-!
# Key sets

The content of the key-set file and what `signing_keys` makes of it: the first
key set, the key set after a rotation, and the pruning of old keys.
-/

namespace HexIam

/-! ## Configuration and content -/

/-- The settings of a signing-key manager.  The check interval is at least
one. -/
structure RotationConfig where
  algorithm : String
  rotationEnabled : Bool
  rotationInterval : Int
  retention : Int
  checkInterval : Int
  checked : 1 ≤ checkInterval

/-- The JSON document of a key set. -/
structure Keyset where
  algorithm : String
  activeKid : String
  keys : List KeyRecord
  deriving DecidableEq, Repr

/-- The key pairs that are generated, one after the other.  The kid is a hash of
the public key; fresh keys have different kids. -/
structure KeyGenerator where
  privatePem : Nat → String
  publicOf : String → String
  buildKid : String → String
  fresh : Function.Injective fun count => buildKid (publicOf (privatePem count))

/-- `_generate_key_record_locked`. -/
def KeyGenerator.generateKeyRecord (generator : KeyGenerator) (count : Nat)
    (now : Int) : KeyRecord where
  kid := generator.buildKid (generator.publicOf (generator.privatePem count))
  createdAt := now
  privatePem := generator.privatePem count
  publicPem := generator.publicOf (generator.privatePem count)

namespace Keyset

variable (config : RotationConfig)

/-- `_build_initial_state_locked`. -/
def buildInitialState (key : KeyRecord) : Keyset where
  algorithm := config.algorithm
  activeKid := key.kid
  keys := [key]

/-- The manager of a process that has the key set in memory. -/
def manager (secret : String) (state : Keyset) : SigningKeyManager where
  algorithm := config.algorithm
  secret := secret
  activeKid := state.activeKid
  keys := state.keys

/-- `_get_active_key_locked`. -/
def getActiveKey (state : Keyset) : Except Exn KeyRecord :=
  (state.manager config "").getActiveKey

/-- `_prune_keys`. -/
def pruneKeys (now : Int) (keys : List KeyRecord) (activeKid : String) :
    List KeyRecord :=
  let cutoff := now - max config.retention 0
  keys.filter fun item => item.kid = activeKid || cutoff ≤ item.createdAt

/-- The active key has reached the rotation interval. -/
def due (now : Int) (activeKey : KeyRecord) : Bool :=
  config.rotationInterval ≤ now - activeKey.createdAt

/-- The key set that a rotation writes. -/
def rotated (now : Int) (newKey : KeyRecord) (state : Keyset) : Keyset where
  algorithm := state.algorithm
  activeKid := newKey.kid
  keys := pruneKeys config now (state.keys ++ [newKey]) newKey.kid

/-- The keys are in order of creation and at least a rotation interval apart,
their kids differ, and the last key is the active one. -/
structure WellFormed (state : Keyset) : Prop where
  spaced : Spaced config.rotationInterval (state.keys.map KeyRecord.createdAt)
  nodup : (state.keys.map KeyRecord.kid).Nodup
  active : state.keys.getLast?.map KeyRecord.kid = some state.activeKid

variable {config} {state : Keyset}

/-- The active key of a well-formed key set is its last key. -/
theorem WellFormed.exists_last (wellFormed : state.WellFormed config) :
    ∃ front last, state.keys = front ++ [last] ∧ last.kid = state.activeKid := by
  obtain ⟨last, lastEq, kidEq⟩ := Option.map_eq_some_iff.mp wellFormed.active
  obtain ⟨front, keysEq⟩ := List.getLast?_eq_some_iff.mp lastEq
  exact ⟨front, last, keysEq, kidEq⟩

theorem WellFormed.getActiveKey_eq (wellFormed : state.WellFormed config)
    {last : KeyRecord} (lastEq : state.keys.getLast? = some last) :
    state.getActiveKey config = .ok last := by
  obtain ⟨front, keysEq⟩ := List.getLast?_eq_some_iff.mp lastEq
  have kidEq : last.kid = state.activeKid := by
    simpa [lastEq] using wellFormed.active
  have nodup := wellFormed.nodup
  have others : ∀ item ∈ front, ¬ item.kid = state.activeKid := by
    intro item itemMem same
    rw [keysEq, List.map_append, List.nodup_append] at nodup
    exact nodup.2.2 item.kid (List.mem_map_of_mem itemMem) last.kid (by simp)
      (same.trans kidEq.symm)
  have found : state.keys.find? (fun item => item.kid = state.activeKid) =
      some last := by
    rw [keysEq, List.find?_append, List.find?_eq_none.mpr (by simpa using others)]
    simp [kidEq]
  unfold getActiveKey SigningKeyManager.getActiveKey manager
  simp only [found]

theorem WellFormed.getActiveKey_isOk (wellFormed : state.WellFormed config) :
    ∃ activeKey, state.getActiveKey config = .ok activeKey ∧
      state.keys.getLast? = some activeKey := by
  obtain ⟨front, last, keysEq, -⟩ := wellFormed.exists_last
  have lastEq : state.keys.getLast? = some last := by simp [keysEq]
  exact ⟨last, wellFormed.getActiveKey_eq lastEq, lastEq⟩

theorem wellFormed_buildInitialState (key : KeyRecord) :
    (buildInitialState config key).WellFormed config where
  spaced := Spaced.singleton _ _
  nodup := List.nodup_singleton _
  active := rfl

theorem mem_pruneKeys {now : Int} {keys : List KeyRecord} {activeKid : String}
    {item : KeyRecord} :
    item ∈ pruneKeys config now keys activeKid ↔
      item ∈ keys ∧ (item.kid = activeKid ∨
        now - max config.retention 0 ≤ item.createdAt) := by
  simp [pruneKeys, List.mem_filter]

theorem rotated_keys (now : Int) (newKey : KeyRecord) (state : Keyset) :
    (rotated config now newKey state).keys =
      pruneKeys config now state.keys newKey.kid ++ [newKey] := by
  simp [rotated, pruneKeys, List.filter_append]

theorem WellFormed.rotated (wellFormed : state.WellFormed config)
    {activeKey newKey : KeyRecord}
    (active : state.getActiveKey config = .ok activeKey) {before now : Int}
    (isDue : due config before activeKey = true)
    (later : before ≤ newKey.createdAt)
    (after : activeKey.createdAt ≤ newKey.createdAt)
    (isNew : newKey.kid ∉ state.keys.map KeyRecord.kid) :
    (rotated config now newKey state).WellFormed config := by
  obtain ⟨last, found, lastEq⟩ := wellFormed.getActiveKey_isOk
  cases active.symm.trans found
  obtain ⟨front, keysEq⟩ := List.getLast?_eq_some_iff.mp lastEq
  have kept : (pruneKeys config now (state.keys ++ [newKey]) newKey.kid).Sublist
      (state.keys ++ [newKey]) := List.filter_sublist
  refine ⟨?_, ?_, ?_⟩
  · refine Spaced.sublist (kept.map _) ?_
    have spaced := wellFormed.spaced
    rw [keysEq, List.map_append] at spaced
    rw [keysEq, List.map_append, List.map_append]
    refine Spaced.concat spaced after ?_
    have age : config.rotationInterval ≤ before - activeKey.createdAt := by
      simpa [due] using isDue
    linarith
  · refine List.Nodup.sublist (kept.map _) ?_
    rw [List.map_append, List.map_singleton, ← List.concat_eq_append]
    exact wellFormed.nodup.concat isNew
  · rw [rotated_keys]
    simp [Keyset.rotated]

/-- At most one key more than rotation intervals fit in the retention time is
left by a rotation. -/
theorem length_rotated_le (positive : 0 < config.rotationInterval) {now : Int}
    {newKey : KeyRecord}
    (wellFormed : (rotated config now newKey state).WellFormed config)
    (created : newKey.createdAt ≤ now) :
    ((rotated config now newKey state).keys.length : Int) ≤
      max config.retention 0 / config.rotationInterval + 1 := by
  have spaced := wellFormed.spaced
  have nodup := wellFormed.nodup
  rw [rotated_keys, List.map_append] at spaced nodup
  have upper : ∀ time ∈ (rotated config now newKey state).keys.map
      KeyRecord.createdAt, time ≤ newKey.createdAt := by
    rw [rotated_keys, List.map_append]
    intro time timeMem
    rcases List.mem_append.mp timeMem with before | same
    · exact ((List.pairwise_append.mp spaced).2.2 time before newKey.createdAt
        (by simp)).1
    · exact (List.mem_singleton.mp same).le
  have lower : ∀ time ∈ (rotated config now newKey state).keys.map
      KeyRecord.createdAt, newKey.createdAt - max config.retention 0 ≤ time := by
    rw [rotated_keys, List.map_append]
    intro time timeMem
    rcases List.mem_append.mp timeMem with before | same
    · obtain ⟨item, itemMem, rfl⟩ := List.mem_map.mp before
      rcases (mem_pruneKeys.mp itemMem).2 with sameKid | recent
      · exact absurd sameKid ((List.nodup_append.mp nodup).2.2 item.kid
          (List.mem_map_of_mem itemMem) newKey.kid (by simp))
      · linarith
    · have nonneg := le_max_right config.retention 0
      rw [List.mem_singleton.mp same]
      linarith
  have nonneg := le_max_right config.retention 0
  have bounded := Spaced.length_le positive wellFormed.spaced lower upper
    (by linarith)
  rwa [List.length_map, sub_sub_cancel] at bounded

end Keyset

end HexIam
