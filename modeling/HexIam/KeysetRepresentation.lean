import HexIam.KeyFile

/-!
# The representation of the key set

From a missing file on, every key set in the file lists its keys in order of
creation at least a rotation interval apart, under different kids, with the
active key last and no more keys than the retention time has room for; and
`_get_active_key_locked` finds the active key wherever it is called.
-/

namespace HexIam

open GuardedRun KeyFile

/-- A well-formed key set of generated keys. -/
structure Keyset.Generated (config : RotationConfig) (generator : KeyGenerator)
    (count : Nat) (now : Int) (content : Keyset) : Prop where
  wellFormed : content.WellFormed config
  algorithm : content.algorithm = config.algorithm
  records : ∀ item ∈ content.keys, item.createdAt ≤ now ∧
    ∃ number < count, item = generator.generateKeyRecord number item.createdAt

namespace Keyset.Generated

variable {config : RotationConfig} {generator : KeyGenerator}
  {content : Keyset} {count : Nat} {now : Int}

theorem isNew (generated : content.Generated config generator count now)
    (created : Int) :
    (generator.generateKeyRecord count created).kid ∉
      content.keys.map KeyRecord.kid := by
  intro held
  obtain ⟨item, itemMem, kidEq⟩ := List.mem_map.mp held
  obtain ⟨-, number, older, itemEq⟩ := generated.records item itemMem
  rw [itemEq] at kidEq
  have same : number = count := generator.fresh kidEq
  exact absurd older (same ▸ Nat.lt_irrefl _)

theorem rotated {before created : Int} {activeKey : KeyRecord}
    (generated : content.Generated config generator count created)
    (active : content.getActiveKey config = .ok activeKey)
    (isDue : Keyset.due config before activeKey = true)
    (beforeCreated : before ≤ created) (createdNow : created ≤ now) :
    (content.rotated config now
      (generator.generateKeyRecord count created)).Generated config generator
        (count + 1) now := by
  obtain ⟨last, found, lastEq⟩ := generated.wellFormed.getActiveKey_isOk
  cases active.symm.trans found
  have activeMem := List.mem_of_getLast? lastEq
  have after := (generated.records activeKey activeMem).1
  refine ⟨generated.wellFormed.rotated active isDue beforeCreated after
    (generated.isNew created), generated.algorithm, ?_⟩
  intro item itemMem
  rw [Keyset.rotated_keys] at itemMem
  rcases List.mem_append.mp itemMem with kept | isNew
  · obtain ⟨past, number, older, itemEq⟩ :=
      generated.records item (Keyset.mem_pruneKeys.mp kept).1
    exact ⟨past.trans createdNow, number, Nat.lt_succ_of_lt older, itemEq⟩
  · rw [List.mem_singleton.mp isNew]
    exact ⟨createdNow, count, Nat.lt_succ_self count, rfl⟩

theorem maintained (config : RotationConfig) (generator : KeyGenerator) :
    Maintained config generator
      (Keyset.Generated config generator) where
  mono generated moreCount laterNow :=
    ⟨generated.wellFormed, generated.algorithm, fun item itemMem => by
      obtain ⟨past, number, older, itemEq⟩ := generated.records item itemMem
      exact ⟨past.trans laterNow, number, older.trans_le moreCount, itemEq⟩⟩
  initial count now :=
    ⟨Keyset.wellFormed_buildInitialState _, rfl, fun item itemMem => by
      rw [List.mem_singleton.mp itemMem]
      exact ⟨le_rfl, count, Nat.lt_succ_self count, rfl⟩⟩
  rotated := rotated

end Keyset.Generated

namespace KeysetRepresentation

variable {Process : Type} [DecidableEq Process]

/-- The key set has room in the retention time. -/
def Bounded (config : RotationConfig) (content : Keyset) : Prop :=
  0 < config.rotationInterval → (content.keys.length : Int) ≤
    max config.retention 0 / config.rotationInterval + 1

/-- The representation of the key set in the file, and the active key in every
memory that is asked for it. -/
structure Representation (config : RotationConfig) (world : KeyWorld Process) :
    Prop where
  wellFormed : ∀ version ∈ world.file, version.content.WellFormed config
  bounded : ∀ version ∈ world.file, Bounded config version.content
  active : ∀ process, (world.processes process).phase = .loaded ∨
    (world.processes process).phase = .deciding ∨
    (world.processes process).phase = .ready →
      ∃ content activeKey, (world.processes process).state = some content ∧
        content.getActiveKey config = .ok activeKey

theorem maintained_bounded (config : RotationConfig) (generator : KeyGenerator) :
    Maintained config generator fun count now content =>
      content.Generated config generator count now ∧ Bounded config content where
  mono holds moreCount laterNow :=
    ⟨(Keyset.Generated.maintained config generator).mono holds.1 moreCount
      laterNow, holds.2⟩
  initial count now := by
    refine ⟨(Keyset.Generated.maintained config generator).initial count now, ?_⟩
    intro positive
    have room := Int.ediv_nonneg (le_max_right config.retention 0) positive.le
    simpa [Keyset.buildInitialState] using room
  rotated holds active isDue beforeCreated createdNow := by
    have rotated := Keyset.Generated.rotated holds.1 active isDue beforeCreated
      createdNow
    exact ⟨rotated, fun positive =>
      Keyset.length_rotated_le positive rotated.wellFormed createdNow⟩

/-- Every state of every run from a missing file represents the key set. -/
theorem representation_of_run {config : RotationConfig}
    {generator : KeyGenerator} {now : Int} {events : List (KeyEvent Process)}
    {final : KeyWorld Process}
    (runs : exec (keyStep config generator) (start none 0 now) events =
      some final) :
    Representation config final := by
  have maintained := maintained_bounded config generator
  have begins : KeyInvariant config generator (fun count now content =>
      content.Generated config generator count now ∧ Bounded config content)
      (start none 0 now : KeyWorld Process) :=
    invariant_start (by rintro content ⟨⟩)
  have invariant := GuardedRun.invariant (invariant_keyStep maintained) begins runs
  refine ⟨fun version versionMem => (invariant.file version versionMem).1.wellFormed,
    fun version versionMem => (invariant.file version versionMem).2, ?_⟩
  intro process called
  have hasState : (final.processes process).state.isSome = true := by
    have phaseOk := invariant.phase process
    unfold PhaseOk at phaseOk
    rcases called with phaseEq | phaseEq | phaseEq <;>
      rw [phaseEq] at phaseOk <;> exact phaseOk
  obtain ⟨content, stateEq⟩ := Option.isSome_iff_exists.mp hasState
  have holds := (invariant.memory process content stateEq).1
  obtain ⟨activeKey, active, -⟩ := holds.wellFormed.getActiveKey_isOk
  exact ⟨content, activeKey, stateEq, active⟩

/-! ## A negative retention time -/

/-- Keys that are numbered. -/
def numberedKeys : KeyGenerator where
  privatePem count := String.ofList (List.replicate count 'k')
  publicOf privatePem := privatePem
  buildKid publicPem := publicPem
  fresh := by
    intro first second same
    have chars := congrArg (fun text => text.toList.length) same
    simpa using chars

/-- A rotation every ten seconds, with a retention time. -/
def everyTen (retention : Int) : RotationConfig where
  algorithm := "RS256"
  rotationEnabled := true
  rotationInterval := 10
  retention := retention
  checkInterval := 1
  checked := le_rfl

/-- A process creates the file and rotates the key ten seconds later. -/
def createAndRotate : List (KeyEvent Unit) :=
  .call () :: List.replicate 8 (.step () 0) ++
    [.finish (), .wait 10, .call ()] ++ List.replicate 10 (.step () 5)

theorem representation_after_rotation :
    ∃ final, exec (keyStep (everyTen 20) numberedKeys) (start none 0 0)
      createAndRotate = some final ∧ Representation (everyTen 20) final := by
  obtain ⟨final, runs⟩ : ∃ final, exec (keyStep (everyTen 20) numberedKeys)
      (start none 0 0) createAndRotate = some final := ⟨_, rfl⟩
  exact ⟨final, runs, representation_of_run runs⟩

/-- The new key itself stays also with a negative retention time. -/
theorem negative_retention_keeps_one :
    ∃ final, exec (keyStep (everyTen (-1)) numberedKeys) (start none 0 0)
        createAndRotate = some final ∧
      ∃ version ∈ final.file, ¬ (version.content.keys.length : Int) ≤
        (everyTen (-1)).retention / (everyTen (-1)).rotationInterval + 1 := by
  refine ⟨_, rfl, _, rfl, ?_⟩
  decide

end KeysetRepresentation

end HexIam
