import HexIam.KeyFileFreshness

/-!
# Key rotation and live tokens

Processes that take turns on the key-set file: restarts included, one call runs
at a time, and at a single time.  A process checks the age of the active key at
most once in a check interval of its monotonic clock.  The first check is also
put off, as `_last_rotation_check` starts at 0: a process whose clock is young
signs under a key of any age.  Where the active key leaves room for the lifetime
of a token, no rotation prunes it while the token lives.
-/

namespace HexIam

open GuardedRun KeyFile KeyFileFreshness KeyTokens

namespace KeyRotation

variable {Process : Type} [DecidableEq Process]

/-- One call at a time, in no time, on a monotonic clock that is the wall clock
shifted by an offset of the process. -/
def Sequential (offset : Process → Int) (world : KeyWorld Process) :
    KeyEvent Process → Prop
  | .call process => (∀ other, (world.processes other).phase = .idle) ∧
      0 ≤ world.now + offset process
  | .step process monotonic => monotonic = world.now + offset process
  | .finish _ => True
  | .giveUp _ => False
  | .wait _ => ∀ other, (world.processes other).phase = .idle

instance decidableIdle : DecidablePred fun phase : KeyPhase => phase = .idle
  | .idle => isTrue rfl
  | .checking | .comparing | .reading _ | .stamping _ _ | .locking _
  | .rechecking | .deciding | .generating _ | .pruning _ | .replacing _ _
  | .restamping _ _ | .unlocking _ | .loaded | .ready => isFalse KeyPhase.noConfusion

instance decidableSequential [Fintype Process] (offset : Process → Int)
    (world : KeyWorld Process) :
    (event : KeyEvent Process) → Decidable (Sequential offset world event)
  | .call process => inferInstanceAs (Decidable
      ((∀ other, (world.processes other).phase = .idle) ∧
        0 ≤ world.now + offset process))
  | .step process monotonic => inferInstanceAs (Decidable
      (monotonic = world.now + offset process))
  | .finish _ => isTrue trivial
  | .giveUp _ => isFalse id
  | .wait _ => inferInstanceAs (Decidable
      (∀ other, (world.processes other).phase = .idle))

/-! ## What a process knows of the time -/

section Timely

variable (config : RotationConfig) (offset now : Int) (file : Option FileVersion)
  (memory : KeyProcess)

/-- The process remembers the content of the file. -/
def Current : Prop :=
  ∃ version, file = some version ∧ memory.state = some version.content

/-- The active key was made now. -/
def Young (content : Keyset) : Prop :=
  ∀ activeKey, content.getActiveKey config = .ok activeKey →
    activeKey.createdAt = now

/-- At the last check the active key of the file was not due. -/
def Checked : Prop :=
  memory.lastRotationCheck ≠ 0 → ∀ version ∈ file, ∀ activeKey,
    version.content.getActiveKey config = .ok activeKey →
      memory.lastRotationCheck < activeKey.createdAt + offset +
        config.rotationInterval

/-- The process is making a check. -/
def Checking : Prop :=
  memory.lastRotationCheck = now + offset

/-- The last check is less than a check interval ago. -/
def Recent : Prop :=
  now + offset < memory.lastRotationCheck + config.checkInterval

/-- What a process knows where it is, when it is its turn. -/
def PhaseTimely : Prop :=
  match memory.phase with
  | .locking .rotating | .reading (some .rotating) | .stamping (some .rotating) _ =>
      Checking offset now memory
  | .deciding | .generating .rotating =>
      Checking offset now memory ∧ Current file memory
  | .pruning newKey => Checking offset now memory ∧ Current file memory ∧
      newKey.createdAt = now
  | .replacing .rotating content => Checking offset now memory ∧
      Young config now content
  | .restamping .rotating _ => Checking offset now memory ∧
      Checked config offset file memory
  | .unlocking .rotating => Checking offset now memory ∧ Current file memory ∧
      Checked config offset file memory
  | .generating .creating => file = none ∧ Checked config offset file memory
  | .replacing .creating content => file = none ∧
      Checked config offset file memory ∧ Young config now content
  | .unlocking .creating | .loaded => Current file memory ∧
      Checked config offset file memory
  | .ready => Current file memory ∧ Recent config offset now memory ∧
      Checked config offset file memory
  | _ => Checked config offset file memory

end Timely

/-- One process at a time is in a call, no check lies in the future, and every
process knows what it has to. -/
structure Turn (config : RotationConfig) (offset : Process → Int)
    (world : KeyWorld Process) : Prop where
  alone : ∀ first second, (world.processes first).phase ≠ .idle →
    (world.processes second).phase ≠ .idle → first = second
  past : ∀ process, (world.processes process).lastRotationCheck ≠ 0 →
    (world.processes process).lastRotationCheck ≤ world.now + offset process
  timely : ∀ process, PhaseTimely config (offset process) world.now world.file
    (world.processes process)

/-! ## Steps in turn -/

section Steps

variable {config : RotationConfig} {generator : KeyGenerator}
  {offset : Process → Int} {world next : KeyWorld Process} {process : Process}

omit [DecidableEq Process] in
theorem Turn.others (turn : Turn config offset world)
    (awake : (world.processes process).phase ≠ .idle) (other : Process)
    (otherAwake : (world.processes other).phase ≠ .idle) : other = process :=
  turn.alone other process otherAwake awake

theorem Turn.set (turn : Turn config offset world)
    (others : ∀ other, (world.processes other).phase ≠ .idle → other = process)
    {memory : KeyProcess}
    (past : memory.lastRotationCheck ≠ 0 →
      memory.lastRotationCheck ≤ world.now + offset process)
    (timely : PhaseTimely config (offset process) world.now world.file memory) :
    Turn config offset (world.set process memory) := by
  have onlyProcess : ∀ other,
      ((world.set process memory).processes other).phase ≠ .idle →
        other = process := by
    intro other awake
    by_cases isProcess : other = process
    · exact isProcess
    · rw [KeyWorld.set_other _ isProcess] at awake
      exact others other awake
  refine ⟨?_, ?_, ?_⟩
  · intro first second firstAwake secondAwake
    rw [onlyProcess first firstAwake, onlyProcess second secondAwake]
  · intro other
    by_cases isProcess : other = process
    · subst isProcess
      rw [KeyWorld.set_self]
      exact past
    · rw [KeyWorld.set_other _ isProcess]
      exact turn.past other
  · intro other
    by_cases isProcess : other = process
    · subst isProcess
      rw [KeyWorld.set_self]
      exact timely
    · rw [KeyWorld.set_other _ isProcess]
      exact turn.timely other

theorem Turn.moveTo (turn : Turn config offset world)
    (awake : (world.processes process).phase ≠ .idle) {phase : KeyPhase}
    (timely : PhaseTimely config (offset process) world.now world.file
      { world.processes process with phase := phase }) :
    Turn config offset (KeyFile.moveTo world process phase) :=
  turn.set (turn.others awake) (turn.past process) timely

omit [DecidableEq Process] in
theorem Turn.withHolder (turn : Turn config offset world)
    (holder : Option Process) (generated : Nat) :
    Turn config offset
      { world with
        holder := holder
        generated := generated } :=
  ⟨turn.alone, turn.past, turn.timely⟩

theorem Turn.remember (turn : Turn config offset world)
    (awake : (world.processes process).phase ≠ .idle) {content : Keyset}
    {mtime : Nat} {phase : KeyPhase}
    (timely : PhaseTimely config (offset process) world.now world.file
      { world.processes process with
        phase := phase
        state := some content
        stateMtime := some mtime }) :
    Turn config offset (KeyFile.remember world process content mtime phase) :=
  turn.set (turn.others awake) (turn.past process) timely

/-- A file with a new active key passes every check made so far. -/
theorem checked_of_young {now offsetOf : Int} {memory : KeyProcess}
    {content : Keyset} {mtime : Nat} (positive : 0 < config.rotationInterval)
    (past : memory.lastRotationCheck ≠ 0 →
      memory.lastRotationCheck ≤ now + offsetOf)
    (young : Young config now content) :
    Checked config offsetOf (some ⟨content, mtime⟩) memory := by
  rintro wasChecked version ⟨⟩ activeKey active
  have created := young activeKey active
  have upToNow := past wasChecked
  omega

theorem Turn.replaceFile (turn : Turn config offset world)
    (positive : 0 < config.rotationInterval) {site : LockSite} {content : Keyset}
    (phaseEq : (world.processes process).phase = .replacing site content) :
    Turn config offset (KeyFile.replaceFile world process site content) := by
  have awake : (world.processes process).phase ≠ .idle := by simp [phaseEq]
  have known := turn.timely process
  unfold PhaseTimely at known
  rw [phaseEq] at known
  have young : Young config world.now content := by
    cases site with
    | creating => exact known.2.2
    | rotating => exact known.2
  have processesEq : ∀ other,
      (KeyFile.replaceFile world process site content).processes other =
        { (KeyFile.moveTo world process (.restamping site content)).processes other
          with window := ((KeyFile.moveTo world process
            (.restamping site content)).processes other).window ++ [content] } :=
    fun _ => rfl
  refine ⟨?_, ?_, ?_⟩
  · have onlyProcess : ∀ other,
        ((KeyFile.replaceFile world process site content).processes other).phase ≠
          .idle → other = process := by
      intro other otherAwake
      by_cases isProcess : other = process
      · exact isProcess
      · rw [processesEq, KeyFile.moveTo, KeyWorld.set_other _ isProcess]
          at otherAwake
        exact turn.others awake other otherAwake
    intro first second firstAwake secondAwake
    rw [onlyProcess first firstAwake, onlyProcess second secondAwake]
  · intro other
    rw [processesEq, KeyFile.moveTo]
    by_cases isProcess : other = process
    · subst isProcess
      rw [KeyWorld.set_self]
      exact turn.past other
    · rw [KeyWorld.set_other _ isProcess]
      exact turn.past other
  · intro other
    have checked : Checked config (offset other)
        (KeyFile.replaceFile world process site content).file
        (world.processes other) :=
      checked_of_young positive (turn.past other) young
    rw [processesEq, KeyFile.moveTo]
    by_cases isProcess : other = process
    · subst isProcess
      rw [KeyWorld.set_self]
      cases site with
      | creating => exact checked
      | rotating => exact ⟨known.1, checked⟩
    · rw [KeyWorld.set_other _ isProcess]
      have isIdle : (world.processes other).phase = .idle := by
        by_contra otherAwake
        exact isProcess (turn.others awake other otherAwake)
      unfold PhaseTimely
      dsimp only
      rw [isIdle]
      exact checked

theorem checked_of_not_due {now offsetOf : Int} {file : Option FileVersion}
    {memory : KeyProcess} {version : FileVersion} {activeKey : KeyRecord}
    (fileEq : file = some version)
    (active : version.content.getActiveKey config = .ok activeKey)
    (notDue : ¬ Keyset.due config now activeKey = true)
    (checking : Checking offsetOf now memory) :
    Checked config offsetOf file memory := by
  intro _ other otherMem otherKey otherActive
  rw [fileEq] at otherMem
  cases otherMem
  cases active.symm.trans otherActive
  have age : now - activeKey.createdAt < config.rotationInterval := by
    simpa [Keyset.due] using notDue
  unfold Checking at checking
  omega

omit [DecidableEq Process] in
theorem active_of_current
    (invariant : KeyInvariant config generator
      (Keyset.Generated config generator) world)
    (current : Current world.file (world.processes process)) :
    ∃ version activeKey, world.file = some version ∧
      (world.processes process).state = some version.content ∧
      version.content.getActiveKey config = .ok activeKey := by
  obtain ⟨version, fileEq, stateEq⟩ := current
  obtain ⟨activeKey, active, -⟩ :=
    (invariant.file version fileEq).wellFormed.getActiveKey_isOk
  exact ⟨version, activeKey, fileEq, stateEq, active⟩

theorem turn_maybeRotate (positive : 0 < config.rotationInterval)
    (enabled : config.rotationEnabled = true)
    (invariant : KeyInvariant config generator
      (Keyset.Generated config generator) world)
    (turn : Turn config offset world)
    (phaseEq : (world.processes process).phase = .loaded)
    (stepEq : maybeRotate config world process (world.now + offset process) =
      some next) : Turn config offset next := by
  have awake : (world.processes process).phase ≠ .idle := by simp [phaseEq]
  have known := turn.timely process
  unfold PhaseTimely at known
  rw [phaseEq] at known
  obtain ⟨current, checked⟩ := known
  unfold maybeRotate at stepEq
  dsimp only at stepEq
  split at stepEq
  case isTrue early =>
    cases stepEq
    have recent : Recent config (offset process) world.now
        (world.processes process) := by
      have notDisabled : ¬ config.rotationInterval ≤ 0 := by omega
      simp only [enabled, Bool.not_true, notDisabled, decide_false, Bool.or_self,
        Bool.false_or, decide_eq_true_eq] at early
      unfold Recent
      omega
    exact turn.moveTo awake ⟨current, recent, checked⟩
  case isFalse =>
    obtain ⟨version, activeKey, fileEq, versionEq, active⟩ :=
      active_of_current invariant current
    obtain ⟨state, stateEq, rfl⟩ := Option.map_eq_some_iff.mp stepEq
    cases versionEq.symm.trans stateEq
    rw [active]
    dsimp only
    have checking : ∀ phase, Checking (offset process) world.now
        { world.processes process with
          phase := phase
          lastRotationCheck := world.now + offset process } := fun _ => rfl
    split
    case isTrue =>
      rw [KeyFile.moveTo, KeyWorld.set_set, KeyWorld.set_self]
      exact turn.set (turn.others awake) (fun _ => le_rfl) rfl
    case isFalse notDue =>
      rw [KeyFile.moveTo, KeyWorld.set_set, KeyWorld.set_self]
      apply turn.set (turn.others awake) (fun _ => le_rfl)
      refine ⟨⟨version, fileEq, stateEq⟩, ?_,
        checked_of_not_due fileEq active notDue (checking .ready)⟩
      have interval := config.checked
      unfold Recent
      dsimp only
      omega

theorem turn_decideRotation
    (invariant : KeyInvariant config generator
      (Keyset.Generated config generator) world)
    (turn : Turn config offset world)
    (phaseEq : (world.processes process).phase = .deciding)
    (stepEq : decideRotation config world process = some next) :
    Turn config offset next := by
  have awake : (world.processes process).phase ≠ .idle := by simp [phaseEq]
  have known := turn.timely process
  unfold PhaseTimely at known
  rw [phaseEq] at known
  obtain ⟨checking, current⟩ := known
  obtain ⟨version, activeKey, fileEq, versionEq, active⟩ :=
    active_of_current invariant current
  obtain ⟨state, stateEq, rfl⟩ := Option.map_eq_some_iff.mp stepEq
  cases versionEq.symm.trans stateEq
  rw [active]
  dsimp only
  split
  case isTrue => exact turn.moveTo awake ⟨checking, current⟩
  case isFalse notDue =>
    exact turn.moveTo awake ⟨checking, current,
      checked_of_not_due fileEq active notDue checking⟩

/-- The new key is the active one of the key set that a rotation writes. -/
theorem young_rotated {content : Keyset} {newKey : KeyRecord} {now : Int}
    (wellFormed : (content.rotated config now newKey).WellFormed config)
    (created : newKey.createdAt = now) :
    Young config now (content.rotated config now newKey) := by
  intro activeKey active
  have lastEq : (content.rotated config now newKey).keys.getLast? = some newKey := by
    rw [Keyset.rotated_keys]
    simp
  cases active.symm.trans (wellFormed.getActiveKey_eq lastEq)
  exact created

theorem young_buildInitialState {key : KeyRecord} {now : Int}
    (created : key.createdAt = now) :
    Young config now (Keyset.buildInitialState config key) := by
  intro activeKey active
  cases active.symm.trans
    ((Keyset.wellFormed_buildInitialState key).getActiveKey_eq rfl)
  exact created

theorem turn_generating (turn : Turn config offset world) {site : LockSite}
    (phaseEq : (world.processes process).phase = .generating site)
    {monotonic : Int}
    (stepEq : advance config generator world process monotonic
      (.generating site) = some next) : Turn config offset next := by
  have awake : (world.processes process).phase ≠ .idle := by simp [phaseEq]
  have known := turn.timely process
  unfold PhaseTimely at known
  rw [phaseEq] at known
  cases stepEq
  cases site with
  | creating =>
      have moved : Turn config offset (KeyFile.moveTo world process
          (.replacing .creating (Keyset.buildInitialState config
            (generator.generateKeyRecord world.generated world.now)))) :=
        turn.moveTo awake ⟨known.1, known.2, young_buildInitialState rfl⟩
      exact moved.withHolder _ _
  | rotating =>
      have moved : Turn config offset (KeyFile.moveTo world process (.pruning
          (generator.generateKeyRecord world.generated world.now))) :=
        turn.moveTo awake ⟨known.1, known.2, rfl⟩
      exact moved.withHolder _ _

theorem turn_pruning (turn : Turn config offset world)
    (invariant : KeyInvariant config generator
      (Keyset.Generated config generator) world) {newKey : KeyRecord}
    (phaseEq : (world.processes process).phase = .pruning newKey)
    {monotonic : Int}
    (stepEq : advance config generator world process monotonic
      (.pruning newKey) = some next) : Turn config offset next := by
  have awake : (world.processes process).phase ≠ .idle := by simp [phaseEq]
  have known := turn.timely process
  unfold PhaseTimely at known
  rw [phaseEq] at known
  obtain ⟨checking, -, created⟩ := known
  have written := (invariant_pruning
    (Keyset.Generated.maintained config generator) invariant phaseEq
      stepEq).phase process
  obtain ⟨state, stateEq, rfl⟩ := Option.map_eq_some_iff.mp stepEq
  rw [KeyFile.moveTo, KeyWorld.set_self] at written
  have generated : (state.rotated config world.now newKey).Generated config
      generator world.generated world.now := written
  exact turn.moveTo awake
    ⟨checking, young_rotated generated.wellFormed created⟩

theorem turn_unlocking (turn : Turn config offset world) {site : LockSite}
    (phaseEq : (world.processes process).phase = .unlocking site)
    {monotonic : Int}
    (stepEq : advance config generator world process monotonic
      (.unlocking site) = some next) : Turn config offset next := by
  have awake : (world.processes process).phase ≠ .idle := by simp [phaseEq]
  have known := turn.timely process
  unfold PhaseTimely at known
  rw [phaseEq] at known
  cases stepEq
  cases site with
  | creating =>
      have moved : Turn config offset (KeyFile.moveTo world process .loaded) :=
        turn.moveTo awake known
      exact moved.withHolder none world.generated
  | rotating =>
      obtain ⟨checking, current, checked⟩ := known
      have recent : Recent config (offset process) world.now
          (world.processes process) := by
        have interval := config.checked
        unfold Checking at checking
        unfold Recent
        omega
      have moved : Turn config offset (KeyFile.moveTo world process .ready) :=
        turn.moveTo awake ⟨current, recent, checked⟩
      exact moved.withHolder none world.generated

theorem turn_advance (positive : 0 < config.rotationInterval)
    (enabled : config.rotationEnabled = true)
    (invariant : KeyInvariant config generator
      (Keyset.Generated config generator) world)
    (synced : Synced world) (turn : Turn config offset world)
    (stepEq : advance config generator world process (world.now + offset process)
      (world.processes process).phase = some next) :
    Turn config offset next := by
  have awake : (world.processes process).phase ≠ .idle := by
    intro phaseEq
    rw [phaseEq] at stepEq
    cases stepEq
  have inStep := synced.inStep process
  have known := turn.timely process
  unfold PhaseTimely at known
  cases phaseEq : (world.processes process).phase with
  | idle => exact absurd phaseEq awake
  | ready =>
      rw [phaseEq] at stepEq
      cases stepEq
  | checking =>
      rw [phaseEq] at stepEq known
      simp only [advance] at stepEq
      split at stepEq <;> cases stepEq <;> exact turn.moveTo awake known
  | comparing =>
      rw [phaseEq] at stepEq known
      obtain ⟨version, fileEq, rfl⟩ := Option.map_eq_some_iff.mp stepEq
      dsimp only
      split
      case isTrue => exact turn.moveTo awake known
      case isFalse same =>
        simp only [Bool.or_eq_true, decide_eq_true_eq, not_or, ne_eq,
          not_not] at same
        obtain ⟨current, currentEq, -, remembered⟩ := inStep.cached _ same.2
        cases fileEq.symm.trans currentEq
        exact turn.moveTo awake ⟨⟨version, fileEq, remembered rfl⟩, known⟩
  | reading site =>
      rw [phaseEq] at stepEq known
      obtain ⟨version, fileEq, rfl⟩ := Option.map_eq_some_iff.mp stepEq
      rw [if_pos (invariant.file version fileEq).algorithm]
      apply turn.moveTo awake
      cases site with
      | none => exact known
      | some site => cases site <;> exact known
  | stamping site content =>
      rw [phaseEq] at stepEq known
      obtain ⟨version, fileEq, rfl⟩ := Option.map_eq_some_iff.mp stepEq
      obtain ⟨current, currentEq, rfl⟩ := inStep.pending content (by rw [phaseEq]; rfl)
      cases fileEq.symm.trans currentEq
      apply turn.remember awake
      cases site with
      | none => exact ⟨⟨version, fileEq, rfl⟩, known⟩
      | some site =>
          cases site with
          | creating => exact ⟨⟨version, fileEq, rfl⟩, known⟩
          | rotating => exact ⟨known, version, fileEq, rfl⟩
  | locking site =>
      rw [phaseEq] at stepEq known
      simp only [advance] at stepEq
      split at stepEq
      · cases stepEq
      · cases stepEq
        cases site with
        | creating =>
            have moved : Turn config offset
                (KeyFile.moveTo world process .rechecking) :=
              turn.moveTo awake known
            exact moved.withHolder _ world.generated
        | rotating =>
            have moved : Turn config offset
                (KeyFile.moveTo world process (.reading (some .rotating))) :=
              turn.moveTo awake known
            exact moved.withHolder _ world.generated
  | rechecking =>
      rw [phaseEq] at stepEq known
      simp only [advance] at stepEq
      split at stepEq
      case h_1 missing =>
        cases stepEq
        exact turn.moveTo awake ⟨missing, known⟩
      case h_2 =>
        cases stepEq
        exact turn.moveTo awake known
  | deciding =>
      rw [phaseEq] at stepEq
      exact turn_decideRotation invariant turn phaseEq stepEq
  | generating site =>
      rw [phaseEq] at stepEq
      exact turn_generating turn phaseEq stepEq
  | pruning newKey =>
      rw [phaseEq] at stepEq
      exact turn_pruning turn invariant phaseEq stepEq
  | replacing site content =>
      rw [phaseEq] at stepEq
      cases stepEq
      exact turn.replaceFile positive phaseEq
  | restamping site content =>
      rw [phaseEq] at stepEq known
      obtain ⟨version, fileEq, rfl⟩ := Option.map_eq_some_iff.mp stepEq
      obtain ⟨current, currentEq, rfl⟩ := inStep.pending content (by rw [phaseEq]; rfl)
      cases fileEq.symm.trans currentEq
      apply turn.remember awake
      cases site with
      | creating => exact ⟨⟨version, fileEq, rfl⟩, known⟩
      | rotating => exact ⟨known.1, ⟨version, fileEq, rfl⟩, known.2⟩
  | unlocking site =>
      rw [phaseEq] at stepEq
      exact turn_unlocking turn phaseEq stepEq
  | loaded =>
      rw [phaseEq] at stepEq
      exact turn_maybeRotate positive enabled invariant turn phaseEq stepEq

/-- An idle process knows of its last check only. -/
theorem timely_idle {offsetOf now : Int} {file : Option FileVersion}
    {memory : KeyProcess} (isIdle : memory.phase = .idle) :
    PhaseTimely config offsetOf now file memory ↔
      Checked config offsetOf file memory := by
  unfold PhaseTimely
  rw [isIdle]

theorem turn_keyStep (positive : 0 < config.rotationInterval)
    (enabled : config.rotationEnabled = true)
    (invariant : KeyInvariant config generator
      (Keyset.Generated config generator) world)
    (synced : Synced world) (turn : Turn config offset world)
    {event : KeyEvent Process} (sequential : Sequential offset world event)
    (stepEq : keyStep config generator world event = some next) :
    Turn config offset next := by
  cases event with
  | call process =>
      simp only [keyStep] at stepEq
      split at stepEq <;> cases stepEq
      rename_i isIdle
      apply turn.set
      · intro other awake
        exact absurd (sequential.1 other) awake
      · exact turn.past process
      · exact (timely_idle isIdle).mp (turn.timely process)
  | step process monotonic =>
      have monotonicEq : monotonic = world.now + offset process := sequential
      rw [monotonicEq] at stepEq
      exact turn_advance positive enabled invariant synced turn stepEq
  | finish process =>
      simp only [keyStep] at stepEq
      split at stepEq <;> cases stepEq
      rename_i isReady
      have known := turn.timely process
      unfold PhaseTimely at known
      rw [isReady] at known
      exact turn.moveTo (by simp [isReady]) known.2.2
  | giveUp process => exact sequential.elim
  | wait seconds =>
      cases stepEq
      refine ⟨turn.alone, ?_, ?_⟩
      · intro process wasChecked
        have upToNow := turn.past process wasChecked
        dsimp only at upToNow ⊢
        omega
      · intro process
        have isIdle := sequential process
        exact (timely_idle isIdle).mpr ((timely_idle isIdle).mp
          (turn.timely process))

omit [DecidableEq Process] in
theorem turn_start (offset : Process → Int) (file : Option Keyset)
    (generated : Nat) (now : Int) :
    Turn config offset (start file generated now : KeyWorld Process) := by
  refine ⟨?_, ?_, ?_⟩
  · intro first second awake
    exact absurd rfl awake
  · intro process wasChecked
    exact absurd rfl wasChecked
  · intro process wasChecked
    exact absurd rfl wasChecked

omit [DecidableEq Process] in
/-- In turn, the file is replaced with care. -/
theorem careful_of_turn (turn : Turn config offset world)
    (event : KeyEvent Process) : Careful world event := by
  cases event with
  | step process monotonic =>
      intro replacing other
      cases phaseEq : (world.processes other).phase with
      | stamping site content =>
          have awake : (world.processes process).phase ≠ .idle := by
            intro isIdle
            rw [isIdle] at replacing
            cases replacing
          cases turn.others awake other (by simp [phaseEq])
          rw [phaseEq] at replacing
          cases replacing
      | _ => rfl
  | _ => trivial

/-- What holds in turn of the file and of every process. -/
structure InTurn (config : RotationConfig) (generator : KeyGenerator)
    (offset : Process → Int) (world : KeyWorld Process) : Prop where
  invariant : KeyInvariant config generator (Keyset.Generated config generator)
    world
  synced : Synced world
  turn : Turn config offset world

theorem InTurn.keyStep (positive : 0 < config.rotationInterval)
    (enabled : config.rotationEnabled = true)
    (inTurn : InTurn config generator offset world) {event : KeyEvent Process}
    (sequential : Sequential offset world event)
    (stepEq : keyStep config generator world event = some next) :
    InTurn config generator offset next where
  invariant := invariant_keyStep (Keyset.Generated.maintained config generator)
    world event next inTurn.invariant stepEq
  synced := synced_keyStep world event next inTurn.synced
    (careful_of_turn inTurn.turn event) stepEq
  turn := turn_keyStep positive enabled inTurn.invariant inTurn.synced inTurn.turn
    sequential stepEq

/-! ## Keys that are kept -/

/-- Until the deadline the key is in the file, and in what is about to be
written. -/
structure Kept (record : KeyRecord) (deadline : Int) (world : KeyWorld Process) :
    Prop where
  file : world.now < deadline → ∃ version, world.file = some version ∧
    record ∈ version.content.keys
  written : world.now < deadline → ∀ process site content,
    (world.processes process).phase = .replacing site content →
      record ∈ content.keys

variable {record : KeyRecord} {deadline : Int}

theorem Kept.set (kept : Kept record deadline world) {memory : KeyProcess}
    (written : world.now < deadline → ∀ site content,
      memory.phase = .replacing site content → record ∈ content.keys) :
    Kept record deadline (world.set process memory) := by
  refine ⟨kept.file, ?_⟩
  intro early other
  by_cases isProcess : other = process
  · subst isProcess
    rw [KeyWorld.set_self]
    exact written early
  · rw [KeyWorld.set_other _ isProcess]
    exact kept.written early other

theorem Kept.moveOn (kept : Kept record deadline world) {phase : KeyPhase}
    (notReplacing : isReplacing phase = false) :
    Kept record deadline (KeyFile.moveTo world process phase) := by
  apply kept.set
  intro _ site content phaseEq
  change phase = .replacing site content at phaseEq
  rw [phaseEq] at notReplacing
  cases notReplacing

omit [DecidableEq Process] in
theorem Kept.withHolder (kept : Kept record deadline world)
    (holder : Option Process) (generated : Nat) :
    Kept record deadline
      { world with
        holder := holder
        generated := generated } :=
  ⟨kept.file, kept.written⟩

theorem Kept.raised (kept : Kept record deadline world)
    (site : Option LockSite) :
    Kept record deadline (KeyFile.raised world process site) := by
  have ended : Kept record deadline (KeyFile.moveTo world process .idle) :=
    kept.moveOn rfl
  exact ended.withHolder _ world.generated

theorem Kept.remember (kept : Kept record deadline world) {content : Keyset}
    {mtime : Nat} {phase : KeyPhase} (notReplacing : isReplacing phase = false) :
    Kept record deadline (KeyFile.remember world process content mtime phase) := by
  apply kept.set
  intro _ site written phaseEq
  change phase = .replacing site written at phaseEq
  rw [phaseEq] at notReplacing
  cases notReplacing

theorem kept_maybeRotate (kept : Kept record deadline world) {monotonic : Int}
    (stepEq : maybeRotate config world process monotonic = some next) :
    Kept record deadline next := by
  unfold maybeRotate at stepEq
  dsimp only at stepEq
  split at stepEq
  case isTrue =>
    cases stepEq
    exact kept.moveOn rfl
  case isFalse =>
    have checked : Kept record deadline (world.set process
        { world.processes process with lastRotationCheck := monotonic }) :=
      kept.set fun early => kept.written early process
    obtain ⟨state, stateEq, rfl⟩ := Option.map_eq_some_iff.mp stepEq
    split
    case h_1 => exact checked.raised none
    case h_2 =>
      split
      · exact checked.moveOn rfl
      · exact checked.moveOn rfl

theorem kept_decideRotation (kept : Kept record deadline world)
    (stepEq : decideRotation config world process = some next) :
    Kept record deadline next := by
  obtain ⟨state, stateEq, rfl⟩ := Option.map_eq_some_iff.mp stepEq
  split
  case h_1 => exact kept.raised _
  case h_2 =>
    split
    · exact kept.moveOn rfl
    · exact kept.moveOn rfl

theorem kept_pruning (turn : Turn config offset world)
    (kept : Kept record deadline world)
    (recent : deadline - config.retention ≤ record.createdAt) {newKey : KeyRecord}
    (phaseEq : (world.processes process).phase = .pruning newKey)
    {monotonic : Int}
    (stepEq : advance config generator world process monotonic
      (.pruning newKey) = some next) : Kept record deadline next := by
  have known := turn.timely process
  unfold PhaseTimely at known
  rw [phaseEq] at known
  obtain ⟨-, ⟨version, fileEq, versionEq⟩, -⟩ := known
  obtain ⟨state, stateEq, rfl⟩ := Option.map_eq_some_iff.mp stepEq
  cases versionEq.symm.trans stateEq
  apply kept.set
  rintro early site content ⟨⟩
  obtain ⟨current, currentEq, recordMem⟩ := kept.file early
  cases fileEq.symm.trans currentEq
  rw [Keyset.rotated_keys]
  apply List.mem_append_left
  have retention := le_max_left config.retention 0
  exact Keyset.mem_pruneKeys.mpr ⟨recordMem, .inr (by omega)⟩

/-- No step in turn loses the key before the deadline. -/
theorem kept_advance (turn : Turn config offset world)
    (kept : Kept record deadline world)
    (recent : deadline - config.retention ≤ record.createdAt) {monotonic : Int}
    (stepEq : advance config generator world process monotonic
      (world.processes process).phase = some next) :
    Kept record deadline next := by
  cases phaseEq : (world.processes process).phase with
  | idle =>
      rw [phaseEq] at stepEq
      cases stepEq
  | ready =>
      rw [phaseEq] at stepEq
      cases stepEq
  | checking =>
      rw [phaseEq] at stepEq
      simp only [advance] at stepEq
      split at stepEq <;> cases stepEq <;> exact kept.moveOn rfl
  | comparing =>
      rw [phaseEq] at stepEq
      obtain ⟨version, -, rfl⟩ := Option.map_eq_some_iff.mp stepEq
      dsimp only
      split
      · exact kept.moveOn rfl
      · exact kept.moveOn rfl
  | reading site =>
      rw [phaseEq] at stepEq
      obtain ⟨version, -, rfl⟩ := Option.map_eq_some_iff.mp stepEq
      split
      · exact kept.moveOn rfl
      · exact kept.raised site
  | stamping site content =>
      rw [phaseEq] at stepEq
      obtain ⟨version, -, rfl⟩ := Option.map_eq_some_iff.mp stepEq
      apply kept.remember
      cases site with
      | none => rfl
      | some site => cases site <;> rfl
  | locking site =>
      rw [phaseEq] at stepEq
      simp only [advance] at stepEq
      split at stepEq
      · cases stepEq
      · cases stepEq
        have moved : ∀ phase, isReplacing phase = false →
            Kept record deadline (KeyFile.moveTo world process phase) :=
          fun phase => kept.moveOn
        cases site with
        | creating => exact (moved .rechecking rfl).withHolder _ world.generated
        | rotating =>
            exact (moved (.reading (some .rotating)) rfl).withHolder _
              world.generated
  | rechecking =>
      rw [phaseEq] at stepEq
      simp only [advance] at stepEq
      split at stepEq <;> cases stepEq <;> exact kept.moveOn rfl
  | deciding =>
      rw [phaseEq] at stepEq
      exact kept_decideRotation kept stepEq
  | generating site =>
      have known := turn.timely process
      unfold PhaseTimely at known
      rw [phaseEq] at stepEq known
      cases stepEq
      cases site with
      | creating =>
          have moved : Kept record deadline (KeyFile.moveTo world process
              (.replacing .creating (Keyset.buildInitialState config
                (generator.generateKeyRecord world.generated world.now)))) := by
            apply kept.set
            intro early
            obtain ⟨version, fileEq, -⟩ := kept.file early
            rw [known.1] at fileEq
            cases fileEq
          exact moved.withHolder _ _
      | rotating =>
          have moved : Kept record deadline (KeyFile.moveTo world process
              (.pruning (generator.generateKeyRecord world.generated
                world.now))) := kept.moveOn rfl
          exact moved.withHolder _ _
  | pruning newKey =>
      rw [phaseEq] at stepEq
      exact kept_pruning turn kept recent phaseEq stepEq
  | replacing site content =>
      rw [phaseEq] at stepEq
      cases stepEq
      have moved : Kept record deadline
          (KeyFile.moveTo world process (.restamping site content)) :=
        kept.moveOn rfl
      refine ⟨?_, moved.written⟩
      intro early
      exact ⟨_, rfl, kept.written early process site content phaseEq⟩
  | restamping site content =>
      rw [phaseEq] at stepEq
      obtain ⟨version, -, rfl⟩ := Option.map_eq_some_iff.mp stepEq
      exact kept.remember rfl
  | unlocking site =>
      rw [phaseEq] at stepEq
      cases stepEq
      have moved : ∀ phase, isReplacing phase = false →
          Kept record deadline (KeyFile.moveTo world process phase) :=
        fun phase => kept.moveOn
      cases site with
      | creating => exact (moved .loaded rfl).withHolder none world.generated
      | rotating => exact (moved .ready rfl).withHolder none world.generated
  | loaded =>
      rw [phaseEq] at stepEq
      exact kept_maybeRotate kept stepEq

theorem kept_keyStep (turn : Turn config offset world)
    (kept : Kept record deadline world)
    (recent : deadline - config.retention ≤ record.createdAt)
    {event : KeyEvent Process}
    (stepEq : keyStep config generator world event = some next) :
    Kept record deadline next := by
  cases event with
  | call process =>
      simp only [keyStep] at stepEq
      split at stepEq <;> cases stepEq
      apply kept.set
      rintro _ site content ⟨⟩
  | step process monotonic => exact kept_advance turn kept recent stepEq
  | finish process =>
      simp only [keyStep] at stepEq
      split at stepEq <;> cases stepEq
      exact kept.moveOn rfl
  | giveUp process =>
      simp only [keyStep] at stepEq
      split at stepEq <;> cases stepEq
      exact kept.moveOn rfl
  | wait seconds =>
      cases stepEq
      have earlier : world.now ≤ world.now + (seconds : Int) := by omega
      exact ⟨fun early => kept.file (earlier.trans_lt early),
        fun early => kept.written (earlier.trans_lt early)⟩

end Steps

/-! ## Live tokens -/

/-- Every process that is ready lists the kid of the token, and accepts the token
while its times allow it. -/
def Live (jwt : JwtLibrary) (config : RotationConfig) (secret kid : String)
    (token : SignedToken) (world : KeyWorld Process) : Prop :=
  ∀ process, (world.processes process).phase = .ready →
    ∃ content, (world.processes process).state = some content ∧
      kid ∈ (content.manager config secret).jwks.map PublicJwk.kid ∧
      ∀ options : DecodeOptions, options.verifyAud = false →
        (∀ exp ∈ token.payload.exp, world.now < exp) →
        (∀ iat ∈ token.payload.iat, iat ≤ world.now) →
          (content.manager config secret).decodeToken jwt token.compact options
            none none world.now = .ok token.payload

variable {config : RotationConfig} {generator : KeyGenerator}
  {offset : Process → Int}

/-- In a run that takes turns, every process knows what it has to. -/
theorem inTurn_of_run (positive : 0 < config.rotationInterval)
    (enabled : config.rotationEnabled = true) {file : Option Keyset} {count : Nat}
    {now : Int}
    (generated : ∀ content ∈ file, content.Generated config generator count now)
    {events : List (KeyEvent Process)} {final : KeyWorld Process}
    (sequential : Along (keyStep config generator) (Sequential offset)
      (start file count now) events)
    (runs : exec (keyStep config generator) (start file count now) events =
      some final) :
    InTurn config generator offset final := by
  refine invariant_along ?_ ?_ sequential runs
  · intro world event next inTurn here stepEq
    exact inTurn.keyStep positive enabled here stepEq
  · exact ⟨invariant_start generated, synced_start file count now,
      turn_start offset file count now⟩

omit [DecidableEq Process] in
/-- A process that is ready and has made a check signs under a key that was not
due a check interval ago. -/
theorem age_of_ready {world : KeyWorld Process} {process : Process}
    (turn : Turn config offset world)
    (phaseEq : (world.processes process).phase = .ready)
    (wasChecked : (world.processes process).lastRotationCheck ≠ 0)
    {version : FileVersion} (fileEq : world.file = some version)
    {activeKey : KeyRecord}
    (active : version.content.getActiveKey config = .ok activeKey) :
    world.now - activeKey.createdAt <
      config.rotationInterval + config.checkInterval := by
  have known := turn.timely process
  unfold PhaseTimely at known
  rw [phaseEq] at known
  obtain ⟨-, recent, checked⟩ := known
  have notDue := checked wasChecked version fileEq activeKey active
  unfold Recent at recent
  omega

/-- A token that is signed by a process which has made a check, or under a key
young enough, lives out its lifetime. -/
theorem live_of_run {jwt : JwtLibrary}
    (roundTrip : jwt.RoundTrip generator config.algorithm)
    (asymmetric : config.algorithm ∈ asymmetricSigningAlgorithms)
    (enabled : config.rotationEnabled = true)
    (positive : 0 < config.rotationInterval) {lifetime : Int}
    (room : config.rotationInterval + config.checkInterval + lifetime ≤
      config.retention)
    {file : Option Keyset} {count : Nat} {now : Int}
    (generated : ∀ content ∈ file, content.Generated config generator count now)
    {before after : List (KeyEvent Process)} {signing final : KeyWorld Process}
    (sequential : Along (keyStep config generator) (Sequential offset)
      (start file count now) (before ++ after))
    (toSigning : exec (keyStep config generator) (start file count now) before =
      some signing)
    (toFinal : exec (keyStep config generator) signing after = some final)
    {signer : Process} {content : Keyset} {record : KeyRecord} {secret : String}
    {payload : Claims} {headers : TokenHeader} {token : SignedToken}
    (ready : (signing.processes signer).phase = .ready)
    (stateEq : (signing.processes signer).state = some content)
    (active : content.getActiveKey config = .ok record)
    (unset : headers.alg = none)
    (signed : (content.manager config secret).signToken jwt payload headers none
      none = .ok token)
    (youngOrChecked : (signing.processes signer).lastRotationCheck = 0 →
      signing.now - record.createdAt ≤ config.retention - lifetime)
    (alive : final.now < signing.now + lifetime) :
    Live jwt config secret record.kid token final := by
  have atSigning := inTurn_of_run positive enabled generated
    (along_of_append sequential) toSigning
  obtain ⟨version, fileEq, versionEq⟩ :
      Current signing.file (signing.processes signer) := by
    have known := atSigning.turn.timely signer
    unfold PhaseTimely at known
    rw [ready] at known
    exact known.1
  cases versionEq.symm.trans stateEq
  have age : signing.now - record.createdAt ≤ config.retention - lifetime := by
    by_cases wasChecked : (signing.processes signer).lastRotationCheck = 0
    · exact youngOrChecked wasChecked
    · have young := age_of_ready atSigning.turn ready wasChecked fileEq active
      omega
  have recordMem : record ∈ version.content.keys := by
    obtain ⟨last, found, lastEq⟩ :=
      (atSigning.invariant.file version fileEq).wellFormed.getActiveKey_isOk
    cases active.symm.trans found
    exact List.mem_of_getLast? lastEq
  have kept : Kept record (signing.now + lifetime) signing := by
    refine ⟨fun _ => ⟨version, fileEq, recordMem⟩, ?_⟩
    intro _ other site written otherEq
    have awake : (signing.processes signer).phase ≠ .idle := by simp [ready]
    cases atSigning.turn.others awake other (by simp [otherEq])
    rw [ready] at otherEq
    cases otherEq
  have keeps : ∀ (world : KeyWorld Process) (event : KeyEvent Process)
      (next : KeyWorld Process), InTurn config generator offset world ∧
        Kept record (signing.now + lifetime) world →
      Sequential offset world event →
      keyStep config generator world event = some next →
        InTurn config generator offset next ∧
          Kept record (signing.now + lifetime) next := by
    rintro world event next ⟨inTurn, holds⟩ here stepEq
    exact ⟨inTurn.keyStep positive enabled here stepEq,
      kept_keyStep inTurn.turn holds (by omega) stepEq⟩
  obtain ⟨atFinal, keptFinal⟩ := invariant_along keeps ⟨atSigning, kept⟩
    (along_rest sequential toSigning) toFinal
  obtain ⟨payloadEq, compactEq⟩ := Keyset.signToken_eq_ok asymmetric active signed
  intro process isReady
  obtain ⟨current, currentEq, currentState⟩ :
      Current final.file (final.processes process) := by
    have known := atFinal.turn.timely process
    unfold PhaseTimely at known
    rw [isReady] at known
    exact known.1
  obtain ⟨same, sameEq, stillMem⟩ := keptFinal.file alive
  cases currentEq.symm.trans sameEq
  have holds := atFinal.invariant.file current currentEq
  obtain ⟨-, number, -, recordEq⟩ := holds.records record stillMem
  refine ⟨current.content, currentState,
    Keyset.kid_mem_jwks asymmetric stillMem secret, ?_⟩
  intro options noAudience unexpired issued
  rw [compactEq, payloadEq]
  rw [payloadEq] at unexpired issued
  exact Keyset.decodeToken_of_mem roundTrip asymmetric holds.wellFormed.nodup
    stillMem recordEq unset noAudience unexpired issued secret

/-! ## The first check -/

/-- Rotation every ten seconds, checked every five, with room for a lifetime of
fifty. -/
def roomy : RotationConfig where
  algorithm := "RS256"
  rotationEnabled := true
  rotationInterval := 10
  retention := 100
  checkInterval := 5
  checked := by decide

/-- A key set with one key, made at time 0. -/
def oldKeys : Keyset :=
  Keyset.buildInitialState roomy (markedKeys.generateKeyRecord 0 0)

theorem generated_oldKeys :
    ∀ content ∈ some oldKeys, content.Generated roomy markedKeys 1 1000 := by
  rintro content ⟨⟩
  refine ⟨Keyset.wellFormed_buildInitialState _, rfl, ?_⟩
  intro item itemMem
  rw [List.mem_singleton.mp itemMem]
  exact ⟨by decide, 0, Nat.zero_lt_one, rfl⟩

/-- A call of a number of steps on a monotonic clock. -/
def callFor (steps : Nat) (monotonic : Int) : List (KeyEvent Unit) :=
  .call () :: List.replicate steps (.step () monotonic)

/-- The claims of a token that expires fifty seconds after time 1000. -/
def fiftySeconds : Claims where
  exp := some 1050
  iat := some 1000

/-- A process whose clock has run for long rotates the old key before it signs;
its token is accepted forty seconds later. -/
theorem live_after_check :
    ∃ signing final content record token,
      exec (keyStep roomy markedKeys) (start (some oldKeys) 1 1000)
        (callFor 14 1000) = some signing ∧
      exec (keyStep roomy markedKeys) signing
        (.finish () :: .wait 40 :: callFor 12 1040) = some final ∧
      (signing.processes ()).state = some content ∧
      content.getActiveKey roomy = .ok record ∧
      (content.manager roomy "").signToken (shownJwt markedKeys.publicOf)
        fiftySeconds {} none none = .ok token ∧
      Live (shownJwt markedKeys.publicOf) roomy "" record.kid token final := by
  have sequential : Along (keyStep roomy markedKeys) (Sequential fun _ => 0)
      (start (some oldKeys) 1 1000)
      (callFor 14 1000 ++ (.finish () :: .wait 40 :: callFor 12 1040)) := by
    decide
  obtain ⟨signing, final, content, record, token, toSigning, toFinal, ready,
      stateEq, active, signed, lastCheck, alive⟩ :
      ∃ signing final content record token,
        exec (keyStep roomy markedKeys) (start (some oldKeys) 1 1000)
          (callFor 14 1000) = some signing ∧
        exec (keyStep roomy markedKeys) signing
          (.finish () :: .wait 40 :: callFor 12 1040) = some final ∧
        (signing.processes ()).phase = .ready ∧
        (signing.processes ()).state = some content ∧
        content.getActiveKey roomy = .ok record ∧
        (content.manager roomy "").signToken (shownJwt markedKeys.publicOf)
          fiftySeconds {} none none = .ok token ∧
        (signing.processes ()).lastRotationCheck = 1000 ∧
        final.now < signing.now + 50 :=
    ⟨_, _, _, _, _, rfl, rfl, rfl, rfl, rfl, rfl, rfl, by decide⟩
  refine ⟨signing, final, content, record, token, toSigning, toFinal, stateEq,
    active, signed, ?_⟩
  exact live_of_run (shownJwt_roundTrip (by decide)) (by decide) rfl (by decide)
    (by decide) generated_oldKeys sequential toSigning toFinal ready stateEq active rfl signed
    (by simp [lastCheck]) alive

/-- A process whose clock is at zero signs under the old key without a check;
five seconds later it rotates, and the kid of its token is no longer listed. -/
theorem first_check_put_off :
    ∃ signing final content record token,
      Along (keyStep roomy markedKeys) (Sequential fun _ => -1000)
        (start (some oldKeys) 1 1000)
        (callFor 5 0 ++ (.finish () :: .wait 5 :: callFor 12 5)) ∧
      exec (keyStep roomy markedKeys) (start (some oldKeys) 1 1000)
        (callFor 5 0) = some signing ∧
      exec (keyStep roomy markedKeys) signing
        (.finish () :: .wait 5 :: callFor 12 5) = some final ∧
      (signing.processes ()).phase = .ready ∧
      (signing.processes ()).state = some content ∧
      content.getActiveKey roomy = .ok record ∧
      (content.manager roomy "").signToken (shownJwt markedKeys.publicOf)
        fiftySeconds {} none none = .ok token ∧
      final.now < signing.now + 50 ∧
      ¬ Live (shownJwt markedKeys.publicOf) roomy "" record.kid token final := by
  have sequential : Along (keyStep roomy markedKeys) (Sequential fun _ => -1000)
      (start (some oldKeys) 1 1000)
      (callFor 5 0 ++ (.finish () :: .wait 5 :: callFor 12 5)) := by
    decide
  refine ⟨_, _, _, _, _, sequential, rfl, rfl, rfl, rfl, rfl, rfl, by decide, ?_⟩
  intro live
  obtain ⟨content, stateEq, listed, -⟩ := live () rfl
  cases stateEq
  revert listed
  decide

end KeyRotation

end HexIam
