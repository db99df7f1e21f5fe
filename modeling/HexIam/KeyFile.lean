import HexIam.GuardedRun
import HexIam.Keyset
import Mathlib.Logic.Function.Basic

/-!
# The key-set file

Processes that share one key-set file: `_ensure_state_loaded_locked` and
`_maybe_rotate_locked` as the steps they take on the file, the lock and their
own memory.  The file lock is taken to be mutually exclusive, `os.replace` to be
atomic, and every replacement to get a larger `st_mtime`.  Whatever the order of
the steps, every key set that is written or remembered is well-formed.
-/

namespace HexIam

open GuardedRun

namespace KeyFile

/-! ## Processes -/

/-- The content of the file with its `st_mtime`. -/
structure FileVersion where
  content : Keyset
  mtime : Nat

/-- Under which lock a step is taken: the lock of the first creation or that of
a rotation. -/
inductive LockSite : Type
  | creating
  | rotating
  deriving DecidableEq, Repr

/-- Where a process is in `ensure_ready`.  A load outside the lock has no
site. -/
inductive KeyPhase : Type
  | idle
  | checking
  | comparing
  | reading (site : Option LockSite)
  | stamping (site : Option LockSite) (content : Keyset)
  | locking (site : LockSite)
  | rechecking
  | deciding
  | generating (site : LockSite)
  | pruning (newKey : KeyRecord)
  | replacing (site : LockSite) (content : Keyset)
  | restamping (site : LockSite) (content : Keyset)
  | unlocking (site : LockSite)
  | loaded
  | ready

/-- The memory of a process, with the key sets the file has held since its call
began. -/
structure KeyProcess where
  phase : KeyPhase := .idle
  state : Option Keyset := none
  stateMtime : Option Nat := none
  lastRotationCheck : Int := 0
  window : List Keyset := []

/-- The file, the holder of its lock, the clock, how many keys were generated,
and the processes. -/
structure KeyWorld (Process : Type) where
  file : Option FileVersion
  holder : Option Process
  now : Int
  generated : Nat
  processes : Process → KeyProcess

/-- A call that begins with `ensure_ready`, the next step of a process with the
reading of its monotonic clock, the end of a call, a timeout at the lock, and
time passing. -/
inductive KeyEvent (Process : Type) : Type
  | call (process : Process)
  | step (process : Process) (monotonic : Int)
  | finish (process : Process)
  | giveUp (process : Process)
  | wait (seconds : Nat)

variable {Process : Type} [DecidableEq Process]

namespace KeyWorld

/-- Replace the memory of a process. -/
def set (world : KeyWorld Process) (process : Process) (memory : KeyProcess) :
    KeyWorld Process :=
  { world with processes := Function.update world.processes process memory }

@[simp]
theorem set_self (world : KeyWorld Process) (process : Process)
    (memory : KeyProcess) :
    (world.set process memory).processes process = memory :=
  Function.update_self ..

@[simp]
theorem set_set (world : KeyWorld Process) (process : Process)
    (first second : KeyProcess) :
    (world.set process first).set process second = world.set process second := by
  simp [set]

theorem set_other (world : KeyWorld Process) {process other : Process}
    (differs : other ≠ process) (memory : KeyProcess) :
    (world.set process memory).processes other = world.processes other :=
  Function.update_of_ne differs ..

/-- The contents of the file now. -/
def contents (world : KeyWorld Process) : List Keyset :=
  world.file.toList.map FileVersion.content

end KeyWorld

/-! ## Steps -/

section Steps

variable (config : RotationConfig) (generator : KeyGenerator)
  (world : KeyWorld Process) (process : Process)

/-- A process moves on. -/
def moveTo (phase : KeyPhase) : KeyWorld Process :=
  world.set process { world.processes process with phase := phase }

/-- An exception ends the call; one under the lock releases it. -/
def raised (site : Option LockSite) : KeyWorld Process :=
  { moveTo world process .idle with
    holder := if site.isSome then none else world.holder }

/-- `_state` and `_state_mtime` are set, and the process moves on. -/
def remember (content : Keyset) (mtime : Nat) (phase : KeyPhase) :
    KeyWorld Process :=
  world.set process { world.processes process with
    phase := phase
    state := some content
    stateMtime := some mtime }

/-- Where a load returns to. -/
def afterLoad : Option LockSite → KeyPhase
  | none => .loaded
  | some .creating => .unlocking .creating
  | some .rotating => .deciding

/-- `os.replace`: every process in a call sees another content of the file. -/
def replaceFile (site : LockSite) (content : Keyset) : KeyWorld Process :=
  let moved := moveTo world process (.restamping site content)
  { moved with
    file := some ⟨content, (world.file.map FileVersion.mtime).getD 0 + 1⟩
    processes := fun other =>
      { moved.processes other with
        window := (moved.processes other).window ++ [content] } }

/-- The body of `_maybe_rotate_locked` up to the lock. -/
def maybeRotate (monotonic : Int) : Option (KeyWorld Process) :=
  let memory := world.processes process
  if !config.rotationEnabled || config.rotationInterval ≤ 0 ||
      monotonic - memory.lastRotationCheck < config.checkInterval then
    some (moveTo world process .ready)
  else
    let checked := world.set process
      { memory with lastRotationCheck := monotonic }
    memory.state.map fun state =>
      match state.getActiveKey config with
      | .error _ => raised checked process none
      | .ok activeKey =>
          if Keyset.due config world.now activeKey then
            moveTo checked process (.locking .rotating)
          else moveTo checked process .ready

/-- The age check under the lock. -/
def decideRotation : Option (KeyWorld Process) :=
  (world.processes process).state.map fun state =>
    match state.getActiveKey config with
    | .error _ => raised world process (some .rotating)
    | .ok activeKey =>
        if Keyset.due config world.now activeKey then
          moveTo world process (.generating .rotating)
        else moveTo world process (.unlocking .rotating)

/-- The next step of a process. -/
def advance (monotonic : Int) : KeyPhase → Option (KeyWorld Process)
  | .idle | .ready => none
  | .checking =>
      match world.file with
      | none => some (moveTo world process (.locking .creating))
      | some _ => some (moveTo world process .comparing)
  | .comparing =>
      world.file.map fun version =>
        let memory := world.processes process
        if memory.state.isNone || memory.stateMtime ≠ some version.mtime then
          moveTo world process (.reading none)
        else moveTo world process .loaded
  | .reading site =>
      world.file.map fun version =>
        if version.content.algorithm = config.algorithm then
          moveTo world process (.stamping site version.content)
        else raised world process site
  | .stamping site content =>
      world.file.map fun version =>
        remember world process content version.mtime (afterLoad site)
  | .locking site =>
      match world.holder with
      | some _ => none
      | none => some { moveTo world process (match site with
          | .creating => .rechecking
          | .rotating => .reading (some .rotating)) with
          holder := some process }
  | .rechecking =>
      match world.file with
      | none => some (moveTo world process (.generating .creating))
      | some _ => some (moveTo world process (.reading (some .creating)))
  | .deciding => decideRotation config world process
  | .generating site =>
      let newKey := generator.generateKeyRecord world.generated world.now
      some { moveTo world process (match site with
          | .creating =>
              .replacing .creating (Keyset.buildInitialState config newKey)
          | .rotating => .pruning newKey) with
        generated := world.generated + 1 }
  | .pruning newKey =>
      (world.processes process).state.map fun state =>
        moveTo world process (.replacing .rotating
          (state.rotated config world.now newKey))
  | .replacing site content => some (replaceFile world process site content)
  | .restamping site content =>
      world.file.map fun version =>
        remember world process content version.mtime (.unlocking site)
  | .unlocking site =>
      some { moveTo world process (match site with
          | .creating => .loaded
          | .rotating => .ready) with
        holder := none }
  | .loaded => maybeRotate config world process monotonic

/-- The state after an event. -/
def keyStep : KeyEvent Process → Option (KeyWorld Process)
  | .call process =>
      match (world.processes process).phase with
      | .idle => some (world.set process { world.processes process with
          phase := .checking
          window := world.contents })
      | _ => none
  | .step process monotonic =>
      advance config generator world process monotonic
        (world.processes process).phase
  | .finish process =>
      match (world.processes process).phase with
      | .ready => some (moveTo world process .idle)
      | _ => none
  | .giveUp process =>
      match (world.processes process).phase with
      | .locking _ => some (moveTo world process .idle)
      | _ => none
  | .wait seconds => some { world with now := world.now + seconds }

end Steps

/-- Processes that have not called anything yet. -/
def start (file : Option Keyset) (generated : Nat) (now : Int) :
    KeyWorld Process where
  file := file.map fun content => ⟨content, 0⟩
  holder := none
  now := now
  generated := generated
  processes _ := {}

/-! ## What holds of every key set -/

/-- A property of the key sets, given how many keys were generated and the time,
that creation and rotation maintain. -/
structure Maintained (config : RotationConfig) (generator : KeyGenerator)
    (good : Nat → Int → Keyset → Prop) : Prop where
  mono {count more : Nat} {now later : Int} {content : Keyset}
    (holds : good count now content) (moreCount : count ≤ more)
    (laterNow : now ≤ later) : good more later content
  initial (count : Nat) (now : Int) : good (count + 1) now
    (Keyset.buildInitialState config (generator.generateKeyRecord count now))
  rotated {count : Nat} {before created now : Int} {content : Keyset}
    {activeKey : KeyRecord} (holds : good count created content)
    (active : content.getActiveKey config = .ok activeKey)
    (isDue : Keyset.due config before activeKey = true)
    (beforeCreated : before ≤ created) (createdNow : created ≤ now) :
    good (count + 1) now
      (content.rotated config now (generator.generateKeyRecord count created))

section Invariant

variable (config : RotationConfig) (generator : KeyGenerator)
  (good : Nat → Int → Keyset → Prop)

/-- What a process knows where it is. -/
def PhaseOk (generated : Nat) (now : Int) (memory : KeyProcess) : Prop :=
  match memory.phase with
  | .stamping _ content => good generated now content
  | .replacing _ content => good generated now content
  | .restamping _ content => good generated now content
  | .loaded | .ready | .deciding | .unlocking _ => memory.state.isSome = true
  | .generating .rotating => ∃ content activeKey before,
      memory.state = some content ∧
      content.getActiveKey config = .ok activeKey ∧
      Keyset.due config before activeKey = true ∧ before ≤ now
  | .pruning newKey => ∃ content activeKey before count,
      memory.state = some content ∧
      content.getActiveKey config = .ok activeKey ∧
      Keyset.due config before activeKey = true ∧
      before ≤ newKey.createdAt ∧ newKey.createdAt ≤ now ∧
      count < generated ∧
      newKey = generator.generateKeyRecord count newKey.createdAt ∧
      good count newKey.createdAt content
  | _ => True

/-- Every key set that is in the file, in a memory or about to be written
satisfies the property. -/
structure KeyInvariant (world : KeyWorld Process) : Prop where
  file : ∀ version ∈ world.file, good world.generated world.now version.content
  memory : ∀ process content, (world.processes process).state = some content →
    good world.generated world.now content
  phase : ∀ process, PhaseOk config generator good world.generated world.now
    (world.processes process)

variable {config generator good} {world : KeyWorld Process} {process : Process}

theorem PhaseOk.mono (maintained : Maintained config generator good)
    {count more : Nat} {now later : Int} {memory : KeyProcess}
    (moreCount : count ≤ more) (laterNow : now ≤ later)
    (phaseOk : PhaseOk config generator good count now memory) :
    PhaseOk config generator good more later memory := by
  unfold PhaseOk at phaseOk ⊢
  cases phaseEq : memory.phase with
  | stamping site content =>
      rw [phaseEq] at phaseOk
      exact maintained.mono phaseOk moreCount laterNow
  | replacing site content =>
      rw [phaseEq] at phaseOk
      exact maintained.mono phaseOk moreCount laterNow
  | restamping site content =>
      rw [phaseEq] at phaseOk
      exact maintained.mono phaseOk moreCount laterNow
  | generating site =>
      rw [phaseEq] at phaseOk
      cases site with
      | creating => trivial
      | rotating =>
          obtain ⟨content, activeKey, before, stateEq, active, isDue, past⟩ :=
            phaseOk
          exact ⟨content, activeKey, before, stateEq, active, isDue,
            past.trans laterNow⟩
  | pruning newKey =>
      rw [phaseEq] at phaseOk
      obtain ⟨content, activeKey, before, number, stateEq, active, isDue, past,
        created, numbered, newKeyEq, holds⟩ := phaseOk
      exact ⟨content, activeKey, before, number, stateEq, active, isDue, past,
        created.trans laterNow, numbered.trans_le moreCount, newKeyEq, holds⟩
  | _ =>
      rw [phaseEq] at phaseOk
      exact phaseOk

/-- Replacing one memory keeps the invariant when it satisfies it. -/
theorem KeyInvariant.set (invariant : KeyInvariant config generator good world)
    {memory : KeyProcess}
    (stateOk : ∀ content, memory.state = some content →
      good world.generated world.now content)
    (phaseOk : PhaseOk config generator good world.generated world.now memory) :
    KeyInvariant config generator good (world.set process memory) := by
  refine ⟨invariant.file, ?_, ?_⟩
  · intro other content
    by_cases isProcess : other = process
    · subst isProcess
      rw [KeyWorld.set_self]
      exact stateOk content
    · rw [KeyWorld.set_other _ isProcess]
      exact invariant.memory other content
  · intro other
    by_cases isProcess : other = process
    · subst isProcess
      rw [KeyWorld.set_self]
      exact phaseOk
    · rw [KeyWorld.set_other _ isProcess]
      exact invariant.phase other

theorem KeyInvariant.moveTo (invariant : KeyInvariant config generator good world)
    {phase : KeyPhase}
    (phaseOk : PhaseOk config generator good world.generated world.now
      { world.processes process with phase := phase }) :
    KeyInvariant config generator good (KeyFile.moveTo world process phase) :=
  invariant.set (invariant.memory process) phaseOk

omit [DecidableEq Process] in
theorem KeyInvariant.setHolder
    (invariant : KeyInvariant config generator good world)
    (holder : Option Process) :
    KeyInvariant config generator good { world with holder := holder } :=
  ⟨invariant.file, invariant.memory, invariant.phase⟩

theorem KeyInvariant.raised (invariant : KeyInvariant config generator good world)
    (site : Option LockSite) :
    KeyInvariant config generator good (KeyFile.raised world process site) := by
  have moved : KeyInvariant config generator good
      (KeyFile.moveTo world process .idle) := invariant.moveTo trivial
  exact moved.setHolder _

omit [DecidableEq Process] in
theorem KeyInvariant.grow (maintained : Maintained config generator good)
    (invariant : KeyInvariant config generator good world) {more : Nat}
    {later : Int} (moreCount : world.generated ≤ more)
    (laterNow : world.now ≤ later) :
    KeyInvariant config generator good
      { world with
        generated := more
        now := later } where
  file version versionMem :=
    maintained.mono (invariant.file version versionMem) moreCount laterNow
  memory other content stateEq :=
    maintained.mono (invariant.memory other content stateEq) moreCount laterNow
  phase other := (invariant.phase other).mono maintained moreCount laterNow

theorem KeyInvariant.remember
    (invariant : KeyInvariant config generator good world) {content : Keyset}
    (holds : good world.generated world.now content) (mtime : Nat)
    {phase : KeyPhase}
    (phaseOk : PhaseOk config generator good world.generated world.now
      { world.processes process with
        phase := phase
        state := some content
        stateMtime := some mtime }) :
    KeyInvariant config generator good
      (KeyFile.remember world process content mtime phase) := by
  refine invariant.set ?_ phaseOk
  rintro _ ⟨⟩
  exact holds

/-- Replacing the file by a key set that satisfies the property keeps the
invariant. -/
theorem KeyInvariant.replaceFile
    (invariant : KeyInvariant config generator good world) {content : Keyset}
    (holds : good world.generated world.now content) (site : LockSite) :
    KeyInvariant config generator good
      (KeyFile.replaceFile world process site content) := by
  have moved : KeyInvariant config generator good
      (KeyFile.moveTo world process (.restamping site content)) :=
    invariant.moveTo holds
  refine ⟨?_, moved.memory, moved.phase⟩
  rintro version ⟨⟩
  exact holds

theorem invariant_maybeRotate
    (invariant : KeyInvariant config generator good world) {monotonic : Int}
    {next : KeyWorld Process}
    (hasState : (world.processes process).state.isSome = true)
    (stepEq : maybeRotate config world process monotonic = some next) :
    KeyInvariant config generator good next := by
  unfold maybeRotate at stepEq
  dsimp only at stepEq
  split at stepEq
  case isTrue =>
    cases stepEq
    exact invariant.moveTo hasState
  case isFalse =>
    have checked : KeyInvariant config generator good (world.set process
        { world.processes process with lastRotationCheck := monotonic }) :=
      invariant.set (invariant.memory process) (invariant.phase process)
    obtain ⟨state, stateEq, rfl⟩ := Option.map_eq_some_iff.mp stepEq
    split
    case h_1 => exact checked.raised none
    case h_2 =>
      split
      · exact checked.moveTo trivial
      · exact checked.moveTo (by rw [KeyWorld.set_self]; exact hasState)

theorem invariant_decideRotation
    (invariant : KeyInvariant config generator good world)
    {next : KeyWorld Process}
    (stepEq : decideRotation config world process = some next) :
    KeyInvariant config generator good next := by
  obtain ⟨state, stateEq, rfl⟩ := Option.map_eq_some_iff.mp stepEq
  split
  case h_1 => exact invariant.raised _
  case h_2 activeKey active =>
    split
    case isTrue isDue =>
      exact invariant.moveTo
        ⟨state, activeKey, world.now, stateEq, active, isDue, le_rfl⟩
    case isFalse =>
      exact invariant.moveTo (Option.isSome_iff_exists.mpr ⟨state, stateEq⟩)

theorem invariant_generating (maintained : Maintained config generator good)
    (invariant : KeyInvariant config generator good world) {site : LockSite}
    (phaseEq : (world.processes process).phase = .generating site)
    {next : KeyWorld Process} {monotonic : Int}
    (stepEq : advance config generator world process monotonic
      (.generating site) = some next) :
    KeyInvariant config generator good next := by
  have grown := invariant.grow maintained (Nat.le_succ world.generated)
    (le_refl world.now)
  have phaseOk := invariant.phase process
  unfold PhaseOk at phaseOk
  rw [phaseEq] at phaseOk
  cases stepEq
  cases site with
  | creating =>
      exact grown.moveTo (maintained.initial world.generated world.now)
  | rotating =>
      obtain ⟨content, activeKey, before, stateEq, active, isDue, past⟩ := phaseOk
      exact grown.moveTo ⟨content, activeKey, before, world.generated, stateEq,
        active, isDue, past, le_rfl, Nat.lt_succ_self _, rfl,
        invariant.memory process content stateEq⟩

theorem invariant_pruning (maintained : Maintained config generator good)
    (invariant : KeyInvariant config generator good world) {newKey : KeyRecord}
    (phaseEq : (world.processes process).phase = .pruning newKey)
    {next : KeyWorld Process} {monotonic : Int}
    (stepEq : advance config generator world process monotonic
      (.pruning newKey) = some next) :
    KeyInvariant config generator good next := by
  have phaseOk := invariant.phase process
  unfold PhaseOk at phaseOk
  rw [phaseEq] at phaseOk
  obtain ⟨content, activeKey, before, count, stateEq, active, isDue, past, created,
    numbered, newKeyEq, holds⟩ := phaseOk
  obtain ⟨state, found, rfl⟩ := Option.map_eq_some_iff.mp stepEq
  cases stateEq.symm.trans found
  have rotated := maintained.rotated holds active isDue past created
  rw [← newKeyEq] at rotated
  exact invariant.moveTo (maintained.mono rotated numbered le_rfl)

theorem invariant_advance (maintained : Maintained config generator good)
    (invariant : KeyInvariant config generator good world) {monotonic : Int}
    {next : KeyWorld Process}
    (stepEq : advance config generator world process monotonic
      (world.processes process).phase = some next) :
    KeyInvariant config generator good next := by
  have phaseOk := invariant.phase process
  unfold PhaseOk at phaseOk
  cases phaseEq : (world.processes process).phase with
  | idle =>
      rw [phaseEq] at stepEq
      cases stepEq
  | ready =>
      rw [phaseEq] at stepEq
      cases stepEq
  | checking =>
      rw [phaseEq] at stepEq
      simp only [advance] at stepEq
      split at stepEq <;> cases stepEq <;> exact invariant.moveTo trivial
  | comparing =>
      rw [phaseEq] at stepEq
      obtain ⟨version, -, rfl⟩ := Option.map_eq_some_iff.mp stepEq
      dsimp only
      split
      case isTrue => exact invariant.moveTo trivial
      case isFalse known =>
        refine invariant.moveTo ?_
        change (world.processes process).state.isSome = true
        cases stateEq : (world.processes process).state with
        | none => simp [stateEq] at known
        | some state => rfl
  | reading site =>
      rw [phaseEq] at stepEq
      obtain ⟨version, versionMem, rfl⟩ := Option.map_eq_some_iff.mp stepEq
      split
      · exact invariant.moveTo (invariant.file version versionMem)
      · exact invariant.raised site
  | stamping site content =>
      rw [phaseEq] at stepEq phaseOk
      obtain ⟨version, -, rfl⟩ := Option.map_eq_some_iff.mp stepEq
      refine invariant.remember phaseOk version.mtime ?_
      cases site with
      | none => rfl
      | some site => cases site <;> rfl
  | locking site =>
      rw [phaseEq] at stepEq
      simp only [advance] at stepEq
      split at stepEq
      · cases stepEq
      · cases stepEq
        cases site with
        | creating =>
            have moved : KeyInvariant config generator good
                (KeyFile.moveTo world process .rechecking) :=
              invariant.moveTo trivial
            exact moved.setHolder _
        | rotating =>
            have moved : KeyInvariant config generator good
                (KeyFile.moveTo world process (.reading (some .rotating))) :=
              invariant.moveTo trivial
            exact moved.setHolder _
  | rechecking =>
      rw [phaseEq] at stepEq
      simp only [advance] at stepEq
      split at stepEq <;> cases stepEq <;> exact invariant.moveTo trivial
  | deciding =>
      rw [phaseEq] at stepEq
      exact invariant_decideRotation invariant stepEq
  | generating site =>
      rw [phaseEq] at stepEq
      exact invariant_generating maintained invariant phaseEq stepEq
  | pruning newKey =>
      rw [phaseEq] at stepEq
      exact invariant_pruning maintained invariant phaseEq stepEq
  | replacing site content =>
      rw [phaseEq] at stepEq phaseOk
      cases stepEq
      exact invariant.replaceFile phaseOk site
  | restamping site content =>
      rw [phaseEq] at stepEq phaseOk
      obtain ⟨version, -, rfl⟩ := Option.map_eq_some_iff.mp stepEq
      exact invariant.remember phaseOk version.mtime rfl
  | unlocking site =>
      rw [phaseEq] at stepEq phaseOk
      cases stepEq
      cases site with
      | creating =>
          have moved : KeyInvariant config generator good
              (KeyFile.moveTo world process .loaded) := invariant.moveTo phaseOk
          exact moved.setHolder none
      | rotating =>
          have moved : KeyInvariant config generator good
              (KeyFile.moveTo world process .ready) := invariant.moveTo phaseOk
          exact moved.setHolder none
  | loaded =>
      rw [phaseEq] at stepEq phaseOk
      exact invariant_maybeRotate invariant phaseOk stepEq

theorem invariant_keyStep (maintained : Maintained config generator good)
    (world : KeyWorld Process) (event : KeyEvent Process)
    (next : KeyWorld Process)
    (invariant : KeyInvariant config generator good world)
    (stepEq : keyStep config generator world event = some next) :
    KeyInvariant config generator good next := by
  cases event with
  | call process =>
      simp only [keyStep] at stepEq
      split at stepEq <;> cases stepEq
      exact invariant.set (invariant.memory process) trivial
  | step process monotonic => exact invariant_advance maintained invariant stepEq
  | finish process =>
      simp only [keyStep] at stepEq
      split at stepEq <;> cases stepEq
      exact invariant.moveTo trivial
  | giveUp process =>
      simp only [keyStep] at stepEq
      split at stepEq <;> cases stepEq
      exact invariant.moveTo trivial
  | wait seconds =>
      cases stepEq
      exact invariant.grow maintained le_rfl (by simp)

omit [DecidableEq Process] in
theorem invariant_start {file : Option Keyset} {generated : Nat} {now : Int}
    (holds : ∀ content ∈ file, good generated now content) :
    KeyInvariant config generator good
      (start file generated now : KeyWorld Process) := by
  refine ⟨?_, ?_, ?_⟩
  · intro version versionMem
    obtain ⟨content, contentMem, rfl⟩ := Option.mem_map.mp versionMem
    exact holds content contentMem
  · rintro process content ⟨⟩
  · intro process
    trivial

end Invariant

end KeyFile

end HexIam
