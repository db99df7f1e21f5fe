import HexIam.KeysetRepresentation
import HexIam.KeyTokens

/-!
# Fresh key sets in memory

Between `read_text` and `stat` of a load outside the lock, another process can
replace the file.  The old content is then remembered under the new `st_mtime`,
and every later call takes it for current.  When no replacement falls between
the two, the memory of a process is as fresh as the file at every load, and a
token of one process is accepted by the others.
-/

namespace HexIam

open GuardedRun KeyFile KeyTokens KeysetRepresentation

namespace KeyFileFreshness

/-! ## Memories that are in step with the file -/

/-- The phases under the lock. -/
def underLock : KeyPhase → Bool
  | .rechecking | .deciding | .generating _ | .pruning _ | .replacing _ _
  | .restamping _ _ | .unlocking _ => true
  | .reading site | .stamping site _ => site.isSome
  | _ => false

/-- The phases after a load. -/
def settled : KeyPhase → Bool
  | .deciding | .generating .rotating | .pruning _ | .unlocking _ | .loaded
  | .ready => true
  | _ => false

/-- The content that is about to be remembered. -/
def pendingContent : KeyPhase → Option Keyset
  | .stamping _ content | .restamping _ content => some content
  | _ => none

/-- The memory of a process is in step with the file: what is remembered under
the `st_mtime` of the file is its content, what is about to be remembered is its
content, and after a load the process remembers a content that the file has had
since the call began. -/
structure InStep (file : Option FileVersion) (memory : KeyProcess) : Prop where
  cached : ∀ mtime, memory.stateMtime = some mtime → ∃ version, file = some version ∧
    mtime ≤ version.mtime ∧
      (mtime = version.mtime → memory.state = some version.content)
  pending : ∀ content, pendingContent memory.phase = some content →
    ∃ version, file = some version ∧ version.content = content
  remembered : settled memory.phase = true →
    ∃ content ∈ memory.window, memory.state = some content
  seen : memory.phase ≠ .idle → ∀ version ∈ file, version.content ∈ memory.window
  lasting : ∀ content ∈ memory.window, file.isSome = true

variable {Process : Type} [DecidableEq Process]

/-- Every memory is in step with the file, and a process is under the lock only
while it holds it. -/
structure Synced (world : KeyWorld Process) : Prop where
  locked : ∀ process, underLock (world.processes process).phase = true →
    world.holder = some process
  inStep : ∀ process, InStep world.file (world.processes process)

/-- The next step is `os.replace`. -/
def isReplacing : KeyPhase → Bool
  | .replacing _ _ => true
  | _ => false

/-- The process is between `read_text` and `stat`. -/
def isStamping : KeyPhase → Bool
  | .stamping _ _ => true
  | _ => false

/-- The file is replaced only while no process is between `read_text` and
`stat`. -/
def Careful (world : KeyWorld Process) : KeyEvent Process → Prop
  | .step process _ => isReplacing (world.processes process).phase = true →
      ∀ other, isStamping (world.processes other).phase = false
  | _ => True

instance decidableCareful [Fintype Process] (world : KeyWorld Process) :
    (event : KeyEvent Process) → Decidable (Careful world event)
  | .step process _ => inferInstanceAs (Decidable
      (isReplacing (world.processes process).phase = true →
        ∀ other, isStamping (world.processes other).phase = false))
  | .call _ | .finish _ | .giveUp _ | .wait _ => isTrue trivial

/-! ## Steps of one memory -/

section Memory

variable {file : Option FileVersion} {memory : KeyProcess}

/-- A process in a call moves to another phase. -/
theorem InStep.moveTo (inStep : InStep file memory) {phase : KeyPhase}
    (awake : memory.phase ≠ .idle)
    (pending : ∀ content, pendingContent phase = some content →
      ∃ version, file = some version ∧ version.content = content)
    (remembered : settled phase = true →
      ∃ content ∈ memory.window, memory.state = some content) :
    InStep file { memory with phase := phase } :=
  ⟨inStep.cached, pending, remembered, fun _ => inStep.seen awake, inStep.lasting⟩

/-- A process ends its call. -/
theorem InStep.end (inStep : InStep file memory) :
    InStep file { memory with phase := .idle } := by
  refine ⟨inStep.cached, ?_, ?_, ?_, inStep.lasting⟩
  · intro content isPending
    cases isPending
  · intro isSettled
    cases isSettled
  · intro awake
    exact absurd rfl awake

theorem InStep.remember (inStep : InStep file memory) {version : FileVersion}
    (fileEq : file = some version) (awake : memory.phase ≠ .idle)
    {phase : KeyPhase} (noPending : pendingContent phase = none) :
    InStep file { memory with
      phase := phase
      state := some version.content
      stateMtime := some version.mtime } where
  cached mtime mtimeEq := by
    cases mtimeEq
    exact ⟨version, fileEq, le_rfl, fun _ => rfl⟩
  pending content isPending := by
    rw [noPending] at isPending
    cases isPending
  remembered _ :=
    ⟨version.content, inStep.seen awake version (by rw [fileEq]; rfl), rfl⟩
  seen _ := inStep.seen awake
  lasting := inStep.lasting

/-- The file is replaced: nothing is remembered under its new `st_mtime`. -/
theorem InStep.replaced (inStep : InStep file memory) (content : Keyset)
    (notPending : pendingContent memory.phase = none) :
    InStep (some ⟨content, (file.map FileVersion.mtime).getD 0 + 1⟩)
      { memory with window := memory.window ++ [content] } where
  cached mtime mtimeEq := by
    obtain ⟨version, fileEq, upTo, -⟩ := inStep.cached mtime mtimeEq
    have older : mtime < (file.map FileVersion.mtime).getD 0 + 1 := by
      rw [fileEq]
      exact Nat.lt_succ_of_le upTo
    exact ⟨_, rfl, older.le, fun same => absurd same older.ne⟩
  pending pendingKeys isPending := by
    rw [notPending] at isPending
    cases isPending
  remembered isSettled := by
    obtain ⟨state, stateMem, stateEq⟩ := inStep.remembered isSettled
    exact ⟨state, List.mem_append_left _ stateMem, stateEq⟩
  seen _ version versionMem := by
    cases versionMem
    exact List.mem_append_right _ (List.mem_singleton_self _)
  lasting _ _ := rfl

/-- The process that replaced the file is about to remember the new content. -/
theorem InStep.written {content : Keyset} {mtime : Nat}
    (inStep : InStep (some ⟨content, mtime⟩) memory) (site : LockSite)
    (seen : content ∈ memory.window) :
    InStep (some ⟨content, mtime⟩)
      { memory with phase := .restamping site content } where
  cached := inStep.cached
  pending written isPending := ⟨_, rfl, Option.some.inj isPending⟩
  remembered isSettled := by cases isSettled
  seen _ version versionMem := by
    cases versionMem
    exact seen
  lasting _ _ := rfl

end Memory

/-! ## Steps of the processes -/

variable {config : RotationConfig} {generator : KeyGenerator}
  {world next : KeyWorld Process} {process : Process}

/-- Replacing one memory keeps the others in step. -/
theorem Synced.set (synced : Synced world) {memory : KeyProcess}
    (locked : underLock memory.phase = true → world.holder = some process)
    (inStep : InStep world.file memory) : Synced (world.set process memory) := by
  refine ⟨?_, ?_⟩
  · intro other isLocked
    by_cases isProcess : other = process
    · subst isProcess
      rw [KeyWorld.set_self] at isLocked
      exact locked isLocked
    · rw [KeyWorld.set_other _ isProcess] at isLocked
      exact synced.locked other isLocked
  · intro other
    by_cases isProcess : other = process
    · subst isProcess
      rw [KeyWorld.set_self]
      exact inStep
    · rw [KeyWorld.set_other _ isProcess]
      exact synced.inStep other

theorem Synced.moveTo (synced : Synced world) {phase : KeyPhase}
    (awake : (world.processes process).phase ≠ .idle)
    (locked : underLock phase = true → world.holder = some process)
    (pending : ∀ content, pendingContent phase = some content →
      ∃ version, world.file = some version ∧ version.content = content)
    (remembered : settled phase = true →
      ∃ content ∈ (world.processes process).window,
        (world.processes process).state = some content) :
    Synced (KeyFile.moveTo world process phase) :=
  synced.set locked ((synced.inStep process).moveTo awake pending remembered)

/-- A move to a phase in which nothing is known of the memory. -/
theorem Synced.moveOn (synced : Synced world) {phase : KeyPhase}
    (awake : (world.processes process).phase ≠ .idle)
    (locked : underLock phase = true → world.holder = some process)
    (noPending : pendingContent phase = none) (notSettled : settled phase = false) :
    Synced (KeyFile.moveTo world process phase) := by
  apply synced.moveTo awake locked
  · intro content isPending
    rw [noPending] at isPending
    cases isPending
  · intro isSettled
    rw [notSettled] at isSettled
    cases isSettled

omit [DecidableEq Process] in
theorem Synced.release (synced : Synced world)
    (held : world.holder = some process)
    (free : underLock (world.processes process).phase = false) :
    Synced { world with holder := none } := by
  refine ⟨?_, synced.inStep⟩
  intro other isLocked
  have holderEq := synced.locked other isLocked
  cases held.symm.trans holderEq
  change underLock (world.processes process).phase = true at isLocked
  rw [free] at isLocked
  cases isLocked

theorem Synced.acquire (synced : Synced world) (free : world.holder = none)
    {phase : KeyPhase} (awake : (world.processes process).phase ≠ .idle)
    (noPending : pendingContent phase = none) (notSettled : settled phase = false) :
    Synced { KeyFile.moveTo world process phase with holder := some process } := by
  refine ⟨?_, ?_⟩
  · intro other isLocked
    by_cases isProcess : other = process
    · rw [isProcess]
    · change underLock ((world.set process _).processes other).phase = true
        at isLocked
      rw [KeyWorld.set_other _ isProcess] at isLocked
      have holderEq := synced.locked other isLocked
      rw [free] at holderEq
      cases holderEq
  · have inStep : InStep world.file
        { world.processes process with phase := phase } := by
      apply (synced.inStep process).moveTo awake
      · intro content isPending
        rw [noPending] at isPending
        cases isPending
      · intro isSettled
        rw [notSettled] at isSettled
        cases isSettled
    intro other
    change InStep world.file ((world.set process _).processes other)
    by_cases isProcess : other = process
    · subst isProcess
      rw [KeyWorld.set_self]
      exact inStep
    · rw [KeyWorld.set_other _ isProcess]
      exact synced.inStep other

theorem Synced.end (synced : Synced world) :
    Synced (KeyFile.moveTo world process .idle) :=
  synced.set (by intro isLocked; cases isLocked) (synced.inStep process).end

theorem Synced.raised (synced : Synced world) {site : Option LockSite}
    (held : site.isSome = true → world.holder = some process) :
    Synced (KeyFile.raised world process site) := by
  have ended : Synced (KeyFile.moveTo world process .idle) := synced.end
  cases site with
  | none => exact ended
  | some site =>
      apply ended.release (held rfl)
      change underLock ((world.set process _).processes process).phase = false
      rw [KeyWorld.set_self]
      rfl

/-- A process replaces the file while no other is about to remember the old
content. -/
theorem Synced.replaceFile (synced : Synced world) {site : LockSite}
    {content : Keyset}
    (phaseEq : (world.processes process).phase = .replacing site content)
    (careful : ∀ other, isStamping (world.processes other).phase = false) :
    Synced (KeyFile.replaceFile world process site content) := by
  have held : world.holder = some process :=
    synced.locked process (by rw [phaseEq]; rfl)
  have nonePending : ∀ other,
      pendingContent (world.processes other).phase = none := by
    intro other
    cases otherEq : (world.processes other).phase with
    | stamping otherSite read =>
        have notStamping := careful other
        rw [otherEq] at notStamping
        cases notStamping
    | restamping otherSite written =>
        have otherHeld := synced.locked other (by rw [otherEq]; rfl)
        cases held.symm.trans otherHeld
        rw [phaseEq] at otherEq
        cases otherEq
    | _ => rfl
  refine ⟨?_, ?_⟩
  · intro other isLocked
    by_cases isProcess : other = process
    · rw [isProcess]
      exact held
    · change underLock ((world.set process _).processes other).phase = true
        at isLocked
      rw [KeyWorld.set_other _ isProcess] at isLocked
      exact synced.locked other isLocked
  · intro other
    have replaced := (synced.inStep other).replaced content (nonePending other)
    by_cases isProcess : other = process
    · subst isProcess
      change InStep _ { (world.set other _).processes other with
        window := ((world.set other _).processes other).window ++ [content] }
      rw [KeyWorld.set_self]
      exact replaced.written site (by simp)
    · change InStep _ { (world.set process _).processes other with
        window := ((world.set process _).processes other).window ++ [content] }
      rw [KeyWorld.set_other _ isProcess]
      exact replaced

theorem synced_maybeRotate (synced : Synced world)
    (phaseEq : (world.processes process).phase = .loaded) {monotonic : Int}
    (stepEq : maybeRotate config world process monotonic = some next) :
    Synced next := by
  have awake : (world.processes process).phase ≠ .idle := by simp [phaseEq]
  have remembered := (synced.inStep process).remembered (by rw [phaseEq]; rfl)
  unfold maybeRotate at stepEq
  dsimp only at stepEq
  split at stepEq
  case isTrue =>
    cases stepEq
    exact synced.moveTo awake (by simp [underLock]) (by simp [pendingContent])
      fun _ => remembered
  case isFalse =>
    have inStep := synced.inStep process
    have checked : Synced (world.set process
        { world.processes process with lastRotationCheck := monotonic }) :=
      synced.set (synced.locked process)
        ⟨inStep.cached, inStep.pending, inStep.remembered, inStep.seen,
          inStep.lasting⟩
    obtain ⟨state, stateEq, rfl⟩ := Option.map_eq_some_iff.mp stepEq
    split
    case h_1 => exact checked.raised (by simp)
    case h_2 =>
      split
      · exact checked.moveOn (by rw [KeyWorld.set_self]; exact awake)
          (by simp [underLock]) rfl rfl
      · apply checked.moveTo (by rw [KeyWorld.set_self]; exact awake)
          (by simp [underLock]) (by simp [pendingContent])
        rw [KeyWorld.set_self]
        exact fun _ => remembered

theorem synced_decideRotation (synced : Synced world)
    (phaseEq : (world.processes process).phase = .deciding)
    (stepEq : decideRotation config world process = some next) :
    Synced next := by
  have awake : (world.processes process).phase ≠ .idle := by simp [phaseEq]
  have held := synced.locked process (by rw [phaseEq]; rfl)
  have remembered := (synced.inStep process).remembered (by rw [phaseEq]; rfl)
  obtain ⟨state, stateEq, rfl⟩ := Option.map_eq_some_iff.mp stepEq
  split
  case h_1 => exact synced.raised fun _ => held
  case h_2 =>
    split
    · exact synced.moveTo awake (fun _ => held) (by simp [pendingContent])
        fun _ => remembered
    · exact synced.moveTo awake (fun _ => held) (by simp [pendingContent])
        fun _ => remembered

theorem synced_generating (synced : Synced world) {site : LockSite}
    (phaseEq : (world.processes process).phase = .generating site)
    {monotonic : Int}
    (stepEq : advance config generator world process monotonic
      (.generating site) = some next) : Synced next := by
  have awake : (world.processes process).phase ≠ .idle := by simp [phaseEq]
  have held := synced.locked process (by rw [phaseEq]; rfl)
  cases stepEq
  cases site with
  | creating =>
      have moved : Synced (KeyFile.moveTo world process (.replacing .creating
          (Keyset.buildInitialState config
            (generator.generateKeyRecord world.generated world.now)))) :=
        synced.moveOn awake (fun _ => held) rfl rfl
      exact ⟨moved.locked, moved.inStep⟩
  | rotating =>
      have remembered := (synced.inStep process).remembered (by rw [phaseEq]; rfl)
      have moved : Synced (KeyFile.moveTo world process (.pruning
          (generator.generateKeyRecord world.generated world.now))) :=
        synced.moveTo awake (fun _ => held) (by simp [pendingContent])
          fun _ => remembered
      exact ⟨moved.locked, moved.inStep⟩

theorem synced_unlocking (synced : Synced world) {site : LockSite}
    (phaseEq : (world.processes process).phase = .unlocking site)
    {monotonic : Int}
    (stepEq : advance config generator world process monotonic
      (.unlocking site) = some next) : Synced next := by
  have awake : (world.processes process).phase ≠ .idle := by simp [phaseEq]
  have held := synced.locked process (by rw [phaseEq]; rfl)
  have remembered := (synced.inStep process).remembered (by rw [phaseEq]; rfl)
  have moved : ∀ phase, underLock phase = false → pendingContent phase = none →
      Synced { KeyFile.moveTo world process phase with holder := none } := by
    intro phase free noPending
    have moved : Synced (KeyFile.moveTo world process phase) :=
      synced.moveTo awake (fun _ => held) (by simp [noPending]) fun _ => remembered
    apply moved.release held
    change underLock ((world.set process _).processes process).phase = false
    rw [KeyWorld.set_self]
    exact free
  cases stepEq
  cases site with
  | creating => exact moved .loaded rfl rfl
  | rotating => exact moved .ready rfl rfl

theorem synced_advance (synced : Synced world) {monotonic : Int}
    (careful : Careful world (.step process monotonic))
    (stepEq : advance config generator world process monotonic
      (world.processes process).phase = some next) : Synced next := by
  have awake : (world.processes process).phase ≠ .idle := by
    intro phaseEq
    rw [phaseEq] at stepEq
    cases stepEq
  have inStep := synced.inStep process
  cases phaseEq : (world.processes process).phase with
  | idle => exact absurd phaseEq awake
  | ready =>
      rw [phaseEq] at stepEq
      cases stepEq
  | checking =>
      rw [phaseEq] at stepEq
      simp only [advance] at stepEq
      split at stepEq <;> cases stepEq <;>
        exact synced.moveOn awake (by simp [underLock]) rfl rfl
  | comparing =>
      rw [phaseEq] at stepEq
      obtain ⟨version, fileEq, rfl⟩ := Option.map_eq_some_iff.mp stepEq
      dsimp only
      split
      case isTrue => exact synced.moveOn awake (by simp [underLock]) rfl rfl
      case isFalse known =>
        simp only [Bool.or_eq_true, decide_eq_true_eq, not_or, ne_eq,
          not_not] at known
        obtain ⟨current, currentEq, -, same⟩ := inStep.cached _ known.2
        cases fileEq.symm.trans currentEq
        exact synced.moveTo awake (by simp [underLock]) (by simp [pendingContent])
          fun _ => ⟨version.content, inStep.seen awake version fileEq, same rfl⟩
  | reading site =>
      rw [phaseEq] at stepEq
      have held : site.isSome = true → world.holder = some process := fun inside =>
        synced.locked process (by rw [phaseEq]; exact inside)
      obtain ⟨version, fileEq, rfl⟩ := Option.map_eq_some_iff.mp stepEq
      split
      · apply synced.moveTo awake (by exact held)
        · intro content isPending
          exact ⟨version, fileEq, Option.some.inj isPending⟩
        · intro isSettled
          cases isSettled
      · exact synced.raised held
  | stamping site content =>
      rw [phaseEq] at stepEq
      obtain ⟨version, fileEq, rfl⟩ := Option.map_eq_some_iff.mp stepEq
      obtain ⟨current, currentEq, rfl⟩ := inStep.pending content (by rw [phaseEq]; rfl)
      cases fileEq.symm.trans currentEq
      apply synced.set
      · intro isLocked
        apply synced.locked process
        rw [phaseEq]
        cases site with
        | none => cases isLocked
        | some site => rfl
      · apply inStep.remember fileEq awake
        cases site with
        | none => rfl
        | some site => cases site <;> rfl
  | locking site =>
      rw [phaseEq] at stepEq
      simp only [advance] at stepEq
      split at stepEq
      · cases stepEq
      · rename_i free
        cases stepEq
        cases site with
        | creating => exact synced.acquire free awake rfl rfl
        | rotating => exact synced.acquire free awake rfl rfl
  | rechecking =>
      have held := synced.locked process (by rw [phaseEq]; rfl)
      rw [phaseEq] at stepEq
      simp only [advance] at stepEq
      split at stepEq <;> cases stepEq <;>
        exact synced.moveOn awake (fun _ => held) rfl rfl
  | deciding =>
      rw [phaseEq] at stepEq
      exact synced_decideRotation synced phaseEq stepEq
  | generating site =>
      rw [phaseEq] at stepEq
      exact synced_generating synced phaseEq stepEq
  | pruning newKey =>
      have held := synced.locked process (by rw [phaseEq]; rfl)
      rw [phaseEq] at stepEq
      obtain ⟨state, stateEq, rfl⟩ := Option.map_eq_some_iff.mp stepEq
      exact synced.moveOn awake (fun _ => held) rfl rfl
  | replacing site content =>
      rw [phaseEq] at stepEq
      cases stepEq
      exact synced.replaceFile phaseEq (careful (by rw [phaseEq]; rfl))
  | restamping site content =>
      have held := synced.locked process (by rw [phaseEq]; rfl)
      rw [phaseEq] at stepEq
      obtain ⟨version, fileEq, rfl⟩ := Option.map_eq_some_iff.mp stepEq
      obtain ⟨current, currentEq, rfl⟩ := inStep.pending content (by rw [phaseEq]; rfl)
      cases fileEq.symm.trans currentEq
      exact synced.set (fun _ => held) (inStep.remember fileEq awake rfl)
  | unlocking site =>
      rw [phaseEq] at stepEq
      exact synced_unlocking synced phaseEq stepEq
  | loaded =>
      rw [phaseEq] at stepEq
      exact synced_maybeRotate synced phaseEq stepEq

theorem synced_keyStep (world : KeyWorld Process) (event : KeyEvent Process)
    (next : KeyWorld Process) (synced : Synced world)
    (careful : Careful world event)
    (stepEq : keyStep config generator world event = some next) : Synced next := by
  cases event with
  | call process =>
      simp only [keyStep] at stepEq
      split at stepEq <;> cases stepEq
      have inStep := synced.inStep process
      apply synced.set (by intro isLocked; cases isLocked)
      refine ⟨inStep.cached, by simp [pendingContent], by simp [settled], ?_, ?_⟩
      · intro _ version versionMem
        exact List.mem_map_of_mem (Option.mem_toList.mpr versionMem)
      · intro content contentMem
        obtain ⟨version, versionMem, -⟩ := List.mem_map.mp contentMem
        exact Option.isSome_of_mem (Option.mem_toList.mp versionMem)
  | step process monotonic => exact synced_advance synced careful stepEq
  | finish process =>
      simp only [keyStep] at stepEq
      split at stepEq <;> cases stepEq
      exact synced.end
  | giveUp process =>
      simp only [keyStep] at stepEq
      split at stepEq <;> cases stepEq
      exact synced.end
  | wait seconds =>
      cases stepEq
      exact ⟨synced.locked, synced.inStep⟩

omit [DecidableEq Process] in
theorem synced_start (file : Option Keyset) (generated : Nat) (now : Int) :
    Synced (start file generated now : KeyWorld Process) := by
  refine ⟨?_, ?_⟩
  · intro process isLocked
    cases isLocked
  · intro process
    refine ⟨?_, ?_, ?_, ?_, ?_⟩
    · rintro mtime ⟨⟩
    · rintro content ⟨⟩
    · rintro ⟨⟩
    · intro awake
      exact absurd rfl awake
    · rintro content ⟨⟩

/-! ## Fresh memories and accepted tokens -/

/-- A load during which the file is not replaced gives the content of the file,
and a token that was signed under a key which the file has had since the call
began is accepted while its times allow it. -/
structure Fresh (jwt : JwtLibrary) (config : RotationConfig)
    (world : KeyWorld Process) : Prop where
  current : ∀ process, (world.processes process).phase = .loaded →
    (world.processes process).window.length ≤ 1 →
      ∃ version, world.file = some version ∧
        (world.processes process).state = some version.content
  accepted : ∀ process (signer : Keyset) (record : KeyRecord) (payload : Claims)
    (headers : TokenHeader) (token : SignedToken) (options : DecodeOptions)
    (secret : String),
    signer.getActiveKey config = .ok record → headers.alg = none →
    (signer.manager config secret).signToken jwt payload headers none none =
      .ok token →
    options.verifyAud = false → (∀ exp ∈ payload.exp, world.now < exp) →
    (∀ iat ∈ payload.iat, iat ≤ world.now) →
    (world.processes process).phase = .ready →
    (∀ content ∈ (world.processes process).window, record ∈ content.keys) →
      ∃ content, (world.processes process).state = some content ∧
        (content.manager config secret).decodeToken jwt token.compact options none
          none world.now = .ok payload

omit [DecidableEq Process] in
/-- A process that remembers a content of the file since its call began
remembers its only content. -/
theorem Synced.current (synced : Synced world)
    (phaseEq : (world.processes process).phase = .loaded)
    (unreplaced : (world.processes process).window.length ≤ 1) :
    ∃ version, world.file = some version ∧
      (world.processes process).state = some version.content := by
  have inStep := synced.inStep process
  obtain ⟨content, contentMem, stateEq⟩ :=
    inStep.remembered (by rw [phaseEq]; rfl)
  obtain ⟨version, fileEq⟩ :=
    Option.isSome_iff_exists.mp (inStep.lasting content contentMem)
  have versionMem := inStep.seen (by simp [phaseEq]) version fileEq
  refine ⟨version, fileEq, ?_⟩
  cases windowEq : (world.processes process).window with
  | nil =>
      rw [windowEq] at contentMem
      cases contentMem
  | cons first rest =>
      have noRest : rest = [] := by
        rw [windowEq] at unreplaced
        simpa using unreplaced
      rw [windowEq, noRest] at contentMem versionMem
      rw [stateEq, List.mem_singleton.mp contentMem,
        List.mem_singleton.mp versionMem]

/-- In every careful run the memories are fresh. -/
theorem fresh_of_run {jwt : JwtLibrary}
    (roundTrip : jwt.RoundTrip generator config.algorithm)
    (asymmetric : config.algorithm ∈ asymmetricSigningAlgorithms)
    {file : Option Keyset} {count : Nat} {now : Int}
    (generated : ∀ content ∈ file, content.Generated config generator count now)
    {events : List (KeyEvent Process)} {final : KeyWorld Process}
    (careful : Along (keyStep config generator) Careful (start file count now)
      events)
    (runs : exec (keyStep config generator) (start file count now) events =
      some final) :
    Fresh jwt config final := by
  have synced : Synced final :=
    invariant_along synced_keyStep (synced_start file count now) careful runs
  have invariant : KeyInvariant config generator
      (Keyset.Generated config generator) final :=
    GuardedRun.invariant
      (invariant_keyStep (Keyset.Generated.maintained config generator))
      (invariant_start generated) runs
  refine ⟨fun process => synced.current, ?_⟩
  intro process signer record payload headers token options secret active unset
    signed noAudience unexpired issued phaseEq kept
  obtain ⟨content, contentMem, stateEq⟩ :=
    (synced.inStep process).remembered (by rw [phaseEq]; rfl)
  have holds := invariant.memory process content stateEq
  have recordMem := kept content contentMem
  obtain ⟨-, number, -, recordEq⟩ := holds.records record recordMem
  obtain ⟨-, compactEq⟩ := Keyset.signToken_eq_ok asymmetric active signed
  refine ⟨content, stateEq, ?_⟩
  rw [compactEq]
  exact Keyset.decodeToken_of_mem roundTrip asymmetric holds.wellFormed.nodup
    recordMem recordEq unset noAudience unexpired issued secret

/-! ## A replacement between read and stat -/

/-- A process creates the file. -/
def create : List (KeyEvent Bool) :=
  .call false :: List.replicate 8 (.step false 0) ++ [.finish false, .wait 10]

/-- It rotates the key. -/
def rotate : List (KeyEvent Bool) :=
  .call false :: List.replicate 12 (.step false 5) ++ [.finish false]

/-- Another process loads the file: after three steps it has read it, after the
fourth it has returned. -/
def load (steps : Nat) : List (KeyEvent Bool) :=
  .call true :: List.replicate steps (.step true 0)

/-- A load after the rotation gives the new key set. -/
theorem fresh_after_rotation :
    ∃ final, exec (keyStep (everyTen 20) markedKeys) (start none 0 0)
        (create ++ rotate ++ load 4) = some final ∧
      Fresh (shownJwt markedKeys.publicOf) (everyTen 20) final := by
  obtain ⟨final, runs⟩ : ∃ final, exec (keyStep (everyTen 20) markedKeys)
      (start none 0 0) (create ++ rotate ++ load 4) = some final := ⟨_, rfl⟩
  have careful : Along (keyStep (everyTen 20) markedKeys) Careful
      (start none 0 0) (create ++ rotate ++ load 4) := by decide
  exact ⟨final, runs, fresh_of_run (shownJwt_roundTrip (by decide)) (by decide)
    (by rintro content ⟨⟩) careful runs⟩

/-- A process reads the file, the other rotates the key, and the first takes the
`st_mtime` of the new file; its next load returns the old key set. -/
theorem replaced_between_read_and_stat :
    ∃ final, exec (keyStep (everyTen 20) markedKeys) (start none 0 0)
        (create ++ load 3 ++ rotate ++ List.replicate 2 (.step true 0) ++
          [.finish true] ++ load 2) = some final ∧
      (final.processes true).phase = .loaded ∧
      (final.processes true).window.length = 1 ∧
      ∃ version content, final.file = some version ∧
        (final.processes true).state = some content ∧
        content ≠ version.content := by
  refine ⟨_, rfl, rfl, rfl, _, _, rfl, rfl, ?_⟩
  decide

end KeyFileFreshness

end HexIam
