import HexIam.GuardedRun
import Mathlib.Logic.Function.Basic

/-!
# The key file lock

`_file_lock`: a lock file that is created exclusively, broken by anyone when it
is older than thirty seconds, and unlinked by path on release.  An unlink may
therefore remove the lock of another process.  Runs in which it does not keep
the lock mutually exclusive.
-/

namespace HexIam

open GuardedRun

namespace FileLock

/-! ## Processes and the lock file -/

/-- Where a process is in `_file_lock`.  A process that waits keeps its deadline,
a holder keeps the file it has created. -/
inductive LockPhase : Type
  | outside
  | opening (deadline : Int)
  | refused (deadline : Int)
  | present (deadline : Int)
  | aging (deadline time : Int)
  | breaking (deadline : Int)
  | waiting (deadline : Int)
  | writing (file : Nat)
  | inside (file : Nat) (since : Int)
  | releasing (file : Nat)
  | crashed
  deriving DecidableEq, Repr

/-- The file at the lock path: which file it is, and its `st_mtime`. -/
structure LockFile where
  id : Nat
  mtime : Int
  deriving DecidableEq, Repr

/-- The lock path, the clock and the processes.  Files are numbered as they are
created. -/
structure LockState (Process : Type) where
  file : Option LockFile
  created : Nat
  now : Int
  phase : Process → LockPhase

/-- What can happen: a call of `_file_lock`, the next step of a process, the end
of its critical section or an exception in it, a crash, and time passing. -/
inductive LockEvent (Process : Type) : Type
  | call (process : Process)
  | step (process : Process)
  | leave (process : Process)
  | crash (process : Process)
  | wait (seconds : Nat)

variable {Process : Type} [DecidableEq Process]

namespace LockState

/-- A process moves to another place. -/
def moveTo (state : LockState Process) (process : Process)
    (phase : LockPhase) : LockState Process :=
  { state with phase := Function.update state.phase process phase }

end LockState

/-- The next step of a process in `_file_lock`.  The `stat` of a file that has
gone leaves the function with an exception, as the timeout does. -/
def advance (state : LockState Process) (process : Process) :
    LockPhase → Option (LockState Process)
  | .opening deadline =>
      match state.file with
      | none => some { state.moveTo process (.writing state.created) with
          file := some ⟨state.created, state.now⟩
          created := state.created + 1 }
      | some _ => some (state.moveTo process (.refused deadline))
  | .refused deadline =>
      match state.file with
      | none => some (state.moveTo process (.waiting deadline))
      | some _ => some (state.moveTo process (.present deadline))
  | .present deadline =>
      some (state.moveTo process (.aging deadline state.now))
  | .aging deadline time =>
      match state.file with
      | none => some (state.moveTo process .outside)
      | some file =>
          if time - file.mtime > 30 then
            some (state.moveTo process (.breaking deadline))
          else some (state.moveTo process (.waiting deadline))
  | .breaking deadline =>
      some { state.moveTo process (.opening deadline) with file := none }
  | .waiting deadline =>
      if deadline ≤ state.now then some (state.moveTo process .outside)
      else some (state.moveTo process (.opening deadline))
  | .writing file =>
      some { state.moveTo process (.inside file state.now) with
        file := state.file.map fun held =>
          if held.id = file then { held with mtime := state.now } else held }
  | .releasing _ =>
      some { state.moveTo process .outside with file := none }
  | .outside | .inside _ _ | .crashed => none

/-- The state after an event. -/
def lockStep (state : LockState Process) :
    LockEvent Process → Option (LockState Process)
  | .call process =>
      if state.phase process = .outside then
        some (state.moveTo process (.opening (state.now + 10)))
      else none
  | .step process => advance state process (state.phase process)
  | .leave process =>
      match state.phase process with
      | .writing file => some (state.moveTo process (.releasing file))
      | .inside file _ => some (state.moveTo process (.releasing file))
      | _ => none
  | .crash process => some (state.moveTo process .crashed)
  | .wait seconds => some { state with now := state.now + seconds }

/-- No process is in `_file_lock`; a lock file may have been left over. -/
def start (now : Int) (left : Option Int) : LockState Process where
  file := left.map fun mtime => ⟨0, mtime⟩
  created := 1
  now := now
  phase _ := .outside

/-! ## Mutual exclusion -/

/-- A live process that has been inside for at most thirty seconds. -/
def Inside (state : LockState Process) (process : Process) : Prop :=
  ∃ file since, state.phase process = .inside file since ∧
    state.now - since ≤ 30

/-- At most one of them is inside. -/
def MutuallyExclusive (state : LockState Process) : Prop :=
  ∀ first second, Inside state first → Inside state second → first = second

/-- The process has created the file and is entering, or has been inside for at
most thirty seconds. -/
def Owns (state : LockState Process) (process : Process) (file : Nat) : Prop :=
  state.phase process = .writing file ∨
    ∃ since, state.phase process = .inside file since ∧ state.now - since ≤ 30

/-- An unlink does not remove the lock file of such a process. -/
def Careful (state : LockState Process) : LockEvent Process → Prop
  | .step process =>
      match state.phase process with
      | .breaking _ | .releasing _ =>
          ∀ file ∈ state.file, ∀ owner, ¬ Owns state owner file.id
      | _ => True
  | _ => True

/-! ## The invariant -/

/-- The file a process has created and not given up. -/
def LockPhase.file : LockPhase → Option Nat
  | .writing file => some file
  | .inside file _ => some file
  | .releasing file => some file
  | _ => none

/-- Files are numbered, every process has its own, and that of an owner is at
the lock path. -/
structure LockInvariant (state : LockState Process) : Prop where
  atPath : ∀ process file, Owns state process file →
    ∃ held ∈ state.file, held.id = file
  numbered : ∀ process file, (state.phase process).file = some file →
    file < state.created
  pathNumbered : ∀ held ∈ state.file, held.id < state.created
  distinct : ∀ first second file, (state.phase first).file = some file →
    (state.phase second).file = some file → first = second

variable {state : LockState Process} {process : Process}

omit [DecidableEq Process] in
theorem file_of_owns {file : Nat} (owns : Owns state process file) :
    (state.phase process).file = some file := by
  rcases owns with phaseEq | ⟨since, phaseEq, -⟩ <;> rw [phaseEq] <;> rfl

@[simp]
theorem moveTo_phase_self (phase : LockPhase) :
    (state.moveTo process phase).phase process = phase :=
  Function.update_self ..

theorem moveTo_phase_other {other : Process} (differs : other ≠ process)
    (phase : LockPhase) :
    (state.moveTo process phase).phase other = state.phase other :=
  Function.update_of_ne differs ..

theorem owns_moveTo_other {other : Process} (differs : other ≠ process)
    (phase : LockPhase) (file : Nat) :
    Owns (state.moveTo process phase) other file ↔ Owns state other file := by
  unfold Owns
  rw [moveTo_phase_other differs]
  rfl

/-- A process that moves on without a new file, and owns none it did not own,
keeps the invariant. -/
theorem LockInvariant.moveTo (invariant : LockInvariant state)
    {phase : LockPhase}
    (sameFile : ∀ file, phase.file = some file →
      (state.phase process).file = some file)
    (sameOwner : ∀ file, Owns (state.moveTo process phase) process file →
      Owns state process file) :
    LockInvariant (state.moveTo process phase) := by
  have holder (other : Process) (file : Nat)
      (held : ((state.moveTo process phase).phase other).file = some file) :
      (state.phase other).file = some file := by
    by_cases isProcess : other = process
    · subst isProcess
      rw [moveTo_phase_self] at held
      exact sameFile file held
    · rwa [moveTo_phase_other isProcess] at held
  refine ⟨?_, ?_, invariant.pathNumbered, ?_⟩
  · intro other file owns
    by_cases isProcess : other = process
    · subst isProcess
      exact invariant.atPath other file (sameOwner file owns)
    · exact invariant.atPath other file
        ((owns_moveTo_other isProcess phase file).mp owns)
  · intro other file held
    exact invariant.numbered other file (holder other file held)
  · intro first second file firstHeld secondHeld
    exact invariant.distinct first second file (holder first file firstHeld)
      (holder second file secondHeld)

theorem not_owns_of_file {phase : LockPhase} (noFile : phase.file = none)
    (file : Nat) : ¬ Owns (state.moveTo process phase) process file := by
  intro owns
  have held := file_of_owns owns
  rw [moveTo_phase_self, noFile] at held
  cases held

/-- A process that moves to a place without a file keeps the invariant. -/
theorem LockInvariant.moveAway (invariant : LockInvariant state)
    {phase : LockPhase} (noFile : phase.file = none) :
    LockInvariant (state.moveTo process phase) := by
  refine invariant.moveTo ?_ ?_
  · intro file held
    rw [noFile] at held
    cases held
  · intro file owns
    exact absurd owns (not_owns_of_file noFile file)

theorem LockInvariant.release (invariant : LockInvariant state) {file : Nat}
    (held : (state.phase process).file = some file) :
    LockInvariant (state.moveTo process (.releasing file)) := by
  refine invariant.moveTo ?_ ?_
  · rintro _ ⟨⟩
    exact held
  · rintro _ (phaseEq | ⟨since, phaseEq, -⟩) <;>
      rw [moveTo_phase_self] at phaseEq <;> cases phaseEq

omit [DecidableEq Process] in
theorem LockInvariant.unlink (invariant : LockInvariant state)
    (careful : ∀ file ∈ state.file, ∀ owner, ¬ Owns state owner file.id) :
    LockInvariant { state with file := none } := by
  refine ⟨?_, invariant.numbered, ?_, invariant.distinct⟩
  · intro owner file owns
    obtain ⟨held, heldMem, rfl⟩ := invariant.atPath owner file owns
    exact absurd owns (careful held heldMem owner)
  · rintro held ⟨⟩

/-- A new file at a free path belongs to its creator alone. -/
theorem LockInvariant.create (invariant : LockInvariant state)
    (free : state.file = none) :
    LockInvariant { state.moveTo process (.writing state.created) with
      file := some ⟨state.created, state.now⟩
      created := state.created + 1 } := by
  have noOwner (owner : Process) (file : Nat) : ¬ Owns state owner file := by
    intro owns
    obtain ⟨held, heldMem, -⟩ := invariant.atPath owner file owns
    rw [free] at heldMem
    cases heldMem
  have holder (other : Process) (file : Nat)
      (held : ((state.moveTo process (.writing state.created)).phase other).file =
        some file) :
      (other = process ∧ file = state.created) ∨
        (state.phase other).file = some file := by
    by_cases isProcess : other = process
    · subst isProcess
      rw [moveTo_phase_self] at held
      exact .inl ⟨rfl, (Option.some.inj held).symm⟩
    · rw [moveTo_phase_other isProcess] at held
      exact .inr held
  refine ⟨?_, ?_, ?_, ?_⟩
  · intro owner file owns
    have held := holder owner file (file_of_owns owns)
    by_cases isProcess : owner = process
    · subst isProcess
      rcases held with ⟨-, rfl⟩ | held
      · exact ⟨_, rfl, rfl⟩
      · have phaseEq := file_of_owns owns
        simp only [moveTo_phase_self, LockPhase.file] at phaseEq
        exact ⟨_, rfl, Option.some.inj phaseEq⟩
    · exact absurd ((owns_moveTo_other isProcess _ file).mp owns)
        (noOwner owner file)
  · intro other file held
    rcases holder other file held with ⟨-, rfl⟩ | held
    · exact Nat.lt_succ_self _
    · exact Nat.lt_succ_of_lt (invariant.numbered other file held)
  · rintro held ⟨⟩
    exact Nat.lt_succ_self _
  · intro first second file firstHeld secondHeld
    rcases holder first file firstHeld with ⟨isFirst, isNew⟩ | firstBefore
    · rcases holder second file secondHeld with ⟨isSecond, -⟩ | secondBefore
      · exact isFirst.trans isSecond.symm
      · have older := invariant.numbered second file secondBefore
        exact absurd older (isNew ▸ Nat.lt_irrefl _)
    · rcases holder second file secondHeld with ⟨-, isNew⟩ | secondBefore
      · have older := invariant.numbered first file firstBefore
        exact absurd older (isNew ▸ Nat.lt_irrefl _)
      · exact invariant.distinct first second file firstBefore secondBefore

theorem LockInvariant.write (invariant : LockInvariant state) {file : Nat}
    (phaseEq : state.phase process = .writing file) :
    LockInvariant { state.moveTo process (.inside file state.now) with
      file := state.file.map fun held =>
        if held.id = file then { held with mtime := state.now } else held } := by
  have moved : LockInvariant (state.moveTo process (.inside file state.now)) := by
    refine invariant.moveTo ?_ ?_
    · rintro _ ⟨⟩
      rw [phaseEq]
      rfl
    · intro other owns
      have held := file_of_owns owns
      rw [moveTo_phase_self] at held
      cases held
      exact .inl phaseEq
  have touched (held : LockFile) :
      (if held.id = file then { held with mtime := state.now }
        else held).id = held.id := by
    split <;> rfl
  refine ⟨?_, moved.numbered, ?_, moved.distinct⟩
  · intro owner other owns
    obtain ⟨held, heldMem, idEq⟩ := moved.atPath owner other owns
    exact ⟨_, Option.mem_map_of_mem _ heldMem, (touched held).trans idEq⟩
  · intro held heldMem
    obtain ⟨before, beforeMem, rfl⟩ := Option.mem_map.mp heldMem
    rw [touched]
    exact moved.pathNumbered before beforeMem

omit [DecidableEq Process] in
/-- Time passing only lets owners expire. -/
theorem LockInvariant.wait (invariant : LockInvariant state) (seconds : Nat) :
    LockInvariant { state with now := state.now + seconds } := by
  refine ⟨?_, invariant.numbered, invariant.pathNumbered, invariant.distinct⟩
  intro owner file owns
  refine invariant.atPath owner file ?_
  rcases owns with phaseEq | ⟨since, phaseEq, recent⟩
  · exact .inl phaseEq
  · refine .inr ⟨since, phaseEq, ?_⟩
    simp only at recent
    omega

/-! ## Runs -/

theorem invariant_advance {next : LockState Process}
    (invariant : LockInvariant state)
    (careful : Careful state (.step process))
    (stepEq : advance state process (state.phase process) = some next) :
    LockInvariant next := by
  simp only [Careful] at careful
  cases phaseEq : state.phase process with
  | opening deadline =>
      rw [phaseEq] at stepEq
      cases fileEq : state.file with
      | none =>
          simp only [advance, fileEq, Option.some.injEq] at stepEq
          exact stepEq ▸ invariant.create fileEq
      | some held =>
          simp only [advance, fileEq, Option.some.injEq] at stepEq
          exact stepEq ▸ invariant.moveAway rfl
  | refused deadline =>
      rw [phaseEq] at stepEq
      cases fileEq : state.file <;>
        simp only [advance, fileEq, Option.some.injEq] at stepEq <;>
        exact stepEq ▸ invariant.moveAway rfl
  | present deadline =>
      rw [phaseEq] at stepEq
      cases stepEq
      exact invariant.moveAway rfl
  | aging deadline time =>
      rw [phaseEq] at stepEq
      simp only [advance] at stepEq
      split at stepEq
      · cases stepEq
        exact invariant.moveAway rfl
      · split at stepEq <;> cases stepEq <;> exact invariant.moveAway rfl
  | breaking deadline =>
      rw [phaseEq] at stepEq careful
      cases stepEq
      exact (invariant.unlink careful).moveAway rfl
  | waiting deadline =>
      rw [phaseEq] at stepEq
      simp only [advance] at stepEq
      split at stepEq <;> cases stepEq <;> exact invariant.moveAway rfl
  | writing file =>
      rw [phaseEq] at stepEq
      cases stepEq
      exact invariant.write phaseEq
  | releasing file =>
      rw [phaseEq] at stepEq careful
      cases stepEq
      exact (invariant.unlink careful).moveAway rfl
  | _ =>
      rw [phaseEq] at stepEq
      cases stepEq

theorem invariant_step (state : LockState Process) (event : LockEvent Process)
    (next : LockState Process) (invariant : LockInvariant state)
    (careful : Careful state event) (stepEq : lockStep state event = some next) :
    LockInvariant next := by
  cases event with
  | call process =>
      simp only [lockStep] at stepEq
      split at stepEq <;> cases stepEq
      exact invariant.moveAway rfl
  | step process => exact invariant_advance invariant careful stepEq
  | leave process =>
      simp only [lockStep] at stepEq
      split at stepEq
      case h_1 file phaseEq =>
        cases stepEq
        exact invariant.release (by rw [phaseEq]; rfl)
      case h_2 file since phaseEq =>
        cases stepEq
        exact invariant.release (by rw [phaseEq]; rfl)
      case h_3 => cases stepEq
  | crash process =>
      cases stepEq
      exact invariant.moveAway rfl
  | wait seconds =>
      cases stepEq
      exact invariant.wait seconds

omit [DecidableEq Process] in
theorem invariant_start (now : Int) (left : Option Int) :
    LockInvariant (start now left : LockState Process) := by
  refine ⟨?_, ?_, ?_, ?_⟩
  · intro process file owns
    cases file_of_owns owns
  · rintro process file ⟨⟩
  · intro held heldMem
    obtain ⟨mtime, -, rfl⟩ := Option.mem_map.mp heldMem
    exact Nat.zero_lt_one
  · rintro first second file ⟨⟩

omit [DecidableEq Process] in
theorem LockInvariant.mutuallyExclusive (invariant : LockInvariant state) :
    MutuallyExclusive state := by
  rintro first second ⟨firstFile, firstSince, firstPhase, firstRecent⟩
    ⟨secondFile, secondSince, secondPhase, secondRecent⟩
  obtain ⟨held, heldMem, rfl⟩ := invariant.atPath first firstFile
    (.inr ⟨firstSince, firstPhase, firstRecent⟩)
  obtain ⟨other, otherMem, rfl⟩ := invariant.atPath second secondFile
    (.inr ⟨secondSince, secondPhase, secondRecent⟩)
  cases Option.mem_unique heldMem otherMem
  exact invariant.distinct first second held.id (by rw [firstPhase]; rfl)
    (by rw [secondPhase]; rfl)

/-- The lock is mutually exclusive in every state of a careful run. -/
theorem mutuallyExclusive_of_careful {now : Int} {left : Option Int}
    {events : List (LockEvent Process)} {final : LockState Process}
    (careful : Along lockStep Careful (start now left) events)
    (runs : exec lockStep (start now left) events = some final) :
    MutuallyExclusive final :=
  (invariant_along invariant_step (invariant_start now left) careful
    runs).mutuallyExclusive

/-! ## Two breakers -/

/-- A process opens the lock of a crashed one, finds it old and is about to
break it. -/
def findsOld (process : Bool) : List (LockEvent Bool) :=
  [.call process, .step process, .step process, .step process, .step process]

/-- It breaks the lock, creates its own and enters. -/
def breaksAndEnters (process : Bool) : List (LockEvent Bool) :=
  [.step process, .step process, .step process]

theorem one_breaker_excludes :
    ∃ final, exec lockStep (start 31 (some 0))
        (findsOld true ++ breaksAndEnters true) = some final ∧
      MutuallyExclusive final := by
  obtain ⟨final, runs⟩ : ∃ final, exec lockStep (start 31 (some 0))
      (findsOld true ++ breaksAndEnters true) = some final := ⟨_, rfl⟩
  refine ⟨final, runs, mutuallyExclusive_of_careful ?_ runs⟩
  refine along_of_step rfl trivial (along_of_step rfl trivial
    (along_of_step rfl trivial (along_of_step rfl trivial
      (along_of_step rfl trivial (along_of_step rfl ?_
        (along_of_step rfl trivial (along_of_step rfl trivial trivial)))))))
  rintro held - owner owns
  have noFile := file_of_owns owns
  cases owner <;> cases noFile

/-- Two processes find the same old lock; the second one breaks the lock that
the first has created meanwhile. -/
theorem two_breakers_inside :
    ∃ final, exec lockStep (start 31 (some 0))
        (findsOld true ++ findsOld false ++ breaksAndEnters true ++
          breaksAndEnters false) = some final ∧
      ¬ MutuallyExclusive final := by
  refine ⟨_, rfl, ?_⟩
  intro exclusive
  have same := exclusive true false ⟨1, 31, rfl, by decide⟩ ⟨2, 31, rfl, by decide⟩
  cases same

end FileLock

end HexIam
