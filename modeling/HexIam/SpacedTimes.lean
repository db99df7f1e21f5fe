import Mathlib.Algebra.Order.Ring.Int
import Mathlib.Data.List.Pairwise
import Mathlib.Tactic.Linarith

/-!
# Spaced times

Increasing lists of times with a least distance between any two of them.  A
window of a given length holds a bounded number of them.
-/

/-- The times increase, and any two are at least `gap` apart. -/
def Spaced (gap : Int) (times : List Int) : Prop :=
  times.Pairwise fun earlier later => earlier ≤ later ∧ earlier + gap ≤ later

namespace Spaced

variable {gap lower upper : Int} {times : List Int}

theorem singleton (gap time : Int) : Spaced gap [time] :=
  List.pairwise_singleton _ _

theorem sublist {fewer : List Int} (sub : fewer.Sublist times)
    (spaced : Spaced gap times) : Spaced gap fewer :=
  List.Pairwise.sublist sub spaced

/-- A later time may be added when it is far enough from the last one. -/
theorem concat {last next : Int} (spaced : Spaced gap (times ++ [last]))
    (after : last ≤ next) (far : last + gap ≤ next) :
    Spaced gap (times ++ [last] ++ [next]) := by
  refine List.pairwise_append.mpr ⟨spaced, List.pairwise_singleton _ _, ?_⟩
  intro time timeMem other otherMem
  obtain rfl := List.mem_singleton.mp otherMem
  have upToLast : time ≤ last := by
    rcases List.mem_append.mp timeMem with before | same
    · exact ((List.pairwise_append.mp spaced).2.2 time before last (by simp)).1
    · exact (List.mem_singleton.mp same).le
  constructor <;> linarith

/-- The times in a window fill it with their distances. -/
theorem length_mul_le (spaced : Spaced gap times)
    (fromLower : ∀ time ∈ times, lower ≤ time)
    (toUpper : ∀ time ∈ times, time ≤ upper) (room : lower ≤ upper + gap) :
    times.length * gap ≤ upper - lower + gap := by
  induction times generalizing lower with
  | nil => simp; linarith
  | cons first rest ih =>
      obtain ⟨fromFirst, restSpaced⟩ := List.pairwise_cons.mp spaced
      have lowerFirst := fromLower first List.mem_cons_self
      have firstUpper := toUpper first List.mem_cons_self
      have filled : (rest.length : Int) * gap ≤ upper - (first + gap) + gap :=
        ih restSpaced (fun time timeMem => (fromFirst time timeMem).2)
          (fun time timeMem => toUpper time (List.mem_cons_of_mem _ timeMem))
          (by linarith)
      push_cast [List.length_cons]
      linarith

/-- A window holds at most one more time than gaps fit in it. -/
theorem length_le (positive : 0 < gap) (spaced : Spaced gap times)
    (fromLower : ∀ time ∈ times, lower ≤ time)
    (toUpper : ∀ time ∈ times, time ≤ upper) (room : lower ≤ upper) :
    (times.length : Int) ≤ (upper - lower) / gap + 1 := by
  have filled := length_mul_le spaced fromLower toUpper (by linarith)
  have fewer : (times.length - 1 : Int) ≤ (upper - lower) / gap := by
    apply Int.le_ediv_of_mul_le positive
    linarith
  linarith

end Spaced
