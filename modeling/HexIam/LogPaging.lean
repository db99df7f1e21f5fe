import Mathlib.Order.BoundedOrder.Basic
import Mathlib.Order.Lattice
import Mathlib.Order.Defs.LinearOrder

/-!
# Reading a growing log page by page

A log is a list of entries with increasing keys, and a page is a bounded number
of entries whose keys lie at or beyond a start.  A reader that moves its start
behind the last entry of each page reads the log in order and without
repetition, also while the log grows at its end.
-/

namespace LogPaging

variable {Entry Key : Type*} [LinearOrder Key]

/-- Where a page begins: with a key, or behind it. -/
inductive Start (Key : Type*)
  | atLeast (key : Key)
  | beyond (key : Key)

namespace Start

/-- The keys that a page may have. -/
def admits : Start Key → Key → Bool
  | atLeast bound, key => bound ≤ key
  | beyond bound, key => bound < key

/-- The start behind the same key. -/
def exclusive : Start Key → Start Key
  | atLeast bound => beyond bound
  | beyond bound => beyond bound

end Start

variable (key : Entry → Key)

/-- Each key is larger than those before it. -/
def Increasing (log : List Entry) : Prop :=
  log.Pairwise fun first second => key first < key second

/-- At most `size` entries from the start. -/
def page (size : Nat) (start : Start Key) (log : List Entry) : List Entry :=
  (log.filter fun entry => start.admits (key entry)).take size

/-- The start admits what lies beyond every entry that was read. -/
def Behind (start : Start Key) (read : List Entry) : Prop :=
  ∀ bound, start.admits bound = true ↔ ∀ entry ∈ read, key entry < bound

variable {key} {start : Start Key} {read rest : List Entry} {size : Nat}

theorem behind_nil [OrderBot Key] : Behind key (.atLeast ⊥) [] := by
  intro bound
  simp [Start.admits]

theorem behind_concat {last : Entry} (increasing : Increasing key (read ++ [last])) :
    Behind key (.beyond (key last)) (read ++ [last]) := by
  intro bound
  simp only [Start.admits, decide_eq_true_eq, List.mem_append, List.mem_singleton]
  constructor
  · rintro below entry (earlier | rfl)
    · have smaller := (List.pairwise_append.mp increasing).2.2 entry earlier last
        (List.mem_singleton.mpr rfl)
      exact smaller.trans below
    · exact below
  · exact fun all => all last (.inr rfl)

/-- The next page of a reader is the first part of what it has not read. -/
theorem page_eq (increasing : Increasing key (read ++ rest))
    (behind : Behind key start read) :
    page key size start (read ++ rest) = rest.take size := by
  have readBefore : (read.filter fun entry => start.admits (key entry)) = [] := by
    refine List.filter_eq_nil_iff.mpr fun entry entryMem admitted => ?_
    exact lt_irrefl _ ((behind _).mp admitted entry entryMem)
  have restAhead : (rest.filter fun entry => start.admits (key entry)) = rest := by
    refine List.filter_eq_self.mpr fun entry entryMem => (behind _).mpr ?_
    intro earlier earlierMem
    exact (List.pairwise_append.mp increasing).2.2 earlier earlierMem entry entryMem
  rw [page, List.filter_append, readBefore, restAhead, List.nil_append]

/-- Reading by keys is reading by positions. -/
theorem page_eq_drop (increasing : Increasing key (read ++ rest))
    (behind : Behind key start read) :
    page key size start (read ++ rest) =
      ((read ++ rest).drop read.length).take size := by
  rw [page_eq increasing behind, List.drop_left]

end LogPaging
