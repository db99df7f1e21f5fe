import Mathlib.Data.List.Nodup
import Mathlib.Data.List.Infix

/-!
# Least recently used caches

A bounded cache in front of a function that may fail and may change between
calls.  A call answers from the cache where it can; only values are stored, not
failures.  The answer is that of the function exactly when a stored value is
still what the function gives.
-/

/-- A cache of at most `capacity` entries, most recently used first, with one
entry for a key. -/
structure LruCache (Key Value : Type*) (capacity : Nat) where
  entries : List (Key × Value)
  nodup : (entries.map Prod.fst).Nodup
  bounded : entries.length ≤ capacity

namespace LruCache

variable {Key Value Error : Type*} {capacity : Nat}

/-- The cache before any call. -/
def empty : LruCache Key Value capacity :=
  ⟨[], List.nodup_nil, Nat.zero_le _⟩

variable [DecidableEq Key]

/-- The value stored for a key. -/
def find (cache : LruCache Key Value capacity) (key : Key) : Option Value :=
  (cache.entries.find? fun entry => entry.1 = key).map Prod.snd

/-- Move an entry to the front or add it there, and drop what exceeds the
capacity. -/
def put (cache : LruCache Key Value capacity) (key : Key) (value : Value) :
    LruCache Key Value capacity where
  entries := ((key, value) ::
    cache.entries.filter fun entry => entry.1 ≠ key).take capacity
  nodup := by
    refine List.Nodup.sublist ((List.take_sublist _ _).map _) ?_
    rw [List.map_cons, List.nodup_cons]
    refine ⟨?_, List.Nodup.sublist (List.filter_sublist.map _) cache.nodup⟩
    simp
  bounded := List.length_take_le _ _

/-- Answer a call from the cache, or from the function. -/
def call (cache : LruCache Key Value capacity)
    (function : Key → Except Error Value) (key : Key) :
    Except Error Value × LruCache Key Value capacity :=
  match cache.find key with
  | some value => (.ok value, cache.put key value)
  | none =>
      match function key with
      | .ok value => (.ok value, cache.put key value)
      | .error error => (.error error, cache)

@[simp]
theorem find_empty (key : Key) :
    (empty : LruCache Key Value capacity).find key = none :=
  rfl

variable {cache : LruCache Key Value capacity} {key : Key} {value : Value}

theorem mem_of_find (found : cache.find key = some value) :
    (key, value) ∈ cache.entries := by
  obtain ⟨⟨stored, held⟩, foundEq, rfl⟩ := Option.map_eq_some_iff.mp found
  have same : stored = key := by simpa using List.find?_some foundEq
  exact same ▸ List.mem_of_find?_eq_some foundEq

theorem find_of_mem (held : (key, value) ∈ cache.entries) :
    cache.find key = some value := by
  have nodup := cache.nodup
  unfold find
  generalize cache.entries = entries at held nodup
  induction entries with
  | nil => cases held
  | cons entry rest ih =>
      rw [List.map_cons, List.nodup_cons] at nodup
      rcases List.mem_cons.mp held with rfl | held
      · simp
      · have differs : entry.1 ≠ key := by
          rintro rfl
          exact nodup.1 (List.mem_map.mpr ⟨_, held, rfl⟩)
        rw [List.find?_cons_of_neg (by simpa using differs)]
        exact ih held nodup.2

theorem find_put {other : Key} {held : Value}
    (found : (cache.put key value).find other = some held) :
    (other = key ∧ held = value) ∨ cache.find other = some held := by
  have present := List.mem_of_mem_take (mem_of_find found)
  rcases List.mem_cons.mp present with same | present
  · cases same
    exact .inl ⟨rfl, rfl⟩
  · exact .inr (find_of_mem (List.mem_of_mem_filter present))

/-- Everything stored satisfies a property. -/
def Holds (property : Key → Value → Prop)
    (cache : LruCache Key Value capacity) : Prop :=
  ∀ key value, cache.find key = some value → property key value

theorem holds_empty (property : Key → Value → Prop) :
    Holds property (empty : LruCache Key Value capacity) := by
  rintro key value ⟨⟩

variable {function : Key → Except Error Value} {property : Key → Value → Prop}

/-- A call stores nothing but what the function gives. -/
theorem holds_call (holds : Holds property cache)
    (given : ∀ value, function key = .ok value → property key value) :
    Holds property (cache.call function key).2 := by
  intro other held found
  unfold call at found
  split at found
  case h_1 value stored =>
    rcases find_put found with ⟨rfl, rfl⟩ | found
    · exact holds _ _ stored
    · exact holds _ _ found
  case h_2 =>
    split at found
    case h_1 value result =>
      rcases find_put found with ⟨rfl, rfl⟩ | found
      · exact given _ result
      · exact holds _ _ found
    case h_2 => exact holds _ _ found

/-- A call answers as the function does exactly when a stored value is still
the value of the function. -/
theorem call_eq_iff :
    (cache.call function key).1 = function key ↔
      ∀ value, cache.find key = some value → function key = .ok value := by
  unfold call
  cases cache.find key with
  | some value => simp [eq_comm]
  | none =>
      cases function key <;> simp

end LruCache
