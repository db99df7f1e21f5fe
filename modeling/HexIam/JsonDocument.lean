import Mathlib.Data.List.Nodup
import Mathlib.Data.List.Infix

/-!
# JSON documents and their deep merge

An object is the list of its entries, as a Python dict iterates over them.  A
deep merge sets the entries of one object in another and merges where both hold
objects.  It is described by the leaves of the result: a leaf of the overrides
is there, and a leaf of the defaults is there as before when the overrides do
not touch its path.
-/

namespace JsonDocument

/-! ## Documents -/

mutual

/-- A JSON value that is no object. -/
inductive Leaf : Type
  | null
  | bool (value : Bool)
  | int (value : Int)
  | decimal (coefficient exponent : Int)
  | string (value : String)
  | array (items : List Json)

inductive Json : Type
  | leaf (leaf : Leaf)
  | object (entries : List (String × Json))

end

/-- Python's truth value. -/
def Leaf.truthy : Leaf → Bool
  | .null => false
  | .bool value => value
  | .int value => value != 0
  | .decimal coefficient _ => coefficient != 0
  | .string value => value != ""
  | .array items => !items.isEmpty

def Json.truthy : Json → Bool
  | .leaf value => value.truthy
  | .object entries => !entries.isEmpty

/-! ## Entries -/

section Entries

variable {α : Type*}

theorem lookup_cons_of_ne {key other : String} (different : key ≠ other)
    (value : α) (rest : List (String × α)) :
    ((other, value) :: rest).lookup key = rest.lookup key := by
  rw [List.lookup_cons, beq_false_of_ne different]

/-- `entries[key] = value` on a Python dict. -/
def setItem (key : String) (value : α) : List (String × α) → List (String × α)
  | [] => [(key, value)]
  | (other, old) :: rest =>
      if other = key then (key, value) :: rest
      else (other, old) :: setItem key value rest

@[simp]
theorem lookup_setItem_self (key : String) (value : α)
    (entries : List (String × α)) :
    (setItem key value entries).lookup key = some value := by
  induction entries with
  | nil => simp [setItem]
  | cons entry rest ih =>
      obtain ⟨other, old⟩ := entry
      unfold setItem
      split
      case isTrue => simp
      case isFalse different =>
        rw [lookup_cons_of_ne (Ne.symm different)]
        exact ih

theorem lookup_setItem_of_ne {key other : String} (different : other ≠ key)
    (value : α) (entries : List (String × α)) :
    (setItem key value entries).lookup other = entries.lookup other := by
  induction entries with
  | nil => exact lookup_cons_of_ne different value []
  | cons entry rest ih =>
      obtain ⟨first, old⟩ := entry
      unfold setItem
      split
      case isTrue same =>
        rw [lookup_cons_of_ne different, lookup_cons_of_ne (same ▸ different)]
      case isFalse => rw [List.lookup_cons, List.lookup_cons, ih]

theorem lookup_eq_none_of_notMem {key : String} {entries : List (String × α)}
    (notMem : key ∉ entries.map Prod.fst) : entries.lookup key = none := by
  induction entries with
  | nil => rfl
  | cons entry rest ih =>
      obtain ⟨other, value⟩ := entry
      rw [List.map_cons, List.mem_cons, not_or] at notMem
      rw [lookup_cons_of_ne notMem.1]
      exact ih notMem.2

theorem mem_of_lookup {key : String} {value : α} {entries : List (String × α)}
    (found : entries.lookup key = some value) : (key, value) ∈ entries := by
  induction entries with
  | nil => cases found
  | cons entry rest ih =>
      obtain ⟨other, old⟩ := entry
      rw [List.lookup_cons] at found
      split at found
      case h_1 same =>
        cases found
        rw [beq_iff_eq.mp same]
        exact List.mem_cons_self
      case h_2 => exact List.mem_cons_of_mem _ (ih found)

end Entries

/-- A document with each key of an object once. -/
inductive Json.WellFormed : Json → Prop
  | leaf (leaf : Leaf) : WellFormed (.leaf leaf)
  | object (entries : List (String × Json))
      (nodup : (entries.map Prod.fst).Nodup)
      (each : ∀ entry ∈ entries, WellFormed entry.2) :
      WellFormed (.object entries)

theorem Json.WellFormed.nodup {entries : List (String × Json)}
    (wellFormed : Json.WellFormed (.object entries)) :
    (entries.map Prod.fst).Nodup := by
  cases wellFormed with
  | object _ nodup _ => exact nodup

theorem Json.WellFormed.lookup {entries : List (String × Json)} {key : String}
    {value : Json} (wellFormed : Json.WellFormed (.object entries))
    (found : entries.lookup key = some value) : value.WellFormed := by
  cases wellFormed with
  | object _ _ each => exact each _ (mem_of_lookup found)

/-! ## Merging -/

mutual

/-- Set the entries of an object one after the other, merging objects. -/
def merge (result : List (String × Json)) :
    List (String × Json) → List (String × Json)
  | [] => result
  | (key, value) :: rest =>
      merge (setItem key (mergeItem (result.lookup key) value) result) rest

/-- What is set for a value where the first one, if any, was. -/
def mergeItem : Option Json → Json → Json
  | some (.object defaults), .object overrides => .object (merge defaults overrides)
  | some (.object _), .leaf leaf => .leaf leaf
  | some (.leaf _), value => value
  | none, value => value

end

theorem mergeItem_none (value : Json) : mergeItem none value = value := by
  unfold mergeItem
  rfl

theorem mergeItem_some_leaf (leaf : Leaf) (value : Json) :
    mergeItem (some (.leaf leaf)) value = value := by
  unfold mergeItem
  rfl

theorem mergeItem_leaf (base : Option Json) (leaf : Leaf) :
    mergeItem base (.leaf leaf) = .leaf leaf := by
  match base with
  | none => unfold mergeItem; rfl
  | some (.leaf _) => unfold mergeItem; rfl
  | some (.object _) => unfold mergeItem; rfl

/-- Each key is merged by itself. -/
theorem lookup_merge {overrides : List (String × Json)}
    (nodup : (overrides.map Prod.fst).Nodup) (result : List (String × Json))
    (key : String) :
    (merge result overrides).lookup key =
      match overrides.lookup key with
      | none => result.lookup key
      | some value => some (mergeItem (result.lookup key) value) := by
  induction overrides generalizing result with
  | nil => rfl
  | cons entry rest ih =>
      obtain ⟨first, value⟩ := entry
      obtain ⟨notMem, restNodup⟩ := List.nodup_cons.mp nodup
      rw [merge, ih restNodup, List.lookup_cons]
      by_cases same : key = first
      · rw [same, lookup_eq_none_of_notMem notMem, beq_self_eq_true,
          lookup_setItem_self]
      · rw [lookup_setItem_of_ne same, beq_false_of_ne same]

/-- A key without an override leads where it led. -/
theorem lookup_merge_of_absent {overrides : List (String × Json)} {key : String}
    (absent : overrides.lookup key = none) (result : List (String × Json)) :
    (merge result overrides).lookup key = result.lookup key := by
  induction overrides generalizing result with
  | nil => rfl
  | cons entry rest ih =>
      obtain ⟨first, value⟩ := entry
      have different : key ≠ first := by
        rintro rfl
        rw [List.lookup_cons_self] at absent
        cases absent
      rw [lookup_cons_of_ne different] at absent
      rw [merge, ih absent, lookup_setItem_of_ne different]

/-! ## Paths -/

/-- What the keys of a path lead to. -/
def Json.at : Json → List String → Option Json
  | document, [] => some document
  | .leaf _, _ :: _ => none
  | .object entries, key :: rest =>
      (entries.lookup key).bind fun value => value.at rest

@[simp]
theorem at_nil (document : Json) : document.at [] = some document := by
  cases document <;> rfl

theorem at_object_cons (entries : List (String × Json)) (key : String)
    (rest : List String) :
    (Json.object entries).at (key :: rest) =
      (entries.lookup key).bind fun value => value.at rest :=
  rfl

/-- One of two paths begins the other. -/
def Comparable (first second : List String) : Prop :=
  first <+: second ∨ second <+: first

/-- Merging the document in may change what the path leads to: the path begins
or continues the path of a leaf, or begins one to an object without entries. -/
def Json.Touches (document : Json) (path : List String) : Prop :=
  ∃ ending, (∃ leaf, document.at ending = some (.leaf leaf)) ∧
      Comparable ending path ∨
    document.at ending = some (.object []) ∧ path <+: ending

theorem touches_cons {entries : List (String × Json)} {key : String}
    {value : Json} {path : List String} (found : entries.lookup key = some value)
    (touches : value.Touches path) : (Json.object entries).Touches (key :: path) := by
  have here (ending : List String) :
      (Json.object entries).at (key :: ending) = value.at ending := by
    rw [at_object_cons, found, Option.bind_some]
  have longer {first second : List String} (isPrefix : first <+: second) :
      key :: first <+: key :: second :=
    List.cons_prefix_cons.mpr ⟨rfl, isPrefix⟩
  obtain ⟨ending, ⟨isLeaf, comparable⟩ | ⟨isEmpty, isPrefix⟩⟩ := touches
  · exact ⟨key :: ending, .inl ⟨by rwa [here], comparable.imp longer longer⟩⟩
  · exact ⟨key :: ending, .inr ⟨by rwa [here], longer isPrefix⟩⟩

/-- An object touches only paths that start with one of its keys and go on with
one that the key leads to. -/
theorem exists_of_touches {entries : List (String × Json)} {key : String}
    {path : List String} (touches : (Json.object entries).Touches (key :: path)) :
    ∃ value, entries.lookup key = some value ∧ value.Touches path := by
  obtain ⟨ending, ⟨⟨leaf, isLeaf⟩, comparable⟩ | ⟨isEmpty, isPrefix⟩⟩ := touches
  · cases ending with
    | nil => cases isLeaf
    | cons first rest =>
        have same : first = key :=
          comparable.elim (fun isPrefix => (List.cons_prefix_cons.mp isPrefix).1)
            fun isPrefix => (List.cons_prefix_cons.mp isPrefix).1.symm
        subst same
        obtain ⟨value, found, onward⟩ := Option.bind_eq_some_iff.mp isLeaf
        refine ⟨value, found, rest, .inl ⟨⟨leaf, onward⟩, ?_⟩⟩
        exact comparable.imp (fun isPrefix => (List.cons_prefix_cons.mp isPrefix).2)
          fun isPrefix => (List.cons_prefix_cons.mp isPrefix).2
  · cases ending with
    | nil => exact absurd (List.prefix_nil.mp isPrefix) nofun
    | cons first rest =>
        obtain ⟨rfl, restPrefix⟩ := List.cons_prefix_cons.mp isPrefix
        obtain ⟨value, found, onward⟩ := Option.bind_eq_some_iff.mp isEmpty
        exact ⟨value, found, rest, .inr ⟨onward, restPrefix⟩⟩

mutual

theorem exists_ending : ∀ document : Json, ∃ ending,
    (∃ leaf, document.at ending = some (.leaf leaf)) ∨
      document.at ending = some (.object [])
  | .leaf leaf => ⟨[], .inl ⟨leaf, rfl⟩⟩
  | .object entries => exists_ending_object entries

theorem exists_ending_object : ∀ entries : List (String × Json), ∃ ending,
    (∃ leaf, (Json.object entries).at ending = some (.leaf leaf)) ∨
      (Json.object entries).at ending = some (.object [])
  | [] => ⟨[], .inr rfl⟩
  | (key, value) :: rest => by
      obtain ⟨ending, ends⟩ := exists_ending value
      refine ⟨key :: ending, ?_⟩
      rw [at_object_cons, List.lookup_cons_self, Option.bind_some]
      exact ends

end

theorem touches_nil (document : Json) : document.Touches [] := by
  obtain ⟨ending, isLeaf | isEmpty⟩ := exists_ending document
  · exact ⟨ending, .inl ⟨isLeaf, .inr List.nil_prefix⟩⟩
  · exact ⟨ending, .inr ⟨isEmpty, List.nil_prefix⟩⟩

/-- A leaf of the overrides is in the result. -/
theorem at_mergeItem_of_leaf {path : List String} {base : Option Json}
    {value : Json} {leaf : Leaf} (wellFormed : value.WellFormed)
    (isLeaf : value.at path = some (.leaf leaf)) :
    (mergeItem base value).at path = some (.leaf leaf) := by
  induction path generalizing base value with
  | nil =>
      rw [at_nil, Option.some_inj] at isLeaf
      rw [isLeaf, mergeItem_leaf, at_nil]
  | cons key rest ih =>
      match base, value with
      | some (.object defaults), .object overrides =>
          rw [at_object_cons] at isLeaf
          obtain ⟨child, found, childLeaf⟩ := Option.bind_eq_some_iff.mp isLeaf
          rw [mergeItem, at_object_cons, lookup_merge wellFormed.nodup, found]
          exact ih (wellFormed.lookup found) childLeaf
      | some (.object _), .leaf _ => cases isLeaf
      | some (.leaf _), _ =>
          rw [mergeItem_some_leaf]
          exact isLeaf
      | none, _ =>
          rw [mergeItem_none]
          exact isLeaf

theorem at_mergeItem_of_untouched {path : List String} {base : Option Json}
    {value : Json} {leaf : Leaf} (wellFormed : value.WellFormed)
    (untouched : ¬ value.Touches path) :
    (mergeItem base value).at path = some (.leaf leaf) ↔
      (base.bind fun document => document.at path) = some (.leaf leaf) := by
  induction path generalizing base value with
  | nil => exact absurd (touches_nil value) untouched
  | cons key rest ih =>
      have noLeaf : value.at (key :: rest) ≠ some (.leaf leaf) := fun isLeaf =>
        untouched ⟨_, .inl ⟨⟨leaf, isLeaf⟩, .inl List.prefix_rfl⟩⟩
      match base, value with
      | some (.object defaults), .object overrides =>
          rw [mergeItem, at_object_cons, lookup_merge wellFormed.nodup]
          cases found : overrides.lookup key with
          | none => exact Iff.rfl
          | some child =>
              exact ih (wellFormed.lookup found) fun touches =>
                untouched (touches_cons found touches)
      | some (.object _), .leaf other =>
          exact absurd ⟨[], .inl ⟨⟨other, rfl⟩, .inl List.nil_prefix⟩⟩ untouched
      | some (.leaf _), _ =>
          rw [mergeItem_some_leaf]
          exact iff_of_false noLeaf fun isLeaf => nomatch isLeaf
      | none, _ =>
          rw [mergeItem_none]
          exact iff_of_false noLeaf fun isLeaf => nomatch isLeaf

end JsonDocument
