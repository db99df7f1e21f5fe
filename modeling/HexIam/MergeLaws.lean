import HexIam.JsonDocument

/-!
# Laws of the deep merge

The leaves of a merged document, key order and repeated merges.  A leaf of the
defaults is kept where the overrides leave its path free.  The keys of the
defaults come first, so merging again changes nothing, and merges can be
regrouped as long as objects meet objects only.
-/

namespace JsonDocument

/-! ## Paths -/

theorem at_append (document : Json) (front rest : List String) :
    document.at (front ++ rest) =
      (document.at front).bind fun value => value.at rest := by
  induction front generalizing document with
  | nil => rw [List.nil_append, at_nil, Option.bind_some]
  | cons key front ih =>
      cases document with
      | leaf leaf => rfl
      | object entries =>
          rw [List.cons_append, at_object_cons, at_object_cons, Option.bind_assoc]
          exact congrArg _ (funext fun value => ih value)

/-! ## Leaves -/

/-- The document has no value at the path and no leaf on the way to it. -/
def Json.Free (document : Json) (path : List String) : Prop :=
  document.at path = none ∧
    ∀ front, front <+: path → front ≠ path →
      ∀ leaf, document.at front ≠ some (.leaf leaf)

theorem not_free_nil (document : Json) : ¬ document.Free [] := by
  rintro ⟨absent, -⟩
  rw [at_nil] at absent
  cases absent

theorem not_free_leaf (leaf : Leaf) (path : List String) :
    ¬ (Json.leaf leaf).Free path := by
  rintro ⟨absent, noLeaf⟩
  cases path with
  | nil => cases absent
  | cons key rest => exact noLeaf [] List.nil_prefix nofun leaf rfl

theorem not_free_of_leaf {document : Json} {front : List String} {leaf : Leaf}
    (isLeaf : document.at front = some (.leaf leaf)) (rest : List String) :
    ¬ document.Free (front ++ rest) := by
  rintro ⟨absent, noLeaf⟩
  cases rest with
  | nil =>
      rw [List.append_nil, isLeaf] at absent
      cases absent
  | cons key rest =>
      refine noLeaf front (List.prefix_append _ _) (fun same => ?_) leaf isLeaf
      exact absurd (List.append_right_eq_self.mp same.symm) nofun

/-- A path through an object is free if what its key leads to leaves the rest
free. -/
theorem free_cons {entries : List (String × Json)} {key : String}
    {rest : List String} :
    (Json.object entries).Free (key :: rest) ↔
      ∀ value, entries.lookup key = some value → value.Free rest := by
  constructor
  · rintro ⟨absent, noLeaf⟩ value found
    have below (ending : List String) :
        (Json.object entries).at (key :: ending) = value.at ending := by
      rw [at_object_cons, found, Option.bind_some]
    refine ⟨below rest ▸ absent, fun front isFront proper leaf => ?_⟩
    rw [← below front]
    refine noLeaf (key :: front) (List.cons_prefix_cons.mpr ⟨rfl, isFront⟩) ?_ leaf
    exact fun same => proper (List.cons.inj same).2
  · intro free
    cases found : entries.lookup key with
    | none =>
        have nothing (ending : List String) :
            (Json.object entries).at (key :: ending) = none := by
          rw [at_object_cons, found, Option.bind_none]
        refine ⟨nothing rest, fun front isFront _ leaf isLeaf => ?_⟩
        cases front with
        | nil => cases isLeaf
        | cons first front =>
            rw [(List.cons_prefix_cons.mp isFront).1, nothing] at isLeaf
            cases isLeaf
    | some value =>
        obtain ⟨absent, noLeaf⟩ := free value found
        have below (ending : List String) :
            (Json.object entries).at (key :: ending) = value.at ending := by
          rw [at_object_cons, found, Option.bind_some]
        refine ⟨(below rest).trans absent, fun front isFront proper leaf isLeaf => ?_⟩
        cases front with
        | nil => cases isLeaf
        | cons first front =>
            obtain ⟨rfl, onward⟩ := List.cons_prefix_cons.mp isFront
            rw [below] at isLeaf
            exact noLeaf front onward (fun same => proper (same ▸ rfl)) leaf isLeaf

/-- A leaf of the result is one of the overrides, or one of the defaults on a path
that the overrides leave free. -/
theorem at_mergeItem_eq_leaf {path : List String} {base : Option Json}
    {value : Json} {leaf : Leaf} (wellFormed : value.WellFormed) :
    (mergeItem base value).at path = some (.leaf leaf) ↔
      value.at path = some (.leaf leaf) ∨
        value.Free path ∧
          (base.bind fun document => document.at path) = some (.leaf leaf) := by
  induction path generalizing base value with
  | nil =>
      refine Iff.trans ?_ (or_iff_left fun kept => not_free_nil value kept.1).symm
      rcases base with _ | _ | defaults
      · rw [mergeItem_none]
      · rw [mergeItem_some_leaf]
      cases value with
      | leaf other => rw [mergeItem_leaf]
      | object overrides =>
          rw [mergeItem]
          refine iff_of_false (fun isLeaf => ?_) fun isLeaf => ?_
          · cases isLeaf
          · cases isLeaf
  | cons key rest ih =>
      cases value with
      | leaf other =>
          rw [mergeItem_leaf]
          exact (or_iff_left fun kept => not_free_leaf other _ kept.1).symm
      | object overrides =>
          rcases base with _ | _ | defaults
          · rw [mergeItem_none]
            refine (or_iff_left fun kept => ?_).symm
            cases kept.2
          · rw [mergeItem_some_leaf]
            refine (or_iff_left fun kept => ?_).symm
            cases kept.2
          · rw [mergeItem, at_object_cons, lookup_merge wellFormed.nodup, free_cons,
              at_object_cons, Option.bind_some, at_object_cons]
            cases found : overrides.lookup key with
            | none => simp
            | some child => simpa using ih (wellFormed.lookup found)

/-- Where the overrides do not leave the path of a leaf free, the result has what
they have. -/
theorem at_mergeItem_of_not_free {path : List String} {base value : Json}
    {leaf : Leaf} (wellFormed : value.WellFormed)
    (isLeaf : base.at path = some (.leaf leaf)) (taken : ¬ value.Free path) :
    (mergeItem (some base) value).at path = value.at path := by
  induction path generalizing base value with
  | nil =>
      rw [at_nil, Option.some_inj] at isLeaf
      rw [isLeaf, mergeItem_some_leaf]
  | cons key rest ih =>
      match base, value with
      | .object defaults, .object overrides =>
          obtain ⟨child, found, childTaken⟩ : ∃ child,
              overrides.lookup key = some child ∧ ¬ child.Free rest := by
            rw [free_cons] at taken
            simpa using taken
          obtain ⟨old, oldFound, oldLeaf⟩ := Option.bind_eq_some_iff.mp isLeaf
          rw [mergeItem, at_object_cons, lookup_merge wellFormed.nodup, found,
            at_object_cons, found, oldFound]
          exact ih (wellFormed.lookup found) oldLeaf childTaken
      | .object _, .leaf _ => rw [mergeItem_leaf]
      | .leaf _, _ => rw [mergeItem_some_leaf]

/-- Where the defaults have a leaf the result is not free. -/
theorem not_free_mergeItem {path : List String} {base value : Json} {leaf : Leaf}
    (wellFormed : value.WellFormed) (isLeaf : base.at path = some (.leaf leaf)) :
    ¬ (mergeItem (some base) value).Free path := by
  induction path generalizing base value with
  | nil => exact not_free_nil _
  | cons key rest ih =>
      match base, value with
      | .object defaults, .object overrides =>
          obtain ⟨old, oldFound, oldLeaf⟩ := Option.bind_eq_some_iff.mp isLeaf
          rw [mergeItem, free_cons, lookup_merge wellFormed.nodup]
          intro free
          cases found : overrides.lookup key with
          | none =>
              rw [found] at free
              have absent := (free old oldFound).1
              rw [oldLeaf] at absent
              cases absent
          | some child =>
              rw [found, oldFound] at free
              exact ih (wellFormed.lookup found) oldLeaf (free _ rfl)
      | .object _, .leaf other =>
          rw [mergeItem_leaf]
          exact not_free_leaf other _

/-! ## Keys -/

section Keys

variable {α : Type*}

theorem keys_setItem (key : String) (value : α) (entries : List (String × α)) :
    (setItem key value entries).map Prod.fst =
      if key ∈ entries.map Prod.fst then entries.map Prod.fst
      else entries.map Prod.fst ++ [key] := by
  induction entries with
  | nil => rfl
  | cons entry rest ih =>
      obtain ⟨other, old⟩ := entry
      unfold setItem
      by_cases same : other = key
      · simp [same]
      · rw [if_neg same, List.map_cons, ih]
        simp only [List.map_cons, List.mem_cons, Ne.symm same, false_or]
        split <;> rfl

theorem lookup_of_mem {key : String} {value : α} {entries : List (String × α)}
    (nodup : (entries.map Prod.fst).Nodup) (mem : (key, value) ∈ entries) :
    entries.lookup key = some value := by
  induction entries with
  | nil => cases mem
  | cons entry rest ih =>
      obtain ⟨notMem, restNodup⟩ := List.nodup_cons.mp nodup
      rcases List.mem_cons.mp mem with rfl | restMem
      · exact List.lookup_cons_self
      · have different : key ≠ entry.1 := fun same =>
          notMem (same ▸ List.mem_map_of_mem restMem)
        rw [← ih restNodup restMem]
        exact lookup_cons_of_ne different entry.2 rest

theorem lookup_map_values {β : Type*} (f : String → α → β)
    (entries : List (String × α)) (key : String) :
    (entries.map fun entry => (entry.1, f entry.1 entry.2)).lookup key =
      (entries.lookup key).map (f key) := by
  induction entries with
  | nil => rfl
  | cons entry rest ih =>
      obtain ⟨first, value⟩ := entry
      by_cases same : key = first
      · subst same
        rw [List.map_cons, List.lookup_cons_self, List.lookup_cons_self,
          Option.map_some]
      · rw [List.map_cons, lookup_cons_of_ne same, lookup_cons_of_ne same, ih]

theorem entries_ext {first second : List (String × α)}
    (nodup : (first.map Prod.fst).Nodup)
    (keys : first.map Prod.fst = second.map Prod.fst)
    (values : ∀ key, first.lookup key = second.lookup key) : first = second := by
  induction first generalizing second with
  | nil => exact (List.map_eq_nil_iff.mp keys.symm).symm
  | cons entry rest ih =>
      obtain ⟨key, value⟩ := entry
      obtain ⟨⟨other, held⟩, others, rfl, rfl, restKeys⟩ :=
        List.map_eq_cons_iff.mp keys.symm
      obtain ⟨notMem, restNodup⟩ := List.nodup_cons.mp nodup
      have head := values other
      rw [List.lookup_cons_self, List.lookup_cons_self, Option.some_inj] at head
      rw [head, ih restNodup restKeys.symm fun asked => ?_]
      by_cases same : asked = other
      · have notOther : other ∉ others.map Prod.fst := restKeys ▸ notMem
        rw [same, lookup_eq_none_of_notMem notMem, lookup_eq_none_of_notMem notOther]
      · rw [← lookup_cons_of_ne same value rest, values asked,
          lookup_cons_of_ne same]

end Keys

/-- The keys of the defaults stay in place; new keys follow in their order. -/
theorem keys_merge {overrides : List (String × Json)}
    (nodup : (overrides.map Prod.fst).Nodup) (result : List (String × Json)) :
    (merge result overrides).map Prod.fst =
      result.map Prod.fst ++
        (overrides.map Prod.fst).filter fun key => key ∉ result.map Prod.fst := by
  induction overrides generalizing result with
  | nil => simp [merge]
  | cons entry rest ih =>
      obtain ⟨first, value⟩ := entry
      obtain ⟨notMem, restNodup⟩ := List.nodup_cons.mp nodup
      rw [merge, ih restNodup, keys_setItem, List.map_cons]
      split
      case isTrue held => rw [List.filter_cons_of_neg (by simpa using held)]
      case isFalse fresh =>
        rw [List.filter_cons_of_pos (by simpa using fresh), List.append_assoc,
          List.singleton_append]
        congr 2
        refine List.filter_congr fun key keyMem => ?_
        have different : key ≠ first := fun same => notMem (same ▸ keyMem)
        simp [different]

theorem nodup_merge {result overrides : List (String × Json)}
    (resultNodup : (result.map Prod.fst).Nodup)
    (nodup : (overrides.map Prod.fst).Nodup) :
    ((merge result overrides).map Prod.fst).Nodup := by
  rw [keys_merge nodup]
  refine resultNodup.append (nodup.filter _) fun key isOld isNew => ?_
  exact absurd isOld (by simpa using (List.mem_filter.mp isNew).2)

/-! ## Merging twice -/

/-- Overrides that are merged already change nothing. -/
theorem merge_eq_self {result overrides : List (String × Json)}
    (resultNodup : (result.map Prod.fst).Nodup)
    (nodup : (overrides.map Prod.fst).Nodup)
    (merged : ∀ key value, overrides.lookup key = some value →
      result.lookup key = some (mergeItem (result.lookup key) value)) :
    merge result overrides = result := by
  refine entries_ext (nodup_merge resultNodup nodup) ?_ fun key => ?_
  · rw [keys_merge nodup, List.append_right_eq_self, List.filter_eq_nil_iff]
    rintro key keyMem
    obtain ⟨entry, entryMem, rfl⟩ := List.mem_map.mp keyMem
    cases found : overrides.lookup entry.1 with
    | none => simpa using List.lookup_eq_none_iff.mp found entry entryMem
    | some value =>
        have held := List.mem_map_of_mem (f := Prod.fst)
          (mem_of_lookup (merged _ value found))
        simpa using held
  · rw [lookup_merge nodup]
    cases found : overrides.lookup key with
    | none => rfl
    | some value => exact (merged key value found).symm

/-- Merging the same overrides again changes nothing. -/
theorem mergeItem_idempotent {base : Option Json} {value : Json}
    (baseWellFormed : ∀ document ∈ base, document.WellFormed)
    (wellFormed : value.WellFormed) :
    mergeItem (some (mergeItem base value)) value = mergeItem base value := by
  induction wellFormed generalizing base with
  | leaf leaf => rw [mergeItem_leaf, mergeItem_leaf]
  | object entries nodup each ih =>
      have again : merge entries entries = entries := by
        refine merge_eq_self nodup nodup fun key child found => ?_
        have same := @ih _ (mem_of_lookup found) none nofun
        rw [mergeItem_none] at same
        rw [found, same]
      match base, baseWellFormed with
      | none, _ => rw [mergeItem_none, mergeItem, again]
      | some (.leaf _), _ => rw [mergeItem_some_leaf, mergeItem, again]
      | some (.object defaults), baseWellFormed =>
          have defaultsWellFormed := baseWellFormed _ rfl
          rw [mergeItem, mergeItem]
          refine congrArg Json.object (merge_eq_self
            (nodup_merge defaultsWellFormed.nodup nodup) nodup
            fun key child found => ?_)
          rw [lookup_merge nodup, found]
          refine congrArg some (ih _ (mem_of_lookup found) fun old isOld => ?_).symm
          exact defaultsWellFormed.lookup isOld

/-! ## Regrouping -/

def Json.isObject : Json → Bool
  | .leaf _ => false
  | .object _ => true

/-- Where both documents have a value, both have an object or both a leaf. -/
def Json.Alike (first second : Json) : Prop :=
  ∀ path value other, first.at path = some value → second.at path = some other →
    value.isObject = other.isObject

theorem Json.Alike.lookup {first second : List (String × Json)} {key : String}
    {value other : Json} (alike : (Json.object first).Alike (.object second))
    (found : first.lookup key = some value)
    (otherFound : second.lookup key = some other) : value.Alike other := by
  intro path child otherChild leads otherLeads
  refine alike (key :: path) child otherChild ?_ ?_
  · rw [at_object_cons, found, Option.bind_some, leads]
  · rw [at_object_cons, otherFound, Option.bind_some, otherLeads]

/-- The keys of three merged documents do not depend on the grouping. -/
theorem keys_merge_assoc {first second third : List (String × Json)}
    (secondNodup : (second.map Prod.fst).Nodup)
    (thirdNodup : (third.map Prod.fst).Nodup) :
    (merge (merge first second) third).map Prod.fst =
      (merge first (merge second third)).map Prod.fst := by
  rw [keys_merge thirdNodup, keys_merge (nodup_merge secondNodup thirdNodup),
    keys_merge secondNodup, keys_merge thirdNodup, List.filter_append,
    List.append_assoc, List.filter_filter]
  congr 2
  refine List.filter_congr fun key _ => ?_
  simp only [List.mem_append, List.mem_filter, decide_not]
  by_cases inFirst : key ∈ first.map Prod.fst <;>
    by_cases inSecond : key ∈ second.map Prod.fst <;> simp_all

/-- Merges of documents in which objects meet objects can be regrouped. -/
theorem mergeItem_assoc {base : Option Json} {middle last : Json}
    (baseWellFormed : ∀ document ∈ base, document.WellFormed)
    (middleWellFormed : middle.WellFormed) (lastWellFormed : last.WellFormed)
    (baseAlike : ∀ document ∈ base, document.Alike middle)
    (lastAlike : middle.Alike last) :
    mergeItem (some (mergeItem base middle)) last =
      mergeItem base (mergeItem (some middle) last) := by
  induction middleWellFormed generalizing base last with
  | leaf leaf =>
      rw [mergeItem_leaf, mergeItem_some_leaf]
      match base, baseAlike with
      | none, _ => rw [mergeItem_none]
      | some (.leaf _), _ => rw [mergeItem_some_leaf]
      | some (.object _), baseAlike => cases baseAlike _ rfl [] _ _ rfl rfl
  | object entries nodup each ih =>
      match base, baseAlike, baseWellFormed with
      | none, _, _ => rw [mergeItem_none, mergeItem_none]
      | some (.leaf _), baseAlike, _ => cases baseAlike _ rfl [] _ _ rfl rfl
      | some (.object defaults), baseAlike, baseWellFormed =>
          match last, lastAlike, lastWellFormed with
          | .leaf _, lastAlike, _ => cases lastAlike [] _ _ rfl rfl
          | .object others, lastAlike, lastWellFormed =>
              have defaultsWellFormed := baseWellFormed _ rfl
              rw [mergeItem, mergeItem, mergeItem, mergeItem]
              refine congrArg Json.object (entries_ext
                (nodup_merge (nodup_merge defaultsWellFormed.nodup nodup)
                  lastWellFormed.nodup)
                (keys_merge_assoc nodup lastWellFormed.nodup) fun key => ?_)
              rw [lookup_merge lastWellFormed.nodup, lookup_merge nodup,
                lookup_merge (nodup_merge nodup lastWellFormed.nodup),
                lookup_merge lastWellFormed.nodup]
              cases found : entries.lookup key with
              | none =>
                  cases others.lookup key with
                  | none => rfl
                  | some other =>
                      dsimp only
                      rw [mergeItem_none]
              | some value =>
                  cases otherFound : others.lookup key with
                  | none => rfl
                  | some other =>
                      refine congrArg some (ih _ (mem_of_lookup found) ?_
                        (lastWellFormed.lookup otherFound) ?_
                        (lastAlike.lookup found otherFound))
                      · exact fun old isOld => defaultsWellFormed.lookup isOld
                      · exact fun old isOld => (baseAlike _ rfl).lookup isOld found

end JsonDocument
