import HexIam.PolicyService
import Mathlib.Combinatorics.Colex
import Mathlib.Data.Nat.Bitwise

/-!
# Permission checks

`check_permission` of `core.authz`, and what it answers on the maps that the
policy compilers build: an action is permitted when its bit is set in the entry
of the resource.
-/

namespace HexIam

/-! ## `check_permission` -/

/-- `permission_map`. -/
def permissionMap : List (String × Action) :=
  [("read", .read), ("write", .write), ("delete", .delete),
    ("approve", .approve), ("reject", .reject), ("execute", .execute),
    ("assign", .assign), ("manage", .manage), ("export", .export),
    ("import", .import), ("activate", .activate), ("archive", .archive)]

/-- `check_permission`. -/
def checkPermission (userPolicy : List (String × Nat))
    (permissionNeeded resource : String) : Bool :=
  let userPerm := (userPolicy.lookup resource).getD 0
  let neededPerm :=
    ((permissionMap.lookup (lower permissionNeeded)).map Action.value).getD 0
  userPerm &&& neededPerm ≠ 0

namespace Action

/-- The position of the bit of an action. -/
def bit : Action → Nat
  | read => 0
  | write => 1
  | delete => 2
  | approve => 3
  | reject => 4
  | execute => 5
  | assign => 6
  | manage => 7
  | «export» => 8
  | «import» => 9
  | activate => 10
  | archive => 11

theorem value_eq_two_pow (action : Action) : action.value = 2 ^ action.bit := by
  cases action <;> rfl

theorem bit_injective : Function.Injective bit := by
  intro first second bitEq
  cases first <;> cases second <;> first | rfl | cases bitEq

end Action

theorem lookup_of_mem_permissionMap :
    ∀ entry ∈ permissionMap, permissionMap.lookup entry.1 = some entry.2 := by
  decide

theorem lower_of_mem_permissionMap :
    ∀ entry ∈ permissionMap, lower entry.1 = entry.1 := by
  decide

theorem mem_permissionMap_of_lookup {name : String} {action : Action}
    (found : permissionMap.lookup name = some action) :
    (name, action) ∈ permissionMap := by
  obtain ⟨front, back, mapEq, -⟩ := List.lookup_eq_some_iff.mp found
  rw [mapEq]
  simp

theorem name_eq_of_mem_permissionMap :
    ∀ first ∈ permissionMap, ∀ second ∈ permissionMap,
      first.2 = second.2 → first.1 = second.1 := by
  decide

theorem checkPermission_iff {userPolicy : List (String × Nat)}
    {entry : String × Action} (entryMem : entry ∈ permissionMap)
    (resource : String) :
    checkPermission userPolicy entry.1 resource = true ↔
      ((userPolicy.lookup resource).getD 0).testBit entry.2.bit = true := by
  unfold checkPermission
  rw [lower_of_mem_permissionMap entry entryMem,
    lookup_of_mem_permissionMap entry entryMem]
  simp only [Option.map_some, Option.getD_some, Action.value_eq_two_pow,
    Nat.and_two_pow]
  cases Nat.testBit _ _ <;> simp

theorem checkPermission_eq_false {userPolicy : List (String × Nat)}
    {name : String} (unknown : permissionMap.lookup (lower name) = none)
    (resource : String) : checkPermission userPolicy name resource = false := by
  simp [checkPermission, unknown]

/-- Two maps permit the same when they agree on every bit of an action. -/
theorem checkPermission_congr {first second : List (String × Nat)}
    (same : ∀ resource, ∀ entry ∈ permissionMap,
      ((first.lookup resource).getD 0).testBit entry.2.bit =
        ((second.lookup resource).getD 0).testBit entry.2.bit)
    (name resource : String) :
    checkPermission first name resource = checkPermission second name resource := by
  cases found : permissionMap.lookup (lower name) with
  | none => rw [checkPermission_eq_false found, checkPermission_eq_false found]
  | some action =>
      have bits := same resource _ (mem_permissionMap_of_lookup found)
      simp only [checkPermission, found, Option.map_some, Option.getD_some,
        Action.value_eq_two_pow, Nat.and_two_pow, bits]

/-! ## Entries -/

theorem lookup_cons (resource key : String) (value : Nat)
    (claim : List (String × Nat)) :
    ((key, value) :: claim).lookup resource =
      if resource = key then some value else claim.lookup resource := by
  by_cases same : resource = key
  · subst same
    simp
  · have differs : (resource == key) = false := beq_false_of_ne same
    simp [List.lookup_cons, differs, same]

theorem lookup_setEntry (key resource : String) (value : Nat)
    (claim : List (String × Nat)) :
    (setEntry key value claim).lookup resource =
      if resource = key then some value else claim.lookup resource := by
  induction claim with
  | nil => exact lookup_cons resource key value []
  | cons held rest ih =>
      obtain ⟨heldKey, old⟩ := held
      unfold setEntry
      by_cases isKey : heldKey = key
      · subst isKey
        rw [if_pos rfl, lookup_cons, lookup_cons]
        split <;> rfl
      · rw [if_neg isKey, lookup_cons, lookup_cons, ih]
        split
        case isTrue isHeld =>
          subst isHeld
          rw [if_neg isKey]
        case isFalse => rfl

/-! ## Bits of a sum of actions -/

/-- The actions among the names that exist. -/
def knownActions (actions : List String) : List Action :=
  actions.filterMap fun action => Action.named (upper action)

theorem named_upper_of_mem_validActions :
    ∀ name ∈ validActions,
      Action.named (upper name) = permissionMap.lookup name := by
  decide

theorem mem_knownActions {actions : List String}
    (valid : ∀ action ∈ actions, action ∈ validActions)
    {entry : String × Action} (entryMem : entry ∈ permissionMap) :
    entry.2 ∈ knownActions actions ↔ entry.1 ∈ actions := by
  unfold knownActions
  rw [List.mem_filterMap]
  constructor
  · rintro ⟨action, actionMem, named⟩
    rw [named_upper_of_mem_validActions action (valid action actionMem)] at named
    have same := name_eq_of_mem_permissionMap _
      (mem_permissionMap_of_lookup named) entry entryMem rfl
    exact same ▸ actionMem
  · intro actionMem
    refine ⟨entry.1, actionMem, ?_⟩
    rw [named_upper_of_mem_validActions _ (valid _ actionMem)]
    exact lookup_of_mem_permissionMap entry entryMem

theorem nodup_knownActions {actions : List String}
    (valid : ∀ action ∈ actions, action ∈ validActions)
    (nodup : actions.Nodup) : (knownActions actions).Nodup := by
  have lookups : knownActions actions =
      actions.filterMap fun action => permissionMap.lookup action :=
    List.filterMap_congr fun action actionMem =>
      named_upper_of_mem_validActions action (valid action actionMem)
  rw [lookups]
  refine nodup.filterMap ?_
  intro first second action firstEq secondEq
  exact name_eq_of_mem_permissionMap _ (mem_permissionMap_of_lookup firstEq) _
    (mem_permissionMap_of_lookup secondEq) rfl

/-- How often each action is listed in any case, weighted by its bit. -/
def weight (actions : List String) : Nat :=
  (permissionMap.map fun entry =>
    (knownActions actions).count entry.2 * entry.2.value).sum

/-- The bits added up are the weighted counts. -/
theorem knownActionSum_eq_weight (actions : List String) :
    knownActionSum actions = weight actions := by
  have counted (known : List Action) :
      (known.map Action.value).sum =
        (permissionMap.map fun entry =>
          known.count entry.2 * entry.2.value).sum := by
    induction known with
    | nil => rfl
    | cons action rest ih =>
        have here : (permissionMap.map fun entry =>
            if action == entry.2 then entry.2.value else 0).sum = action.value := by
          cases action <;> rfl
        simp only [List.map_cons, List.sum_cons, List.count_cons, add_mul, ite_mul,
          one_mul, zero_mul, List.sum_map_add]
        rw [ih, here, Nat.add_comm]
  exact counted (knownActions actions)

theorem knownActionSum_eq (actions : List String) :
    knownActionSum actions =
      (((knownActions actions).map Action.bit).map (2 ^ ·)).sum := by
  unfold knownActionSum
  rw [List.map_map]
  congr 1
  exact List.map_congr_left fun action _ => action.value_eq_two_pow

/-- Distinct actions add up to the union of their bits. -/
theorem testBit_weight_of_nodup {actions : List String}
    (nodup : (knownActions actions).Nodup) (action : Action) :
    (weight actions).testBit action.bit = true ↔
      action ∈ knownActions actions := by
  have bitsNodup := nodup.map Action.bit_injective
  rw [← knownActionSum_eq_weight, knownActionSum_eq, ← Nat.mem_bitIndices,
    ← List.mem_toFinset, ← List.sum_toFinset _ bitsNodup,
    Finset.toFinset_bitIndices_sum_two_pow, List.mem_toFinset,
    List.mem_map_of_injective Action.bit_injective]

/-! ## The map of `fetch_user_policies` -/

/-- The body of its loop. -/
def addBits (claim : List (String × Nat)) (policy : PolicyDoc) :
    List (String × Nat) :=
  if filled policy.resource && !policy.actions.isEmpty then
    setEntry policy.resource ((claim.lookup policy.resource).getD 0 |||
      knownActionSum policy.actions) claim
  else claim

theorem testBit_addBits (claim : List (String × Nat)) (policy : PolicyDoc)
    (resource : String) (bit : Nat) :
    (((addBits claim policy).lookup resource).getD 0).testBit bit = true ↔
      ((claim.lookup resource).getD 0).testBit bit = true ∨
        (policy.resource = resource ∧ filled resource = true ∧
          (knownActionSum policy.actions).testBit bit = true) := by
  unfold addBits
  split
  case isTrue kept =>
    obtain ⟨named, -⟩ := Bool.and_eq_true_iff.mp kept
    rw [lookup_setEntry]
    by_cases same : policy.resource = resource
    · subst same
      simp [named, Nat.testBit_or]
    · simp [same, Ne.symm same]
  case isFalse skipped =>
    refine (or_iff_left ?_).symm
    rintro ⟨rfl, named, set⟩
    cases actionsEq : policy.actions with
    | nil => simp [actionsEq, knownActionSum] at set
    | cons action rest => simp [named, actionsEq] at skipped

/-- A bit of the map comes from a row that adds it. -/
theorem testBit_bitmaskClaim (policies : List PolicyDoc) (resource : String)
    (bit : Nat) :
    (((bitmaskClaim policies).lookup resource).getD 0).testBit bit = true ↔
      ∃ policy ∈ policies, policy.resource = resource ∧ filled resource = true ∧
        (weight policy.actions).testBit bit = true := by
  simp only [← knownActionSum_eq_weight]
  have fold (claim : List (String × Nat)) :
      (((policies.foldl addBits claim).lookup resource).getD 0).testBit bit =
          true ↔
        ((claim.lookup resource).getD 0).testBit bit = true ∨
          ∃ policy ∈ policies, policy.resource = resource ∧
            filled resource = true ∧
            (knownActionSum policy.actions).testBit bit = true := by
    induction policies generalizing claim with
    | nil => simp
    | cons policy rest ih =>
        rw [List.foldl_cons, ih, testBit_addBits, or_assoc]
        simp
  exact (fold []).trans (or_iff_right (by simp))

/-! ## The maps of `authenticate` and `refresh` -/

theorem actionSum_eq_ok {actions : List String} {bits : Nat} :
    actionSum actions = .ok bits ↔
      (∀ action ∈ actions, (Action.named (upper action)).isSome = true) ∧
        knownActionSum actions = bits := by
  induction actions generalizing bits with
  | nil => simp [actionSum, knownActionSum]
  | cons action rest ih =>
      cases named : Action.named (upper action) with
      | none => simp [actionSum, named]
      | some found =>
          have sumEq : knownActionSum (action :: rest) =
              found.value + knownActionSum rest := by
            simp [knownActionSum, named]
          simp only [actionSum, named, except_bind_eq_ok, ih, sumEq,
            List.forall_mem_cons, Option.isSome_some, true_and]
          constructor
          · rintro ⟨others, ⟨known, rfl⟩, ⟨⟩⟩
            exact ⟨known, rfl⟩
          · rintro ⟨known, rfl⟩
            exact ⟨_, ⟨known, rfl⟩, rfl⟩

/-- The entry of a resource in a dictionary comprehension is that of its last
row. -/
theorem lookup_policyClaim {policies : List PolicyDoc}
    {claim result : List (String × Nat)}
    (compiled : policyClaim policies claim = .ok result) (resource : String) :
    result.lookup resource =
      ((policies.filter fun policy => policy.resource = resource).getLast?.map
        fun policy => weight policy.actions).or (claim.lookup resource) := by
  simp only [← knownActionSum_eq_weight]
  induction policies generalizing claim with
  | nil =>
      cases compiled
      rfl
  | cons policy rest ih =>
      obtain ⟨bits, bitsEq, compiled⟩ := except_bind_eq_ok.mp compiled
      obtain ⟨-, rfl⟩ := actionSum_eq_ok.mp bitsEq
      rw [ih compiled, lookup_setEntry]
      by_cases same : policy.resource = resource
      · subst same
        rw [List.filter_cons_of_pos (by simp), List.getLast?_cons, if_pos rfl]
        cases (rest.filter _).getLast? <;> rfl
      · rw [List.filter_cons_of_neg (by simpa using same),
          if_neg (Ne.symm same)]

theorem exists_policyClaim_iff {policies : List PolicyDoc}
    {claim : List (String × Nat)} :
    (∃ result, policyClaim policies claim = .ok result) ↔
      ∀ policy ∈ policies, ∀ action ∈ policy.actions,
        (Action.named (upper action)).isSome = true := by
  induction policies generalizing claim with
  | nil => simp [policyClaim]
  | cons policy rest ih =>
      simp only [policyClaim, except_bind_eq_ok, actionSum_eq_ok,
        List.forall_mem_cons]
      constructor
      · rintro ⟨result, bits, ⟨known, -⟩, compiled⟩
        exact ⟨known, ih.mp ⟨result, compiled⟩⟩
      · rintro ⟨known, others⟩
        obtain ⟨result, compiled⟩ := ih.mpr others
        exact ⟨result, _, ⟨known, rfl⟩, compiled⟩

end HexIam
