import HexIam.Authz
import HexIam.StatementRules
import HexIam.TokenEndpoint

/-!
# What the compiled permissions mean

`fetch_user_policies` adds the bits of the actions of a row and joins the rows
of a resource.  A row that lists an action twice adds its bit twice, which sets
the bit of another action.  The compiled map permits what the rows list exactly
when these repeats are made up for by other rows.
-/

namespace HexIam

namespace PolicyAdequacy

/-! ## Accepted rows -/

/-- The actions of a document have passed `validate_actions`. -/
def Accepted (policy : PolicyDoc) : Prop :=
  ∀ action ∈ policy.actions, action ∈ validActions

theorem accepted_create (policy : PolicyCreate) :
    Accepted ⟨policy.resource, policy.actions, policy.conditions.getD []⟩ :=
  policy.valid

theorem accepted_update {existing : PolicyDoc} (accepted : Accepted existing)
    (updates : PolicyUpdate) : Accepted (updatedPolicy existing updates) := by
  intro action actionMem
  have given : action ∈ updates.actions.getD existing.actions :=
    List.mem_dedup.mp actionMem
  cases actionsEq : updates.actions with
  | none =>
      rw [actionsEq] at given
      exact accepted action given
  | some actions =>
      rw [actionsEq] at given
      exact updates.valid actions actionsEq action given

/-- The row has not expired by its `validity_time`. -/
def Current (deployment : Deployment) (now : Int) (row : PolicyRow) : Prop :=
  row.policy.valid deployment now = .ok true

theorem mem_validPolicies {deployment : Deployment} {now : Int}
    {rows : List PolicyRow} {policies : List PolicyDoc}
    (fetched : validPolicies deployment now rows = .ok policies)
    (policy : PolicyDoc) :
    policy ∈ policies ↔
      ∃ row ∈ rows, Current deployment now row ∧ row.policy = policy := by
  induction rows generalizing policies with
  | nil =>
      cases fetched
      simp
  | cons row rest ih =>
      obtain ⟨valid, validEq, fetched⟩ := except_bind_eq_ok.mp fetched
      obtain ⟨others, othersEq, fetched⟩ := except_bind_eq_ok.mp fetched
      cases fetched
      have current : Current deployment now row ↔ valid = true := by
        simp [Current, validEq]
      simp only [List.exists_mem_cons_iff, current, ← ih othersEq]
      cases valid <;> simp [eq_comm]

/-! ## Adequacy -/

/-- The map permits an action of `permission_map` on a resource when some row
that has not expired lists it. -/
def Adequate (deployment : Deployment) (now : Int) (rows : List PolicyRow)
    (claim : List (String × Nat)) : Prop :=
  ∀ resource, ∀ entry ∈ permissionMap,
    checkPermission claim entry.1 resource = true ↔
      ∃ row ∈ rows, Current deployment now row ∧
        row.policy.resource = resource ∧
        ∃ action ∈ row.policy.actions, lower action = entry.1

/-- No row that counts lists an action on the empty resource, and what a row
with repeats loses or gains by its carries, the rows of its resource give or
list. -/
structure RepeatsHarmless (deployment : Deployment) (now : Int)
    (rows : List PolicyRow) : Prop where
  unnamed : ∀ row ∈ rows, Current deployment now row →
    row.policy.resource = "" → row.policy.actions = []
  gained : ∀ row ∈ rows, Current deployment now row →
    ¬ row.policy.actions.Nodup → ∀ entry ∈ permissionMap,
      (weight row.policy.actions).testBit entry.2.bit = true →
        ∃ other ∈ rows, Current deployment now other ∧
          other.policy.resource = row.policy.resource ∧
          entry.1 ∈ other.policy.actions
  lost : ∀ row ∈ rows, Current deployment now row →
    ¬ row.policy.actions.Nodup → ∀ entry ∈ permissionMap,
      entry.1 ∈ row.policy.actions →
        ∃ other ∈ rows, Current deployment now other ∧
          other.policy.resource = row.policy.resource ∧
          (weight other.policy.actions).testBit entry.2.bit = true

theorem mem_permissionMap_of_mem_validActions :
    ∀ action ∈ validActions, ∃ entry ∈ permissionMap, entry.1 = action := by
  decide

/-- Without repeats the weight has the bits of the listed actions. -/
theorem testBit_weight_iff {actions : List String}
    (valid : ∀ action ∈ actions, action ∈ validActions) (nodup : actions.Nodup)
    {entry : String × Action} (entryMem : entry ∈ permissionMap) :
    (weight actions).testBit entry.2.bit = true ↔ entry.1 ∈ actions := by
  rw [testBit_weight_of_nodup (nodup_knownActions valid nodup),
    mem_knownActions valid entryMem]

theorem lower_of_mem_validActions :
    ∀ action ∈ validActions, lower action = action := by
  decide

theorem lists_iff {actions : List String}
    (valid : ∀ action ∈ actions, action ∈ validActions) (name : String) :
    (∃ action ∈ actions, lower action = name) ↔ name ∈ actions := by
  constructor
  · rintro ⟨action, actionMem, rfl⟩
    rw [lower_of_mem_validActions action (valid action actionMem)]
    exact actionMem
  · intro nameMem
    exact ⟨name, nameMem, lower_of_mem_validActions name (valid name nameMem)⟩

section Fetched

variable {deployment : Deployment} {now : Int} {rows : List PolicyRow}
  {policies : List PolicyDoc}

/-- The compiled map permits what the weights of the rows have a bit for. -/
theorem permits_iff
    (fetched : validPolicies deployment now rows = .ok policies)
    {entry : String × Action} (entryMem : entry ∈ permissionMap)
    (resource : String) :
    checkPermission (bitmaskClaim policies) entry.1 resource = true ↔
      ∃ row ∈ rows, Current deployment now row ∧
        row.policy.resource = resource ∧ filled resource = true ∧
        (weight row.policy.actions).testBit entry.2.bit = true := by
  rw [checkPermission_iff entryMem, testBit_bitmaskClaim]
  constructor
  · rintro ⟨policy, policyMem, sameResource, named, set⟩
    obtain ⟨row, rowMem, current, rfl⟩ :=
      (mem_validPolicies fetched policy).mp policyMem
    exact ⟨row, rowMem, current, sameResource, named, set⟩
  · rintro ⟨row, rowMem, current, sameResource, named, set⟩
    exact ⟨row.policy, (mem_validPolicies fetched _).mpr
      ⟨row, rowMem, current, rfl⟩, sameResource, named, set⟩

/-- The permissions compiled from accepted rows are those the rows list exactly
when the repeated actions are harmless. -/
theorem adequate_iff (accepted : ∀ row ∈ rows, Accepted row.policy)
    (fetched : validPolicies deployment now rows = .ok policies) :
    Adequate deployment now rows (bitmaskClaim policies) ↔
      RepeatsHarmless deployment now rows := by
  have listed (row : PolicyRow) (rowMem : row ∈ rows) (name : String) :=
    lists_iff (accepted row rowMem) name
  constructor
  · intro adequate
    have unnamed : ∀ row ∈ rows, Current deployment now row →
        row.policy.resource = "" → row.policy.actions = [] := by
      intro row rowMem current isEmpty
      rw [List.eq_nil_iff_forall_not_mem]
      intro action actionMem
      obtain ⟨entry, entryMem, rfl⟩ := mem_permissionMap_of_mem_validActions
        action (accepted row rowMem action actionMem)
      have permitted := (adequate "" entry entryMem).mpr
        ⟨row, rowMem, current, isEmpty, (listed row rowMem _).mpr actionMem⟩
      obtain ⟨_, _, _, _, named, _⟩ :=
        (permits_iff fetched entryMem "").mp permitted
      cases named
    refine ⟨unnamed, ?_, ?_⟩
    · intro row rowMem current repeats entry entryMem set
      have named : filled row.policy.resource = true := by
        by_contra isEmpty
        have isEmpty : row.policy.resource = "" := by simpa [filled] using isEmpty
        rw [unnamed row rowMem current isEmpty] at repeats
        exact repeats List.nodup_nil
      have permitted :=
        (permits_iff fetched entryMem row.policy.resource).mpr
          ⟨row, rowMem, current, rfl, named, set⟩
      obtain ⟨other, otherMem, otherCurrent, same, lists⟩ :=
        (adequate row.policy.resource entry entryMem).mp permitted
      exact ⟨other, otherMem, otherCurrent, same,
        (listed other otherMem _).mp lists⟩
    · intro row rowMem current _ entry entryMem lists
      have permitted := (adequate row.policy.resource entry entryMem).mpr
        ⟨row, rowMem, current, rfl, (listed row rowMem _).mpr lists⟩
      obtain ⟨other, otherMem, otherCurrent, same, _, set⟩ :=
        (permits_iff fetched entryMem row.policy.resource).mp permitted
      exact ⟨other, otherMem, otherCurrent, same, set⟩
  · intro harmless resource entry entryMem
    rw [permits_iff fetched entryMem resource]
    constructor
    · rintro ⟨row, rowMem, current, rfl, named, set⟩
      by_cases nodup : row.policy.actions.Nodup
      · have lists := (testBit_weight_iff (accepted row rowMem) nodup
          entryMem).mp set
        exact ⟨row, rowMem, current, rfl, (listed row rowMem _).mpr lists⟩
      · obtain ⟨other, otherMem, otherCurrent, same, lists⟩ :=
          harmless.gained row rowMem current nodup entry entryMem set
        exact ⟨other, otherMem, otherCurrent, same,
          (listed other otherMem _).mpr lists⟩
    · rintro ⟨row, rowMem, current, rfl, lists⟩
      have lists := (listed row rowMem _).mp lists
      have named : filled row.policy.resource = true := by
        by_contra isEmpty
        have isEmpty : row.policy.resource = "" := by simpa [filled] using isEmpty
        rw [harmless.unnamed row rowMem current isEmpty] at lists
        cases lists
      by_cases nodup : row.policy.actions.Nodup
      · exact ⟨row, rowMem, current, rfl, named,
          (testBit_weight_iff (accepted row rowMem) nodup entryMem).mpr
            lists⟩
      · obtain ⟨other, otherMem, otherCurrent, same, set⟩ :=
          harmless.lost row rowMem current nodup entry entryMem lists
        exact ⟨other, otherMem, otherCurrent, same, named, set⟩

end Fetched

/-- The row of a policy without conditions. -/
def plainRow (resource : String) (actions : List String) : PolicyRow :=
  ⟨"t", "u", "p", ⟨resource, actions, []⟩⟩

theorem adequate_read_write :
    Adequate (.plain []) 0 [plainRow "files" ["read", "write"]]
        (bitmaskClaim [⟨"files", ["read", "write"], []⟩]) ↔
      RepeatsHarmless (.plain []) 0 [plainRow "files" ["read", "write"]] :=
  adequate_iff (by simp [Accepted, plainRow, validActions]) rfl

/-- A row that lists `read` twice gives `write`. -/
theorem repeated_read_gives_write :
    Accepted (plainRow "files" ["read", "read"]).policy ∧
      validPolicies (.plain []) 0 [plainRow "files" ["read", "read"]] =
        .ok [⟨"files", ["read", "read"], []⟩] ∧
      ¬ Adequate (.plain []) 0 [plainRow "files" ["read", "read"]]
        (bitmaskClaim [⟨"files", ["read", "read"], []⟩]) := by
  refine ⟨by simp [Accepted, plainRow, validActions], rfl, ?_⟩
  intro adequate
  obtain ⟨row, rowMem, -, -, action, actionMem, lists⟩ :=
    (adequate "files" ("write", .write) (by decide)).mp (by decide)
  obtain rfl := List.mem_singleton.mp rowMem
  have isRead : action = "read" := by simpa [plainRow] using actionMem
  rw [isRead] at lists
  revert lists
  decide

theorem gives_fetchUserPolicies {deployment : Deployment} {world : World}
    {db : Connection} {userId tenantId : String}
    {post : List (String × Nat) → World → Prop} :
    App.Gives deployment (fetchUserPolicies db userId tenantId) world post ↔
      ∃ policies, world.currentPolicies deployment db userId tenantId =
        .ok policies ∧ post (bitmaskClaim policies) world := by
  rw [fetchUserPolicies, App.gives_bind, App.gives_validPolicies]
  simp

end PolicyAdequacy

end HexIam
