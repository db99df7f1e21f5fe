import HexIam.SessionService
import Mathlib.Algebra.GroupWithZero.Nat

/-!
# Policies

The action bits of `models.authz`, the policy claims built from them, and the
functions of `policy_service` that write `user_policies`.  Two of these revoke
the sessions of the user whose policy they narrow.
-/

namespace HexIam

/-! ## Actions -/

/-- `Action`. -/
inductive Action : Type
  | read
  | write
  | delete
  | approve
  | reject
  | execute
  | assign
  | manage
  | export
  | import
  | activate
  | archive
  deriving DecidableEq, Repr

namespace Action

/-- The bit of an action. -/
def value : Action → Nat
  | read => 1 <<< 0
  | write => 1 <<< 1
  | delete => 1 <<< 2
  | approve => 1 <<< 3
  | reject => 1 <<< 4
  | execute => 1 <<< 5
  | assign => 1 <<< 6
  | manage => 1 <<< 7
  | «export» => 1 <<< 8
  | «import» => 1 <<< 9
  | activate => 1 <<< 10
  | archive => 1 <<< 11

/-- `Action.__members__`. -/
def members : List (String × Action) :=
  [("READ", read), ("WRITE", write), ("DELETE", delete), ("APPROVE", approve),
    ("REJECT", reject), ("EXECUTE", execute), ("ASSIGN", assign),
    ("MANAGE", manage), ("EXPORT", «export»), ("IMPORT", «import»),
    ("ACTIVATE", activate), ("ARCHIVE", archive)]

/-- `Action[name]`, or `none` for its `KeyError`. -/
def named (name : String) : Option Action :=
  members.lookup name

end Action

/-! ## The policy claim -/

/-- `dictionary[key] = value`. -/
def setEntry (key : String) (value : Nat) :
    List (String × Nat) → List (String × Nat)
  | [] => [(key, value)]
  | (held, old) :: rest =>
      if held = key then (held, value) :: rest
      else (held, old) :: setEntry key value rest

/-- `sum(Action[a.upper()] for a in actions)`. -/
def actionSum : List String → Except Exn Nat
  | [] => .ok 0
  | action :: rest =>
      match Action.named (upper action) with
      | none => .error (.other "KeyError")
      | some found => do
          let others ← actionSum rest
          return found.value + others

/-- `{p["resource"]: sum(Action[a.upper()] for a in p["actions"]) for p in
policies}`, continuing a dictionary. -/
def policyClaim :
    List PolicyDoc → List (String × Nat) → Except Exn (List (String × Nat))
  | [], claim => .ok claim
  | policy :: rest, claim => do
      let bits ← actionSum policy.actions
      policyClaim rest (setEntry policy.resource bits claim)

/-- The bits of the actions that exist, as `fetch_user_policies` adds them. -/
def knownActionSum (actions : List String) : Nat :=
  ((actions.filterMap fun action => Action.named (upper action)).map
    Action.value).sum

/-- The dictionary of `fetch_user_policies`. -/
def bitmaskClaim (policies : List PolicyDoc) : List (String × Nat) :=
  policies.foldl (fun claim policy =>
    if filled policy.resource && !policy.actions.isEmpty then
      setEntry policy.resource ((claim.lookup policy.resource).getD 0 |||
        knownActionSum policy.actions) claim
    else claim) []

/-! ## Requests -/

/-- `valid_actions`. -/
def validActions : List String :=
  ["read", "write", "delete", "approve", "reject", "execute", "assign",
    "manage", "export", "import", "activate", "archive"]

/-- `validate_actions`. -/
def validateActions : List String → Except Exn (List String)
  | [] => .ok []
  | action :: rest =>
      if lower action ∈ validActions then do
        let others ← validateActions rest
        return lower action :: others
      else
        .error (.value ("Invalid action: " ++ action))

/-- `PolicyCreate`, whose actions have passed `validate_actions`. -/
structure PolicyCreate where
  policyId : String
  resource : String
  actions : List String
  conditions : Option (List (String × PyValue))
  valid : ∀ action ∈ actions, action ∈ validActions

/-- `PolicyUpdate`, likewise. -/
structure PolicyUpdate where
  resource : Option String
  actions : Option (List String)
  conditions : Option (List (String × PyValue))
  valid : ∀ held ∈ actions, ∀ action ∈ held, action ∈ validActions

theorem valid_read : ∀ action ∈ ["read"], action ∈ validActions := by
  decide

theorem valid_toRead : ∀ held ∈ some ["read"], ∀ action ∈ held,
    action ∈ validActions := by
  decide

/-- An update that leaves the actions. -/
theorem valid_none : ∀ held ∈ (none : Option (List String)), ∀ action ∈ held,
    action ∈ validActions := by
  decide

theorem mem_of_validateActions {given actions : List String}
    (validated : validateActions given = .ok actions) :
    ∀ action ∈ actions, action ∈ validActions := by
  induction given generalizing actions with
  | nil =>
      cases validated
      simp
  | cons head rest ih =>
      unfold validateActions at validated
      split at validated
      case isFalse => cases validated
      case isTrue isValid =>
        cases restEq : validateActions rest with
        | error error =>
            rw [restEq] at validated
            cases validated
        | ok others =>
            rw [restEq] at validated
            cases validated
            intro action actionMem
            rcases List.mem_cons.mp actionMem with rfl | actionMem
            · exact isValid
            · exact ih restEq action actionMem

/-- A list of strings, as pydantic reads a `List[str]`. -/
def readTexts : List PyValue → Option (List String)
  | [] => some []
  | .text value :: rest => (readTexts rest).map (value :: ·)
  | _ :: _ => none

/-- The value of a key, or a default where the key is missing. -/
def getOr (fields : List (String × PyValue)) (name : String)
    (default : PyValue) : PyValue :=
  ((fields.find? fun field => field.1 = name).map Prod.snd).getD default

/-- `PolicyCreate(..)` on the fields of a template. -/
def PolicyCreate.ofTemplate (fields : List (String × PyValue)) :
    Except Exn PolicyCreate :=
  match PyValue.get fields "policy_id", getOr fields "resource" (.text "*"),
      getOr fields "actions" (.list []) with
  | .text policyId, .text resource, .list items =>
      match readTexts items with
      | none => .error (.value "ValidationError")
      | some actions =>
          match validated : validateActions actions with
          | .error error => .error error
          | .ok actions =>
              let policy (conditions : Option (List (String × PyValue))) :
                  PolicyCreate :=
                ⟨policyId, resource, actions, conditions,
                  mem_of_validateActions validated⟩
              match PyValue.get fields "conditions" with
              | .none => .ok (policy none)
              | .dict conditions => .ok (policy (some conditions))
              | _ => .error (.value "ValidationError")
  | _, _, _ => .error (.value "ValidationError")

/-! ## The service -/

/-- `get_policy_by_id`. -/
def getPolicyById (db : Connection) (tenantId userId policyId : String) :
    App (Option PolicyRow) :=
  ask (.policy db (.single tenantId userId policyId))

/-- `create_policy`. -/
def createPolicy (db : Connection) (tenantId userId : String)
    (policy : PolicyCreate) : App PolicyRow := do
  let row : PolicyRow := {
    tenantId := tenantId
    userId := userId
    policyId := policy.policyId
    policy := ⟨policy.resource, policy.actions, policy.conditions.getD []⟩ }
  let inserted ← ask (.policy db (.insert row))
  if inserted = 0 then
    throw (.app .conflict
      ("Policy '" ++ policy.policyId ++ "' already exists for this user"))
  else
    return row

/-- The error of a policy that does not exist. -/
def policyNotFound (policyId : String) : Exn :=
  .app .notFound ("Policy '" ++ policyId ++ "' not found for this user")

/-- The document `update_policy` writes. -/
def updatedPolicy (existing : PolicyDoc) (updates : PolicyUpdate) :
    PolicyDoc where
  resource := updates.resource.getD existing.resource
  actions := (updates.actions.getD existing.actions).dedup
  conditions := updates.conditions.getD existing.conditions

/-- `resource_changed or actions_removed`: a resource that is not given
differs from every resource. -/
def updateRevokes (existing : PolicyDoc) (updates : PolicyUpdate) : Bool :=
  updates.resource ≠ some existing.resource ||
    existing.actions.any fun action =>
      action ∉ updates.actions.getD existing.actions

/-- `update_policy`. -/
def updatePolicy (worker : Nat) (db : Connection)
    (tenantId userId policyId : String) (updates : PolicyUpdate) :
    App PolicyRow := do
  match ← getPolicyById db tenantId userId policyId with
  | none => throw (policyNotFound policyId)
  | some existing =>
      let row : PolicyRow := {
        tenantId := tenantId
        userId := userId
        policyId := policyId
        policy := updatedPolicy existing.policy updates }
      let _ ← ask (.policy db (.update row))
      if updateRevokes existing.policy updates then
        let _ ← revokeAllSessions worker userId tenantId "bulk_logout" none
        return row
      else
        return row

/-- `delete_policy`. -/
def deletePolicy (worker : Nat) (db : Connection)
    (tenantId userId policyId : String) : App Bool := do
  let deleted ← ask (.policy db (.delete tenantId userId policyId))
  if deleted = 0 then
    throw (policyNotFound policyId)
  else
    let _ ← revokeAllSessions worker userId tenantId "bulk_logout" none
    return true

/-- `assign_policy_to_user`. -/
def assignPolicyToUser (db : Connection) (tenantId userId : String)
    (policy : PolicyCreate) : App PolicyRow := do
  if ← ask (.user db (.existsInTenant userId tenantId)) then
    createPolicy db tenantId userId policy
  else
    throw (.app .notFound
      ("User '" ++ userId ++ "' not found in this tenant"))

/-- `bulk_assign_policy`; its actions are not validated. -/
def bulkAssignPolicy (db : Connection) (tenantId : String)
    (userIds : List String) (policyId resource : String) (actions : List String)
    (conditions : Option (List (String × PyValue))) : App Nat := do
  let policy : PolicyDoc := ⟨resource, actions, conditions.getD []⟩
  let records := userIds.map fun userId =>
    ({ tenantId, userId, policyId, policy } : PolicyRow)
  tryCatch (ask (.policy db (.bulkUpsert records))) fun _ =>
    throw (.app .internal "Bulk assignment failed")
  return userIds.length

/-- `assign_template_to_user`. -/
def assignTemplateToUser (db : Connection) (tenantId templateId userId : String) :
    App PolicyRow := do
  match ← ask (.template db (.byId templateId tenantId)) with
  | none => throw (.app .notFound
      ("Policy template '" ++ templateId ++ "' not found"))
  | some template =>
      let policy ← ofExcept (PolicyCreate.ofTemplate template.policies)
      createPolicy db tenantId userId policy

end HexIam
