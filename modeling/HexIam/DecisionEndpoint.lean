import HexIam.Authz
import HexIam.StatementRules

/-!
# The decision endpoint

`check_condition` and `authorize` of the `/decide` route.  The conditions of a
policy are stored under `conditions`, and the query of `check_condition` reads
`condition`, so that it finds NULL in every row of the policy service.  And the
response model of the route takes no answer that is a dictionary.  The endpoint
decides correctly for a token with a policy where a bool is asked for and it
does not come to compare conditions.
-/

namespace HexIam

namespace PyValue

mutual

/-- Python's `first == second`; a bool is the number 0 or 1. -/
def equal : PyValue → PyValue → Bool
  | .none, .none => true
  | .bool first, .bool second => first = second
  | .bool first, .number second => (if first then 1 else 0) = second
  | .number first, .bool second => first = (if second then 1 else 0)
  | .number first, .number second => first = second
  | .text first, .text second => first = second
  | .list first, .list second => equalItems first second
  | .dict first, .dict second =>
      first.length = second.length && equalFields first second
  | .upload first, .upload second => first = second
  | _, _ => false

def equalItems : List PyValue → List PyValue → Bool
  | [], [] => true
  | first :: rest, second :: others =>
      equal first second && equalItems rest others
  | _, _ => false

/-- Every field is in the other dictionary. -/
def equalFields : List (String × PyValue) → List (String × PyValue) → Bool
  | [], _ => true
  | (key, value) :: rest, fields =>
      (fields.lookup key).any (equal value) && equalFields rest fields

end

/-- `(key, value) in fields.items()`. -/
def hasItem (fields : List (String × PyValue)) (entry : String × PyValue) :
    Bool :=
  (fields.lookup entry.1).any entry.2.equal

end PyValue

namespace DecisionEndpoint

/-! ## The query -/

/-- The document that `create_policy` writes. -/
def document (policy : PolicyDoc) : PyValue :=
  .dict [("resource", .text policy.resource),
    ("actions", .list (policy.actions.map .text)),
    ("conditions", .dict policy.conditions)]

/-- `document -> key` in SQL. -/
def arrow (key : String) : PyValue → Option PyValue
  | .dict fields => fields.lookup key
  | _ => none

/-- `document - key` in SQL. -/
def minus (key : String) : PyValue → Except Exn PyValue
  | .dict fields => .ok (.dict (fields.filter fun field => field.1 ≠ key))
  | .list items => .ok (.list (items.filter fun item => !item.equal (.text key)))
  | _ => .error (.database "cannot delete from scalar")

/-- The rows that `auth_fetch_user_condition` selects. -/
def conditionRows (world : World) (db : Connection)
    (userId tenantId resource : String) : List PolicyRow :=
  world.userPolicies.select fun row => row.userId = userId &&
    row.tenantId = tenantId && row.policy.resource = resource &&
    db.sees row.tenantId

/-- `auth_fetch_user_condition` through `fetchval`: the first row, or `None`. -/
def fetchUserCondition (world : World) (db : Connection)
    (userId tenantId resource : String) : Except Exn (Option PyValue) :=
  match (conditionRows world db userId tenantId resource).head? with
  | none => .ok none
  | some row =>
      match arrow "condition" (document row.policy) with
      | none => .ok none
      | some condition => (minus "validity_time" condition).map some

/-! ## `check_condition` -/

/-- `user_policy.get(resource, 0)`; `None` is no key of a policy. -/
def policyEntry (userPolicy : List (String × Nat)) (resource : Option String) :
    Nat :=
  (resource.bind fun resource => userPolicy.lookup resource).getD 0

/-- What `.items()` iterates over; other values than a dictionary have none.
asyncpg gives a `jsonb` value as its codec decodes it. -/
def items (decodeJsonb : PyValue → PyValue) :
    Option PyValue → Except Exn (List (String × PyValue))
  | none => .error (.other "AttributeError")
  | some value =>
      match decodeJsonb value with
      | .dict fields => .ok fields
      | _ => .error (.other "AttributeError")

/-- The entries that are left to compare. -/
def withoutValidity (requested : List (String × PyValue)) :
    List (String × PyValue) :=
  requested.filter fun entry => entry.1 ≠ "validity_time"

/-- `check_condition`; `none` is a `None`. -/
def checkCondition (decodeJsonb : PyValue → PyValue) (world : World)
    (db : Connection) (conditionsToCompare : List (String × PyValue))
    (resource : Option String) (userPolicy : List (String × Nat))
    (userId tenantId : String) : Except Exn (Option Bool) := do
  match conditionsToCompare.lookup "validity_time" with
  | none => .error (.other "KeyError")
  | some validityTime =>
      if validityTime.truthy then
        if policyEntry userPolicy resource ≠ 0 then
          if conditionsToCompare.length = 1 then
            return some true
          else
            let fetched ← fetchUserCondition world db userId tenantId
              (resource.getD "")
            let toCompare := withoutValidity conditionsToCompare
            let conditions ← items decodeJsonb fetched
            let filtered := conditions.filter (PyValue.hasItem toCompare)
            if toCompare.all fun entry =>
                filtered.any fun held => entry.2.equal held.2 then
              return some true
            else
              .error (.app .authorization
                "Unauthorized action, Reason: condition not satisfied")
        else
          return some false
      else
        return none

/-! ## `authorize` -/

/-- `Authorize`, with what its validator checks.  A JSON object has each key
once. -/
structure Authorize where
  action : String
  resource : Option String
  checkCondition : Bool
  conditionsToCheck : Option (List (String × PyValue))
  grantType : String
  distinct : ∀ conditions ∈ conditionsToCheck, (conditions.map Prod.fst).Nodup
  grantType_mem : grantType ∈ ["fga", "rba"]
  conditions_given : checkCondition = true →
    ∃ conditions, conditionsToCheck = some conditions ∧ conditions ≠ []

/-- The headers that `authorize` reads. -/
structure Headers where
  includePrincipal : Option String
  includePolicy : Option String

/-- `headers.get(name, "false").lower() == "true"`. -/
def isTrue (header : Option String) : Bool :=
  lower (header.getD "false") = "true"

/-- The fields of `_principal_dict` that a verified token has; the others are
`None`.  The policy is set where the request asks for it. -/
structure Principal where
  tenantId : String
  userId : String
  sub : String
  role : Option String
  aud : Option Audience
  iat : Option Int
  exp : Option Int
  policy : Option (Option (List (String × Nat)))

/-- The `data` of an answer. -/
inductive Answer : Type
  | legacy (data : Option Bool)
  | enhanced (allow : Option Bool) (permitted conditionChecked : Bool)
      (conditionResult : Option Bool) (resource : Option String)
      (action : String) (principal : Principal)

/-- The `data` of a legacy answer, and `allow` in an enhanced one. -/
def Answer.decision : Answer → Option Bool
  | .legacy data => data
  | .enhanced allow .. => allow

/-- `_principal_dict`, with the policy that `authorize` may add. -/
def principalDict (user : TokenService.VerifiedTokenData) (includePolicy : Bool) :
    Principal where
  tenantId := user.tenantId
  userId := user.userId
  sub := user.email
  role := user.role
  aud := user.aud
  iat := user.iat
  exp := user.exp
  policy := if includePolicy then some user.policy else none

section Endpoint

variable (decodeJsonb : PyValue → PyValue) (world : World)
variable (dbconnection : Option Connection)
variable (user : TokenService.VerifiedTokenData) (request : Authorize)

/-- `check_permission` on the policy of a token, where `None` has no `get`. -/
def permitted : Except Exn Bool :=
  match user.policy with
  | none => .error (.other "AttributeError")
  | some policy =>
      .ok (request.resource.elim false (checkPermission policy request.action))

/-- The conditions where the request asks for them, through the attribute
`dbconnection` of its state. -/
def conditionResult (permitted : Bool) : Except Exn (Option Bool) :=
  if permitted && request.checkCondition then
    match dbconnection with
    | none => .error (.other "AttributeError")
    | some db => checkCondition decodeJsonb world db
        (request.conditionsToCheck.getD []) request.resource
        (user.policy.getD []) user.userId user.tenantId
  else .ok none

/-- `authorize`. -/
def authorize (headers : Headers) : Except Exn Answer := do
  if request.grantType = "fga" then
    let isPermitted ← permitted user request
    let result ← conditionResult decodeJsonb world dbconnection user request
      isPermitted
    if !isTrue headers.includePrincipal then
      return .legacy (if request.checkCondition && isPermitted then result
        else some isPermitted)
    else
      return .enhanced
        (if !request.checkCondition then some isPermitted
          else if isPermitted then result else some false)
        isPermitted request.checkCondition result request.resource request.action
        (principalDict user (isTrue headers.includePolicy))
  else
    .error (.app .businessValidation
      ("Unsupported grant type: grant_type '" ++ request.grantType ++
        "' not supported"))

end Endpoint

/-! ## The response model -/

/-- A field of a pydantic model, the values it takes and whether a dictionary
has to give it. -/
structure ModelField where
  name : String
  required : Bool
  takes : PyValue → Bool

/-- A model reads its fields from a dictionary, and ignores other keys. -/
def takesModel (fields : List ModelField) : PyValue → Bool
  | .dict given => fields.all fun field =>
      (given.lookup field.name).elim (!field.required) field.takes
  | _ => false

/-- `bool`, of the values that an answer has. -/
def isBool : PyValue → Bool
  | .bool _ => true
  | _ => false

/-- `str` and `str | UUID`. -/
def isText : PyValue → Bool
  | .text _ => true
  | _ => false

/-- `dict`. -/
def isDict : PyValue → Bool
  | .dict _ => true
  | _ => false

/-- `int | str | datetime`. -/
def isTime : PyValue → Bool
  | .number _ | .text _ => true
  | _ => false

/-- `Optional[…]`. -/
def isOptional (takes : PyValue → Bool) : PyValue → Bool
  | .none => true
  | value => takes value

/-- The fields of `Principal`.  An `Optional` without a default has to be given.
`EmailStr` takes fewer texts, but no answer gives an `email`. -/
def principalFields : List ModelField :=
  [⟨"sub", true, isText⟩, ⟨"email", true, isText⟩, ⟨"tenant_id", true, isText⟩,
    ⟨"policy", true, isOptional isDict⟩, ⟨"role", true, isText⟩,
    ⟨"user_id", true, isText⟩, ⟨"exp", true, isTime⟩, ⟨"iat", true, isTime⟩,
    ⟨"aud", true, isText⟩]

/-- The fields of `AuthzResponse`. -/
def authzResponseFields : List ModelField :=
  [⟨"principal", false, isOptional (takesModel principalFields)⟩,
    ⟨"condition_result", false, isOptional isBool⟩,
    ⟨"policy", false, isOptional isDict⟩,
    ⟨"condition_checked", false, isOptional isDict⟩,
    ⟨"resource", false, isOptional isText⟩, ⟨"action", false, isOptional isText⟩,
    ⟨"permitted", false, isOptional isBool⟩]

/-- `Optional[Union[bool, AuthzResponse]]`, the `data` of the response model. -/
def responseTakes : PyValue → Bool :=
  isOptional fun data => isBool data || takesModel authzResponseFields data

def ofText (value : Option String) : PyValue :=
  value.elim .none .text

def ofBool (value : Option Bool) : PyValue :=
  value.elim .none .bool

def ofTime (value : Option Int) : PyValue :=
  value.elim .none fun time => .number time

def ofAudience : Option Audience → PyValue
  | none => .none
  | some (.one audience) => .text audience
  | some (.many audiences) => .list (audiences.map .text)

def ofPolicy (policy : Option (List (String × Nat))) : PyValue :=
  policy.elim .none fun policy =>
    .dict (policy.map fun entry => (entry.1, .number entry.2))

/-- The dictionary of `_principal_dict`. -/
def Principal.toDict (principal : Principal) : PyValue :=
  .dict ([("tenant_id", .text principal.tenantId), ("user_id", .text principal.userId),
    ("sub", .text principal.sub), ("role", ofText principal.role), ("scope", .none),
    ("aud", ofAudience principal.aud), ("iss", .none), ("iat", ofTime principal.iat),
    ("exp", ofTime principal.exp), ("jti", .none), ("client_id", .none),
    ("grant_type", .none)] ++
      (principal.policy.map fun policy => ("policy", ofPolicy policy)).toList)

/-- The `data` that `authorize` returns. -/
def Answer.data : Answer → PyValue
  | .legacy data => ofBool data
  | .enhanced allow permitted conditionChecked conditionResult resource action
      principal =>
      .dict [("allow", ofBool allow), ("permitted", .bool permitted),
        ("condition_checked", .bool conditionChecked),
        ("condition_result", ofBool conditionResult), ("resource", ofText resource),
        ("action", .text action), ("principal", principal.toDict)]

/-- `POST /decide`: the answer of `authorize` through its response model. -/
def postDecide (decodeJsonb : PyValue → PyValue) (world : World)
    (dbconnection : Option Connection) (user : TokenService.VerifiedTokenData)
    (request : Authorize) (headers : Headers) : Except Exn Answer := do
  let answer ← authorize decodeJsonb world dbconnection user request headers
  if responseTakes answer.data then
    return answer
  else
    .error (.other "ResponseValidationError")

/-! ## The property and the condition -/

section Property

variable (decodeJsonb : PyValue → PyValue) (world : World)
variable (dbconnection : Option Connection)
variable (user : TokenService.VerifiedTokenData) (request : Authorize)

/-- The policy of the token gives the action on the resource. -/
def Gives : Prop :=
  ∃ policy resource, user.policy = some policy ∧ request.resource = some resource ∧
    ∃ entry ∈ permissionMap, entry.1 = lower request.action ∧
      ((policy.lookup resource).getD 0).testBit entry.2.bit = true

/-- Every requested condition other than `validity_time` is stored, under its
key, with a policy of the user for the resource. -/
def ConditionsMet : Prop :=
  ∀ entry ∈ request.conditionsToCheck.getD [], entry.1 ≠ "validity_time" →
    ∃ row ∈ world.userPolicies, row.userId = user.userId ∧
      row.tenantId = user.tenantId ∧ some row.policy.resource = request.resource ∧
      ∃ held ∈ row.policy.conditions, held.1 = entry.1 ∧
        entry.2.equal held.2 = true

/-- The request ends in a decision or an authorization error, it is granted
where it should be, and the two forms of the answer agree as `authorize` makes
them. -/
structure DecidesCorrectly (headers : Headers) : Prop where
  ends :
    (∃ answer decision, postDecide decodeJsonb world dbconnection user request
        headers = .ok answer ∧ answer.decision = some decision) ∨
      ∃ message, postDecide decodeJsonb world dbconnection user request headers =
        .error (.app .authorization message)
  grants :
    (∃ answer, postDecide decodeJsonb world dbconnection user request headers =
        .ok answer ∧ answer.decision = some true) ↔
      Gives user request ∧
        (request.checkCondition = true → ConditionsMet world user request)
  agree : ∀ legacy enhanced, isTrue legacy.includePrincipal = false →
    isTrue enhanced.includePrincipal = true →
    (authorize decodeJsonb world dbconnection user request legacy).map
        Answer.decision =
      (authorize decodeJsonb world dbconnection user request enhanced).map
        Answer.decision

/-- The only condition requested is a `validity_time` that is true. -/
def OnlyValidity : Prop :=
  ∃ value, request.conditionsToCheck = some [("validity_time", value)] ∧
    value.truthy = true

/-- The answer is asked for as a bool.  The token has a policy; and if the policy
gives the action and conditions are requested, then the state has a
`dbconnection` and `validity_time` is all there is to check. -/
def Answerable (headers : Headers) : Prop :=
  isTrue headers.includePrincipal = false ∧ user.policy.isSome = true ∧
    (Gives user request → request.checkCondition = true →
      dbconnection.isSome = true ∧ OnlyValidity request)

end Property

/-! ## The permission -/

section Permission

variable {user : TokenService.VerifiedTokenData} {request : Authorize}

theorem checkPermission_eq_true_iff {policy : List (String × Nat)}
    {name resource : String} :
    checkPermission policy name resource = true ↔
      ∃ entry ∈ permissionMap, entry.1 = lower name ∧
        ((policy.lookup resource).getD 0).testBit entry.2.bit = true := by
  cases found : permissionMap.lookup (lower name) with
  | none =>
      refine iff_of_false (by simp [checkPermission_eq_false found]) ?_
      rintro ⟨entry, entryMem, same, -⟩
      have known := lookup_of_mem_permissionMap entry entryMem
      rw [same, found] at known
      cases known
  | some action =>
      have entryMem := mem_permissionMap_of_lookup found
      have granted : checkPermission policy name resource = true ↔
          ((policy.lookup resource).getD 0).testBit action.bit = true := by
        simp only [checkPermission, found, Option.map_some, Option.getD_some,
          Action.value_eq_two_pow, Nat.and_two_pow]
        cases Nat.testBit _ _ <;> simp
      rw [granted]
      constructor
      · exact fun set => ⟨_, entryMem, rfl, set⟩
      · rintro ⟨entry, otherMem, same, set⟩
        have known := lookup_of_mem_permissionMap entry otherMem
        rw [same, found] at known
        exact Option.some.inj known ▸ set

/-- `check_permission` answers whether the policy gives the action. -/
theorem permitted_eq {policy : List (String × Nat)}
    (hasPolicy : user.policy = some policy) :
    ∃ isPermitted, permitted user request = .ok isPermitted ∧
      (isPermitted = true ↔ Gives user request) := by
  refine ⟨_, by rw [permitted, hasPolicy], ?_⟩
  cases resourceEq : request.resource with
  | none => simp [Gives, resourceEq]
  | some resource =>
      rw [Option.elim_some, checkPermission_eq_true_iff]
      simp only [Gives, hasPolicy, resourceEq, Option.some.injEq,
        exists_and_left, exists_eq_left']

theorem policyEntry_ne_zero {policy : List (String × Nat)}
    (hasPolicy : user.policy = some policy) (gives : Gives user request) :
    policyEntry policy request.resource ≠ 0 := by
  obtain ⟨held, resource, heldEq, resourceEq, entry, -, -, set⟩ := gives
  cases hasPolicy.symm.trans heldEq
  intro isZero
  rw [policyEntry, resourceEq, Option.bind_some] at isZero
  rw [isZero, Nat.zero_testBit] at set
  cases set

end Permission

/-! ## The conditions -/

section Conditions

variable {decodeJsonb : PyValue → PyValue} {world : World} {db : Connection}
variable {requested : List (String × PyValue)} {resource : Option String}
variable {userPolicy : List (String × Nat)} {userId tenantId : String}

/-- The query finds nothing: no document of the policy service has the key. -/
theorem fetchUserCondition_eq {resource : String} :
    fetchUserCondition world db userId tenantId resource = .ok none := by
  unfold fetchUserCondition
  split
  · rfl
  · rfl

/-- With an entry for the resource `check_condition` returns true for a
`validity_time` alone, `None` for one that is false, and fails otherwise. -/
theorem checkCondition_eq (hasEntry : policyEntry userPolicy resource ≠ 0) :
    checkCondition decodeJsonb world db requested resource userPolicy userId
        tenantId =
      match requested.lookup "validity_time" with
      | none => .error (.other "KeyError")
      | some value =>
          if value.truthy then
            if requested.length = 1 then .ok (some true)
            else .error (.other "AttributeError")
          else .ok none := by
  unfold checkCondition
  split
  · rfl
  · simp only [hasEntry, ne_eq, not_false_eq_true, if_true, fetchUserCondition_eq]
    rfl

end Conditions

/-! ## The decision -/

section Decision

variable (decodeJsonb : PyValue → PyValue) (world : World)
variable (dbconnection : Option Connection)
variable (user : TokenService.VerifiedTokenData) (request : Authorize)

/-- The decision in both forms of an answer. -/
def decision : Except Exn (Option Bool) := do
  let isPermitted ← permitted user request
  let result ← conditionResult decodeJsonb world dbconnection user request
    isPermitted
  return if request.checkCondition && isPermitted then result else some isPermitted

variable {decodeJsonb} {world} {dbconnection} {user} {request}

theorem authorize_decision (fga : request.grantType = "fga") (headers : Headers) :
    (authorize decodeJsonb world dbconnection user request headers).map
        Answer.decision =
      decision decodeJsonb world dbconnection user request := by
  unfold authorize decision
  rw [if_pos fga]
  cases permitted user request with
  | error error => rfl
  | ok isPermitted =>
      change (conditionResult decodeJsonb world dbconnection user request
        isPermitted >>= _).map _ = conditionResult decodeJsonb world dbconnection
          user request isPermitted >>= _
      cases conditionResult decodeJsonb world dbconnection user request
          isPermitted with
      | error error => rfl
      | ok result =>
          change Except.map _ (ite _ _ _) = Except.ok _
          cases isTrue headers.includePrincipal <;>
            cases request.checkCondition <;> cases isPermitted <;> rfl

theorem map_eq_ok_iff {answers : Except Exn Answer} {value : Option Bool} :
    answers.map Answer.decision = .ok value ↔
      ∃ answer, answers = .ok answer ∧ answer.decision = value := by
  cases answers <;> simp [Except.map]

theorem map_eq_error_iff {answers : Except Exn Answer} {error : Exn} :
    answers.map Answer.decision = .error error ↔ answers = .error error := by
  cases answers <;> simp [Except.map]

theorem responseTakes_legacy (data : Option Bool) :
    responseTakes (Answer.legacy data).data = true := by
  cases data <;> rfl

/-- The response model takes no dictionary of `authorize`, which has a bool as its
`condition_checked`. -/
theorem responseTakes_enhanced (allow : Option Bool)
    (permitted conditionChecked : Bool) (conditionResult : Option Bool)
    (resource : Option String) (action : String) (principal : Principal) :
    responseTakes (Answer.enhanced allow permitted conditionChecked conditionResult
      resource action principal).data = false := by
  have fieldMem : (⟨"condition_checked", false, isOptional isDict⟩ : ModelField) ∈
      authzResponseFields := by
    simp [authzResponseFields]
  refine Bool.eq_false_iff.mpr fun takes => ?_
  have takesBool : isOptional isDict (.bool conditionChecked) = true :=
    List.all_eq_true.mp takes _ fieldMem
  cases takesBool

theorem authorize_ok_cases {headers : Headers} {answer : Answer}
    (answered : authorize decodeJsonb world dbconnection user request headers =
      .ok answer) :
    (isTrue headers.includePrincipal = false ∧ ∃ data, answer = .legacy data) ∨
      isTrue headers.includePrincipal = true ∧ responseTakes answer.data = false := by
  unfold authorize at answered
  split at answered
  case isFalse => cases answered
  obtain ⟨isPermitted, -, answered⟩ := except_bind_eq_ok.mp answered
  obtain ⟨result, -, answered⟩ := except_bind_eq_ok.mp answered
  cases form : isTrue headers.includePrincipal with
  | false =>
      rw [form] at answered
      cases answered
      exact .inl ⟨rfl, _, rfl⟩
  | true =>
      rw [form] at answered
      cases answered
      exact .inr ⟨rfl, responseTakes_enhanced _ _ _ _ _ _ _⟩

/-- In the legacy form every answer passes the response model. -/
theorem postDecide_of_legacy {headers : Headers}
    (isLegacy : isTrue headers.includePrincipal = false) :
    postDecide decodeJsonb world dbconnection user request headers =
      authorize decodeJsonb world dbconnection user request headers := by
  unfold postDecide
  cases answered : authorize decodeJsonb world dbconnection user request headers with
  | error error => rfl
  | ok answer =>
      rcases authorize_ok_cases answered with ⟨-, data, rfl⟩ | ⟨isEnhanced, -⟩
      · exact if_pos (responseTakes_legacy data)
      · cases isLegacy.symm.trans isEnhanced

/-- In the enhanced form none does. -/
theorem postDecide_of_enhanced {headers : Headers}
    (isEnhanced : isTrue headers.includePrincipal = true) :
    ∃ error, postDecide decodeJsonb world dbconnection user request headers =
        .error error ∧
      (authorize decodeJsonb world dbconnection user request headers = .error error ∨
        error = .other "ResponseValidationError") := by
  unfold postDecide
  cases answered : authorize decodeJsonb world dbconnection user request headers with
  | error error => exact ⟨error, rfl, .inl rfl⟩
  | ok answer =>
      rcases authorize_ok_cases answered with ⟨isLegacy, -⟩ | ⟨-, refused⟩
      · cases isLegacy.symm.trans isEnhanced
      · exact ⟨_, if_neg (Bool.eq_false_iff.mp refused), .inr rfl⟩

/-- Which bool is answered does not depend on the other headers. -/
theorem decidesCorrectly_iff (fga : request.grantType = "fga") {headers : Headers}
    (isLegacy : isTrue headers.includePrincipal = false) :
    DecidesCorrectly decodeJsonb world dbconnection user request headers ↔
      ((∃ granted, decision decodeJsonb world dbconnection user request =
            .ok (some granted)) ∨
          ∃ message, decision decodeJsonb world dbconnection user request =
            .error (.app .authorization message)) ∧
        (decision decodeJsonb world dbconnection user request = .ok (some true) ↔
          Gives user request ∧
            (request.checkCondition = true → ConditionsMet world user request)) := by
  have same := @authorize_decision decodeJsonb world dbconnection user request fga
  have posted := @postDecide_of_legacy decodeJsonb world dbconnection user request
    headers isLegacy
  have ends_iff :
      ((∃ answer decision, postDecide decodeJsonb world dbconnection user request
          headers = .ok answer ∧ answer.decision = some decision) ∨
        ∃ message, postDecide decodeJsonb world dbconnection user request headers =
          .error (.app .authorization message)) ↔
      (∃ granted, decision decodeJsonb world dbconnection user request =
          .ok (some granted)) ∨
        ∃ message, decision decodeJsonb world dbconnection user request =
          .error (.app .authorization message) := by
    simp only [posted, ← same headers, map_eq_ok_iff, map_eq_error_iff]
    exact or_congr_left exists_comm
  have grants_iff :
      (∃ answer, postDecide decodeJsonb world dbconnection user request headers =
          .ok answer ∧ answer.decision = some true) ↔
        decision decodeJsonb world dbconnection user request = .ok (some true) := by
    rw [posted, ← same headers, map_eq_ok_iff]
  constructor
  · intro correct
    exact ⟨ends_iff.mp correct.ends, grants_iff.symm.trans correct.grants⟩
  · rintro ⟨ends, grants⟩
    refine ⟨ends_iff.mpr ends, grants_iff.trans grants, fun legacy enhanced _ _ => ?_⟩
    rw [same legacy, same enhanced]

/-- A condition on a `validity_time` alone is met by every set of rows. -/
theorem conditionsMet_of_onlyValidity (only : OnlyValidity request) :
    ConditionsMet world user request := by
  obtain ⟨value, requestedEq, -⟩ := only
  intro entry entryMem other
  rw [requestedEq] at entryMem
  cases List.mem_singleton.mp entryMem
  exact absurd rfl other

/-- The entries of a request with one key. -/
theorem onlyValidity_iff {requested : List (String × PyValue)}
    (requestedEq : request.conditionsToCheck = some requested) :
    OnlyValidity request ↔ ∃ value, requested.lookup "validity_time" = some value ∧
      value.truthy = true ∧ requested.length = 1 := by
  unfold OnlyValidity
  rw [requestedEq]
  constructor
  · rintro ⟨value, isOnly, holds⟩
    cases isOnly
    exact ⟨value, rfl, holds, rfl⟩
  · rintro ⟨value, named, holds, single⟩
    obtain ⟨entry, rfl⟩ := List.length_eq_one_iff.mp single
    obtain ⟨front, back, split, -⟩ := List.lookup_eq_some_iff.mp named
    have entryMem : ("validity_time", value) ∈ [entry] := by
      rw [split]
      exact List.mem_append_right front List.mem_cons_self
    exact ⟨value, by rw [List.mem_singleton.mp entryMem], holds⟩

theorem decision_of_not_gives {policy : List (String × Nat)}
    (hasPolicy : user.policy = some policy) (denied : ¬ Gives user request) :
    decision decodeJsonb world dbconnection user request = .ok (some false) := by
  obtain ⟨isPermitted, permittedEq, gives_iff⟩ :=
    @permitted_eq user request policy hasPolicy
  have isFalse : isPermitted = false := Bool.eq_false_iff.mpr (mt gives_iff.mp denied)
  subst isFalse
  rw [decision, permittedEq]
  cases request.checkCondition <;> rfl

theorem decision_of_unchecked {policy : List (String × Nat)}
    (hasPolicy : user.policy = some policy) (gives : Gives user request)
    (unchecked : request.checkCondition = false) :
    decision decodeJsonb world dbconnection user request = .ok (some true) := by
  obtain ⟨isPermitted, permittedEq, gives_iff⟩ :=
    @permitted_eq user request policy hasPolicy
  cases gives_iff.mpr gives
  rw [decision, permittedEq]
  change (conditionResult decodeJsonb world dbconnection user request true >>= _) = _
  unfold conditionResult
  rw [unchecked]
  rfl

theorem decision_of_checked {policy : List (String × Nat)}
    {requested : List (String × PyValue)} (hasPolicy : user.policy = some policy)
    (gives : Gives user request)
    (checked : request.checkCondition = true)
    (requestedEq : request.conditionsToCheck = some requested) :
    decision decodeJsonb world dbconnection user request =
      match dbconnection, requested.lookup "validity_time" with
      | none, _ => .error (.other "AttributeError")
      | some _, none => .error (.other "KeyError")
      | some _, some value =>
          if value.truthy then
            if requested.length = 1 then .ok (some true)
            else .error (.other "AttributeError")
          else .ok none := by
  obtain ⟨isPermitted, permittedEq, gives_iff⟩ :=
    @permitted_eq user request policy hasPolicy
  cases gives_iff.mpr gives
  have hasEntry := policyEntry_ne_zero hasPolicy gives
  have resultEq : decision decodeJsonb world dbconnection user request =
      conditionResult decodeJsonb world dbconnection user request true := by
    rw [decision, permittedEq]
    change (conditionResult decodeJsonb world dbconnection user request true >>=
      fun result => .ok (if request.checkCondition && true then result
        else some true)) = _
    rw [checked]
    cases conditionResult decodeJsonb world dbconnection user request true <;> rfl
  rw [resultEq]
  unfold conditionResult
  rw [checked]
  cases dbconnection with
  | none => rfl
  | some db =>
      change checkCondition decodeJsonb world db _ _ _ _ _ = _
      rw [requestedEq, hasPolicy, Option.getD_some, Option.getD_some,
        checkCondition_eq hasEntry]
      cases requested.lookup "validity_time" <;> rfl

/-- No decision is an authorization error: conditions are never compared. -/
theorem decision_ne_authorization (message : String) :
    decision decodeJsonb world dbconnection user request ≠
      .error (.app .authorization message) := by
  intro refused
  cases policyEq : user.policy with
  | none =>
      rw [decision, permitted, policyEq] at refused
      cases refused
  | some policy =>
      by_cases gives : Gives user request
      case neg =>
        rw [decision_of_not_gives policyEq gives] at refused
        cases refused
      cases checked : request.checkCondition with
      | false =>
          rw [decision_of_unchecked policyEq gives checked] at refused
          cases refused
      | true =>
          obtain ⟨requested, requestedEq, -⟩ := request.conditions_given checked
          rw [decision_of_checked policyEq gives checked requestedEq] at refused
          cases dbconnection with
          | none => cases refused
          | some db =>
              cases named : requested.lookup "validity_time" with
              | none => simp [named] at refused
              | some value =>
                  simp only [named] at refused
                  split at refused
                  · split at refused <;> cases refused
                  · cases refused

end Decision

/-! ## The result -/

/-- The endpoint decides correctly exactly where a bool is asked for, the token
has a policy and, if a permitted request asks for conditions, there is nothing to
compare. -/
theorem decidesCorrectly_iff_answerable (decodeJsonb : PyValue → PyValue)
    (world : World) (dbconnection : Option Connection)
    (user : TokenService.VerifiedTokenData) (request : Authorize)
    (headers : Headers) (fga : request.grantType = "fga") :
    DecidesCorrectly decodeJsonb world dbconnection user request headers ↔
      Answerable dbconnection user request headers := by
  cases form : isTrue headers.includePrincipal with
  | true =>
      refine iff_of_false (fun correct => ?_) fun answerable => ?_
      · obtain ⟨error, failed, source⟩ := @postDecide_of_enhanced decodeJsonb world
          dbconnection user request headers form
        rcases correct.ends with ⟨answer, _, answered, -⟩ | ⟨message, refused⟩
        · cases failed.symm.trans answered
        · cases failed.symm.trans refused
          rcases source with unauthorized | isOther
          · have decided := @authorize_decision decodeJsonb world dbconnection user
              request fga headers
            rw [unauthorized] at decided
            exact decision_ne_authorization message decided.symm
          · cases isOther
      · cases answerable.1.symm.trans form
  | false =>
      rw [decidesCorrectly_iff fga form]
      cases policyEq : user.policy with
      | none =>
          have fails : decision decodeJsonb world dbconnection user request =
              .error (.other "AttributeError") := by
            rw [decision, permitted, policyEq]
            rfl
          simp [fails, Answerable, policyEq]
      | some policy =>
          by_cases gives : Gives user request
          case neg =>
            rw [decision_of_not_gives policyEq gives]
            simp [Answerable, form, policyEq, gives]
          cases checked : request.checkCondition with
          | false =>
              rw [decision_of_unchecked policyEq gives checked]
              simp [Answerable, form, policyEq, gives, checked]
          | true =>
              obtain ⟨requested, requestedEq, -⟩ := request.conditions_given checked
              have only_iff := onlyValidity_iff requestedEq
              rw [decision_of_checked policyEq gives checked requestedEq]
              simp only [Answerable, form, policyEq, gives, checked,
                Option.isSome_some, true_and, forall_const, only_iff]
              cases dbconnection with
              | none => simp
              | some db =>
                  cases named : requested.lookup "validity_time" with
                  | none => simp
                  | some value =>
                      by_cases holds : value.truthy = true
                      case neg => simp [holds]
                      by_cases single : requested.length = 1
                      case neg => simp [holds, single]
                      have met := @conditionsMet_of_onlyValidity world user request
                        (only_iff.mpr ⟨value, named, holds, single⟩)
                      simp [holds, single, met]

/-! ## A stored condition -/

/-- A user of a tenant. -/
def oneUser : World where
  tenants := .single { id := "t" }
  users := .single ⟨"u", "t", "u@t", "password", "U", "T", none, true, true, 0⟩

/-- The user may read documents, in engineering. -/
def engineering : PolicyCreate where
  policyId := "p"
  resource := "documents"
  actions := ["read"]
  conditions := some [("department", .text "engineering")]
  valid := valid_read

/-- `create_policy` has stored the policy. -/
def withPolicy : World :=
  (App.run (.plain []) (createPolicy (.forTenant "t") "t" "u" engineering)
    oneUser).2

/-- A token of the user with the policy. -/
def reader : TokenService.VerifiedTokenData where
  email := "u@t"
  tenantId := "t"
  policy := some [("documents", 1)]
  role := none
  userId := "u"
  exp := none
  iat := none
  aud := none

/-- A request for a decision with a `validity_time`. -/
def timed : Authorize where
  action := "read"
  resource := some "documents"
  checkCondition := true
  conditionsToCheck := some [("validity_time", .bool true)]
  grantType := "fga"
  distinct := by simp
  grantType_mem := by decide
  conditions_given := fun _ => ⟨_, rfl, List.cons_ne_nil _ _⟩

/-- The same request in engineering. -/
def inEngineering : Authorize where
  action := "read"
  resource := some "documents"
  checkCondition := true
  conditionsToCheck := some [("validity_time", .bool true),
    ("department", .text "engineering")]
  grantType := "fga"
  distinct := by simp
  grantType_mem := by decide
  conditions_given := fun _ => ⟨_, rfl, List.cons_ne_nil _ _⟩

/-- The headers of a request without any that `authorize` reads. -/
def noHeaders : Headers :=
  ⟨none, none⟩

/-- Without a condition to compare the request is decided. -/
theorem timed_decides :
    DecidesCorrectly id withPolicy (some (.forTenant "t")) reader timed noHeaders :=
  (decidesCorrectly_iff_answerable id withPolicy (some (.forTenant "t")) reader
    timed noHeaders rfl).mpr ⟨by decide, rfl, fun _ _ => ⟨rfl, .bool true, rfl, rfl⟩⟩

/-- With the condition that is stored the request fails, with and without a
`dbconnection`, which no code of the service sets. -/
theorem stored_condition_fails :
    Gives reader inEngineering ∧ ConditionsMet withPolicy reader inEngineering ∧
      ∀ dbconnection ∈ [none, some (.forTenant "t")],
        ¬ DecidesCorrectly id withPolicy dbconnection reader inEngineering
          noHeaders := by
  refine ⟨⟨_, _, rfl, rfl, ("read", .read), by decide, by decide, rfl⟩, ?_, ?_⟩
  · intro entry entryMem other
    have stored : (⟨"t", "u", "p", ⟨"documents", ["read"],
        [("department", .text "engineering")]⟩⟩ : PolicyRow) ∈
          withPolicy.userPolicies := List.mem_cons_self
    rcases List.mem_cons.mp entryMem with rfl | entryMem
    · exact absurd rfl other
    · cases List.mem_singleton.mp entryMem
      exact ⟨_, stored, rfl, rfl, rfl, _, List.mem_cons_self, rfl, by decide⟩
  · intro dbconnection isOne correct
    have fails : postDecide id withPolicy dbconnection reader inEngineering
        noHeaders = .error (.other "AttributeError") := by
      rcases List.mem_cons.mp isOne with rfl | isOne
      · rfl
      · cases List.mem_singleton.mp isOne
        rfl
    rcases correct.ends with ⟨_, _, answered, -⟩ | ⟨_, refused⟩
    · cases fails.symm.trans answered
    · cases fails.symm.trans refused

end DecisionEndpoint

end HexIam
