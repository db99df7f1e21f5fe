import HexIam.ConsentBinding
import HexIam.LikePattern
import Mathlib.Algebra.Group.Nat.Defs
import Mathlib.Data.List.Sort

/-!
# The read endpoints of a tenant

`list_tenant_users`, `get_user_by_id` and `get_all_tenant_policies` with their
queries.  The queries name no tenant: row-level security filters `users` and
`user_policies` by `app.tenant_id`.  Rows with the same time come in the order
of the table.
-/

namespace HexIam

open LikePattern

/-! ## Tables -/

/-- A row of `users` with the times the endpoints show. -/
structure MemberRow extends UserRow where
  createdAt : Option Int
  lastLogin : Option Int
  deriving DecidableEq, Repr

/-- A row of `user_policies` with the times the endpoint shows. -/
structure AssignmentRow extends PolicyRow where
  createdAt : Option Int
  lastModified : Option Int

abbrev MemberTable := KeyedTable MemberRow fun row => row.id
abbrev AssignmentTable := KeyedTable AssignmentRow fun row => row.key

/-- The tables the endpoints read, with their constraints. -/
structure ReadState where
  users : MemberTable
  userPolicies : AssignmentTable
  clients : ClientTable
  emails : (users.rows.map fun row => (row.tenantId, row.email)).Nodup
  references : ∀ assignment ∈ userPolicies.rows,
    ∃ member ∈ users.rows, member.id = assignment.userId

/-! ## Requests and responses -/

/-- Query parameters `page` and `page_size` that FastAPI lets through. -/
structure Paging where
  page : Nat
  pageSize : Nat
  pagePositive : 1 ≤ page
  sizePositive : 1 ≤ pageSize
  sizeBounded : pageSize ≤ 100

/-- The read endpoints with their parameters. -/
inductive ReadEndpoint : Type
  | listTenantUsers (paging : Paging) (search : Option String)
  | getUserById (userId : String)
  | listAllTenantPolicies (paging : Paging)

/-- A request for one of them.  A form without `client_id` names the empty
client. -/
structure ReadRequest where
  authorization : Option String := none
  tenantHeader : Option String := none
  queryClientId : Option String := none
  formClientId : String := ""
  endpoint : ReadEndpoint

/-- `UserResponse`. -/
structure UserResponse where
  id : String
  email : String
  firstName : String
  lastName : String
  fullName : String
  role : Option String
  isActive : Bool
  createdAt : Option Int
  emailVerified : Option Bool := none
  lastLogin : Option Int := none

/-- `PaginationInfo`. -/
structure PaginationInfo where
  page : Nat
  pageSize : Nat
  totalItems : Nat
  totalPages : Nat

/-- `TenantPolicyListItemResponse`. -/
structure TenantPolicyListItem where
  policyId : String
  userId : String
  userEmail : String
  tenantId : String
  resource : String
  actions : List String
  conditions : List (String × PyValue)
  createdAt : Option Int
  lastModified : Option Int

/-- What the endpoints answer. -/
inductive ReadResponse : Type
  | users (users : List UserResponse) (pagination : PaginationInfo)
      (message : String)
  | user (user : UserResponse)
  | policies (policies : List TenantPolicyListItem) (pagination : PaginationInfo)
      (message : String)
  | notFound (resource : String)
  | raised (error : Exn)

/-! ## Queries -/

/-- `ORDER BY created_at DESC`, where a null comes first. -/
def newestFirst (first second : Option Int) : Bool :=
  match first, second with
  | none, _ => true
  | some _, none => false
  | some first, some second => second ≤ first

/-- The parameter `$n` of a `bigint`. -/
def bindBigint (value : Nat) : Except Exn Nat :=
  if value < 2 ^ 63 then .ok value
  else .error (.database "DataError: value out of int64 range")

namespace ReadState

variable (fold : Char → Char) (db : Connection) (state : ReadState)

/-- The rows of `users` that a connection sees. -/
def visibleUsers : List MemberRow :=
  state.users.select fun row => db.sees row.tenantId

/-- The rows of `user_policies` that a connection sees. -/
def visiblePolicies : List AssignmentRow :=
  state.userPolicies.select fun row => db.sees row.tenantId

/-- `user_count_search` and `user_list_search_paginated` before the count and
the page: the pattern is the search text between two percent signs. -/
def searchUsers (search : String) (rows : List MemberRow) : List MemberRow :=
  let pattern := ("%" ++ search ++ "%").toList
  rows.filter fun row =>
    matchesLike fold pattern row.email.toList ||
      matchesLike fold pattern row.firstName.toList ||
      matchesLike fold pattern row.lastName.toList

/-- The join of `policy_list_tenant_paginated`. -/
def joinEmails (users : List MemberRow) (policies : List AssignmentRow) :
    List (AssignmentRow × String) :=
  policies.filterMap fun assignment =>
    (users.find? fun member => member.id = assignment.userId).map
      fun member => (assignment, member.email)

end ReadState

/-! ## Handlers -/

/-- The pagination of a total. -/
def Paging.info (paging : Paging) (total : Nat) : PaginationInfo where
  page := paging.page
  pageSize := paging.pageSize
  totalItems := total
  totalPages := (total + paging.pageSize - 1) / paging.pageSize

/-- `(page - 1) * page_size`. -/
def Paging.offset (paging : Paging) : Nat :=
  (paging.page - 1) * paging.pageSize

/-- A page of sorted rows. -/
def Paging.pageOf {Row : Type} (paging : Paging) (offset : Nat)
    (createdAt : Row → Option Int) (rows : List Row) : List Row :=
  ((rows.mergeSort fun first second =>
    newestFirst (createdAt first) (createdAt second)).drop offset).take
      paging.pageSize

/-- A row of the list of users. -/
def MemberRow.listed (row : MemberRow) : UserResponse where
  id := row.id
  email := row.email
  firstName := row.firstName
  lastName := row.lastName
  fullName := row.firstName ++ " " ++ row.lastName
  role := row.role
  isActive := row.isActive
  createdAt := row.createdAt

/-- The details of a user. -/
def MemberRow.details (row : MemberRow) : UserResponse :=
  { row.listed with
    emailVerified := some row.emailVerified
    lastLogin := row.lastLogin }

/-- A row of the list of policies. -/
def AssignmentRow.listed (row : AssignmentRow × String) : TenantPolicyListItem where
  policyId := row.1.policyId
  userId := row.1.userId
  userEmail := row.2
  tenantId := row.1.tenantId
  resource := row.1.policy.resource
  actions := row.1.policy.actions
  conditions := row.1.policy.conditions
  createdAt := row.1.createdAt
  lastModified := row.1.lastModified

section Handlers

variable (fold : Char → Char)

/-- `list_tenant_users`. -/
def listTenantUsers (users : List MemberRow) (paging : Paging)
    (search : Option String) : ReadResponse :=
  let rows := if given search then
    ReadState.searchUsers fold (search.getD "") users else users
  match bindBigint paging.offset with
  | .error error => .raised error
  | .ok offset =>
      .users ((paging.pageOf offset MemberRow.createdAt rows).map MemberRow.listed)
        (paging.info rows.length) ("Found " ++ toString rows.length ++ " users")

/-- `get_user_by_id`. -/
def getUserById (users : List MemberRow) (userId : String) : ReadResponse :=
  match users.find? fun row => row.id = userId with
  | none => .notFound ("User '" ++ userId ++ "'")
  | some row => .user row.details

/-- `list_all_tenant_policies`, which calls `get_all_tenant_policies`. -/
def listAllTenantPolicies (users : List MemberRow)
    (policies : List AssignmentRow) (paging : Paging) : ReadResponse :=
  match bindBigint paging.offset with
  | .error error => .raised error
  | .ok offset =>
      .policies ((paging.pageOf offset (fun row => row.1.createdAt)
          (ReadState.joinEmails users policies)).map AssignmentRow.listed)
        (paging.info policies.length)
        ("Found " ++ toString policies.length ++ " policies")

/-- The handler of an endpoint on the rows its connection sees. -/
def ReadEndpoint.handle (users : List MemberRow)
    (policies : List AssignmentRow) : ReadEndpoint → ReadResponse
  | .listTenantUsers paging search => HexIam.listTenantUsers fold users paging search
  | .getUserById userId => HexIam.getUserById users userId
  | .listAllTenantPolicies paging =>
      HexIam.listAllTenantPolicies users policies paging

end Handlers

/-- The connection that `get_database_pool` gives a request. -/
def ReadRequest.connection (deployment : Deployment) (state : ReadState)
    (request : ReadRequest) : Except Exn Connection :=
  (App.run deployment (getDatabasePool request.tenantHeader request.queryClientId
    (.text request.formClientId)) { clients := state.clients }).1

/-- The answer to a request: its connection, its token, then its handler. -/
def respond (fold : Char → Char) (deployment : Deployment)
    (cache : TokenService.VerifyCache) (now : Int) (state : ReadState)
    (request : ReadRequest) : ReadResponse :=
  match request.connection deployment state with
  | .error error => .raised error
  | .ok db =>
      match (deployment.tokens.verifyAndReturnJwtPayload cache
          request.authorization now).1 with
      | .error error => .raised error
      | .ok _ => request.endpoint.handle fold (state.visibleUsers db)
          (state.visiblePolicies db)

end HexIam
