import HexIam.TenantReads

/-!
# Isolation of the tenants that read

The tenant of a connection comes from the `X-TENANT-ID` header or from a client
that the request names, and no endpoint compares it with the tenant of the
token.  A response shows rows of the token's tenant only when the two agree.
-/

namespace HexIam

open LikePattern

namespace TenantIsolation

variable {fold : Char → Char} {deployment : Deployment}
  {cache : TokenService.VerifyCache} {now : Int} {tenant : String}
  {state other : ReadState} {request : ReadRequest}

/-! ## States that agree on a tenant -/

/-- Both states have the same rows of the tenant. -/
structure AgreeOn (tenant : String) (state other : ReadState) : Prop where
  users : state.users.select (fun row => row.tenantId = tenant) =
    other.users.select fun row => row.tenantId = tenant
  userPolicies : state.userPolicies.select (fun row => row.tenantId = tenant) =
    other.userPolicies.select fun row => row.tenantId = tenant
  clients : state.clients.select (fun row => row.tenantId = tenant) =
    other.clients.select fun row => row.tenantId = tenant

/-- The client a request names. -/
def namedClient (request : ReadRequest) : String :=
  if given request.queryClientId then request.queryClientId.getD ""
  else request.formClientId

/-- The answer shows no row of another tenant: the page is out of range, or the
user belongs to the tenant of the token. -/
def Blind (tenant : String) (state : ReadState) : ReadEndpoint → Prop
  | .listTenantUsers paging _ => 2 ^ 63 ≤ paging.offset
  | .getUserById userId =>
      ∃ row ∈ state.users, row.id = userId ∧ row.tenantId = tenant
  | .listAllTenantPolicies paging => 2 ^ 63 ≤ paging.offset

/-- The header names the tenant of the token, or the answer is blind; without a
header the named client belongs to the tenant, or none is named. -/
def Confined (tenant : String) (state : ReadState) (request : ReadRequest) : Prop :=
  if given request.tenantHeader then
    request.tenantHeader = some tenant ∨ Blind tenant state request.endpoint
  else if filled (namedClient request) then
    ∃ client ∈ state.clients, client.id = namedClient request ∧
      client.tenantId = tenant
  else True

/-! ## The connection of a request -/

theorem connection_of_header (header : given request.tenantHeader = true) :
    request.connection deployment state =
      .ok (.forTenant (request.tenantHeader.getD "")) := by
  unfold ReadRequest.connection
  rw [ConsentBinding.run_getDatabasePool]
  simp [ConsentBinding.tenantOfForm, header]

theorem connection_of_client (noHeader : given request.tenantHeader = false)
    (named : filled (namedClient request) = true) {client : ClientRow}
    (clientMem : client ∈ state.clients) (idEq : client.id = namedClient request) :
    request.connection deployment state =
      if filled client.tenantId then .ok (.forTenant client.tenantId)
      else .error (.app .businessValidation
        "Tenant ID or valid client_id required") := by
  have found : state.clients.lookup (namedClient request) = some client :=
    KeyedTable.lookup_eq_some.mpr ⟨clientMem, idEq⟩
  unfold namedClient at named found
  unfold ReadRequest.connection
  rw [ConsentBinding.run_getDatabasePool]
  by_cases isFilled : filled client.tenantId = true
  · simp [ConsentBinding.tenantOfForm, noHeader, named, found, isFilled]
  · simp [ConsentBinding.tenantOfForm, noHeader, named, found, isFilled]

theorem connection_of_none (noHeader : given request.tenantHeader = false)
    (unknown : filled (namedClient request) = true →
      ∀ client ∈ state.clients, client.id ≠ namedClient request) :
    request.connection deployment state = .error
      (.app .businessValidation "Tenant ID or valid client_id required") := by
  unfold namedClient at unknown
  unfold ReadRequest.connection
  rw [ConsentBinding.run_getDatabasePool]
  unfold ConsentBinding.tenantOfForm
  dsimp only
  rw [noHeader]
  by_cases named : filled (if given request.queryClientId then
      request.queryClientId.getD "" else request.formClientId) = true
  · have missing := KeyedTable.lookup_eq_none.mpr (unknown named)
    simp [named, missing]
  · simp [named]

/-! ## Confined requests -/

/-- A connection of the tenant sees the same rows in both states. -/
theorem handle_of_agree (agree : AgreeOn tenant state other)
    (endpoint : ReadEndpoint) :
    endpoint.handle fold (state.visibleUsers (.forTenant tenant))
        (state.visiblePolicies (.forTenant tenant)) =
      endpoint.handle fold (other.visibleUsers (.forTenant tenant))
        (other.visiblePolicies (.forTenant tenant)) := by
  have users : state.visibleUsers (.forTenant tenant) =
      other.visibleUsers (.forTenant tenant) := agree.users
  have policies : state.visiblePolicies (.forTenant tenant) =
      other.visiblePolicies (.forTenant tenant) := agree.userPolicies
  rw [users, policies]

theorem respond_of_connection {user : TokenService.VerifiedTokenData}
    (verified : (deployment.tokens.verifyAndReturnJwtPayload cache
      request.authorization now).1 = .ok user) {db : Connection}
    (connected : request.connection deployment state = .ok db) :
    respond fold deployment cache now state request =
      request.endpoint.handle fold (state.visibleUsers db)
        (state.visiblePolicies db) := by
  unfold respond
  simp only [connected, verified]

theorem respond_of_error {error : Exn}
    (failed : request.connection deployment state = .error error) :
    respond fold deployment cache now state request = .raised error := by
  unfold respond
  simp only [failed]

theorem getUserById_of_elsewhere {tenant current userId : String}
    (differs : tenant ≠ current) {row : MemberRow} (rowMem : row ∈ state.users)
    (idEq : row.id = userId) (tenantEq : row.tenantId = tenant) :
    getUserById (state.visibleUsers (.forTenant current)) userId =
      .notFound ("User '" ++ userId ++ "'") := by
  have notFound : (state.visibleUsers (.forTenant current)).find?
      (fun row => row.id = userId) = none := by
    rw [List.find?_eq_none]
    intro held heldMem
    obtain ⟨inTable, seen⟩ := KeyedTable.mem_select.mp heldMem
    have heldTenant : held.tenantId = current := by simpa using seen
    intro same
    have sameRow : held = row := KeyedTable.eq_of_key_eq inTable rowMem
      ((of_decide_eq_true same).trans idEq.symm)
    exact differs (by rw [← tenantEq, ← sameRow, heldTenant])
  unfold getUserById
  rw [notFound]

/-- A blind answer is the same in both states. -/
theorem handle_of_blind (agree : AgreeOn tenant state other) {current : String}
    (differs : tenant ≠ current) {endpoint : ReadEndpoint}
    (blind : Blind tenant state endpoint) :
    endpoint.handle fold (state.visibleUsers (.forTenant current))
        (state.visiblePolicies (.forTenant current)) =
      endpoint.handle fold (other.visibleUsers (.forTenant current))
        (other.visiblePolicies (.forTenant current)) := by
  cases endpoint with
  | listTenantUsers paging search =>
      have tooLarge : ¬ paging.offset < 2 ^ 63 := Nat.not_lt.mpr blind
      simp only [ReadEndpoint.handle, listTenantUsers, bindBigint, tooLarge,
        if_false]
  | getUserById userId =>
      obtain ⟨row, rowMem, idEq, tenantEq⟩ := blind
      have inOwn : row ∈ state.users.select fun row => row.tenantId = tenant :=
        KeyedTable.mem_select.mpr ⟨rowMem, by simpa using tenantEq⟩
      rw [agree.users] at inOwn
      have otherMem := (KeyedTable.mem_select.mp inOwn).1
      simp only [ReadEndpoint.handle]
      rw [getUserById_of_elsewhere differs rowMem idEq tenantEq,
        getUserById_of_elsewhere differs otherMem idEq tenantEq]
  | listAllTenantPolicies paging =>
      have tooLarge : ¬ paging.offset < 2 ^ 63 := Nat.not_lt.mpr blind
      simp only [ReadEndpoint.handle, listAllTenantPolicies, bindBigint, tooLarge,
        if_false]

/-- A confined request is answered alike in both states. -/
theorem respond_of_confined {user : TokenService.VerifiedTokenData}
    (verified : (deployment.tokens.verifyAndReturnJwtPayload cache
      request.authorization now).1 = .ok user)
    (agree : AgreeOn tenant state other)
    (confined : Confined tenant state request) :
    respond fold deployment cache now state request =
      respond fold deployment cache now other request := by
  unfold Confined at confined
  split at confined
  case isTrue header =>
    rw [respond_of_connection verified (connection_of_header header),
      respond_of_connection verified (connection_of_header header)]
    by_cases own : tenant = request.tenantHeader.getD ""
    · rw [← own]
      exact handle_of_agree agree _
    · rcases confined with same | blind
      · rw [same] at own
        exact absurd rfl own
      · exact handle_of_blind agree own blind
  case isFalse noHeader =>
    rw [Bool.not_eq_true] at noHeader
    split at confined
    case isTrue named =>
      obtain ⟨client, clientMem, idEq, tenantEq⟩ := confined
      have inOwn : client ∈ state.clients.select fun row => row.tenantId = tenant :=
        KeyedTable.mem_select.mpr ⟨clientMem, by simpa using tenantEq⟩
      rw [agree.clients] at inOwn
      have otherMem := (KeyedTable.mem_select.mp inOwn).1
      have connected : request.connection deployment state = _ :=
        connection_of_client noHeader named clientMem idEq
      have otherConnected : request.connection deployment other = _ :=
        connection_of_client noHeader named otherMem idEq
      by_cases isFilled : filled client.tenantId = true
      · rw [if_pos isFilled] at connected otherConnected
        rw [respond_of_connection verified connected,
          respond_of_connection verified otherConnected, tenantEq]
        exact handle_of_agree agree _
      · rw [if_neg isFilled] at connected otherConnected
        rw [respond_of_error connected, respond_of_error otherConnected]
    case isFalse unnamed =>
      have noConnection : ∀ state : ReadState,
          request.connection deployment state = .error (.app .businessValidation
            "Tenant ID or valid client_id required") :=
        fun state => connection_of_none noHeader fun named => absurd named unnamed
      rw [respond_of_error (noConnection state), respond_of_error (noConnection other)]

/-! ## States that differ elsewhere -/

theorem exists_fresh (texts : List String) : ∃ text, text ∉ texts := by
  have longest : ∃ bound, ∀ text ∈ texts, text.length ≤ bound := by
    induction texts with
    | nil => exact ⟨0, by simp⟩
    | cons first rest ih =>
        obtain ⟨bound, upTo⟩ := ih
        refine ⟨max first.length bound, ?_⟩
        intro text textMem
        rcases List.mem_cons.mp textMem with rfl | restMem
        · exact le_max_left _ _
        · exact (upTo text restMem).trans (le_max_right _ _)
  obtain ⟨bound, upTo⟩ := longest
  refine ⟨String.ofList (List.replicate (bound + 1) 'x'), ?_⟩
  intro textMem
  have tooLong := upTo _ textMem
  rw [String.length_ofList, List.length_replicate] at tooLong
  omega

/-- Add a user, in place of one with the same id. -/
def setUser (state : ReadState) (row : MemberRow)
    (fresh : (row.tenantId, row.email) ∉
      state.users.rows.map fun held => (held.tenantId, held.email)) :
    ReadState where
  users := {
    rows := state.users.rows.filter (fun held => held.id ≠ row.id) ++ [row]
    distinct := by
      rw [List.map_append, List.map_singleton, List.nodup_append]
      refine ⟨state.users.distinct.sublist (List.filter_sublist.map _),
        List.nodup_singleton _, ?_⟩
      intro id idMem rowId rowIdMem same
      obtain ⟨held, heldMem, rfl⟩ := List.mem_map.mp idMem
      rw [List.mem_singleton.mp rowIdMem] at same
      simpa [same] using (List.mem_filter.mp heldMem).2 }
  userPolicies := state.userPolicies
  clients := state.clients
  emails := by
    rw [List.map_append, List.map_singleton, List.nodup_append]
    refine ⟨state.emails.sublist (List.filter_sublist.map _),
      List.nodup_singleton _, ?_⟩
    intro email emailMem rowEmail rowEmailMem same
    rw [List.mem_singleton.mp rowEmailMem] at same
    subst same
    exact fresh ((List.filter_sublist.map _).subset emailMem)
  references := by
    intro assignment assignmentMem
    obtain ⟨member, memberMem, idEq⟩ := state.references assignment assignmentMem
    by_cases replaced : member.id = row.id
    · exact ⟨row, by simp, replaced.symm.trans idEq⟩
    · refine ⟨member, List.mem_append_left _ (List.mem_filter.mpr ⟨memberMem, ?_⟩),
        idEq⟩
      simpa using replaced

/-- Assign a policy to a user. -/
def addAssignment (state : ReadState) (row : AssignmentRow)
    (fresh : row.key ∉ state.userPolicies.rows.map fun held => held.key)
    (known : ∃ member ∈ state.users.rows, member.id = row.userId) :
    ReadState :=
  { state with
    userPolicies := {
      rows := state.userPolicies.rows ++ [row]
      distinct := by
        rw [List.map_append, List.map_singleton, List.nodup_append]
        refine ⟨state.userPolicies.distinct, List.nodup_singleton _, ?_⟩
        intro key keyMem rowKey rowKeyMem same
        rw [List.mem_singleton.mp rowKeyMem] at same
        exact fresh (same ▸ keyMem) }
    references := by
      intro assignment assignmentMem
      rcases List.mem_append.mp assignmentMem with held | added
      · exact state.references assignment held
      · rw [List.mem_singleton.mp added]
        exact known }

/-- Replace the clients. -/
def withClients (state : ReadState) (clients : ClientTable) : ReadState :=
  { state with clients := clients }

theorem agreeOn_setUser {row : MemberRow} {fresh : (row.tenantId, row.email) ∉
      state.users.rows.map fun held => (held.tenantId, held.email)}
    (elsewhere : row.tenantId ≠ tenant)
    (replaces : ∀ held ∈ state.users, held.id = row.id → held.tenantId ≠ tenant) :
    AgreeOn tenant state (setUser state row fresh) := by
  refine ⟨?_, rfl, rfl⟩
  unfold KeyedTable.select setUser
  dsimp only
  rw [List.filter_append, List.filter_filter]
  have noRow : [row].filter (fun row => row.tenantId = tenant) = [] := by
    simp [elsewhere]
  rw [noRow, List.append_nil]
  apply List.filter_congr
  intro held heldMem
  by_cases own : held.tenantId = tenant
  · have kept : held.id ≠ row.id := fun same => replaces held heldMem same own
    simp [own, kept]
  · simp [own]

theorem agreeOn_addAssignment {row : AssignmentRow}
    {fresh : row.key ∉ state.userPolicies.rows.map fun held => held.key}
    {known : ∃ member ∈ state.users.rows, member.id = row.userId}
    (elsewhere : row.tenantId ≠ tenant) :
    AgreeOn tenant state (addAssignment state row fresh known) := by
  refine ⟨rfl, ?_, rfl⟩
  unfold KeyedTable.select addAssignment
  dsimp only
  rw [List.filter_append]
  have noRow : [row].filter (fun row => row.tenantId = tenant) = [] := by
    simp [elsewhere]
  rw [noRow, List.append_nil]

theorem AgreeOn.trans {third : ReadState} (first : AgreeOn tenant state other)
    (second : AgreeOn tenant other third) : AgreeOn tenant state third :=
  ⟨first.users.trans second.users, first.userPolicies.trans second.userPolicies,
    first.clients.trans second.clients⟩

theorem exists_newUser (state : ReadState) (id tenantId firstName : String) :
    ∃ row : MemberRow, row.id = id ∧ row.tenantId = tenantId ∧
      row.firstName = firstName ∧ (row.tenantId, row.email) ∉
        state.users.rows.map fun held => (held.tenantId, held.email) := by
  obtain ⟨email, fresh⟩ := exists_fresh (state.users.rows.map fun held => held.email)
  refine ⟨{
    id := id
    tenantId := tenantId
    email := email
    password := ""
    firstName := firstName
    lastName := ""
    role := none
    isActive := true
    emailVerified := true
    lastModified := 0
    createdAt := none
    lastLogin := none }, rfl, rfl, rfl, ?_⟩
  intro taken
  obtain ⟨held, heldMem, same⟩ := List.mem_map.mp taken
  exact fresh (List.mem_map.mpr ⟨held, heldMem, congrArg Prod.snd same⟩)

/-- A new user of the connection's tenant comes after those it sees already. -/
theorem visibleUsers_setUser {row : MemberRow} {fresh : (row.tenantId, row.email) ∉
      state.users.rows.map fun held => (held.tenantId, held.email)}
    (newId : row.id ∉ state.users.rows.map fun held => held.id) :
    (setUser state row fresh).visibleUsers (.forTenant row.tenantId) =
      state.visibleUsers (.forTenant row.tenantId) ++ [row] := by
  have allKept : state.users.rows.filter (fun held => held.id ≠ row.id) =
      state.users.rows := by
    rw [List.filter_eq_self]
    intro held heldMem
    have differs : held.id ≠ row.id := fun same =>
      newId (List.mem_map.mpr ⟨held, heldMem, same⟩)
    simpa using differs
  unfold ReadState.visibleUsers KeyedTable.select setUser
  dsimp only
  rw [allKept, List.filter_append]
  simp

/-- One user more that the search finds changes the list. -/
theorem listTenantUsers_append_ne {users : List MemberRow} {row : MemberRow}
    {paging : Paging} {search : Option String} (inRange : paging.offset < 2 ^ 63)
    (found : given search = true → matchesLike fold
      ("%" ++ search.getD "" ++ "%").toList row.firstName.toList = true) :
    listTenantUsers fold users paging search ≠
      listTenantUsers fold (users ++ [row]) paging search := by
  have oneMore : (if given search then
      ReadState.searchUsers fold (search.getD "") (users ++ [row])
      else users ++ [row]) =
        (if given search then ReadState.searchUsers fold (search.getD "") users
          else users) ++ [row] := by
    by_cases searched : given search = true
    · have isFound := found searched
      unfold ReadState.searchUsers
      rw [if_pos searched, if_pos searched, List.filter_append,
        List.filter_cons_of_pos, List.filter_nil]
      simp only [isFound, Bool.or_true, Bool.true_or]
    · rw [if_neg searched, if_neg searched]
  intro same
  simp only [listTenantUsers, bindBigint, inRange, if_true, oneMore] at same
  have totals := congrArg (fun response => match response with
    | ReadResponse.users _ pagination _ => pagination.totalItems
    | _ => 0) same
  simp [Paging.info] at totals

theorem listAllTenantPolicies_append_ne {users others : List MemberRow}
    {policies : List AssignmentRow} {row : AssignmentRow} {paging : Paging}
    (inRange : paging.offset < 2 ^ 63) :
    listAllTenantPolicies users policies paging ≠
      listAllTenantPolicies others (policies ++ [row]) paging := by
  intro same
  simp only [listAllTenantPolicies, bindBigint, inRange, if_true] at same
  have totals := congrArg (fun response => match response with
    | ReadResponse.policies _ pagination _ => pagination.totalItems
    | _ => 0) same
  simp [Paging.info] at totals

/-- Whatever one state answers about a user of another tenant, another state
answers something else. -/
theorem exists_user_ne {userId current : String} (differs : tenant ≠ current)
    (notOwn : ∀ row ∈ state.users, row.id = userId → row.tenantId ≠ tenant) :
    ∃ other, AgreeOn tenant state other ∧
      getUserById (state.visibleUsers (.forTenant current)) userId ≠
        getUserById (other.visibleUsers (.forTenant current)) userId := by
  obtain ⟨firstName, newName⟩ := exists_fresh
    ((state.visibleUsers (.forTenant current)).map fun row => row.firstName)
  obtain ⟨row, idEq, tenantEq, nameEq, fresh⟩ :=
    exists_newUser state userId current firstName
  refine ⟨setUser state row fresh, agreeOn_setUser ?_ ?_, ?_⟩
  · rw [tenantEq]
    exact differs.symm
  · intro held heldMem same
    exact notOwn held heldMem (same.trans idEq)
  · have found : ((setUser state row fresh).visibleUsers
        (.forTenant current)).find? (fun row => row.id = userId) = some row := by
      unfold ReadState.visibleUsers KeyedTable.select setUser
      dsimp only
      rw [List.filter_append, List.find?_append, List.find?_eq_none.mpr]
      · simp [idEq, tenantEq]
      · intro held heldMem
        have kept := (List.mem_filter.mp (List.mem_filter.mp heldMem).1).2
        simpa [idEq] using kept
    intro same
    unfold getUserById at same
    rw [found] at same
    cases before : (state.visibleUsers (.forTenant current)).find?
        (fun row => row.id = userId) with
    | none =>
        rw [before] at same
        cases same
    | some held =>
        rw [before] at same
        have names := congrArg (fun response => match response with
          | ReadResponse.user user => user.firstName
          | _ => "") same
        have heldMem := List.mem_of_find?_eq_some before
        refine newName (List.mem_map.mpr ⟨held, heldMem, ?_⟩)
        rw [← nameEq]
        exact names

/-- Where the header names another tenant and the answer is not blind, some state
with the same rows of the token's tenant answers differently. -/
theorem exists_handle_ne {current : String} (differs : tenant ≠ current)
    {endpoint : ReadEndpoint} (notBlind : ¬ Blind tenant state endpoint) :
    ∃ other, AgreeOn tenant state other ∧
      endpoint.handle fold (state.visibleUsers (.forTenant current))
          (state.visiblePolicies (.forTenant current)) ≠
        endpoint.handle fold (other.visibleUsers (.forTenant current))
          (other.visiblePolicies (.forTenant current)) := by
  obtain ⟨id, newId⟩ := exists_fresh (state.users.rows.map fun held => held.id)
  have noneReplaced : ∀ held ∈ state.users, held.id = id →
      held.tenantId ≠ tenant := fun held heldMem same =>
    absurd (List.mem_map.mpr ⟨held, heldMem, same⟩) newId
  cases endpoint with
  | listTenantUsers paging search =>
      obtain ⟨row, rfl, rfl, nameEq, fresh⟩ := exists_newUser state id current
        (String.ofList (sample ("%" ++ search.getD "" ++ "%").toList))
      refine ⟨setUser state row fresh, agreeOn_setUser differs.symm noneReplaced, ?_⟩
      simp only [ReadEndpoint.handle]
      rw [visibleUsers_setUser newId]
      apply listTenantUsers_append_ne (Nat.lt_of_not_le notBlind)
      intro _
      rw [nameEq, String.toList_ofList]
      exact matchesLike_sample fold _
  | getUserById userId =>
      apply exists_user_ne differs
      intro row rowMem idEq own
      exact notBlind ⟨row, rowMem, idEq, own⟩
  | listAllTenantPolicies paging =>
      obtain ⟨row, rfl, rfl, -, fresh⟩ := exists_newUser state id current ""
      have agree : AgreeOn tenant state (setUser state row fresh) :=
        agreeOn_setUser differs.symm noneReplaced
      have newKey : (row.tenantId, row.id, "p") ∉
          (setUser state row fresh).userPolicies.rows.map fun held => held.key := by
        intro taken
        obtain ⟨held, heldMem, same⟩ := List.mem_map.mp taken
        obtain ⟨member, memberMem, idEq⟩ := state.references held heldMem
        have userEq : held.userId = row.id := congrArg (fun key => key.2.1) same
        exact newId (List.mem_map.mpr ⟨member, memberMem, idEq.trans userEq⟩)
      have known : ∃ member ∈ (setUser state row fresh).users.rows,
          member.id = row.id := ⟨row, by simp [setUser], rfl⟩
      let assignment : AssignmentRow := {
        tenantId := row.tenantId
        userId := row.id
        policyId := "p"
        policy := ⟨"", [], []⟩
        createdAt := none
        lastModified := none }
      refine ⟨addAssignment (setUser state row fresh) assignment newKey known,
        agree.trans (agreeOn_addAssignment differs.symm), ?_⟩
      have policiesEq : (addAssignment (setUser state row fresh) assignment newKey
          known).visiblePolicies (.forTenant row.tenantId) =
            state.visiblePolicies (.forTenant row.tenantId) ++ [assignment] := by
        unfold ReadState.visiblePolicies KeyedTable.select addAssignment setUser
        dsimp only
        rw [List.filter_append]
        simp [assignment]
      simp only [ReadEndpoint.handle]
      rw [policiesEq]
      exact listAllTenantPolicies_append_ne (Nat.lt_of_not_le notBlind)

/-- A handler does not answer that there is no connection. -/
theorem handle_ne_noConnection {users : List MemberRow}
    {policies : List AssignmentRow} {endpoint : ReadEndpoint} {message : String} :
    endpoint.handle fold users policies ≠
      .raised (.app .businessValidation message) := by
  cases endpoint with
  | listTenantUsers paging search =>
      by_cases inRange : paging.offset < 2 ^ 63
      · simp only [ReadEndpoint.handle, listTenantUsers, bindBigint, inRange, if_true]
        nofun
      · simp only [ReadEndpoint.handle, listTenantUsers, bindBigint, inRange,
          if_false]
        nofun
  | getUserById userId =>
      simp only [ReadEndpoint.handle, getUserById]
      split <;> simp
  | listAllTenantPolicies paging =>
      by_cases inRange : paging.offset < 2 ^ 63
      · simp only [ReadEndpoint.handle, listAllTenantPolicies, bindBigint, inRange,
          if_true]
        nofun
      · simp only [ReadEndpoint.handle, listAllTenantPolicies, bindBigint, inRange,
          if_false]
        nofun

/-- The clients without one id, and with another client under it. -/
def replaceClient (clients : ClientTable) (row : ClientRow) : ClientTable where
  rows := clients.rows.filter (fun held => held.id ≠ row.id) ++ [row]
  distinct := by
    rw [List.map_append, List.map_singleton, List.nodup_append]
    refine ⟨clients.distinct.sublist (List.filter_sublist.map _),
      List.nodup_singleton _, ?_⟩
    intro id idMem rowId rowIdMem same
    obtain ⟨held, heldMem, rfl⟩ := List.mem_map.mp idMem
    rw [List.mem_singleton.mp rowIdMem] at same
    simpa [same] using (List.mem_filter.mp heldMem).2

/-- Where a client of another tenant, or no client, is named, some state with
the same rows of the token's tenant answers differently. -/
theorem exists_client_ne {user : TokenService.VerifiedTokenData}
    (verified : (deployment.tokens.verifyAndReturnJwtPayload cache
      request.authorization now).1 = .ok user)
    (noHeader : given request.tenantHeader = false)
    (named : filled (namedClient request) = true)
    (notOwn : ∀ client ∈ state.clients, client.id = namedClient request →
      client.tenantId ≠ tenant) :
    ∃ other, AgreeOn tenant state other ∧
      respond fold deployment cache now state request ≠
        respond fold deployment cache now other request := by
  have keptOwn : ∀ client ∈ state.clients.rows, client.tenantId = tenant →
      client.id ≠ namedClient request := fun client clientMem own same =>
    notOwn client clientMem same own
  by_cases failed : respond fold deployment cache now state request =
      .raised (.app .businessValidation
        "Tenant ID or valid client_id required")
  · let row : ClientRow := {
      id := namedClient request
      tenantId := tenant ++ "x"
      clientSecret := ""
      name := ""
      redirectUris := []
      scopes := []
      isActive := true }
    have elsewhere : ¬ tenant ++ "x" = tenant := by
      intro same
      have lengths := congrArg String.length same
      rw [String.length_append] at lengths
      exact absurd lengths (by simp)
    refine ⟨withClients state (replaceClient state.clients row),
      ⟨rfl, rfl, ?_⟩, ?_⟩
    · unfold KeyedTable.select withClients replaceClient
      dsimp only
      rw [List.filter_append, List.filter_filter]
      have noRow : [row].filter (fun row => row.tenantId = tenant) = [] := by
        simp [row, elsewhere]
      rw [noRow, List.append_nil]
      apply List.filter_congr
      intro client clientMem
      by_cases own : client.tenantId = tenant
      · simp [own, row, keptOwn client clientMem own]
      · simp [own]
    · have rowMem : row ∈ (withClients state
          (replaceClient state.clients row)).clients := by
        change row ∈ _ ++ [row]
        simp
      have isFilled : filled row.tenantId = true := by simp [row, filled]
      have connected : request.connection deployment (withClients state
          (replaceClient state.clients row)) = _ :=
        connection_of_client noHeader named rowMem rfl
      rw [if_pos isFilled] at connected
      rw [failed, respond_of_connection verified connected]
      exact handle_ne_noConnection.symm
  · refine ⟨withClients state (state.clients.delete fun client =>
      client.id = namedClient request), ⟨rfl, rfl, ?_⟩, ?_⟩
    · unfold KeyedTable.select withClients KeyedTable.delete
      dsimp only
      rw [List.filter_filter]
      apply List.filter_congr
      intro client clientMem
      by_cases own : client.tenantId = tenant
      · simp [own, keptOwn client clientMem own]
      · simp [own]
    · have unknown : ∀ client ∈ (withClients state (state.clients.delete
          fun client => client.id = namedClient request)).clients,
          client.id ≠ namedClient request := by
        intro client clientMem
        simpa using (KeyedTable.mem_delete.mp clientMem).2
      rw [respond_of_error (connection_of_none noHeader fun _ => unknown)]
      exact failed

/-- A request is answered alike in all states with the same rows of its token's
tenant exactly when it is confined. -/
theorem noninterference_iff_confined {user : TokenService.VerifiedTokenData}
    (verified : (deployment.tokens.verifyAndReturnJwtPayload cache
      request.authorization now).1 = .ok user) :
    (∀ other, AgreeOn user.tenantId state other →
      respond fold deployment cache now state request =
        respond fold deployment cache now other request) ↔
      Confined user.tenantId state request := by
  constructor
  · intro alike
    by_contra notConfined
    unfold Confined at notConfined
    split at notConfined
    case isTrue header =>
      obtain ⟨otherTenant, notBlind⟩ := not_or.mp notConfined
      obtain ⟨current, headerEq, -⟩ := given_eq_true.mp header
      have differs : user.tenantId ≠ current := by
        intro same
        exact otherTenant (headerEq.trans (congrArg some same.symm))
      obtain ⟨other, agree, ne⟩ := exists_handle_ne differs notBlind
      have same := alike other agree
      rw [respond_of_connection verified (connection_of_header header),
        respond_of_connection verified (connection_of_header header), headerEq]
        at same
      exact ne same
    case isFalse noHeader =>
      split at notConfined
      case isTrue named =>
        have notOwn : ∀ client ∈ state.clients, client.id = namedClient request →
            client.tenantId ≠ user.tenantId := fun client clientMem idEq own =>
          notConfined ⟨client, clientMem, idEq, own⟩
        obtain ⟨other, agree, ne⟩ := exists_client_ne verified
          (Bool.not_eq_true _ ▸ noHeader) named notOwn
        exact ne (alike other agree)
      case isFalse => exact notConfined trivial
  · intro confined other agree
    exact respond_of_confined verified agree confined

/-! ## A header of another tenant -/

/-- A user of a tenant. -/
def member (id tenantId : String) : MemberRow where
  id := id
  tenantId := tenantId
  email := id
  password := ""
  firstName := id
  lastName := ""
  role := none
  isActive := true
  emailVerified := true
  lastModified := 0
  createdAt := none
  lastLogin := none

/-- Ann of tenant `a`, and a user of tenant `b`. -/
def neighbours (id : String) (differs : "ann" ≠ id) : ReadState where
  users := {
    rows := [member "ann" "a", member id "b"]
    distinct := by simpa [member] using differs }
  userPolicies := .empty
  clients := .empty
  emails := by simp [member]
  references := by
    rintro assignment ⟨⟩

/-- A deployment that knows a token of Ann. -/
def knowsAnn : Deployment :=
  .plain [("j.ann-1", {
    sub := some "ann"
    userId := some "ann"
    tenantId := some "a" })]

/-- Ann asks for a user under a tenant header. -/
def asksFor (userId tenantHeader : String) : ReadRequest where
  authorization := some "Bearer j.ann-1"
  tenantHeader := some tenantHeader
  endpoint := .getUserById userId

/-- Under her own tenant Ann learns nothing of the neighbours. -/
theorem own_header_confined :
    respond Char.toLower knowsAnn .empty 0 (neighbours "bob" (by decide))
        (asksFor "bob" "a") =
      respond Char.toLower knowsAnn .empty 0 (neighbours "eve" (by decide))
        (asksFor "bob" "a") := by
  obtain ⟨user, verified, tenantEq⟩ : ∃ user,
      (knowsAnn.tokens.verifyAndReturnJwtPayload .empty
        (asksFor "bob" "a").authorization 0).1 = .ok user ∧
      user.tenantId = "a" := ⟨_, rfl, rfl⟩
  have confined : Confined user.tenantId (neighbours "bob" (by decide))
      (asksFor "bob" "a") := by
    rw [tenantEq]
    exact .inl rfl
  have agree : AgreeOn user.tenantId (neighbours "bob" (by decide))
      (neighbours "eve" (by decide)) := by
    rw [tenantEq]
    exact ⟨rfl, rfl, rfl⟩
  exact (noninterference_iff_confined verified).mpr confined _ agree

/-- Under the header of another tenant she does. -/
theorem other_header_tells :
    ∃ user, (knowsAnn.tokens.verifyAndReturnJwtPayload .empty
        (asksFor "bob" "b").authorization 0).1 = .ok user ∧
      AgreeOn user.tenantId (neighbours "bob" (by decide))
        (neighbours "eve" (by decide)) ∧
      respond Char.toLower knowsAnn .empty 0 (neighbours "bob" (by decide))
          (asksFor "bob" "b") ≠
        respond Char.toLower knowsAnn .empty 0 (neighbours "eve" (by decide))
          (asksFor "bob" "b") := by
  refine ⟨_, rfl, ⟨rfl, rfl, rfl⟩, ?_⟩
  intro same
  have found := congrArg (fun response => match response with
    | ReadResponse.user _ => true
    | _ => false) same
  cases found

end TenantIsolation

end HexIam
