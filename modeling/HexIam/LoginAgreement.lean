import HexIam.Auth
import HexIam.PolicyAdequacy

/-!
# Permissions of the three login paths

`authenticate` and `refresh` compile the policies of a user with a dictionary
comprehension, `token_endpoint` with the loop of `fetch_user_policies`.  The
maps exist and permit the same exactly when the user has a policy, `Action` has
every action, and the last row of each resource has the bits of all its rows.
-/

namespace HexIam

namespace LoginAgreement

/-! ## The three maps -/

/-- The rows of `fetch_user_with_policy` for one user. -/
def joinRows (user : UserRow) :
    List PolicyDoc → List (UserRow × Option PolicyDoc)
  | [] => [(user, none)]
  | first :: rest => (first :: rest).map fun policy => (user, some policy)

theorem joinPolicies_eq (world : World) (deployment : Deployment)
    (db : Connection) (user : UserRow) :
    world.joinPolicies deployment db user =
      (validPolicies deployment world.now (world.policiesOf db user.id)).map
        (joinRows user) := by
  unfold World.joinPolicies
  cases validPolicies deployment world.now (world.policiesOf db user.id) with
  | error error => rfl
  | ok policies => cases policies <;> rfl

/-- The map `authenticate` embeds. -/
def loginPolicy (userData : List (UserRow × Option PolicyDoc)) :
    Except Exn (List (String × Nat)) := do
  let policies ← loadPolicies userData
  policyClaim policies []

/-- The map `refresh` embeds. -/
def refreshPolicy (userData : List (UserRow × Option PolicyDoc)) :
    Except Exn (List (String × Nat)) :=
  policyClaim (userData.filterMap Prod.snd) []

/-- All three maps exist and permit the same. -/
def Agree (user : UserRow) (policies : List PolicyDoc) : Prop :=
  ∃ login refreshed, loginPolicy (joinRows user policies) = .ok login ∧
    refreshPolicy (joinRows user policies) = .ok refreshed ∧
    ∀ action resource,
      checkPermission login action resource =
          checkPermission refreshed action resource ∧
        checkPermission refreshed action resource =
          checkPermission (bitmaskClaim policies) action resource

/-- There is a policy, every action is known, and no action bit of a row is
missing from the last row of its resource; the empty resource has no bits. -/
structure Uniform (policies : List PolicyDoc) : Prop where
  some : policies ≠ []
  known : ∀ policy ∈ policies, ∀ action ∈ policy.actions,
    (Action.named (upper action)).isSome = true
  covered : ∀ policy ∈ policies, policy.resource ≠ "" →
    ∀ last ∈ (policies.filter fun other =>
      other.resource = policy.resource).getLast?, ∀ entry ∈ permissionMap,
        (weight policy.actions).testBit entry.2.bit = true →
          (weight last.actions).testBit entry.2.bit = true
  unnamed : ∀ last ∈ (policies.filter fun other =>
    other.resource = "").getLast?, ∀ entry ∈ permissionMap,
      (weight last.actions).testBit entry.2.bit = false

/-! ## When they exist -/

theorem loadPolicies_map (user : UserRow) (policies : List PolicyDoc) :
    loadPolicies (policies.map fun policy => (user, some policy)) =
      .ok policies := by
  induction policies with
  | nil => rfl
  | cons policy rest ih => simp [loadPolicies, ih, bind, Except.bind, pure,
      Except.pure]

/-- A login needs a policy: the outer join has a NULL otherwise. -/
theorem loginPolicy_eq_ok {user : UserRow} {policies : List PolicyDoc}
    {login : List (String × Nat)} :
    loginPolicy (joinRows user policies) = .ok login ↔
      policies ≠ [] ∧ policyClaim policies [] = .ok login := by
  cases policies with
  | nil => simp [loginPolicy, joinRows, loadPolicies, bind, Except.bind]
  | cons policy rest =>
      unfold loginPolicy joinRows
      rw [loadPolicies_map]
      simp [bind, Except.bind]

theorem refreshPolicy_joinRows (user : UserRow) (policies : List PolicyDoc) :
    refreshPolicy (joinRows user policies) = policyClaim policies [] := by
  unfold refreshPolicy
  congr 1
  cases policies with
  | nil => rfl
  | cons policy rest =>
      induction rest generalizing policy with
      | nil => rfl
      | cons next rest ih => exact congrArg (policy :: ·) (ih next)

/-! ## When they agree -/

theorem testBit_policyClaim {policies : List PolicyDoc}
    {login : List (String × Nat)}
    (compiled : policyClaim policies [] = .ok login) (resource : String)
    (bit : Nat) :
    ((login.lookup resource).getD 0).testBit bit = true ↔
      ∃ last ∈ (policies.filter fun policy =>
        policy.resource = resource).getLast?,
          (weight last.actions).testBit bit = true := by
  rw [lookup_policyClaim compiled]
  cases (policies.filter _).getLast? <;> simp

theorem checkPermission_eq_iff {first second : List (String × Nat)} :
    (∀ name resource, checkPermission first name resource =
        checkPermission second name resource) ↔
      ∀ resource, ∀ entry ∈ permissionMap,
        (((first.lookup resource).getD 0).testBit entry.2.bit = true ↔
          ((second.lookup resource).getD 0).testBit entry.2.bit = true) := by
  constructor
  · intro same resource entry entryMem
    rw [← checkPermission_iff entryMem, ← checkPermission_iff entryMem,
      same entry.1 resource]
  · intro same
    exact checkPermission_congr fun resource entry entryMem =>
      Bool.eq_iff_iff.mpr (same resource entry entryMem)

theorem mem_of_lastRow {policies : List PolicyDoc} {resource : String}
    {last : PolicyDoc}
    (isLast : last ∈ (policies.filter fun policy =>
      policy.resource = resource).getLast?) :
    last ∈ policies ∧ last.resource = resource := by
  simpa using List.mem_of_mem_getLast? isLast

theorem exists_lastRow {policies : List PolicyDoc} {policy : PolicyDoc}
    (policyMem : policy ∈ policies) :
    ∃ last, last ∈ (policies.filter fun other =>
      other.resource = policy.resource).getLast? := by
  have present : policy ∈ policies.filter fun other =>
      other.resource = policy.resource := by simpa using policyMem
  exact ⟨_, List.getLast?_eq_some_getLast (List.ne_nil_of_mem present)⟩

/-- The policy maps of the three login paths exist and permit the same exactly
for uniform policies. -/
theorem agree_iff (user : UserRow) (policies : List PolicyDoc) :
    Agree user policies ↔ Uniform policies := by
  unfold Agree
  simp only [loginPolicy_eq_ok, refreshPolicy_joinRows]
  constructor
  · rintro ⟨login, refreshed, ⟨nonempty, loginEq⟩, refreshEq, same⟩
    have equal := checkPermission_eq_iff.mp fun name resource =>
      (same name resource).2
    refine ⟨nonempty, exists_policyClaim_iff.mp ⟨login, loginEq⟩, ?_, ?_⟩
    · intro policy policyMem named last isLast entry entryMem set
      have filledEq : filled policy.resource = true := by simp [filled, named]
      have compiled := (equal policy.resource entry entryMem).mpr
        ((testBit_bitmaskClaim policies _ _).mpr
          ⟨policy, policyMem, rfl, filledEq, set⟩)
      obtain ⟨found, isFound, foundSet⟩ :=
        (testBit_policyClaim refreshEq _ _).mp compiled
      rw [Option.mem_unique isLast isFound]
      exact foundSet
    · intro last isLast entry entryMem
      rw [Bool.eq_false_iff]
      intro set
      have compiled := (equal "" entry entryMem).mp
        ((testBit_policyClaim refreshEq _ _).mpr ⟨last, isLast, set⟩)
      obtain ⟨_, _, _, named, _⟩ := (testBit_bitmaskClaim policies _ _).mp compiled
      cases named
  · intro uniform
    have compiled : ∃ login, policyClaim policies [] = .ok login :=
      exists_policyClaim_iff.mpr uniform.known
    obtain ⟨login, loginEq⟩ := compiled
    refine ⟨login, login, ⟨uniform.some, loginEq⟩, loginEq, fun name resource =>
      ⟨rfl, ?_⟩⟩
    refine checkPermission_eq_iff.mpr ?_ name resource
    intro resource entry entryMem
    rw [testBit_policyClaim loginEq, testBit_bitmaskClaim]
    constructor
    · rintro ⟨last, isLast, set⟩
      obtain ⟨lastMem, rfl⟩ := mem_of_lastRow isLast
      refine ⟨last, lastMem, rfl, ?_, set⟩
      by_contra isEmpty
      have isEmpty : last.resource = "" := by simpa [filled] using isEmpty
      rw [isEmpty] at isLast
      rw [uniform.unnamed last isLast entry entryMem] at set
      cases set
    · rintro ⟨policy, policyMem, rfl, named, set⟩
      obtain ⟨last, isLast⟩ := exists_lastRow policyMem
      have isNamed : policy.resource ≠ "" := by simpa [filled] using named
      exact ⟨last, isLast, uniform.covered policy policyMem isNamed last isLast
        entry entryMem set⟩

/-- A user without policies cannot log in. -/
theorem no_policies_no_login :
    ¬ Agree ⟨"u", "t", "u@x", "", "", "", none, true, true, 0⟩ [] := by
  rintro ⟨login, refreshed, loginEq, -⟩
  exact absurd rfl (loginPolicy_eq_ok.mp loginEq).1

/-! ## The maps in the tokens -/

section Programs

variable {deployment : Deployment} {world : World} {db : Connection}
  {user : UserRow} {policies : List PolicyDoc}

theorem joinAll_single
    (fetched : validPolicies deployment world.now
      (world.policiesOf db user.id) = .ok policies) :
    world.joinAll deployment db [user] = .ok (joinRows user policies) := by
  unfold World.joinAll
  rw [joinPolicies_eq, fetched]
  simp [World.joinAll, Except.map, bind, Except.bind, pure, Except.pure]

theorem exists_joinRows (user : UserRow) (policies : List PolicyDoc) :
    ∃ first rest, joinRows user policies = (user, first) :: rest := by
  cases policies <;> exact ⟨_, _, rfl⟩

/-- A token of `authenticate` carries the map of a login. -/
theorem policy_of_authenticate {readings : Readings}
    {ip email tenantId password normalizedEmail : String}
    {deviceInfo : Option String} {token : SignedToken}
    (normalized : deployment.normalizeEmail email = some normalizedEmail)
    (found : world.usersWithEmail db normalizedEmail = [user])
    (fetched : validPolicies deployment world.now
      (world.policiesOf db user.id) = .ok policies)
    (gives : App.Gives deployment (authenticate deployment db readings ip email
      tenantId password deviceInfo) world fun answer _ => answer = token) :
    ∃ login, loginPolicy (joinRows user policies) = .ok login ∧
      token.payload.policy = some login := by
  unfold authenticate at gives
  rcases App.gives_tryCatch.mp gives with gives | ⟨_, _, gives⟩
  case inr => exact absurd gives App.gives_throw
  obtain ⟨first, rest, rowsEq⟩ := exists_joinRows user policies
  unfold authenticateUnguarded at gives
  rw [normalized] at gives
  dsimp only at gives
  rw [App.gives_bind, App.gives_withPolicies, found,
    joinAll_single fetched, rowsEq] at gives
  obtain ⟨_, ⟨⟩, gives⟩ := gives
  rw [App.gives_bind, App.gives_ofExcept] at gives
  obtain ⟨matching, -, gives⟩ := gives
  cases matching with
  | false => exact absurd gives App.gives_throw
  | true =>
      simp only [Bool.not_true, Bool.false_eq_true, if_false] at gives
      rw [App.gives_bind, App.gives_ofExcept] at gives
      obtain ⟨documents, documentsEq, gives⟩ := gives
      rw [App.gives_bind, App.gives_ofExcept] at gives
      obtain ⟨login, loginEq, gives⟩ := gives
      rw [App.gives_bind, App.gives_ofExcept] at gives
      obtain ⟨accessToken, minted, gives⟩ := gives
      rw [App.gives_bind] at gives
      obtain ⟨_, -, gives⟩ := gives
      obtain rfl := App.gives_pure.mp gives
      obtain ⟨_, -, payloadEq, -⟩ := TokenService.createJwtToken_eq_ok minted
      refine ⟨login, ?_, by rw [payloadEq]; rfl⟩
      rw [rowsEq]
      exact except_bind_eq_ok.mpr ⟨documents, documentsEq, loginEq⟩

/-- An access token of `refresh` carries the map of a refresh. -/
theorem policy_of_reissue {readings : Readings} {tenantHeader : Option String}
    {decoded : Claims} {normalizedEmail : String} {tokens : RefreshedTokens}
    (found : world.usersWithEmail db normalizedEmail = [user])
    (fetched : validPolicies deployment world.now
      (world.policiesOf db user.id) = .ok policies)
    (gives : App.Gives deployment (reissue deployment db readings tenantHeader
      decoded normalizedEmail) world fun answer _ => answer = tokens) :
    ∃ refreshed, refreshPolicy (joinRows user policies) = .ok refreshed ∧
      tokens.accessToken.payload.policy = some refreshed := by
  obtain ⟨first, rest, rowsEq⟩ := exists_joinRows user policies
  unfold reissue at gives
  rw [App.gives_bind, App.gives_ofExcept] at gives
  obtain ⟨refreshToken, -, gives⟩ := gives
  rw [App.gives_bind, App.gives_withPolicies, found,
    joinAll_single fetched, rowsEq] at gives
  obtain ⟨_, ⟨⟩, gives⟩ := gives
  dsimp only at gives
  split at gives
  case isTrue => exact absurd gives App.gives_throw
  case isFalse =>
    rw [App.gives_bind, App.gives_ofExcept] at gives
    obtain ⟨refreshed, refreshedEq, gives⟩ := gives
    rw [App.gives_bind, App.gives_ofExcept] at gives
    obtain ⟨accessToken, minted, gives⟩ := gives
    obtain rfl := App.gives_pure.mp gives
    obtain ⟨_, -, payloadEq, -⟩ := TokenService.createJwtToken_eq_ok minted
    exact ⟨refreshed, rowsEq ▸ refreshedEq, by rw [payloadEq]; rfl⟩

/-- On a connection of the user's tenant, `fetch_user_policies` reads the rows
a login joins. -/
theorem currentPolicies_forTenant (tenantId userId : String) :
    world.currentPolicies deployment (.forTenant tenantId) userId tenantId =
      validPolicies deployment world.now
        (world.policiesOf (.forTenant tenantId) userId) := by
  unfold World.currentPolicies World.policiesOf
  congr 2
  funext row
  rw [Bool.eq_iff_iff]
  simp

end Programs

end LoginAgreement

end HexIam
