import HexIam.FollowUp
import HexIam.TenantLists

/-!
# The cached lists of a tenant

A reader asks Redis, queries the table and stores the list under its key; a
writer changes the table and then deletes the key.  A reader that stores its
list after the writer has deleted the key brings the old list back.  In the
interleavings where a list is stored only while it is what the database
returns, or while some writer is about to delete its key, a tenant without a
call in progress has no other list in Redis.
-/

namespace HexIam

open StatementTree CallPool GuardedRun TenantLists

namespace ListCaches

/-! ## Runs -/

inductive ListChange : Type
  | expire (name : ListName)
  | advance (seconds : Nat)

/-- The calls for one tenant, without failures.  The keys expire and the clock
advances. -/
def system (isoformat : Int → String) (tenantId : String) :
    System Empty ListCall ListStmt ListStmt.Resp Exn Unit ListWorld ListChange where
  site _ := none
  program call := call.program isoformat tenantId
  perform stmt world := world.perform stmt
  mayFail _ _ := false
  crash site _ := site.elim
  change
    | .expire name, world => some (world.setCache name none)
    | .advance seconds, world => some { world with now := world.now + seconds }

abbrev ListPool := Pool ListCall ListStmt ListStmt.Resp Exn Unit ListWorld
abbrev ListEvent := Event Empty ListCall Exn ListChange

/-! ## The property -/

/-- The key is absent or holds what the database returns. -/
def Fresh (isoformat : Int → String) (name : ListName) (world : ListWorld) : Prop :=
  world.cache name = none ∨ world.cache name = some (world.listed isoformat name)

/-- Without a call in progress both keys are fresh. -/
def Converged (isoformat : Int → String) (pool : ListPool) : Prop :=
  pool.Quiet → ∀ name, Fresh isoformat name pool.world

/-! ## The condition -/

/-- A list that is stored is what the database returns, or some writer deletes
its key next. -/
def StoresCurrent (isoformat : Int → String) (pool : ListPool) : ListEvent → Prop
  | .advance id => ∀ call name items, pool.Holds id call →
      call.Next (.setex name items) →
      items = pool.world.listed isoformat name ∨ pool.Pending (.delete name)
  | _ => True

/-! ## Writers delete the key -/

/-- The list that a statement has changed, by its answer. -/
def changed : (stmt : ListStmt) → Except Exn stmt.Resp → Option ListName
  | .insertTemplate .., .ok count => if count = 0 then none else some .policyTemplates
  | .updateTemplate .., .ok _ => some .policyTemplates
  | .deleteTemplate .., .ok count => if count = 0 then none else some .policyTemplates
  | .insertProvider _, .ok _ => some .fedProviders
  | .updateProvider .., .ok _ => some .fedProviders
  | .deleteProvider _, .ok _ => some .fedProviders
  | _, _ => none

/-- A list that has changed needs its key to be deleted. -/
def needs (stmt : ListStmt) (answer : Except Exn stmt.Resp) (other : ListStmt) : Prop :=
  ∃ name, changed stmt answer = some name ∧ other = .delete name

theorem not_needs {stmt : ListStmt} {answer : Except Exn stmt.Resp} {other : ListStmt}
    (unchanged : changed stmt answer = none) : ¬ needs stmt answer other := by
  rintro ⟨name, isChanged, -⟩
  exact absurd (unchanged.symm.trans isChanged) nofun

theorem changed_error (stmt : ListStmt) (error : Exn) :
    changed stmt (.error error) = none := by
  cases stmt <;> rfl

theorem eq_of_changed_count {count : Nat} {name : ListName}
    (isChanged : (if count = 0 then none else some ListName.policyTemplates) =
      some name) : count ≠ 0 ∧ name = .policyTemplates := by
  split at isChanged
  case isTrue => cases isChanged
  case isFalse some => exact ⟨some, (Option.some.inj isChanged).symm⟩

theorem followsUp_send_bind {α : Type} {stmt : ListStmt}
    {continuation : stmt.Resp → Code α}
    (deletes : ∀ value name, changed stmt (.ok value) = some name →
      ∃ rest, continuation value = .perform (.delete name) rest)
    (onValue : ∀ value, FollowsUp needs (continuation value)) :
    FollowsUp needs (send stmt >>= continuation) := by
  refine followsUp_perform_bind (fun value => ⟨?_, onValue value⟩)
    fun error _ => not_needs (changed_error stmt error)
  rintro _ ⟨name, isChanged, rfl⟩
  exact deletes value name isChanged

theorem followsUp_read_bind {α : Type} {stmt : ListStmt}
    {continuation : stmt.Resp → Code α}
    (unchanged : ∀ value, changed stmt (.ok value) = none)
    (onValue : ∀ value, FollowsUp needs (continuation value)) :
    FollowsUp needs (send stmt >>= continuation) :=
  followsUp_send_bind
    (fun value _ isChanged => nomatch (unchanged value).symm.trans isChanged) onValue

/-- A statement that changes a list, and the deletion of its key. -/
theorem followsUp_write_bind {α : Type} {stmt : ListStmt} {name : ListName}
    {continuation : stmt.Resp → Unit → Code α}
    (changes : ∀ value, changed stmt (.ok value) = some name)
    (onValue : ∀ value, FollowsUp needs (continuation value ())) :
    FollowsUp needs
      (send stmt >>= fun value => send (.delete name) >>= continuation value) := by
  refine followsUp_send_bind (fun value other isChanged => ?_) fun value => ?_
  · cases (changes value).symm.trans isChanged
    exact ⟨_, rfl⟩
  · exact followsUp_read_bind (fun _ => rfl) fun _ => onValue value

theorem followsUp_read {stmt : ListStmt}
    (unchanged : ∀ value, changed stmt (.ok value) = none) :
    FollowsUp needs (send stmt) := by
  intro answer
  refine ⟨fun other needed => absurd needed (not_needs ?_), trivial⟩
  cases answer with
  | ok value => exact unchanged value
  | error error => exact changed_error stmt error

theorem followsUp_getTenantPolicyTemplates (isoformat : Int → String)
    (db : Connection) (page pageSize : Int) :
    FollowsUp needs (getTenantPolicyTemplates isoformat db true page pageSize) := by
  refine FollowsUp.bind ?_ fun _ => followsUp_done
  refine followsUp_read_bind (fun _ => rfl) fun cached => ?_
  cases cached with
  | some templates => exact followsUp_done
  | none =>
      refine followsUp_read_bind (fun _ => rfl) fun rows => ?_
      exact followsUp_read_bind (fun _ => rfl) fun _ => followsUp_done

theorem followsUp_listIdentityProviders (isoformat : Int → String) :
    FollowsUp needs (listIdentityProviders isoformat true) := by
  refine followsUp_read_bind (fun _ => rfl) fun cached => ?_
  cases cached with
  | some providers => exact followsUp_done
  | none =>
      refine followsUp_read_bind (fun _ => rfl) fun rows => ?_
      exact followsUp_read_bind (fun _ => rfl) fun _ => followsUp_done

theorem followsUp_createTenantPolicyTemplate (db : Connection)
    (templateId tenantId : String) (policies : List (String × PyValue))
    (roles : List String) :
    FollowsUp needs (TenantLists.createTenantPolicyTemplate db true templateId
      tenantId policies roles) := by
  refine followsUp_send_bind (fun inserted name isChanged => ?_) fun inserted => ?_
  · obtain ⟨some, rfl⟩ := eq_of_changed_count isChanged
    rw [if_neg some]
    exact ⟨_, rfl⟩
  · split
    · exact followsUp_done
    · exact followsUp_read_bind (fun _ => rfl) fun _ => followsUp_done

theorem followsUp_deleteTenantPolicyTemplate (db : Connection) (templateId : String) :
    FollowsUp needs (TenantLists.deleteTenantPolicyTemplate db true templateId) := by
  refine followsUp_send_bind (fun deleted name isChanged => ?_) fun deleted => ?_
  · obtain ⟨some, rfl⟩ := eq_of_changed_count isChanged
    rw [if_neg some]
    exact ⟨_, rfl⟩
  · split
    · exact followsUp_done
    · exact followsUp_read_bind (fun _ => rfl) fun _ => followsUp_done

theorem followsUp_updateTenantPolicyTemplate (db : Connection)
    (tenantId templateId : String) (policies : Option (List (String × PyValue)))
    (roles : Option (List String)) :
    FollowsUp needs (TenantLists.updateTenantPolicyTemplate db true tenantId
      templateId policies roles) := by
  refine followsUp_read_bind (fun _ => rfl) fun existing => ?_
  cases existing with
  | none => exact followsUp_done
  | some existing =>
      exact followsUp_write_bind (fun _ => rfl) fun _ => followsUp_done

theorem followsUp_createIdentityProvider (providerId tenantId : String)
    (payload : IdentityProviderCreate) :
    FollowsUp needs
      (TenantLists.createIdentityProvider true providerId tenantId payload) := by
  unfold TenantLists.createIdentityProvider
  split
  · exact followsUp_done
  exact followsUp_write_bind (fun _ => rfl) fun _ => followsUp_read fun _ => rfl

theorem followsUp_updateIdentityProvider (providerId : String)
    (payload : IdentityProviderUpdate) :
    FollowsUp needs (TenantLists.updateIdentityProvider true providerId payload) := by
  refine followsUp_read_bind (fun _ => rfl) fun current => ?_
  cases current with
  | none => exact followsUp_done
  | some current =>
      dsimp only
      split
      · exact followsUp_done
      exact followsUp_write_bind (fun _ => rfl) fun _ => followsUp_read fun _ => rfl

theorem followsUp_deleteIdentityProvider (providerId : String) :
    FollowsUp needs (TenantLists.deleteIdentityProvider true providerId) := by
  refine followsUp_read_bind (fun _ => rfl) fun current => ?_
  exact followsUp_write_bind (fun _ => rfl) fun _ => followsUp_done

theorem followsUp_program (isoformat : Int → String) (tenantId : String)
    (call : ListCall) : FollowsUp needs (call.program isoformat tenantId) := by
  cases call with
  | getTenantPolicyTemplates db page pageSize =>
      exact (followsUp_getTenantPolicyTemplates isoformat db page pageSize).bind
        fun _ => followsUp_done
  | listIdentityProviders =>
      exact (followsUp_listIdentityProviders isoformat).bind fun _ => followsUp_done
  | createTenantPolicyTemplate db templateId policies roles =>
      exact (followsUp_createTenantPolicyTemplate db templateId tenantId policies
        roles).bind fun _ => followsUp_done
  | updateTenantPolicyTemplate db templateId policies roles =>
      exact (followsUp_updateTenantPolicyTemplate db tenantId templateId policies
        roles).bind fun _ => followsUp_done
  | deleteTenantPolicyTemplate db templateId =>
      exact (followsUp_deleteTenantPolicyTemplate db templateId).bind
        fun _ => followsUp_done
  | createIdentityProvider providerId payload =>
      exact (followsUp_createIdentityProvider providerId tenantId payload).bind
        fun _ => followsUp_done
  | updateIdentityProvider providerId payload =>
      exact (followsUp_updateIdentityProvider providerId payload).bind
        fun _ => followsUp_done
  | deleteIdentityProvider providerId =>
      exact (followsUp_deleteIdentityProvider providerId).bind
        fun _ => followsUp_done

/-! ## What a statement does to a list -/

section Effects

variable {isoformat : Int → String} {world : ListWorld}

/-- The list and its key are what they were. -/
def Same (isoformat : Int → String) (name : ListName) (world next : ListWorld) :
    Prop :=
  next.listed isoformat name = world.listed isoformat name ∧
    next.cache name = world.cache name

theorem fresh_of_same {name : ListName} {next : ListWorld}
    (same : Same isoformat name world next) (fresh : Fresh isoformat name world) :
    Fresh isoformat name next := by
  unfold Fresh
  rw [same.1, same.2]
  exact fresh

theorem same_setCache {name other : ListName} (different : name ≠ other)
    (items : Option (List other.Item)) :
    Same isoformat name world (world.setCache other items) := by
  refine ⟨?_, Function.update_of_ne different _ _⟩
  cases name <;> rfl

theorem insertTemplate_cases (db : Connection) (row : TemplateRow) :
    (world.insertTemplate db row).1 = .ok 1 ∧
        Same isoformat .fedProviders world (world.insertTemplate db row).2 ∨
      (world.insertTemplate db row).2 = world := by
  unfold ListWorld.insertTemplate
  split
  · split
    · exact .inl ⟨rfl, rfl, rfl⟩
    · exact .inr rfl
  · exact .inr rfl

theorem insertProvider_cases (row : ProviderRow) :
    (world.insertProvider row).1 = .ok () ∧
        (world.insertProvider row).2.cache = world.cache ∧
        (world.insertProvider row).2.templates = world.templates ∨
      ∃ error, world.insertProvider row = (.error error, world) := by
  unfold ListWorld.insertProvider
  split
  · exact .inl ⟨rfl, rfl, rfl⟩
  · exact .inr ⟨_, rfl⟩

theorem updateProvider_cases (id : String) (row : ProviderRow) :
    (world.updateProvider id row).1 = .ok () ∧
        (world.updateProvider id row).2.cache = world.cache ∧
        (world.updateProvider id row).2.templates = world.templates ∨
      ∃ error, world.updateProvider id row = (.error error, world) := by
  unfold ListWorld.updateProvider
  split
  · exact .inl ⟨rfl, rfl, rfl⟩
  · split
    · exact .inr ⟨_, rfl⟩
    · exact .inl ⟨rfl, rfl, rfl⟩

theorem listed_of_templates {next : ListWorld}
    (same : next.templates = world.templates) :
    next.listed isoformat .policyTemplates =
      world.listed isoformat .policyTemplates := by
  unfold ListWorld.listed ListWorld.listTemplates
  rw [same]

theorem delete_of_none {Row Key : Type} {key : Row → Key}
    {table : KeyedTable Row key} {selected : Row → Bool}
    (none : table.select selected = []) : table.delete selected = table := by
  have kept : table.rows.filter (fun row => !selected row) = table.rows := by
    refine List.filter_eq_self.mpr fun row rowMem => ?_
    have notSelected := List.filter_eq_nil_iff.mp none row rowMem
    simpa using notSelected
  cases table
  simp only [KeyedTable.delete, KeyedTable.mk.injEq]
  exact kept

theorem same_deleteTemplate (selected : TemplateRecord → Bool) (name : ListName)
    (other : (world.templates.select selected).length = 0 ∨ name = .fedProviders) :
    Same isoformat name world
      { world with templates := world.templates.delete selected } := by
  cases name with
  | fedProviders => exact ⟨rfl, rfl⟩
  | policyTemplates =>
      have none := List.length_eq_zero_iff.mp (other.resolve_right nofun)
      exact ⟨listed_of_templates (delete_of_none none), rfl⟩

/-- A statement leaves a list and its key, or it stores or deletes the key, or it
has changed the list. -/
theorem effect_of_perform (stmt : ListStmt) (name : ListName) :
    (∃ items, stmt = .setex name items) ∨ stmt = .delete name ∨
      changed stmt (world.perform stmt).1 = some name ∨
      Same isoformat name world (world.perform stmt).2 := by
  have unchanged {next : ListWorld} (same : Same isoformat name world next) :
      (∃ items, stmt = .setex name items) ∨ stmt = .delete name ∨
        changed stmt (world.perform stmt).1 = some name ∨
        Same isoformat name world next := .inr (.inr (.inr same))
  cases stmt with
  | get _ => exact unchanged ⟨rfl, rfl⟩
  | templates _ => exact unchanged ⟨rfl, rfl⟩
  | templateById _ _ => exact unchanged ⟨rfl, rfl⟩
  | providers => exact unchanged ⟨rfl, rfl⟩
  | providerById _ => exact unchanged ⟨rfl, rfl⟩
  | setex other items =>
      by_cases different : name = other
      · subst different
        exact .inl ⟨items, rfl⟩
      · exact unchanged (same_setCache different _)
  | delete other =>
      by_cases different : name = other
      · exact .inr (.inl (different ▸ rfl))
      · exact unchanged (same_setCache different _)
  | insertTemplate db row =>
      rcases @insertTemplate_cases isoformat world db row with
        ⟨inserted, same⟩ | worldEq
      · cases name with
        | fedProviders => exact unchanged same
        | policyTemplates =>
            refine .inr (.inr (.inl ?_))
            change changed (.insertTemplate db row) (world.insertTemplate db row).1 = _
            rw [inserted]
            rfl
      · refine unchanged ?_
        change Same isoformat name world (world.insertTemplate db row).2
        rw [worldEq]
        exact ⟨rfl, rfl⟩
  | updateTemplate db id policies roles =>
      cases name with
      | fedProviders => exact unchanged ⟨rfl, rfl⟩
      | policyTemplates => exact .inr (.inr (.inl rfl))
  | deleteTemplate db id =>
      by_cases other : (world.templates.select fun row =>
          db.sees world.tenantId && row.id = id).length = 0 ∨ name = .fedProviders
      · exact unchanged (same_deleteTemplate _ name other)
      · obtain ⟨some, own⟩ := not_or.mp other
        refine .inr (.inr (.inl ?_))
        cases name with
        | fedProviders => exact absurd rfl own
        | policyTemplates => exact if_neg some
  | insertProvider row =>
      rcases @insertProvider_cases world row with
        ⟨inserted, cacheEq, templatesEq⟩ | ⟨error, same⟩
      · cases name with
        | policyTemplates => 
            exact unchanged ⟨listed_of_templates templatesEq, congrFun cacheEq _⟩
        | fedProviders =>
            refine .inr (.inr (.inl ?_))
            change changed (.insertProvider row) (world.insertProvider row).1 = _
            rw [inserted]
            rfl
      · refine unchanged ?_
        change Same isoformat name world (world.insertProvider row).2
        rw [same]
        exact ⟨rfl, rfl⟩
  | updateProvider id row =>
      rcases @updateProvider_cases world id row with
        ⟨updated, cacheEq, templatesEq⟩ | ⟨error, same⟩
      · cases name with
        | policyTemplates => 
            exact unchanged ⟨listed_of_templates templatesEq, congrFun cacheEq _⟩
        | fedProviders =>
            refine .inr (.inr (.inl ?_))
            change changed (.updateProvider id row) (world.updateProvider id row).1 = _
            rw [updated]
            rfl
      · refine unchanged ?_
        change Same isoformat name world (world.updateProvider id row).2
        rw [same]
        exact ⟨rfl, rfl⟩
  | deleteProvider id =>
      cases name with
      | policyTemplates => exact unchanged ⟨rfl, rfl⟩
      | fedProviders => exact .inr (.inr (.inl rfl))

end Effects

/-! ## The invariant -/

section Invariant

variable {isoformat : Int → String} {tenantId : String}
variable {pool next : ListPool}

/-- Every writer follows its writes up, and a key is fresh or about to be
deleted. -/
structure Safe (isoformat : Int → String) (pool : ListPool) : Prop where
  followUp : AllFollowUp needs pool
  fresh : ∀ name, Fresh isoformat name pool.world ∨ pool.Pending (.delete name)

theorem Safe.converged (safe : Safe isoformat pool) : Converged isoformat pool :=
  fun quiet name => (safe.fresh name).resolve_right fun pending =>
    pending.not_quiet quiet

theorem fresh_of_deleted (name : ListName) (world : ListWorld) :
    Fresh isoformat name (world.setCache name none) :=
  .inl (Function.update_self ..)

theorem fresh_advance {id : Nat} (safe : Safe isoformat pool)
    (stores : StoresCurrent isoformat pool (.advance id))
    (stepEq : step (system isoformat tenantId) pool (.advance id) = some next)
    (name : ListName) :
    Fresh isoformat name next.world ∨ next.Pending (.delete name) := by
  obtain ⟨call, stmt, rest, holds, alive, restEq, rfl⟩ := step_advance.mp stepEq
  have performed : (system isoformat tenantId).perform stmt pool.world =
      pool.world.perform stmt := rfl
  rw [performed]
  -- what is pending stays so, unless this is the call that deletes the key
  have stays (different : stmt ≠ .delete name)
      (fresh : Fresh isoformat name pool.world →
        Fresh isoformat name (pool.world.perform stmt).2) :
      Fresh isoformat name (pool.world.perform stmt).2 ∨
        (({ pool with world := (pool.world.perform stmt).2 }).setCall id
          (call.answered stmt rest (pool.world.perform stmt).1)).Pending
            (.delete name) :=
    (safe.fresh name).imp fresh fun pending =>
      pending.answered holds restEq different
  rcases @effect_of_perform isoformat pool.world stmt name with
    ⟨items, rfl⟩ | rfl | isChanged | same
  · rcases stores call name items holds ⟨alive, rest, restEq⟩ with rfl | pending
    · refine stays nofun fun _ => .inr ?_
      exact Function.update_self ..
    · exact .inr (pending.answered holds restEq nofun)
  · exact .inl (fresh_of_deleted name pool.world)
  · exact .inr (pending_of_needs safe.followUp holds alive restEq
      ⟨name, isChanged, rfl⟩)
  · by_cases deletes : stmt = .delete name
    · subst deletes
      exact .inl (fresh_of_deleted name pool.world)
    · exact stays deletes (fresh_of_same same)

theorem safe_step {event : ListEvent} (safe : Safe isoformat pool)
    (stores : StoresCurrent isoformat pool event)
    (stepEq : step (system isoformat tenantId) pool event = some next) :
    Safe isoformat next := by
  have followUp : AllFollowUp needs next :=
    allFollowUp_step (followsUp_program isoformat tenantId) safe.followUp stepEq
  refine ⟨followUp, fun name => ?_⟩
  cases event with
  | advance id => exact fresh_advance safe stores stepEq name
  | start id request =>
      have worldEq : next.world = pool.world := by
        obtain ⟨-, rfl⟩ := step_start.mp stepEq
        rfl
      rw [worldEq]
      exact (safe.fresh name).imp (fun fresh => fresh) fun pending =>
        pending.start stepEq
  | fail id error =>
      obtain ⟨_, _, _, -, -, -, may, -⟩ := step_fail.mp stepEq
      cases may
  | crash site => exact site.elim
  | change change =>
      obtain ⟨world, changedEq, rfl⟩ := step_change.mp stepEq
      refine (safe.fresh name).imp (fun fresh => ?_) fun pending => pending
      cases change with
      | expire other =>
          cases Option.some.inj changedEq
          by_cases different : name = other
          · exact different ▸ fresh_of_deleted name pool.world
          · exact fresh_of_same (same_setCache different _) fresh
      | advance seconds =>
          cases Option.some.inj changedEq
          cases name <;> exact fresh_of_same ⟨rfl, rfl⟩ fresh

end Invariant

/-! ## The result -/

/-- In the interleavings where a list is stored only while it is what the database
returns, or while its key is about to be deleted, no quiet state has another list
in Redis. -/
theorem converged_of_storesCurrent (isoformat : Int → String) (tenantId : String)
    (world : ListWorld) (fresh : ∀ name, Fresh isoformat name world)
    (events : List ListEvent)
    (stores : Along (step (system isoformat tenantId)) (StoresCurrent isoformat)
      (.init world) events) :
    Always (step (system isoformat tenantId)) (Converged isoformat) (.init world)
      events := by
  have safe : Always (step (system isoformat tenantId)) (Safe isoformat)
      (.init world) events :=
    always_of_along (fun _ _ _ safe stores stepEq => safe_step safe stores stepEq)
      ⟨allFollowUp_init, fun name => .inl (fresh name)⟩ stores
  exact always_mono (fun _ => Safe.converged) safe

/-! ## A provider that stays listed -/

/-- An enabled provider. -/
def provider : ProviderRecord where
  id := "p"
  tenantId := "t"
  name := "Partner"
  protocol := "oidc"
  issuerUrl := "https://partner"
  clientId := none
  clientSecret := none
  discoveryUrl := none
  authorizationEndpoint := none
  tokenEndpoint := none
  userinfoEndpoint := none
  jwksUri := none
  jwtValidationSecret := none
  enabled := true
  autoLink := true
  authorizationScopes := none
  tokenEndpointAuthMethod := none
  claimsSource := none
  linkByEmailVerifiedOnly := true
  defaultRole := none
  createdAt := 0
  lastModified := none

def oneProvider : ListWorld where
  tenantId := "t"
  now := 0
  templates := .empty
  providers := .single provider

/-- The provider is deleted while its list is on the way to Redis. -/
def overtaken : List ListEvent :=
  [.start 0 .listIdentityProviders, .advance 0, .advance 0,
    .start 1 (.deleteIdentityProvider "p"), .advance 1, .advance 1, .advance 1,
    .advance 0]

/-- The list reaches Redis before the key is deleted. -/
def inTime : List ListEvent :=
  [.start 0 .listIdentityProviders, .advance 0, .advance 0,
    .start 1 (.deleteIdentityProvider "p"), .advance 1, .advance 1, .advance 0,
    .advance 1]

theorem storesCurrent_of_next {isoformat : Int → String} {pool : ListPool} {id : Nat}
    {call : Call ListCall ListStmt ListStmt.Resp Exn Unit} {stmt : ListStmt}
    {rest : Except Exn stmt.Resp → Code Unit} (holds : pool.Holds id call)
    (restEq : call.rest = .perform stmt rest)
    (stores : ∀ name items, stmt = .setex name items →
      items = pool.world.listed isoformat name ∨ pool.Pending (.delete name)) :
    StoresCurrent isoformat pool (.advance id) := by
  intro found name items foundHolds isNext
  exact stores name items (holds.next_unique restEq foundHolds isNext).2.symm

/-- The key is deleted after the old list was stored. -/
theorem deleted_in_time_converges :
    Always (step (system toString "t")) (Converged toString) (.init oneProvider)
      inTime := by
  refine converged_of_storesCurrent toString "t" oneProvider (fun _ => .inl rfl)
    inTime ?_
  refine along_of_step rfl trivial (along_of_step rfl ?_ (along_of_step rfl ?_
    (along_of_step rfl trivial (along_of_step rfl ?_ (along_of_step rfl ?_
      (along_of_step rfl ?_ (along_of_step rfl ?_ (along_nil _))))))))
  · exact storesCurrent_of_next rfl rfl nofun
  · exact storesCurrent_of_next rfl rfl nofun
  · exact storesCurrent_of_next rfl rfl nofun
  · exact storesCurrent_of_next rfl rfl nofun
  · refine storesCurrent_of_next rfl rfl fun name items same => ?_
    cases same
    exact .inr ⟨1, _, rfl, rfl, _, rfl⟩
  · exact storesCurrent_of_next rfl rfl nofun

/-- The deleted provider stays in the list that Redis holds. -/
theorem overtaken_not_converged :
    ¬ Always (step (system toString "t")) (Converged toString) (.init oneProvider)
      overtaken := by
  intro always
  have runs : exec (step (system toString "t")) (.init oneProvider) overtaken =
      some _ := rfl
  have converged := always_iff.mp always overtaken [] _ (List.append_nil _).symm runs
  have quiet := converged fun id call holds running => by
    match id with
    | 0 =>
        cases Option.some.inj holds
        exact running.2 _ rfl
    | 1 =>
        cases Option.some.inj holds
        exact running.2 _ rfl
    | _ + 2 => cases holds
  rcases quiet .fedProviders with absent | same
  · cases absent
  · have lengths := congrArg (Option.map List.length) same
    change some (oneProvider.listProviders.map _).length =
      some ((List.mergeSort [] _).map _).length at lengths
    simp [ListWorld.listProviders, oneProvider, KeyedTable.select] at lengths

end ListCaches

end HexIam
