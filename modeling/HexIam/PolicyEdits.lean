import HexIam.PolicyWrites
import HexIam.CallPool

/-!
# Concurrent edits of a policy

`update_policy` reads a policy, replaces the fields it was given and writes all
of it back, so that it brings back what another update has removed in between.
In the interleavings where no update writes back a field that is no longer
stored, whatever is in the policy was either there when it was last removed or
replaced, or given by a later update.
-/

namespace HexIam

open StatementTree CallPool GuardedRun

namespace PolicyEdits

/-! ## Runs -/

/-- A call of `update_policy`. -/
structure EditCall where
  worker : Nat
  db : Connection
  updates : PolicyUpdate

/-- Updates of the policy with one key.  A statement may fail, and other requests
may change everything but the policies. -/
def system (deployment : Deployment) (tenantId userId policyId : String) :
    System Empty EditCall Stmt Stmt.Resp Exn PolicyRow World World where
  site _ := none
  program call := updatePolicy call.worker call.db tenantId userId policyId
    call.updates
  perform := perform deployment
  mayFail _ _ := true
  crash site _ := site.elim
  change others world := some { others with userPolicies := world.userPolicies }

abbrev EditPool := Pool EditCall Stmt Stmt.Resp Exn PolicyRow World
abbrev EditEvent := Event Empty EditCall Exn World
abbrev Log := List (LogEntry Stmt Stmt.Resp Exn)

/-- The calls on the policy, and the updates that were written, newest first. -/
structure Edits where
  pool : EditPool
  written : List PolicyUpdate

/-- The update that a statement writes, if it changes a row. -/
def written (world : World) (updates : PolicyUpdate) : Stmt → Option PolicyUpdate
  | .policy db (.update row) =>
      (world.userPolicies.seen db row.key).map fun _ => updates
  | _ => none

/-- The update that an event writes. -/
def writes (pool : EditPool) : EditEvent → Option PolicyUpdate
  | .advance id =>
      match pool.calls id with
      | some ⟨request, .perform stmt _, false, _⟩ =>
          written pool.world request.updates stmt
      | _ => none
  | _ => none

def step (deployment : Deployment) (tenantId userId policyId : String)
    (edits : Edits) (event : EditEvent) : Option Edits :=
  (CallPool.step (system deployment tenantId userId policyId) edits.pool event).map
    fun next => ⟨next, (writes edits.pool event).toList ++ edits.written⟩

/-! ## The property -/

/-- What an update removed or replaced is in the policy only if a later one gave
it. -/
structure Respects (policy : PolicyDoc) (updates : PolicyUpdate)
    (later : List PolicyUpdate) : Prop where
  resource : ∀ resource, updates.resource = some resource →
    policy.resource = resource ∨
      ∃ other ∈ later, other.resource = some policy.resource
  actions : ∀ actions, updates.actions = some actions → ∀ action ∈ policy.actions,
    action ∈ actions ∨
      ∃ other ∈ later, ∃ given, other.actions = some given ∧ action ∈ given
  conditions : ∀ conditions, updates.conditions = some conditions →
    policy.conditions = conditions ∨
      ∃ other ∈ later, other.conditions = some policy.conditions

/-- The policy respects every update, given those written after it. -/
def Explained (written : List PolicyUpdate) (policy : PolicyDoc) : Prop :=
  ∀ newer updates older, written = newer ++ updates :: older →
    Respects policy updates newer

/-- When all calls have ended, the stored policy respects every update. -/
def NotResurrected (key : String × String × String) (edits : Edits) : Prop :=
  edits.pool.Quiet → ∀ row, edits.pool.world.userPolicies.lookup key = some row →
    Explained edits.written row.policy

/-! ## The condition -/

/-- The call has read this row. -/
def HasRead (log : Log) (row : PolicyRow) : Prop :=
  ∃ db tenantId userId policyId,
    (⟨.policy db (.single tenantId userId policyId), .ok (some row)⟩ :
      LogEntry Stmt Stmt.Resp Exn) ∈ log

/-- What an update keeps of the policy it has read is still stored. -/
structure StillStored (updates : PolicyUpdate) (read stored : PolicyDoc) : Prop where
  resource : updates.resource = none → read.resource = stored.resource
  actions : updates.actions = none → ∀ action ∈ read.actions, action ∈ stored.actions
  conditions : updates.conditions = none → read.conditions = stored.conditions

/-- A call that writes writes nothing back that is no longer stored. -/
def WritesBackStored (edits : Edits) : EditEvent → Prop
  | .advance id => ∀ call db row, edits.pool.Holds id call →
      call.Next (.policy db (.update row)) → ∀ read, HasRead call.log read →
      ∀ stored, edits.pool.world.userPolicies.lookup row.key = some stored →
        StillStored call.request.updates read.policy stored.policy
  | _ => True

/-! ## What an update does -/

section Programs

variable {deployment : Deployment} {tenantId userId policyId : String}

/-- A call writes the policy it has read, with its own fields replaced. -/
def guarded (key : String × String × String) (call : EditCall) (log : Log) :
    Stmt → Prop
  | .policy _ (.single ..) => True
  | .policy _ (.update row) => row.key = key ∧ ∃ read, HasRead log read ∧
      row.policy = updatedPolicy read.policy call.updates
  | .policy _ _ => False
  | _ => True

theorem guarded_of_other {key : String × String × String} {call : EditCall}
    (log : Log) (stmt : Stmt) (other : stmt.table ≠ .policies) :
    guarded key call log stmt := by
  cases stmt with
  | policy db stmt => exact absurd rfl other
  | _ => trivial

theorem updatePolicy_obeys (call : EditCall) :
    Obeys (guarded (tenantId, userId, policyId) call)
      (Answers (system deployment tenantId userId policyId)) (fun _ _ => True)
      ((system deployment tenantId userId policyId).program call) [] := by
  refine obeys_ask_bind trivial (fun found _ => ?_) fun _ _ => trivial
  cases found with
  | none => trivial
  | some existing =>
      refine obeys_ask_bind ⟨rfl, existing, ?_, rfl⟩ (fun _ _ => ?_)
        fun _ _ => trivial
      · exact ⟨_, _, _, _, List.mem_cons_self⟩
      · split
        · refine (obeys_of_uses [.sessions, .redis]
            (uses_revokeAllSessions (by decide) (by decide)) (by decide)
            guarded_of_other).bind ?_ fun _ _ _ => trivial
          exact fun _ _ _ => trivial
        · trivial

end Programs

/-! ## One write -/

theorem Respects.mono {policy : PolicyDoc} {updates : PolicyUpdate}
    {later more : List PolicyUpdate} (respects : Respects policy updates later)
    (subset : ∀ other ∈ later, other ∈ more) : Respects policy updates more where
  resource resource given := (respects.resource resource given).imp_right
    fun ⟨other, otherMem, same⟩ => ⟨other, subset other otherMem, same⟩
  actions actions given action actionMem :=
    (respects.actions actions given action actionMem).imp_right
      fun ⟨other, otherMem, same⟩ => ⟨other, subset other otherMem, same⟩
  conditions conditions given := (respects.conditions conditions given).imp_right
    fun ⟨other, otherMem, same⟩ => ⟨other, subset other otherMem, same⟩

theorem respects_updatedPolicy (read : PolicyDoc) (updates : PolicyUpdate) :
    Respects (updatedPolicy read updates) updates [] where
  resource resource given := by
    left
    simp [updatedPolicy, given]
  actions actions given action actionMem := by
    left
    simpa [updatedPolicy, given] using actionMem
  conditions conditions given := by
    left
    simp [updatedPolicy, given]

theorem Respects.updated {read stored : PolicyDoc} {updates other : PolicyUpdate}
    {later : List PolicyUpdate} (still : StillStored updates read stored)
    (respects : Respects stored other later) :
    Respects (updatedPolicy read updates) other (updates :: later) := by
  refine ⟨fun resource given => ?_, fun actions given action actionMem => ?_,
    fun conditions given => ?_⟩
  · cases own : updates.resource with
    | some resource =>
        refine .inr ⟨updates, List.mem_cons_self, ?_⟩
        simp [updatedPolicy, own]
    | none =>
        have same : (updatedPolicy read updates).resource = stored.resource := by
          simp [updatedPolicy, own, still.resource own]
        rw [same]
        exact (respects.mono fun _ => List.mem_cons_of_mem _).resource resource given
  · cases own : updates.actions with
    | some given =>
        refine .inr ⟨updates, List.mem_cons_self, given, own, ?_⟩
        simpa [updatedPolicy, own] using actionMem
    | none =>
        have isRead : action ∈ read.actions := by
          simpa [updatedPolicy, own] using actionMem
        exact (respects.mono fun _ => List.mem_cons_of_mem _).actions actions given
          action (still.actions own action isRead)
  · cases own : updates.conditions with
    | some conditions =>
        refine .inr ⟨updates, List.mem_cons_self, ?_⟩
        simp [updatedPolicy, own]
    | none =>
        have same : (updatedPolicy read updates).conditions = stored.conditions := by
          simp [updatedPolicy, own, still.conditions own]
        rw [same]
        exact (respects.mono fun _ => List.mem_cons_of_mem _).conditions conditions
          given

theorem Explained.updated {written : List PolicyUpdate} {read stored : PolicyDoc}
    {updates : PolicyUpdate} (explained : Explained written stored)
    (still : StillStored updates read stored) :
    Explained (updates :: written) (updatedPolicy read updates) := by
  intro newer other older split
  cases newer with
  | nil =>
      obtain ⟨rfl, -⟩ := List.cons_eq_cons.mp split
      exact respects_updatedPolicy read updates
  | cons newest rest =>
      obtain ⟨rfl, tailEq⟩ := List.cons_eq_cons.mp split
      exact (explained rest other older tailEq).updated still

/-! ## The invariant -/

section Invariant

variable {deployment : Deployment} {tenantId userId policyId : String}
variable {edits next : Edits}

/-- What holds in every state of a run that meets the condition. -/
structure Safe (deployment : Deployment) (tenantId userId policyId : String)
    (edits : Edits) : Prop where
  follows : Follows (system deployment tenantId userId policyId)
    (guarded (tenantId, userId, policyId)) (fun _ _ _ => True) edits.pool
  explained : ∀ row,
    edits.pool.world.userPolicies.lookup (tenantId, userId, policyId) = some row →
    Explained edits.written row.policy

theorem step_eq_some {event : EditEvent} :
    step deployment tenantId userId policyId edits event = some next ↔
      ∃ pool, CallPool.step (system deployment tenantId userId policyId) edits.pool
          event = some pool ∧
        next = ⟨pool, (writes edits.pool event).toList ++ edits.written⟩ := by
  simp [step, eq_comm]

theorem writes_advance {pool : EditPool} {id : Nat}
    {call : Call EditCall Stmt Stmt.Resp Exn PolicyRow} {stmt : Stmt}
    {rest : Except Exn stmt.Resp → App PolicyRow} (holds : pool.Holds id call)
    (alive : call.crashed = false) (restEq : call.rest = .perform stmt rest) :
    writes pool (.advance id) = written pool.world call.request.updates stmt := by
  obtain ⟨request, tree, crashed, log⟩ := call
  simp only at alive restEq
  subst alive restEq
  simp only [Pool.Holds] at holds
  simp only [writes, holds]

/-- A policy that was explained stays so through a statement that writes back
what is stored. -/
theorem explained_perform {world : World} {call : EditCall} {log : Log}
    {before : List PolicyUpdate} {key : String × String × String} {stmt : Stmt}
    (allowed : guarded key call log stmt)
    (still : ∀ db row, stmt = .policy db (.update row) → ∀ read, HasRead log read →
      ∀ stored, world.userPolicies.lookup row.key = some stored →
        StillStored call.updates read.policy stored.policy)
    (explained : ∀ row, world.userPolicies.lookup key = some row →
      Explained before row.policy) :
    ∀ row, (perform deployment stmt world).2.userPolicies.lookup key = some row →
      Explained ((written world call.updates stmt).toList ++ before) row.policy := by
  by_cases other : stmt.table = .policies
  case neg =>
    have writesNone : written world call.updates stmt = none := by
      cases stmt with
      | policy db stmt => exact absurd rfl other
      | _ => rfl
    rw [userPolicies_perform deployment other, writesNone]
    exact explained
  case pos =>
    cases stmt with
    | policy db stmt =>
        cases stmt with
        | single tenantId userId policyId => exact explained
        | update row =>
            obtain ⟨rfl, read, hasRead, policyEq⟩ := allowed
            intro changed found
            have updated := @KeyedTable.lookup_update _ _ _ world.userPolicies _
              (fun held => held.key = row.key && db.sees held.tenantId) _
              (PolicyRow.setPolicy_key row.policy) row.key
            have found' : (world.userPolicies.update
              (fun held => held.key = row.key && db.sees held.tenantId)
              (PolicyRow.setPolicy row.policy)
              (PolicyRow.setPolicy_key row.policy)).lookup row.key = some changed :=
              found
            rw [updated, Option.map_eq_some_iff] at found'
            obtain ⟨stored, isStored, changedEq⟩ := found'
            have keyEq : stored.key = row.key :=
              (KeyedTable.lookup_eq_some.mp isStored).2
            have seenEq : world.userPolicies.seen db row.key =
                if db.sees stored.tenantId then some stored else none := by
              rw [PolicyTable.seen, isStored, Option.filter_some]
            have writtenEq :
                written world call.updates (.policy db (.update row)) =
                  (world.userPolicies.seen db row.key).map fun _ => call.updates :=
              rfl
            rw [writtenEq, seenEq]
            by_cases sees : db.sees stored.tenantId = true
            · rw [if_pos (by simp [keyEq, sees])] at changedEq
              rw [if_pos sees]
              subst changedEq
              change Explained (call.updates :: before) row.policy
              rw [policyEq]
              exact (explained stored isStored).updated
                (still db row rfl read hasRead stored isStored)
            · rw [if_neg (by simp [sees])] at changedEq
              rw [if_neg sees]
              exact changedEq ▸ explained stored isStored
        | insert _ => exact allowed.elim
        | delete _ _ _ => exact allowed.elim
        | bulkUpsert _ => exact allowed.elim
        | valid _ _ => exact allowed.elim
    | _ => cases other

theorem safe_step {event : EditEvent}
    (safe : Safe deployment tenantId userId policyId edits)
    (still : WritesBackStored edits event)
    (stepEq : step deployment tenantId userId policyId edits event = some next) :
    Safe deployment tenantId userId policyId next := by
  obtain ⟨pool, poolEq, rfl⟩ := step_eq_some.mp stepEq
  refine ⟨follows_step updatePolicy_obeys event safe.follows poolEq, ?_⟩
  cases event with
  | advance id =>
      obtain ⟨call, stmt, rest, holds, alive, restEq, rfl⟩ :=
        step_advance.mp poolEq
      rw [writes_advance holds alive restEq]
      refine explained_perform (safe.follows.allowed holds restEq) ?_ safe.explained
      rintro db row rfl
      exact still call db row holds ⟨alive, rest, restEq⟩
  | start id request =>
      obtain ⟨-, rfl⟩ := step_start.mp poolEq
      exact safe.explained
  | fail id error =>
      obtain ⟨call, stmt, rest, -, -, -, -, rfl⟩ := step_fail.mp poolEq
      exact safe.explained
  | crash site => exact site.elim
  | change others =>
      obtain ⟨world, changed, rfl⟩ := step_change.mp poolEq
      cases Option.some.inj changed
      exact safe.explained

end Invariant

/-! ## The result -/

/-- In the interleavings where no update writes back what is no longer stored,
the stored policy respects every update once all have ended. -/
theorem notResurrected_of_writesBackStored (deployment : Deployment)
    (tenantId userId policyId : String) (world : World) (events : List EditEvent)
    (still : Along (step deployment tenantId userId policyId) WritesBackStored
      ⟨.init world, []⟩ events) :
    Always (step deployment tenantId userId policyId)
      (NotResurrected (tenantId, userId, policyId)) ⟨.init world, []⟩ events := by
  have start : Safe deployment tenantId userId policyId ⟨.init world, []⟩ := by
    refine ⟨follows_init, fun row _ newer updates older split => ?_⟩
    cases newer <;> cases split
  have safe : Always (step deployment tenantId userId policyId)
      (Safe deployment tenantId userId policyId) ⟨.init world, []⟩ events :=
    always_of_along (fun _ _ _ safe still stepEq => safe_step safe still stepEq)
      start still
  exact always_mono (fun _ safe _ => safe.explained) safe

/-! ## A removed action -/

/-- A policy to read and write files. -/
def readWrite : World where
  userPolicies := .single ⟨"t", "u", "p", ⟨"files", ["read", "write"], []⟩⟩

/-- Writing is removed. -/
def toRead : EditCall where
  worker := 0
  db := .forTenant "t"
  updates := ⟨none, some ["read"], none, valid_toRead⟩

/-- A condition is added. -/
def toOffice : EditCall where
  worker := 0
  db := .forTenant "t"
  updates := ⟨none, none, some [("location", .text "office")], valid_none⟩

def inTurn : List EditEvent :=
  [.start 0 toRead, .advance 0, .advance 0, .advance 0,
    .start 1 toOffice, .advance 1, .advance 1, .advance 1]

/-- The condition is added to the policy as it was before. -/
def overlapping : List EditEvent :=
  [.start 1 toOffice, .advance 1, .start 0 toRead, .advance 0, .advance 0,
    .advance 0, .advance 1, .advance 1]

theorem writesBackStored_of_next {edits : Edits} {id : Nat}
    {call : Call EditCall Stmt Stmt.Resp Exn PolicyRow} {stmt : Stmt}
    {rest : Except Exn stmt.Resp → App PolicyRow} (holds : edits.pool.Holds id call)
    (restEq : call.rest = .perform stmt rest)
    (still : ∀ db row, stmt = .policy db (.update row) →
      ∀ read, HasRead call.log read →
      ∀ stored, edits.pool.world.userPolicies.lookup row.key = some stored →
        StillStored call.request.updates read.policy stored.policy) :
    WritesBackStored edits (.advance id) := by
  intro found db row foundHolds isNext read hasRead stored isStored
  obtain ⟨rfl, rfl⟩ := holds.next_unique restEq foundHolds isNext
  exact still db row rfl read hasRead stored isStored

theorem edits_in_turn_respected :
    Always (step (.plain []) "t" "u" "p") (NotResurrected ("t", "u", "p"))
      ⟨.init readWrite, []⟩ inTurn := by
  refine notResurrected_of_writesBackStored (.plain []) "t" "u" "p" readWrite inTurn ?_
  refine along_of_step rfl trivial (along_of_step rfl ?_ (along_of_step rfl ?_
    (along_of_step rfl ?_ (along_of_step rfl trivial (along_of_step rfl ?_
      (along_of_step rfl ?_ (along_of_step rfl ?_ (along_nil _))))))))
  · exact writesBackStored_of_next rfl rfl nofun
  · refine writesBackStored_of_next rfl rfl fun db row same read hasRead stored
      found => ?_
    obtain ⟨_, _, _, _, isRead⟩ := hasRead
    cases same
    cases List.mem_singleton.mp isRead
    cases Option.some.inj found
    exact ⟨fun _ => rfl, nofun, fun _ => rfl⟩
  · exact writesBackStored_of_next rfl rfl nofun
  · exact writesBackStored_of_next rfl rfl nofun
  · refine writesBackStored_of_next rfl rfl fun db row same read hasRead stored
      found => ?_
    obtain ⟨_, _, _, _, isRead⟩ := hasRead
    cases same
    cases List.mem_singleton.mp isRead
    cases Option.some.inj found
    exact ⟨fun _ => rfl, fun _ _ => id, nofun⟩
  · exact writesBackStored_of_next rfl rfl nofun

/-- Writing is back, though it was removed and nobody gave it again. -/
theorem overlapping_edits_resurrect :
    ¬ Always (step (.plain []) "t" "u" "p") (NotResurrected ("t", "u", "p"))
      ⟨.init readWrite, []⟩ overlapping := by
  intro always
  have runs : exec (step (.plain []) "t" "u" "p") ⟨.init readWrite, []⟩ overlapping =
      some _ := rfl
  have final := always_iff.mp always overlapping [] _ (List.append_nil _).symm runs
  have explained := final (fun id call holds running => ?quiet) _ rfl
  case quiet =>
    match id with
    | 0 =>
        cases Option.some.inj holds
        exact running.2 _ rfl
    | 1 =>
        cases Option.some.inj holds
        exact running.2 _ rfl
    | _ + 2 => cases holds
  have respects := explained [toOffice.updates] toRead.updates [] rfl
  rcases respects.actions ["read"] rfl "write" (by decide) with given | later
  · exact absurd given (by decide)
  · obtain ⟨other, otherMem, given, isGiven, -⟩ := later
    cases List.mem_singleton.mp otherMem
    cases isGiven

end PolicyEdits

end HexIam
