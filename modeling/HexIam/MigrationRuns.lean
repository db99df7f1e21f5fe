import HexIam.Migrations
import Mathlib.Tactic.IntervalCases

/-!
# Runs of the migrations

A database that is migrated forth and back, with commands cut short anywhere,
always holds the schema of some initial part of the files.  What it may hold
besides is left behind by rollbacks that do not restore what they undo: the
rollback of `0016_fix_rls_for_onboarding` creates policies of the first version,
and those of the timestamp migrations choose a type some columns never had.
-/

namespace HexIam

open RowSecurity

namespace Migrations

/-! ## Schemas along the files -/

/-- What rollbacks have left behind: the policy for every command on three
tables, and the column types of two. -/
structure Leftovers where
  tenants : Bool := false
  users : Bool := false
  userPolicies : Bool := false
  codes : Bool := false
  sessions : Bool := false
  deriving DecidableEq, Repr

namespace Leftovers

/-- Creating a table, or its policies, does away with what was left of it. -/
def apply (left : Leftovers) : Nat → Leftovers
  | 1 => { left with tenants := false }
  | 2 => { left with users := false }
  | 3 => { left with userPolicies := false }
  | 4 => { left with sessions := false }
  | 6 => { left with tenants := false, users := false, userPolicies := false }
  | 10 => { left with codes := false }
  | _ => left

/-- The rollbacks that leave something behind. -/
def rollback (left : Leftovers) : Nat → Leftovers
  | 14 => { left with codes := true }
  | 15 => { left with sessions := true }
  | 16 => { left with tenants := true, users := true, userPolicies := true }
  | _ => left

end Leftovers

/-- A table that the first `level` migrations create. -/
def since (created level : Nat) (state : TableState) : Option TableState :=
  if created ≤ level then some state else none

/-- The security of a table under policies with these names. -/
def isolation (names : PolicyNames) (column : ColumnName) (level : Nat)
    (restored : Bool) : Security PolicyName ColumnName where
  enabled := decide (6 ≤ level)
  forced := decide (13 ≤ level)
  policies :=
    if 16 ≤ level then names.each column
    else if restored then [names.forAll column]
    else if 6 ≤ level then names.each column
    else []

/-- The type of a column that holds a time. -/
def timeType (withZone : Bool) : ColumnType :=
  if withZone then .timestamptz else .timestamp

/-- The tables after the first `level` migrations. -/
def schemaAt (left : Leftovers) (level : Nat) : Schema
  | .tenants => since 1 level {
      columns := [(.id, .varchar 50)]
      constraints := [.checkMfaSettings]
      security := isolation tenantsNames .id level left.tenants }
  | .users => since 2 level {
      columns := [(.tenantId, .varchar 50)]
      references := [.tenants]
      security := isolation usersNames .tenantId level left.users }
  | .userPolicies => since 3 level {
      columns := [(.tenantId, .varchar 50)]
      references := [.tenants, .users]
      security := isolation userPoliciesNames .tenantId level left.userPolicies }
  | .userSessions => since 4 level {
      columns := [(.tenantId, .varchar 50),
        (.createdAt, timeType (decide (15 ≤ level) || !left.sessions)),
        (.expiresAt, timeType (decide (15 ≤ level) || !left.sessions))]
      references := [.users, .tenants] }
  | .auditLogs => since 5 level { columns := [] }
  | .refreshTokens => since 7 level {
      columns := [(.tenantId, .varchar 50),
        (.expiresAt, timeType (decide (15 ≤ level))),
        (.createdAt, timeType (decide (15 ≤ level)))]
      references := [.users, .tenants] }
  | .tenantPolicies => since 8 level {
      columns := [(.tenantId, .varchar 50)]
      references := [.tenants]
      security := {
        enabled := decide (12 ≤ level)
        forced := decide (13 ≤ level)
        policies := if 12 ≤ level then [tenantPoliciesPolicy] else [] } }
  | .oidcClients => since 9 level {
      columns := [(.tenantId, .varchar 50)]
      references := [.tenants] }
  | .authorizationCodes => since 10 level {
      columns := [(.tenantId, .varchar 50),
        (.expiresAt, timeType (decide (14 ≤ level) || !left.codes)),
        (.createdAt, timeType (decide (14 ≤ level) || !left.codes))]
      references := [.oidcClients, .users, .tenants] }
  | .userInvitations => since 11 level {
      columns := [(.tenantId, .varchar 50)]
      references := [.tenants, .oidcClients] }
  | .totpSecrets => since 17 level {
      columns := [(.tenantId, .varchar 50)]
      references := [.tenants] }
  | .identityProviders => since 18 level {
      columns := (.tenantId, .varchar 50) ::
        if 21 ≤ level then
          [(.authorizationScopes, .text),
            (.tokenEndpointAuthMethod, .varchar 40),
            (.claimsSource, .varchar 20), (.linkByEmailVerifiedOnly, .boolean),
            (.defaultRole, .varchar 50)]
        else []
      references := [.tenants] }
  | .federatedIdentities => since 19 level {
      columns := [(.tenantId, .varchar 50)]
      references := [.tenants, .identityProviders, .users] }
  | .federationAuthTransactions => since 20 level {
      columns := [(.tenantId, .varchar 50)]
      references := [.tenants, .identityProviders, .oidcClients] }

/-! ## One migration -/

/-- The migration leads from the schema before it to the one after it. -/
def Advances (left : Leftovers) (migration : Migration) : Prop :=
  migration.applied (schemaAt left (migration.number - 1)) =
    some (schemaAt (left.apply migration.number) migration.number)

/-- The rollback leads back to the schema before the migration. -/
def Retreats (left : Leftovers) (migration : Migration) : Prop :=
  migration.rolledBack (schemaAt left migration.number) =
    some (schemaAt (left.rollback migration.number) (migration.number - 1))

-- The policies these migrations drop depend on what was left behind.
theorem advances_enableRowLevelSecurity (left : Leftovers) :
    Advances left enableRowLevelSecurity := by
  rcases left with ⟨_ | _, _ | _, _ | _, codes, sessions⟩ <;>
  · refine congrArg some (funext fun table => ?_)
    cases table <;> rfl

theorem retreats_enableRowLevelSecurity (left : Leftovers) :
    Retreats left enableRowLevelSecurity := by
  rcases left with ⟨_ | _, _ | _, _ | _, codes, sessions⟩ <;>
  · refine congrArg some (funext fun table => ?_)
    cases table <;> rfl

theorem advances_fixRlsForOnboarding (left : Leftovers) :
    Advances left fixRlsForOnboarding := by
  rcases left with ⟨_ | _, _ | _, _ | _, codes, sessions⟩ <;>
  · refine congrArg some (funext fun table => ?_)
    cases table <;> rfl

theorem advances (left : Leftovers) :
    ∀ migration ∈ migrations, Advances left migration := by
  simp only [migrations, List.forall_mem_cons]
  refine ⟨?_, ?_, ?_, ?_, ?_, advances_enableRowLevelSecurity left, ?_, ?_, ?_,
    ?_, ?_, ?_, ?_, ?_, ?_, advances_fixRlsForOnboarding left, ?_, ?_, ?_, ?_,
    ?_, by simp⟩
  all_goals
    refine congrArg some (funext fun table => ?_)
    cases table <;> rfl

theorem retreats (left : Leftovers) :
    ∀ migration ∈ migrations, Retreats left migration := by
  simp only [migrations, List.forall_mem_cons]
  refine ⟨?_, ?_, ?_, ?_, ?_, retreats_enableRowLevelSecurity left, ?_, ?_, ?_,
    ?_, ?_, ?_, ?_, ?_, ?_, ?_, ?_, ?_, ?_, ?_, ?_, by simp⟩
  all_goals
    refine congrArg some (funext fun table => ?_)
    cases table <;> rfl

/-! ## Commands -/

/-- The numbers of the first migrations, the last one first. -/
def firstNumbers : Nat → List Nat
  | 0 => []
  | level + 1 => (level + 1) :: firstNumbers level

theorem mem_firstNumbers {level number : Nat} :
    number ∈ firstNumbers level ↔ 0 < number ∧ number ≤ level := by
  induction level with
  | zero =>
      simp only [firstNumbers, List.not_mem_nil, false_iff]
      omega
  | succ level ih =>
      rw [firstNumbers, List.mem_cons, ih]
      omega

/-- The first `level` migrations were applied, and something may have been left
by rollbacks of later ones. -/
structure Installed (level : Nat) (left : Leftovers) (database : Database) :
    Prop where
  within : level ≤ migrations.length
  applied : database.applied = firstNumbers level
  schema : database.schema = schemaAt left level

theorem installed_fresh : Installed 0 {} .fresh where
  within := Nat.zero_le _
  applied := rfl
  schema := by
    funext table
    cases table <;> rfl

theorem number_get :
    ∀ index : Fin migrations.length,
      (migrations.get index).number = index + 1 := by
  decide

section Commands

variable {level : Nat} {left : Leftovers} {database : Database}

theorem toApply_of_installed (installed : Installed level left database) :
    database.toApply = migrations.drop level := by
  have within : level ≤ 21 := installed.within
  unfold Database.toApply
  rw [installed.applied]
  interval_cases level <;> rfl

theorem toRollback_of_installed (installed : Installed level left database) :
    database.toRollback = (migrations.take level).reverse := by
  have within : level ≤ 21 := installed.within
  unfold Database.toRollback
  rw [installed.applied]
  interval_cases level <;> rfl

theorem installed_applyOne (installed : Installed level left database)
    (more : level < migrations.length) :
    ∃ after, database.applyOne (migrations.get ⟨level, more⟩) = some after ∧
      Installed (level + 1) (left.apply (level + 1)) after := by
  have number : (migrations.get ⟨level, more⟩).number = level + 1 :=
    number_get ⟨level, more⟩
  have advanced := advances left _ (List.get_mem migrations ⟨level, more⟩)
  rw [Advances, number, Nat.add_sub_cancel, ← installed.schema] at advanced
  refine ⟨⟨(level + 1) :: database.applied,
    schemaAt (left.apply (level + 1)) (level + 1)⟩, ?_, ⟨more, ?_, rfl⟩⟩
  · rw [Database.applyOne, advanced, number, Option.map_some]
  · rw [installed.applied, firstNumbers]

theorem installed_rollbackOne (installed : Installed (level + 1) left database) :
    ∃ after, database.rollbackOne
        (migrations.get ⟨level, installed.within⟩) = some after ∧
      Installed level (left.rollback (level + 1)) after := by
  have number : (migrations.get ⟨level, installed.within⟩).number = level + 1 :=
    number_get ⟨level, installed.within⟩
  have retreated :=
    retreats left _ (List.get_mem migrations ⟨level, installed.within⟩)
  rw [Retreats, number, Nat.add_sub_cancel, ← installed.schema] at retreated
  refine ⟨⟨firstNumbers level, schemaAt (left.rollback (level + 1)) level⟩, ?_,
    ⟨Nat.le_of_succ_le installed.within, rfl, rfl⟩⟩
  rw [Database.rollbackOne, retreated, number, installed.applied,
    Option.map_some, firstNumbers, List.erase_cons_head]

/-- Applying pending migrations, as far as one comes. -/
theorem installed_forEach_applyOne (count : Nat)
    (installed : Installed level left database) :
    ∃ after left', Database.forEach Database.applyOne
        ((migrations.drop level).take count) database = some after ∧
      Installed (min (level + count) migrations.length) left' after := by
  induction count generalizing level left database with
  | zero =>
      rw [Nat.add_zero, Nat.min_eq_left installed.within]
      exact ⟨database, left, rfl, installed⟩
  | succ count ih =>
      by_cases more : level < migrations.length
      · obtain ⟨middle, applied, next⟩ := installed_applyOne installed more
        obtain ⟨after, left', rest, reached⟩ := ih next
        rw [show level + 1 + count = level + (count + 1) by omega] at reached
        refine ⟨after, left', ?_, reached⟩
        rw [List.drop_eq_getElem_cons more, List.take_succ_cons,
          Database.forEach, show migrations[level] =
            migrations.get ⟨level, more⟩ from rfl, applied, Option.bind_some, rest]
      · have full : level = migrations.length :=
          Nat.le_antisymm installed.within (Nat.not_lt.mp more)
        rw [List.drop_eq_nil_of_le full.ge, List.take_nil, full,
          Nat.min_eq_right (Nat.le_add_right _ _)]
        exact ⟨database, left, rfl, full ▸ installed⟩

/-- Rolling migrations back, as far as one comes. -/
theorem installed_forEach_rollbackOne (count : Nat)
    (installed : Installed level left database) :
    ∃ after level' left', Database.forEach Database.rollbackOne
        ((migrations.take level).reverse.take count) database = some after ∧
      Installed level' left' after := by
  induction count generalizing level left database with
  | zero => exact ⟨database, level, left, by simp [Database.forEach], installed⟩
  | succ count ih =>
      cases level with
      | zero => exact ⟨database, 0, left, by simp [Database.forEach], installed⟩
      | succ level =>
          have within : level < migrations.length := installed.within
          obtain ⟨middle, undone, next⟩ := installed_rollbackOne installed
          obtain ⟨after, level', left', rest, reached⟩ := ih next
          refine ⟨after, level', left', ?_, reached⟩
          rw [List.take_succ_eq_append_getElem within, List.reverse_append,
            List.reverse_singleton, List.singleton_append, List.take_succ_cons,
            Database.forEach, show migrations[level] =
              migrations.get ⟨level, within⟩ from rfl, undone,
            Option.bind_some, rest]

theorem slice_eq_take {α : Type} (items : List α) (count : Int) :
    ∃ length, slice items count = items.take length := by
  unfold slice
  split
  · exact ⟨_, rfl⟩
  · exact ⟨_, rfl⟩

theorem reached_eq_take (interrupted : Option Nat) (pending : List Migration) :
    ∃ length, reached interrupted pending = pending.take length := by
  cases interrupted with
  | none => exact ⟨pending.length, pending.take_length.symm⟩
  | some limit => exact ⟨limit, rfl⟩

/-- Every command succeeds, on the schema of some first migrations, and leaves
such a schema. -/
theorem installed_run (command : Command)
    (installed : Installed level left database) :
    ∃ after level' left', run database command = some after ∧
      Installed level' left' after := by
  cases command with
  | apply interrupted =>
      obtain ⟨length, taken⟩ := reached_eq_take interrupted database.toApply
      rw [run, taken, toApply_of_installed installed]
      obtain ⟨after, left', ran, next⟩ := installed_forEach_applyOne length installed
      exact ⟨after, _, left', ran, next⟩
  | rollback count interrupted =>
      obtain ⟨first, sliced⟩ := slice_eq_take database.toRollback count
      obtain ⟨second, taken⟩ :=
        reached_eq_take interrupted (slice database.toRollback count)
      rw [run, taken, sliced, List.take_take, toRollback_of_installed installed]
      exact installed_forEach_rollbackOne _ installed

end Commands

/-- No run of the commands fails, and each leaves the schema of some first
migrations. -/
theorem installed_of_run (commands : List Command) {level : Nat}
    {left : Leftovers} {database : Database}
    (installed : Installed level left database) :
    ∃ final level' left', GuardedRun.exec run database commands = some final ∧
      Installed level' left' final := by
  induction commands generalizing level left database with
  | nil => exact ⟨database, level, left, rfl, installed⟩
  | cons command rest ih =>
      obtain ⟨middle, level', left', ran, next⟩ := installed_run command installed
      obtain ⟨final, level'', left'', runs, last⟩ := ih next
      exact ⟨final, level'', left'',
        GuardedRun.exec_cons_eq_some.mpr ⟨middle, ran, runs⟩, last⟩

/-- The database of a new installation. -/
def Database.complete : Database :=
  ⟨firstNumbers migrations.length, schemaAt {} migrations.length⟩

/-- The last migrations do away with whatever was left behind. -/
theorem eq_complete {left : Leftovers} {database : Database}
    (installed : Installed migrations.length left database) :
    database = .complete := by
  have same : schemaAt left migrations.length = schemaAt {} migrations.length := by
    funext table
    cases table <;> rfl
  obtain ⟨applied, schema⟩ := database
  rw [Database.complete, ← same, ← installed.applied, ← installed.schema]

/-- From wherever rollbacks and interruptions have led, `apply` completes the
installation. -/
theorem run_apply_of_installed {level : Nat} {left : Leftovers}
    {database : Database} (installed : Installed level left database) :
    run database (.apply none) = some .complete := by
  have all : (migrations.drop level).take migrations.length =
      migrations.drop level :=
    List.take_of_length_le (by simp)
  obtain ⟨after, left', ran, next⟩ :=
    installed_forEach_applyOne migrations.length installed
  rw [all] at ran
  rw [Nat.min_eq_right (Nat.le_add_left _ _)] at next
  rw [run, reached, toApply_of_installed installed, ran, eq_complete next]

/-! ## Isolation -/

/-- The column that names the tenant of a row, in the tables under row-level
security. -/
def tenantColumn : TableName → Option ColumnName
  | .tenants => some .id
  | .users => some .tenantId
  | .userPolicies => some .tenantId
  | .tenantPolicies => some .tenantId
  | _ => none

abbrev Row := ColumnName → Option String

/-- The row names the tenant the session is set to. -/
def Own (column : ColumnName) (setting : Option String) (row : Row) : Prop :=
  ∃ tenantId, row column = some tenantId ∧ setting = some tenantId

/-- Sessions of no superuser find and change the rows of their own tenant only,
and insert others only without a tenant. -/
structure Isolates (security : Security PolicyName ColumnName)
    (column : ColumnName) : Prop where
  select : ∀ role setting row, role ≠ .bypass →
    (security.maySelect role setting row = true ↔ Own column setting row)
  update : ∀ role setting row replaced, role ≠ .bypass →
    (security.mayUpdate role setting row replaced = true ↔
      Own column setting row ∧ Own column setting replaced)
  delete : ∀ role setting row, role ≠ .bypass →
    (security.mayDelete role setting row = true ↔ Own column setting row)
  insertOwn : ∀ role setting row, Own column setting row →
    security.mayInsert role setting row = true
  insert : ∀ role setting row, role ≠ .bypass →
    security.mayInsert role setting row = true →
      Own column setting row ∨ setting = none ∨ setting = some ""

theorem binds_of_forced {security : Security PolicyName ColumnName} {role : Role}
    (enabled : security.enabled = true) (forced : security.forced = true)
    (bound : role ≠ .bypass) : security.binds role = true := by
  cases role with
  | bypass => exact absurd rfl bound
  | owner => simp [Security.binds, enabled, forced]
  | other => simp [Security.binds, enabled]

/-- It is enough that each command finds the rows of the own tenant, and that
only these, or rows of a session without tenant, are admitted. -/
theorem isolates_of_finds {security : Security PolicyName ColumnName}
    {column : ColumnName}
    (finds : ∀ role setting row command, role ≠ .bypass → command ≠ .insert →
      (security.finds role setting row command = true ↔ Own column setting row))
    (updates : ∀ role setting row, role ≠ .bypass →
      (security.admits role setting row .update = true ↔ Own column setting row))
    (inserts : ∀ role setting row, Own column setting row →
      security.admits role setting row .insert = true)
    (onlyOwn : ∀ role setting row, role ≠ .bypass →
      security.admits role setting row .insert = true →
        Own column setting row ∨ setting = none ∨ setting = some "") :
    Isolates security column where
  select role setting row bound := finds role setting row .select bound (by simp)
  update role setting row replaced bound := by
    simp only [Security.mayUpdate, Security.maySelect, Bool.and_eq_true,
      finds role setting _ .select bound (by simp),
      finds role setting _ .update bound (by simp), updates role setting _ bound]
    tauto
  delete role setting row bound := by
    simp only [Security.mayDelete, Security.maySelect, Bool.and_eq_true,
      finds role setting _ .select bound (by simp),
      finds role setting _ .delete bound (by simp), and_self]
  insertOwn role setting row := inserts role setting row
  insert role setting row := onlyOwn role setting row

theorem passes_ofTenant {column : ColumnName} {setting : Option String}
    {row : Row} :
    (ofTenant column).Passes setting row ↔ Own column setting row :=
  Condition.passes_isSetting

theorem passes_ofTenantOrNone {column : ColumnName} {setting : Option String}
    {row : Row} :
    (ofTenantOrNone column).Passes setting row ↔
      (setting = none ∨ setting = some "") ∨ Own column setting row := by
  simp [ofTenantOrNone, Own]

section Policies

variable {security : Security PolicyName ColumnName} {column : ColumnName}
variable {names : PolicyNames}

/-- One policy for each command isolates a table. -/
theorem isolates_each (enabled : security.enabled = true)
    (forced : security.forced = true)
    (policies : security.policies = names.each column) :
    Isolates security column := by
  refine isolates_of_finds ?_ ?_ ?_ ?_
  · intro role setting row command bound notInsert
    rw [Security.finds_iff (binds_of_forced enabled forced bound), policies]
    cases command with
    | insert => exact absurd rfl notInsert
    | _ => simp [PolicyNames.each, Policy.Covers, passes_ofTenant]
  · intro role setting row bound
    rw [Security.admits_iff (binds_of_forced enabled forced bound), policies]
    simp [PolicyNames.each, Policy.Covers, passes_ofTenant]
  · intro role setting row own
    by_cases bound : security.binds role = true
    · rw [Security.admits_iff bound, policies]
      simp [PolicyNames.each, Policy.Covers, passes_ofTenantOrNone, own]
    · exact Security.admits_of_not_binds (Bool.eq_false_iff.mpr bound)
  · intro role setting row bound admitted
    rw [Security.admits_iff (binds_of_forced enabled forced bound), policies]
      at admitted
    simp only [PolicyNames.each, Policy.Covers, List.mem_cons, List.not_mem_nil,
      or_false] at admitted
    simpa [passes_ofTenantOrNone, or_comm, or_assoc] using admitted

theorem isolates_forAll {policy : TablePolicy} (enabled : security.enabled = true)
    (forced : security.forced = true) (policies : security.policies = [policy])
    (covers : policy.command = none) (rows : policy.rows = some (ofTenant column))
    (check : policy.check.or policy.rows = some (ofTenant column)) :
    Isolates security column := by
  have finds (role setting row command) (bound : role ≠ Role.bypass) :
      security.finds role setting row command = true ↔ Own column setting row := by
    rw [Security.finds_iff (binds_of_forced enabled forced bound), policies]
    simp [Policy.Covers, covers, rows, passes_ofTenant]
  have admits (role setting row command) (bound : role ≠ Role.bypass) :
      security.admits role setting row command = true ↔ Own column setting row := by
    rw [Security.admits_iff (binds_of_forced enabled forced bound), policies]
    simp only [List.mem_singleton, exists_eq_left, Policy.Covers, covers,
      true_or, true_and, check, Option.some.injEq, exists_eq_left',
      passes_ofTenant]
  refine isolates_of_finds (fun role setting row command bound _ =>
    finds role setting row command bound)
    (fun role setting row bound => admits role setting row .update bound) ?_ ?_
  · intro role setting row own
    by_cases unbound : role = .bypass
    · exact Security.admits_of_not_binds (by simp [Security.binds, unbound])
    · exact (admits role setting row .insert unbound).mpr own
  · intro role setting row bound admitted
    exact .inl ((admits role setting row .insert bound).mp admitted)

end Policies

/-- The policies of three tables isolate them from `0013_force_rls_on_tables`
on, whatever was left behind. -/
theorem isolates_isolation {names : PolicyNames} {column : ColumnName}
    {level : Nat} (forced : 13 ≤ level) (restored : Bool) :
    Isolates (isolation names column level restored) column := by
  have enabled : 6 ≤ level := by omega
  by_cases each : 16 ≤ level ∨ restored = false
  · have policies : (isolation names column level restored).policies =
        names.each column := by
      rcases each with fixed | rfl <;> simp [isolation, *]
    exact isolates_each (by simp [isolation, enabled])
      (by simp [isolation, forced]) policies
  · obtain ⟨before, isRestored⟩ := not_or.mp each
    have policies : (isolation names column level restored).policies =
        [names.forAll column] := by
      simp [isolation, before, Bool.eq_true_of_not_eq_false isRestored]
    exact isolates_forAll (by simp [isolation, enabled])
      (by simp [isolation, forced]) policies rfl rfl rfl

theorem isolates_schemaAt {left : Leftovers} {level : Nat} {table : TableName}
    {column : ColumnName} (forced : 13 ≤ level)
    (named : tenantColumn table = some column) :
    ∃ state, schemaAt left level table = some state ∧
      Isolates state.security column := by
  have created (number : Nat) (state : TableState) (early : number ≤ 13) :
      since number level state = some state := by
    rw [since, if_pos (by omega)]
  cases table with
  | tenants =>
      cases named
      exact ⟨_, created 1 _ (by omega), isolates_isolation forced _⟩
  | users =>
      cases named
      exact ⟨_, created 2 _ (by omega), isolates_isolation forced _⟩
  | userPolicies =>
      cases named
      exact ⟨_, created 3 _ (by omega), isolates_isolation forced _⟩
  | tenantPolicies =>
      cases named
      have enabled : 12 ≤ level := by omega
      refine ⟨_, created 8 _ (by omega),
        @isolates_forAll _ _ tenantPoliciesPolicy ?_ ?_ ?_ rfl rfl rfl⟩
      · simp [enabled]
      · simp [forced]
      · simp [enabled]
  | _ => cases named

/-- The tables without a tenant column are open to every session. -/
theorem open_schemaAt {left : Leftovers} {level : Nat} {table : TableName}
    {state : TableState} (other : tenantColumn table = none)
    (held : schemaAt left level table = some state) (role : Role) :
    state.security.binds role = false := by
  have ofSince {created : Nat} {given : TableState}
      (found : since created level given = some state)
      (disabled : given.security.enabled = false) :
      state.security.binds role = false := by
    unfold since at found
    split at found
    · cases found
      simp [Security.binds, disabled]
    · cases found
  cases table with
  | tenants => cases other
  | users => cases other
  | userPolicies => cases other
  | tenantPolicies => cases other
  | _ => exact ofSince held rfl

/-! ## What every run leaves -/

/-- The migrations were applied from the first one on, and none without those
it depends on; an `apply` completes them, to the database of a new installation;
and once row-level security is forced it isolates the tenants in the four tables
that have policies, and restricts no other table. -/
structure WellMigrated (database : Database) : Prop where
  initial : ∃ level, database.applied = firstNumbers level
  dependencies : ∀ migration ∈ migrations, migration.number ∈ database.applied →
    ∀ number ∈ migration.depends, number ∈ database.applied
  completes : run database (.apply none) = run .fresh (.apply none)
  isolated : forceRlsOnTables.number ∈ database.applied →
    ∀ table column, tenantColumn table = some column →
      ∃ state, database.schema table = some state ∧
        Isolates state.security column
  others : ∀ table state, tenantColumn table = none →
    database.schema table = some state → ∀ role,
      state.security.binds role = false

theorem depends_lt :
    ∀ migration ∈ migrations, ∀ number ∈ migration.depends,
      0 < number ∧ number < migration.number := by
  decide

theorem wellMigrated_of_installed {level : Nat} {left : Leftovers}
    {database : Database} (installed : Installed level left database) :
    WellMigrated database where
  initial := ⟨level, installed.applied⟩
  dependencies := by
    intro migration member applied number depends
    obtain ⟨positive, smaller⟩ := depends_lt migration member number depends
    rw [installed.applied, mem_firstNumbers] at applied ⊢
    omega
  completes := by
    rw [run_apply_of_installed installed, run_apply_of_installed installed_fresh]
  isolated := by
    intro forced table column named
    rw [installed.applied, mem_firstNumbers] at forced
    rw [installed.schema]
    exact isolates_schemaAt forced.2 named
  others := by
    intro table state other held role
    rw [installed.schema] at held
    exact open_schemaAt other held role

/-- Whatever sequence of `apply` and `rollback` commands is run on a new
database, cut short anywhere, none fails and the result is well migrated. -/
theorem wellMigrated_of_run (commands : List Command) :
    ∃ final, GuardedRun.exec run .fresh commands = some final ∧
      WellMigrated final := by
  obtain ⟨final, level, left, runs, installed⟩ :=
    installed_of_run commands installed_fresh
  exact ⟨final, runs, wellMigrated_of_installed installed⟩

end Migrations

end HexIam
