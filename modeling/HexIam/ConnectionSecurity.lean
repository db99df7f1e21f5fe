import HexIam.Database
import HexIam.MigrationRuns

/-!
# Connections under row-level security

The statements of the development filter rows by `Connection.sees` and
`Connection.mayInsert`.  This file shows that these are what the migrations
install: the service owns its tables, sets `app.tenant_id` on its connections,
and uses the connections of a superuser for onboarding and signup.
-/

namespace HexIam

open RowSecurity Migrations

namespace Connection

/-- The role a connection has on the tables: the pool of the superuser, or the
one of the user that runs the migrations. -/
def role (db : Connection) : Role :=
  match db.tenant with
  | none => .bypass
  | some _ => .owner

end Connection

namespace ConnectionSecurity

/-- A table whose security decides as connections do. -/
structure Serves (security : Security PolicyName ColumnName)
    (column : ColumnName) (mayInsert : Connection → String → Bool) : Prop where
  select : ∀ (db : Connection) row tenantId, row column = some tenantId →
    security.maySelect db.role db.tenant row = db.sees tenantId
  update : ∀ (db : Connection) row tenantId replaced tenantId',
    row column = some tenantId → replaced column = some tenantId' →
      security.mayUpdate db.role db.tenant row replaced =
        (db.sees tenantId && db.sees tenantId')
  delete : ∀ (db : Connection) row tenantId, row column = some tenantId →
    security.mayDelete db.role db.tenant row = db.sees tenantId
  insert : ∀ (db : Connection) row tenantId, row column = some tenantId →
    security.mayInsert db.role db.tenant row = mayInsert db tenantId

variable {security : Security PolicyName ColumnName} {column : ColumnName}

theorem own_iff {row : Row} {current tenantId : String}
    (named : row column = some tenantId) :
    Own column (some current) row ↔ (⟨some current⟩ : Connection).sees tenantId =
      true := by
  simp [Own, named, Connection.sees, eq_comm]

theorem serves_of_isolates {mayInsert : Connection → String → Bool}
    (isolates : Isolates security column)
    (insert : ∀ (db : Connection) row tenantId, row column = some tenantId →
      security.mayInsert db.role db.tenant row = mayInsert db tenantId) :
    Serves security column mayInsert where
  insert := insert
  select := by
    rintro ⟨_ | current⟩ row tenantId named
    · exact Security.finds_of_not_binds (by simp [Security.binds, Connection.role])
    · rw [Bool.eq_iff_iff, ← own_iff named]
      exact isolates.select .owner (some current) row (by simp)
  update := by
    rintro ⟨_ | current⟩ row tenantId replaced tenantId' named namedToo
    · have unbound : security.binds Role.bypass = false := by
        simp [Security.binds]
      simp [Security.mayUpdate, Security.maySelect, Connection.role,
        Security.finds_of_not_binds unbound,
        Security.admits_of_not_binds unbound, Connection.sees]
    · rw [Bool.eq_iff_iff, Bool.and_eq_true, ← own_iff named, ← own_iff namedToo]
      exact isolates.update .owner (some current) row replaced (by simp)
  delete := by
    rintro ⟨_ | current⟩ row tenantId named
    · have unbound : security.binds Role.bypass = false := by
        simp [Security.binds]
      simp [Security.mayDelete, Security.maySelect, Connection.role,
        Security.finds_of_not_binds unbound, Connection.sees]
    · rw [Bool.eq_iff_iff, ← own_iff named]
      exact isolates.delete .owner (some current) row (by simp)

theorem mayInsert_each {names : PolicyNames} (enabled : security.enabled = true)
    (forced : security.forced = true)
    (policies : security.policies = names.each column) (db : Connection)
    (row : Row) (tenantId : String) (named : row column = some tenantId) :
    security.mayInsert db.role db.tenant row = db.mayInsert tenantId := by
  obtain ⟨_ | current⟩ := db
  · exact Security.admits_of_not_binds (by simp [Security.binds, Connection.role])
  · have bound : security.binds .owner = true :=
      binds_of_forced enabled forced (by simp)
    rw [Bool.eq_iff_iff, Security.mayInsert]
    refine (Security.admits_iff bound).trans ?_
    rw [policies]
    simp [PolicyNames.each, Policy.Covers, passes_ofTenantOrNone, own_iff named,
      Connection.mayInsert]

theorem mayInsert_isolated (isolates : Isolates security column)
    (onlyOwn : ∀ setting row, security.mayInsert .owner setting row = true →
      Own column setting row) (db : Connection) (row : Row) (tenantId : String)
    (named : row column = some tenantId) :
    security.mayInsert db.role db.tenant row = db.sees tenantId := by
  obtain ⟨_ | current⟩ := db
  · exact Security.admits_of_not_binds (by simp [Security.binds, Connection.role])
  · rw [Bool.eq_iff_iff, ← own_iff named]
    exact ⟨onlyOwn (some current) row,
      isolates.insertOwn .owner (some current) row⟩

/-- Whether a connection may insert a row of a tenant into a table. -/
def insertRule (table : TableName) : Connection → String → Bool :=
  if table = .tenantPolicies then Connection.sees else Connection.mayInsert

theorem serves_schemaAt {left : Leftovers} {level : Nat} {table : TableName}
    (fixed : 16 ≤ level) (named : tenantColumn table = some column) :
    ∃ state, schemaAt left level table = some state ∧
      Serves state.security column (insertRule table) := by
  have forced : 13 ≤ level := by omega
  have enabled : 6 ≤ level := by omega
  obtain ⟨state, held, isolates⟩ := @isolates_schemaAt left level table column forced named
  refine ⟨state, held, serves_of_isolates isolates ?_⟩
  have created {number : Nat} {given : TableState}
      (found : since number level given = some state) :
      state.security = given.security := by
    unfold since at found
    split at found
    · cases found
      rfl
    · cases found
  have each (names : PolicyNames) (restored : Bool)
      (isolated : state.security = isolation names column level restored) :
      ∀ (db : Connection) row tenantId, row column = some tenantId →
        state.security.mayInsert db.role db.tenant row = db.mayInsert tenantId :=
    @mayInsert_each _ _ names (by simp [isolated, isolation, enabled])
      (by simp [isolated, isolation, forced])
      (by simp [isolated, isolation, fixed])
  cases table with
  | tenants =>
      cases named
      exact each tenantsNames _ (created held)
  | users =>
      cases named
      exact each usersNames _ (created held)
  | userPolicies =>
      cases named
      exact each userPoliciesNames _ (created held)
  | tenantPolicies =>
      cases named
      refine mayInsert_isolated isolates fun setting row admitted => ?_
      have policy : 12 ≤ level := by omega
      have bound : state.security.binds .owner = true := by
        simp [created held, Security.binds, policy, forced]
      rw [Security.mayInsert, Security.admits_iff bound, created held] at admitted
      simpa [policy, tenantPoliciesPolicy, Policy.Covers, passes_ofTenant]
        using admitted
  | _ => cases named

/-- Whatever the history of the migrations, once `0016_fix_rls_for_onboarding`
is applied the tables under row-level security serve the connections of the
service. -/
theorem serves_of_run (commands : List Migrations.Command) :
    ∃ final, GuardedRun.exec run .fresh commands = some final ∧
      (fixRlsForOnboarding.number ∈ final.applied →
        ∀ table column, tenantColumn table = some column →
          ∃ state, final.schema table = some state ∧
            Serves state.security column (insertRule table)) := by
  obtain ⟨final, level, left, runs, installed⟩ :=
    installed_of_run commands installed_fresh
  refine ⟨final, runs, fun applied table column named => ?_⟩
  rw [installed.applied, mem_firstNumbers] at applied
  rw [installed.schema]
  exact serves_schemaAt applied.2 named

end ConnectionSecurity

end HexIam
