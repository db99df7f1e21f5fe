import HexIam.GuardedRun
import HexIam.RowSecurity

/-!
# The migrations

The migrations of `database/migrations`, with the statements that create and
drop tables, change columns and set up row-level security, and the commands of
`run_migrations`.  Of the columns of a table only those are kept that a policy
reads or that a later migration adds or alters; indexes are left out.
-/

namespace HexIam

open RowSecurity

namespace Migrations

/-! ## Names -/

inductive TableName : Type
  | tenants
  | users
  | userPolicies
  | userSessions
  | auditLogs
  | refreshTokens
  | tenantPolicies
  | oidcClients
  | authorizationCodes
  | userInvitations
  | totpSecrets
  | identityProviders
  | federatedIdentities
  | federationAuthTransactions
  deriving DecidableEq, Repr

inductive ColumnName : Type
  | id
  | tenantId
  | createdAt
  | expiresAt
  | authorizationScopes
  | tokenEndpointAuthMethod
  | claimsSource
  | linkByEmailVerifiedOnly
  | defaultRole
  deriving DecidableEq, Repr

inductive ColumnType : Type
  | varchar (length : Nat)
  | text
  | boolean
  | timestamp
  | timestamptz
  deriving DecidableEq, Repr

inductive ConstraintName : Type
  | checkMfaSettings
  deriving DecidableEq, Repr

inductive PolicyName : Type
  | tenantIsolationUsers
  | tenantIsolationUsersRead
  | tenantUsersInsert
  | tenantIsolationUsersUpdate
  | tenantIsolationUsersDelete
  | tenantIsolationUserPolicies
  | tenantIsolationUserPoliciesRead
  | tenantUserPoliciesInsert
  | tenantIsolationUserPoliciesUpdate
  | tenantIsolationUserPoliciesDelete
  | tenantIsolationTenantPolicies
  | tenantIsolationTenantsRead
  | tenantAllowInsert
  | tenantIsolationTenantsModify
  | tenantIsolationTenantsDelete
  | tenantIsolationOnTenantPolicies
  deriving DecidableEq, Repr

/-! ## Schemas -/

abbrev TablePolicy := Policy PolicyName ColumnName

/-- A table of the database. -/
structure TableState where
  columns : List (ColumnName × ColumnType)
  references : List TableName := []
  constraints : List ConstraintName := []
  security : Security PolicyName ColumnName := {}
  deriving DecidableEq, Repr

/-- The tables of a database. -/
abbrev Schema := TableName → Option TableState

/-- A database without tables. -/
def Schema.empty : Schema :=
  fun _ => none

/-- The statements of the migrations. -/
inductive Ddl : Type
  | createTable (table : TableName) (ifNotExists : Bool)
      (columns : List (ColumnName × ColumnType)) (references : List TableName)
  /-- `DROP TABLE .. CASCADE`, which drops the foreign keys to the table. -/
  | dropTable (table : TableName) (ifExists : Bool)
  | addConstraint (table : TableName) (constraint : ConstraintName)
  | dropConstraint (table : TableName) (constraint : ConstraintName)
  /-- `ADD COLUMN IF NOT EXISTS` -/
  | addColumn (table : TableName) (column : ColumnName) (type : ColumnType)
  /-- `DROP COLUMN IF EXISTS` -/
  | dropColumn (table : TableName) (column : ColumnName)
  | alterType (table : TableName) (column : ColumnName) (type : ColumnType)
  | enableRowSecurity (table : TableName) (enabled : Bool)
  | forceRowSecurity (table : TableName) (forced : Bool)
  | createPolicy (table : TableName) (policy : TablePolicy)
  /-- `CREATE POLICY` where `pg_policies` has none of this name. -/
  | createPolicyIfNotExists (table : TableName) (policy : TablePolicy)
  | dropPolicyIfExists (table : TableName) (policy : PolicyName)
  deriving DecidableEq, Repr

namespace TableState

/-- The table has a column of this name. -/
def hasColumn (table : TableState) (column : ColumnName) : Bool :=
  table.columns.any fun held => held.1 = column

/-- The table has a policy of this name. -/
def hasPolicy (table : TableState) (policy : PolicyName) : Bool :=
  table.security.policies.any fun held => held.name = policy

/-- Change the row-level security of the table. -/
def secure (table : TableState)
    (change : Security PolicyName ColumnName → Security PolicyName ColumnName) :
    TableState :=
  { table with security := change table.security }

/-- Add a policy to the table. -/
def addPolicy (table : TableState) (policy : TablePolicy) : TableState :=
  table.secure fun security =>
    { security with policies := security.policies ++ [policy] }

/-- Drop the foreign keys to another table. -/
def dropReferences (table : TableState) (other : TableName) : TableState :=
  { table with
    references := table.references.filter fun name => name ≠ other }

end TableState

/-- Change one table, which must exist. -/
def Schema.alter (schema : Schema) (table : TableName)
    (change : TableState → Option TableState) : Option Schema :=
  match schema table with
  | none => none
  | some state =>
      match change state with
      | none => none
      | some changed => some (Function.update schema table (some changed))

/-- The schema after a statement; none where PostgreSQL refuses it. -/
def Ddl.exec (schema : Schema) : Ddl → Option Schema
  | .createTable table ifNotExists columns references =>
      if (schema table).isSome then
        if ifNotExists then some schema else none
      else if references.all fun name => (schema name).isSome then
        some (Function.update schema table
          (some { columns := columns, references := references }))
      else none
  | .dropTable table ifExists =>
      if (schema table).isSome || ifExists then
        some fun name =>
          if name = table then none
          else (schema name).map fun state => state.dropReferences table
      else none
  | .addConstraint table constraint =>
      schema.alter table fun state =>
        if constraint ∈ state.constraints then none
        else some { state with constraints := state.constraints ++ [constraint] }
  | .dropConstraint table constraint =>
      schema.alter table fun state =>
        if constraint ∈ state.constraints then
          some { state with constraints := state.constraints.erase constraint }
        else none
  | .addColumn table column type =>
      schema.alter table fun state =>
        if state.hasColumn column then some state
        else some { state with columns := state.columns ++ [(column, type)] }
  | .dropColumn table column =>
      schema.alter table fun state =>
        some { state with
          columns := state.columns.filter fun held => held.1 ≠ column }
  | .alterType table column type =>
      schema.alter table fun state =>
        if state.hasColumn column then
          some { state with
            columns := state.columns.map fun held =>
              if held.1 = column then (column, type) else held }
        else none
  | .enableRowSecurity table enabled =>
      schema.alter table fun state =>
        some (state.secure fun security => { security with enabled := enabled })
  | .forceRowSecurity table forced =>
      schema.alter table fun state =>
        some (state.secure fun security => { security with forced := forced })
  | .createPolicy table policy =>
      schema.alter table fun state =>
        if state.hasPolicy policy.name then none
        else some (state.addPolicy policy)
  | .createPolicyIfNotExists table policy =>
      schema.alter table fun state =>
        some (if state.hasPolicy policy.name then state
          else state.addPolicy policy)
  | .dropPolicyIfExists table policy =>
      schema.alter table fun state =>
        some (state.secure fun security =>
          { security with
            policies := security.policies.filter fun held =>
              held.name ≠ policy })

/-- The schema after a list of statements, each of which must succeed. -/
def execAll : List Ddl → Schema → Option Schema
  | [], schema => some schema
  | ddl :: rest, schema =>
      match ddl.exec schema with
      | none => none
      | some changed => execAll rest changed

/-! ## Migrations -/

/-- `step(apply, rollback)`. -/
structure MigrationStep where
  apply : List Ddl
  rollback : List Ddl

/-- A file of `database/migrations`. -/
structure Migration where
  number : Nat
  depends : List Nat := []
  steps : List MigrationStep

/-- Applying a migration performs its steps in order. -/
def Migration.applied (migration : Migration) (schema : Schema) : Option Schema :=
  execAll (migration.steps.flatMap MigrationStep.apply) schema

/-- Rolling a migration back performs the rollbacks of its steps in reverse. -/
def Migration.rolledBack (migration : Migration) (schema : Schema) :
    Option Schema :=
  execAll (migration.steps.reverse.flatMap MigrationStep.rollback) schema

/-! ## Policies of the migrations -/

/-- `column = current_setting('app.tenant_id', true)`. -/
def ofTenant (column : ColumnName) : Condition ColumnName :=
  .isSetting column

/-- `current_setting(..) IS NULL OR current_setting(..) = '' OR column = ..`. -/
def ofTenantOrNone (column : ColumnName) : Condition ColumnName :=
  .or (.or .settingNull (.settingIs "")) (.isSetting column)

/-- The names of the policies on one table: the one for every command that the
first version had, and those for each command. -/
structure PolicyNames where
  all : PolicyName
  read : PolicyName
  insert : PolicyName
  update : PolicyName
  delete : PolicyName

def usersNames : PolicyNames where
  all := .tenantIsolationUsers
  read := .tenantIsolationUsersRead
  insert := .tenantUsersInsert
  update := .tenantIsolationUsersUpdate
  delete := .tenantIsolationUsersDelete

def userPoliciesNames : PolicyNames where
  all := .tenantIsolationUserPolicies
  read := .tenantIsolationUserPoliciesRead
  insert := .tenantUserPoliciesInsert
  update := .tenantIsolationUserPoliciesUpdate
  delete := .tenantIsolationUserPoliciesDelete

def tenantsNames : PolicyNames where
  all := .tenantIsolationTenantPolicies
  read := .tenantIsolationTenantsRead
  insert := .tenantAllowInsert
  update := .tenantIsolationTenantsModify
  delete := .tenantIsolationTenantsDelete

namespace PolicyNames

/-- The policies for each command. -/
def each (names : PolicyNames) (column : ColumnName) : List TablePolicy :=
  [⟨names.read, some .select, some (ofTenant column), none⟩,
    ⟨names.insert, some .insert, none, some (ofTenantOrNone column)⟩,
    ⟨names.update, some .update, some (ofTenant column), none⟩,
    ⟨names.delete, some .delete, some (ofTenant column), none⟩]

/-- The policy for every command. -/
def forAll (names : PolicyNames) (column : ColumnName) : TablePolicy :=
  ⟨names.all, none, some (ofTenant column), none⟩

/-- The names of the policies for each command. -/
def eachName (names : PolicyNames) : List PolicyName :=
  [names.read, names.insert, names.update, names.delete]

/-- A block of `0006_enable_row_level_security`. -/
def enableStep (names : PolicyNames) (table : TableName) (column : ColumnName) :
    MigrationStep where
  apply := .dropPolicyIfExists table names.all ::
    (names.each column).map (.createPolicyIfNotExists table)
  rollback := names.eachName.map (.dropPolicyIfExists table)

/-- A block of `0016_fix_rls_for_onboarding`. -/
def fixStep (names : PolicyNames) (table : TableName) (column : ColumnName) :
    MigrationStep where
  apply := (names.all :: names.eachName).map (.dropPolicyIfExists table) ++
    (names.each column).map (.createPolicy table)
  rollback := names.eachName.map (.dropPolicyIfExists table) ++
    [.createPolicy table (names.forAll column)]

end PolicyNames

/-- The policy of `0012_enable_rls_tenant_policies`. -/
def tenantPoliciesPolicy : TablePolicy :=
  ⟨.tenantIsolationOnTenantPolicies, none, some (ofTenant .tenantId),
    some (ofTenant .tenantId)⟩

/-! ## The files -/

/-- `CREATE TABLE IF NOT EXISTS`, undone by `DROP TABLE IF EXISTS .. CASCADE`. -/
def createStep (table : TableName) (columns : List (ColumnName × ColumnType))
    (references : List TableName) : MigrationStep where
  apply := [.createTable table true columns references]
  rollback := [.dropTable table true]

/-- `ENABLE ROW LEVEL SECURITY`. -/
def enableRowSecurityStep (table : TableName) : MigrationStep where
  apply := [.enableRowSecurity table true]
  rollback := [.enableRowSecurity table false]

/-- `FORCE ROW LEVEL SECURITY`. -/
def forceRowSecurityStep (table : TableName) : MigrationStep where
  apply := [.forceRowSecurity table true]
  rollback := [.forceRowSecurity table false]

/-- `ALTER COLUMN .. TYPE TIMESTAMPTZ`, undone by `TYPE TIMESTAMP`. -/
def timestamptzStep (table : TableName) : MigrationStep where
  apply := [.alterType table .expiresAt .timestamptz,
    .alterType table .createdAt .timestamptz]
  rollback := [.alterType table .expiresAt .timestamp,
    .alterType table .createdAt .timestamp]

/-- `ADD COLUMN IF NOT EXISTS`, undone by `DROP COLUMN IF EXISTS`. -/
def addColumnStep (table : TableName) (column : ColumnName) (type : ColumnType) :
    MigrationStep where
  apply := [.addColumn table column type]
  rollback := [.dropColumn table column]

def createTenants : Migration where
  number := 1
  steps := [createStep .tenants [(.id, .varchar 50)] [],
    ⟨[.addConstraint .tenants .checkMfaSettings],
      [.dropConstraint .tenants .checkMfaSettings]⟩]

def createUsers : Migration where
  number := 2
  depends := [1]
  steps := [createStep .users [(.tenantId, .varchar 50)] [.tenants]]

def createUserPolicies : Migration where
  number := 3
  depends := [2]
  steps := [createStep .userPolicies [(.tenantId, .varchar 50)]
    [.tenants, .users]]

def createUserSessions : Migration where
  number := 4
  depends := [2]
  steps := [createStep .userSessions
    [(.tenantId, .varchar 50), (.createdAt, .timestamptz),
      (.expiresAt, .timestamptz)] [.users, .tenants]]

def createAuditLogs : Migration where
  number := 5
  steps := [createStep .auditLogs [] []]

def enableRowLevelSecurity : Migration where
  number := 6
  depends := [3]
  steps := [enableRowSecurityStep .users, enableRowSecurityStep .userPolicies,
    enableRowSecurityStep .tenants, usersNames.enableStep .users .tenantId,
    userPoliciesNames.enableStep .userPolicies .tenantId,
    tenantsNames.enableStep .tenants .id]

def createRefreshTokens : Migration where
  number := 7
  depends := [2]
  steps := [createStep .refreshTokens
    [(.tenantId, .varchar 50), (.expiresAt, .timestamp),
      (.createdAt, .timestamp)] [.users, .tenants]]

def createTenantPolicies : Migration where
  number := 8
  depends := [1]
  steps := [createStep .tenantPolicies [(.tenantId, .varchar 50)] [.tenants]]

def createOidcClients : Migration where
  number := 9
  depends := [1]
  steps := [createStep .oidcClients [(.tenantId, .varchar 50)] [.tenants]]

def createAuthorizationCodes : Migration where
  number := 10
  depends := [9, 2]
  steps := [createStep .authorizationCodes
    [(.tenantId, .varchar 50), (.expiresAt, .timestamptz),
      (.createdAt, .timestamptz)] [.oidcClients, .users, .tenants]]

def createUserInvitations : Migration where
  number := 11
  depends := [1, 9]
  steps := [createStep .userInvitations [(.tenantId, .varchar 50)]
    [.tenants, .oidcClients]]

def enableRlsTenantPolicies : Migration where
  number := 12
  depends := [8]
  steps := [enableRowSecurityStep .tenantPolicies,
    ⟨[.createPolicyIfNotExists .tenantPolicies tenantPoliciesPolicy],
      [.dropPolicyIfExists .tenantPolicies tenantPoliciesPolicy.name]⟩]

def forceRlsOnTables : Migration where
  number := 13
  depends := [12]
  steps := [forceRowSecurityStep .users, forceRowSecurityStep .userPolicies,
    forceRowSecurityStep .tenants, forceRowSecurityStep .tenantPolicies]

def alterTimestampOnAuthorizationCodes : Migration where
  number := 14
  depends := [13]
  steps := [timestamptzStep .authorizationCodes]

def fixTimestampColumns : Migration where
  number := 15
  depends := [14]
  steps := [timestamptzStep .refreshTokens, timestamptzStep .userSessions]

def fixRlsForOnboarding : Migration where
  number := 16
  depends := [6]
  steps := [usersNames.fixStep .users .tenantId,
    userPoliciesNames.fixStep .userPolicies .tenantId,
    tenantsNames.fixStep .tenants .id]

/-- The table is created without `IF NOT EXISTS` and dropped without
`IF EXISTS`; no foreign key refers to it. -/
def createTotpSecrets : Migration where
  number := 17
  depends := [9]
  steps := [⟨[.createTable .totpSecrets false [(.tenantId, .varchar 50)]
    [.tenants]], [.dropTable .totpSecrets false]⟩]

def createIdentityProviders : Migration where
  number := 18
  depends := [1]
  steps := [createStep .identityProviders [(.tenantId, .varchar 50)] [.tenants]]

def createFederatedIdentities : Migration where
  number := 19
  depends := [18, 2]
  steps := [createStep .federatedIdentities [(.tenantId, .varchar 50)]
    [.tenants, .identityProviders, .users]]

def createFederationAuthTransactions : Migration where
  number := 20
  depends := [18, 9]
  steps := [createStep .federationAuthTransactions [(.tenantId, .varchar 50)]
    [.tenants, .identityProviders, .oidcClients]]

def extendIdentityProvidersForOidcInterop : Migration where
  number := 21
  depends := [18]
  steps := [addColumnStep .identityProviders .authorizationScopes .text,
    addColumnStep .identityProviders .tokenEndpointAuthMethod (.varchar 40),
    addColumnStep .identityProviders .claimsSource (.varchar 20),
    addColumnStep .identityProviders .linkByEmailVerifiedOnly .boolean,
    addColumnStep .identityProviders .defaultRole (.varchar 50)]

/-- `read_migrations`: the files in the order of their names. -/
def migrations : List Migration :=
  [createTenants, createUsers, createUserPolicies, createUserSessions,
    createAuditLogs, enableRowLevelSecurity, createRefreshTokens,
    createTenantPolicies, createOidcClients, createAuthorizationCodes,
    createUserInvitations, enableRlsTenantPolicies, forceRlsOnTables,
    alterTimestampOnAuthorizationCodes, fixTimestampColumns,
    fixRlsForOnboarding, createTotpSecrets, createIdentityProviders,
    createFederatedIdentities, createFederationAuthTransactions,
    extendIdentityProvidersForOidcInterop]

/-! ## The runner -/

/-- A database with the numbers of the migrations recorded as applied. -/
structure Database where
  applied : List Nat
  schema : Schema

/-- A database no migration was applied to. -/
def Database.fresh : Database :=
  ⟨[], .empty⟩

namespace Database

/-- `backend.to_apply`: the migrations not applied yet.  The order of the files
is one that the dependencies allow, and yoyo keeps it. -/
def toApply (database : Database) : List Migration :=
  migrations.filter fun migration => migration.number ∉ database.applied

/-- `backend.to_rollback`: the applied migrations, in reverse. -/
def toRollback (database : Database) : List Migration :=
  (migrations.filter fun migration =>
    migration.number ∈ database.applied).reverse

/-- Apply one migration and record it, in one transaction. -/
def applyOne (database : Database) (migration : Migration) : Option Database :=
  (migration.applied database.schema).map fun schema =>
    ⟨migration.number :: database.applied, schema⟩

/-- Roll one migration back and remove its record, in one transaction. -/
def rollbackOne (database : Database) (migration : Migration) :
    Option Database :=
  (migration.rolledBack database.schema).map fun schema =>
    ⟨database.applied.erase migration.number, schema⟩

/-- Perform an action for each migration of a list, until one fails. -/
def forEach (action : Database → Migration → Option Database) :
    List Migration → Database → Option Database
  | [], database => some database
  | migration :: rest, database =>
      (action database migration).bind (forEach action rest)

end Database

/-- `items[:count]`. -/
def slice {α : Type} (items : List α) (count : Int) : List α :=
  if 0 ≤ count then items.take count.toNat
  else items.take (items.length - (-count).toNat)

/-- The commands that change a database: `apply`, at the start of a worker or
from the command line, and `rollback`.  Either may be cut short after some of
its migrations. -/
inductive Command : Type
  | apply (interrupted : Option Nat)
  | rollback (count : Int) (interrupted : Option Nat)

/-- The migrations a command comes to. -/
def reached (interrupted : Option Nat) (migrations : List Migration) :
    List Migration :=
  match interrupted with
  | none => migrations
  | some limit => migrations.take limit

/-- A command of `run_migrations`; none where a migration raises. -/
def run (database : Database) : Command → Option Database
  | .apply interrupted =>
      Database.forEach Database.applyOne
        (reached interrupted database.toApply) database
  | .rollback count interrupted =>
      Database.forEach Database.rollbackOne
        (reached interrupted (slice database.toRollback count)) database

end Migrations

end HexIam
