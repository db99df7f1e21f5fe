import Mathlib.Data.Option.Basic
import Mathlib.Logic.Function.Basic

/-!
# Row-level security

The row-level security of PostgreSQL, for policies that compare the columns of
a row with one setting of the session.  Conditions are three-valued: a policy
lets a row pass only where its condition is true, and is neither when a
compared value is NULL.  Policies are permissive, so one of them suffices.
-/

namespace RowSecurity

/-! ## Conditions -/

/-- A condition on a row and on the setting of the session. -/
inductive Condition (Column : Type) : Type
  /-- `column = current_setting(.., true)` -/
  | isSetting (column : Column)
  /-- `current_setting(.., true) IS NULL` -/
  | settingNull
  /-- `current_setting(.., true) = text` -/
  | settingIs (text : String)
  | or (first second : Condition Column)
  deriving DecidableEq, Repr

/-- The `OR` of SQL: a true operand decides, and an unknown one leaves it
unknown otherwise. -/
def either : Option Bool → Option Bool → Option Bool
  | some true, _ => some true
  | _, some true => some true
  | some false, some false => some false
  | _, _ => none

theorem either_eq_true {first second : Option Bool} :
    either first second = some true ↔
      first = some true ∨ second = some true := by
  rcases first with _ | _ | _ <;> rcases second with _ | _ | _ <;> simp [either]

variable {Column Name : Type}

namespace Condition

/-- The truth value of a condition; `none` is NULL. -/
def truth (setting : Option String) (row : Column → Option String) :
    Condition Column → Option Bool
  | .isSetting column =>
      match row column, setting with
      | some value, some current => some (value = current)
      | _, _ => none
  | .settingNull => some setting.isNone
  | .settingIs text => setting.map fun current => current = text
  | .or first second => either (truth setting row first) (truth setting row second)

/-- The condition lets the row pass. -/
def Passes (setting : Option String) (row : Column → Option String)
    (condition : Condition Column) : Prop :=
  condition.truth setting row = some true

instance decidablePasses (setting : Option String)
    (row : Column → Option String) (condition : Condition Column) :
    Decidable (condition.Passes setting row) :=
  inferInstanceAs (Decidable (_ = _))

variable {setting : Option String} {row : Column → Option String}

@[simp]
theorem passes_isSetting {column : Column} :
    (isSetting column).Passes setting row ↔
      ∃ value, row column = some value ∧ setting = some value := by
  unfold Passes truth
  rcases row column with _ | value <;> rcases setting with _ | current <;>
    simp [eq_comm]

@[simp]
theorem passes_settingNull :
    (settingNull : Condition Column).Passes setting row ↔ setting = none := by
  simp [Passes, truth]

@[simp]
theorem passes_settingIs {text : String} :
    (settingIs text : Condition Column).Passes setting row ↔
      setting = some text := by
  simp [Passes, truth]

@[simp]
theorem passes_or {first second : Condition Column} :
    (first.or second).Passes setting row ↔
      first.Passes setting row ∨ second.Passes setting row := by
  simp [Passes, truth, either_eq_true]

end Condition

/-! ## Policies -/

/-- The commands that row-level security restricts. -/
inductive Command : Type
  | select
  | insert
  | update
  | delete
  deriving DecidableEq, Repr

/-- A policy: the command after `FOR`, or none for `ALL`, its `USING` and its
`WITH CHECK` condition. -/
structure Policy (Name Column : Type) where
  name : Name
  command : Option Command
  rows : Option (Condition Column)
  check : Option (Condition Column)
  deriving DecidableEq, Repr

/-- The policy is one for the command. -/
def Policy.Covers (policy : Policy Name Column) (command : Command) : Prop :=
  policy.command = none ∨ policy.command = some command

instance decidableCovers (policy : Policy Name Column) (command : Command) :
    Decidable (policy.Covers command) :=
  inferInstanceAs (Decidable (_ ∨ _))

/-- What a session may be of a table: a role that row-level security never
binds, the owner of the table, or another role. -/
inductive Role : Type
  | bypass
  | owner
  | other
  deriving DecidableEq, Repr

/-- The row-level security of a table. -/
structure Security (Name Column : Type) where
  enabled : Bool := false
  forced : Bool := false
  policies : List (Policy Name Column) := []
  deriving DecidableEq, Repr

namespace Security

variable (security : Security Name Column) (role : Role)
variable (setting : Option String) (row : Column → Option String)

/-- The policies bind the role. -/
def binds : Bool :=
  security.enabled &&
    match role with
    | .bypass => false
    | .owner => security.forced
    | .other => true

/-- An existing row is one the command finds. -/
def finds (command : Command) : Bool :=
  !security.binds role ||
    security.policies.any fun policy =>
      policy.Covers command &&
        policy.rows.any fun condition => condition.Passes setting row

/-- A new row is one the command may write.  Without a `WITH CHECK` the `USING`
condition is checked. -/
def admits (command : Command) : Bool :=
  !security.binds role ||
    security.policies.any fun policy =>
      policy.Covers command &&
        (policy.check.or policy.rows).any fun condition =>
          condition.Passes setting row

/-- The row is among those a `SELECT` returns. -/
def maySelect : Bool :=
  security.finds role setting row .select

/-- The row may be inserted. -/
def mayInsert : Bool :=
  security.admits role setting row .insert

/-- An `UPDATE` whose conditions read the table may replace the row. -/
def mayUpdate (replaced : Column → Option String) : Bool :=
  security.maySelect role setting row &&
    security.finds role setting row .update &&
    security.admits role setting replaced .update &&
    security.maySelect role setting replaced

/-- A `DELETE` whose conditions read the table may remove the row. -/
def mayDelete : Bool :=
  security.maySelect role setting row && security.finds role setting row .delete

variable {security role setting row} {command : Command}

theorem finds_of_not_binds (unbound : security.binds role = false) :
    security.finds role setting row command = true := by
  simp [finds, unbound]

theorem admits_of_not_binds (unbound : security.binds role = false) :
    security.admits role setting row command = true := by
  simp [admits, unbound]

theorem finds_iff (bound : security.binds role = true) :
    security.finds role setting row command = true ↔
      ∃ policy ∈ security.policies, policy.Covers command ∧
        ∃ condition, policy.rows = some condition ∧
          condition.Passes setting row := by
  simp [finds, bound, Option.any_eq_true]

theorem admits_iff (bound : security.binds role = true) :
    security.admits role setting row command = true ↔
      ∃ policy ∈ security.policies, policy.Covers command ∧
        ∃ condition, policy.check.or policy.rows = some condition ∧
          condition.Passes setting row := by
  simp [admits, bound, Option.any_eq_true]

end Security

end RowSecurity
