import HexIam.MergeLaws
import HexIam.TenantSettings
import HexIam.Tokens

/-!
# The body of a settings update

The models of `PATCH /tenants/me/settings`: a section of the body is validated
field by field and dumped with all the fields of its model, so a field that the
body leaves out is dumped with its default.  Keys that no model has are dropped.
-/

namespace HexIam

open JsonDocument TenantSettings

namespace SettingsModels

/-! ## Fields -/

/-- What pydantic makes of a value of another type where a field is a `bool` or
an `int`. -/
structure Pydantic where
  boolOf : Leaf → Option Bool
  intOf : Leaf → Option Int

inductive FieldType : Type
  | bool
  | int (ge le : Int)
  | string
  | optionalString
  | strings

def isString : Json → Bool
  | .leaf (.string _) => true
  | _ => false

def Pydantic.bool (pydantic : Pydantic) : Leaf → Option Bool
  | .bool value => some value
  | value => pydantic.boolOf value

def Pydantic.int (pydantic : Pydantic) : Leaf → Option Int
  | .int value => some value
  | value => pydantic.intOf value

def FieldType.validate (pydantic : Pydantic) : FieldType → Leaf → Option Leaf
  | .bool, value => (pydantic.bool value).map .bool
  | .int ge le, value =>
      ((pydantic.int value).filter fun value => ge ≤ value ∧ value ≤ le).map .int
  | .string, .string value => some (.string value)
  | .optionalString, .null => some .null
  | .optionalString, .string value => some (.string value)
  | .strings, .array items => if items.all isString then some (.array items) else none
  | _, _ => none

structure Field where
  type : FieldType
  default : Leaf

/-- No field takes an object. -/
def Field.validate (pydantic : Pydantic) (field : Field) : Option Json → Option Leaf
  | none => some field.default
  | some (.leaf value) => field.type.validate pydantic value
  | some (.object _) => none

/-! ## Models -/

abbrev Model := List (String × Field)

def mfaSettings : Model := [
  ("enabled", ⟨.bool, .bool false⟩),
  ("required_for_admins", ⟨.bool, .bool false⟩),
  ("methods", ⟨.strings,
    .array [.leaf (.string "totp"), .leaf (.string "email")]⟩)]

def tokenSettings : Model := [
  ("access_token_ttl", ⟨.int 300 86400, .int 3600⟩),
  ("refresh_token_ttl", ⟨.int 3600 2592000, .int 604800⟩),
  ("id_token_ttl", ⟨.int 300 86400, .int 3600⟩)]

def passwordPolicy : Model := [
  ("min_length", ⟨.int 6 128, .int 8⟩),
  ("require_uppercase", ⟨.bool, .bool true⟩),
  ("require_lowercase", ⟨.bool, .bool true⟩),
  ("require_numbers", ⟨.bool, .bool true⟩),
  ("require_special", ⟨.bool, .bool false⟩),
  ("max_age_days", ⟨.int 0 365, .int 90⟩),
  ("prevent_reuse_count", ⟨.int 0 24, .int 5⟩)]

def sessionSettings : Model := [
  ("max_concurrent_sessions", ⟨.int 1 100, .int 5⟩),
  ("idle_timeout_minutes", ⟨.int 5 1440, .int 30⟩),
  ("absolute_timeout_hours", ⟨.int 1 168, .int 24⟩)]

def securitySettings : Model := [
  ("lockout_threshold", ⟨.int 3 20, .int 5⟩),
  ("lockout_duration_minutes", ⟨.int 1 1440, .int 15⟩),
  ("require_email_verification", ⟨.bool, .bool true⟩)]

def brandingSettings : Model := [
  ("logo_url", ⟨.optionalString, .null⟩),
  ("primary_color", ⟨.string, .string "#3B82F6"⟩),
  ("company_name", ⟨.optionalString, .null⟩)]

/-- The sections of `TenantSettingsUpdate`, each of them optional. -/
def tenantSettingsUpdate : List (String × Model) := [
  ("mfa", mfaSettings),
  ("tokens", tokenSettings),
  ("password_policy", passwordPolicy),
  ("session", sessionSettings),
  ("security", securitySettings),
  ("branding", brandingSettings)]

abbrev Entries := List (String × Json)

/-- The dump of a validated model: every field is in it. -/
def modelDump (pydantic : Pydantic) (given : Entries) : Model → Option Entries
  | [] => some []
  | (name, field) :: rest => do
      let value ← field.validate pydantic (given.lookup name)
      let others ← modelDump pydantic given rest
      return (name, .leaf value) :: others

/-- A section is `None` or dumped. -/
def sectionDump (pydantic : Pydantic) (model : Model) :
    Option Json → Option (Option Entries)
  | none => some none
  | some (.leaf .null) => some none
  | some (.leaf _) => none
  | some (.object given) => (modelDump pydantic given model).map some

/-- The sections of a body that the models accept. -/
def validateSections (pydantic : Pydantic) (body : Entries) :
    List (String × Model) → Option (List (String × Option Entries))
  | [] => some []
  | (name, model) :: rest => do
      let dump ← sectionDump pydantic model (body.lookup name)
      let others ← validateSections pydantic body rest
      return (name, dump) :: others

abbrev TenantSettingsUpdate := List (String × Option Entries)

def TenantSettingsUpdate.ofBody (pydantic : Pydantic) :
    Json → Option TenantSettingsUpdate
  | .leaf _ => none
  | .object body => validateSections pydantic body tenantSettingsUpdate

/-! ## The endpoint -/

structure HTTPException where
  statusCode : Nat
  detail : String
  deriving DecidableEq, Repr

/-- The sections that are not `None`. -/
def settingsUpdate (updates : TenantSettingsUpdate) : Entries :=
  updates.filterMap fun update => update.2.map fun dump => (update.1, .object dump)

def IsAdmin (user : TokenService.VerifiedTokenData) : Prop :=
  user.role ∈ [some "admin", some "superadmin", some "root"]

instance (user : TokenService.VerifiedTokenData) : Decidable (IsAdmin user) :=
  inferInstanceAs (Decidable (_ ∈ _))

def updateCurrentTenantSettings (codec : Codec) (db : Connection)
    (user : TokenService.VerifiedTokenData) (updates : TenantSettingsUpdate) :
    Py (Except HTTPException Value) :=
  if ¬ IsAdmin user then
    pure (.error ⟨403, "Admin role required to update settings"⟩)
  else if (settingsUpdate updates).isEmpty then
    pure (.error ⟨400, "No settings provided to update"⟩)
  else do
    let settings ← load (.object (settingsUpdate updates))
    let updated ← updateTenantSettings codec db false user.tenantId settings
    return .ok updated

/-! ## What is dumped -/

section Dumps

variable {pydantic : Pydantic}

theorem lookup_modelDump {given dump : Entries} {model : Model}
    (dumped : modelDump pydantic given model = some dump) (name : String) :
    dump.lookup name = (model.lookup name).bind fun field =>
      (field.validate pydantic (given.lookup name)).map Json.leaf := by
  induction model generalizing dump with
  | nil =>
      cases dumped
      rfl
  | cons entry rest ih =>
      obtain ⟨first, field⟩ := entry
      rw [modelDump] at dumped
      obtain ⟨value, isValue, dumped⟩ := Option.bind_eq_some_iff.mp dumped
      obtain ⟨others, isOthers, dumped⟩ := Option.bind_eq_some_iff.mp dumped
      cases dumped
      by_cases same : name = first
      · rw [same, List.lookup_cons_self, List.lookup_cons_self, Option.bind_some,
          isValue, Option.map_some]
      · rw [lookup_cons_of_ne same, lookup_cons_of_ne same]
        exact ih isOthers

theorem exists_value {given dump : Entries} {model : Model} {name : String}
    {field : Field} (dumped : modelDump pydantic given model = some dump)
    (isField : model.lookup name = some field) :
    ∃ value, field.validate pydantic (given.lookup name) = some value := by
  induction model generalizing dump with
  | nil => cases isField
  | cons entry rest ih =>
      obtain ⟨first, other⟩ := entry
      rw [modelDump] at dumped
      obtain ⟨value, isValue, dumped⟩ := Option.bind_eq_some_iff.mp dumped
      obtain ⟨others, isOthers, -⟩ := Option.bind_eq_some_iff.mp dumped
      by_cases same : name = first
      · rw [same, List.lookup_cons_self] at isField
        cases isField
        exact ⟨value, same ▸ isValue⟩
      · rw [lookup_cons_of_ne same] at isField
        exact ih isOthers isField

theorem keys_modelDump {given dump : Entries} {model : Model}
    (dumped : modelDump pydantic given model = some dump) :
    dump.map Prod.fst = model.map Prod.fst := by
  induction model generalizing dump with
  | nil =>
      cases dumped
      rfl
  | cons entry rest ih =>
      obtain ⟨first, field⟩ := entry
      rw [modelDump] at dumped
      obtain ⟨value, -, dumped⟩ := Option.bind_eq_some_iff.mp dumped
      obtain ⟨others, isOthers, dumped⟩ := Option.bind_eq_some_iff.mp dumped
      cases dumped
      rw [List.map_cons, List.map_cons, ih isOthers]

theorem leaf_of_mem_modelDump {given dump : Entries} {model : Model}
    (dumped : modelDump pydantic given model = some dump) :
    ∀ entry ∈ dump, ∃ leaf, entry.2 = .leaf leaf := by
  induction model generalizing dump with
  | nil =>
      cases dumped
      exact nofun
  | cons entry rest ih =>
      obtain ⟨first, field⟩ := entry
      rw [modelDump] at dumped
      obtain ⟨value, -, dumped⟩ := Option.bind_eq_some_iff.mp dumped
      obtain ⟨others, isOthers, dumped⟩ := Option.bind_eq_some_iff.mp dumped
      cases dumped
      exact List.forall_mem_cons.mpr ⟨⟨value, rfl⟩, ih isOthers⟩

theorem lookup_settingsUpdate {body : Entries} {models : List (String × Model)}
    {updates : TenantSettingsUpdate} (nodup : (models.map Prod.fst).Nodup)
    (valid : validateSections pydantic body models = some updates)
    (name : String) :
    (settingsUpdate updates).lookup name = (models.lookup name).bind fun model =>
      (sectionDump pydantic model (body.lookup name)).join.map Json.object := by
  induction models generalizing updates with
  | nil =>
      cases valid
      rfl
  | cons entry rest ih =>
      obtain ⟨first, model⟩ := entry
      obtain ⟨notMem, restNodup⟩ := List.nodup_cons.mp nodup
      rw [validateSections] at valid
      obtain ⟨dump, isDump, valid⟩ := Option.bind_eq_some_iff.mp valid
      obtain ⟨others, isOthers, valid⟩ := Option.bind_eq_some_iff.mp valid
      cases valid
      have later := ih restNodup isOthers
      by_cases same : name = first
      · subst same
        rw [List.lookup_cons_self, Option.bind_some, isDump]
        cases dump with
        | none =>
            change (settingsUpdate others).lookup name = none
            rw [later, lookup_eq_none_of_notMem notMem, Option.bind_none]
        | some dump => exact List.lookup_cons_self
      · rw [lookup_cons_of_ne same, ← later]
        cases dump with
        | none => rfl
        | some dump => exact lookup_cons_of_ne same _ _

theorem keys_settingsUpdate {body : Entries} {models : List (String × Model)}
    {updates : TenantSettingsUpdate}
    (valid : validateSections pydantic body models = some updates) :
    ((settingsUpdate updates).map Prod.fst).Sublist (models.map Prod.fst) := by
  induction models generalizing updates with
  | nil =>
      cases valid
      exact List.Sublist.refl _
  | cons entry rest ih =>
      obtain ⟨first, model⟩ := entry
      rw [validateSections] at valid
      obtain ⟨dump, -, valid⟩ := Option.bind_eq_some_iff.mp valid
      obtain ⟨others, isOthers, valid⟩ := Option.bind_eq_some_iff.mp valid
      cases valid
      cases dump with
      | none => exact (ih isOthers).cons _
      | some dump => exact (ih isOthers).cons_cons _

theorem exists_sectionDump {body : Entries} {models : List (String × Model)}
    {updates : TenantSettingsUpdate} {name : String} {model : Model}
    (valid : validateSections pydantic body models = some updates)
    (isModel : models.lookup name = some model) :
    ∃ dump, sectionDump pydantic model (body.lookup name) = some dump := by
  induction models generalizing updates with
  | nil => cases isModel
  | cons entry rest ih =>
      obtain ⟨first, other⟩ := entry
      rw [validateSections] at valid
      obtain ⟨dump, isDump, valid⟩ := Option.bind_eq_some_iff.mp valid
      obtain ⟨others, isOthers, -⟩ := Option.bind_eq_some_iff.mp valid
      by_cases same : name = first
      · rw [same, List.lookup_cons_self] at isModel
        cases isModel
        exact ⟨dump, same ▸ isDump⟩
      · rw [lookup_cons_of_ne same] at isModel
        exact ih isOthers isModel

end Dumps

end SettingsModels

end HexIam
