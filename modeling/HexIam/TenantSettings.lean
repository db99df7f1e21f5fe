import HexIam.Database
import HexIam.JsonDocument
import Mathlib.Logic.Function.Basic

/-!
# Tenant settings

`tenant_service` keeps the settings of a tenant as a document that is merged
into `DEFAULT_SETTINGS`, a module dictionary whose dicts the results share.  A
dict has an identity here: one that is reached in two ways is written in both.
Redis may hold a tenant's settings for sixty seconds.  The row of a tenant is
read and written over a connection, which row-level security may hide it from.
-/

namespace HexIam

open JsonDocument

namespace TenantSettings

/-! ## Objects in memory -/

/-- A value in memory: a dict has an identity. -/
inductive Value : Type
  | leaf (value : Leaf)
  | dict (id : Nat) (entries : List (String × Value))

abbrev Dict := List (String × Value)

def Value.truthy : Value → Bool
  | .leaf value => value.truthy
  | .dict _ entries => !entries.isEmpty

mutual

/-- The document that a value is written as. -/
def Value.plain : Value → Json
  | .leaf value => .leaf value
  | .dict _ entries => .object (plainEntries entries)

def plainEntries : Dict → List (String × Json)
  | [] => []
  | (key, value) :: rest => (key, value.plain) :: plainEntries rest

end

mutual

/-- The value after `dict[key] = item` on the dict of this identity. -/
def Value.write (target : Nat) (key : String) (item : Value) : Value → Value
  | .leaf value => .leaf value
  | .dict id entries =>
      .dict id (if id = target then setItem key item entries
        else writeEntries target key item entries)

def writeEntries (target : Nat) (key : String) (item : Value) : Dict → Dict
  | [] => []
  | (other, value) :: rest =>
      (other, Value.write target key item value) ::
        writeEntries target key item rest

end

mutual

/-- The objects that `orjson.loads` makes, and the next identity. -/
def loaded : Json → Nat → Value × Nat
  | .leaf value, next => (.leaf value, next)
  | .object entries, next =>
      (.dict next (loadedEntries entries (next + 1)).1,
        (loadedEntries entries (next + 1)).2)

def loadedEntries : List (String × Json) → Nat → Dict × Nat
  | [], next => ([], next)
  | (key, document) :: rest, next =>
      ((key, (loaded document next).1) ::
          (loadedEntries rest (loaded document next).2).1,
        (loadedEntries rest (loaded document next).2).2)

end

mutual

/-- The loop of `_merge_settings`, where `result` starts as a copy of the
defaults. -/
def mergedEntries (result : Dict) : Dict → Nat → Dict × Nat
  | [], next => (result, next)
  | (key, value) :: rest, next =>
      mergedEntries
        (setItem key (mergedItem (result.lookup key) value next).1 result) rest
        (mergedItem (result.lookup key) value next).2

/-- What the loop sets for a value where `result` has the first one, if any. -/
def mergedItem : Option Value → Value → Nat → Value × Nat
  | some (.dict _ defaults), .dict _ overrides, next =>
      (.dict next (mergedEntries defaults overrides (next + 1)).1,
        (mergedEntries defaults overrides (next + 1)).2)
  | some (.dict _ _), .leaf value, next => (.leaf value, next)
  | some (.leaf _), value, next => (value, next)
  | none, value, next => (value, next)

end

/-! ## The service -/

/-- Python's exceptions, and a document that `orjson` or the database refuses. -/
inductive PyError : Type
  | attributeError
  | typeError
  | refused
  deriving DecidableEq

/-- The TTLs in the settings. -/
inductive TokenTtl : Type
  | accessToken
  | refreshToken
  | idToken
  deriving DecidableEq

def TokenTtl.key : TokenTtl → String
  | .accessToken => "access_token_ttl"
  | .refreshToken => "refresh_token_ttl"
  | .idToken => "id_token_ttl"

/-- `DEFAULT_SETTINGS` with these TTLs in it. -/
def settingsWith (ttls : TokenTtl → Int) : Value :=
  .dict 0 [
    ("mfa", .dict 1 [
      ("enabled", .leaf (.bool false)),
      ("required_for_admins", .leaf (.bool false)),
      ("methods", .leaf (.array [
        .leaf (.string "totp"), .leaf (.string "email")]))]),
    ("tokens", .dict 2 [
      ("access_token_ttl", .leaf (.int (ttls .accessToken))),
      ("refresh_token_ttl", .leaf (.int (ttls .refreshToken))),
      ("id_token_ttl", .leaf (.int (ttls .idToken)))]),
    ("password_policy", .dict 3 [
      ("min_length", .leaf (.int 8)),
      ("require_uppercase", .leaf (.bool true)),
      ("require_lowercase", .leaf (.bool true)),
      ("require_numbers", .leaf (.bool true)),
      ("require_special", .leaf (.bool false)),
      ("max_age_days", .leaf (.int 90)),
      ("prevent_reuse_count", .leaf (.int 5))]),
    ("session", .dict 4 [
      ("max_concurrent_sessions", .leaf (.int 5)),
      ("idle_timeout_minutes", .leaf (.int 30)),
      ("absolute_timeout_hours", .leaf (.int 24))]),
    ("security", .dict 5 [
      ("lockout_threshold", .leaf (.int 5)),
      ("lockout_duration_minutes", .leaf (.int 15)),
      ("require_email_verification", .leaf (.bool true))]),
    ("branding", .dict 6 [
      ("logo_url", .leaf .null),
      ("primary_color", .leaf (.string "#3B82F6")),
      ("company_name", .leaf .null)])]

def defaultTtls : TokenTtl → Int
  | .accessToken => 3600
  | .refreshToken => 604800
  | .idToken => 3600

def defaultSettings : Value :=
  settingsWith defaultTtls

structure TenantSettingsResponse (α : Type) where
  mfa : α
  tokens : α
  passwordPolicy : α
  session : α
  security : α
  branding : α

def TenantSettingsResponse.map {α β : Type} (f : α → β)
    (response : TenantSettingsResponse α) : TenantSettingsResponse β where
  mfa := f response.mfa
  tokens := f response.tokens
  passwordPolicy := f response.passwordPolicy
  session := f response.session
  security := f response.security
  branding := f response.branding

def TenantSettingsResponse.entries {α : Type}
    (response : TenantSettingsResponse α) : List (String × α) := [
  ("mfa", response.mfa),
  ("tokens", response.tokens),
  ("password_policy", response.passwordPolicy),
  ("session", response.session),
  ("security", response.security),
  ("branding", response.branding)]

/-- `TenantSettingsResponse(**data)` takes the six keys and no other. -/
def TenantSettingsResponse.ofEntries? {α : Type} (data : List (String × α)) :
    Option (TenantSettingsResponse α) := do
  let mfa ← data.lookup "mfa"
  let tokens ← data.lookup "tokens"
  let passwordPolicy ← data.lookup "password_policy"
  let session ← data.lookup "session"
  let security ← data.lookup "security"
  let branding ← data.lookup "branding"
  if data.length = 6 then
    some { mfa, tokens, passwordPolicy, session, security, branding }
  else none

/-- The process, its database and Redis: `none` as settings is SQL NULL.  The
last field records what each call of `get_tenant_settings` gave. -/
structure Service where
  defaults : Value := defaultSettings
  nextId : Nat := 7
  settings : String → Option (Option Json)
  cache : String → Option Json := fun _ => none
  reads : List (Except PyError (TenantSettingsResponse Json)) := []

/-- What becomes of a document on the way through `orjson` and through the
column, as far as they accept it. -/
structure Codec where
  orjson : Json → Option Json
  jsonb : Json → Option Json

/-- Python code, which may raise: what it has changed by then stays. -/
abbrev Py := EStateM PyError Service

/-- `SELECT settings`: there is no row where the connection does not see it. -/
def selectSettings (rows : String → Option (Option Json)) (db : Connection)
    (tenantId : String) : Option (Option Json) :=
  if db.sees tenantId then rows tenantId else none

/-- `UPDATE tenants SET settings`, which leaves a row that the connection does not
see. -/
def storeSettings (rows : String → Option (Option Json)) (db : Connection)
    (tenantId : String) (stored : Json) : String → Option (Option Json) :=
  Function.update rows tenantId
    (if db.sees tenantId then (rows tenantId).map fun _ => some stored
      else rows tenantId)

section Rows

variable {rows : String → Option (Option Json)} {db : Connection}
variable {tenantId : String} {stored : Json}

theorem selectSettings_of_sees (sees : db.sees tenantId = true) :
    selectSettings rows db tenantId = rows tenantId :=
  if_pos sees

theorem selectSettings_of_hidden (hidden : db.sees tenantId = false) :
    selectSettings rows db tenantId = none := by
  simp [selectSettings, hidden]

theorem storeSettings_of_sees (sees : db.sees tenantId = true) :
    storeSettings rows db tenantId stored =
      Function.update rows tenantId ((rows tenantId).map fun _ => some stored) := by
  rw [storeSettings, if_pos sees]

theorem storeSettings_of_hidden (hidden : db.sees tenantId = false) :
    storeSettings rows db tenantId stored = rows := by
  simp [storeSettings, hidden]

theorem storeSettings_of_ne {other : String} (different : other ≠ tenantId) :
    storeSettings rows db tenantId stored other = rows other :=
  Function.update_of_ne different _ rows

end Rows

/-- Make new objects. -/
def newObjects {α : Type} (make : Nat → α × Nat) : Py α := fun service =>
  .ok (make service.nextId).1 { service with nextId := (make service.nextId).2 }

def newDict (entries : Dict) : Py Value :=
  newObjects fun next => (.dict next entries, next + 1)

def load (document : Json) : Py Value :=
  newObjects (loaded document)

def accepted {α : Type} : Option α → Py α
  | some value => pure value
  | none => throw .refused

/-- `UPDATE tenants SET settings` from the text of a document. -/
def saveSettings (codec : Codec) (db : Connection) (tenantId : String)
    (updated : Value) : Py Unit := do
  let stored ← accepted ((codec.orjson updated.plain).bind codec.jsonb)
  modify fun service =>
    { service with
      settings := storeSettings service.settings db tenantId stored }

def redisGet (redisConn : Bool) (tenantId : String) : Py (Option Json) := do
  let service ← get
  return if redisConn then service.cache tenantId else none

def redisSetex (codec : Codec) (redisConn : Bool) (tenantId : String)
    (document : Json) : Py Unit :=
  if redisConn then do
    let stored ← accepted (codec.orjson document)
    modify fun service =>
      { service with cache := Function.update service.cache tenantId (some stored) }
  else pure ()

/-- `_merge_settings(defaults, overrides)`: only a dict has `items()`. -/
def mergeSettings (defaults overrides : Value) : Py Value :=
  match overrides with
  | .leaf _ => throw .attributeError
  | .dict id entries => newObjects (mergedItem (some defaults) (.dict id entries))

def Value.entries : Value → Dict
  | .leaf _ => []
  | .dict _ entries => entries

/-- `merged.get(key, {})`. -/
def sectionOf (merged : Value) (key : String) : Py Value :=
  match merged.entries.lookup key with
  | some value => pure value
  | none => newDict []

/-- The result of `get_tenant_settings` is recorded. -/
def recorded (code : Py (TenantSettingsResponse Value)) :
    Py (TenantSettingsResponse Value) := fun service =>
  match code service with
  | .ok result after =>
      .ok result { after with reads := after.reads ++ [.ok (result.map Value.plain)] }
  | .error error after =>
      .error error { after with reads := after.reads ++ [.error error] }

/-! ## Functions -/

/-- `TenantSettingsResponse(**data)`. -/
def responseOfData (data : Value) : Py (TenantSettingsResponse Value) :=
  match TenantSettingsResponse.ofEntries? data.entries with
  | some response => pure response
  | none => throw .typeError

def responseOfMerged (merged : Value) : Py (TenantSettingsResponse Value) := do
  let mfa ← sectionOf merged "mfa"
  let tokens ← sectionOf merged "tokens"
  let passwordPolicy ← sectionOf merged "password_policy"
  let session ← sectionOf merged "session"
  let security ← sectionOf merged "security"
  let branding ← sectionOf merged "branding"
  return { mfa, tokens, passwordPolicy, session, security, branding }

/-- The stored settings over the defaults; `none` is no row. -/
def mergedSettings (defaults : Value) : Option (Option Json) → Py Value
  | none => pure defaults
  | some none => pure defaults
  | some (some settings) => do
      mergeSettings defaults (← load settings)

def getTenantSettings (codec : Codec) (db : Connection) (redisConn : Bool)
    (tenantId : String) : Py (TenantSettingsResponse Value) := recorded do
  match ← redisGet redisConn tenantId with
  | some cached => responseOfData (← load cached)
  | none =>
      let service ← get
      let merged ← mergedSettings service.defaults
        (selectSettings service.settings db tenantId)
      let result ← responseOfMerged merged
      redisSetex codec redisConn tenantId
        (.object (result.map Value.plain).entries)
      return result

/-- `asdict` copies a response with all dicts in it. -/
def asdict (response : TenantSettingsResponse Value) : Py Value :=
  newObjects (loaded (.object (response.map Value.plain).entries))

def updateTenantSettings (codec : Codec) (db : Connection) (redisConn : Bool)
    (tenantId : String) (settings : Value) : Py Value := do
  let current ← getTenantSettings codec db redisConn tenantId
  let updated ← mergeSettings (← asdict current) settings
  saveSettings codec db tenantId updated
  return updated

/-- A list of texts, as JSON. -/
def texts (items : List String) : Json :=
  .leaf (.array (items.map fun item => .leaf (.string item)))

/-- `methods or ["totp", "email"]`. -/
def methodsOr (methods : Option (List String)) : List String :=
  if (methods.getD []).isEmpty then ["totp", "email"] else methods.getD []

def updateMfaSettings (codec : Codec) (db : Connection) (tenantId : String)
    (enabled requiredForAdmins : Bool) (methods : Option (List String)) :
    Py Value := do
  let mfaSettings ← load (.object [("mfa", .object [
    ("enabled", .leaf (.bool enabled)),
    ("required_for_admins", .leaf (.bool requiredForAdmins)),
    ("methods", texts (methodsOr methods))])])
  updateTenantSettings codec db false tenantId mfaSettings

/-- `token_settings[key] = ttl`, unless the TTL is `None`: the dict may be one of
`DEFAULT_SETTINGS`. -/
def setTtl (key : TokenTtl) (ttl : Option Int) (tokenSettings : Value) : Py Value :=
  match ttl, tokenSettings with
  | none, tokenSettings => pure tokenSettings
  | some _, .leaf _ => throw .typeError
  | some ttl, .dict id entries => do
      modify fun service =>
        { service with
          defaults :=
            Value.write id key.key (.leaf (.int ttl)) service.defaults }
      return .dict id (setItem key.key (.leaf (.int ttl)) entries)

/-- `value or {}`. -/
def orEmptyDict (value : Value) : Py Value :=
  if value.truthy then pure value else newDict []

def updateTokenSettings (codec : Codec) (db : Connection) (redisConn : Bool)
    (tenantId : String) (accessTokenTtl refreshTokenTtl idTokenTtl : Option Int) :
    Py Value := do
  let current ← getTenantSettings codec db redisConn tenantId
  let tokenSettings ← orEmptyDict current.tokens
  let tokenSettings ← setTtl .accessToken accessTokenTtl tokenSettings
  let tokenSettings ← setTtl .refreshToken refreshTokenTtl tokenSettings
  let tokenSettings ← setTtl .idToken idTokenTtl tokenSettings
  updateTenantSettings codec db false tenantId
    (← newDict [("tokens", tokenSettings)])

def updatePasswordPolicy (codec : Codec) (db : Connection) (tenantId : String)
    (policy : List (String × Json)) : Py Value := do
  updateTenantSettings codec db false tenantId
    (← load (.object [("password_policy", .object policy)]))

def updateBranding (codec : Codec) (db : Connection) (tenantId : String)
    (branding : List (String × Json)) : Py Value := do
  updateTenantSettings codec db false tenantId
    (← load (.object [("branding", .object branding)]))

/-- The calls of the service, with what they are given. -/
inductive SettingsCall : Type
  | getTenantSettings
  | updateTenantSettings (settings : List (String × Json))
  | updateMfaSettings (enabled requiredForAdmins : Bool)
      (methods : Option (List String))
  | updateTokenSettings (accessTokenTtl refreshTokenTtl idTokenTtl : Option Int)
  | updatePasswordPolicy (policy : List (String × Json))
  | updateBranding (branding : List (String × Json))

def SettingsCall.run (codec : Codec) (db : Connection) (redisConn : Bool)
    (tenantId : String) : SettingsCall → Py Unit
  | .getTenantSettings => do
      let _ ← TenantSettings.getTenantSettings codec db redisConn tenantId
  | .updateTenantSettings settings => do
      let settings ← load (.object settings)
      let _ ← TenantSettings.updateTenantSettings codec db redisConn tenantId settings
  | .updateMfaSettings enabled requiredForAdmins methods => do
      let _ ← TenantSettings.updateMfaSettings codec db tenantId enabled
        requiredForAdmins methods
  | .updateTokenSettings accessTokenTtl refreshTokenTtl idTokenTtl => do
      let _ ← TenantSettings.updateTokenSettings codec db redisConn tenantId
        accessTokenTtl refreshTokenTtl idTokenTtl
  | .updatePasswordPolicy policy => do
      let _ ← TenantSettings.updatePasswordPolicy codec db tenantId policy
  | .updateBranding branding => do
      let _ ← TenantSettings.updateBranding codec db tenantId branding

end TenantSettings

end HexIam
