import HexIam.RelatedCode
import HexIam.TenantSettings

/-!
# Tenant settings as documents

What the calls of `tenant_service` do, said without objects: the state has the
TTLs that stand in `DEFAULT_SETTINGS`, and a read says whether the tokens it
returns are those of `DEFAULT_SETTINGS` itself.  The code on objects refines
this.
-/

namespace HexIam

open JsonDocument RelatedCode

namespace TenantSettings

/-! ## The calls on documents -/

/-- A service, of which only the TTLs in the defaults vary. -/
structure View where
  ttls : TokenTtl → Int := defaultTtls
  settings : String → Option (Option Json)
  cache : String → Option Json := fun _ => none
  reads : List (Except PyError (TenantSettingsResponse Json)) := []

abbrev Spec := EStateM PyError View

def Json.entries : Json → List (String × Json)
  | .leaf _ => []
  | .object entries => entries

/-- The sections of the merged settings, `{}` where there is none. -/
def sections (merged : List (String × Json)) : TenantSettingsResponse Json where
  mfa := (merged.lookup "mfa").getD (.object [])
  tokens := (merged.lookup "tokens").getD (.object [])
  passwordPolicy := (merged.lookup "password_policy").getD (.object [])
  session := (merged.lookup "session").getD (.object [])
  security := (merged.lookup "security").getD (.object [])
  branding := (merged.lookup "branding").getD (.object [])

def mergeDocuments (defaults : Json) : Json → Except PyError Json
  | .leaf _ => .error .attributeError
  | .object overrides => .ok (mergeItem (some defaults) (.object overrides))

def mergedDocuments (defaults : Json) :
    Option (Option Json) → Except PyError Json
  | none => .ok defaults
  | some none => .ok defaults
  | some (some settings) => mergeDocuments defaults settings

/-- What a read without Redis gives. -/
def readSettings (defaults : Json) (row : Option (Option Json)) :
    Except PyError (TenantSettingsResponse Json) :=
  (mergedDocuments defaults row).map fun merged => sections (Json.entries merged)

/-- Whether that read returns the tokens of `DEFAULT_SETTINGS` themselves. -/
def sharesTokens : Option (Option Json) → Bool
  | none => true
  | some none => true
  | some (some (.object overrides)) => (overrides.lookup "tokens").isNone
  | some (some (.leaf _)) => false

namespace View

def defaults (view : View) : Json :=
  (settingsWith view.ttls).plain

def accepted {α : Type} : Option α → Spec α
  | some value => pure value
  | none => throw .refused

def lift {α : Type} : Except PyError α → Spec α
  | .ok value => pure value
  | .error error => throw error

def hit (redisConn : Bool) (tenantId : String) : Spec (Option Json) := do
  let view ← get
  return if redisConn then view.cache tenantId else none

def fill (codec : Codec) (redisConn : Bool) (tenantId : String)
    (document : Json) : Spec Unit :=
  if redisConn then do
    let stored ← accepted (codec.orjson document)
    modify fun view =>
      { view with cache := Function.update view.cache tenantId (some stored) }
  else pure ()

def save (codec : Codec) (db : Connection) (tenantId : String) (updated : Json) :
    Spec Unit := do
  let stored ← accepted ((codec.orjson updated).bind codec.jsonb)
  modify fun view =>
    { view with settings := storeSettings view.settings db tenantId stored }

def recorded (code : Spec (TenantSettingsResponse Json × Bool)) :
    Spec (TenantSettingsResponse Json × Bool) := fun view =>
  match code view with
  | .ok result after => .ok result { after with reads := after.reads ++ [.ok result.1] }
  | .error error after =>
      .error error { after with reads := after.reads ++ [.error error] }

def ofCached (cached : Json) : Except PyError (TenantSettingsResponse Json) :=
  match TenantSettingsResponse.ofEntries? (Json.entries cached) with
  | some response => .ok response
  | none => .error .typeError

/-- What a connection shows of a tenant. -/
def seen (view : View) (db : Connection) (tenantId : String) :
    Option (Option Json) :=
  selectSettings view.settings db tenantId

def fromDatabase (codec : Codec) (db : Connection) (redisConn : Bool)
    (tenantId : String) : Spec (TenantSettingsResponse Json × Bool) := do
  let view ← get
  let response ← lift (readSettings view.defaults (view.seen db tenantId))
  fill codec redisConn tenantId (.object response.entries)
  return (response, sharesTokens (view.seen db tenantId))

/-- The response, and whether its tokens are those of the defaults. -/
def getSettings (codec : Codec) (db : Connection) (redisConn : Bool)
    (tenantId : String) : Spec (TenantSettingsResponse Json × Bool) := recorded do
  match ← hit redisConn tenantId with
  | some cached => return (← lift (ofCached cached), false)
  | none => fromDatabase codec db redisConn tenantId

/-- What `update_tenant_settings` does with its read. -/
def finishUpdate (codec : Codec) (db : Connection) (tenantId : String)
    (settings : Json) (current : TenantSettingsResponse Json) : Spec Json := do
  let updated ← lift (mergeDocuments (.object current.entries) settings)
  save codec db tenantId updated
  return updated

def updateSettings (codec : Codec) (db : Connection) (redisConn : Bool)
    (tenantId : String) (settings : Json) : Spec Json := do
  let current ← getSettings codec db redisConn tenantId
  finishUpdate codec db tenantId settings current.1

def setTtl (key : TokenTtl) (ttl : Option Int) (tokens : Json × Bool) :
    Spec (Json × Bool) :=
  match ttl, tokens with
  | none, tokens => pure tokens
  | some _, (.leaf _, _) => throw .typeError
  | some ttl, (.object entries, shared) => do
      modify fun view =>
        { view with
          ttls := if shared then Function.update view.ttls key ttl else view.ttls }
      return (.object (setItem key.key (.leaf (.int ttl)) entries), shared)

/-- What `update_token_settings` does with its first read. -/
def finishTokens (codec : Codec) (db : Connection) (tenantId : String)
    (accessTokenTtl refreshTokenTtl idTokenTtl : Option Int)
    (current : TenantSettingsResponse Json × Bool) : Spec Json := do
  let tokens := if current.1.tokens.truthy then (current.1.tokens, current.2)
    else (.object [], false)
  let tokens ← setTtl .accessToken accessTokenTtl tokens
  let tokens ← setTtl .refreshToken refreshTokenTtl tokens
  let tokens ← setTtl .idToken idTokenTtl tokens
  updateSettings codec db false tenantId (.object [("tokens", tokens.1)])

def updateTokens (codec : Codec) (db : Connection) (redisConn : Bool)
    (tenantId : String) (accessTokenTtl refreshTokenTtl idTokenTtl : Option Int) :
    Spec Json := do
  let current ← getSettings codec db redisConn tenantId
  finishTokens codec db tenantId accessTokenTtl refreshTokenTtl idTokenTtl current

end View

/-- The document that a call merges into the settings, if it reads none. -/
def SettingsCall.overrides : SettingsCall → List (String × Json)
  | .getTenantSettings => []
  | .updateTenantSettings settings => settings
  | .updateMfaSettings enabled requiredForAdmins methods =>
      [("mfa", .object [
        ("enabled", .leaf (.bool enabled)),
        ("required_for_admins", .leaf (.bool requiredForAdmins)),
        ("methods", texts (methodsOr methods))])]
  | .updateTokenSettings _ _ _ => []
  | .updatePasswordPolicy policy => [("password_policy", .object policy)]
  | .updateBranding branding => [("branding", .object branding)]

/-- Only `update_tenant_settings` passes its connection on. -/
def SettingsCall.passesRedis : SettingsCall → Bool
  | .getTenantSettings => true
  | .updateTenantSettings _ => true
  | .updateTokenSettings _ _ _ => true
  | .updateMfaSettings _ _ _ => false
  | .updatePasswordPolicy _ => false
  | .updateBranding _ => false

def SettingsCall.spec (codec : Codec) (db : Connection) (redisConn : Bool)
    (tenantId : String) (call : SettingsCall) : Spec Unit :=
  match call with
  | .getTenantSettings => do
      let _ ← View.getSettings codec db redisConn tenantId
  | .updateTokenSettings accessTokenTtl refreshTokenTtl idTokenTtl => do
      let _ ← View.updateTokens codec db redisConn tenantId accessTokenTtl
        refreshTokenTtl idTokenTtl
  | call => do
      let _ ← View.updateSettings codec db (redisConn && call.passesRedis) tenantId
        (.object call.overrides)

/-! ## Objects and their documents -/

mutual

@[simp]
theorem plain_loaded :
    ∀ (document : Json) (next : Nat), (loaded document next).1.plain = document
  | .leaf _, _ => rfl
  | .object entries, next =>
      congrArg Json.object (plain_loadedEntries entries (next + 1))

theorem plain_loadedEntries :
    ∀ (entries : List (String × Json)) (next : Nat),
      plainEntries (loadedEntries entries next).1 = entries
  | [], _ => rfl
  | (key, document) :: rest, next => by
      rw [loadedEntries, plainEntries, plain_loaded, plain_loadedEntries]

end

mutual

theorem le_loaded :
    ∀ (document : Json) (next : Nat), next ≤ (loaded document next).2
  | .leaf _, _ => Nat.le_refl _
  | .object entries, next =>
      Nat.le_of_succ_le (le_loadedEntries entries (next + 1))

theorem le_loadedEntries :
    ∀ (entries : List (String × Json)) (next : Nat),
      next ≤ (loadedEntries entries next).2
  | [], _ => Nat.le_refl _
  | (_, document) :: rest, next =>
      Nat.le_trans (le_loaded document next)
        (le_loadedEntries rest (loaded document next).2)

end

/-- Not one of the dicts in `DEFAULT_SETTINGS`, if it is a dict. -/
def Value.Fresh : Value → Prop
  | .leaf _ => True
  | .dict id _ => 7 ≤ id

theorem fresh_loaded (document : Json) {next : Nat} (above : 7 ≤ next) :
    (loaded document next).1.Fresh := by
  cases document with
  | leaf _ => trivial
  | object _ => exact above

theorem fresh_loadedEntries (entries : List (String × Json)) {next : Nat}
    (above : 7 ≤ next) :
    ∀ entry ∈ (loadedEntries entries next).1, entry.2.Fresh := by
  induction entries generalizing next with
  | nil => exact fun _ mem => nomatch mem
  | cons entry rest ih =>
      obtain ⟨key, document⟩ := entry
      rw [loadedEntries]
      refine List.forall_mem_cons.mpr ⟨fresh_loaded document above, ?_⟩
      exact ih (Nat.le_trans above (le_loaded document next))

@[simp]
theorem lookup_plainEntries (entries : Dict) (key : String) :
    (plainEntries entries).lookup key = (entries.lookup key).map Value.plain := by
  induction entries with
  | nil => rfl
  | cons entry rest ih =>
      obtain ⟨other, value⟩ := entry
      rw [plainEntries, List.lookup_cons, List.lookup_cons, ih]
      cases key == other <;> rfl

@[simp]
theorem plainEntries_setItem (key : String) (value : Value) (entries : Dict) :
    plainEntries (setItem key value entries) =
      setItem key value.plain (plainEntries entries) := by
  induction entries with
  | nil => rfl
  | cons entry rest ih =>
      obtain ⟨other, old⟩ := entry
      rw [plainEntries, setItem, setItem]
      split
      case isTrue => rfl
      case isFalse => rw [plainEntries, ih]

theorem entries_plain (value : Value) :
    Json.entries value.plain = plainEntries value.entries := by
  cases value <;> rfl

mutual

/-- Merging objects merges their documents. -/
theorem plain_mergedEntries :
    ∀ (result overrides : Dict) (next : Nat),
      plainEntries (mergedEntries result overrides next).1 =
        merge (plainEntries result) (plainEntries overrides)
  | _, [], _ => rfl
  | result, (key, value) :: rest, next => by
      rw [mergedEntries, plain_mergedEntries _ rest, plainEntries_setItem,
        plain_mergedItem _ value, plainEntries, merge, lookup_plainEntries]

theorem plain_mergedItem :
    ∀ (base : Option Value) (value : Value) (next : Nat),
      (mergedItem base value next).1.plain =
        mergeItem (base.map Value.plain) value.plain
  | some (.dict _ defaults), .dict _ overrides, next =>
      congrArg Json.object (plain_mergedEntries defaults overrides (next + 1))
  | some (.dict _ _), .leaf _, _ => rfl
  | some (.leaf _), .dict _ _, _ => (mergeItem_some_leaf _ _).symm
  | some (.leaf _), .leaf _, _ => (mergeItem_some_leaf _ _).symm
  | none, .dict _ _, _ => (mergeItem_none _).symm
  | none, .leaf _, _ => (mergeItem_none _).symm

end

mutual

theorem le_mergedEntries :
    ∀ (result overrides : Dict) (next : Nat),
      next ≤ (mergedEntries result overrides next).2
  | _, [], _ => Nat.le_refl _
  | result, (key, value) :: rest, next => by
      rw [mergedEntries]
      exact Nat.le_trans (le_mergedItem (result.lookup key) value next)
        (le_mergedEntries _ rest _)

theorem le_mergedItem :
    ∀ (base : Option Value) (value : Value) (next : Nat),
      next ≤ (mergedItem base value next).2
  | some (.dict _ defaults), .dict _ overrides, next =>
      Nat.le_of_succ_le (le_mergedEntries defaults overrides (next + 1))
  | some (.dict _ _), .leaf _, next => Nat.le_refl next
  | some (.leaf _), .dict _ _, next => by rw [mergedItem]
  | some (.leaf _), .leaf _, next => by rw [mergedItem]
  | none, .dict _ _, next => by rw [mergedItem]
  | none, .leaf _, next => by rw [mergedItem]

end

theorem fresh_mergedItem (base : Option Value) {value : Value} {next : Nat}
    (fresh : value.Fresh) (above : 7 ≤ next) :
    (mergedItem base value next).1.Fresh := by
  match base, value with
  | some (.dict _ _), .dict _ _ => exact above
  | some (.dict _ _), .leaf _ => trivial
  | some (.leaf _), _ => unfold mergedItem; exact fresh
  | none, _ => unfold mergedItem; exact fresh

/-- A key that the overrides have leads to a new object; any other leads where it
led in the defaults. -/
theorem lookup_mergedEntries (key : String) {overrides : Dict} (result : Dict)
    {next : Nat} (fresh : ∀ entry ∈ overrides, entry.2.Fresh) (above : 7 ≤ next) :
    overrides.lookup key ≠ none ∧
        (∃ value, (mergedEntries result overrides next).1.lookup key =
          some value ∧ value.Fresh) ∨
      overrides.lookup key = none ∧
        (mergedEntries result overrides next).1.lookup key = result.lookup key := by
  induction overrides generalizing result next with
  | nil => exact .inr ⟨rfl, rfl⟩
  | cons entry rest ih =>
      obtain ⟨first, value⟩ := entry
      obtain ⟨here, later⟩ := List.forall_mem_cons.mp fresh
      have further := ih
        (setItem first (mergedItem (result.lookup first) value next).1 result)
        later (Nat.le_trans above (le_mergedItem (result.lookup first) value next))
      rw [mergedEntries]
      by_cases same : key = first
      · have present : ((first, value) :: rest).lookup key ≠ none := by
          rw [same, List.lookup_cons_self]
          exact Option.some_ne_none value
        refine .inl ⟨present, ?_⟩
        rcases further with ⟨-, isFresh⟩ | ⟨-, unchanged⟩
        · exact isFresh
        · rw [same, lookup_setItem_self] at unchanged
          rw [same]
          exact ⟨_, unchanged, fresh_mergedItem (result.lookup first) here above⟩
      · rw [lookup_setItem_of_ne same] at further
        rw [lookup_cons_of_ne same]
        exact further

/-! ## The defaults -/

theorem write_tokens (ttls : TokenTtl → Int) (key : TokenTtl) (ttl : Int) :
    Value.write 2 key.key (.leaf (.int ttl)) (settingsWith ttls) =
      settingsWith (Function.update ttls key ttl) := by
  cases key <;> rfl

theorem write_of_fresh (ttls : TokenTtl → Int) {id : Nat} (fresh : 7 ≤ id)
    (key : String) (item : Value) :
    Value.write id key item (settingsWith ttls) = settingsWith ttls := by
  have other (own : Nat) (isOwn : own < 7) : own ≠ id := by omega
  simp [settingsWith, Value.write, writeEntries, other]

/-- The tokens of `DEFAULT_SETTINGS`, or other ones. -/
def Value.IsTokens (value : Value) : Bool → Prop
  | true => ∃ entries, value = .dict 2 entries
  | false => value.Fresh

/-- A service as a view shows it. -/
structure Shows (service : Service) (view : View) : Prop where
  defaults : service.defaults = settingsWith view.ttls
  above : 7 ≤ service.nextId
  settings : service.settings = view.settings
  cache : service.cache = view.cache
  reads : service.reads = view.reads

theorem Shows.seen {service : Service} {view : View} (shows : Shows service view)
    (db : Connection) (tenantId : String) :
    selectSettings service.settings db tenantId = view.seen db tenantId := by
  rw [shows.settings, View.seen]

/-! ## Refinement of the parts -/

theorem related_newObjects {α β : Type} {values : α → β → Prop}
    {make : Nat → α × Nat} {result : β} (increases : ∀ next, next ≤ (make next).2)
    (same : ∀ next, 7 ≤ next → values (make next).1 result) :
    Related Shows values (newObjects make) (pure result) := by
  intro service view shows
  refine ⟨same _ shows.above, ?_⟩
  exact { shows with above := Nat.le_trans shows.above (increases _) }

theorem related_newDict (entries : Dict) :
    Related Shows
      (fun value document => value.plain = document ∧ value.Fresh)
      (newDict entries) (pure (.object (plainEntries entries))) :=
  related_newObjects (fun next => Nat.le_succ next) fun _ above => ⟨rfl, above⟩

theorem related_load (document : Json) :
    Related Shows
      (fun value document => value.plain = document ∧
        ∀ entry ∈ value.entries, entry.2.Fresh)
      (load document) (pure document) := by
  refine related_newObjects (le_loaded document) fun next above => ?_
  refine ⟨plain_loaded document next, ?_⟩
  cases document with
  | leaf _ => exact fun _ mem => nomatch mem
  | object entries => exact fresh_loadedEntries entries (Nat.le_succ_of_le above)

theorem related_accepted {α : Type} (value : Option α) :
    Related Shows Eq (accepted value) (View.accepted value) := by
  cases value with
  | none => exact related_throw _
  | some _ => exact related_pure rfl

theorem related_redisGet (redisConn : Bool) (tenantId : String) :
    Related Shows Eq (redisGet redisConn tenantId) (View.hit redisConn tenantId) := by
  refine related_bind related_get fun service view shows => related_pure ?_
  rw [shows.cache]

theorem related_redisSetex (codec : Codec) (redisConn : Bool) (tenantId : String)
    (document : Json) :
    Related Shows (fun _ _ => True) (redisSetex codec redisConn tenantId document)
      (View.fill codec redisConn tenantId document) := by
  cases redisConn with
  | false => exact related_pure trivial
  | true =>
      refine related_bind (related_accepted _) fun stored _ same => ?_
      cases same
      refine related_modify fun service view shows => ?_
      exact { shows with cache := by rw [shows.cache] }

theorem related_saveSettings (codec : Codec) (db : Connection) (tenantId : String)
    {updated : Value} {document : Json} (same : updated.plain = document) :
    Related Shows (fun _ _ => True) (saveSettings codec db tenantId updated)
      (View.save codec db tenantId document) := by
  rw [← same]
  refine related_bind (related_accepted _) fun stored _ same => ?_
  cases same
  refine related_modify fun service view shows => ?_
  exact { shows with settings := by rw [shows.settings] }

/-- A section is a new dict or what the merged settings have. -/
theorem related_sectionOf (merged : Value) (key : String) :
    Related Shows
      (fun value document => value.plain = document ∧
        (merged.entries.lookup key = none ∧ value.Fresh ∨
          merged.entries.lookup key = some value))
      (sectionOf merged key)
      (pure (((Json.entries merged.plain).lookup key).getD (.object []))) := by
  rw [entries_plain, lookup_plainEntries]
  unfold sectionOf
  cases found : merged.entries.lookup key with
  | none =>
      refine (related_newDict []).mono fun value document same => ?_
      exact ⟨same.1, .inl ⟨rfl, same.2⟩⟩
  | some value => exact related_pure ⟨rfl, .inr rfl⟩

/-! ## Refinement of the functions -/

theorem related_mergeSettings (defaults overrides : Value) :
    Related Shows (fun merged document => merged.plain = document)
      (mergeSettings defaults overrides)
      (View.lift (mergeDocuments defaults.plain overrides.plain)) := by
  cases overrides with
  | leaf _ => exact related_throw _
  | dict id entries =>
      refine related_newObjects (le_mergedItem _ _) fun next _ => ?_
      exact plain_mergedItem (some defaults) (.dict id entries) next

/-- The merged settings have the tokens of the defaults unless the stored ones
have tokens. -/
theorem related_mergedSettings (ttls : TokenTtl → Int)
    (row : Option (Option Json)) :
    Related Shows
      (fun merged document => merged.plain = document ∧
        ∃ tokens, merged.entries.lookup "tokens" = some tokens ∧
          tokens.IsTokens (sharesTokens row))
      (mergedSettings (settingsWith ttls) row)
      (View.lift (mergedDocuments (settingsWith ttls).plain row)) := by
  match row with
  | none => exact related_pure ⟨rfl, _, rfl, _, rfl⟩
  | some none => exact related_pure ⟨rfl, _, rfl, _, rfl⟩
  | some (some settings) =>
      refine related_bind_left (related_load settings) fun value loaded => ?_
      obtain ⟨same, fresh⟩ := loaded
      unfold mergedDocuments
      rw [← same]
      cases value with
      | leaf _ => exact related_throw _
      | dict id overrides =>
          refine related_newObjects (le_mergedItem _ _) fun next above => ?_
          refine ⟨plain_mergedItem (some (settingsWith ttls)) (.dict id overrides)
            next, ?_⟩
          have each : ∀ entry ∈ overrides, entry.2.Fresh := fresh
          have found := lookup_mergedEntries "tokens" (settingsWith ttls).entries
            each (Nat.le_succ_of_le above)
          have shares : sharesTokens (some (some (Value.dict id overrides).plain)) =
              (overrides.lookup "tokens").isNone := by
            change ((plainEntries overrides).lookup "tokens").isNone = _
            rw [lookup_plainEntries, Option.isNone_map]
          rw [shares]
          rcases found with ⟨present, tokens, found, isFresh⟩ | ⟨absent, found⟩
          · obtain ⟨own, isOwn⟩ := Option.ne_none_iff_exists'.mp present
            rw [isOwn]
            exact ⟨tokens, found, isFresh⟩
          · rw [absent]
            exact ⟨_, found, _, rfl⟩

/-- The tokens of a response are those of the defaults, or new. -/
def IsResponse (response : TenantSettingsResponse Value)
    (document : TenantSettingsResponse Json × Bool) : Prop :=
  response.map Value.plain = document.1 ∧ response.tokens.IsTokens document.2

theorem related_responseOfMerged {merged : Value} {document : Json}
    {shared : Bool} (same : merged.plain = document)
    (tokens : ∃ tokens, merged.entries.lookup "tokens" = some tokens ∧
      tokens.IsTokens shared) :
    Related Shows IsResponse (responseOfMerged merged)
      (pure (sections (Json.entries document), shared)) := by
  rw [← same]
  refine related_bind_left (related_sectionOf merged "mfa") fun mfa ofMfa => ?_
  refine related_bind_left (related_sectionOf merged "tokens")
    fun ownTokens ofTokens => ?_
  refine related_bind_left (related_sectionOf merged "password_policy")
    fun policy ofPolicy => ?_
  refine related_bind_left (related_sectionOf merged "session")
    fun session ofSession => ?_
  refine related_bind_left (related_sectionOf merged "security")
    fun security ofSecurity => ?_
  refine related_bind_left (related_sectionOf merged "branding")
    fun branding ofBranding => related_pure ⟨?_, ?_⟩
  · unfold sections TenantSettingsResponse.map
    rw [ofMfa.1, ofTokens.1, ofPolicy.1, ofSession.1, ofSecurity.1, ofBranding.1]
  · obtain ⟨value, found, isTokens⟩ := tokens
    rcases ofTokens.2 with ⟨absent, -⟩ | isValue
    · exact absurd (absent.symm.trans found) nofun
    · exact Option.some.inj (isValue.symm.trans found) ▸ isTokens

theorem length_plainEntries (entries : Dict) :
    (plainEntries entries).length = entries.length := by
  induction entries with
  | nil => rfl
  | cons entry rest ih => exact congrArg Nat.succ ih

theorem ofEntries_plainEntries (data : Dict) :
    TenantSettingsResponse.ofEntries? (plainEntries data) =
      (TenantSettingsResponse.ofEntries? data).map fun response =>
        response.map Value.plain := by
  unfold TenantSettingsResponse.ofEntries?
  simp only [lookup_plainEntries, length_plainEntries]
  cases data.lookup "mfa" <;> try rfl
  cases data.lookup "tokens" <;> try rfl
  cases data.lookup "password_policy" <;> try rfl
  cases data.lookup "session" <;> try rfl
  cases data.lookup "security" <;> try rfl
  cases data.lookup "branding" <;> try rfl
  by_cases six : data.length = 6
  · simp [six, TenantSettingsResponse.map]
  · simp [six]

theorem tokens_of_ofEntries {data : Dict} {response : TenantSettingsResponse Value}
    (isResponse : TenantSettingsResponse.ofEntries? data = some response) :
    ("tokens", response.tokens) ∈ data := by
  unfold TenantSettingsResponse.ofEntries? at isResponse
  simp only [Option.bind_eq_bind, Option.bind_eq_some_iff,
    Option.ite_none_right_eq_some] at isResponse
  obtain ⟨mfa, -, tokens, found, _, -, _, -, _, -, _, -, -, same⟩ := isResponse
  rw [← Option.some.inj same]
  exact mem_of_lookup found

theorem related_responseOfData {data : Value} {document : Json}
    (same : data.plain = document)
    (fresh : ∀ entry ∈ data.entries, entry.2.Fresh) :
    Related Shows IsResponse (responseOfData data)
      (do return (← View.lift (View.ofCached document), false)) := by
  unfold responseOfData View.ofCached
  rw [← same, entries_plain, ofEntries_plainEntries]
  cases isResponse : TenantSettingsResponse.ofEntries? data.entries with
  | none => exact related_throw _
  | some response =>
      exact related_pure ⟨rfl, fresh _ (tokens_of_ofEntries isResponse)⟩

theorem lift_map {α β : Type} (f : α → β) (result : Except PyError α) :
    View.lift (result.map f) = (do return f (← View.lift result)) := by
  cases result <;> rfl

theorem related_recorded {code : Py (TenantSettingsResponse Value)}
    {spec : Spec (TenantSettingsResponse Json × Bool)}
    (related : Related Shows IsResponse code spec) :
    Related Shows IsResponse (recorded code) (View.recorded spec) := by
  intro service view shows
  have here := related service view shows
  unfold recorded View.recorded
  match code service, spec view, here with
  | .ok response after, .ok document shown, ⟨same, still⟩ =>
      refine ⟨same, { still with reads := ?_ }⟩
      rw [still.reads, same.1]
  | .error _ after, .error _ shown, ⟨same, still⟩ =>
      refine ⟨same, { still with reads := ?_ }⟩
      rw [still.reads, same]

theorem related_getTenantSettings (codec : Codec) (db : Connection) (redisConn : Bool)
    (tenantId : String) :
    Related Shows IsResponse (getTenantSettings codec db redisConn tenantId)
      (View.getSettings codec db redisConn tenantId) := by
  refine related_recorded (related_bind (related_redisGet redisConn tenantId) ?_)
  rintro (_ | cached) _ rfl
  · refine related_bind related_get fun service view shows => ?_
    rw [shows.defaults, shows.settings]
    unfold readSettings
    rw [lift_map, bind_assoc]
    refine related_bind (related_mergedSettings view.ttls _)
      fun merged document same => ?_
    refine related_bind_left (related_responseOfMerged same.1 same.2)
      fun result isResponse => ?_
    rw [pure_bind, isResponse.1]
    exact related_bind (related_redisSetex codec redisConn tenantId _)
      fun _ _ _ => related_pure isResponse
  · refine related_bind_left (related_load cached) fun data loaded => ?_
    exact related_responseOfData loaded.1 loaded.2

theorem related_updateTenantSettings (codec : Codec) (db : Connection)
    (redisConn : Bool) (tenantId : String) {settings : Value} {document : Json}
    (same : settings.plain = document) :
    Related Shows (fun _ _ => True)
      (updateTenantSettings codec db redisConn tenantId settings)
      (View.updateSettings codec db redisConn tenantId document) := by
  rw [← same]
  refine related_bind (related_getTenantSettings codec db redisConn tenantId)
    fun current shown isResponse => ?_
  rw [← isResponse.1]
  refine related_bind_left (related_load _) fun copy copied => ?_
  unfold View.finishUpdate
  rw [← copied.1]
  refine related_bind (related_mergeSettings copy settings)
    fun updated document same => ?_
  exact related_bind (related_saveSettings codec db tenantId same)
    fun _ _ _ => related_pure trivial

/-- The tokens under way, on objects and on documents. -/
def TokensShown (value : Value) (shown : Json × Bool) : Prop :=
  value.plain = shown.1 ∧ value.IsTokens shown.2

/-- A TTL is written to the defaults exactly when their tokens are reached. -/
theorem related_setTtl (key : TokenTtl) (ttl : Option Int) {value : Value}
    {shown : Json × Bool} (tokens : TokensShown value shown) :
    Related Shows TokensShown (setTtl key ttl value)
      (View.setTtl key ttl shown) := by
  obtain ⟨document, shared⟩ := shown
  obtain ⟨rfl, isTokens⟩ := tokens
  match ttl, value with
  | none, _ => exact related_pure ⟨rfl, isTokens⟩
  | some _, .leaf _ => exact related_throw _
  | some ttl, .dict id entries =>
      refine related_bind (related_modify fun service view shows => ?_)
        fun _ _ _ => related_pure ⟨congrArg Json.object (plainEntries_setItem ..), ?_⟩
      · refine { shows with defaults := ?_ }
        rw [shows.defaults]
        cases shared with
        | true =>
            obtain ⟨_, isDict⟩ := isTokens
            cases isDict
            exact write_tokens view.ttls key ttl
        | false => exact write_of_fresh view.ttls isTokens _ _
      · cases shared with
        | true =>
            obtain ⟨_, isDict⟩ := isTokens
            cases isDict
            exact ⟨_, rfl⟩
        | false => exact isTokens

theorem truthy_plain (value : Value) : value.plain.truthy = value.truthy := by
  cases value with
  | leaf _ => rfl
  | dict _ entries => cases entries <;> rfl

theorem related_updateTokenSettings (codec : Codec) (db : Connection)
    (redisConn : Bool) (tenantId : String)
    (accessTokenTtl refreshTokenTtl idTokenTtl : Option Int) :
    Related Shows (fun _ _ => True)
      (updateTokenSettings codec db redisConn tenantId accessTokenTtl
        refreshTokenTtl idTokenTtl)
      (View.updateTokens codec db redisConn tenantId accessTokenTtl
        refreshTokenTtl idTokenTtl) := by
  refine related_bind (related_getTenantSettings codec db redisConn tenantId) ?_
  rintro current ⟨response, shared⟩ ⟨rfl, isTokens⟩
  have start : Related Shows TokensShown (orEmptyDict current.tokens)
      (pure (if current.tokens.plain.truthy then (current.tokens.plain, shared)
        else (.object [], false))) := by
    unfold orEmptyDict
    rw [truthy_plain]
    cases current.tokens.truthy with
    | true => exact related_pure ⟨rfl, isTokens⟩
    | false => exact related_newDict []
  refine related_bind_left start fun tokens shown => ?_
  refine related_bind (related_setTtl .accessToken accessTokenTtl shown)
    fun tokens _ shown => ?_
  refine related_bind (related_setTtl .refreshToken refreshTokenTtl shown)
    fun tokens _ shown => ?_
  refine related_bind (related_setTtl .idToken idTokenTtl shown)
    fun tokens document shown => ?_
  refine related_bind_left (related_newDict [("tokens", tokens)])
    fun settings made => ?_
  rw [← shown.1]
  exact related_updateTenantSettings codec db false tenantId made.1

/-- The update of a document that the call makes itself. -/
theorem related_load_updateTenantSettings (codec : Codec) (db : Connection)
    (redisConn : Bool) (tenantId : String) (document : Json) :
    Related Shows (fun _ _ => True)
      (do
        let settings ← load document
        updateTenantSettings codec db redisConn tenantId settings)
      (View.updateSettings codec db redisConn tenantId document) :=
  related_bind_left (related_load document) fun _ loaded =>
    related_updateTenantSettings codec db redisConn tenantId loaded.1

/-- The calls do on objects what they do on documents. -/
theorem related_run (codec : Codec) (db : Connection) (redisConn : Bool)
    (tenantId : String) (call : SettingsCall) :
    Related Shows (fun _ _ => True) (call.run codec db redisConn tenantId)
      (call.spec codec db redisConn tenantId) := by
  cases call with
  | getTenantSettings =>
      exact related_bind (related_getTenantSettings codec db redisConn tenantId)
        fun _ _ _ => related_pure trivial
  | updateTenantSettings settings =>
      simp only [SettingsCall.spec, SettingsCall.passesRedis, Bool.and_true]
      refine related_bind_left (related_load _) fun value loaded => ?_
      exact related_bind
        (related_updateTenantSettings codec db redisConn tenantId loaded.1)
        fun _ _ _ => related_pure trivial
  | updateMfaSettings enabled requiredForAdmins methods =>
      simp only [SettingsCall.spec, SettingsCall.passesRedis, Bool.and_false]
      exact related_bind (related_load_updateTenantSettings codec db false tenantId _)
        fun _ _ _ => related_pure trivial
  | updateTokenSettings accessTokenTtl refreshTokenTtl idTokenTtl =>
      exact related_bind
        (related_updateTokenSettings codec db redisConn tenantId _ _ _)
        fun _ _ _ => related_pure trivial
  | updatePasswordPolicy policy =>
      simp only [SettingsCall.spec, SettingsCall.passesRedis, Bool.and_false]
      exact related_bind (related_load_updateTenantSettings codec db false tenantId _)
        fun _ _ _ => related_pure trivial
  | updateBranding branding =>
      simp only [SettingsCall.spec, SettingsCall.passesRedis, Bool.and_false]
      exact related_bind (related_load_updateTenantSettings codec db false tenantId _)
        fun _ _ _ => related_pure trivial

/-! ## Calls without Redis, from related views -/

/-- Views that show the same to the calls for a tenant, and stay related when
these record a read or save settings. -/
structure Tied (tenantId : String) (states : View → View → Prop) : Prop where
  ttls : ∀ view other, states view other → view.ttls = other.ttls
  row : ∀ view other, states view other →
    view.settings tenantId = other.settings tenantId
  record : ∀ view other, states view other → ∀ read,
    states { view with reads := view.reads ++ [read] }
      { other with reads := other.reads ++ [read] }
  save : ∀ view other, states view other → ∀ row,
    states { view with settings := Function.update view.settings tenantId row }
      { other with settings := Function.update other.settings tenantId row }

section Tied

variable {tenantId : String} {states : View → View → Prop}

theorem related_lift {α : Type} (result : Except PyError α) :
    Related states Eq (View.lift result) (View.lift result) := by
  cases result with
  | ok _ => exact related_pure rfl
  | error _ => exact related_throw _

theorem related_view_accepted {α : Type} (value : Option α) :
    Related states Eq (View.accepted value) (View.accepted value) := by
  cases value with
  | none => exact related_throw _
  | some _ => exact related_pure rfl

theorem Tied.recorded (tied : Tied tenantId states)
    {code : Spec (TenantSettingsResponse Json × Bool)}
    (related : Related states Eq code code) :
    Related states Eq (View.recorded code) (View.recorded code) := by
  intro view other same
  have here := related view other same
  unfold View.recorded
  match code view, code other, here with
  | .ok result after, .ok _ other, ⟨equal, still⟩ =>
      cases equal
      exact ⟨rfl, tied.record _ _ still _⟩
  | .error error after, .error _ other, ⟨equal, still⟩ =>
      cases equal
      exact ⟨rfl, tied.record _ _ still _⟩

theorem Tied.seen (tied : Tied tenantId states) {view other : View}
    (same : states view other) (db : Connection) :
    view.seen db tenantId = other.seen db tenantId := by
  unfold View.seen selectSettings
  rw [tied.row _ _ same]

theorem Tied.getSettings (tied : Tied tenantId states) (codec : Codec)
    (db : Connection) :
    Related states Eq (View.getSettings codec db false tenantId)
      (View.getSettings codec db false tenantId) := by
  have noHit : Related states (fun found other => found = none ∧ other = none)
      (View.hit false tenantId) (View.hit false tenantId) :=
    related_bind related_get fun _ _ _ => related_pure ⟨rfl, rfl⟩
  refine tied.recorded (related_bind noHit ?_)
  rintro _ _ ⟨rfl, rfl⟩
  refine related_bind related_get fun view other same => ?_
  unfold View.defaults
  rw [tied.ttls _ _ same, tied.seen same db]
  refine related_bind (related_lift _) fun response _ equal => ?_
  cases equal
  exact related_bind (related_pure rfl) fun _ _ _ => related_pure rfl

theorem Tied.save_related (tied : Tied tenantId states) (codec : Codec)
    (db : Connection) (updated : Json) :
    Related states Eq (View.save codec db tenantId updated)
      (View.save codec db tenantId updated) := by
  refine related_bind (related_view_accepted _) fun stored _ equal => ?_
  cases equal
  refine (related_modify fun view other same => ?_).mono fun _ _ _ => rfl
  unfold storeSettings
  rw [tied.row _ _ same]
  exact tied.save _ _ same _

theorem Tied.finishUpdate (tied : Tied tenantId states) (codec : Codec)
    (db : Connection) (settings : Json) (current : TenantSettingsResponse Json) :
    Related states Eq (View.finishUpdate codec db tenantId settings current)
      (View.finishUpdate codec db tenantId settings current) := by
  refine related_bind (related_lift _) fun updated _ equal => ?_
  cases equal
  exact related_bind (tied.save_related codec db updated) fun _ _ _ =>
    related_pure rfl

theorem Tied.updateSettings (tied : Tied tenantId states) (codec : Codec)
    (db : Connection) (settings : Json) :
    Related states Eq (View.updateSettings codec db false tenantId settings)
      (View.updateSettings codec db false tenantId settings) := by
  refine related_bind (tied.getSettings codec db) fun current _ equal => ?_
  cases equal
  exact tied.finishUpdate codec db settings current.1

theorem related_view_setTtl
    (writes : ∀ view other, states view other → ∀ key ttl,
      states { view with ttls := Function.update view.ttls key ttl }
        { other with ttls := Function.update other.ttls key ttl })
    (key : TokenTtl) (ttl : Option Int) (tokens : Json × Bool) :
    Related states Eq (View.setTtl key ttl tokens) (View.setTtl key ttl tokens) := by
  match ttl, tokens with
  | none, _ => exact related_pure rfl
  | some _, (.leaf _, _) => exact related_throw _
  | some ttl, (.object entries, shared) =>
      refine related_bind (related_modify fun view other same => ?_) fun _ _ _ =>
        related_pure rfl
      cases shared with
      | true => exact writes _ _ same key ttl
      | false => exact same

theorem Tied.finishTokens (tied : Tied tenantId states)
    (writes : ∀ view other, states view other → ∀ key ttl,
      states { view with ttls := Function.update view.ttls key ttl }
        { other with ttls := Function.update other.ttls key ttl })
    (codec : Codec) (db : Connection)
    (accessTokenTtl refreshTokenTtl idTokenTtl : Option Int)
    (current : TenantSettingsResponse Json × Bool) :
    Related states Eq
      (View.finishTokens codec db tenantId accessTokenTtl refreshTokenTtl idTokenTtl
        current)
      (View.finishTokens codec db tenantId accessTokenTtl refreshTokenTtl idTokenTtl
        current) := by
  refine related_bind (related_view_setTtl writes _ _ _) fun tokens _ equal => ?_
  cases equal
  refine related_bind (related_view_setTtl writes _ _ _) fun tokens _ equal => ?_
  cases equal
  refine related_bind (related_view_setTtl writes _ _ _) fun tokens _ equal => ?_
  cases equal
  exact tied.updateSettings codec db _

theorem Tied.updateTokens (tied : Tied tenantId states)
    (writes : ∀ view other, states view other → ∀ key ttl,
      states { view with ttls := Function.update view.ttls key ttl }
        { other with ttls := Function.update other.ttls key ttl })
    (codec : Codec) (db : Connection)
    (accessTokenTtl refreshTokenTtl idTokenTtl : Option Int) :
    Related states Eq
      (View.updateTokens codec db false tenantId accessTokenTtl refreshTokenTtl
        idTokenTtl)
      (View.updateTokens codec db false tenantId accessTokenTtl refreshTokenTtl
        idTokenTtl) := by
  refine related_bind (tied.getSettings codec db) fun current _ equal => ?_
  cases equal
  exact tied.finishTokens writes codec db _ _ _ current

theorem Tied.spec (tied : Tied tenantId states)
    (writes : ∀ view other, states view other → ∀ key ttl,
      states { view with ttls := Function.update view.ttls key ttl }
        { other with ttls := Function.update other.ttls key ttl })
    (codec : Codec) (db : Connection) (call : SettingsCall) :
    Related states Eq (call.spec codec db false tenantId)
      (call.spec codec db false tenantId) := by
  cases call with
  | getTenantSettings =>
      exact related_bind (tied.getSettings codec db) fun _ _ _ => related_pure rfl
  | updateTokenSettings accessTokenTtl refreshTokenTtl idTokenTtl =>
      exact related_bind (tied.updateTokens writes codec db _ _ _) fun _ _ _ =>
        related_pure rfl
  | updateTenantSettings settings =>
      exact related_bind (tied.updateSettings codec db _) fun _ _ _ =>
        related_pure rfl
  | updateMfaSettings enabled requiredForAdmins methods =>
      exact related_bind (tied.updateSettings codec db _) fun _ _ _ =>
        related_pure rfl
  | updatePasswordPolicy policy =>
      exact related_bind (tied.updateSettings codec db _) fun _ _ _ =>
        related_pure rfl
  | updateBranding branding =>
      exact related_bind (tied.updateSettings codec db _) fun _ _ _ =>
        related_pure rfl

end Tied

/-! ## One read -/

/-- A read without Redis is recorded and changes nothing else. -/
theorem run_getSettings (codec : Codec) (db : Connection) (tenantId : String)
    (view : View) :
    View.getSettings codec db false tenantId view =
      match readSettings view.defaults (view.seen db tenantId) with
      | .ok response =>
          .ok (response, sharesTokens (view.seen db tenantId))
            { view with reads := view.reads ++ [.ok response] }
      | .error error =>
          .error error { view with reads := view.reads ++ [.error error] } := by
  change View.recorded (EStateM.bind
      (View.lift (readSettings view.defaults (view.seen db tenantId)))
      fun response => pure (response, sharesTokens (view.seen db tenantId))) view = _
  cases readSettings view.defaults (view.seen db tenantId) <;> rfl

end TenantSettings

end HexIam
