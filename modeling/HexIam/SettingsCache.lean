import HexIam.SettingsIsolation

/-!
# The settings cache

A read through Redis is kept there for sixty seconds, and no writer removes it.
A run gives every `get_tenant_settings` what it would get without Redis if each
hit finds an entry that was made from the row which the connection shows now,
each miss can be written to Redis, and no hit keeps `update_token_settings` from
writing its TTLs into `DEFAULT_SETTINGS`.
-/

namespace HexIam

open JsonDocument RelatedCode GuardedRun TenantSettings SettingsIsolation

namespace SettingsCache

/-! ## The endpoints -/

/-- An integer field with `ge` and `le`. -/
abbrev Bounded (low high : Int) := { value : Int // low ≤ value ∧ value ≤ high }

structure MFASettings where
  enabled : Bool := false
  requiredForAdmins : Bool := false
  methods : List String := ["totp", "email"]

def MFASettings.modelDump (settings : MFASettings) : List (String × Json) := [
  ("enabled", .leaf (.bool settings.enabled)),
  ("required_for_admins", .leaf (.bool settings.requiredForAdmins)),
  ("methods", texts settings.methods)]

structure TokenSettings where
  accessTokenTtl : Bounded 300 86400 := ⟨3600, by decide⟩
  refreshTokenTtl : Bounded 3600 2592000 := ⟨604800, by decide⟩
  idTokenTtl : Bounded 300 86400 := ⟨3600, by decide⟩

def TokenSettings.modelDump (settings : TokenSettings) : List (String × Json) := [
  ("access_token_ttl", .leaf (.int settings.accessTokenTtl)),
  ("refresh_token_ttl", .leaf (.int settings.refreshTokenTtl)),
  ("id_token_ttl", .leaf (.int settings.idTokenTtl))]

structure PasswordPolicy where
  minLength : Bounded 6 128 := ⟨8, by decide⟩
  requireUppercase : Bool := true
  requireLowercase : Bool := true
  requireNumbers : Bool := true
  requireSpecial : Bool := false
  maxAgeDays : Bounded 0 365 := ⟨90, by decide⟩
  preventReuseCount : Bounded 0 24 := ⟨5, by decide⟩

def PasswordPolicy.modelDump (policy : PasswordPolicy) : List (String × Json) := [
  ("min_length", .leaf (.int policy.minLength)),
  ("require_uppercase", .leaf (.bool policy.requireUppercase)),
  ("require_lowercase", .leaf (.bool policy.requireLowercase)),
  ("require_numbers", .leaf (.bool policy.requireNumbers)),
  ("require_special", .leaf (.bool policy.requireSpecial)),
  ("max_age_days", .leaf (.int policy.maxAgeDays)),
  ("prevent_reuse_count", .leaf (.int policy.preventReuseCount))]

structure SessionSettings where
  maxConcurrentSessions : Bounded 1 100 := ⟨5, by decide⟩
  idleTimeoutMinutes : Bounded 5 1440 := ⟨30, by decide⟩
  absoluteTimeoutHours : Bounded 1 168 := ⟨24, by decide⟩

def SessionSettings.modelDump (settings : SessionSettings) :
    List (String × Json) := [
  ("max_concurrent_sessions", .leaf (.int settings.maxConcurrentSessions)),
  ("idle_timeout_minutes", .leaf (.int settings.idleTimeoutMinutes)),
  ("absolute_timeout_hours", .leaf (.int settings.absoluteTimeoutHours))]

structure SecuritySettings where
  lockoutThreshold : Bounded 3 20 := ⟨5, by decide⟩
  lockoutDurationMinutes : Bounded 1 1440 := ⟨15, by decide⟩
  requireEmailVerification : Bool := true

def SecuritySettings.modelDump (settings : SecuritySettings) :
    List (String × Json) := [
  ("lockout_threshold", .leaf (.int settings.lockoutThreshold)),
  ("lockout_duration_minutes", .leaf (.int settings.lockoutDurationMinutes)),
  ("require_email_verification", .leaf (.bool settings.requireEmailVerification))]

/-- An optional text. -/
def textOrNull (text : Option String) : Json :=
  .leaf (text.elim .null .string)

structure BrandingSettings where
  logoUrl : Option String := none
  primaryColor : String := "#3B82F6"
  companyName : Option String := none

def BrandingSettings.modelDump (settings : BrandingSettings) :
    List (String × Json) := [
  ("logo_url", textOrNull settings.logoUrl),
  ("primary_color", .leaf (.string settings.primaryColor)),
  ("company_name", textOrNull settings.companyName)]

structure TenantSettingsUpdate where
  mfa : Option MFASettings := none
  tokens : Option TokenSettings := none
  passwordPolicy : Option PasswordPolicy := none
  session : Option SessionSettings := none
  security : Option SecuritySettings := none
  branding : Option BrandingSettings := none

/-- The sections that are given. -/
def TenantSettingsUpdate.settingsUpdate (updates : TenantSettingsUpdate) :
    List (String × Json) :=
  List.filterMap id [
    updates.mfa.map fun given => ("mfa", .object given.modelDump),
    updates.tokens.map fun given => ("tokens", .object given.modelDump),
    updates.passwordPolicy.map fun given =>
      ("password_policy", .object given.modelDump),
    updates.session.map fun given => ("session", .object given.modelDump),
    updates.security.map fun given => ("security", .object given.modelDump),
    updates.branding.map fun given => ("branding", .object given.modelDump)]

/-- The user of a request. -/
structure RequestUser where
  tenantId : String
  role : String

inductive SettingsRequest : Type
  | getCurrentTenantSettings
  | updateCurrentTenantSettings (updates : TenantSettingsUpdate)
  | updateMfaSettings (settings : MFASettings)
  | updateTokenSettings (settings : TokenSettings)
  | updatePasswordPolicy (policy : PasswordPolicy)
  | updateBranding (branding : BrandingSettings)

/-- The call behind an endpoint for administrators. -/
def SettingsRequest.adminCall : SettingsRequest → Except Nat SettingsCall
  | .getCurrentTenantSettings => .ok .getTenantSettings
  | .updateCurrentTenantSettings updates =>
      if updates.settingsUpdate.isEmpty then .error 400
      else .ok (.updateTenantSettings updates.settingsUpdate)
  | .updateMfaSettings settings =>
      .ok (.updateMfaSettings settings.enabled settings.requiredForAdmins
        (some settings.methods))
  | .updateTokenSettings settings =>
      .ok (.updateTokenSettings (some settings.accessTokenTtl)
        (some settings.refreshTokenTtl) (some settings.idTokenTtl))
  | .updatePasswordPolicy policy => .ok (.updatePasswordPolicy policy.modelDump)
  | .updateBranding branding => .ok (.updateBranding branding.modelDump)

/-- The status of a refusal, or the call that an endpoint makes: everybody may
read, and only that endpoint passes Redis on. -/
def SettingsRequest.handled (user : RequestUser) (request : SettingsRequest) :
    Except Nat (Bool × SettingsCall) :=
  match request with
  | .getCurrentTenantSettings => .ok (true, .getTenantSettings)
  | request =>
      if user.role ∈ ["admin", "superadmin", "root"] then
        request.adminCall.map fun call => (false, call)
      else .error 403

/-! ## Runs -/

/-- A call of a service function, with Redis or without, a request, or an entry
in Redis that expires.  The header of a request names the tenant that its
connection is set to. -/
inductive SettingsEvent : Type
  | call (redisConn : Bool) (call : TenantCall)
  | request (user : RequestUser) (db : Connection) (request : SettingsRequest)
  | expire (tenantId : String)

/-- The call that an event makes, and whether it passes Redis. -/
def SettingsEvent.made : SettingsEvent → Option (Bool × TenantCall)
  | .call redisConn tenantCall => some (redisConn, tenantCall)
  | .request user db asked =>
      match asked.handled user with
      | .ok (redisConn, settingsCall) =>
          some (redisConn, ⟨user.tenantId, db, settingsCall⟩)
      | .error _ => none
  | .expire _ => none

def SettingsEvent.expired : SettingsEvent → Option String
  | .expire tenantId => some tenantId
  | _ => none

/-- The service after an event, where `redis` says whether there is a Redis. -/
def step (codec : Codec) (redis : Bool) (service : Service)
    (event : SettingsEvent) : Option Service :=
  match event.made, event.expired with
  | some (redisConn, call), _ =>
      some (after (call.call.run codec call.db (redis && redisConn) call.tenantId)
        service)
  | none, some tenantId =>
      some { service with cache := Function.update service.cache tenantId none }
  | none, none => some service

/-- At any time every `get_tenant_settings` has returned what it returns in the
run without Redis. -/
def Transparent (codec : Codec) (start : Service) (events : List SettingsEvent) :
    Prop :=
  ∀ first rest cached uncached, events = first ++ rest →
    exec (step codec true) start first = some cached →
    exec (step codec false) start first = some uncached →
    cached.reads = uncached.reads

/-! ## The condition -/

/-- What Redis holds for the tenant is what the row gives over this connection, and
if it holds nothing, it can hold that. -/
def CacheCurrent (codec : Codec) (service : Service) (call : TenantCall) : Prop :=
  let read := readSettings service.defaults.plain
    (selectSettings service.settings call.db call.tenantId)
  match service.cache call.tenantId with
  | some cached => View.ofCached cached = read
  | none =>
      ∀ response, read = .ok response →
        (codec.orjson (.object response.entries)).isSome

/-- A TTL as it stands in the defaults. -/
def DefaultTtl (service : Service) (key : TokenTtl) (ttl : Int) : Prop :=
  service.defaults.plain.at ["tokens", key.key] = some (.leaf (.int ttl))

/-- If the call sets TTLs on tokens from Redis that are those of the defaults, they
are the same. -/
def TokensAgree (service : Service) (call : TenantCall) : Prop :=
  match call.call with
  | .updateTokenSettings accessTokenTtl refreshTokenTtl idTokenTtl =>
      (service.cache call.tenantId).isSome →
        sharesTokens (selectSettings service.settings call.db call.tenantId) = true →
        ∀ key, ∀ ttl ∈ givenTtls accessTokenTtl refreshTokenTtl idTokenTtl key,
          DefaultTtl service key ttl
  | _ => True

/-- A call that passes Redis on finds it current. -/
def Current (codec : Codec) (service : Service) (event : SettingsEvent) : Prop :=
  ∀ call, event.made = some (true, call) → call.call.passesRedis = true →
    CacheCurrent codec service call ∧ TokensAgree service call

/-- A run with Redis, and for each tenant the defaults and the row that its entry
was made from. -/
structure History where
  service : Service
  madeFrom : String → Option (Json × Option (Option Json)) := fun _ => none

/-- A call that passes Redis on and finds no entry makes one. -/
def History.record (history : History) (event : SettingsEvent) :
    String → Option (Json × Option (Option Json)) :=
  match event.made with
  | some (true, call) =>
      if call.call.passesRedis && (history.service.cache call.tenantId).isNone then
        Function.update history.madeFrom call.tenantId
          (some (history.service.defaults.plain,
            selectSettings history.service.settings call.db call.tenantId))
      else history.madeFrom
  | _ => history.madeFrom

def observe (codec : Codec) (history : History) (event : SettingsEvent) :
    Option History :=
  (step codec true history.service event).map fun next =>
    { service := next, madeFrom := history.record event }

/-- An entry of the tenant was made from the defaults and from the row as they are
over this connection, and if there is none, one can be made. -/
def EntryHolds (codec : Codec) (history : History) (call : TenantCall) : Prop :=
  let defaults := history.service.defaults.plain
  let row := selectSettings history.service.settings call.db call.tenantId
  match history.service.cache call.tenantId with
  | some _ => history.madeFrom call.tenantId = some (defaults, row)
  | none =>
      ∀ response, readSettings defaults row = .ok response →
        (codec.orjson (.object response.entries)).isSome

/-- A call that passes Redis on finds an entry that holds, or none. -/
def InTime (codec : Codec) (history : History) (event : SettingsEvent) : Prop :=
  ∀ call, event.made = some (true, call) → call.call.passesRedis = true →
    EntryHolds codec history call ∧ TokensAgree history.service call

/-! ## Reads through Redis -/

/-- What the stored settings give, if Redis can hold it. -/
def readAndFill (codec : Codec) (db : Connection) (tenantId : String) (view : View) :
    Except PyError (TenantSettingsResponse Json) :=
  (readSettings view.defaults (view.seen db tenantId)).bind fun response =>
    match codec.orjson (.object response.entries) with
    | some _ => .ok response
    | none => .error .refused

/-- What a read through Redis gives. -/
def throughRedis (codec : Codec) (db : Connection) (tenantId : String) (view : View) :
    Except PyError (TenantSettingsResponse Json) :=
  match view.cache tenantId with
  | some cached => View.ofCached cached
  | none => readAndFill codec db tenantId view

/-- The cache is left, or the entry of the tenant has what was read. -/
def Fills (codec : Codec) (tenantId : String)
    (read : Except PyError (TenantSettingsResponse Json))
    (cache filled : String → Option Json) : Prop :=
  filled = cache ∨ ∃ response stored, read = .ok response ∧
    codec.orjson (.object response.entries) = some stored ∧
    filled = Function.update cache tenantId (some stored)

theorem run_fromDatabase (codec : Codec) (db : Connection) (tenantId : String)
    (view : View) :
    ∃ cache, Fills codec tenantId (readSettings view.defaults (view.seen db tenantId))
        view.cache cache ∧
      View.fromDatabase codec db true tenantId view =
        match readAndFill codec db tenantId view with
        | .ok response =>
            .ok (response, sharesTokens (view.seen db tenantId)) { view with cache }
        | .error error => .error error { view with cache } := by
  unfold View.fromDatabase readAndFill
  have start : (get : Spec View) view = .ok view view := rfl
  rw [run_bind_of_ok start]
  cases readSettings view.defaults (view.seen db tenantId) with
  | error error => exact ⟨view.cache, .inl rfl, rfl⟩
  | ok response =>
      have lifted : View.lift (.ok response) view = .ok response view := rfl
      rw [run_bind_of_ok lifted]
      dsimp only [Except.bind]
      cases stored : codec.orjson (.object response.entries) with
      | none =>
          refine ⟨view.cache, .inl rfl, ?_⟩
          unfold View.fill
          rw [stored]
          rfl
      | some copy =>
          refine ⟨Function.update view.cache tenantId (some copy),
            .inr ⟨response, copy, rfl, stored, rfl⟩, ?_⟩
          unfold View.fill
          rw [stored]
          rfl

/-- A read through Redis is recorded, fills the cache at most, and has the tokens
of the defaults only if Redis held nothing. -/
theorem run_getSettings_redis (codec : Codec) (db : Connection) (tenantId : String)
    (view : View) :
    ∃ cache, (cache = view.cache ∨ view.cache tenantId = none ∧
        Fills codec tenantId (readSettings view.defaults (view.seen db tenantId))
          view.cache cache) ∧
      View.getSettings codec db true tenantId view =
        match throughRedis codec db tenantId view with
        | .ok response =>
            .ok (response,
                (view.cache tenantId).isNone && sharesTokens (view.seen db tenantId))
              { view with cache, reads := view.reads ++ [.ok response] }
        | .error error =>
            .error error
              { view with cache, reads := view.reads ++ [.error error] } := by
  unfold throughRedis View.getSettings View.recorded
  cases found : view.cache tenantId with
  | some cached =>
      have hit : View.hit true tenantId view = .ok (some cached) view := by
        rw [← found]
        rfl
      rw [run_bind_of_ok hit]
      dsimp only
      refine ⟨view.cache, .inl rfl, ?_⟩
      cases View.ofCached cached <;> rfl
  | none =>
      have miss : View.hit true tenantId view = .ok none view := by
        rw [← found]
        rfl
      obtain ⟨cache, fills, ran⟩ := run_fromDatabase codec db tenantId view
      rw [run_bind_of_ok miss]
      dsimp only
      rw [ran]
      refine ⟨cache, .inr ⟨rfl, fills⟩, ?_⟩
      cases readAndFill codec db tenantId view <;> rfl

/-! ## Two views, with and without Redis -/

/-- Views that differ in the cache at most. -/
structure Same (view other : View) : Prop where
  ttls : view.ttls = other.ttls
  settings : view.settings = other.settings
  reads : view.reads = other.reads

theorem tied_same (tenantId : String) : Tied tenantId Same where
  ttls _ _ same := same.ttls
  row _ _ same := congrFun same.settings tenantId
  record _ _ same read := { same with reads := congrArg (· ++ [read]) same.reads }
  save _ _ same row :=
    { same with settings := congrArg (Function.update · tenantId row) same.settings }

theorem same_writes (view other : View) (same : Same view other) (key : TokenTtl)
    (ttl : Int) :
    Same { view with ttls := Function.update view.ttls key ttl }
      { other with ttls := Function.update other.ttls key ttl } :=
  { same with ttls := congrArg (Function.update · key ttl) same.ttls }

theorem Same.seen {view other : View} (same : Same view other) (db : Connection)
    (tenantId : String) : view.seen db tenantId = other.seen db tenantId := by
  rw [View.seen, View.seen, same.settings]

theorem Same.defaults {view other : View} (same : Same view other) :
    view.defaults = other.defaults := by
  rw [View.defaults, View.defaults, same.ttls]

/-- The code only adds to what is recorded. -/
def Records {α : Type} (code : Spec α) : Prop :=
  ∀ view, view.reads <+: (after code view).reads

theorem tied_records (tenantId : String)
    (recorded : List (Except PyError (TenantSettingsResponse Json))) :
    Tied tenantId fun view other => view = other ∧ recorded <+: view.reads where
  ttls _ _ same := same.1 ▸ rfl
  row _ _ same := same.1 ▸ rfl
  record _ _ same read :=
    same.1 ▸ ⟨rfl, same.2.trans (List.prefix_append _ [read])⟩
  save _ _ same _ := same.1 ▸ ⟨rfl, same.2⟩

theorem records_finishUpdate (codec : Codec) (db : Connection) (tenantId : String)
    (settings : Json) (current : TenantSettingsResponse Json) :
    Records (View.finishUpdate codec db tenantId settings current) := fun view =>
  ((tied_records tenantId view.reads).finishUpdate codec db settings current).keeps
    List.prefix_rfl

theorem records_finishTokens (codec : Codec) (db : Connection) (tenantId : String)
    (accessTokenTtl refreshTokenTtl idTokenTtl : Option Int)
    (current : TenantSettingsResponse Json × Bool) :
    Records (View.finishTokens codec db tenantId accessTokenTtl refreshTokenTtl
      idTokenTtl current) := fun view =>
  ((tied_records tenantId view.reads).finishTokens
    (fun _ _ same _ _ => same.1 ▸ ⟨rfl, same.2⟩) codec db _ _ _ current).keeps
    List.prefix_rfl

/-- A read without Redis stays recorded. -/
theorem read_recorded {α : Type} (codec : Codec) (db : Connection) (tenantId : String)
    {rest : TenantSettingsResponse Json × Bool → Spec α}
    (records : ∀ current, Records (rest current)) (view : View) :
    view.reads ++ [readSettings view.defaults (view.seen db tenantId)] <+:
      (after (View.getSettings codec db false tenantId >>= rest) view).reads := by
  have ran := run_getSettings codec db tenantId view
  cases isRead : readSettings view.defaults (view.seen db tenantId) with
  | ok response =>
      rw [isRead] at ran
      rw [after_bind_of_ok ran]
      exact records _ { view with reads := view.reads ++ [.ok response] }
  | error error =>
      rw [isRead] at ran
      rw [after_bind_of_error ran]

theorem redis_read_recorded {α : Type} (codec : Codec) (db : Connection)
    (tenantId : String)
    {rest : TenantSettingsResponse Json × Bool → Spec α}
    (records : ∀ current, Records (rest current)) (view : View) :
    view.reads ++ [throughRedis codec db tenantId view] <+:
      (after (View.getSettings codec db true tenantId >>= rest) view).reads := by
  obtain ⟨cache, -, ran⟩ := run_getSettings_redis codec db tenantId view
  cases isRead : throughRedis codec db tenantId view with
  | ok response =>
      rw [isRead] at ran
      rw [after_bind_of_ok ran]
      exact records _ { view with cache, reads := view.reads ++ [.ok response] }
  | error error =>
      rw [isRead] at ran
      rw [after_bind_of_error ran]

/-- Different reads leave different records. -/
theorem eq_of_recorded
    {reads final : List (Except PyError (TenantSettingsResponse Json))}
    {first second : Except PyError (TenantSettingsResponse Json)}
    (recorded : reads ++ [first] <+: final) (other : reads ++ [second] <+: final) :
    first = second := by
  have sameLength : (reads ++ [first]).length = (reads ++ [second]).length := by
    simp
  have isPrefix := List.prefix_of_prefix_length_le recorded other sameLength.le
  have same := List.append_cancel_left (isPrefix.eq_of_length sameLength)
  exact List.head_eq_of_cons_eq same

/-- Code that starts with a read records the same with Redis as without it only
if the read is the same. -/
theorem read_eq_of_reads {α : Type} {codec : Codec} {db : Connection}
    {tenantId : String}
    {rest : TenantSettingsResponse Json × Bool → Spec α} {view other : View}
    (records : ∀ current, Records (rest current)) (same : Same view other)
    (equal : (after (View.getSettings codec db true tenantId >>= rest) view).reads =
      (after (View.getSettings codec db false tenantId >>= rest) other).reads) :
    throughRedis codec db tenantId view =
      readSettings view.defaults (view.seen db tenantId) := by
  have recorded := redis_read_recorded codec db tenantId records view
  have otherRecorded := read_recorded codec db tenantId records other
  rw [equal] at recorded
  rw [← same.reads, ← same.defaults, ← same.seen] at otherRecorded
  exact eq_of_recorded recorded otherRecorded

/-- If the read is the same, the code goes on from views that are the same, or
fails in such. -/
theorem same_of_read_eq {α : Type} {codec : Codec} {db : Connection} {tenantId : String}
    {rest : TenantSettingsResponse Json × Bool → Spec α} {view other : View}
    (same : Same view other)
    (isRead : throughRedis codec db tenantId view =
      readSettings view.defaults (view.seen db tenantId)) :
    (∃ response next nextOther, readSettings view.defaults (view.seen db tenantId) =
        .ok response ∧ Same next nextOther ∧
      next.ttls = view.ttls ∧ next.settings = view.settings ∧
      after (View.getSettings codec db true tenantId >>= rest) view =
        after (rest (response, (view.cache tenantId).isNone &&
          sharesTokens (view.seen db tenantId))) next ∧
      after (View.getSettings codec db false tenantId >>= rest) other =
        after (rest (response, sharesTokens (view.seen db tenantId))) nextOther) ∨
    (∃ error, readSettings view.defaults (view.seen db tenantId) = .error error) ∧
      Same (after (View.getSettings codec db true tenantId >>= rest) view)
        (after (View.getSettings codec db false tenantId >>= rest) other) := by
  obtain ⟨cache, -, ran⟩ := run_getSettings_redis codec db tenantId view
  have ranOther := run_getSettings codec db tenantId other
  rw [isRead] at ran
  rw [← same.defaults, ← same.seen] at ranOther
  cases outcome : readSettings view.defaults (view.seen db tenantId) with
  | ok response =>
      rw [outcome] at ran ranOther
      refine .inl ⟨response, _, _, rfl, ?_, ?_, ?_, after_bind_of_ok ran,
        after_bind_of_ok ranOther⟩
      · exact ⟨same.ttls, same.settings, congrArg (· ++ [_]) same.reads⟩
      · rfl
      · rfl
  | error error =>
      rw [outcome] at ran ranOther
      rw [after_bind_of_error ran, after_bind_of_error ranOther]
      refine .inr ⟨⟨error, rfl⟩, ?_⟩
      exact ⟨same.ttls, same.settings, congrArg (· ++ [_]) same.reads⟩

/-! ## One call through Redis -/

/-- The condition on the view. -/
def CurrentFor (codec : Codec) (db : Connection) (tenantId : String) (call : SettingsCall)
    (view : View) : Prop :=
  throughRedis codec db tenantId view =
      readSettings view.defaults (view.seen db tenantId) ∧
    match call with
    | .updateTokenSettings accessTokenTtl refreshTokenTtl idTokenTtl =>
        (view.cache tenantId).isSome → sharesTokens (view.seen db tenantId) = true →
          setTtls view.ttls
            (givenTtls accessTokenTtl refreshTokenTtl idTokenTtl) = view.ttls
    | _ => True

/-- Either the views stay the same, and the call was current, or what is recorded
differs, and it was not. -/
def Agrees (codec : Codec) (db : Connection) (tenantId : String) (call : SettingsCall)
    (view next nextOther : View) : Prop :=
  (next.reads = nextOther.reads ↔ CurrentFor codec db tenantId call view) ∧
    (CurrentFor codec db tenantId call view → Same next nextOther)

theorem agrees_of_rest {α : Type} {codec : Codec} {db : Connection} {tenantId : String}
    {call : SettingsCall} {rest : TenantSettingsResponse Json × Bool → Spec α}
    {view other : View} (records : ∀ current, Records (rest current))
    (same : Same view other)
    (restSame : ∀ response shared sharedOther,
      Related Same Eq (rest (response, shared)) (rest (response, sharedOther)))
    (condition : CurrentFor codec db tenantId call view ↔
      throughRedis codec db tenantId view =
        readSettings view.defaults (view.seen db tenantId)) :
    Agrees codec db tenantId call view
      (after (View.getSettings codec db true tenantId >>= rest) view)
      (after (View.getSettings codec db false tenantId >>= rest) other) := by
  have ifRead (isRead : throughRedis codec db tenantId view =
      readSettings view.defaults (view.seen db tenantId)) :
      Same (after (View.getSettings codec db true tenantId >>= rest) view)
        (after (View.getSettings codec db false tenantId >>= rest) other) := by
    rcases @same_of_read_eq _ _ _ _ rest _ _ same isRead with
      ⟨response, next, nextOther, -, sameNext, -, -, ran, ranOther⟩ | ⟨-, failed⟩
    · rw [ran, ranOther]
      exact (restSame response _ _).after sameNext
    · exact failed
  unfold Agrees
  rw [condition]
  exact ⟨⟨read_eq_of_reads records same, fun isRead => (ifRead isRead).reads⟩,
    ifRead⟩

/-- Shared tokens show the TTLs of the defaults. -/
theorem ttls_eq_of_read {ttls other : TokenTtl → Int} {row : Option (Option Json)}
    (shares : sharesTokens row = true)
    (same : readSettings (settingsWith ttls).plain row =
      readSettings (settingsWith other).plain row) : ttls = other := by
  obtain ⟨response, isRead, isTokens⟩ := @tokens_of_sharesTokens ttls _ shares
  obtain ⟨response', isRead', isTokens'⟩ := @tokens_of_sharesTokens other _ shares
  rw [isRead, isRead', Except.ok.injEq] at same
  rw [same, isTokens', Json.object.injEq] at isTokens
  exact (defaultTokens_injective isTokens).symm

/-- Where only the run without Redis reaches the tokens of the defaults, the
second read of the update tells whether their TTLs have changed. -/
theorem agrees_updateTokens_shared {codec : Codec} {db : Connection} {tenantId : String}
    {accessTokenTtl refreshTokenTtl idTokenTtl : Option Int}
    {next nextOther : View} {response : TenantSettingsResponse Json}
    (same : Same next nextOther)
    (shares : sharesTokens (next.seen db tenantId) = true)
    (isRead : readSettings next.defaults (next.seen db tenantId) = .ok response) :
    let finished := View.finishTokens codec db tenantId accessTokenTtl refreshTokenTtl
      idTokenTtl
    let unchanged := setTtls next.ttls
      (givenTtls accessTokenTtl refreshTokenTtl idTokenTtl) = next.ttls
    ((after (finished (response, false)) next).reads =
        (after (finished (response, true)) nextOther).reads ↔ unchanged) ∧
      (unchanged → Same (after (finished (response, false)) next)
        (after (finished (response, true)) nextOther)) := by
  intro finished unchanged
  obtain ⟨shown, isShown, isTokens⟩ := @tokens_of_sharesTokens next.ttls _ shares
  rw [View.defaults, isShown, Except.ok.injEq] at isRead
  rw [isRead] at isTokens
  obtain ⟨settings, finishes⟩ := after_finishTokens codec db tenantId accessTokenTtl
    refreshTokenTtl idTokenTtl isTokens (List.cons_ne_nil _ _)
  have sameAfter (isUnchanged : unchanged) :
      Same (after (finished (response, false)) next)
        (after (finished (response, true)) nextOther) := by
    rw [finishes, finishes]
    refine ((tied_same tenantId).updateSettings codec db settings).after ?_
    refine ⟨?_, same.settings, same.reads⟩
    exact isUnchanged.symm.trans (congrArg (setTtls · _) same.ttls)
  refine ⟨⟨fun equal => ?_, fun isUnchanged => (sameAfter isUnchanged).reads⟩,
    sameAfter⟩
  rw [finishes, finishes] at equal
  have recorded := read_recorded codec db tenantId
    (fun current => records_finishUpdate codec db tenantId settings current.1)
    next
  have recordedOther := read_recorded codec db tenantId
    (fun current => records_finishUpdate codec db tenantId settings current.1)
    { nextOther with
      ttls := setTtls nextOther.ttls
        (givenTtls accessTokenTtl refreshTokenTtl idTokenTtl) }
  have recorded : next.reads ++ [readSettings next.defaults (next.seen db tenantId)] <+:
      (after (View.updateSettings codec db false tenantId settings)
        { nextOther with
          ttls := setTtls nextOther.ttls
            (givenTtls accessTokenTtl refreshTokenTtl idTokenTtl) }).reads :=
    Eq.mp (congrArg (_ <+: ·) equal) recorded
  change nextOther.reads ++ [readSettings (settingsWith (setTtls nextOther.ttls
      (givenTtls accessTokenTtl refreshTokenTtl idTokenTtl))).plain
        (nextOther.seen db tenantId)] <+:
    (after (View.updateSettings codec db false tenantId settings) _).reads
    at recordedOther
  rw [same.reads] at recorded
  have sameRead := eq_of_recorded recorded recordedOther
  rw [← same.seen, ← same.ttls] at sameRead
  exact (ttls_eq_of_read shares sameRead).symm

theorem agrees_updateTokens {codec : Codec} {db : Connection} {tenantId : String}
    {accessTokenTtl refreshTokenTtl idTokenTtl : Option Int} {view other : View}
    (same : Same view other) :
    Agrees codec db tenantId
      (.updateTokenSettings accessTokenTtl refreshTokenTtl idTokenTtl) view
      (after (View.updateTokens codec db true tenantId accessTokenTtl refreshTokenTtl
        idTokenTtl) view)
      (after (View.updateTokens codec db false tenantId accessTokenTtl refreshTokenTtl
        idTokenTtl) other) := by
  have records := records_finishTokens codec db tenantId accessTokenTtl refreshTokenTtl
    idTokenTtl
  unfold Agrees CurrentFor View.updateTokens
  by_cases isRead : throughRedis codec db tenantId view =
      readSettings view.defaults (view.seen db tenantId)
  · rw [and_iff_right isRead]
    rcases @same_of_read_eq _ _ _ _ (View.finishTokens codec db tenantId accessTokenTtl
        refreshTokenTtl idTokenTtl) _ _ same isRead with
      ⟨response, next, nextOther, isResponse, sameNext, ttls, settings, ran, ranOther⟩ |
      ⟨⟨error, failed⟩, sameNext⟩
    · have seen : next.seen db tenantId = view.seen db tenantId :=
        congrArg (selectSettings · db tenantId) settings
      rw [ran, ranOther]
      by_cases reached : (view.cache tenantId).isSome = true ∧
          sharesTokens (view.seen db tenantId) = true
      · obtain ⟨hit, shares⟩ := reached
        have flag : (view.cache tenantId).isNone = false :=
          Option.isNone_eq_false_iff.mpr hit
        rw [flag, shares, Bool.false_and]
        simp only [hit, forall_const]
        have isRead : readSettings next.defaults (next.seen db tenantId) =
            .ok response := by
          rw [View.defaults, ttls, seen]
          exact isResponse
        rw [← ttls]
        exact agrees_updateTokens_shared sameNext (seen ▸ shares) isRead
      · have flag : ((view.cache tenantId).isNone &&
            sharesTokens (view.seen db tenantId)) =
            sharesTokens (view.seen db tenantId) := by
          cases cached : view.cache tenantId with
          | none => exact Bool.true_and _
          | some document =>
              rw [cached] at reached
              cases shares : sharesTokens (view.seen db tenantId) with
              | true => exact absurd ⟨rfl, shares⟩ reached
              | false => rfl
        have sameAfter := ((tied_same tenantId).finishTokens same_writes codec db
          accessTokenTtl refreshTokenTtl idTokenTtl
          (response, sharesTokens (view.seen db tenantId))).after sameNext
        rw [flag]
        refine ⟨iff_of_true sameAfter.reads fun hit shares => ?_, fun _ => sameAfter⟩
        exact absurd ⟨hit, shares⟩ reached
    · refine ⟨iff_of_true sameNext.reads fun _ shares => ?_, fun _ => sameNext⟩
      obtain ⟨response, isResponse, -⟩ := @tokens_of_sharesTokens view.ttls _ shares
      cases failed.symm.trans isResponse
  · refine ⟨iff_of_false (fun equal => ?_) fun current => isRead current.1,
      fun current => absurd current.1 isRead⟩
    exact isRead (read_eq_of_reads records same equal)

theorem agrees_spec {codec : Codec} {db : Connection} {tenantId : String}
    {call : SettingsCall} (passes : call.passesRedis = true) {view other : View}
    (same : Same view other) :
    Agrees codec db tenantId call view (after (call.spec codec db true tenantId) view)
      (after (call.spec codec db false tenantId) other) := by
  cases call with
  | getTenantSettings =>
      refine agrees_of_rest (fun _ _ => List.prefix_rfl) same
        (fun _ _ _ => related_pure rfl) (and_iff_left trivial)
  | updateTenantSettings settings =>
      have ran (redis : Bool) (shown : View) :
          after ((SettingsCall.updateTenantSettings settings).spec codec db redis
              tenantId) shown =
            after (View.updateSettings codec db redis tenantId (.object settings))
              shown := by
        simp only [SettingsCall.spec, SettingsCall.passesRedis, Bool.and_true]
        exact after_bind_pure _ shown
      rw [ran, ran]
      exact agrees_of_rest
        (fun current => records_finishUpdate codec db tenantId _ current.1) same
        (fun response _ _ => (tied_same tenantId).finishUpdate codec db _ response)
        (and_iff_left trivial)
  | updateTokenSettings accessTokenTtl refreshTokenTtl idTokenTtl =>
      have ran (redis : Bool) (shown : View) :
          after ((SettingsCall.updateTokenSettings accessTokenTtl refreshTokenTtl
              idTokenTtl).spec codec db redis tenantId) shown =
            after (View.updateTokens codec db redis tenantId accessTokenTtl
              refreshTokenTtl idTokenTtl) shown :=
        after_bind_pure _ shown
      rw [ran, ran]
      exact agrees_updateTokens same
  | updateMfaSettings _ _ _ => cases passes
  | updatePasswordPolicy _ => cases passes
  | updateBranding _ => cases passes

/-! ## Steps -/

theorem cacheCurrent_iff {codec : Codec} {service : Service} {view : View}
    (shows : Shows service view) (call : TenantCall) :
    CacheCurrent codec service call ↔
      throughRedis codec call.db call.tenantId view =
        readSettings view.defaults (view.seen call.db call.tenantId) := by
  unfold CacheCurrent throughRedis
  rw [shows.cache, shows.defaults, shows.seen]
  change _ ↔ _ = readSettings (settingsWith view.ttls).plain _
  cases view.cache call.tenantId with
  | some cached => exact Iff.rfl
  | none =>
      unfold readAndFill View.defaults
      dsimp only
      cases readSettings (settingsWith view.ttls).plain
          (view.seen call.db call.tenantId) with
      | error error => exact iff_of_true nofun rfl
      | ok response =>
          dsimp only [Except.bind]
          cases stored : codec.orjson (.object response.entries) with
          | some copy =>
              refine iff_of_true ?_ rfl
              rintro _ ⟨⟩
              rw [stored]
              rfl
          | none =>
              refine iff_of_false (fun holds => ?_) nofun
              have isStored := holds response rfl
              rw [stored] at isStored
              cases isStored

theorem defaultTtl_iff {service : Service} {view : View}
    (shows : Shows service view) (key : TokenTtl) (ttl : Int) :
    DefaultTtl service key ttl ↔ ttl = view.ttls key := by
  have stands : (settingsWith view.ttls).plain.at ["tokens", key.key] =
      some (.leaf (.int (view.ttls key))) := by
    cases key <;> rfl
  unfold DefaultTtl
  rw [shows.defaults, stands]
  simp [eq_comm]

theorem current_iff {codec : Codec} {service : Service} {view : View}
    {event : SettingsEvent} {call : TenantCall} (shows : Shows service view)
    (made : event.made = some (true, call)) (passes : call.call.passesRedis = true) :
    Current codec service event ↔
      CurrentFor codec call.db call.tenantId call.call view := by
  have unique : Current codec service event ↔
      CacheCurrent codec service call ∧ TokensAgree service call := by
    constructor
    · exact fun current => current call made passes
    · rintro holds other otherMade -
      cases made.symm.trans otherMade
      exact holds
  rw [unique, cacheCurrent_iff shows]
  unfold CurrentFor TokensAgree
  rw [shows.cache, shows.seen]
  refine and_congr_right fun _ => ?_
  cases call.call with
  | updateTokenSettings accessTokenTtl refreshTokenTtl idTokenTtl =>
      simp only [setTtls_eq_iff, defaultTtl_iff shows]
  | getTenantSettings => exact Iff.rfl
  | updateTenantSettings _ => exact Iff.rfl
  | updateMfaSettings _ _ _ => exact Iff.rfl
  | updatePasswordPolicy _ => exact Iff.rfl
  | updateBranding _ => exact Iff.rfl

/-- The service with Redis and the one without, in the same state otherwise. -/
def Paired (cached uncached : Service) : Prop :=
  ∃ view other, Shows cached view ∧ Shows uncached other ∧ Same view other

theorem Paired.reads {cached uncached : Service} (paired : Paired cached uncached) :
    cached.reads = uncached.reads := by
  obtain ⟨view, other, shows, showsOther, same⟩ := paired
  rw [shows.reads, showsOther.reads, same.reads]

theorem spec_of_not_passes {call : SettingsCall} (codec : Codec) (db : Connection)
    (redis : Bool) (tenantId : String) (notPassed : call.passesRedis = false) :
    call.spec codec db redis tenantId = call.spec codec db false tenantId := by
  cases call with
  | getTenantSettings => cases notPassed
  | updateTenantSettings _ => cases notPassed
  | updateTokenSettings _ _ _ => cases notPassed
  | updateMfaSettings _ _ _ =>
      simp only [SettingsCall.spec, SettingsCall.passesRedis, Bool.and_false]
  | updatePasswordPolicy _ =>
      simp only [SettingsCall.spec, SettingsCall.passesRedis, Bool.and_false]
  | updateBranding _ =>
      simp only [SettingsCall.spec, SettingsCall.passesRedis, Bool.and_false]

theorem same_spec (codec : Codec) (db : Connection) (tenantId : String)
    (call : SettingsCall) {view other : View} (same : Same view other) :
    Same (after (call.spec codec db false tenantId) view)
      (after (call.spec codec db false tenantId) other) :=
  ((tied_same tenantId).spec same_writes codec db call).after same

theorem paired_of_calls {codec : Codec} {redis : Bool} {cached uncached : Service}
    {view other : View} (shows : Shows cached view) (showsOther : Shows uncached other)
    (call : TenantCall)
    (same : Same (after (call.call.spec codec call.db redis call.tenantId) view)
      (after (call.call.spec codec call.db false call.tenantId) other)) :
    Paired (after (call.call.run codec call.db redis call.tenantId) cached)
      (after (call.call.run codec call.db false call.tenantId) uncached) :=
  ⟨_, _, (related_run codec call.db redis call.tenantId call.call).after shows,
    (related_run codec call.db false call.tenantId call.call).after showsOther, same⟩

/-- After an event the records are the same exactly if it found Redis current,
and then the services stay paired. -/
theorem paired_step {codec : Codec} {cached uncached next nextUncached : Service}
    {event : SettingsEvent} (paired : Paired cached uncached)
    (isStep : step codec true cached event = some next)
    (isStepUncached : step codec false uncached event = some nextUncached) :
    (next.reads = nextUncached.reads ↔ Current codec cached event) ∧
      (Current codec cached event → Paired next nextUncached) := by
  have always (stays : Paired next nextUncached)
      (vacuous : Current codec cached event) :
      (next.reads = nextUncached.reads ↔ Current codec cached event) ∧
        (Current codec cached event → Paired next nextUncached) :=
    ⟨iff_of_true stays.reads vacuous, fun _ => stays⟩
  obtain ⟨view, other, shows, showsOther, same⟩ := paired
  unfold step at isStep isStepUncached
  cases made : event.made with
  | some sent =>
      obtain ⟨redisConn, call⟩ := sent
      rw [made] at isStep isStepUncached
      cases isStep
      cases isStepUncached
      rw [Bool.true_and, Bool.false_and]
      cases redisConn with
      | false =>
          refine always ?_ fun _ otherMade => nomatch made.symm.trans otherMade
          exact paired_of_calls shows showsOther call (same_spec codec _ _ _ same)
      | true =>
          cases passes : call.call.passesRedis with
          | false =>
              refine always ?_ fun passed otherMade passesOther => ?_
              · refine paired_of_calls shows showsOther call ?_
                rw [spec_of_not_passes codec _ _ _ passes]
                exact same_spec codec _ _ _ same
              · cases made.symm.trans otherMade
                exact absurd (passes.symm.trans passesOther) Bool.false_ne_true
          | true =>
              have ran := (related_run codec call.db true call.tenantId
                call.call).after shows
              have ranOther := (related_run codec call.db false call.tenantId
                call.call).after showsOther
              have agrees := @agrees_spec codec call.db call.tenantId _ passes _ _ same
              rw [current_iff shows made passes, ran.reads, ranOther.reads]
              exact ⟨agrees.1, fun current =>
                ⟨_, _, ran, ranOther, agrees.2 current⟩⟩
  | none =>
      rw [made] at isStep isStepUncached
      refine always ?_ fun _ otherMade => nomatch made.symm.trans otherMade
      cases expired : event.expired with
      | none =>
          rw [expired] at isStep isStepUncached
          cases isStep
          cases isStepUncached
          exact ⟨view, other, shows, showsOther, same⟩
      | some tenantId =>
          rw [expired] at isStep isStepUncached
          cases isStep
          cases isStepUncached
          refine ⟨{ view with cache := Function.update view.cache tenantId none },
            { other with cache := Function.update other.cache tenantId none },
            { shows with cache := ?_ }, { showsOther with cache := ?_ },
            { same with }⟩
          · exact congrArg (Function.update · tenantId none) shows.cache
          · exact congrArg (Function.update · tenantId none) showsOther.cache

/-! ## The result -/

theorem exec_total (codec : Codec) (redis : Bool) (service : Service)
    (event : SettingsEvent) : ∃ next, step codec redis service event = some next := by
  unfold step
  split
  · exact ⟨_, rfl⟩
  · exact ⟨_, rfl⟩
  · exact ⟨_, rfl⟩

/-- From paired services, the records stay the same exactly in the runs that find
Redis current. -/
theorem reads_eq_iff_along {codec : Codec} {events : List SettingsEvent}
    {cached uncached : Service} (paired : Paired cached uncached) :
    (∀ first rest final finalUncached, events = first ++ rest →
        exec (step codec true) cached first = some final →
        exec (step codec false) uncached first = some finalUncached →
        final.reads = finalUncached.reads) ↔
      Along (step codec true) (Current codec) cached events := by
  induction events generalizing cached uncached with
  | nil =>
      refine iff_of_true ?_ trivial
      intro first rest final finalUncached split runs runsUncached
      obtain ⟨rfl, rfl⟩ := List.nil_eq_append_iff.mp split
      cases runs
      cases runsUncached
      exact paired.reads
  | cons event rest ih =>
      obtain ⟨next, isStep⟩ := exec_total codec true cached event
      obtain ⟨nextUncached, isStepUncached⟩ := exec_total codec false uncached event
      obtain ⟨readsIff, stays⟩ := paired_step paired isStep isStepUncached
      constructor
      · intro transparent
        have current := readsIff.mp (transparent [event] rest next nextUncached rfl
          (exec_cons_eq_some.mpr ⟨next, isStep, rfl⟩)
          (exec_cons_eq_some.mpr ⟨nextUncached, isStepUncached, rfl⟩))
        refine along_of_step isStep current ((ih (stays current)).mp ?_)
        intro first others final finalUncached split runs runsUncached
        exact transparent (event :: first) others final finalUncached
          (congrArg (event :: ·) split)
          (exec_cons_eq_some.mpr ⟨next, isStep, runs⟩)
          (exec_cons_eq_some.mpr ⟨nextUncached, isStepUncached, runsUncached⟩)
      · rintro ⟨current, later⟩ first others final finalUncached split runs
          runsUncached
        cases first with
        | nil =>
            cases runs
            cases runsUncached
            exact paired.reads
        | cons head tail =>
            obtain ⟨rfl, tailEq⟩ := List.cons_eq_cons.mp split
            obtain ⟨_, isHead, restRuns⟩ := exec_cons_eq_some.mp runs
            obtain ⟨_, isHeadUncached, restUncached⟩ :=
              exec_cons_eq_some.mp runsUncached
            cases isStep.symm.trans isHead
            cases isStepUncached.symm.trans isHeadUncached
            exact (ih (stays current)).mpr (later next isStep) tail others final
              finalUncached tailEq restRuns restUncached

/-- Every `get_tenant_settings` of a run returns what it returns without Redis
exactly if every call through Redis finds it current. -/
theorem transparent_iff_along_current (codec : Codec)
    (rows : String → Option (Option Json)) (events : List SettingsEvent) :
    Transparent codec { settings := rows } events ↔
      Along (step codec true) (Current codec) { settings := rows } events :=
  reads_eq_iff_along
    ⟨_, _, shows_start rows, shows_start rows, rfl, rfl, rfl⟩

/-! ## Where the entries come from -/

section Entries

variable {codec : Codec} {tenantId : String} {view : View}

theorem tied_cache (tenantId : String) (cache : String → Option Json) :
    Tied tenantId fun view other => view = other ∧ view.cache = cache where
  ttls _ _ same := same.1 ▸ rfl
  row _ _ same := same.1 ▸ rfl
  record _ _ same _ := same.1 ▸ ⟨rfl, same.2⟩
  save _ _ same _ := same.1 ▸ ⟨rfl, same.2⟩

theorem cache_after_finishUpdate (db : Connection) (settings : Json)
    (current : TenantSettingsResponse Json) :
    (after (View.finishUpdate codec db tenantId settings current) view).cache =
      view.cache :=
  ((tied_cache tenantId view.cache).finishUpdate codec db settings current).keeps rfl

theorem cache_after_finishTokens (db : Connection)
    (accessTokenTtl refreshTokenTtl idTokenTtl : Option Int)
    (current : TenantSettingsResponse Json × Bool) :
    (after (View.finishTokens codec db tenantId accessTokenTtl refreshTokenTtl
      idTokenTtl current) view).cache = view.cache :=
  ((tied_cache tenantId view.cache).finishTokens
    (fun _ _ same _ _ => same.1 ▸ ⟨rfl, same.2⟩) codec db _ _ _ current).keeps rfl

/-- Without Redis nothing is cached. -/
theorem cache_after_spec (db : Connection) (call : SettingsCall) :
    (after (call.spec codec db false tenantId) view).cache = view.cache :=
  ((tied_cache tenantId view.cache).spec
    (fun _ _ same _ _ => same.1 ▸ ⟨rfl, same.2⟩) codec db call).keeps rfl

/-- After a read through Redis, code that caches nothing leaves the entry that the
read has found or made. -/
theorem cache_after_read {α : Type} {db : Connection}
    {rest : TenantSettingsResponse Json × Bool → Spec α}
    (keeps : ∀ current view, (after (rest current) view).cache = view.cache) :
    let cache := (after (View.getSettings codec db true tenantId >>= rest) view).cache
    cache = view.cache ∨ view.cache tenantId = none ∧
      Fills codec tenantId (readSettings view.defaults (view.seen db tenantId))
        view.cache cache := by
  obtain ⟨cache, fills, ran⟩ := run_getSettings_redis codec db tenantId view
  cases isRead : throughRedis codec db tenantId view with
  | ok response =>
      rw [isRead] at ran
      rw [after_bind_of_ok ran, keeps]
      exact fills
  | error error =>
      rw [isRead] at ran
      rw [after_bind_of_error ran]
      exact fills

theorem cache_after_spec_redis {db : Connection} {call : SettingsCall}
    (passes : call.passesRedis = true) :
    let cache := (after (call.spec codec db true tenantId) view).cache
    cache = view.cache ∨ view.cache tenantId = none ∧
      Fills codec tenantId (readSettings view.defaults (view.seen db tenantId))
        view.cache cache := by
  cases call with
  | getTenantSettings => exact cache_after_read fun _ _ => rfl
  | updateTenantSettings settings =>
      simp only [SettingsCall.spec, SettingsCall.passesRedis, Bool.and_true,
        after_bind_pure]
      exact cache_after_read fun current _ =>
        cache_after_finishUpdate db _ current.1
  | updateTokenSettings accessTokenTtl refreshTokenTtl idTokenTtl =>
      simp only [SettingsCall.spec, after_bind_pure]
      exact cache_after_read fun current _ => cache_after_finishTokens db _ _ _ current
  | updateMfaSettings _ _ _ => cases passes
  | updatePasswordPolicy _ => cases passes
  | updateBranding _ => cases passes

/-- Every entry has what the row that it was made from gave over the defaults of
that time. -/
structure Recorded (history : History) (view : View) : Prop where
  shows : Shows history.service view
  entries : ∀ tenantId cached, view.cache tenantId = some cached →
    ∃ defaults row, history.madeFrom tenantId = some (defaults, row) ∧
      View.ofCached cached = readSettings defaults row

variable {history next : History} {event : SettingsEvent}

/-- An event that fills no entry keeps the record of the others. -/
theorem Recorded.of_cache {service : Service} {later : View}
    (recorded : Recorded history view) (shows : Shows service later)
    (kept : ∀ tenantId cached, later.cache tenantId = some cached →
      view.cache tenantId = some cached)
    (unrecorded : history.record event = history.madeFrom) :
    Recorded ⟨service, history.record event⟩ later where
  shows := shows
  entries tenantId cached found := by
    rw [unrecorded]
    exact recorded.entries tenantId cached (kept tenantId cached found)

/-- A call that finds no entry records what it makes one from. -/
theorem recorded_after_call
    (lossless : ∀ document stored, codec.orjson document = some stored →
      stored = document)
    (recorded : Recorded history view) {call : TenantCall}
    (made : event.made = some (true, call)) (passes : call.call.passesRedis = true) :
    Recorded ⟨after (call.call.run codec call.db true call.tenantId) history.service,
        history.record event⟩
      (after (call.call.spec codec call.db true call.tenantId) view) := by
  have shows := (related_run codec call.db true call.tenantId call.call).after
    recorded.shows
  refine ⟨shows, fun tenantId cached found => ?_⟩
  have caches := @cache_after_spec_redis codec call.tenantId view call.db _ passes
  have records : history.record event =
      if (view.cache call.tenantId).isNone then
        Function.update history.madeFrom call.tenantId
          (some (view.defaults, view.seen call.db call.tenantId))
      else history.madeFrom := by
    unfold History.record
    rw [made]
    dsimp only
    rw [passes, recorded.shows.cache, recorded.shows.defaults, recorded.shows.seen,
      Bool.true_and]
    rfl
  dsimp only
  rw [records]
  cases before : view.cache call.tenantId with
  | some held =>
      rw [before] at caches
      rw [caches.resolve_right fun filled => nomatch filled.1] at found
      exact recorded.entries tenantId cached found
  | none =>
      simp only [Option.isNone_none, if_true]
      by_cases own : tenantId = call.tenantId
      · subst own
        rw [Function.update_self]
        refine ⟨_, _, rfl, ?_⟩
        rcases caches with same | ⟨-, same | ⟨response, stored, isRead, isStored, same⟩⟩
        · cases before.symm.trans (congrFun same.symm _ |>.trans found)
        · cases before.symm.trans (congrFun same.symm _ |>.trans found)
        · rw [same, Function.update_self] at found
          cases found
          rw [isRead, lossless _ _ isStored]
          rfl
      · rw [Function.update_of_ne own]
        refine recorded.entries tenantId cached ?_
        rcases caches with same | ⟨-, same | ⟨response, stored, -, -, same⟩⟩
        · rwa [same] at found
        · rwa [same] at found
        · rwa [same, Function.update_of_ne own] at found

theorem recorded_step
    (lossless : ∀ document stored, codec.orjson document = some stored →
      stored = document)
    (recorded : Recorded history view)
    (isStep : observe codec history event = some next) :
    ∃ later, Recorded next later := by
  obtain ⟨service, stepEq, rfl⟩ := Option.map_eq_some_iff.mp isStep
  unfold step at stepEq
  cases made : event.made with
  | some sent =>
      obtain ⟨redisConn, call⟩ := sent
      rw [made] at stepEq
      cases stepEq
      rw [Bool.true_and]
      have shows := (related_run codec call.db redisConn call.tenantId
        call.call).after recorded.shows
      cases redisConn with
      | false =>
          refine ⟨_, recorded.of_cache shows (fun tenantId cached found => ?_) ?_⟩
          · rwa [cache_after_spec] at found
          · unfold History.record
            rw [made]
      | true =>
          cases passes : call.call.passesRedis with
          | true => exact ⟨_, recorded_after_call lossless recorded made passes⟩
          | false =>
              refine ⟨_, recorded.of_cache shows (fun tenantId cached found => ?_) ?_⟩
              · rwa [spec_of_not_passes _ _ _ _ passes, cache_after_spec] at found
              · unfold History.record
                rw [made]
                simp [passes]
  | none =>
      rw [made] at stepEq
      have unrecorded : history.record event = history.madeFrom := by
        unfold History.record
        rw [made]
      cases expired : event.expired with
      | none =>
          rw [expired] at stepEq
          cases stepEq
          exact ⟨view, recorded.of_cache recorded.shows (fun _ _ found => found)
            unrecorded⟩
      | some other =>
          rw [expired] at stepEq
          cases stepEq
          let later : View := { view with
            cache := Function.update view.cache other none }
          have shows : Shows { history.service with
              cache := Function.update history.service.cache other none } later :=
            { recorded.shows with
              cache := congrArg (Function.update · other none) recorded.shows.cache }
          refine ⟨later, recorded.of_cache shows (fun tenantId cached found => ?_)
            unrecorded⟩
          by_cases same : tenantId = other
          · subst same
            cases found.symm.trans (Function.update_self tenantId none view.cache)
          · exact (Function.update_of_ne same none view.cache).symm.trans found

/-- A call in time finds Redis current. -/
theorem current_of_inTime (recorded : Recorded history view)
    (inTime : InTime codec history event) : Current codec history.service event := by
  intro call made passes
  obtain ⟨holds, agree⟩ := inTime call made passes
  refine ⟨?_, agree⟩
  unfold EntryHolds at holds
  unfold CacheCurrent
  dsimp only at holds ⊢
  cases found : history.service.cache call.tenantId with
  | none =>
      rw [found] at holds
      exact holds
  | some cached =>
      rw [found] at holds
      obtain ⟨defaults, row, isRecorded, isRead⟩ := recorded.entries call.tenantId
        cached ((congrFun recorded.shows.cache _).symm.trans found)
      cases isRecorded.symm.trans holds
      exact isRead

theorem along_current_of_inTime
    (lossless : ∀ document stored, codec.orjson document = some stored →
      stored = document)
    {events : List SettingsEvent} (recorded : Recorded history view)
    (inTime : Along (observe codec) (InTime codec) history events) :
    Along (step codec true) (Current codec) history.service events := by
  induction events generalizing history view with
  | nil => trivial
  | cons event rest ih =>
      refine ⟨current_of_inTime recorded inTime.1, fun service isStep => ?_⟩
      have observed : observe codec history event =
          some ⟨service, history.record event⟩ := by
        rw [observe, isStep]
        rfl
      obtain ⟨later, recordedLater⟩ := recorded_step lossless recorded observed
      exact ih recordedLater (inTime.2 _ observed)

end Entries

/-- Every `get_tenant_settings` of a run returns what it returns without Redis if
the calls through Redis are in time. -/
theorem transparent_of_inTime (codec : Codec)
    (lossless : ∀ document stored, codec.orjson document = some stored →
      stored = document)
    (rows : String → Option (Option Json)) (events : List SettingsEvent)
    (inTime : Along (observe codec) (InTime codec) { service := { settings := rows } }
      events) :
    Transparent codec { settings := rows } events :=
  (transparent_iff_along_current codec rows events).mpr
    (along_current_of_inTime lossless
      ⟨shows_start rows, fun _ _ found => by cases found⟩ inTime)

/-! ## A name that is not seen -/

def administrator : RequestUser where
  tenantId := "a"
  role := "admin"

/-- The settings are read, get a company name, and are read again. -/
def named : List SettingsEvent := [
  .request administrator (.forTenant "a") .getCurrentTenantSettings,
  .request administrator (.forTenant "a")
    (.updateBranding { companyName := some "Acme" }),
  .request administrator (.forTenant "a") .getCurrentTenantSettings]

/-- The company name in the third read of a run: the update reads, too. -/
def thirdName :
    List (Except PyError (TenantSettingsResponse Json)) → Option Json
  | [_, _, .ok response] => response.branding.at ["company_name"]
  | _ => none

/-- The name is given when the entry has expired. -/
def namedLater : List SettingsEvent := [
  .request administrator (.forTenant "a") .getCurrentTenantSettings,
  .request administrator (.forTenant "a") .getCurrentTenantSettings,
  .expire "a",
  .request administrator (.forTenant "a")
    (.updateBranding { companyName := some "Acme" }),
  .request administrator (.forTenant "a") .getCurrentTenantSettings]

/-- With Redis the name is read as without. -/
theorem namedLater_transparent :
    Transparent plainCodec { settings := twoTenants } namedLater := by
  refine transparent_of_inTime plainCodec (fun _ _ stored => (Option.some.inj stored).symm)
    twoTenants namedLater ?_
  have quiet {history : History} {event : SettingsEvent}
      (silent : ∀ call, event.made ≠ some (true, call)) :
      InTime plainCodec history event :=
    fun call made => absurd made (silent call)
  refine along_of_step rfl ?_ (along_of_step rfl ?_ (along_of_step rfl
    (quiet nofun) (along_of_step rfl (quiet ?_) (along_of_step rfl ?_
      (along_nil _)))))
  · rintro _ ⟨⟩ -
    exact ⟨fun _ _ => rfl, trivial⟩
  · rintro _ ⟨⟩ -
    exact ⟨rfl, trivial⟩
  · rintro _ ⟨⟩
  · rintro _ ⟨⟩ -
    exact ⟨fun _ _ => rfl, trivial⟩

/-- With Redis the new name is not read. -/
theorem named_not_transparent :
    ¬ Transparent plainCodec { settings := twoTenants } named := by
  intro transparent
  have same := transparent named [] _ _ rfl rfl rfl
  have names : some (Json.leaf .null) = some (Json.leaf (.string "Acme")) :=
    congrArg thirdName same
  cases names

end SettingsCache

end HexIam
