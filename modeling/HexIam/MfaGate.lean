import HexIam.SettingsCache
import HexIam.SettingsUpdates

/-!
# The MFA gate and the MFA setting

`provision_stateless_otp` asks the database for the key `mfa_enabled` of a
tenant's settings, and `get_tenant_settings` reports `mfa.enabled`.  An update
writes the six sections that were read with its own settings merged in, so that
`mfa_enabled` is stored only by an update which is given it.  The gate follows
the setting through a run exactly if every update that succeeds is given
`mfa_enabled` where MFA is on after it, and only there.
-/

namespace HexIam

open JsonDocument RelatedCode GuardedRun TenantSettings
open SettingsIsolation (TenantCall)
open SettingsCache (SettingsEvent throughRedis)
open SettingsUpdates (StoresLeaves)

namespace MfaGate

/-! ## The gate -/

/-- `COALESCE((settings->'mfa_enabled')::boolean, false)`. -/
def mfaEnabledColumn : Option Json → Except PyError Bool
  | some (.object entries) =>
      match entries.lookup "mfa_enabled" with
      | none => .ok false
      | some (.leaf (.bool value)) => .ok value
      | some _ => .error .refused
  | _ => .ok false

section Gate

variable (isActive : String → Bool) (db : Connection) (service : Service)
variable (tenantId : String)

/-- `tenant_get_mfa_enabled` through `fetchval`: `None` without a row. -/
def tenantGetMfaEnabled : Except PyError (Option Bool) :=
  match selectSettings service.settings db tenantId with
  | none => .ok none
  | some settings =>
      if isActive tenantId then (mfaEnabledColumn settings).map some
      else .ok none

/-- `__verify_mfa_enabled_for_tenant`. -/
def verifyMfaEnabledForTenant : Except PyError Bool :=
  (tenantGetMfaEnabled isActive db service tenantId).map fun found =>
    found.getD false

/-- `provision_stateless_otp` passes its check of the tenant. -/
def PassesMfaCheck : Prop :=
  verifyMfaEnabledForTenant isActive db service tenantId = .ok true

end Gate

/-! ## The setting -/

/-- The value is `true`. -/
def isOn : Option Json → Bool
  | some (.leaf (.bool value)) => value
  | _ => false

/-- What `get_tenant_settings` returns, with Redis or without. -/
def readThrough (codec : Codec) (db : Connection) (redisConn : Bool)
    (tenantId : String) (service : Service) :
    Except PyError (TenantSettingsResponse Json) :=
  match getTenantSettings codec db redisConn tenantId service with
  | .ok response _ => .ok (response.map Value.plain)
  | .error error _ => .error error

/-- `get_tenant_settings` reports that MFA is enabled. -/
def ReportsMfa (codec : Codec) (db : Connection) (redisConn : Bool)
    (tenantId : String) (service : Service) : Prop :=
  ∃ response, readThrough codec db redisConn tenantId service = .ok response ∧
    isOn (response.mfa.at ["enabled"]) = true

/-- Over every connection the gate follows what `get_tenant_settings` reports
without the cache. -/
def FollowsSetting (codec : Codec) (isActive : String → Bool) (tenantId : String)
    (service : Service) : Prop :=
  ∀ db, PassesMfaCheck isActive db service tenantId ↔
    ReportsMfa codec db false tenantId service

/-! ## Runs -/

/-- An event whose settings, as a dict, have each key once. -/
def MfaEvent : Type :=
  { event : SettingsEvent // ∀ redisConn call,
    event.made = some (redisConn, call) →
      (Json.object call.call.overrides).WellFormed }

/-- The service after an event. -/
def step (codec : Codec) (service : Service) (event : MfaEvent) : Option Service :=
  SettingsCache.step codec true service event.1

/-! ## The condition -/

/-- Whether the settings of a call turn `mfa.enabled` on, if they say so. -/
def givenMfa (overrides : List (String × Json)) : Option Bool :=
  match overrides.lookup "mfa" with
  | none => none
  | some (.leaf _) => some false
  | some (.object mfa) => (mfa.lookup "enabled").map fun value => isOn (some value)

/-- The call writes settings. -/
def updates : SettingsCall → Bool
  | .getTenantSettings => false
  | _ => true

/-- The settings that the call merges into are read through Redis. -/
def mergesCached : SettingsCall → Bool
  | .updateTenantSettings _ => true
  | _ => false

/-- The call returns. -/
def Succeeds (codec : Codec) (db : Connection) (redisConn : Bool)
    (tenantId : String) (call : SettingsCall) (service : Service) : Prop :=
  ∃ later, call.run codec db redisConn tenantId service = .ok () later

/-- MFA is on after the call: it is given so, or it was read so and the call does
not say. -/
def TurnsOn (codec : Codec) (db : Connection) (redisConn : Bool)
    (tenantId : String) (call : SettingsCall) (service : Service) : Prop :=
  match givenMfa call.overrides with
  | some given => given = true
  | none => ReportsMfa codec db (redisConn && mergesCached call) tenantId service

/-- An update of the tenant that succeeds, over a connection that sees its row, is
given `mfa_enabled` exactly if MFA is on after it. -/
def GivesBoth (codec : Codec) (tenantId : String) (service : Service)
    (event : MfaEvent) : Prop :=
  ∀ redisConn db call, event.1.made = some (redisConn, ⟨tenantId, db, call⟩) →
    db.sees tenantId = true → updates call = true →
      Succeeds codec db redisConn tenantId call service →
      (isOn (call.overrides.lookup "mfa_enabled") = true ↔
        TurnsOn codec db redisConn tenantId call service)

/-- `mfa_enabled` of a row. -/
def gateOn (row : Option (Option Json)) : Bool :=
  isOn (row.join.bind fun settings => settings.at ["mfa_enabled"])

/-- `mfa.enabled` of a row. -/
def settingOn (row : Option (Option Json)) : Bool :=
  isOn (row.join.bind fun settings => settings.at ["mfa", "enabled"])

/-! ## Merging -/

section Merging

variable {base overrides : List (String × Json)}

theorem isOn_mergeItem {first : Option Json} {value : Json} :
    isOn (some (mergeItem first value)) = isOn (some value) := by
  match first, value with
  | none, value => rw [mergeItem_none]
  | some (.leaf _), value => rw [mergeItem_some_leaf]
  | some (.object _), .leaf leaf => rw [mergeItem_leaf]
  | some (.object defaults), .object values => rfl

theorem at_enabled (mfa : List (String × Json)) :
    (Json.object mfa).at ["enabled"] = mfa.lookup "enabled" := by
  rw [at_object_cons]
  cases mfa.lookup "enabled" <;> rfl

theorem isOn_mfa_merge (wellFormed : (Json.object overrides).WellFormed) :
    isOn ((Json.object (merge base overrides)).at ["mfa", "enabled"]) =
      (givenMfa overrides).getD (isOn ((Json.object base).at ["mfa", "enabled"])) := by
  rw [at_object_cons, at_object_cons, lookup_merge wellFormed.nodup]
  unfold givenMfa
  cases given : overrides.lookup "mfa" with
  | none => rfl
  | some value =>
      cases value with
      | leaf value => rw [Option.bind_some, mergeItem_leaf]; rfl
      | object mfa =>
          have mfaWellFormed := wellFormed.lookup given
          rw [Option.bind_some]
          dsimp only
          match base.lookup "mfa" with
          | none =>
              rw [mergeItem_none, at_enabled]
              cases mfa.lookup "enabled" <;> rfl
          | some (.leaf value) =>
              rw [mergeItem_some_leaf, at_enabled]
              cases mfa.lookup "enabled" <;> rfl
          | some (.object held) =>
              have merged : mergeItem (some (.object held)) (.object mfa) =
                  .object (merge held mfa) := rfl
              rw [merged, at_enabled, Option.bind_some, at_enabled,
                lookup_merge mfaWellFormed.nodup]
              cases mfa.lookup "enabled" with
              | none => rfl
              | some value => exact isOn_mergeItem

/-- Settings that stand alone say what is on. -/
theorem isOn_mfa (entries : List (String × Json)) :
    isOn ((Json.object entries).at ["mfa", "enabled"]) =
      (givenMfa entries).getD false := by
  rw [at_object_cons, givenMfa]
  match entries.lookup "mfa" with
  | none => rfl
  | some (.leaf _) => rfl
  | some (.object mfa) =>
      rw [Option.bind_some, at_enabled]
      dsimp only
      cases mfa.lookup "enabled" <;> rfl

end Merging

/-! ## The two views of a row -/

section Rows

/-- The row's settings, if they are stored, have each key once. -/
def RowWellFormed (row : Option (Option Json)) : Prop :=
  ∀ settings, row = some (some settings) → settings.WellFormed

theorem RowWellFormed.seen {view : View} {tenantId : String}
    (wellFormed : RowWellFormed (view.settings tenantId)) (db : Connection) :
    RowWellFormed (view.seen db tenantId) := by
  unfold View.seen selectSettings
  split
  case isTrue => exact wellFormed
  case isFalse => exact nofun

theorem mfaEnabledColumn_eq_ok_true {settings : Option Json} :
    mfaEnabledColumn settings = .ok true ↔ gateOn (some settings) = true := by
  match settings with
  | none => exact iff_of_false nofun nofun
  | some (.leaf _) => exact iff_of_false nofun nofun
  | some (.object entries) =>
      change mfaEnabledColumn (some (.object entries)) = .ok true ↔
        isOn ((Json.object entries).at ["mfa_enabled"]) = true
      rw [at_object_cons, mfaEnabledColumn]
      match entries.lookup "mfa_enabled" with
      | none => exact iff_of_false nofun nofun
      | some (.object _) => exact iff_of_false nofun nofun
      | some (.leaf (.bool value)) => simp [isOn]
      | some (.leaf .null) => exact iff_of_false nofun nofun
      | some (.leaf (.int _)) => exact iff_of_false nofun nofun
      | some (.leaf (.decimal _ _)) => exact iff_of_false nofun nofun
      | some (.leaf (.string _)) => exact iff_of_false nofun nofun
      | some (.leaf (.array _)) => exact iff_of_false nofun nofun

theorem passesMfaCheck_iff {isActive : String → Bool} {db : Connection}
    {service : Service} {tenantId : String} (active : isActive tenantId = true) :
    PassesMfaCheck isActive db service tenantId ↔
      gateOn (selectSettings service.settings db tenantId) = true := by
  unfold PassesMfaCheck verifyMfaEnabledForTenant tenantGetMfaEnabled
  cases selectSettings service.settings db tenantId with
  | none => exact iff_of_false nofun nofun
  | some settings =>
      rw [← mfaEnabledColumn_eq_ok_true]
      simp only [active, if_true]
      cases mfaEnabledColumn settings with
      | error error => exact iff_of_false nofun nofun
      | ok value => simp [Except.map]

theorem isOn_sections (merged : List (String × Json)) :
    isOn ((sections merged).mfa.at ["enabled"]) =
      isOn ((Json.object merged).at ["mfa", "enabled"]) := by
  rw [at_object_cons, sections]
  cases merged.lookup "mfa" <;> rfl

theorem readSettings_on_iff {ttls : TokenTtl → Int} {row : Option (Option Json)}
    (wellFormed : RowWellFormed row) :
    (∃ response, readSettings (settingsWith ttls).plain row = .ok response ∧
        isOn (response.mfa.at ["enabled"]) = true) ↔ settingOn row = true := by
  match row with
  | none =>
      refine iff_of_false ?_ nofun
      rintro ⟨_, ⟨⟩, isTrue⟩
      cases isTrue
  | some none =>
      refine iff_of_false ?_ nofun
      rintro ⟨_, ⟨⟩, isTrue⟩
      cases isTrue
  | some (some (.leaf _)) =>
      refine iff_of_false ?_ nofun
      rintro ⟨_, ⟨⟩, _⟩
  | some (some (.object entries)) =>
      have documents := wellFormed (.object entries) rfl
      have merged := @isOn_mfa_merge (Json.entries (settingsWith ttls).plain) entries
        documents
      have off : isOn ((Json.object (Json.entries (settingsWith ttls).plain)).at
          ["mfa", "enabled"]) = false := rfl
      rw [off, ← isOn_mfa, ← isOn_sections] at merged
      constructor
      · rintro ⟨_, ⟨⟩, isTrue⟩
        exact merged.symm.trans isTrue
      · exact fun isTrue => ⟨_, rfl, merged.trans isTrue⟩

end Rows

/-! ## What an update writes -/

section Updates

variable {codec : Codec} {db : Connection} {tenantId : String} {redisConn : Bool}
variable {view : View}

/-- What a read gives on a view. -/
def viewRead (codec : Codec) (db : Connection) (redisConn : Bool) (tenantId : String)
    (view : View) : Except PyError (TenantSettingsResponse Json) :=
  if redisConn then throughRedis codec db tenantId view
  else readSettings view.defaults (view.seen db tenantId)

/-- A read leaves the rows and the TTLs. -/
theorem run_getSettings (codec : Codec) (db : Connection) (redisConn : Bool)
    (tenantId : String) (view : View) :
    ∃ cache shared, View.getSettings codec db redisConn tenantId view =
      match viewRead codec db redisConn tenantId view with
      | .ok response =>
          .ok (response, shared)
            { view with cache, reads := view.reads ++ [.ok response] }
      | .error error =>
          .error error { view with cache, reads := view.reads ++ [.error error] } := by
  cases redisConn with
  | false =>
      refine ⟨view.cache, sharesTokens (view.seen db tenantId), ?_⟩
      exact TenantSettings.run_getSettings codec db tenantId view
  | true =>
      obtain ⟨cache, -, ran⟩ :=
        SettingsCache.run_getSettings_redis codec db tenantId view
      exact ⟨cache, _, ran⟩

/-- The update has written this document into the row of the tenant. -/
def Wrote (codec : Codec) (db : Connection) (tenantId : String) (updated : Json)
    (view later : View) : Prop :=
  ∃ stored, (codec.orjson updated).bind codec.jsonb = some stored ∧
    later.settings = storeSettings view.settings db tenantId stored

theorem save_cases (updated : Json) :
    (∃ error later, View.save codec db tenantId updated view = .error error later ∧
        later.settings = view.settings) ∨
      ∃ later, View.save codec db tenantId updated view = .ok () later ∧
        Wrote codec db tenantId updated view later := by
  unfold View.save
  cases accepted : (codec.orjson updated).bind codec.jsonb with
  | none => exact .inl ⟨_, _, rfl, rfl⟩
  | some stored => exact .inr ⟨_, rfl, stored, accepted, rfl⟩

/-- An update fails and leaves the rows, or writes what it read with its own
settings merged in. -/
theorem updateSettings_cases (overrides : List (String × Json)) :
    (∃ error later, View.updateSettings codec db redisConn tenantId
          (.object overrides) view = .error error later ∧
        later.settings = view.settings) ∨
      ∃ updated later current, View.updateSettings codec db redisConn tenantId
          (.object overrides) view = .ok updated later ∧
        viewRead codec db redisConn tenantId view = .ok current ∧
        Wrote codec db tenantId (.object (merge current.entries overrides)) view
          later := by
  obtain ⟨cache, shared, ran⟩ := run_getSettings codec db redisConn tenantId view
  unfold View.updateSettings
  cases isRead : viewRead codec db redisConn tenantId view with
  | error error =>
      rw [isRead] at ran
      exact .inl ⟨error, _, run_bind_of_error ran, rfl⟩
  | ok current =>
      rw [isRead] at ran
      rw [run_bind_of_ok ran]
      let middle : View := { view with
        cache
        reads := view.reads ++ [.ok current] }
      have merged : View.lift (mergeDocuments (.object current.entries)
          (.object overrides)) middle =
          .ok (.object (merge current.entries overrides)) middle := rfl
      unfold View.finishUpdate
      dsimp only
      rw [run_bind_of_ok merged]
      rcases @save_cases codec db tenantId middle
          (.object (merge current.entries overrides)) with
        ⟨error, later, saved, same⟩ | ⟨later, saved, wrote⟩
      · exact .inl ⟨error, later, run_bind_of_error saved, same⟩
      · exact .inr ⟨_, later, current, run_bind_of_ok saved, rfl, wrote⟩

theorem setTtl_cases (key : TokenTtl) (ttl : Option Int) (tokens : Json × Bool) :
    (∃ error, View.setTtl key ttl tokens view = .error error view) ∨
      ∃ written later, View.setTtl key ttl tokens view = .ok written later ∧
        later.settings = view.settings := by
  match ttl, tokens with
  | none, tokens => exact .inr ⟨tokens, view, rfl, rfl⟩
  | some _, (.leaf _, _) => exact .inl ⟨.typeError, rfl⟩
  | some ttl, (.object entries, shared) => exact .inr ⟨_, _, rfl, rfl⟩

/-- So does an update of the tokens, which reads again without Redis. -/
theorem finishTokens_cases (accessTokenTtl refreshTokenTtl idTokenTtl : Option Int)
    (current : TenantSettingsResponse Json × Bool) :
    (∃ error later, View.finishTokens codec db tenantId accessTokenTtl refreshTokenTtl
          idTokenTtl current view = .error error later ∧
        later.settings = view.settings) ∨
      ∃ updated later read ttls tokens, View.finishTokens codec db tenantId
          accessTokenTtl refreshTokenTtl idTokenTtl current view =
            .ok updated later ∧
        readSettings (settingsWith ttls).plain (view.seen db tenantId) =
          .ok read ∧
        Wrote codec db tenantId (.object (merge read.entries [("tokens", tokens)]))
          view later := by
  unfold View.finishTokens
  generalize (if current.1.tokens.truthy = true then (current.1.tokens, current.2)
    else (Json.object [], false)) = tokens
  rcases @setTtl_cases view .accessToken accessTokenTtl tokens with
    ⟨error, failed⟩ | ⟨first, afterFirst, ran, sameFirst⟩
  · exact .inl ⟨error, view, run_bind_of_error failed, rfl⟩
  rw [run_bind_of_ok ran]
  rcases @setTtl_cases afterFirst .refreshToken refreshTokenTtl first with
    ⟨error, failed⟩ | ⟨second, afterSecond, ran, sameSecond⟩
  · exact .inl ⟨error, afterFirst, run_bind_of_error failed, sameFirst⟩
  rw [run_bind_of_ok ran]
  rcases @setTtl_cases afterSecond .idToken idTokenTtl second with
    ⟨error, failed⟩ | ⟨third, afterThird, ran, sameThird⟩
  · exact .inl ⟨error, afterSecond, run_bind_of_error failed,
      sameSecond.trans sameFirst⟩
  rw [run_bind_of_ok ran]
  have same : afterThird.settings = view.settings :=
    sameThird.trans (sameSecond.trans sameFirst)
  rcases @updateSettings_cases codec db tenantId false afterThird
      [("tokens", third.1)] with
    ⟨error, later, failed, kept⟩ | ⟨updated, later, read, ran, isRead, wrote⟩
  · exact .inl ⟨error, later, failed, kept.trans same⟩
  · refine .inr ⟨updated, later, read, afterThird.ttls, third.1, ran, ?_, ?_⟩
    · rwa [View.seen, ← same]
    · unfold Wrote at wrote ⊢
      rwa [same] at wrote

/-- A read of the view reports that MFA is enabled. -/
def ViewReports (codec : Codec) (db : Connection) (redisConn : Bool) (tenantId : String)
    (view : View) : Prop :=
  ∃ response, viewRead codec db redisConn tenantId view = .ok response ∧
    isOn (response.mfa.at ["enabled"]) = true

/-- The call returns and has written a document with `mfa_enabled` as it was given,
and with `mfa.enabled` as it was given or read. -/
def Updated (codec : Codec) (db : Connection) (redisConn : Bool) (tenantId : String)
    (call : SettingsCall) (view : View) : Prop :=
  ∃ updated later, call.spec codec db redisConn tenantId view = .ok () later ∧
    Wrote codec db tenantId updated view later ∧
    isOn (updated.at ["mfa_enabled"]) =
      isOn (call.overrides.lookup "mfa_enabled") ∧
    (isOn (updated.at ["mfa", "enabled"]) = true ↔
      match givenMfa call.overrides with
      | some given => given = true
      | none => ViewReports codec db (redisConn && mergesCached call) tenantId view)

/-- The call fails and has left the rows. -/
def Failed (codec : Codec) (db : Connection) (redisConn : Bool) (tenantId : String)
    (call : SettingsCall) (view : View) : Prop :=
  ∃ error later, call.spec codec db redisConn tenantId view = .error error later ∧
    later.settings = view.settings

theorem gate_merge (current : TenantSettingsResponse Json)
    {overrides : List (String × Json)}
    (wellFormed : (Json.object overrides).WellFormed) :
    isOn ((Json.object (merge current.entries overrides)).at ["mfa_enabled"]) =
      isOn (overrides.lookup "mfa_enabled") := by
  have absent : current.entries.lookup "mfa_enabled" = none := rfl
  rw [at_object_cons, lookup_merge wellFormed.nodup, absent]
  cases overrides.lookup "mfa_enabled" with
  | none => rfl
  | some value => rw [Option.bind_some, at_nil, isOn_mergeItem]

theorem updated_or_failed_of_overrides {call : SettingsCall}
    (specEq : call.spec codec db redisConn tenantId = do
      let _ ← View.updateSettings codec db (redisConn && mergesCached call) tenantId
        (.object call.overrides))
    (wellFormed : (Json.object call.overrides).WellFormed) :
    Failed codec db redisConn tenantId call view ∨
      Updated codec db redisConn tenantId call view := by
  unfold Failed Updated
  rw [specEq]
  rcases @updateSettings_cases codec db tenantId (redisConn && mergesCached call) view
      call.overrides with
    ⟨error, later, failed, same⟩ | ⟨updated, later, current, ran, isRead, wrote⟩
  · exact .inl ⟨error, later, run_bind_of_error failed, same⟩
  · refine .inr ⟨_, later, run_bind_of_ok ran, wrote,
      gate_merge current wellFormed, ?_⟩
    have reports : ViewReports codec db (redisConn && mergesCached call) tenantId view ↔
        isOn (current.mfa.at ["enabled"]) = true := by
      simp [ViewReports, isRead]
    have merged := @isOn_mfa_merge current.entries call.overrides wellFormed
    have here : isOn ((Json.object current.entries).at ["mfa", "enabled"]) =
        isOn (current.mfa.at ["enabled"]) := rfl
    rw [merged, here]
    cases givenMfa call.overrides with
    | none => exact reports.symm
    | some given => exact Iff.rfl

/-- An update of the tokens writes `mfa` as it is, and no `mfa_enabled`. -/
theorem updated_or_failed_tokens {accessTokenTtl refreshTokenTtl idTokenTtl : Option Int}
    (wellFormed : RowWellFormed (view.settings tenantId)) :
    Failed codec db redisConn tenantId
        (.updateTokenSettings accessTokenTtl refreshTokenTtl idTokenTtl) view ∨
      Updated codec db redisConn tenantId
        (.updateTokenSettings accessTokenTtl refreshTokenTtl idTokenTtl) view := by
  obtain ⟨cache, shared, ran⟩ := run_getSettings codec db redisConn tenantId view
  unfold Failed Updated
  simp only [SettingsCall.spec, View.updateTokens, bind_assoc]
  cases isRead : viewRead codec db redisConn tenantId view with
  | error error =>
      rw [isRead] at ran
      exact .inl ⟨error, _, run_bind_of_error ran, rfl⟩
  | ok current =>
      rw [isRead] at ran
      rw [run_bind_of_ok ran]
      rcases @finishTokens_cases codec db tenantId
          { view with cache, reads := view.reads ++ [.ok current] } accessTokenTtl
          refreshTokenTtl idTokenTtl (current, shared) with
        ⟨error, later, failed, same⟩ |
        ⟨updated, later, read, ttls, tokens, ran, isRead, wrote⟩
      · exact .inl ⟨error, later, run_bind_of_error failed, same⟩
      · refine .inr ⟨_, later, run_bind_of_ok ran, wrote, ?_, ?_⟩
        · rw [at_object_cons, lookup_merge_of_absent rfl]
          rfl
        · have onRow := @readSettings_on_iff ttls _ (wellFormed.seen db)
          have onView := @readSettings_on_iff view.ttls _ (wellFormed.seen db)
          rw [at_object_cons, lookup_merge_of_absent rfl]
          change isOn (read.mfa.at ["enabled"]) = true ↔
            ∃ response, viewRead codec db (redisConn && false) tenantId view =
              .ok response ∧ isOn (response.mfa.at ["enabled"]) = true
          rw [Bool.and_false]
          refine Iff.trans ?_ (onRow.trans onView.symm)
          constructor
          · exact fun isTrue => ⟨read, isRead, isTrue⟩
          · rintro ⟨_, isOther, isTrue⟩
            cases isOther.symm.trans isRead
            exact isTrue

/-- Every update fails and leaves the rows, or writes as it was given. -/
theorem updated_or_failed {call : SettingsCall} (writes : updates call = true)
    (given : (Json.object call.overrides).WellFormed)
    (wellFormed : RowWellFormed (view.settings tenantId)) :
    Failed codec db redisConn tenantId call view ∨
      Updated codec db redisConn tenantId call view := by
  cases call with
  | getTenantSettings => cases writes
  | updateTokenSettings => exact updated_or_failed_tokens wellFormed
  | updateTenantSettings settings => exact updated_or_failed_of_overrides rfl given
  | updateMfaSettings enabled requiredForAdmins methods =>
      exact updated_or_failed_of_overrides rfl given
  | updatePasswordPolicy policy => exact updated_or_failed_of_overrides rfl given
  | updateBranding branding => exact updated_or_failed_of_overrides rfl given

end Updates

/-! ## A service as its view shows it -/

section Shown

variable {codec : Codec} {isActive : String → Bool} {db : Connection}
variable {tenantId : String} {service : Service} {view : View}

theorem readThrough_eq (shows : Shows service view) (redisConn : Bool) :
    readThrough codec db redisConn tenantId service =
      viewRead codec db redisConn tenantId view := by
  have here := related_getTenantSettings codec db redisConn tenantId service view shows
  obtain ⟨cache, shared, ran⟩ := run_getSettings codec db redisConn tenantId view
  rw [ran] at here
  unfold readThrough
  cases isRead : viewRead codec db redisConn tenantId view with
  | ok response =>
      rw [isRead] at here
      match getTenantSettings codec db redisConn tenantId service, here with
      | .ok result _, ⟨isResponse, _⟩ => exact congrArg Except.ok isResponse.1
  | error error =>
      rw [isRead] at here
      match getTenantSettings codec db redisConn tenantId service, here with
      | .error _ _, ⟨same, _⟩ => exact congrArg Except.error same

theorem reportsMfa_iff (shows : Shows service view) (redisConn : Bool) :
    ReportsMfa codec db redisConn tenantId service ↔
      ViewReports codec db redisConn tenantId view := by
  unfold ReportsMfa ViewReports
  rw [readThrough_eq shows]

/-- A connection that does not see the row finds MFA off in both ways. -/
theorem followsSetting_iff (active : isActive tenantId = true)
    (shows : Shows service view) (wellFormed : RowWellFormed (view.settings tenantId)) :
    FollowsSetting codec isActive tenantId service ↔
      gateOn (view.settings tenantId) = settingOn (view.settings tenantId) := by
  have through (db : Connection) :
      (PassesMfaCheck isActive db service tenantId ↔
          ReportsMfa codec db false tenantId service) ↔
        gateOn (view.seen db tenantId) = settingOn (view.seen db tenantId) := by
    have onView : ViewReports codec db false tenantId view ↔
        settingOn (view.seen db tenantId) = true :=
      readSettings_on_iff (wellFormed.seen db)
    rw [passesMfaCheck_iff active, reportsMfa_iff shows, onView, shows.seen]
    exact Bool.eq_iff_iff.symm
  constructor
  · exact fun follows => (through .owner).mp (follows .owner)
  · intro follows db
    rw [through, View.seen]
    cases sees : db.sees tenantId with
    | true => rwa [selectSettings_of_sees sees]
    | false =>
        rw [selectSettings_of_hidden sees]
        rfl

theorem succeeds_iff (shows : Shows service view) {redisConn : Bool}
    {call : SettingsCall} :
    Succeeds codec db redisConn tenantId call service ↔
      ∃ later, call.spec codec db redisConn tenantId view = .ok () later := by
  have here := related_run codec db redisConn tenantId call service view shows
  unfold Succeeds
  match call.run codec db redisConn tenantId service,
      call.spec codec db redisConn tenantId view, here with
  | .ok () _, .ok () _, _ => exact iff_of_true ⟨_, rfl⟩ ⟨_, rfl⟩
  | .error _ _, .error _ _, _ => exact iff_of_false nofun nofun

theorem turnsOn_iff (shows : Shows service view) {redisConn : Bool}
    {call : SettingsCall} :
    TurnsOn codec db redisConn tenantId call service ↔
      match givenMfa call.overrides with
      | some given => given = true
      | none =>
          ViewReports codec db (redisConn && mergesCached call) tenantId view := by
  unfold TurnsOn
  rw [reportsMfa_iff shows]

end Shown

/-! ## Steps -/

section Steps

variable {codec : Codec} {column : Leaf → Leaf} {isActive : String → Bool}
variable {db : Connection} {tenantId : String} {service next : Service}
variable {view : View} {event : MfaEvent}

/-- The service shows a view in which the tenant has a row, and each row has its
keys once. -/
structure Tracked (tenantId : String) (service : Service) (view : View) : Prop where
  shows : Shows service view
  wellFormed : ∀ other, RowWellFormed (view.settings other)
  hasRow : (view.settings tenantId).isSome = true

theorem Tracked.same {later : View} (tracked : Tracked tenantId service view)
    (shows : Shows next later) (same : later.settings = view.settings) :
    Tracked tenantId next later where
  shows := shows
  wellFormed other := by
    rw [same]
    exact tracked.wellFormed other
  hasRow := by
    rw [same]
    exact tracked.hasRow

/-- A document that the database has kept each key of once is written. -/
theorem Tracked.wrote {later : View} {other : String} {updated : Json}
    (unique : ∀ document stored, codec.jsonb document = some stored →
      stored.WellFormed)
    (tracked : Tracked tenantId service view) (shows : Shows next later)
    (wrote : Wrote codec db other updated view later) :
    Tracked tenantId next later := by
  cases sees : db.sees other with
  | false =>
      obtain ⟨_, -, rows⟩ := wrote
      exact tracked.same shows (rows.trans (storeSettings_of_hidden sees))
  | true =>
      obtain ⟨stored, accepted, rows⟩ := wrote
      rw [storeSettings_of_sees sees] at rows
      refine ⟨shows, fun third settings found => ?_, ?_⟩
      · rw [rows, Function.update_apply] at found
        split at found
        case isTrue =>
          obtain ⟨document, -, isStored⟩ := Option.bind_eq_some_iff.mp accepted
          obtain ⟨_, -, same⟩ := Option.map_eq_some_iff.mp found
          cases same
          exact unique document stored isStored
        case isFalse => exact tracked.wellFormed third settings found
      · rw [rows, Function.update_apply]
        split
        case isTrue same => rw [Option.isSome_map, ← same, tracked.hasRow]
        case isFalse => exact tracked.hasRow

theorem isOn_eq_true {value : Option Json} :
    isOn value = true ↔ value = some (.leaf (.bool true)) := by
  match value with
  | none => exact iff_of_false nofun nofun
  | some (.object _) => exact iff_of_false nofun nofun
  | some (.leaf (.bool value)) => simp [isOn]
  | some (.leaf .null) => exact iff_of_false nofun nofun
  | some (.leaf (.int _)) => exact iff_of_false nofun nofun
  | some (.leaf (.decimal _ _)) => exact iff_of_false nofun nofun
  | some (.leaf (.string _)) => exact iff_of_false nofun nofun
  | some (.leaf (.array _)) => exact iff_of_false nofun nofun

theorem isOn_stored (leaves : StoresLeaves codec column)
    (bools : ∀ leaf, column leaf = .bool true ↔ leaf = .bool true)
    {updated stored : Json}
    (accepted : (codec.orjson updated).bind codec.jsonb = some stored)
    (path : List String) : isOn (stored.at path) = isOn (updated.at path) := by
  rw [Bool.eq_iff_iff, isOn_eq_true, isOn_eq_true, leaves updated stored accepted]
  constructor
  · rintro ⟨written, isLeaf, isTrue⟩
    rw [isLeaf, (bools written).mp isTrue]
  · exact fun isTrue => ⟨_, isTrue, (bools _).mpr rfl⟩

/-- After an update the gate follows the setting exactly if it was given both. -/
theorem follows_after_update (leaves : StoresLeaves codec column)
    (bools : ∀ leaf, column leaf = .bool true ↔ leaf = .bool true)
    {updated : Json} {later : View} (sees : db.sees tenantId = true)
    (tracked : Tracked tenantId service view)
    (wrote : Wrote codec db tenantId updated view later) :
    gateOn (later.settings tenantId) = settingOn (later.settings tenantId) ↔
      isOn (updated.at ["mfa_enabled"]) = isOn (updated.at ["mfa", "enabled"]) := by
  obtain ⟨stored, accepted, rows⟩ := wrote
  obtain ⟨row, isRow⟩ := Option.isSome_iff_exists.mp tracked.hasRow
  have rowEq : later.settings tenantId = some (some stored) := by
    rw [rows, storeSettings_of_sees sees, Function.update_self, isRow]
    rfl
  rw [rowEq]
  change isOn (stored.at ["mfa_enabled"]) = isOn (stored.at ["mfa", "enabled"]) ↔ _
  rw [isOn_stored leaves bools accepted, isOn_stored leaves bools accepted]

/-- A read leaves the rows. -/
theorem settings_after_read (redisConn : Bool) :
    (after (SettingsCall.getTenantSettings.spec codec db redisConn tenantId)
      view).settings = view.settings := by
  obtain ⟨cache, shared, ran⟩ := run_getSettings codec db redisConn tenantId view
  change (after (View.getSettings codec db redisConn tenantId >>= fun _ =>
    (pure () : Spec Unit)) view).settings = _
  rw [after_bind_pure, after, ran]
  cases viewRead codec db redisConn tenantId view <;> rfl

theorem tracked_after_call
    (unique : ∀ document stored, codec.jsonb document = some stored →
      stored.WellFormed)
    {call : TenantCall} {redisConn : Bool}
    (given : (Json.object call.call.overrides).WellFormed)
    (tracked : Tracked tenantId service view) :
    Tracked tenantId
      (after (call.call.run codec call.db redisConn call.tenantId) service)
      (after (call.call.spec codec call.db redisConn call.tenantId) view) := by
  have shows := (related_run codec call.db redisConn call.tenantId call.call).after
    tracked.shows
  cases writes : updates call.call with
  | false =>
      obtain ⟨other, db, made⟩ := call
      cases made with
      | getTenantSettings => exact tracked.same shows (settings_after_read redisConn)
      | _ => cases writes
  | true =>
      rcases updated_or_failed writes given (tracked.wellFormed call.tenantId) with
        ⟨error, later, failed, same⟩ | ⟨updated, later, ran, wrote, -, -⟩
      · rw [after_of_error failed] at shows ⊢
        exact tracked.same shows same
      · rw [after_of_ok ran] at shows ⊢
        exact tracked.wrote unique shows wrote

/-- A call of the tenant that sees its row keeps the gate on the setting exactly if
an update that succeeds is given both. -/
theorem follows_own (leaves : StoresLeaves codec column)
    (bools : ∀ leaf, column leaf = .bool true ↔ leaf = .bool true)
    {call : SettingsCall} {redisConn : Bool} (sees : db.sees tenantId = true)
    (given : (Json.object call.overrides).WellFormed)
    (tracked : Tracked tenantId service view)
    (follows : gateOn (view.settings tenantId) = settingOn (view.settings tenantId)) :
    gateOn ((after (call.spec codec db redisConn tenantId) view).settings tenantId) =
        settingOn ((after (call.spec codec db redisConn tenantId) view).settings
          tenantId) ↔
      (updates call = true → Succeeds codec db redisConn tenantId call service →
        (isOn (call.overrides.lookup "mfa_enabled") = true ↔
          TurnsOn codec db redisConn tenantId call service)) := by
  cases writes : updates call with
  | false =>
      cases call with
      | getTenantSettings =>
          rw [settings_after_read]
          exact iff_of_true follows nofun
      | _ => cases writes
  | true =>
      rw [succeeds_iff tracked.shows, turnsOn_iff tracked.shows]
      rcases updated_or_failed writes given (tracked.wellFormed tenantId) with
        ⟨error, later, failed, same⟩ |
        ⟨updated, later, ran, wrote, gate, setting⟩
      · rw [after_of_error failed, same]
        refine iff_of_true follows fun _ ⟨_, ran⟩ => ?_
        cases failed.symm.trans ran
      · rw [after_of_ok ran, follows_after_update leaves bools sees tracked wrote,
          gate, ← setting, Bool.eq_iff_iff]
        exact ⟨fun same _ _ => same, fun same => same rfl ⟨_, ran⟩⟩

/-- A call for another tenant, or over a connection that does not see its own,
leaves the row. -/
theorem row_after_other {call : TenantCall} {redisConn : Bool}
    (different : tenantId = call.tenantId → call.db.sees tenantId = false)
    (given : (Json.object call.call.overrides).WellFormed)
    (tracked : Tracked tenantId service view) :
    (after (call.call.spec codec call.db redisConn call.tenantId) view).settings
      tenantId = view.settings tenantId := by
  cases writes : updates call.call with
  | false =>
      obtain ⟨other, db, made⟩ := call
      cases made with
      | getTenantSettings => rw [settings_after_read]
      | _ => cases writes
  | true =>
      rcases updated_or_failed writes given (tracked.wellFormed call.tenantId) with
        ⟨error, later, failed, same⟩ | ⟨updated, later, ran, ⟨_, -, rows⟩, -, -⟩
      · rw [after_of_error failed, same]
      · rw [after_of_ok ran, rows]
        by_cases own : tenantId = call.tenantId
        · rw [storeSettings_of_hidden (own ▸ different own)]
        · exact storeSettings_of_ne own

/-- After an event the service is tracked, and the gate follows the setting exactly
if the event gives both. -/
theorem tracked_step (leaves : StoresLeaves codec column)
    (bools : ∀ leaf, column leaf = .bool true ↔ leaf = .bool true)
    (unique : ∀ document stored, codec.jsonb document = some stored →
      stored.WellFormed)
    (tracked : Tracked tenantId service view)
    (isStep : step codec service event = some next) :
    ∃ later, Tracked tenantId next later ∧
      (gateOn (view.settings tenantId) = settingOn (view.settings tenantId) →
        (gateOn (later.settings tenantId) = settingOn (later.settings tenantId) ↔
          GivesBoth codec tenantId service event)) := by
  obtain ⟨event, given⟩ := event
  unfold step SettingsCache.step at isStep
  dsimp only at isStep
  unfold GivesBoth
  dsimp only
  cases made : event.made with
  | some sent =>
      obtain ⟨redisConn, other, db, call⟩ := sent
      rw [made] at isStep
      cases isStep
      rw [Bool.true_and]
      have isGiven := given redisConn ⟨other, db, call⟩ made
      refine ⟨_, tracked_after_call unique isGiven tracked, fun follows => ?_⟩
      by_cases own : tenantId = other ∧ db.sees tenantId = true
      · obtain ⟨rfl, sees⟩ := own
        rw [follows_own leaves bools sees isGiven tracked follows]
        refine ⟨fun both _ _ _ same _ => ?_,
          fun both => both redisConn db call rfl sees⟩
        cases same
        exact both
      · rw [row_after_other (fun same => ?_) isGiven tracked]
        · refine iff_of_true follows fun _ _ _ same sees => ?_
          cases same
          exact absurd ⟨rfl, sees⟩ own
        · exact Bool.eq_false_iff.mpr fun sees => own ⟨same, sees⟩
  | none =>
      rw [made] at isStep
      cases expired : event.expired with
      | none =>
          rw [expired] at isStep
          cases isStep
          exact ⟨view, tracked, fun follows => iff_of_true follows nofun⟩
      | some other =>
          rw [expired] at isStep
          cases isStep
          let later : View := { view with
            cache := Function.update view.cache other none }
          have shows : Shows { service with
              cache := Function.update service.cache other none } later := {
            tracked.shows with
            cache := congrArg (Function.update · other none) tracked.shows.cache }
          exact ⟨later, tracked.same shows rfl,
            fun follows => iff_of_true follows nofun⟩

end Steps

/-! ## The result -/

/-- Along every run the gate follows the setting exactly if the stored settings
have both or neither at the start, and so has every update that succeeds. -/
theorem follows_iff_givesBoth (codec : Codec) (column : Leaf → Leaf)
    (leaves : StoresLeaves codec column)
    (bools : ∀ leaf, column leaf = .bool true ↔ leaf = .bool true)
    (unique : ∀ document stored, codec.jsonb document = some stored →
      stored.WellFormed)
    (isActive : String → Bool) (tenantId : String)
    (active : isActive tenantId = true) (rows : String → Option (Option Json))
    (cached : String → Option Json) (hasRow : (rows tenantId).isSome = true)
    (wellFormed : ∀ other, RowWellFormed (rows other)) (events : List MfaEvent) :
    Always (step codec) (FollowsSetting codec isActive tenantId)
        { settings := rows, cache := cached } events ↔
      gateOn (rows tenantId) = settingOn (rows tenantId) ∧
        Along (step codec) (GivesBoth codec tenantId)
          { settings := rows, cache := cached } events := by
  have start : Tracked tenantId { settings := rows, cache := cached }
      { settings := rows, cache := cached } :=
    ⟨⟨rfl, Nat.le_refl 7, rfl, rfl, rfl⟩, wellFormed, hasRow⟩
  have follows_iff {service : Service} {view : View}
      (tracked : Tracked tenantId service view) :
      FollowsSetting codec isActive tenantId service ↔
        gateOn (view.settings tenantId) = settingOn (view.settings tenantId) :=
    followsSetting_iff active tracked.shows (tracked.wellFormed tenantId)
  have preserves (service : Service) (event : MfaEvent) (next : Service)
      (tracked : ∃ view, Tracked tenantId service view)
      (isStep : step codec service event = some next) :
      ∃ view, Tracked tenantId next view := by
    obtain ⟨view, tracked⟩ := tracked
    obtain ⟨later, trackedNext, -⟩ := tracked_step leaves bools unique tracked isStep
    exact ⟨later, trackedNext⟩
  have keeps (service : Service) (event : MfaEvent) (next : Service)
      (tracked : ∃ view, Tracked tenantId service view)
      (follows : FollowsSetting codec isActive tenantId service)
      (isStep : step codec service event = some next) :
      FollowsSetting codec isActive tenantId next ↔
        GivesBoth codec tenantId service event := by
    obtain ⟨view, tracked⟩ := tracked
    obtain ⟨later, trackedNext, both⟩ :=
      tracked_step leaves bools unique tracked isStep
    rw [follows_iff trackedNext]
    exact both ((follows_iff tracked).mp follows)
  by_cases atStart : gateOn (rows tenantId) = settingOn (rows tenantId)
  · have good := (follows_iff start).mpr atStart
    have total (service : Service) (event : MfaEvent) :
        step codec service event =
          some ((step codec service event).getD service) := by
      obtain ⟨next, isStep⟩ := SettingsCache.exec_total codec true service event.1
      change step codec service event = some next at isStep
      rw [isStep, Option.getD_some]
    obtain ⟨final, runs⟩ := exec_of_total total
      { settings := rows, cache := cached } events
    rw [and_iff_right atStart]
    exact always_iff_along_of_invariant preserves keeps ⟨_, start⟩ good runs
  · refine iff_of_false (fun always => ?_) fun both => atStart both.1
    exact atStart ((follows_iff start).mp (always_here always))

/-! ## Turning MFA on -/

mutual

/-- A test for documents with each key once. -/
def keysOnce : Json → Bool
  | .leaf _ => true
  | .object entries => (entries.map Prod.fst).Nodup && entriesOnce entries

def entriesOnce : List (String × Json) → Bool
  | [] => true
  | (_, value) :: rest => keysOnce value && entriesOnce rest

end

mutual

theorem wellFormed_of_keysOnce :
    ∀ document : Json, keysOnce document = true → document.WellFormed
  | .leaf value, _ => .leaf value
  | .object entries, once => by
      rw [keysOnce, Bool.and_eq_true, decide_eq_true_eq] at once
      exact .object entries once.1 (wellFormed_of_entriesOnce entries once.2)

theorem wellFormed_of_entriesOnce :
    ∀ entries : List (String × Json), entriesOnce entries = true →
      ∀ entry ∈ entries, entry.2.WellFormed
  | [], _ => nofun
  | (_, value) :: rest, once => by
      rw [entriesOnce, Bool.and_eq_true] at once
      exact List.forall_mem_cons.mpr ⟨wellFormed_of_keysOnce value once.1,
        wellFormed_of_entriesOnce rest once.2⟩

end

/-- Documents with each key once go through as they are. -/
def strictCodec : Codec where
  orjson := some
  jsonb document := if keysOnce document then some document else none

theorem strictCodec_stores {document stored : Json}
    (accepted : (strictCodec.orjson document).bind strictCodec.jsonb =
      some stored) : stored = document := by
  change (if keysOnce document then some document else none) = some stored at accepted
  split at accepted
  · exact (Option.some.inj accepted).symm
  · cases accepted

/-- An update of the tenant's settings, as a dict. -/
def update (settings : List (String × Json))
    (once : keysOnce (.object settings) = true) : MfaEvent :=
  ⟨.call false ⟨"t", .forTenant "t", .updateTenantSettings settings⟩, by
    rintro _ _ ⟨⟩
    exact wellFormed_of_keysOnce _ once⟩

/-- `update_mfa_settings` with `enabled`. -/
def enableMfa : MfaEvent :=
  ⟨.call false ⟨"t", .forTenant "t", .updateMfaSettings true false none⟩, by
    rintro _ _ ⟨⟩
    exact wellFormed_of_keysOnce _ rfl⟩

/-- A tenant without settings. -/
def unset : Service where
  settings := fun _ => some none

/-- The gate follows an update that is given both keys. -/
theorem both_keys_follow :
    Always (step strictCodec) (FollowsSetting strictCodec (fun _ => true) "t") unset
      [update [("mfa", .object [("enabled", .leaf (.bool true))]),
        ("mfa_enabled", .leaf (.bool true))] rfl] := by
  refine (follows_iff_givesBoth strictCodec id ?_ (fun _ => Iff.rfl) ?_
    (fun _ => true) "t" rfl (fun _ => some none) (fun _ => none) rfl ?_ _).mpr
    ⟨rfl, ?_, fun _ _ => trivial⟩
  · rintro document stored accepted path leaf
    rw [strictCodec_stores accepted]
    simp
  · intro document stored accepted
    change (if keysOnce document then some document else none) = some stored
      at accepted
    split at accepted
    case isTrue once =>
      cases accepted
      exact wellFormed_of_keysOnce _ once
    case isFalse => cases accepted
  · rintro _ _ ⟨⟩
  · rintro _ _ _ ⟨⟩ _ _ _
    exact iff_of_true rfl rfl

/-- When MFA is enabled the gate stays shut. -/
theorem enabled_mfa_not_followed :
    ¬ Always (step strictCodec) (FollowsSetting strictCodec (fun _ => true) "t")
      unset [enableMfa] := by
  rintro ⟨-, later⟩
  have follows := later _ rfl
  have passes := (follows (.forTenant "t")).mpr ⟨_, rfl, rfl⟩
  cases passes

end MfaGate

end HexIam
