import HexIam.GuardedRun
import HexIam.SettingsRefinement

/-!
# Isolation of tenant settings

In one process without Redis, `DEFAULT_SETTINGS` stays as it is and no tenant
sees another's updates exactly when `update_token_settings` changes a TTL only
for tenants that have stored tokens.  For the others `current.tokens` is the
dict in `DEFAULT_SETTINGS`, and the new TTLs become everyone's.
-/

namespace HexIam

open JsonDocument RelatedCode GuardedRun TenantSettings

namespace SettingsIsolation

/-! ## Runs -/

/-- A call for a tenant, over a connection. -/
structure TenantCall where
  tenantId : String
  db : Connection
  call : SettingsCall

def step (codec : Codec) (service : Service) (event : TenantCall) :
    Option Service :=
  some (after (event.call.run codec event.db false event.tenantId) service)

/-- What `get_tenant_settings` returns over a connection. -/
def settingsOf (codec : Codec) (db : Connection) (tenantId : String)
    (service : Service) : Except PyError (TenantSettingsResponse Json) :=
  match getTenantSettings codec db false tenantId service with
  | .ok response _ => .ok (response.map Value.plain)
  | .error error _ => .error error

def Unchanged (service : Service) : Prop :=
  service.defaults.plain = defaultSettings.plain

/-- Over any connection every tenant sees what it would see if nobody else had
called. -/
def Separate (codec : Codec) (start : Service) (events : List TenantCall) : Prop :=
  ∀ db tenantId first rest service alone, events = first ++ rest →
    exec (step codec) start first = some service →
    exec (step codec) start
      (first.filter fun event => event.tenantId = tenantId) = some alone →
    settingsOf codec db tenantId service = settingsOf codec db tenantId alone

/-! ## The condition -/

/-- The TTLs given to `update_token_settings`. -/
def givenTtls (accessTokenTtl refreshTokenTtl idTokenTtl : Option Int) :
    TokenTtl → Option Int
  | .accessToken => accessTokenTtl
  | .refreshToken => refreshTokenTtl
  | .idToken => idTokenTtl

/-- A tenant of which the connection shows no stored tokens is given the default
TTLs only. -/
def LeavesDefaults (service : Service) (event : TenantCall) : Prop :=
  match event.call with
  | .updateTokenSettings accessTokenTtl refreshTokenTtl idTokenTtl =>
      sharesTokens (selectSettings service.settings event.db event.tenantId) = true →
        ∀ key, ∀ ttl ∈ givenTtls accessTokenTtl refreshTokenTtl idTokenTtl key,
          ttl = defaultTtls key
  | _ => True

/-! ## What becomes of the defaults -/

def defaultTokens (ttls : TokenTtl → Int) : List (String × Json) := [
  ("access_token_ttl", .leaf (.int (ttls .accessToken))),
  ("refresh_token_ttl", .leaf (.int (ttls .refreshToken))),
  ("id_token_ttl", .leaf (.int (ttls .idToken)))]

theorem defaultTokens_injective : Function.Injective defaultTokens := by
  intro ttls other same
  simp only [defaultTokens, List.cons.injEq, Prod.mk.injEq, Json.leaf.injEq,
    Leaf.int.injEq, true_and, and_true] at same
  funext key
  cases key with
  | accessToken => exact same.1
  | refreshToken => exact same.2.1
  | idToken => exact same.2.2

theorem plain_settingsWith {ttls other : TokenTtl → Int} :
    (settingsWith ttls).plain = (settingsWith other).plain ↔ ttls = other := by
  constructor
  · intro same
    have tokens := congrArg (fun document =>
      (Json.entries document).lookup "tokens") same
    change some (Json.object (defaultTokens ttls)) =
      some (Json.object (defaultTokens other)) at tokens
    rw [Option.some.injEq, Json.object.injEq] at tokens
    exact defaultTokens_injective tokens
  · rintro rfl
    rfl

theorem unchanged_iff {service : Service} {view : View}
    (shows : Shows service view) : Unchanged service ↔ view.ttls = defaultTtls := by
  unfold Unchanged
  rw [shows.defaults]
  exact plain_settingsWith

/-- The TTLs after those given are set. -/
def setTtls (ttls : TokenTtl → Int) (given : TokenTtl → Option Int) :
    TokenTtl → Int :=
  fun key => (given key).getD (ttls key)

theorem setTtls_eq_iff {ttls : TokenTtl → Int} {given : TokenTtl → Option Int} :
    setTtls ttls given = ttls ↔ ∀ key, ∀ ttl ∈ given key, ttl = ttls key := by
  rw [funext_iff]
  refine forall_congr' fun key => ?_
  unfold setTtls
  cases given key <;> simp

/-- Views that are equal and have these TTLs. -/
theorem tied_ttls (tenantId : String) (ttls : TokenTtl → Int) :
    Tied tenantId fun view other => view = other ∧ view.ttls = ttls where
  ttls _ _ same := same.1 ▸ rfl
  row _ _ same := same.1 ▸ rfl
  record _ _ same _ := same.1 ▸ ⟨rfl, same.2⟩
  save _ _ same _ := same.1 ▸ ⟨rfl, same.2⟩

theorem ttls_after_updateSettings (codec : Codec) (db : Connection) (tenantId : String)
    (settings : Json) (view : View) :
    (after (View.updateSettings codec db false tenantId settings) view).ttls =
      view.ttls :=
  ((tied_ttls tenantId view.ttls).updateSettings codec db settings).keeps rfl

/-- A tenant without stored tokens reads those of the defaults. -/
theorem tokens_of_sharesTokens {ttls : TokenTtl → Int} {row : Option (Option Json)}
    (shares : sharesTokens row = true) :
    ∃ response, readSettings (settingsWith ttls).plain row = .ok response ∧
      response.tokens = .object (defaultTokens ttls) := by
  match row with
  | none => exact ⟨_, rfl, rfl⟩
  | some none => exact ⟨_, rfl, rfl⟩
  | some (some (.object overrides)) =>
      refine ⟨_, rfl, ?_⟩
      change ((merge (plainEntries (settingsWith ttls).entries) overrides).lookup
        "tokens").getD (.object []) = _
      rw [lookup_merge_of_absent (Option.isNone_iff_eq_none.mp shares)]
      rfl
  | some (some (.leaf _)) => exact absurd shares Bool.false_ne_true

/-- The tokens after a TTL is set, if it is given. -/
def writtenTtl (key : TokenTtl) (ttl : Option Int)
    (entries : List (String × Json)) : List (String × Json) :=
  ttl.elim entries fun ttl => setItem key.key (.leaf (.int ttl)) entries

theorem run_setTtl (key : TokenTtl) (ttl : Option Int)
    (entries : List (String × Json)) (shared : Bool) (view : View) :
    View.setTtl key ttl (.object entries, shared) view =
      .ok (.object (writtenTtl key ttl entries), shared)
        { view with
          ttls := if shared then ttl.elim view.ttls (Function.update view.ttls key)
            else view.ttls } := by
  cases ttl with
  | none => cases shared <;> rfl
  | some ttl => rfl

theorem setTtls_eq_update (ttls : TokenTtl → Int)
    (accessTokenTtl refreshTokenTtl idTokenTtl : Option Int) :
    setTtls ttls (givenTtls accessTokenTtl refreshTokenTtl idTokenTtl) =
      let written := accessTokenTtl.elim ttls (Function.update ttls .accessToken)
      let written := refreshTokenTtl.elim written
        (Function.update written .refreshToken)
      idTokenTtl.elim written (Function.update written .idToken) := by
  funext key
  cases key <;> cases accessTokenTtl <;> cases refreshTokenTtl <;>
    cases idTokenTtl <;> rfl

/-- On an object the TTLs are set, in the defaults too when their tokens are
shared, and an update follows. -/
theorem after_finishTokens (codec : Codec) (db : Connection) (tenantId : String)
    (accessTokenTtl refreshTokenTtl idTokenTtl : Option Int)
    {response : TenantSettingsResponse Json} {entries : List (String × Json)}
    (isTokens : response.tokens = .object entries) (nonempty : entries ≠ []) :
    ∃ settings, ∀ shared view,
      after (View.finishTokens codec db tenantId accessTokenTtl refreshTokenTtl
          idTokenTtl (response, shared)) view =
        after (View.updateSettings codec db false tenantId settings)
          { view with
            ttls := if shared then
                setTtls view.ttls
                  (givenTtls accessTokenTtl refreshTokenTtl idTokenTtl)
              else view.ttls } := by
  have truthy : response.tokens.truthy = true := by
    rw [isTokens]
    cases entries with
    | nil => exact absurd rfl nonempty
    | cons _ _ => rfl
  refine ⟨.object [("tokens", .object (writtenTtl .idToken idTokenTtl
    (writtenTtl .refreshToken refreshTokenTtl
      (writtenTtl .accessToken accessTokenTtl entries))))], fun shared view => ?_⟩
  unfold View.finishTokens
  rw [truthy, if_pos rfl, isTokens]
  refine (after_bind_of_ok (run_setTtl ..)).trans ?_
  refine (after_bind_of_ok (run_setTtl ..)).trans ?_
  refine (after_bind_of_ok (run_setTtl ..)).trans ?_
  rw [setTtls_eq_update]
  cases shared <;> rfl

/-- Tokens that are not those of the defaults leave the TTLs there. -/
theorem related_setTtl_own (key : TokenTtl) (ttl : Option Int) (tokens : Json)
    (ttls : TokenTtl → Int) :
    Related (fun view other => view = other ∧ view.ttls = ttls)
      (fun result other => result = other ∧ result.2 = false)
      (View.setTtl key ttl (tokens, false)) (View.setTtl key ttl (tokens, false)) := by
  match ttl, tokens with
  | none, _ => exact related_pure ⟨rfl, rfl⟩
  | some _, .leaf _ => exact related_throw _
  | some ttl, .object entries =>
      exact related_bind (related_modify fun _ _ same => same) fun _ _ _ =>
        related_pure ⟨rfl, rfl⟩

theorem ttls_after_finishTokens_own (codec : Codec) (db : Connection) (tenantId : String)
    (accessTokenTtl refreshTokenTtl idTokenTtl : Option Int)
    (response : TenantSettingsResponse Json) (view : View) :
    (after (View.finishTokens codec db tenantId accessTokenTtl refreshTokenTtl
        idTokenTtl (response, false)) view).ttls = view.ttls := by
  refine @Related.keeps _ _ _ (fun shown => shown.ttls = view.ttls) _ Eq ?_ view rfl
  have start (tokens : Json) :
      Related (fun shown other => shown = other ∧ shown.ttls = view.ttls) Eq
        (do
          let tokens ← View.setTtl .accessToken accessTokenTtl (tokens, false)
          let tokens ← View.setTtl .refreshToken refreshTokenTtl tokens
          let tokens ← View.setTtl .idToken idTokenTtl tokens
          View.updateSettings codec db false tenantId (.object [("tokens", tokens.1)]))
        (do
          let tokens ← View.setTtl .accessToken accessTokenTtl (tokens, false)
          let tokens ← View.setTtl .refreshToken refreshTokenTtl tokens
          let tokens ← View.setTtl .idToken idTokenTtl tokens
          View.updateSettings codec db false tenantId
            (.object [("tokens", tokens.1)])) := by
    refine related_bind (related_setTtl_own .accessToken accessTokenTtl tokens _) ?_
    rintro ⟨tokens, _⟩ _ ⟨rfl, rfl⟩
    refine related_bind (related_setTtl_own .refreshToken refreshTokenTtl tokens _) ?_
    rintro ⟨tokens, _⟩ _ ⟨rfl, rfl⟩
    refine related_bind (related_setTtl_own .idToken idTokenTtl tokens _) ?_
    rintro ⟨tokens, _⟩ _ ⟨rfl, rfl⟩
    exact (tied_ttls tenantId view.ttls).updateSettings codec db _
  unfold View.finishTokens
  cases response.tokens.truthy with
  | true => exact start response.tokens
  | false => exact start (.object [])

/-- The TTLs that `update_token_settings` leaves in the defaults. -/
theorem ttls_after_updateTokens (codec : Codec) (db : Connection) (tenantId : String)
    (accessTokenTtl refreshTokenTtl idTokenTtl : Option Int) (view : View) :
    (after (View.updateTokens codec db false tenantId accessTokenTtl refreshTokenTtl
        idTokenTtl) view).ttls =
      if sharesTokens (view.seen db tenantId) then
        setTtls view.ttls (givenTtls accessTokenTtl refreshTokenTtl idTokenTtl)
      else view.ttls := by
  have ran := run_getSettings codec db tenantId view
  unfold View.updateTokens
  cases shares : sharesTokens (view.seen db tenantId) with
  | true =>
      obtain ⟨response, isRead, isTokens⟩ :=
        @tokens_of_sharesTokens view.ttls _ shares
      rw [View.defaults, isRead, shares] at ran
      obtain ⟨settings, finishes⟩ := after_finishTokens codec db tenantId
        accessTokenTtl refreshTokenTtl idTokenTtl isTokens (List.cons_ne_nil _ _)
      rw [after_bind_of_ok ran, finishes, ttls_after_updateSettings]
  | false =>
      rw [if_neg Bool.false_ne_true]
      cases isRead : readSettings view.defaults (view.seen db tenantId) with
      | error error =>
          rw [isRead] at ran
          rw [after_bind_of_error ran]
      | ok response =>
          rw [isRead, shares] at ran
          rw [after_bind_of_ok ran, ttls_after_finishTokens_own]

/-- The calls that set no TTLs leave the defaults. -/
theorem ttls_after_spec (codec : Codec) (db : Connection) (tenantId : String)
    (call : SettingsCall) (view : View) :
    (after (call.spec codec db false tenantId) view).ttls =
      match call with
      | .updateTokenSettings accessTokenTtl refreshTokenTtl idTokenTtl =>
          if sharesTokens (view.seen db tenantId) then
            setTtls view.ttls
              (givenTtls accessTokenTtl refreshTokenTtl idTokenTtl)
          else view.ttls
      | _ => view.ttls := by
  cases call with
  | getTenantSettings =>
      refine (congrArg View.ttls (after_bind_pure _ view)).trans ?_
      exact ((tied_ttls tenantId view.ttls).getSettings codec db).keeps rfl
  | updateTokenSettings accessTokenTtl refreshTokenTtl idTokenTtl =>
      refine (congrArg View.ttls (after_bind_pure _ view)).trans ?_
      exact ttls_after_updateTokens codec db tenantId _ _ _ view
  | updateTenantSettings settings =>
      refine (congrArg View.ttls (after_bind_pure _ view)).trans ?_
      exact ttls_after_updateSettings codec db tenantId _ view
  | updateMfaSettings enabled requiredForAdmins methods =>
      refine (congrArg View.ttls (after_bind_pure _ view)).trans ?_
      exact ttls_after_updateSettings codec db tenantId _ view
  | updatePasswordPolicy policy =>
      refine (congrArg View.ttls (after_bind_pure _ view)).trans ?_
      exact ttls_after_updateSettings codec db tenantId _ view
  | updateBranding branding =>
      refine (congrArg View.ttls (after_bind_pure _ view)).trans ?_
      exact ttls_after_updateSettings codec db tenantId _ view

/-! ## Steps -/

theorem shows_start (rows : String → Option (Option Json)) :
    Shows { settings := rows } { settings := rows } where
  defaults := rfl
  above := Nat.le_refl 7
  settings := rfl
  cache := rfl
  reads := rfl

theorem shows_step {codec : Codec} {service next : Service} {view : View}
    {event : TenantCall} (shows : Shows service view)
    (isStep : step codec service event = some next) :
    Shows next (after (event.call.spec codec event.db false event.tenantId) view) := by
  cases isStep
  exact (related_run codec event.db false event.tenantId event.call).after shows

theorem unchanged_step {codec : Codec} {service next : Service} {view : View}
    {event : TenantCall} (shows : Shows service view)
    (unchanged : Unchanged service)
    (isStep : step codec service event = some next) :
    Unchanged next ↔ LeavesDefaults service event := by
  have isDefault := (unchanged_iff shows).mp unchanged
  rw [unchanged_iff (shows_step shows isStep), ttls_after_spec, isDefault]
  unfold LeavesDefaults
  rw [shows.seen]
  cases event.call with
  | updateTokenSettings accessTokenTtl refreshTokenTtl idTokenTtl =>
      cases sharesTokens (view.seen event.db event.tenantId) with
      | true =>
          simp only [if_true, forall_const]
          exact setTtls_eq_iff
      | false => simp
  | getTenantSettings => exact iff_of_true rfl trivial
  | updateTenantSettings settings => exact iff_of_true rfl trivial
  | updateMfaSettings enabled requiredForAdmins methods =>
      exact iff_of_true rfl trivial
  | updatePasswordPolicy policy => exact iff_of_true rfl trivial
  | updateBranding branding => exact iff_of_true rfl trivial

/-! ## Two runs -/

/-- Two services that show the same to a tenant. -/
def SameFor (tenantId : String) (service alone : Service) : Prop :=
  ∃ view other, Shows service view ∧ Shows alone other ∧
    view.ttls = other.ttls ∧
    view.settings tenantId = other.settings tenantId

theorem tied_sameFor (tenantId : String) :
    Tied tenantId fun view other =>
      view.ttls = other.ttls ∧ view.settings tenantId = other.settings tenantId where
  ttls _ _ same := same.1
  row _ _ same := same.2
  record _ _ same _ := same
  save view other same row :=
    ⟨same.1, (Function.update_self tenantId row view.settings).trans
      (Function.update_self tenantId row other.settings).symm⟩

/-- The tenant's own calls keep what it is shown the same. -/
theorem sameFor_own {codec : Codec} {service alone next nextAlone : Service}
    {event : TenantCall} (same : SameFor event.tenantId service alone)
    (isStep : step codec service event = some next)
    (isStepAlone : step codec alone event = some nextAlone) :
    SameFor event.tenantId next nextAlone := by
  obtain ⟨view, other, shows, showsAlone, equal⟩ := same
  refine ⟨_, _, shows_step shows isStep, shows_step showsAlone isStepAlone, ?_⟩
  have writes (view other : View)
      (same : view.ttls = other.ttls ∧
        view.settings event.tenantId = other.settings event.tenantId)
      (key : TokenTtl) (ttl : Int) :
      Function.update view.ttls key ttl = Function.update other.ttls key ttl ∧
        view.settings event.tenantId = other.settings event.tenantId :=
    ⟨congrArg (Function.update · key ttl) same.1, same.2⟩
  exact ((tied_sameFor event.tenantId).spec writes codec event.db event.call).after equal

/-- A call for a tenant leaves the rows of the others. -/
theorem settings_after_spec {codec : Codec} {db : Connection}
    {tenantId other : String} (different : other ≠ tenantId) (call : SettingsCall)
    (view : View) :
    (after (call.spec codec db false tenantId) view).settings other =
      view.settings other := by
  have tied : Tied tenantId fun shown same =>
      shown = same ∧ shown.settings other = view.settings other := {
    ttls := fun _ _ same => same.1 ▸ rfl
    row := fun _ _ same => same.1 ▸ rfl
    record := fun _ _ same _ => same.1 ▸ ⟨rfl, same.2⟩
    save := fun shown _ same row => same.1 ▸
      ⟨rfl, (Function.update_of_ne different row shown.settings).trans same.2⟩ }
  exact (tied.spec (fun _ _ same _ _ => same.1 ▸ ⟨rfl, same.2⟩) codec db call).keeps rfl

/-- Calls for others show the tenant nothing new while the defaults stay. -/
theorem sameFor_other {codec : Codec} {tenantId : String}
    {service alone next : Service} {event : TenantCall}
    (same : SameFor tenantId service alone)
    (different : tenantId ≠ event.tenantId) (before : Unchanged service)
    (unchanged : Unchanged next)
    (isStep : step codec service event = some next) :
    SameFor tenantId next alone := by
  obtain ⟨view, other, shows, showsAlone, equalTtls, equalRow⟩ := same
  have showsNext := shows_step shows isStep
  refine ⟨_, other, showsNext, showsAlone, ?_, ?_⟩
  · rw [(unchanged_iff showsNext).mp unchanged, ← equalTtls,
      (unchanged_iff shows).mp before]
  · exact (settings_after_spec different event.call view).trans equalRow

theorem sameFor_of_unchanged {codec : Codec} {tenantId : String}
    {service alone final finalAlone : Service} {events : List TenantCall}
    (same : SameFor tenantId service alone)
    (unchanged : Always (step codec) Unchanged service events)
    (runs : exec (step codec) service events = some final)
    (runsAlone : exec (step codec) alone
      (events.filter fun event => event.tenantId = tenantId) = some finalAlone) :
    SameFor tenantId final finalAlone := by
  induction events generalizing service alone with
  | nil =>
      cases runs
      cases runsAlone
      exact same
  | cons event rest ih =>
      obtain ⟨next, isStep, restRuns⟩ := exec_cons_eq_some.mp runs
      have later := unchanged.2 next isStep
      by_cases own : event.tenantId = tenantId
      · rw [List.filter_cons, if_pos (decide_eq_true own)] at runsAlone
        obtain ⟨nextAlone, isStepAlone, restAlone⟩ := exec_cons_eq_some.mp runsAlone
        cases own
        exact ih (sameFor_own same isStep isStepAlone) later restRuns restAlone
      · rw [List.filter_cons, if_neg (mt of_decide_eq_true own)] at runsAlone
        exact ih (sameFor_other same (Ne.symm own) unchanged.1
          (always_here later) isStep) later restRuns runsAlone

theorem settingsOf_eq {codec : Codec} {db : Connection} {tenantId : String}
    {service : Service} {view : View} (shows : Shows service view) :
    settingsOf codec db tenantId service =
      readSettings view.defaults (view.seen db tenantId) := by
  have here := related_getTenantSettings codec db false tenantId service view shows
  rw [run_getSettings] at here
  unfold settingsOf
  cases isRead : readSettings view.defaults (view.seen db tenantId) with
  | ok response =>
      rw [isRead] at here
      match getTenantSettings codec db false tenantId service, here with
      | .ok result _, ⟨isResponse, _⟩ => exact congrArg Except.ok isResponse.1
  | error error =>
      rw [isRead] at here
      match getTenantSettings codec db false tenantId service, here with
      | .error _ _, ⟨same, _⟩ => exact congrArg Except.error same

/-! ## The result -/

/-- The defaults stay and the tenants are separate exactly in the runs whose
steps leave the defaults. -/
theorem isolated_iff (codec : Codec) (rows : String → Option (Option Json))
    (events : List TenantCall) :
    (Always (step codec) Unchanged { settings := rows } events ∧
        Separate codec { settings := rows } events) ↔
      Along (step codec) LeavesDefaults { settings := rows } events := by
  have start := shows_start rows
  obtain ⟨final, runs⟩ := @exec_of_total _ _ (step codec) _ (fun _ _ => rfl)
    { settings := rows } events
  have keeps (service : Service) (event : TenantCall) (next : Service)
      (shown : ∃ view, Shows service view)
      (isStep : step codec service event = some next) : ∃ view, Shows next view :=
    shown.imp' _ fun _ shows => shows_step shows isStep
  have changes (service : Service) (event : TenantCall) (next : Service)
      (shown : ∃ view, Shows service view) (unchanged : Unchanged service)
      (isStep : step codec service event = some next) :
      Unchanged next ↔ LeavesDefaults service event :=
    shown.elim fun _ shows => unchanged_step shows unchanged isStep
  rw [← always_iff_along_of_invariant keeps changes ⟨_, start⟩ rfl runs]
  refine and_iff_left_of_imp fun unchanged db tenantId first rest service alone split
    runsFirst runsAlone => ?_
  have unchangedFirst : Always (step codec) Unchanged { settings := rows } first :=
    always_of_append (split ▸ unchanged)
  have same : SameFor tenantId { settings := rows } { settings := rows } :=
    ⟨_, _, start, start, rfl, rfl⟩
  obtain ⟨view, other, shows, showsAlone, equalTtls, equalRow⟩ :=
    sameFor_of_unchanged same unchangedFirst runsFirst runsAlone
  rw [settingsOf_eq shows, settingsOf_eq showsAlone, View.defaults, View.defaults,
    View.seen, View.seen, selectSettings, selectSettings, equalTtls, equalRow]

/-! ## New TTLs for a tenant without tokens -/

/-- Documents go through as they are. -/
def plainCodec : Codec where
  orjson := some
  jsonb := some

/-- Two tenants without stored settings. -/
def twoTenants (tenantId : String) : Option (Option Json) :=
  if tenantId = "a" ∨ tenantId = "b" then some none else none

/-- The first tenant gets shorter access tokens. -/
def shorterTokens : List TenantCall :=
  [⟨"a", .forTenant "a", .updateTokenSettings (some 600) none none⟩]

/-- The defaults have changed, and the second tenant reads the new TTL. -/
theorem shorterTokens_not_isolated :
    ∃ service,
      exec (step plainCodec) { settings := twoTenants } shorterTokens = some service ∧
      ¬ Unchanged service ∧
      settingsOf plainCodec (.forTenant "b") "b" service ≠
        settingsOf plainCodec (.forTenant "b") "b" { settings := twoTenants } := by
  let written := Function.update defaultTtls .accessToken 600
  have differs : written ≠ defaultTtls := fun same =>
    absurd (congrFun same .accessToken) (by decide)
  have runs : exec (step plainCodec) { settings := twoTenants } shorterTokens =
      some _ := rfl
  refine ⟨_, runs, fun unchanged => differs (plain_settingsWith.mp unchanged), ?_⟩
  intro same
  have tokens := congrArg (fun read => read.toOption.map fun response =>
    response.tokens) same
  change some (Json.object (defaultTokens written)) =
    some (Json.object (defaultTokens defaultTtls)) at tokens
  rw [Option.some.injEq, Json.object.injEq] at tokens
  exact differs (defaultTokens_injective tokens)

end SettingsIsolation

end HexIam
