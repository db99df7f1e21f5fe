import HexIam.CallPool
import HexIam.SettingsIsolation

/-!
# Concurrent updates of tenant settings

`update_tenant_settings` reads the settings of a tenant, merges its argument in
and writes the whole document back, so another update that is stored in between
is lost.  In the interleavings where no update writes over a leaf that it has
not read, the updates of disjoint leaves are all stored and every other leaf
stays.
-/

namespace HexIam

open JsonDocument RelatedCode StatementTree CallPool GuardedRun TenantSettings
open SettingsIsolation (plainCodec)

namespace SettingsUpdates

/-! ## Statements -/

/-- The statements on the key and the row of one tenant, over a connection to the
database. -/
inductive SettingsStmt : Type
  | get
  | select (db : Connection)
  | setex (document : Json)
  | update (db : Connection) (document : Json)

abbrev SettingsStmt.Resp : SettingsStmt → Type
  | .get => Option Json
  | .select _ => Option (Option Json)
  | .setex _ => Unit
  | .update .. => Unit

/-- The stored settings of the tenant, `none` for NULL, and what Redis holds. -/
structure TenantWorld where
  tenantId : String
  settings : Option Json
  cache : Option Json := none

/-- The row of the tenant, if the connection sees it. -/
def TenantWorld.select (world : TenantWorld) (db : Connection) :
    Option (Option Json) :=
  if db.sees world.tenantId then some world.settings else none

def TenantWorld.save (world : TenantWorld) (db : Connection) : Option Json →
    Except PyError Unit × TenantWorld
  | some stored =>
      (.ok (), { world with
        settings := if db.sees world.tenantId then some stored
          else world.settings })
  | none => (.error .refused, world)

def TenantWorld.setex (world : TenantWorld) : Option Json →
    Except PyError Unit × TenantWorld
  | some stored => (.ok (), { world with cache := some stored })
  | none => (.error .refused, world)

def perform (codec : Codec) (stmt : SettingsStmt) (world : TenantWorld) :
    Except PyError stmt.Resp × TenantWorld :=
  match stmt with
  | .get => (.ok world.cache, world)
  | .select db => (.ok (world.select db), world)
  | .setex document => world.setex (codec.orjson document)
  | .update db document =>
      world.save db ((codec.orjson document).bind codec.jsonb)

/-! ## Functions -/

abbrev Code := StatementTree SettingsStmt SettingsStmt.Resp PyError

def redisGet (redisConn : Bool) : Code (Option Json) :=
  if redisConn then .perform .get .done else pure none

def redisSetex (redisConn : Bool) (document : Json) : Code Unit :=
  if redisConn then .perform (.setex document) .done else pure ()

def getTenantSettings (defaults : Json) (db : Connection) (redisConn : Bool) :
    Code (TenantSettingsResponse Json) := do
  match ← redisGet redisConn with
  | some cached => .done (View.ofCached cached)
  | none =>
      let row ← .perform (.select db) .done
      let result ← .done (readSettings defaults row)
      redisSetex redisConn (.object result.entries)
      return result

def updateTenantSettings (defaults : Json) (db : Connection) (redisConn : Bool)
    (settings : List (String × Json)) : Code Json := do
  let current ← getTenantSettings defaults db redisConn
  let updated ← .done (mergeDocuments (.object current.entries) (.object settings))
  .perform (.update db updated) fun answer => .done (answer.map fun _ => updated)

/-! ## The functions alone -/

/-- What a program does when no other call comes between its statements. -/
def alone {α : Type} (codec : Codec) (code : Code α) :
    EStateM PyError TenantWorld α := fun world =>
  match run (perform codec) code world with
  | (.ok value, after) => .ok value after
  | (.error error, after) => .error error after

theorem alone_bind {α β : Type} (codec : Codec) (code : Code α)
    (continuation : α → Code β) :
    alone codec (code >>= continuation) =
      alone codec code >>= fun value => alone codec (continuation value) := by
  funext world
  change alone codec (code >>= continuation) world =
    EStateM.bind (alone codec code) _ world
  simp only [alone, EStateM.bind, run_bind]
  rcases run (perform codec) code world with ⟨result, after⟩
  cases result <;> rfl

/-- The tenant's part of a view. -/
structure OfTenant (tenantId : String) (ttls : TokenTtl → Int)
    (world : TenantWorld) (view : View) : Prop where
  tenant : world.tenantId = tenantId
  ttls : view.ttls = ttls
  settings : view.settings tenantId = some world.settings
  cache : view.cache tenantId = world.cache

section Alone

variable {codec : Codec} {db : Connection} {tenantId : String}
variable {ttls : TokenTtl → Int}

theorem related_alone_redisGet (redisConn : Bool) :
    Related (OfTenant tenantId ttls) Eq (alone codec (redisGet redisConn))
      (View.hit redisConn tenantId) := by
  intro world view same
  cases redisConn with
  | false => exact ⟨rfl, same⟩
  | true => exact ⟨same.cache.symm, same⟩

theorem related_alone_done {α : Type} (result : Except PyError α) :
    Related (OfTenant tenantId ttls) Eq (alone codec (.done result))
      (View.lift result) := by
  intro world view same
  cases result with
  | ok value => exact ⟨rfl, same⟩
  | error error => exact ⟨rfl, same⟩

theorem related_alone_pure {α β : Type} {values : α → β → Prop} {a : α} {b : β}
    (same : values a b) :
    Related (OfTenant tenantId ttls) values (alone codec (pure a)) (pure b) :=
  fun _ _ start => ⟨same, start⟩

theorem related_alone_redisSetex (redisConn : Bool) (document : Json) :
    Related (OfTenant tenantId ttls) (fun _ _ => True)
      (alone codec (redisSetex redisConn document))
      (View.fill codec redisConn tenantId document) := by
  intro world view same
  cases redisConn with
  | false => exact ⟨trivial, same⟩
  | true =>
      unfold alone redisSetex View.fill
      simp only [if_true, run_perform, run_done, perform]
      cases codec.orjson document with
      | none => exact ⟨rfl, same⟩
      | some stored =>
          refine ⟨trivial, { same with cache := ?_ }⟩
          exact Function.update_self ..

/-- Recording a read changes nothing for a tenant. -/
theorem related_recorded {α : Type} {code : EStateM PyError TenantWorld α}
    {values : α → TenantSettingsResponse Json × Bool → Prop}
    {spec : Spec (TenantSettingsResponse Json × Bool)}
    (related : Related (OfTenant tenantId ttls) values code spec) :
    Related (OfTenant tenantId ttls) values code (View.recorded spec) := by
  intro world view same
  have here := related world view same
  unfold View.recorded
  match code world, spec view, here with
  | .ok value after, .ok shown shownAfter, ⟨agree, still⟩ =>
      exact ⟨agree, { still with }⟩
  | .error error after, .error _ shownAfter, ⟨agree, still⟩ =>
      exact ⟨agree, { still with }⟩

theorem related_alone_select :
    Related (OfTenant tenantId ttls)
      (fun row view => view.ttls = ttls ∧ view.seen db tenantId = row)
      (alone codec (.perform (.select db) .done)) (get : Spec View) := by
  intro world view same
  refine ⟨⟨same.ttls, ?_⟩, same⟩
  change view.seen db tenantId = world.select db
  unfold View.seen selectSettings TenantWorld.select
  rw [same.settings, same.tenant]

theorem related_alone_getTenantSettings (redisConn : Bool) :
    Related (OfTenant tenantId ttls) (fun response shown => response = shown.1)
      (alone codec (getTenantSettings (settingsWith ttls).plain db redisConn))
      (View.getSettings codec db redisConn tenantId) := by
  refine related_recorded ?_
  unfold getTenantSettings
  rw [alone_bind]
  refine related_bind (related_alone_redisGet redisConn) ?_
  rintro (_ | cached) _ rfl
  · change Related _ _ (alone codec (.perform (.select db) .done >>= _)) _
    rw [alone_bind]
    refine related_bind related_alone_select ?_
    rintro row view ⟨rfl, rfl⟩
    rw [alone_bind]
    refine related_bind (related_alone_done _) fun result _ same => ?_
    rw [alone_bind, same]
    exact related_bind (related_alone_redisSetex redisConn _) fun _ _ _ =>
      related_alone_pure rfl
  · intro world view same
    change Outcomes _ _ (alone codec (.done (View.ofCached cached)) world)
      (EStateM.bind (View.lift (View.ofCached cached)) _ view)
    cases View.ofCached cached with
    | ok response => exact ⟨rfl, same⟩
    | error error => exact ⟨rfl, same⟩

/-- A call that nothing comes between does what it does on a view. -/
theorem related_alone_updateTenantSettings (redisConn : Bool)
    (settings : List (String × Json)) :
    Related (OfTenant tenantId ttls) Eq
      (alone codec
        (updateTenantSettings (settingsWith ttls).plain db redisConn settings))
      (View.updateSettings codec db redisConn tenantId (.object settings)) := by
  unfold updateTenantSettings
  rw [alone_bind]
  refine related_bind (related_alone_getTenantSettings redisConn)
    fun current shown same => ?_
  rw [alone_bind, same]
  refine related_bind (related_alone_done _) fun updated _ same => ?_
  cases same
  intro world view same
  change Outcomes _ _ _ (EStateM.bind (View.save codec db tenantId updated) _ view)
  unfold alone View.save
  simp only [run_perform, run_done, perform]
  cases (codec.orjson updated).bind codec.jsonb with
  | none => exact ⟨rfl, same⟩
  | some stored =>
      refine ⟨rfl, { same with settings := ?_ }⟩
      change storeSettings view.settings db tenantId stored tenantId = _
      unfold storeSettings
      unfold TenantWorld.save
      rw [Function.update_self, same.settings, same.tenant]
      cases db.sees tenantId <;> rfl

end Alone

/-! ## Runs -/

/-- A call for the tenant over a connection, in a process with these TTLs in its
`DEFAULT_SETTINGS`. -/
structure UpdateCall where
  ttls : TokenTtl → Int := defaultTtls
  db : Connection
  redisConn : Bool
  settings : List (String × Json)
  wellFormed : (Json.object settings).WellFormed

namespace UpdateCall

def defaults (call : UpdateCall) : Json :=
  (settingsWith call.ttls).plain

def document (call : UpdateCall) : Json :=
  .object call.settings

def program (call : UpdateCall) : Code Json :=
  updateTenantSettings call.defaults call.db call.redisConn call.settings

end UpdateCall

/-- The calls on one tenant.  A statement may fail, and the cached settings
expire. -/
def system (codec : Codec) :
    System Empty UpdateCall SettingsStmt SettingsStmt.Resp PyError Json
      TenantWorld Unit where
  site _ := none
  program := UpdateCall.program
  perform := perform codec
  mayFail _ _ := true
  crash site _ := site.elim
  change _ world := some { world with cache := none }

abbrev UpdatePool :=
  Pool UpdateCall SettingsStmt SettingsStmt.Resp PyError Json TenantWorld
abbrev UpdateEvent := Event Empty UpdateCall PyError Unit
abbrev Log := List (LogEntry SettingsStmt SettingsStmt.Resp PyError)

/-! ## The property -/

/-- The stored settings have the leaf at the end of the path. -/
def TenantWorld.LeafAt (world : TenantWorld) (path : List String) (leaf : Leaf) :
    Prop :=
  ∃ stored, world.settings = some stored ∧ stored.at path = some (.leaf leaf)

/-- A codec that changes a document in its leaves only, each as the column
does. -/
def StoresLeaves (codec : Codec) (column : Leaf → Leaf) : Prop :=
  ∀ document stored, (codec.orjson document).bind codec.jsonb = some stored →
    ∀ path leaf, stored.at path = some (.leaf leaf) ↔
      ∃ written, document.at path = some (.leaf written) ∧ column written = leaf

/-- When all calls have returned, every leaf that one of them was given is
stored, and so is every leaf of the start that none of them touches. -/
def Kept (column : Leaf → Leaf) (start : TenantWorld) (pool : UpdatePool) : Prop :=
  (∀ id call, pool.Holds id call → ∃ updated, call.rest = .done (.ok updated)) →
    (∀ id call path leaf, pool.Holds id call →
      call.request.document.at path = some (.leaf leaf) →
      pool.world.LeafAt path (column leaf)) ∧
    ∀ path leaf, start.LeafAt path leaf →
      (∀ id call, pool.Holds id call → ¬ call.request.document.Touches path) →
      pool.world.LeafAt path leaf

/-- Neither document touches a leaf of the other. -/
def Disjoint (first second : Json) : Prop :=
  ∀ path leaf, (first.at path = some (.leaf leaf) → ¬ second.Touches path) ∧
    (second.at path = some (.leaf leaf) → ¬ first.Touches path)

/-- A call is started with settings that are disjoint from those of all others. -/
def Apart (pool : UpdatePool) : UpdateEvent → Prop
  | .start _ request => ∀ other call, pool.Holds other call →
      Disjoint request.document call.request.document
  | _ => True

/-! ## The condition -/

/-- What `get_tenant_settings` has returned in the call. -/
def HasRead (request : UpdateCall) (log : Log)
    (current : TenantSettingsResponse Json) : Prop :=
  (∃ row, (⟨.select request.db, .ok row⟩ :
      LogEntry SettingsStmt SettingsStmt.Resp PyError) ∈ log ∧
    readSettings request.defaults row = .ok current) ∨
  ∃ cached, (⟨.get, .ok (some cached)⟩ :
      LogEntry SettingsStmt SettingsStmt.Resp PyError) ∈ log ∧
    View.ofCached cached = .ok current

/-- The settings that were read have every leaf which is stored and which the
call does not touch. -/
def Covers (column : Leaf → Leaf) (request : UpdateCall) (world : TenantWorld)
    (current : TenantSettingsResponse Json) : Prop :=
  ∀ path leaf, world.LeafAt path leaf → ¬ request.document.Touches path →
    ∃ read, (Json.object current.entries).at path = some (.leaf read) ∧
      column read = leaf

/-- A call that writes does so over a connection that sees the tenant, and it has
read all that it writes over. -/
def Undisturbed (column : Leaf → Leaf) (pool : UpdatePool) : UpdateEvent → Prop
  | .advance id => ∀ call db updated, pool.Holds id call →
      call.Next (.update db updated) →
      db.sees pool.world.tenantId = true ∧
        ∀ current, HasRead call.request call.log current →
          Covers column call.request pool.world current
  | _ => True

/-! ## What a call does -/

section Programs

variable {codec : Codec}

/-- The call has written its document. -/
def HasSaved (log : Log) : Prop :=
  ∃ db updated, (⟨.update db updated, .ok ()⟩ :
    LogEntry SettingsStmt SettingsStmt.Resp PyError) ∈ log

theorem HasSaved.of_cons {log : Log}
    {entry : LogEntry SettingsStmt SettingsStmt.Resp PyError}
    (other : ∀ db updated, (⟨.update db updated, .ok ()⟩ :
      LogEntry SettingsStmt SettingsStmt.Resp PyError) ≠ entry)
    (hasSaved : HasSaved (entry :: log)) : HasSaved log := by
  obtain ⟨db, updated, mem⟩ := hasSaved
  exact ⟨db, updated, (List.mem_cons.mp mem).resolve_left (other db updated)⟩

/-- A call writes what it has read with its own settings merged in. -/
def guarded (request : UpdateCall) (log : Log) : SettingsStmt → Prop
  | .update _ updated => ∃ current, HasRead request log current ∧
      updated = mergeItem (some (.object current.entries)) request.document
  | _ => True

/-- A call that returns has written. -/
def completes (_ : UpdateCall) (log : Log) (result : Except PyError Json) : Prop :=
  ∀ updated, result = .ok updated → HasSaved log

theorem getTenantSettings_obeys (request : UpdateCall) :
    Obeys (guarded request) (Answers (system codec))
      (fun log result => ∀ current, result = .ok current → HasRead request log current)
      (getTenantSettings request.defaults request.db request.redisConn) [] := by
  have fromRow (log : Log) : Obeys (guarded request) (Answers (system codec))
      (fun log result => ∀ current, result = .ok current → HasRead request log current)
      (do
        let row ← .perform (.select request.db) .done
        let result ← .done (readSettings request.defaults row)
        redisSetex request.redisConn (.object result.entries)
        return result) log := by
    refine Obeys.perform_bind trivial (fun row _ => ?_) fun _ _ => nofun
    refine Obeys.done_bind (fun result isRead => ?_) fun _ _ => nofun
    have reads (later : Log) :
        HasRead request (later ++ ⟨.select request.db, .ok row⟩ :: log) result :=
      .inl ⟨row, List.mem_append_right _ List.mem_cons_self, isRead⟩
    unfold redisSetex
    split
    · refine Obeys.perform_bind trivial (fun _ _ => ?_) fun _ _ => nofun
      rintro _ ⟨⟩
      exact reads [_]
    · rintro _ ⟨⟩
      exact reads []
  unfold getTenantSettings redisGet
  split
  · refine Obeys.perform_bind trivial (fun cached _ => ?_) fun _ _ => nofun
    cases cached with
    | none => exact fromRow _
    | some cached =>
        exact fun current isRead => .inr ⟨cached, List.mem_cons_self, isRead⟩
  · exact fromRow []

theorem update_obeys (request : UpdateCall) :
    Obeys (guarded request) (Answers (system codec)) (completes request)
      ((system codec).program request) [] := by
  refine (getTenantSettings_obeys request).bind (fun log current hasRead => ?_)
    fun _ _ _ => nofun
  refine ⟨⟨current, hasRead current rfl, rfl⟩, fun answer _ => ?_⟩
  cases answer with
  | error error => exact nofun
  | ok value => exact fun _ _ => ⟨_, _, List.mem_cons_self⟩

end Programs

/-! ## The invariant -/

section Invariant

variable {codec : Codec} {column : Leaf → Leaf} {start : TenantWorld}
variable {pool next : UpdatePool}

/-- What holds in every state of a run that meets the condition. -/
structure Safe (codec : Codec) (column : Leaf → Leaf) (start : TenantWorld)
    (pool : UpdatePool) : Prop where
  follows : Follows (system codec) guarded completes pool
  apart : ∀ id other first second, pool.Holds id first → pool.Holds other second →
    id ≠ other → Disjoint first.request.document second.request.document
  saved : ∀ id call path leaf, pool.Holds id call → HasSaved call.log →
    call.request.document.at path = some (.leaf leaf) →
    pool.world.LeafAt path (column leaf)
  untouched : ∀ path leaf, start.LeafAt path leaf →
    (∀ id call, pool.Holds id call → ¬ call.request.document.Touches path) →
    pool.world.LeafAt path leaf

theorem safe_init : Safe codec column start (.init start) where
  follows := follows_init
  apart _ _ _ _ holds := absurd holds Pool.not_holds_init
  saved _ _ _ _ holds := absurd holds Pool.not_holds_init
  untouched _ _ isLeaf _ := isLeaf

/-- An answer keeps the invariant if it keeps the leaves the call does not touch,
and stores those of the call if it is the answer to its write. -/
theorem Safe.answered {id : Nat} {world : TenantWorld} {stmt : SettingsStmt}
    {rest : Except PyError stmt.Resp → Code Json} {answer : Except PyError stmt.Resp}
    {call : Call UpdateCall SettingsStmt SettingsStmt.Resp PyError Json}
    (safe : Safe codec column start pool) (holds : pool.Holds id call)
    (nextEq : next = ({ pool with world := world }).setCall id
      (call.answered stmt rest answer))
    (follows : Follows (system codec) guarded completes next)
    (keeps : ∀ path leaf, pool.world.LeafAt path leaf →
      ¬ call.request.document.Touches path → world.LeafAt path leaf)
    (own : HasSaved (⟨stmt, answer⟩ :: call.log) → ∀ path leaf,
      call.request.document.at path = some (.leaf leaf) →
      world.LeafAt path (column leaf)) :
    Safe codec column start next := by
  subst nextEq
  -- the same calls are held, with the same requests
  have before {other : Nat}
      {found : Call UpdateCall SettingsStmt SettingsStmt.Resp PyError Json}
      (foundHolds : (({ pool with world := world }).setCall id
        (call.answered stmt rest answer)).Holds other found) :
      ∃ old, pool.Holds other old ∧ old.request = found.request := by
    rcases Pool.holds_setCall.mp foundHolds with ⟨rfl, rfl⟩ | ⟨-, oldHolds⟩
    · exact ⟨call, holds, rfl⟩
    · exact ⟨found, oldHolds, rfl⟩
  refine ⟨follows, ?_, ?_, ?_⟩
  · intro first second firstCall secondCall holdsFirst holdsSecond different
    obtain ⟨old, oldHolds, same⟩ := before holdsFirst
    obtain ⟨old', oldHolds', same'⟩ := before holdsSecond
    rw [← same, ← same']
    exact safe.apart first second old old' oldHolds oldHolds' different
  · intro other found path leaf foundHolds hasSaved isLeaf
    rcases Pool.holds_setCall.mp foundHolds with ⟨rfl, rfl⟩ | ⟨different, oldHolds⟩
    · exact own hasSaved path leaf isLeaf
    · have disjoint := safe.apart other id found call oldHolds holds different
      exact keeps path _ (safe.saved other found path leaf oldHolds hasSaved isLeaf)
        ((disjoint path leaf).1 isLeaf)
  · intro path leaf isLeaf untouched
    have untouchedBefore (other : Nat) (old) (oldHolds : pool.Holds other old) :
        ¬ old.request.document.Touches path := by
      by_cases same : other = id
      · subst same
        cases oldHolds.unique holds
        exact untouched other (call.answered stmt rest answer)
          (Pool.holds_setCall.mpr (.inl ⟨rfl, rfl⟩))
      · exact untouched other old (Pool.holds_setCall.mpr (.inr ⟨same, oldHolds⟩))
    exact keeps path leaf (safe.untouched path leaf isLeaf untouchedBefore)
      (untouchedBefore id call holds)

theorem LeafAt.of_eq {before after : TenantWorld} {path : List String} {leaf : Leaf}
    (same : after.settings = before.settings) (isLeaf : before.LeafAt path leaf) :
    after.LeafAt path leaf := by
  unfold TenantWorld.LeafAt
  rwa [same]

/-- A document that is written where all it writes over was read keeps the leaves
that the call does not touch. -/
theorem leafAt_save_of_untouched {request : UpdateCall} {world : TenantWorld}
    {current : TenantSettingsResponse Json} {stored : Json} {path : List String}
    {leaf : Leaf} (leaves : StoresLeaves codec column)
    (covers : Covers column request world current)
    (isStored : (codec.orjson (mergeItem (some (.object current.entries))
      request.document)).bind codec.jsonb = some stored)
    (isLeaf : world.LeafAt path leaf)
    (untouched : ¬ request.document.Touches path) :
    stored.at path = some (.leaf leaf) := by
  obtain ⟨read, isRead, same⟩ := covers path leaf isLeaf untouched
  refine (leaves _ stored isStored path leaf).mpr ⟨read, ?_, same⟩
  exact (at_mergeItem_of_untouched request.wellFormed untouched).mpr isRead

theorem leafAt_save_of_leaf {request : UpdateCall} {current : Json} {stored : Json}
    {path : List String} {leaf : Leaf} (leaves : StoresLeaves codec column)
    (isStored : (codec.orjson (mergeItem (some current)
      request.document)).bind codec.jsonb = some stored)
    (isLeaf : request.document.at path = some (.leaf leaf)) :
    stored.at path = some (.leaf (column leaf)) :=
  (leaves _ stored isStored path _).mpr
    ⟨leaf, at_mergeItem_of_leaf request.wellFormed isLeaf, rfl⟩

theorem safe_advance {id : Nat} (leaves : StoresLeaves codec column)
    (safe : Safe codec column start pool)
    (undisturbed : Undisturbed column pool (.advance id))
    (stepEq : step (system codec) pool (.advance id) = some next) :
    Safe codec column start next := by
  have follows := follows_step update_obeys _ safe.follows stepEq
  obtain ⟨call, stmt, rest, holds, alive, restEq, nextEq⟩ :=
    step_advance.mp stepEq
  have allowed : guarded call.request call.log stmt :=
    safe.follows.allowed holds restEq
  have savedBefore (hasSaved : HasSaved call.log) (path : List String) (leaf : Leaf)
      (isLeaf : call.request.document.at path = some (.leaf leaf)) :
      pool.world.LeafAt path (column leaf) :=
    safe.saved id call path leaf holds hasSaved isLeaf
  cases stmt with
  | get =>
      exact safe.answered holds nextEq follows (fun _ _ isLeaf _ => isLeaf)
        fun hasSaved => savedBefore (hasSaved.of_cons fun _ _ same => by cases same)
  | select =>
      exact safe.answered holds nextEq follows (fun _ _ isLeaf _ => isLeaf)
        fun hasSaved => savedBefore (hasSaved.of_cons fun _ _ same => by cases same)
  | setex document =>
      have same : ((system codec).perform (.setex document) pool.world).2.settings =
          pool.world.settings := by
        change (pool.world.setex (codec.orjson document)).2.settings = _
        cases codec.orjson document <;> rfl
      refine safe.answered holds nextEq follows
        (fun _ _ isLeaf _ => LeafAt.of_eq same isLeaf) ?_
      intro hasSaved path leaf isLeaf
      have earlier := hasSaved.of_cons fun _ _ same => by cases same
      exact LeafAt.of_eq same (savedBefore earlier path leaf isLeaf)
  | update db updated =>
      obtain ⟨current, hasRead, rfl⟩ := allowed
      obtain ⟨sees, covered⟩ := undisturbed call db _ holds ⟨alive, rest, restEq⟩
      have covers : Covers column call.request pool.world current :=
        covered current hasRead
      have performed : (system codec).perform (.update db (mergeItem
            (some (.object current.entries)) call.request.document)) pool.world =
          pool.world.save db ((codec.orjson (mergeItem
            (some (.object current.entries)) call.request.document)).bind
              codec.jsonb) := rfl
      rw [performed] at nextEq
      cases isStored : (codec.orjson (mergeItem (some (.object current.entries))
          call.request.document)).bind codec.jsonb with
      | none =>
          rw [isStored] at nextEq
          exact safe.answered holds nextEq follows (fun _ _ isLeaf _ => isLeaf)
            fun hasSaved => savedBefore (hasSaved.of_cons fun _ _ same => by cases same)
      | some stored =>
          rw [isStored, TenantWorld.save, if_pos sees] at nextEq
          refine safe.answered holds nextEq follows ?_ ?_
          · exact fun path leaf isLeaf untouched => ⟨stored, rfl,
              leafAt_save_of_untouched leaves covers isStored isLeaf untouched⟩
          · exact fun _ path leaf isLeaf => ⟨stored, rfl,
              leafAt_save_of_leaf leaves isStored isLeaf⟩

theorem safe_step {event : UpdateEvent} (leaves : StoresLeaves codec column)
    (safe : Safe codec column start pool)
    (condition : Apart pool event ∧ Undisturbed column pool event)
    (stepEq : step (system codec) pool event = some next) :
    Safe codec column start next := by
  have follows := follows_step update_obeys event safe.follows stepEq
  cases event with
  | advance id => exact safe_advance leaves safe condition.2 stepEq
  | start id request =>
      obtain ⟨unused, rfl⟩ := step_start.mp stepEq
      have others := condition.1
      refine ⟨follows, ?_, ?_, ?_⟩
      · intro first second firstCall secondCall holdsFirst holdsSecond different
        rcases Pool.holds_setCall.mp holdsFirst with ⟨rfl, rfl⟩ | ⟨-, oldFirst⟩ <;>
        rcases Pool.holds_setCall.mp holdsSecond with ⟨rfl, rfl⟩ | ⟨-, oldSecond⟩
        · exact absurd rfl different
        · exact others second secondCall oldSecond
        · exact fun path leaf => (others first firstCall oldFirst path leaf).symm
        · exact safe.apart first second _ _ oldFirst oldSecond different
      · intro other call path leaf holds hasSaved isLeaf
        rcases Pool.holds_setCall.mp holds with ⟨-, rfl⟩ | ⟨-, holds⟩
        · exact nomatch hasSaved.choose_spec.choose_spec
        · exact safe.saved other call path leaf holds hasSaved isLeaf
      · intro path leaf isLeaf untouched
        refine safe.untouched path leaf isLeaf fun other call holds => ?_
        have different : other ≠ id := by
          rintro rfl
          rw [Pool.Holds, unused] at holds
          cases holds
        exact untouched other call (Pool.holds_setCall.mpr (.inr ⟨different, holds⟩))
  | fail id error =>
      obtain ⟨call, stmt, rest, holds, -, restEq, -, nextEq⟩ :=
        step_fail.mp stepEq
      refine safe.answered holds nextEq follows (fun _ _ isLeaf _ => isLeaf) ?_
      intro hasSaved path leaf isLeaf
      have earlier := hasSaved.of_cons fun _ _ same => by cases same
      exact safe.saved id call path leaf holds earlier isLeaf
  | crash site => exact site.elim
  | change expired =>
      obtain ⟨world, changed, rfl⟩ := step_change.mp stepEq
      cases Option.some.inj changed
      exact ⟨follows, safe.apart, safe.saved, safe.untouched⟩

theorem Safe.kept (safe : Safe codec column start pool) : Kept column start pool := by
  intro returned
  refine ⟨fun id call path leaf holds isLeaf => ?_, safe.untouched⟩
  obtain ⟨updated, ended⟩ := returned id call holds
  have hasSaved := safe.follows.ended holds ended updated rfl
  exact safe.saved id call path leaf holds hasSaved isLeaf

end Invariant

/-! ## The result -/

/-- In the interleavings where every call that writes has read all that it writes
over, updates of disjoint leaves are all stored, and every other leaf stays. -/
theorem kept_of_undisturbed (codec : Codec) (column : Leaf → Leaf)
    (leaves : StoresLeaves codec column) (start : TenantWorld)
    (events : List UpdateEvent)
    (apart : Along (step (system codec)) Apart (.init start) events)
    (undisturbed : Along (step (system codec)) (Undisturbed column) (.init start)
      events) :
    Always (step (system codec)) (Kept column start) (.init start) events := by
  have safe : Always (step (system codec)) (Safe codec column start) (.init start)
      events :=
    always_of_along
      (fun _ _ _ safe condition stepEq => safe_step leaves safe condition stepEq)
      safe_init (along_both apart undisturbed)
  exact always_mono (fun _ => Safe.kept) safe

/-! ## Reading what is stored -/

def sectionKeys : List String :=
  ["mfa", "tokens", "password_policy", "session", "security", "branding"]

theorem at_sections {merged : List (String × Json)} {key : String}
    {rest : List String} {leaf : Leaf} (isSection : key ∈ sectionKeys)
    (isLeaf : (Json.object merged).at (key :: rest) = some (.leaf leaf)) :
    (Json.object (sections merged).entries).at (key :: rest) =
      some (.leaf leaf) := by
  rw [at_object_cons] at isLeaf
  obtain ⟨child, found, childLeaf⟩ := Option.bind_eq_some_iff.mp isLeaf
  have kept : (sections merged).entries.lookup key = some child := by
    simp only [sectionKeys, List.mem_cons, List.not_mem_nil, or_false] at isSection
    rcases isSection with rfl | rfl | rfl | rfl | rfl | rfl <;>
      exact congrArg (fun value => some (value.getD (.object []))) found
  rw [at_object_cons, kept]
  exact childLeaf

/-- A call that has selected what is stored has read all of it that lies in a
section. -/
theorem covers_of_selected {column : Leaf → Leaf} {request : UpdateCall}
    {world : TenantWorld} {current : TenantSettingsResponse Json}
    (wellFormed : ∀ stored, world.settings = some stored → stored.WellFormed)
    (settled : ∀ path leaf, world.LeafAt path leaf → column leaf = leaf)
    (inSection : ∀ path leaf, world.LeafAt path leaf →
      ∃ key ∈ sectionKeys, ∃ rest, path = key :: rest)
    (isRead : readSettings request.defaults (some world.settings) = .ok current) :
    Covers column request world current := by
  rintro path leaf ⟨stored, isStored, isLeaf⟩ -
  refine ⟨leaf, ?_, settled path leaf ⟨stored, isStored, isLeaf⟩⟩
  obtain ⟨key, isSection, rest, rfl⟩ :=
    inSection path leaf ⟨stored, isStored, isLeaf⟩
  rw [isStored] at isRead
  cases stored with
  | leaf _ => cases isLeaf
  | object entries =>
      have merged := @at_mergeItem_of_leaf _ (some request.defaults) _ _
        (wellFormed _ isStored) isLeaf
      have same : sections (Json.entries (mergeItem (some request.defaults)
          (.object entries))) = current := Except.ok.inj isRead
      rw [← same]
      exact at_sections isSection merged

/-! ## Two updates of one tenant -/

def named : UpdateCall where
  db := .forTenant "t"
  redisConn := false
  settings := [("branding", .object [("company_name", .leaf (.string "Acme"))])]
  wellFormed := .object _ (List.nodup_singleton _)
    (List.forall_mem_singleton.mpr (.object _ (List.nodup_singleton _)
      (List.forall_mem_singleton.mpr (.leaf _))))

def shortened : UpdateCall where
  db := .forTenant "t"
  redisConn := false
  settings := [("session", .object [("idle_timeout_minutes", .leaf (.int 15))])]
  wellFormed := .object _ (List.nodup_singleton _)
    (List.forall_mem_singleton.mpr (.object _ (List.nodup_singleton _)
      (List.forall_mem_singleton.mpr (.leaf _))))

/-- A tenant without stored settings. -/
def unset : TenantWorld where
  tenantId := "t"
  settings := none

/-- One update after the other. -/
def inTurn : List UpdateEvent :=
  [.start 0 named, .advance 0, .advance 0, .start 1 shortened, .advance 1, .advance 1]

/-- Both read before either writes. -/
def overlapping : List UpdateEvent :=
  [.start 0 named, .start 1 shortened, .advance 0, .advance 1, .advance 0, .advance 1]

theorem disjoint_of_keys {first second : List (String × Json)}
    (keys : ∀ key, first.lookup key = none ∨ second.lookup key = none) :
    Disjoint (.object first) (.object second) := by
  have misses {entries others : List (String × Json)}
      (keys : ∀ key, entries.lookup key = none ∨ others.lookup key = none)
      {path : List String} {leaf : Leaf}
      (isLeaf : (Json.object entries).at path = some (.leaf leaf)) :
      ¬ (Json.object others).Touches path := by
    intro touches
    cases path with
    | nil => cases isLeaf
    | cons key rest =>
        obtain ⟨value, found, -⟩ := exists_of_touches touches
        obtain ⟨child, own, -⟩ := Option.bind_eq_some_iff.mp isLeaf
        rcases keys key with none | none
        · exact absurd (none.symm.trans own) nofun
        · exact absurd (none.symm.trans found) nofun
  exact fun path leaf => ⟨misses keys, misses fun key => (keys key).symm⟩

theorem named_disjoint_shortened : Disjoint shortened.document named.document := by
  refine disjoint_of_keys fun key => ?_
  by_cases same : key = "session"
  · exact .inr (same ▸ rfl)
  · exact .inl (lookup_cons_of_ne same _ [])

theorem storesLeaves_plainCodec : StoresLeaves plainCodec id := by
  intro document stored isStored path leaf
  cases (isStored : some document = some stored)
  exact ⟨fun isLeaf => ⟨leaf, isLeaf, rfl⟩, fun ⟨_, isLeaf, same⟩ => same ▸ isLeaf⟩

theorem undisturbed_of_next {column : Leaf → Leaf} {pool : UpdatePool} {id : Nat}
    {call : Call UpdateCall SettingsStmt SettingsStmt.Resp PyError Json}
    {stmt : SettingsStmt} {rest : Except PyError stmt.Resp → Code Json}
    (holds : pool.Holds id call) (restEq : call.rest = .perform stmt rest)
    (covers : ∀ db updated, stmt = .update db updated →
      db.sees pool.world.tenantId = true ∧
        ∀ current, HasRead call.request call.log current →
          Covers column call.request pool.world current) :
    Undisturbed column pool (.advance id) := by
  intro found db updated foundHolds isNext
  obtain ⟨rfl, rfl⟩ := holds.next_unique restEq foundHolds isNext
  exact covers db updated rfl

/-- Without overlap both updates are stored. -/
theorem updates_in_turn_kept :
    Always (step (system plainCodec)) (Kept id unset) (.init unset) inTurn := by
  refine kept_of_undisturbed plainCodec id storesLeaves_plainCodec unset inTurn ?_ ?_
  · refine along_of_step rfl (fun _ _ holds => absurd holds Pool.not_holds_init)
      (along_of_step rfl trivial (along_of_step rfl trivial
        (along_of_step rfl ?_ (along_of_step rfl trivial
          (along_of_step rfl trivial (along_nil _))))))
    intro other call holds
    cases other with
    | zero =>
        cases Option.some.inj holds
        exact named_disjoint_shortened
    | succ other => cases holds
  · refine along_of_step rfl trivial (along_of_step rfl ?_ (along_of_step rfl ?_
      (along_of_step rfl trivial (along_of_step rfl ?_
        (along_of_step rfl ?_ (along_nil _))))))
    · exact undisturbed_of_next rfl rfl nofun
    · refine undisturbed_of_next rfl rfl fun db updated isUpdate => ?_
      cases isUpdate
      refine ⟨rfl, fun current _ => ?_⟩
      rintro path leaf ⟨stored, ⟨⟩, -⟩
    · exact undisturbed_of_next rfl rfl nofun
    · refine undisturbed_of_next rfl rfl fun db updated isUpdate => ?_
      cases isUpdate
      refine ⟨rfl, fun current hasRead => ?_⟩
      rintro path leaf ⟨stored, isStored, isLeaf⟩ -
      refine ⟨leaf, ?_, rfl⟩
      rcases hasRead with ⟨row, selected, isRead⟩ | ⟨cached, found, -⟩
      · cases List.mem_singleton.mp selected
        cases Option.some.inj isStored
        cases Except.ok.inj isRead
        exact isLeaf
      · exact nomatch List.mem_singleton.mp found

/-- The second of two overlapping updates takes the first one back. -/
theorem overlapping_updates_not_kept :
    Along (step (system plainCodec)) Apart (.init unset) overlapping ∧
      ¬ Always (step (system plainCodec)) (Kept id unset) (.init unset)
        overlapping := by
  refine ⟨?_, fun always => ?_⟩
  · refine along_of_step rfl (fun _ _ holds => absurd holds Pool.not_holds_init)
      (along_of_step rfl ?_ (along_of_step rfl trivial (along_of_step rfl trivial
        (along_of_step rfl trivial (along_of_step rfl trivial (along_nil _))))))
    intro other call holds
    cases other with
    | zero =>
        cases Option.some.inj holds
        exact named_disjoint_shortened
    | succ other => cases holds
  have runs : exec (step (system plainCodec)) (.init unset) overlapping = some _ := rfl
  have kept := always_iff.mp always overlapping [] _ (List.append_nil _).symm runs
  have returned := kept fun id call holds => by
    match id with
    | 0 => cases Option.some.inj holds; exact ⟨_, rfl⟩
    | 1 => cases Option.some.inj holds; exact ⟨_, rfl⟩
    | _ + 2 => cases holds
  obtain ⟨stored, isStored, isLeaf⟩ := returned.1 0 _ ["branding", "company_name"]
    (.string "Acme") rfl rfl
  cases Option.some.inj isStored
  cases isLeaf

end SettingsUpdates

end HexIam
