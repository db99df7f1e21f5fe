import HexIam.GuardedRun
import HexIam.PagedQuery
import HexIam.TenantLists
import Mathlib.Tactic.Ring

/-!
# Pages of policy templates

The list behind `get_tenant_policy_templates` is read from the database or from
the JSON text that an earlier request stored in Redis for half a minute.  Over
connections that are set to the tenant both give the same list, so its pages put
the list together whatever each of them was cut from.  A request over another
tenant's connection finds no templates, and stores an empty list.
-/

namespace HexIam

open GuardedRun PagedQuery StatementTree TenantLists

namespace TemplatePages

/-! ## JSON -/

/-- orjson: a text that `dumps` returns is not empty, and `loads` reads the
value back. -/
structure Orjson where
  dumps : PyValue → Except Exn String
  loads : (text : String) → Except Exn PyValue
  loads_dumps : ∀ value text, dumps value = .ok text →
    filled text = true ∧ loads text = .ok value

def optionalText : Option String → PyValue
  | none => .none
  | some text => .text text

/-- An entry of `templates`. -/
def document (item : TemplateItem) : PyValue :=
  .dict [
    ("id", .text item.id), ("tenant_id", .text item.tenantId),
    ("policies", .dict item.policies), ("roles", .list (item.roles.map .text)),
    ("created_at", optionalText item.createdAt),
    ("last_modified", optionalText item.lastModified)]

/-- A list of the tenant as it is dumped. -/
def listDocument (items : List TemplateItem) : PyValue :=
  .list (items.map document)

def asText : PyValue → Except Exn String
  | .text text => .ok text
  | _ => .error (.other "TypeError")

def asOptionalText : PyValue → Except Exn (Option String)
  | .none => .ok none
  | value => (asText value).map some

def asDict : PyValue → Except Exn (List (String × PyValue))
  | .dict fields => .ok fields
  | _ => .error (.other "TypeError")

def asList : PyValue → Except Exn (List PyValue)
  | .list items => .ok items
  | _ => .error (.other "TypeError")

/-- `PolicyTemplateResponse` of a dictionary of the list. -/
def readItem (value : PyValue) : Except Exn TemplateItem := do
  let template ← asDict value
  let id ← asText (PyValue.get template "id")
  let tenantId ← asText (PyValue.get template "tenant_id")
  let policies ← asDict (PyValue.get template "policies")
  let roles ← asList (PyValue.orElse (PyValue.get template "roles") (.list []))
  let roles ← roles.mapM asText
  let createdAt ← asOptionalText (PyValue.get template "created_at")
  let lastModified ← asOptionalText (PyValue.get template "last_modified")
  return ⟨id, tenantId, policies, roles, createdAt, lastModified⟩

def readList (value : PyValue) : Except Exn (List TemplateItem) := do
  let templates ← asList value
  templates.mapM readItem

theorem mapM_map_ok {α β : Type} {write : α → β} {read : β → Except Exn α}
    (reads : ∀ item, read (write item) = .ok item) (items : List α) :
    (items.map write).mapM read = .ok items := by
  induction items with
  | nil => rfl
  | cons item rest ih =>
      rw [List.map_cons, List.mapM_cons, reads, ih]
      rfl

theorem asOptionalText_optionalText (text : Option String) :
    asOptionalText (optionalText text) = .ok text := by
  cases text <;> rfl

/-- An empty list of roles is read back by the default. -/
theorem orElse_list (items : List PyValue) :
    PyValue.orElse (.list items) (.list []) = .list items := by
  cases items <;> rfl

theorem readItem_document (item : TemplateItem) :
    readItem (document item) = .ok item := by
  have roles : (item.roles.map PyValue.text).mapM asText = .ok item.roles :=
    @mapM_map_ok _ _ PyValue.text asText (fun _ => rfl) item.roles
  simp only [readItem, document, asDict, PyValue.get, List.find?_cons_of_pos,
    List.find?_cons_of_neg, decide_true, decide_false, bind, Except.bind,
    Option.map_some, Option.getD_some, asText, String.reduceEq, Bool.false_eq_true,
    not_false_eq_true, orElse_list, asList, asOptionalText_optionalText]
  rw [roles]
  rfl

theorem readList_listDocument (items : List TemplateItem) :
    readList (listDocument items) = .ok items :=
  mapM_map_ok readItem_document items

/-! ## Runs -/

/-- The rows of the tenant, and the text under `policy_templates:{tenant_id}`. -/
structure TemplateStore where
  world : ListWorld
  text : Option String

/-- The list that a text of Redis holds. -/
def readText (orjson : Orjson) (text : String) :
    Except Exn (Option (List TemplateItem)) :=
  if filled text then do
    let value ← orjson.loads text
    let items ← readList value
    return some items
  else .ok none

/-- The statements of `TenantLists`, with the list of templates kept as text. -/
def perform (orjson : Orjson) :
    (stmt : ListStmt) → TemplateStore → Except Exn stmt.Resp × TemplateStore
  | .get .policyTemplates, store =>
      (match store.text with
        | none => .ok none
        | some text => readText orjson text, store)
  | .setex .policyTemplates items, store =>
      match orjson.dumps (listDocument items) with
      | .ok text => (.ok (), { store with text := some text })
      | .error error => (.error error, store)
  | .delete .policyTemplates, store => (.ok (), { store with text := none })
  | stmt, store =>
      let outcome := store.world.perform stmt
      (outcome.1, { store with world := outcome.2 })

/-- A request for a page over a connection, or the end of the half minute. -/
inductive PageEvent : Type
  | request (db : Connection) (redisConn : Bool) (page pageSize : Int)
  | expire
  deriving DecidableEq, Repr

/-- The connection of a request is set to the tenant. -/
def PageEvent.SeesTenant (tenantId : String) : PageEvent → Prop
  | .request db _ _ _ => db.sees tenantId = true
  | .expire => True

section Runs

variable (orjson : Orjson) (isoformat : Int → String)

/-- The answer to a request, and the store after it. -/
def serve (store : TemplateStore) (db : Connection) (redisConn : Bool)
    (page pageSize : Int) : Except Exn PolicyTemplateListResponse × TemplateStore :=
  run (perform orjson)
    (getTenantPolicyTemplates isoformat db redisConn page pageSize) store

def step (store : TemplateStore) : PageEvent → Option TemplateStore
  | .request db redisConn page pageSize =>
      some (serve orjson isoformat store db redisConn page pageSize).2
  | .expire => some { store with text := none }

/-- A page of a list. -/
def templatePage (templates : List TemplateItem) (page pageSize : Int) :
    PolicyTemplateListResponse :=
  let offset := (page - 1) * pageSize
  { templates := slice templates offset (offset + pageSize)
    pagination := {
      page := page
      pageSize := pageSize
      totalItems := templates.length
      totalPages := if 0 < pageSize then
        (templates.length + pageSize - 1) / pageSize else 0 } }

/-- The rows are those of `world`, and Redis has nothing or their list. -/
structure Kept (world : ListWorld) (store : TemplateStore) : Prop where
  rows : store.world = world
  copy : ∀ text, store.text = some text →
    orjson.dumps (listDocument (world.listed isoformat .policyTemplates)) = .ok text

variable {orjson isoformat} {world : ListWorld} {store : TemplateStore}
variable {db : Connection}

theorem readText_dumps {items : List TemplateItem} {text : String}
    (dumped : orjson.dumps (listDocument items) = .ok text) :
    readText orjson text = .ok (some items) := by
  obtain ⟨isFilled, loaded⟩ := orjson.loads_dumps _ _ dumped
  rw [readText, if_pos isFilled, loaded]
  change (do
    let items ← readList (listDocument items)
    return some items) = Except.ok (some items)
  rw [readList_listDocument]
  rfl

theorem run_allTemplates (redisConn : Bool) {text : String}
    (sees : db.sees world.tenantId = true) (kept : Kept orjson isoformat world store)
    (dumped : orjson.dumps
      (listDocument (world.listed isoformat .policyTemplates)) = .ok text) :
    ∃ after, run (perform orjson) (allTemplates isoformat db redisConn) store =
        (.ok (world.listed isoformat .policyTemplates), after) ∧
      Kept orjson isoformat world after := by
  obtain ⟨held, cached⟩ := store
  obtain ⟨rfl, copy⟩ := kept
  have seen : held.seenTemplates db = held.listTemplates := if_pos sees
  cases redisConn with
  | false =>
      refine ⟨⟨held, cached⟩, ?_, rfl, copy⟩
      simp only [allTemplates, cachedList, ifRedis, send, Bool.false_eq_true, if_false,
        bind_perform, bind_ok, run_perform, perform, ListWorld.perform, seen, pure_eq,
        run_done, ListWorld.listed]
  | true =>
      cases cached with
      | some found =>
          have answered := readText_dumps (copy found rfl)
          refine ⟨⟨held, some found⟩, ?_, rfl, copy⟩
          simp only [allTemplates, cachedList, send, if_true, bind_perform, bind_ok,
            run_perform, perform, answered, pure_eq, run_done]
      | none =>
          refine ⟨⟨held, some text⟩, ?_, rfl, fun other same => ?_⟩
          · have stored : orjson.dumps (listDocument (held.listTemplates.map
                (TemplateRecord.item isoformat))) = .ok text := dumped
            simp only [allTemplates, cachedList, ifRedis, send, if_true, bind_perform,
              bind_ok, run_perform, perform, ListWorld.perform, seen, stored, pure_eq,
              run_done, ListWorld.listed]
          · cases same
            exact dumped

theorem serve_eq (redisConn : Bool) (page pageSize : Int) {text : String}
    (sees : db.sees world.tenantId = true) (kept : Kept orjson isoformat world store)
    (dumped : orjson.dumps
      (listDocument (world.listed isoformat .policyTemplates)) = .ok text) :
    ∃ after, serve orjson isoformat store db redisConn page pageSize =
        (.ok (templatePage (world.listed isoformat .policyTemplates) page pageSize),
          after) ∧
      Kept orjson isoformat world after := by
  obtain ⟨after, ran, keptAfter⟩ := run_allTemplates redisConn sees kept dumped
  refine ⟨after, ?_, keptAfter⟩
  rw [serve, getTenantPolicyTemplates, run_bind_of_ok _ ran]
  rfl

end Runs

/-! ## Pages -/

/-- The pages of one size put the list together: each but the last is full, the
last has an item when the list has, and there is nothing after it. -/
def Partition (answer : Nat → PolicyTemplateListResponse)
    (items : List TemplateItem) (size : Nat) : Prop :=
  ∃ total : Nat, (∀ page, (answer page).pagination.totalPages = total) ∧
    ((List.range total).flatMap fun index => (answer (index + 1)).templates) = items ∧
    (∀ page, 1 ≤ page → page < total → (answer page).templates.length = size) ∧
    (items ≠ [] → 1 ≤ total ∧ (answer total).templates ≠ []) ∧
    ∀ page, total < page → (answer page).templates = []

section Pages

variable {items : List TemplateItem} {size : Nat}

theorem templates_templatePage (index : Nat) :
    (templatePage items (index + 1 : Nat) size).templates =
      window items (index * size) size := by
  have offsetEq : (((index + 1 : Nat) : Int) - 1) * size = (index * size : Nat) := by
    push_cast
    ring
  have notNegative : ¬ ((index * size : Nat) : Int) < 0 := by omega
  have endNotNegative : ¬ ((index * size : Nat) : Int) + size < 0 := by omega
  simp only [templatePage, slice, offsetEq, notNegative, endNotNegative, if_false]
  have endEq : ((index * size : Nat) + (size : Int)).toNat = index * size + size := by
    omega
  rw [endEq, Int.toNat_natCast, window, List.drop_take, Nat.add_sub_cancel_left]

theorem totalPages_templatePage (positive : 0 < size) (page : Int) :
    (templatePage items page size).pagination.totalPages =
      pageCount items.length size := by
  have isPositive : 0 < (size : Int) := by exact_mod_cast positive
  simp only [templatePage, if_pos isPositive, pageCount]
  rw [Int.natCast_ediv]
  congr 1
  omega

theorem length_templatePage (index : Nat) :
    (templatePage items (index + 1 : Nat) size).templates.length =
      min size (items.length - index * size) := by
  rw [templates_templatePage, length_window]

theorem partition_templatePage (items : List TemplateItem) (positive : 0 < size) :
    Partition (fun page => templatePage items page size) items size := by
  have enough : items.length ≤ pageCount items.length size * size :=
    le_pageCount_mul positive
  refine ⟨pageCount items.length size, fun page => totalPages_templatePage positive page,
    ?whole, ?full, ?last, ?beyond⟩
  case whole =>
    simp only [templates_templatePage]
    have whole := pages_const items size (pageCount items.length size)
    rw [List.take_of_length_le enough] at whole
    exact whole
  case full =>
    intro page one before
    obtain ⟨index, rfl⟩ := Nat.exists_eq_add_of_le' one
    have inside := mul_lt_of_lt_pageCount before
    rw [Nat.succ_mul] at inside
    rw [length_templatePage]
    omega
  case last =>
    intro isFilled
    have hasItem := List.length_pos_iff.mpr isFilled
    obtain ⟨index, totalEq⟩ : ∃ index, pageCount items.length size = index + 1 := by
      refine Nat.exists_eq_add_one.mpr (Nat.pos_of_ne_zero fun none => ?_)
      rw [none] at enough
      omega
    refine ⟨by omega, List.ne_nil_of_length_pos ?_⟩
    have below : index < pageCount items.length size := by omega
    have inside := mul_lt_of_lt_pageCount below
    rw [totalEq, length_templatePage]
    omega
  case beyond =>
    intro page after
    obtain ⟨index, rfl⟩ : ∃ index, page = index + 1 := ⟨page - 1, by omega⟩
    have past := Nat.mul_le_mul_right size (Nat.le_of_lt_succ after)
    rw [← List.length_eq_zero_iff, length_templatePage]
    omega

end Pages

/-! ## The result -/

/-- In every state of a run over connections that are set to the tenant, every page
is the one of the list of the rows, and these pages put it together. -/
theorem template_pages_partition (orjson : Orjson) (isoformat : Int → String)
    (world : ListWorld) (events : List PageEvent)
    (own : ∀ event ∈ events, event.SeesTenant world.tenantId)
    (serializes : ∃ text, orjson.dumps
      (listDocument (world.listed isoformat .policyTemplates)) = .ok text) :
    Always (step orjson isoformat)
        (fun store => ∀ db redisConn page pageSize, db.sees world.tenantId = true →
          (serve orjson isoformat store db redisConn page pageSize).1 =
            .ok (templatePage (world.listed isoformat .policyTemplates) page pageSize))
        ⟨world, none⟩ events ∧
      ∀ size : Nat, 0 < size → Partition
        (fun page => templatePage (world.listed isoformat .policyTemplates) page size)
        (world.listed isoformat .policyTemplates) size := by
  obtain ⟨text, dumped⟩ := serializes
  refine ⟨?_, fun size positive => partition_templatePage _ positive⟩
  have always : Always (step orjson isoformat) (Kept orjson isoformat world)
      ⟨world, none⟩ events := by
    refine always_of_along ?keeps ⟨rfl, nofun⟩
      (along_and own (along_of_forall (fun _ _ => trivial) _ _))
    intro store event next kept condition stepEq
    cases event with
    | request db redisConn page pageSize =>
        obtain ⟨after, served, keptAfter⟩ :=
          serve_eq redisConn page pageSize condition.1 kept dumped
        rw [step, served] at stepEq
        cases stepEq
        exact keptAfter
    | expire =>
        cases stepEq
        exact ⟨kept.rows, nofun⟩
  refine always_mono (fun store kept db redisConn page pageSize sees => ?_) always
  obtain ⟨after, served, -⟩ := serve_eq redisConn page pageSize sees kept dumped
  rw [served]

/-! ## One template -/

def readerText : String :=
  "[\x7b\"id\":\"p\",\"tenant_id\":\"t\",\"policies\":\x7b\"resource\":\"files\"\x7d," ++
    "\"roles\":[\"reader\"],\"created_at\":null,\"last_modified\":null\x7d]"

def readerDocument : PyValue :=
  .list [.dict [
    ("id", .text "p"), ("tenant_id", .text "t"),
    ("policies", .dict [("resource", .text "files")]),
    ("roles", .list [.text "reader"]), ("created_at", .none),
    ("last_modified", .none)]]

/-- orjson on the list of one template and on the empty list. -/
def readerOrjson : Orjson where
  dumps
    | .list [] => .ok "[]"
    | .list [.dict [
        ("id", .text "p"), ("tenant_id", .text "t"),
        ("policies", .dict [("resource", .text "files")]),
        ("roles", .list [.text "reader"]), ("created_at", .none),
        ("last_modified", .none)]] => .ok readerText
    | _ => .error (.other "JSONEncodeError")
  loads text :=
    if text = "[]" then .ok (.list [])
    else if text = readerText then .ok readerDocument
    else .error (.other "JSONDecodeError")
  loads_dumps := by
    intro value text dumped
    split at dumped
    · cases dumped
      exact ⟨rfl, if_pos rfl⟩
    · cases dumped
      exact ⟨rfl, rfl⟩
    · cases dumped

/-- A tenant with one template. -/
def readerWorld : ListWorld where
  tenantId := "t"
  now := 0
  templates :=
    .single ⟨⟨"p", "t", [("resource", .text "files")], ["reader"]⟩, none, none⟩
  providers := .empty

def readerItem : TemplateItem :=
  ⟨"p", "t", [("resource", .text "files")], ["reader"], none, none⟩

theorem listed_readerWorld :
    readerWorld.listed (fun _ => "") .policyTemplates = [readerItem] := by
  simp [ListWorld.listed, ListWorld.listTemplates, readerWorld, KeyedTable.select,
    TemplateRecord.item, readerItem]

/-- The first page is read from the database and from Redis. -/
theorem template_pages_partition_reader :
    ∃ store, exec (step readerOrjson fun _ => "") ⟨readerWorld, none⟩
        [.request (.forTenant "t") true 1 1] = some store ∧
      (serve readerOrjson (fun _ => "") store (.forTenant "t") true 1 1).1 =
        .ok (templatePage [readerItem] 1 1) ∧
      Partition (fun page => templatePage [readerItem] page 1) [readerItem] 1 := by
  have serializes : ∃ text, readerOrjson.dumps
      (listDocument (readerWorld.listed (fun _ => "") .policyTemplates)) = .ok text := by
    rw [listed_readerWorld]
    exact ⟨readerText, rfl⟩
  have own : ∀ event ∈ [PageEvent.request (.forTenant "t") true 1 1],
      event.SeesTenant readerWorld.tenantId :=
    List.forall_mem_singleton.mpr rfl
  obtain ⟨always, partition⟩ :=
    template_pages_partition readerOrjson (fun _ => "") readerWorld _ own serializes
  rw [listed_readerWorld] at always partition
  have runs : exec (step readerOrjson fun _ => "") ⟨readerWorld, none⟩
      [.request (.forTenant "t") true 1 1] = some _ := rfl
  exact ⟨_, runs, (always_iff.mp always _ [] _ (List.append_nil _).symm runs)
    (.forTenant "t") true 1 1 rfl, partition 1 Nat.one_pos⟩

/-- After a request over another tenant's connection the first page is empty. -/
theorem other_connection_empties_page :
    ∃ store, exec (step readerOrjson fun _ => "") ⟨readerWorld, none⟩
        [.request (.forTenant "u") true 1 1] = some store ∧
      (serve readerOrjson (fun _ => "") store (.forTenant "t") true 1 1).1 =
        .ok (templatePage [] 1 1) ∧
      readerWorld.listed (fun _ => "") .policyTemplates = [readerItem] :=
  ⟨⟨readerWorld, some "[]"⟩, rfl, rfl, listed_readerWorld⟩

end TemplatePages

end HexIam
