import HexIam.SessionListing
import HexIam.StatementRules
import Mathlib.Tactic.Ring

/-!
# Listings page by page

`get_all_tenant_policies` and `get_active_sessions` sort by `created_at` alone.
Asked for page by page, they list every matching row once whatever the order of
the rows of one time just when no page ends between two rows of one time.
-/

namespace HexIam

open PagedQuery StatementTree SessionListing
open TenantLists (PaginationInfo)

namespace PagedListings

/-! ## `get_all_tenant_policies` -/

/-- The world and the timestamps of `user_policies`. -/
structure PolicyStore where
  world : World
  createdAt : String × String × String → Option Int
  lastModified : String × String × String → Option Int

/-- The columns a page of policies selects. -/
structure ListedPolicy where
  row : PolicyRow
  createdAt : Option Int
  lastModified : Option Int
  email : String

inductive PolicyPageStmt : Type
  | countTenant (db : Connection)
  | listTenantPaginated (db : Connection) (pageSize offset : Int)
      (rank : PolicyRow → Nat)

@[reducible]
def PolicyPageStmt.Resp : PolicyPageStmt → Type
  | .countTenant _ => Nat
  | .listTenantPaginated .. => List ListedPolicy

namespace PolicyStore

/-- The rows of `user_policies` that the connection sees. -/
def visible (store : PolicyStore) (db : Connection) : List PolicyRow :=
  store.world.userPolicies.select fun row => db.sees row.tenantId

/-- Those of users that it sees. -/
def joined (store : PolicyStore) (db : Connection) : List PolicyRow :=
  store.world.userPolicies.select fun row =>
    db.sees row.tenantId && (store.world.seenUser db row.userId).isSome

/-- `created_at`; NULL comes before every time in a descending order. -/
def sortKey (store : PolicyStore) (row : PolicyRow) : WithTop Int :=
  match store.createdAt row.key with
  | some time => time
  | none => ⊤

def listed (store : PolicyStore) (db : Connection) (row : PolicyRow) :
    ListedPolicy where
  row := row
  createdAt := store.createdAt row.key
  lastModified := store.lastModified row.key
  email := ((store.world.seenUser db row.userId).map UserRow.email).getD ""

end PolicyStore

/-- The answer of a query; neither changes the store. -/
def PolicyPageStmt.perform :
    (stmt : PolicyPageStmt) → PolicyStore → Except Exn stmt.Resp × PolicyStore
  | .countTenant db, store => (.ok (store.visible db).length, store)
  | .listTenantPaginated db pageSize offset rank, store =>
      if pageSize < 0 then
        (.error (.database "LIMIT must not be negative"), store)
      else if offset < 0 then
        (.error (.database "OFFSET must not be negative"), store)
      else
        (.ok ((window (arrange rank store.sortKey (store.joined db)) offset.toNat
          pageSize.toNat).map (store.listed db)), store)

abbrev PolicyCode := StatementTree PolicyPageStmt PolicyPageStmt.Resp Exn

structure TenantPolicyListItemResponse where
  policyId : String
  userId : String
  userEmail : Option String
  tenantId : String
  resource : String
  actions : List String
  conditions : Option (List (String × PyValue))
  createdAt : Option String
  lastModified : Option String

structure TenantPoliciesPageResponse where
  policies : List TenantPolicyListItemResponse
  pagination : PaginationInfo

def ListedPolicy.item (isoformat : Int → String) (listed : ListedPolicy) :
    TenantPolicyListItemResponse where
  policyId := listed.row.policyId
  userId := listed.row.userId
  userEmail := some listed.email
  tenantId := listed.row.tenantId
  resource := listed.row.policy.resource
  actions := listed.row.policy.actions
  conditions := some listed.row.policy.conditions
  createdAt := listed.createdAt.map isoformat
  lastModified := listed.lastModified.map isoformat

def getAllTenantPolicies (isoformat : Int → String) (db : Connection)
    (rank : PolicyRow → Nat) (page pageSize : Int) :
    PolicyCode TenantPoliciesPageResponse := do
  let offset := (page - 1) * pageSize
  let total ← .perform (.countTenant db) .done
  let rows ← .perform (.listTenantPaginated db pageSize offset rank) .done
  return {
    policies := rows.map (ListedPolicy.item isoformat)
    pagination := {
      page := page
      pageSize := pageSize
      totalItems := total
      totalPages := if 0 < pageSize then (total + pageSize - 1) / pageSize else 0 } }

/-! ## Pages of a listing -/

/-- The items of a page and its pagination. -/
abbrev PageResponse (Item : Type) := Except Exn (List Item × PaginationInfo)

/-- Every page is answered, and the pages 1 to `total_pages` have each of the
items once. -/
def ListsOnce {Item : Type} (response : Nat → PageResponse Item)
    (items : List Item) : Prop :=
  ∃ (total : Nat) (parts : Nat → List Item),
    (∀ index, ∃ pagination, response (index + 1) = .ok (parts index, pagination) ∧
      pagination.totalPages = total) ∧
    ((List.range total).flatMap parts).Perm items

section Pages

variable {Row Item : Type} {rows : List Row} {info : Row → Item}

/-- Rows that their items tell apart are permuted when the items are. -/
theorem perm_of_map_perm {others : List Row} (distinct : rows.Nodup)
    (injective : ∀ first ∈ rows, ∀ second ∈ rows,
      info first = info second → first = second)
    (subset : ∀ row ∈ others, row ∈ rows)
    (same : (others.map info).Perm (rows.map info)) : others.Perm rows := by
  have itemsDistinct : (rows.map info).Nodup := distinct.map_on injective
  have othersDistinct : others.Nodup :=
    List.Nodup.of_map info (same.nodup_iff.mpr itemsDistinct)
  refine (List.perm_ext_iff_of_nodup othersDistinct distinct).mpr fun row => ?_
  refine ⟨subset row, fun rowMem => ?_⟩
  obtain ⟨other, otherMem, equal⟩ :=
    List.mem_map.mp (same.mem_iff.mpr (List.mem_map_of_mem rowMem))
  rw [← injective _ (subset _ otherMem) _ rowMem equal]
  exact otherMem

/-- A listing is complete when the windows of its queries are. -/
theorem listsOnce_iff {response : Nat → PageResponse Item} {size count : Nat}
    {lists : Nat → List Row} (distinct : rows.Nodup)
    (injective : ∀ first ∈ rows, ∀ second ∈ rows,
      info first = info second → first = second)
    (perm : ∀ index, (lists index).Perm rows)
    (responds : ∀ index, ∃ pagination, response (index + 1) =
        .ok ((window (lists index) (index * size) size).map info, pagination) ∧
      pagination.totalPages = count) :
    ListsOnce response (rows.map info) ↔ (pages lists size count).Perm rows := by
  have collected : (List.range count).flatMap (fun index =>
      (window (lists index) (index * size) size).map info) =
        (pages lists size count).map info := by
    rw [pages, List.map_flatMap]
  constructor
  · rintro ⟨total, parts, answered, same⟩
    have partsEq (index : Nat) :
        parts index = (window (lists index) (index * size) size).map info := by
      obtain ⟨pagination, responseEq, -⟩ := answered index
      obtain ⟨other, otherEq, -⟩ := responds index
      rw [responseEq] at otherEq
      exact congrArg Prod.fst (Except.ok.inj otherEq)
    have totalEq : total = count := by
      obtain ⟨pagination, responseEq, isTotal⟩ := answered 0
      obtain ⟨other, otherEq, isCount⟩ := responds 0
      rw [responseEq] at otherEq
      obtain rfl : pagination = other := congrArg Prod.snd (Except.ok.inj otherEq)
      exact_mod_cast isTotal.symm.trans isCount
    rw [funext partsEq, totalEq, collected] at same
    refine perm_of_map_perm distinct injective ?_ same
    intro row rowMem
    obtain ⟨index, -, inWindow⟩ := List.mem_flatMap.mp rowMem
    exact (perm index).mem_iff.mp (List.mem_of_mem_drop (List.mem_of_mem_take inWindow))
  · intro same
    refine ⟨count, fun index =>
      (window (lists index) (index * size) size).map info, responds, ?_⟩
    rw [collected]
    exact same.map info

end Pages

theorem totalPages_eq {total size : Nat} (positive : 0 < size) :
    (if 0 < (size : Int) then ((total : Int) + size - 1) / size else 0) =
      (pageCount total size : Int) := by
  have isPositive : 0 < (size : Int) := by exact_mod_cast positive
  rw [if_pos isPositive, pageCount, Int.natCast_ediv]
  congr 1
  omega

theorem offset_eq (index size : Nat) :
    (((index + 1 : Nat) : Int) - 1) * (size : Int) = ((index * size : Nat) : Int) := by
  push_cast
  ring

/-! ## The policies of a tenant -/

section Policies

variable (isoformat : Int → String) (store : PolicyStore) (db : Connection)

/-- The answer to a request for a page, with the ranks of its query. -/
def policyPage (rank : PolicyRow → Nat) (page pageSize : Nat) :
    PageResponse TenantPolicyListItemResponse :=
  (run PolicyPageStmt.perform
    (getAllTenantPolicies isoformat db rank page pageSize) store).1.map fun response =>
      (response.policies, response.pagination)

/-- The item of a row. -/
def policyItem (row : PolicyRow) : TenantPolicyListItemResponse :=
  (store.listed db row).item isoformat

variable {isoformat store db}

theorem policyPage_eq {rank : PolicyRow → Nat} {index size : Nat}
    (positive : 0 < size) :
    ∃ pagination, policyPage isoformat store db rank (index + 1) size =
        .ok ((window (arrange rank store.sortKey (store.joined db)) (index * size)
          size).map (policyItem isoformat store db), pagination) ∧
      pagination.totalPages = pageCount (store.visible db).length size := by
  refine ⟨⟨(index + 1 : Nat), size, (store.visible db).length, _⟩, ?_,
    totalPages_eq positive⟩
  have sizeOk : ¬ (size : Int) < 0 := by omega
  have offsetOk : ¬ ((index * size : Nat) : Int) < 0 := by omega
  simp only [policyPage, getAllTenantPolicies, offset_eq, PolicyPageStmt.perform,
    bind_perform, bind_ok, run_perform, sizeOk, offsetOk, if_false, pure_eq, run_done,
    Int.toNat_natCast, List.map_map]
  rfl

theorem joined_nodup : (store.joined db).Nodup :=
  (List.Nodup.of_map PolicyRow.key store.world.userPolicies.distinct).filter _

theorem policyItem_injective :
    ∀ first ∈ store.joined db, ∀ second ∈ store.joined db,
      policyItem isoformat store db first = policyItem isoformat store db second →
        first = second := by
  intro first firstMem second secondMem same
  refine KeyedTable.eq_of_key_eq (KeyedTable.mem_select.mp firstMem).1
    (KeyedTable.mem_select.mp secondMem).1 ?_
  have policyId := congrArg TenantPolicyListItemResponse.policyId same
  have userId := congrArg TenantPolicyListItemResponse.userId same
  have tenantId := congrArg TenantPolicyListItemResponse.tenantId same
  exact Prod.ext tenantId (Prod.ext userId policyId)

theorem joined_length_le : (store.joined db).length ≤ (store.visible db).length := by
  have within : (store.joined db).Sublist (store.visible db) := by
    refine List.monotone_filter_right _ fun row shown => ?_
    exact (Bool.and_eq_true_iff.mp shown).1
  exact within.length_le

/-- The policies of a tenant are listed once whatever the ranks just when no
page ends between two policies of one time. -/
theorem policies_complete_iff {size : Nat} (positive : 0 < size) :
    (∀ ranks : Nat → PolicyRow → Nat,
        ListsOnce (fun page => policyPage isoformat store db (ranks page) page size)
          ((store.joined db).map (policyItem isoformat store db))) ↔
      Separated store.sortKey size (store.joined db) := by
  have enough : (store.joined db).length ≤
      pageCount (store.visible db).length size * size :=
    joined_length_le.trans (le_pageCount_mul positive)
  rw [← complete_iff_ranks joined_nodup enough]
  have listed (ranks : Nat → PolicyRow → Nat) :
      ListsOnce (fun page => policyPage isoformat store db (ranks page) page size)
          ((store.joined db).map (policyItem isoformat store db)) ↔
        (pages (fun index =>
            arrange (ranks (index + 1)) store.sortKey (store.joined db)) size
          (pageCount (store.visible db).length size)).Perm (store.joined db) :=
    listsOnce_iff joined_nodup policyItem_injective
      (fun index => arrange_perm _ _ _) fun index => policyPage_eq positive
  constructor
  · exact fun complete ranks =>
      (listed fun page => ranks (page - 1)).mp (complete fun page => ranks (page - 1))
  · exact fun complete ranks =>
      (listed ranks).mpr (complete fun index => ranks (index + 1))

end Policies

/-! ## The sessions of a user -/

/-- What the database chooses for one page: the ranks of the rows, and the times
of the two statements. -/
structure SessionQueries where
  rank : SessionRow → Nat
  countTime : Int
  listTime : Int

/-- Each statement runs at the next time. -/
def timed (deployment : Deployment) (stmt : StoreStmt) :
    SessionStore × List Int → Except Exn stmt.Resp × SessionStore × List Int
  | (store, []) =>
      let outcome := stmt.perform deployment store
      (outcome.1, outcome.2, [])
  | (store, time :: later) =>
      let outcome := stmt.perform deployment
        { store with world := { store.world with now := time } }
      (outcome.1, outcome.2, later)

section Sessions

variable (deployment : Deployment) (isoformat : Int → String) (store : SessionStore)
variable (userId tenantId : String)

/-- The answer to a request for a page. -/
def sessionPage (queries : SessionQueries) (page pageSize : Nat) :
    PageResponse SessionInfo :=
  (run (timed deployment)
    (getActiveSessions isoformat queries.rank userId tenantId page pageSize)
    (store, [queries.countTime, queries.listTime])).1.map fun response =>
      (response.sessions, response.pagination)

/-- The sessions that match at a time. -/
def matchingAt (time : Int) : List SessionRow :=
  SessionStore.activeOf { store with world := { store.world with now := time } }
    userId tenantId

/-- No session expires between the queries. -/
def Steady (queries : SessionQueries) : Prop :=
  matchingAt store userId tenantId queries.countTime =
      store.activeOf userId tenantId ∧
    matchingAt store userId tenantId queries.listTime =
      store.activeOf userId tenantId

/-- The column that a page sorts by. -/
def sessionKey (row : SessionRow) : Int :=
  store.createdAt row.jti

variable {deployment isoformat store userId tenantId}

theorem sessionPage_eq {queries : SessionQueries} {index size : Nat}
    (positive : 0 < size) (steady : Steady store userId tenantId queries) :
    ∃ pagination,
      sessionPage deployment isoformat store userId tenantId queries (index + 1) size =
        .ok ((window (arrange queries.rank (sessionKey store)
          (store.activeOf userId tenantId)) (index * size) size).map
            fun row => (store.listed row).info isoformat, pagination) ∧
      pagination.totalPages =
        pageCount (store.activeOf userId tenantId).length size := by
  obtain ⟨countSame, listSame⟩ := steady
  refine ⟨⟨(index + 1 : Nat), size, (store.activeOf userId tenantId).length, _⟩, ?_,
    totalPages_eq positive⟩
  have sizeOk : ¬ (size : Int) < 0 := by omega
  have offsetOk : ¬ ((index * size : Nat) : Int) < 0 := by omega
  simp only [matchingAt] at countSame listSame
  simp only [sessionPage, getActiveSessions, send, timed, offset_eq, StoreStmt.perform,
    bind_perform, bind_ok, run_perform, sizeOk, offsetOk, if_false, pure_eq, run_done,
    Int.toNat_natCast, List.map_map, countSame, listSame]
  rfl

theorem activeOf_nodup : (store.activeOf userId tenantId).Nodup :=
  (List.Nodup.of_map SessionRow.jti store.world.userSessions.distinct).filter _

theorem sessionInfo_injective :
    ∀ first ∈ store.activeOf userId tenantId, ∀ second ∈ store.activeOf userId tenantId,
      (store.listed first).info isoformat = (store.listed second).info isoformat →
        first = second := by
  intro first firstMem second secondMem same
  exact KeyedTable.eq_of_key_eq (KeyedTable.mem_select.mp firstMem).1
    (KeyedTable.mem_select.mp secondMem).1 (congrArg SessionInfo.jti same)

/-- The sessions of a user are listed once whatever the ranks just when no page
ends between two sessions of one time. -/
theorem sessions_complete_iff {size : Nat} (positive : 0 < size) :
    (∀ queries : Nat → SessionQueries,
        (∀ page, Steady store userId tenantId (queries page)) →
        ListsOnce (fun page => sessionPage deployment isoformat store userId tenantId
            (queries page) page size)
          ((store.activeOf userId tenantId).map
            fun row => (store.listed row).info isoformat)) ↔
      Separated (sessionKey store) size (store.activeOf userId tenantId) := by
  rw [← complete_iff_ranks activeOf_nodup (le_pageCount_mul positive)]
  have listed (queries : Nat → SessionQueries)
      (steady : ∀ page, Steady store userId tenantId (queries page)) :
      ListsOnce (fun page => sessionPage deployment isoformat store userId tenantId
            (queries page) page size)
          ((store.activeOf userId tenantId).map
            fun row => (store.listed row).info isoformat) ↔
        (pages (fun index => arrange (queries (index + 1)).rank
            (sessionKey store) (store.activeOf userId tenantId)) size
          (pageCount (store.activeOf userId tenantId).length size)).Perm
            (store.activeOf userId tenantId) :=
    listsOnce_iff activeOf_nodup sessionInfo_injective
      (fun index => arrange_perm _ _ _)
      fun index => sessionPage_eq positive (steady (index + 1))
  constructor
  · intro complete ranks
    let queries (page : Nat) : SessionQueries :=
      ⟨ranks (page - 1), store.world.now, store.world.now⟩
    have steady (page : Nat) : Steady store userId tenantId (queries page) := ⟨rfl, rfl⟩
    exact (listed queries steady).mp (complete queries steady)
  · exact fun complete queries steady =>
      (listed queries steady).mpr (complete fun index => (queries (index + 1)).rank)

end Sessions

/-! ## The result -/

/-- Both listings are complete, whatever order the database gives to rows of one
time, just when no page ends between two such rows. -/
theorem listings_complete_iff (deployment : Deployment) (isoformat : Int → String)
    (size : Nat) (positive : 0 < size) :
    (∀ (store : PolicyStore) (db : Connection),
      (∀ ranks : Nat → PolicyRow → Nat,
          ListsOnce (fun page => policyPage isoformat store db (ranks page) page size)
            ((store.joined db).map (policyItem isoformat store db))) ↔
        Separated store.sortKey size (store.joined db)) ∧
    ∀ (store : SessionStore) (userId tenantId : String),
      (∀ queries : Nat → SessionQueries,
          (∀ page, Steady store userId tenantId (queries page)) →
          ListsOnce (fun page => sessionPage deployment isoformat store userId
              tenantId (queries page) page size)
            ((store.activeOf userId tenantId).map
              fun row => (store.listed row).info isoformat)) ↔
        Separated (sessionKey store) size (store.activeOf userId tenantId) :=
  ⟨fun _ _ => policies_complete_iff positive,
    fun _ _ _ => sessions_complete_iff positive⟩

/-! ## Two policies of one time -/

/-- A policy of the user `u`. -/
def policyOf (policyId : String) : PolicyRow :=
  ⟨"t", "u", policyId, ⟨"files", ["read"], []⟩⟩

/-- A user with two policies from one bulk assignment. -/
def bulkAssigned : PolicyStore where
  world := {
    tenants := ⟨[{ id := "t" }], by decide⟩
    users := ⟨[⟨"u", "t", "u@t", "", "", "", none, true, true, 0⟩], by decide⟩
    userPolicies := ⟨[policyOf "p", policyOf "q"], by decide⟩ }
  createdAt _ := some 0
  lastModified _ := some 0

/-- The order of the first page has `p` first, the others have `q` first. -/
def turnedRanks (page : Nat) (row : PolicyRow) : Nat :=
  if (page = 1) = (row.policyId = "p") then 0 else 1

theorem joined_bulkAssigned :
    bulkAssigned.joined (.forTenant "t") = [policyOf "p", policyOf "q"] :=
  rfl

theorem arrange_bulkAssigned {page : Nat} :
    arrange (turnedRanks page) bulkAssigned.sortKey
        (bulkAssigned.joined (.forTenant "t")) =
      if page = 1 then [policyOf "p", policyOf "q"]
      else [policyOf "q", policyOf "p"] := by
  have same (first second : PolicyRow) :
      bulkAssigned.sortKey first = bulkAssigned.sortKey second := rfl
  have rankP : turnedRanks page (policyOf "p") = if page = 1 then 0 else 1 := by
    simp [turnedRanks, policyOf]
  have rankQ : turnedRanks page (policyOf "q") = if page = 1 then 1 else 0 := by
    simp [turnedRanks, policyOf]
  rw [joined_bulkAssigned]
  by_cases first : page = 1
  · rw [if_pos first]
    refine arrange_eq (.refl _) (List.pairwise_pair.mpr (.inr ⟨same _ _, ?_⟩))
    rw [rankP, rankQ, if_pos first, if_pos first]
    exact Nat.one_pos
  · rw [if_neg first]
    refine arrange_eq (.swap _ _ _) (List.pairwise_pair.mpr (.inr ⟨same _ _, ?_⟩))
    rw [rankP, rankQ, if_neg first, if_neg first]
    exact Nat.one_pos

/-- Of the two policies `p` is on both pages and `q` on none. -/
theorem bulkAssigned_incomplete :
    (bulkAssigned.visible (.forTenant "t")).length = 2 ∧
      ¬ ListsOnce (fun page => policyPage (fun _ => "") bulkAssigned (.forTenant "t")
          (turnedRanks page) page 1)
        ((bulkAssigned.joined (.forTenant "t")).map
          (policyItem (fun _ => "") bulkAssigned (.forTenant "t"))) := by
  refine ⟨rfl, fun listsOnce => ?_⟩
  have complete : (pages (fun index =>
      arrange (turnedRanks (index + 1)) bulkAssigned.sortKey
        (bulkAssigned.joined (.forTenant "t"))) 1 2).Perm
          (bulkAssigned.joined (.forTenant "t")) :=
    (listsOnce_iff joined_nodup policyItem_injective
      (fun index => arrange_perm _ _ _)
      fun index => policyPage_eq Nat.one_pos).mp listsOnce
  have missing : policyOf "q" ∈ pages (fun index =>
      arrange (turnedRanks (index + 1)) bulkAssigned.sortKey
        (bulkAssigned.joined (.forTenant "t"))) 1 2 :=
    complete.mem_iff.mpr (by simp [joined_bulkAssigned])
  simp [pages, List.range_succ, window, arrange_bulkAssigned, policyOf] at missing

/-- With pages of two nothing is cut. -/
theorem bulkAssigned_pages_of_two :
    bulkAssigned.world.userPolicies.rows.length = 2 ∧
      ((∀ ranks : Nat → PolicyRow → Nat,
          ListsOnce (fun page => policyPage (fun _ => "") bulkAssigned
              (.forTenant "t") (ranks page) page 2)
            ((bulkAssigned.joined (.forTenant "t")).map
              (policyItem (fun _ => "") bulkAssigned (.forTenant "t")))) ↔
        Separated bulkAssigned.sortKey 2 (bulkAssigned.joined (.forTenant "t"))) :=
  ⟨rfl, (listings_complete_iff (Deployment.plain []) (fun _ => "") 2
    (by decide)).1 bulkAssigned (.forTenant "t")⟩

end PagedListings

end HexIam
