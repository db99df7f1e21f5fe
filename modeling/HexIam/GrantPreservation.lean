import HexIam.GrantHistory

/-!
# What a refreshed grant keeps

A code grant or a token exchange issues an access token with the user, the
tenant, the client and the scope of the grant, and a refresh token.  Each later
refresh reads the user, the tenant and the client from the row of the token it
presents, and these survive any number of refreshes.  The scope is handed to
`create_refresh_token`, which does not store it, and no refreshed access token
has one.
-/

namespace HexIam

open StatementTree CallPool GuardedRun GrantHistory
open TokenCalls (TokenCall TokenPool)

namespace GrantPreservation

/-! ## Chains -/

/-- The second answer comes from the first by this many refreshes: each request
presents the refresh token of the answer before it. -/
inductive Chain (pool : TokenPool) (first : TokenData) : Nat → TokenData → Prop
  | grant {call : TokenCall} (answered : Answered pool call first)
      (starts : Starts call) : Chain pool first 0 first
  | refresh {length : Nat} {older newer : TokenData} {call : TokenCall}
      {jti : String} (chain : Chain pool first length older)
      (answered : Answered pool call newer)
      (asks : AsksFor call "refresh_token")
      (issued : older.refreshToken = some jti)
      (presents : call.field "refresh_token" = .text jti) :
      Chain pool first (length + 1) newer

/-- Two access tokens are for one user, tenant and client. -/
structure SameOwner (first second : Claims) : Prop where
  userId : second.userId = first.userId
  tenantId : second.tenantId = first.tenantId
  aud : second.aud = first.aud

/-- Two access tokens carry the same grant. -/
structure SameGrant (first second : Claims) : Prop extends
    SameOwner first second where
  scope : second.scope = first.scope

theorem SameOwner.trans {first second third : Claims}
    (before : SameOwner first second) (after : SameOwner second third) :
    SameOwner first third :=
  ⟨after.userId.trans before.userId, after.tenantId.trans before.tenantId,
    after.aud.trans before.aud⟩

/-! ## Links -/

section Links

variable {deployment : Deployment} {pool : TokenPool} {call : TokenCall}
variable {data older newer : TokenData} {jti : String}

theorem asksFor_unique {first second : String} (asksFirst : AsksFor call first)
    (asksSecond : AsksFor call second) : first = second := by
  have named := ClientAuthentication.isText_iff.mp asksFirst
  have again := ClientAuthentication.isText_iff.mp asksSecond
  exact PyValue.text.inj (named.symm.trans again)

/-- The row of an issued refresh token belongs to the user, tenant and client
of the access token beside it. -/
theorem inserted_of_answered (kept : Kept deployment pool)
    (answered : Answered pool call data) (issued : data.refreshToken = some jti) :
    ∃ id held row, pool.Holds id held ∧ Inserted held.log data row ∧
      row.jti = jti := by
  obtain ⟨-, id, held, holds, source⟩ := kept.source answered
  have sameJti {row : RefreshTokenRow} (inserted : Inserted held.log data row) :
      row.jti = jti :=
    Option.some.inj (inserted.refreshToken.symm.trans issued)
  cases source with
  | first row starts inserted scope =>
      exact ⟨id, held, row, holds, inserted, sameJti inserted⟩
  | refreshed row old asks presents selected inserted user tenant client scope =>
      exact ⟨id, held, row, holds, inserted, sameJti inserted⟩
  | client asks refreshToken => simp [refreshToken] at issued

/-- A first grant gives a scope. -/
theorem scope_of_starts (kept : Kept deployment pool)
    (answered : Answered pool call data) (starts : Starts call) :
    data.accessToken.payload.scope.isSome = true := by
  obtain ⟨-, id, held, holds, source⟩ := kept.source answered
  cases source with
  | first row starts inserted scope => exact scope
  | refreshed row old asks presents selected inserted user tenant client scope =>
      rcases starts with other | other <;>
        exact absurd (asksFor_unique other asks) (by decide)
  | client asks refreshToken =>
      rcases starts with other | other <;>
        exact absurd (asksFor_unique other asks) (by decide)

theorem sameOwner_of_refresh (kept : Kept deployment pool) {before : TokenCall}
    (answeredOlder : Answered pool before older)
    (issued : older.refreshToken = some jti)
    (answered : Answered pool call newer) (asks : AsksFor call "refresh_token")
    (presents : call.field "refresh_token" = .text jti) :
    SameOwner older.accessToken.payload newer.accessToken.payload ∧
      newer.accessToken.payload.scope = none := by
  obtain ⟨first, firstCall, issuedRow, holdsFirst, insertedOlder, rfl⟩ :=
    inserted_of_answered kept answeredOlder issued
  obtain ⟨-, second, secondCall, holdsSecond, source⟩ := kept.source answered
  cases source with
  | first row starts inserted scope =>
      rcases starts with other | other <;>
        exact absurd (asksFor_unique other asks) (by decide)
  | client other refreshToken =>
      exact absurd (asksFor_unique other asks) (by decide)
  | refreshed row old _ presentsOld selected inserted user tenant client scope =>
      have sameJti : issuedRow.jti = old.jti :=
        PyValue.text.inj (presents.symm.trans presentsOld)
      -- The row that was selected is the one that the older answer inserted.
      obtain ⟨-, sameUser, sameTenant, sameClient⟩ := kept.sameToken holdsFirst
        insertedOlder.inserted (.inl rfl) holdsSecond selected
        (.inr ⟨_, _, rfl⟩) sameJti
      refine ⟨⟨?_, ?_, ?_⟩, scope⟩
      · rw [inserted.userId, insertedOlder.userId, sameUser, user]
      · rw [inserted.tenantId, insertedOlder.tenantId, sameTenant, tenant]
      · rw [inserted.aud, insertedOlder.aud, sameClient, client]

end Links

/-! ## Chains of any length -/

section Chains

variable {deployment : Deployment} {pool : TokenPool}
variable {first last : TokenData} {length : Nat}

theorem answered_of_chain (chain : Chain pool first length last) :
    ∃ call, Answered pool call last := by
  cases chain with
  | grant answered starts => exact ⟨_, answered⟩
  | refresh chain answered asks issued presents => exact ⟨_, answered⟩

theorem scope_of_chain (kept : Kept deployment pool)
    (chain : Chain pool first length last) :
    first.accessToken.payload.scope.isSome = true := by
  induction chain with
  | grant answered starts => exact scope_of_starts kept answered starts
  | refresh chain answered asks issued presents ih => exact ih

theorem sameOwner_of_chain (kept : Kept deployment pool)
    (chain : Chain pool first length last) :
    SameOwner first.accessToken.payload last.accessToken.payload := by
  induction chain with
  | grant answered starts => exact ⟨rfl, rfl, rfl⟩
  | refresh chain answered asks issued presents ih =>
      obtain ⟨before, answeredOlder⟩ := answered_of_chain chain
      exact ih.trans (sameOwner_of_refresh kept answeredOlder issued answered
        asks presents).1

theorem scope_isSome_iff (kept : Kept deployment pool)
    (chain : Chain pool first length last) :
    last.accessToken.payload.scope.isSome = true ↔ length = 0 := by
  cases chain with
  | grant answered starts =>
      exact iff_of_true (scope_of_starts kept answered starts) rfl
  | refresh chain answered asks issued presents =>
      obtain ⟨before, answeredOlder⟩ := answered_of_chain chain
      have noScope := (sameOwner_of_refresh kept answeredOlder issued answered
        asks presents).2
      simp [noScope]

end Chains

/-! ## The result -/

/-- In every run of token requests, whatever else changes the database, every
chain keeps the user, the tenant and the client of its first access token, and
keeps the whole grant only when nothing is refreshed. -/
theorem grant_kept_iff (deployment : Deployment) {world : World}
    {events : List GrantEvent} {pool : TokenPool} {first last : TokenData}
    {length : Nat}
    (runs : exec (step (system deployment)) (.init world) events = some pool)
    (chain : Chain pool first length last) :
    SameOwner first.accessToken.payload last.accessToken.payload ∧
      (SameGrant first.accessToken.payload last.accessToken.payload ↔
        length = 0) := by
  have kept := kept_of_run runs
  have owner := sameOwner_of_chain kept chain
  refine ⟨owner, ?_⟩
  rw [← scope_isSome_iff kept chain]
  constructor
  · intro same
    rw [same.scope]
    exact scope_of_chain kept chain
  · intro hasScope
    have unrefreshed := (scope_isSome_iff kept chain).mp hasScope
    cases chain with
    | grant answered starts => exact ⟨owner, rfl⟩
    | refresh => cases unrefreshed

/-! ## A refresh drops the scope -/

open RefreshRotation (oneGrant rotate tokenCall)

/-- The client redeems its code, and presents the refresh token it got. -/
def refreshedEvents : List GrantEvent :=
  [.start 0 (tokenCall "0" [("grant_type", .text "authorization_code"),
      ("code", .text "code"), ("redirect_uri", .text "https://app/cb")]),
    .advance 0, .advance 0, .advance 0, .advance 0, .advance 0, .advance 0,
    .start 1 (rotate "1"), .advance 1, .advance 1, .advance 1, .advance 1,
    .advance 1, .advance 1]

theorem refreshed_exists :
    ∃ pool first last, exec (step (system (.plain []))) (.init oneGrant)
        refreshedEvents = some pool ∧
      Chain pool first 1 last ∧
      first.accessToken.payload.scope = some "profile" ∧
      last.accessToken.payload.scope = none :=
  ⟨_, _, _, rfl, .refresh (.grant ⟨0, _, rfl, rfl, rfl⟩ (.inl rfl))
    ⟨1, _, rfl, rfl, rfl⟩ rfl rfl rfl, rfl, rfl⟩

/-- The refreshed access token lacks the scope of the grant. -/
theorem refreshed_without_scope :
    ∃ pool first last, exec (step (system (.plain []))) (.init oneGrant)
        refreshedEvents = some pool ∧
      Chain pool first 1 last ∧
      ¬ SameGrant first.accessToken.payload last.accessToken.payload := by
  obtain ⟨pool, first, last, runs, chain, hasScope, noScope⟩ := refreshed_exists
  refine ⟨pool, first, last, runs, chain, fun same => ?_⟩
  have scopeEq := same.scope
  rw [hasScope, noScope] at scopeEq
  cases scopeEq

theorem refreshed_owner :
    ∃ pool first last, exec (step (system (.plain []))) (.init oneGrant)
        refreshedEvents = some pool ∧
      Chain pool first 1 last ∧
      SameOwner first.accessToken.payload last.accessToken.payload ∧
      (SameGrant first.accessToken.payload last.accessToken.payload ↔ 1 = 0) := by
  obtain ⟨pool, first, last, runs, chain, -, -⟩ := refreshed_exists
  exact ⟨pool, first, last, runs, chain, grant_kept_iff (.plain []) runs chain⟩

end GrantPreservation

end HexIam
