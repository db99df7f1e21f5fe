import HexIam.SingleUse
import HexIam.TokenCalls
import Mathlib.Logic.Relation

/-!
# Rotation of OIDC refresh tokens

A refresh-token grant selects the presented token, looks up its user, marks the
token as revoked and inserts a new one.  Two grants may both select a token
before either revokes it, and then both insert a successor.  In the
interleavings where no grant selects a token that another grant has selected
and not revoked yet, a token has at most one successor, and of all its
descendants at most one is not revoked.
-/

namespace HexIam

open StatementTree CallPool GuardedRun TokenCalls SingleUse

namespace RefreshRotation

/-! ## Chains of tokens -/

/-- The grant has selected this token. -/
def Accepted (log : Log) (jti : String) : Prop :=
  ∃ clientId row,
    (⟨.refreshToken (.validate (some jti) clientId), .ok (some row)⟩ :
      LogEntry Stmt Stmt.Resp Exn) ∈ log

/-- The grant has revoked this token. -/
def Revoked (log : Log) (jti : String) : Prop :=
  (⟨.refreshToken (.revoke (some jti)), .ok ()⟩ :
    LogEntry Stmt Stmt.Resp Exn) ∈ log

/-- The grant has issued this refresh token. -/
def Issued (log : Log) (jti : String) : Prop :=
  ∃ row : RefreshTokenRow, row.jti = jti ∧
    (⟨.refreshToken (.insert row), .ok ()⟩ : LogEntry Stmt Stmt.Resp Exn) ∈ log

/-- A grant has accepted the first token and issued the second. -/
def Successor (pool : TokenPool) (old new : String) : Prop :=
  ∃ id call, pool.Holds id call ∧ Accepted call.log old ∧ Issued call.log new

/-- The second token descends from the first, or is the first. -/
abbrev Descends (pool : TokenPool) : String → String → Prop :=
  Relation.ReflTransGen (Successor pool)

/-- The token is stored, not revoked and not expired. -/
def Live (world : World) (jti : String) : Prop :=
  ∃ row ∈ world.refreshTokens, row.jti = jti ∧ row.revoked = false ∧
    world.now < row.expiresAt

/-- At most one grant that issues tokens accepts each token. -/
def AcceptedOnce (pool : TokenPool) : Prop :=
  ∀ jti id other first second, pool.Holds id first → pool.Holds other second →
    Accepted first.log jti → (∃ new, Issued first.log new) →
    Accepted second.log jti → (∃ new, Issued second.log new) → id = other

/-- At most one of the tokens that descend from one token is live. -/
def OneLiveLeaf (pool : TokenPool) : Prop :=
  ∀ root first second, Descends pool root first → Descends pool root second →
    Live pool.world first → Live pool.world second → first = second

/-- The grant has selected the token, is in progress and is still to revoke
it. -/
def AboutToRevoke (pool : TokenPool) (id : Nat) (jti : String) : Prop :=
  ∃ call, pool.Holds id call ∧ call.Running ∧ Accepted call.log jti ∧
    ¬ Revoked call.log jti

/-- A grant selects a token only while no other grant that selected it is
still to revoke it. -/
def Careful (pool : TokenPool) : TokenEvent → Prop
  | .advance id => ∀ call jti clientId row, pool.Holds id call →
      call.Next (.refreshToken (.validate (some jti) clientId)) →
      (RefreshTokenStmt.perform pool.world
        (.validate (some jti) clientId)).1 = .ok (some row) →
      ∀ other, ¬ AboutToRevoke pool other jti
  | _ => True

/-! ## What a request does with refresh tokens -/

section Programs

variable {deployment : Deployment}

/-- A token is revoked once, after it was selected; a request issues one token,
after it has revoked the one it selected, and selects none afterwards. -/
def guarded (log : Log) : Stmt → Prop
  | .refreshToken (.validate _ _) => ∀ jti, ¬ Issued log jti
  | .refreshToken (.revoke jti) => ∃ text, jti = some text ∧
      Accepted log text ∧ ¬ Revoked log text
  | .refreshToken (.insert _) => (∀ jti, ¬ Issued log jti) ∧
      ∀ jti, Accepted log jti → Revoked log jti
  | _ => True

theorem guarded_of_other (log : Log) (stmt : Stmt)
    (other : stmt.table ≠ .refreshTokens) : guarded log stmt := by
  cases stmt with
  | refreshToken stmt => exact absurd rfl other
  | _ => trivial

section Logs

variable {added log : Log} {jti : String}

theorem accepted_append (untouched : Untouched .refreshTokens added) :
    Accepted (added ++ log) jti ↔ Accepted log jti := by
  constructor
  · rintro ⟨clientId, row, entryMem⟩
    rcases List.mem_append.mp entryMem with entryMem | entryMem
    · exact absurd rfl (untouched _ entryMem)
    · exact ⟨clientId, row, entryMem⟩
  · rintro ⟨clientId, row, entryMem⟩
    exact ⟨clientId, row, List.mem_append_right _ entryMem⟩

theorem revoked_append (untouched : Untouched .refreshTokens added) :
    Revoked (added ++ log) jti ↔ Revoked log jti := by
  constructor
  · intro entryMem
    exact (List.mem_append.mp entryMem).resolve_left fun entryMem =>
      untouched _ entryMem rfl
  · exact List.mem_append_right _

theorem issued_append (untouched : Untouched .refreshTokens added) :
    Issued (added ++ log) jti ↔ Issued log jti := by
  constructor
  · rintro ⟨row, jtiEq, entryMem⟩
    exact ⟨row, jtiEq, (List.mem_append.mp entryMem).resolve_left
      fun entryMem => untouched _ entryMem rfl⟩
  · rintro ⟨row, jtiEq, entryMem⟩
    exact ⟨row, jtiEq, List.mem_append_right _ entryMem⟩

theorem not_accepted_of_untouched (untouched : Untouched .refreshTokens log) :
    ¬ Accepted log jti := by
  rintro ⟨clientId, row, entryMem⟩
  exact untouched _ entryMem rfl

theorem not_revoked_of_untouched (untouched : Untouched .refreshTokens log) :
    ¬ Revoked log jti :=
  fun entryMem => untouched _ entryMem rfl

theorem not_issued_of_untouched (untouched : Untouched .refreshTokens log) :
    ¬ Issued log jti := by
  rintro ⟨row, -, entryMem⟩
  exact untouched _ entryMem rfl

end Logs

/-- The end of every grant: a refresh token is issued and the answer is
given. -/
theorem createRefreshToken_obeys {random userId tenantId clientId : String}
    {utcNow : Int} {continuation : String → App TokenResponse} {log : Log}
    (notIssued : ∀ jti, ¬ Issued log jti)
    (revoked : ∀ jti, Accepted log jti → Revoked log jti)
    (ends : ∀ jti, ∃ result, continuation jti = .done result) :
    Obeys guarded (Answers (system deployment)) anyEnd
      (createRefreshToken random utcNow userId tenantId clientId >>=
        continuation) log := by
  refine ⟨⟨notIssued, revoked⟩, fun answer _ => ?_⟩
  cases answer with
  | error error => trivial
  | ok value =>
      obtain ⟨result, resultEq⟩ := ends (userId ++ "-refresh-" ++ random)
      show Obeys _ _ _ (continuation _) _
      rw [resultEq]
      trivial

/-- The statements of a grant between its selections and the new token. -/
theorem policies_obeys {db : Connection} {userId tenantId : String}
    {continuation : List (String × Nat) → App TokenResponse} {log : Log}
    (rest : ∀ policies added, Untouched .refreshTokens added →
      Obeys guarded (Answers (system deployment)) anyEnd
        (continuation policies) (added ++ log)) :
    Obeys guarded (Answers (system deployment)) anyEnd
      (fetchUserPolicies db userId tenantId >>= continuation) log := by
  refine (obeys_of_uses [.policies] (uses_fetchUserPolicies (by simp))
    (by decide) guarded_of_other).bind ?_ fun _ _ _ => trivial
  rintro - policies ⟨added, rfl, untouched⟩
  exact rest policies added untouched

/-- A first token is issued after statements on other tables only. -/
theorem issue_obeys {db : Connection} {userId tenantId clientId random : String}
    {utcNow : Int} {payload : List (String × Nat) → Except Exn SignedToken}
    {continuation : SignedToken → String → App TokenResponse} {log : Log}
    (untouched : Untouched .refreshTokens log)
    (ends : ∀ token jti, ∃ result, continuation token jti = .done result) :
    Obeys guarded (Answers (system deployment)) anyEnd
      (do
        let policies ← fetchUserPolicies db userId tenantId
        let accessToken ← ofExcept (payload policies)
        let refreshToken ←
          createRefreshToken random utcNow userId tenantId clientId
        continuation accessToken refreshToken) log := by
  refine policies_obeys fun policies added other => ?_
  refine obeys_ofExcept_bind (fun accessToken _ => ?_) fun _ _ => trivial
  have after : Untouched .refreshTokens (added ++ log) :=
    untouched_append.mpr ⟨other, untouched⟩
  exact createRefreshToken_obeys (fun _ => not_issued_of_untouched after)
    (fun _ accepted => absurd accepted (not_accepted_of_untouched after))
    (ends accessToken)

theorem authorizationCodeGrant_obeys {db : Connection} {readings : Readings}
    {client : ClientRow} {clientId : PyValue} {data : List (String × PyValue)}
    {log : Log} (untouched : Untouched .refreshTokens log) :
    Obeys guarded (Answers (system deployment)) anyEnd
      (authorizationCodeGrant deployment db readings client clientId data)
      log := by
  unfold authorizationCodeGrant
  dsimp only
  split
  · trivial
  refine (obeys_of_uses [.codes] (uses_validateAuthorizationCode (by simp))
    (by decide) guarded_of_other).bind ?_ fun _ _ _ => trivial
  rintro - found ⟨added, rfl, other⟩
  cases found with
  | none => trivial
  | some row =>
      refine obeys_ask_bind trivial (fun user _ => ?_) fun _ _ => trivial
      cases user with
      | none => trivial
      | some user =>
          refine issue_obeys ?_ fun token jti => ?_
          · exact untouched_cons.mpr ⟨nofun,
              untouched_append.mpr ⟨other, untouched⟩⟩
          · split
            · cases createIdToken deployment .. <;> exact ⟨_, rfl⟩
            · exact ⟨_, rfl⟩

theorem tokenExchangeGrant_obeys {db : Connection} {readings : Readings}
    {client : ClientRow} {data : List (String × PyValue)} {log : Log}
    (untouched : Untouched .refreshTokens log) :
    Obeys guarded (Answers (system deployment)) anyEnd
      (tokenExchangeGrant deployment db readings client data) log := by
  unfold tokenExchangeGrant
  dsimp only
  split
  · trivial
  split
  · trivial
  refine (obeys_of_uses [.users, .identities, .providers, .upstream]
    (Within.tryCatch ((uses_resolveOrProvisionFederatedUser (by simp) (by simp)
      (by simp) (by simp)).bind fun _ => within_done) fun _ => within_done)
    (by decide) guarded_of_other).bind ?_ fun _ _ _ => trivial
  rintro - resolved ⟨added, rfl, other⟩
  rcases resolved with cause | ⟨user, provider, claims⟩
  · trivial
  refine issue_obeys (untouched_append.mpr ⟨other, untouched⟩) fun token jti => ?_
  split
  · exact ⟨_, rfl⟩
  · split
    · cases createIdToken deployment .. <;> exact ⟨_, rfl⟩
    · exact ⟨_, rfl⟩

theorem refreshTokenGrant_obeys {db : Connection} {readings : Readings}
    {client : ClientRow} {clientId : PyValue} {data : List (String × PyValue)}
    {log : Log} (untouched : Untouched .refreshTokens log) :
    Obeys guarded (Answers (system deployment)) anyEnd
      (refreshTokenGrant deployment db readings client clientId data) log := by
  unfold refreshTokenGrant validateRefreshToken revokeRefreshToken
  dsimp only
  split
  · trivial
  simp only [bind_assoc]
  refine obeys_ofExcept_bind (fun jti jtiEq => ?_) fun _ _ => trivial
  refine obeys_ofExcept_bind (fun boundClient _ => ?_) fun _ _ => trivial
  refine obeys_ask_bind (fun _ => not_issued_of_untouched untouched)
    (fun found may => ?_) fun _ _ => trivial
  cases found with
  | none => trivial
  | some row =>
      obtain ⟨text, rfl⟩ : ∃ text, jti = some text := by
        cases jti with
        | some text => exact ⟨text, rfl⟩
        | none =>
            obtain ⟨world, answered⟩ := answer_of_world may
            cases answered
      refine obeys_ask_bind trivial (fun user _ => ?_) fun _ _ => trivial
      cases user with
      | none => trivial
      | some user =>
          have notRevoked : ¬ Revoked log text :=
            not_revoked_of_untouched untouched
          have notIssued (jti : String) : ¬ Issued log jti :=
            not_issued_of_untouched untouched
          have acceptedOnly (jti : String) : ¬ Accepted log jti :=
            not_accepted_of_untouched untouched
          refine obeys_ofExcept_bind (fun again againEq => ?_) fun _ _ => trivial
          obtain rfl : some text = again :=
            Except.ok.inj (jtiEq.symm.trans againEq)
          refine obeys_ask_bind ⟨text, rfl, ⟨boundClient, row, by simp⟩, ?_⟩
            (fun _ _ => ?_) fun _ _ => trivial
          · simpa [Revoked] using notRevoked
          refine policies_obeys fun policies added other => ?_
          refine obeys_ofExcept_bind (fun accessToken _ => ?_) fun _ _ => trivial
          refine createRefreshToken_obeys ?_ ?_ fun _ => ⟨_, rfl⟩
          · intro jti
            rw [issued_append other]
            simpa [Issued] using notIssued jti
          · intro jti
            rw [accepted_append other, revoked_append other]
            rintro ⟨clientId, found, entryMem⟩
            rcases List.mem_cons.mp entryMem with same | entryMem
            · cases same
            rcases List.mem_cons.mp entryMem with same | entryMem
            · cases same
            rcases List.mem_cons.mp entryMem with same | entryMem
            · cases same
              exact List.mem_cons_self
            · exact absurd ⟨clientId, found, entryMem⟩ (acceptedOnly jti)

attribute [local irreducible] SigningKeyManager.signToken in
theorem postToken_obeys (call : TokenCall) :
    Obeys guarded (Answers (system deployment)) anyEnd
      ((system deployment).program call) [] := by
  refine obeys_postToken (by decide) guarded_of_other ?_
  intro db client clientId data log _ untouched
  unfold grant
  dsimp only
  split
  · exact authorizationCodeGrant_obeys untouched
  split
  · exact refreshTokenGrant_obeys untouched
  split
  · exact obeys_anyEnd_of_uses [] uses_clientCredentialsGrant (by decide)
      guarded_of_other
  split
  · exact tokenExchangeGrant_obeys untouched
  · trivial

end Programs

/-! ## What a log says -/

section Permitted

variable {deployment : Deployment} {log : Log}

/-- A request that has issued a token has revoked the one it selected. -/
theorem revoked_of_issued
    (permitted : Permitted guarded (Answers (system deployment)) log)
    {new jti : String} (issued : Issued log new) (accepted : Accepted log jti) :
    Revoked log jti := by
  induction log with
  | nil =>
      obtain ⟨row, -, entryMem⟩ := issued
      cases entryMem
  | cons entry earlier ih =>
      obtain ⟨stmt, answer⟩ := entry
      obtain ⟨allowed, -, permitted⟩ := permitted
      obtain ⟨row, jtiEq, issuedMem⟩ := issued
      obtain ⟨clientId, found, acceptedMem⟩ := accepted
      rcases List.mem_cons.mp issuedMem with newest | issuedBefore
      · obtain ⟨rfl, -⟩ := Sigma.mk.inj newest
        rcases List.mem_cons.mp acceptedMem with impossible | acceptedBefore
        · obtain ⟨impossible, -⟩ := Sigma.mk.inj impossible
          cases impossible
        · exact List.mem_cons_of_mem _
            (allowed.2 jti ⟨clientId, found, acceptedBefore⟩)
      · rcases List.mem_cons.mp acceptedMem with newest | acceptedBefore
        · obtain ⟨rfl, -⟩ := Sigma.mk.inj newest
          exact absurd ⟨row, rfl, issuedBefore⟩ (allowed row.jti)
        · exact List.mem_cons_of_mem _ (ih permitted ⟨row, jtiEq, issuedBefore⟩
            ⟨clientId, found, acceptedBefore⟩)

/-- A request issues one refresh token. -/
theorem issued_unique
    (permitted : Permitted guarded (Answers (system deployment)) log)
    {first second : String} (firstIssued : Issued log first)
    (secondIssued : Issued log second) : first = second := by
  induction log with
  | nil =>
      obtain ⟨row, -, entryMem⟩ := firstIssued
      cases entryMem
  | cons entry earlier ih =>
      obtain ⟨stmt, answer⟩ := entry
      obtain ⟨allowed, -, permitted⟩ := permitted
      obtain ⟨row, rfl, firstMem⟩ := firstIssued
      obtain ⟨other, rfl, secondMem⟩ := secondIssued
      rcases List.mem_cons.mp firstMem with firstNewest | firstBefore <;>
        rcases List.mem_cons.mp secondMem with secondNewest | secondBefore
      · cases firstNewest.trans secondNewest.symm
        rfl
      · obtain ⟨rfl, -⟩ := Sigma.mk.inj firstNewest
        exact absurd ⟨other, rfl, secondBefore⟩ (allowed.1 other.jti)
      · obtain ⟨rfl, -⟩ := Sigma.mk.inj secondNewest
        exact absurd ⟨row, rfl, firstBefore⟩ (allowed.1 row.jti)
      · exact ih permitted ⟨row, rfl, firstBefore⟩ ⟨other, rfl, secondBefore⟩

end Permitted

/-! ## The invariant -/

section Invariant

variable {deployment : Deployment} {pool next : TokenPool}

/-- The token is stored and revoked. -/
def Spent (world : World) (jti : String) : Prop :=
  ∃ row ∈ world.refreshTokens, row.jti = jti ∧ row.revoked = true

/-- Who is about to revoke which token, and who has. -/
def holdings (pool : TokenPool) : Holdings Nat String where
  pending := AboutToRevoke pool
  redeemed id jti := ∃ call, pool.Holds id call ∧ Revoked call.log jti
  spent := Spent pool.world

/-- What holds in every state of a careful run. -/
structure Safe (deployment : Deployment) (pool : TokenPool) : Prop where
  follows : Follows (system deployment) (fun _ => guarded)
    (fun _ => anyEnd) pool
  stored : ∀ id call jti, pool.Holds id call → Accepted call.log jti →
    ∃ row ∈ pool.world.refreshTokens, row.jti = jti
  exclusive : Exclusive (holdings pool)

theorem safe_init {world : World} : Safe deployment (.init world) where
  follows := follows_init
  stored _ _ _ holds := absurd holds Pool.not_holds_init
  exclusive := exclusive_of_none
    (fun _ _ ⟨_, holds, _⟩ => Pool.not_holds_init holds)
    fun _ _ ⟨_, holds, _⟩ => Pool.not_holds_init holds

theorem row_kept_or_revoked (deployment : Deployment) (stmt : Stmt)
    {world : World} {row : RefreshTokenRow} (rowMem : row ∈ world.refreshTokens) :
    ∃ after ∈ (perform deployment stmt world).2.refreshTokens,
      after = row ∨ after = row.revoke := by
  by_cases here : stmt.table = .refreshTokens
  case neg =>
    rw [refreshTokens_perform deployment here]
    exact ⟨row, rowMem, .inl rfl⟩
  cases stmt with
  | refreshToken stmt =>
      cases stmt with
      | validate jti clientId => exact ⟨row, rowMem, .inl rfl⟩
      | revoke jti =>
          refine ⟨_, (KeyedTable.mem_update RefreshTokenRow.revoke_jti).mpr
            ⟨row, rowMem, rfl⟩, ?_⟩
          split
          · exact .inr rfl
          · exact .inl rfl
      | insert added =>
          refine ⟨row, ?_, .inl rfl⟩
          show row ∈ (RefreshTokenStmt.perform world (.insert added)).2
          rcases RefreshTokenStmt.perform_insert world added with same | inserted
          · exact same ▸ rowMem
          · exact (KeyedTable.mem_of_insert inserted).mpr (.inl rowMem)
  | _ => cases here

theorem row_persists (deployment : Deployment) (stmt : Stmt) {world : World}
    {row : RefreshTokenRow} (rowMem : row ∈ world.refreshTokens) :
    ∃ after ∈ (perform deployment stmt world).2.refreshTokens,
      after.jti = row.jti ∧ (row.revoked = true → after.revoked = true) := by
  obtain ⟨after, afterMem, rfl | rfl⟩ :=
    row_kept_or_revoked deployment stmt rowMem
  · exact ⟨_, afterMem, rfl, id⟩
  · exact ⟨_, afterMem, rfl, fun _ => rfl⟩

theorem spent_revoke (deployment : Deployment) {world : World} {jti : String}
    (stored : ∃ row ∈ world.refreshTokens, row.jti = jti) :
    Spent (perform deployment (.refreshToken (.revoke (some jti))) world).2
      jti := by
  obtain ⟨row, rowMem, rfl⟩ := stored
  refine ⟨row.revoke, (KeyedTable.mem_update RefreshTokenRow.revoke_jti).mpr
    ⟨row, rowMem, ?_⟩, rfl, rfl⟩
  simp

theorem not_spent_of_selected {world : World} {jti : String}
    {clientId : Option String} {row : RefreshTokenRow}
    (selected : (RefreshTokenStmt.perform world
      (.validate (some jti) clientId)).1 = .ok (some row)) :
    (row ∈ world.refreshTokens ∧ row.jti = jti) ∧ ¬ Spent world jti := by
  obtain ⟨found, passes⟩ := Option.filter_eq_some_iff.mp
    (Except.ok.inj selected)
  obtain ⟨rowMem, jtiEq⟩ := KeyedTable.lookup_eq_some.mp found
  refine ⟨⟨rowMem, jtiEq⟩, ?_⟩
  rintro ⟨other, otherMem, otherEq, revoked⟩
  cases KeyedTable.eq_of_key_eq otherMem rowMem (otherEq.trans jtiEq.symm)
  simp [revoked] at passes

theorem safe_start {id : Nat} {request : TokenCall} (safe : Safe deployment pool)
    (stepEq : step (system deployment) pool (.start id request) = some next) :
    Safe deployment next := by
  have follows := follows_step postToken_obeys _ safe.follows stepEq
  obtain ⟨free, rfl⟩ := step_start.mp stepEq
  refine ⟨follows, ?_, safe.exclusive.keeps ?_ ?_ fun _ spent => spent⟩
  · intro other call jti holds accepted
    rcases Pool.holds_setCall.mp holds with ⟨-, rfl⟩ | ⟨-, holds⟩
    · exact absurd accepted (not_accepted_of_untouched (untouched_nil _))
    · exact safe.stored other call jti holds accepted
  · rintro other jti ⟨call, holds, running, accepted, notRevoked⟩
    rcases Pool.holds_setCall.mp holds with ⟨-, rfl⟩ | ⟨-, holds⟩
    · exact absurd accepted (not_accepted_of_untouched (untouched_nil _))
    · exact ⟨call, holds, running, accepted, notRevoked⟩
  · rintro other jti ⟨call, holds, revoked⟩
    rcases Pool.holds_setCall.mp holds with ⟨-, rfl⟩ | ⟨-, holds⟩
    · cases revoked
    · exact ⟨call, holds, revoked⟩

/-- A statement either revokes a token, or selects one, or adds no claim to
any token. -/
theorem safe_advance {id : Nat} (safe : Safe deployment pool)
    (careful : Careful pool (.advance id))
    (stepEq : step (system deployment) pool (.advance id) = some next) :
    Safe deployment next := by
  have follows := follows_step postToken_obeys _ safe.follows stepEq
  obtain ⟨call, stmt, rest, holds, alive, restEq, worldEq, holdsNext⟩ :=
    effect_of_advance stepEq
  have allowed : guarded call.log stmt := safe.follows.allowed holds restEq
  have running : call.Running :=
    Call.Next.running ⟨alive, rest, restEq⟩
  have spentAfter : ∀ jti, (holdings pool).spent jti →
      (holdings next).spent jti := by
    rintro jti ⟨row, rowMem, jtiEq, revoked⟩
    obtain ⟨after, afterMem, sameJti, keeps⟩ :=
      row_persists deployment stmt rowMem
    refine ⟨after, ?_, sameJti.trans jtiEq, keeps revoked⟩
    rw [worldEq]
    exact afterMem
  -- a token selected afterwards was selected before, or just now
  have acceptedAfter : ∀ other found jti, next.Holds other found →
      Accepted found.log jti →
      (∃ before, pool.Holds other before ∧ Accepted before.log jti ∧
        (found.Running → before.Running) ∧
        (Revoked before.log jti → Revoked found.log jti)) ∨
      (other = id ∧ ∃ clientId row,
        (⟨stmt, (perform deployment stmt pool.world).1⟩ :
          LogEntry Stmt Stmt.Resp Exn) =
        ⟨.refreshToken (.validate (some jti) clientId), .ok (some row)⟩) := by
    rintro other found jti foundHolds ⟨clientId, row, entryMem⟩
    rcases (holdsNext _ _).mp foundHolds with
      ⟨rfl, rfl⟩ | ⟨away, foundHolds⟩
    · rcases List.mem_cons.mp entryMem with newest | entryMem
      · exact .inr ⟨rfl, clientId, row, newest.symm⟩
      · exact .inl ⟨call, holds, ⟨clientId, row, entryMem⟩, fun _ => running,
          List.mem_cons_of_mem _⟩
    · exact .inl ⟨found, foundHolds, ⟨clientId, row, entryMem⟩,
        fun running => running, fun revoked => revoked⟩
  have revokedAfter : ∀ other jti, (holdings next).redeemed other jti →
      (holdings pool).redeemed other jti ∨
        other = id ∧ stmt = .refreshToken (.revoke (some jti)) := by
    rintro other jti ⟨found, foundHolds, revoked⟩
    rcases (holdsNext _ _).mp foundHolds with
      ⟨rfl, rfl⟩ | ⟨away, foundHolds⟩
    · rcases List.mem_cons.mp revoked with newest | revoked
      · exact .inr ⟨rfl, (congrArg Sigma.fst newest).symm⟩
      · exact .inl ⟨call, holds, revoked⟩
    · exact .inl ⟨found, foundHolds, revoked⟩
  have pendingAfter : ∀ other jti, AboutToRevoke next other jti →
      AboutToRevoke pool other jti ∨
      (other = id ∧ ∃ clientId row,
        (⟨stmt, (perform deployment stmt pool.world).1⟩ :
          LogEntry Stmt Stmt.Resp Exn) =
        ⟨.refreshToken (.validate (some jti) clientId), .ok (some row)⟩) := by
    rintro other jti ⟨found, foundHolds, foundRunning, accepted, notRevoked⟩
    rcases acceptedAfter other found jti foundHolds accepted with
      ⟨before, beforeHolds, accepted, wasRunning, kept⟩ | selects
    · exact .inl ⟨before, beforeHolds, wasRunning foundRunning, accepted,
        fun revoked => notRevoked (kept revoked)⟩
    · exact .inr selects
  refine ⟨follows, ?_, ?_⟩
  · intro other found jti foundHolds accepted
    have held : ∃ row ∈ pool.world.refreshTokens, row.jti = jti := by
      rcases acceptedAfter other found jti foundHolds accepted with
        ⟨before, beforeHolds, accepted, -⟩ | ⟨-, clientId, row, entryEq⟩
      · exact safe.stored other before jti beforeHolds accepted
      · obtain ⟨rfl, answerEq⟩ := Sigma.mk.inj entryEq
        exact ⟨row, (not_spent_of_selected (eq_of_heq answerEq)).1⟩
    obtain ⟨row, rowMem, jtiEq⟩ := held
    obtain ⟨after, afterMem, sameJti, -⟩ :=
      row_persists deployment stmt rowMem
    exact ⟨after, worldEq ▸ afterMem, sameJti.trans jtiEq⟩
  by_cases revokes : ∃ jti, stmt = .refreshToken (.revoke jti)
  · obtain ⟨jti, rfl⟩ := revokes
    obtain ⟨text, rfl, accepted, notRevoked⟩ := allowed
    have spentNow : (holdings next).spent text := by
      show Spent next.world text
      rw [worldEq]
      exact spent_revoke deployment (safe.stored id call text holds accepted)
    refine safe.exclusive.spend ⟨call, holds, running, accepted, notRevoked⟩
      ?_ ?_ spentAfter spentNow
    · intro other jti about
      rcases pendingAfter other jti about with before | ⟨-, _, _, impossible⟩
      · refine ⟨before, ?_⟩
        rintro ⟨rfl, rfl⟩
        obtain ⟨found, foundHolds, -, -, still⟩ := about
        rcases (holdsNext _ _).mp foundHolds with ⟨-, rfl⟩ | ⟨away, -⟩
        · exact still List.mem_cons_self
        · exact away rfl
      · obtain ⟨impossible, -⟩ := Sigma.mk.inj impossible
        cases impossible
    · intro other jti revoked
      rcases revokedAfter other jti revoked with before | ⟨rfl, same⟩
      · exact .inl before
      · cases same
        exact .inr ⟨rfl, rfl⟩
  have revokedKept : ∀ other jti, (holdings next).redeemed other jti →
      (holdings pool).redeemed other jti := fun other jti revoked =>
    (revokedAfter other jti revoked).resolve_right
      fun ⟨_, same⟩ => revokes ⟨_, same⟩
  by_cases selects : ∃ jti clientId row,
      (⟨stmt, (perform deployment stmt pool.world).1⟩ :
        LogEntry Stmt Stmt.Resp Exn) =
        ⟨.refreshToken (.validate (some jti) clientId), .ok (some row)⟩
  · obtain ⟨jti, clientId, row, entryEq⟩ := selects
    obtain ⟨rfl, answerEq⟩ := Sigma.mk.inj entryEq
    have selected := eq_of_heq answerEq
    refine safe.exclusive.check id (not_spent_of_selected selected).2 ?_ ?_
      revokedKept spentAfter
    · intro other about
      exact absurd about (careful call jti clientId row holds
        ⟨alive, rest, restEq⟩ selected other)
    · intro other found about
      rcases pendingAfter other found about with before | ⟨same, _, _, again⟩
      · exact .inl before
      · obtain ⟨stmtEq, -⟩ := Sigma.mk.inj again
        cases stmtEq
        exact .inr ⟨same, rfl⟩
  · refine safe.exclusive.keeps ?_ revokedKept spentAfter
    intro other jti about
    rcases pendingAfter other jti about with before | ⟨-, clientId, row, entryEq⟩
    · exact before
    · exact absurd ⟨jti, clientId, row, entryEq⟩ selects

theorem safe_change {seconds : Nat} (safe : Safe deployment pool)
    (stepEq : step (system deployment) pool (.change seconds) = some next) :
    Safe deployment next := by
  have follows := follows_step postToken_obeys _ safe.follows stepEq
  obtain ⟨world, changed, rfl⟩ := step_change.mp stepEq
  cases Option.some.inj changed
  exact ⟨follows, safe.stored, safe.exclusive.keeps (fun _ _ about => about)
    (fun _ _ revoked => revoked) fun _ spent => spent⟩

theorem safe_step (event : TokenEvent) (safe : Safe deployment pool)
    (careful : Careful pool event)
    (stepEq : step (system deployment) pool event = some next) :
    Safe deployment next := by
  cases event with
  | start id request => exact safe_start safe stepEq
  | advance id => exact safe_advance safe careful stepEq
  | fail id error =>
      obtain ⟨_, _, _, -, -, -, fails, -⟩ := step_fail.mp stepEq
      cases fails
  | crash site => exact site.elim
  | change seconds => exact safe_change safe stepEq

theorem Safe.revoked (safe : Safe deployment pool) {id : Nat}
    {call : Call TokenCall Stmt Stmt.Resp Exn TokenResponse}
    (holds : pool.Holds id call) {new jti : String}
    (issued : Issued call.log new) (accepted : Accepted call.log jti) :
    (holdings pool).redeemed id jti :=
  ⟨call, holds, revoked_of_issued (safe.follows id call holds).1 issued accepted⟩

theorem Safe.acceptedOnce (safe : Safe deployment pool) : AcceptedOnce pool := by
  rintro jti id other first second firstHolds secondHolds firstAccepted
    ⟨_, firstIssued⟩ secondAccepted ⟨_, secondIssued⟩
  exact safe.exclusive.once id other jti
    (safe.revoked firstHolds firstIssued firstAccepted)
    (safe.revoked secondHolds secondIssued secondAccepted)

/-- A token has at most one successor. -/
theorem Safe.successor_unique (safe : Safe deployment pool) :
    Relator.RightUnique (Successor pool) := by
  rintro old first second ⟨id, call, holds, accepted, firstIssued⟩
    ⟨other, found, foundHolds, foundAccepted, secondIssued⟩
  obtain rfl := safe.acceptedOnce old id other call found holds foundHolds
    accepted ⟨first, firstIssued⟩ foundAccepted ⟨second, secondIssued⟩
  cases Pool.Holds.unique holds foundHolds
  exact issued_unique (safe.follows id call holds).1 firstIssued secondIssued

/-- A token with a successor is revoked. -/
theorem Safe.not_live (safe : Safe deployment pool) {old new : String}
    (successor : Successor pool old new) : ¬ Live pool.world old := by
  obtain ⟨id, call, holds, accepted, issued⟩ := successor
  obtain ⟨row, rowMem, jtiEq, revoked⟩ := safe.exclusive.isSpent id old
    (safe.revoked holds issued accepted)
  rintro ⟨other, otherMem, otherEq, notRevoked, -⟩
  cases KeyedTable.eq_of_key_eq rowMem otherMem (jtiEq.trans otherEq.symm)
  simp [revoked] at notRevoked

theorem Safe.oneLiveLeaf (safe : Safe deployment pool) : OneLiveLeaf pool := by
  intro root first second toFirst toSecond firstLive secondLive
  have leaf : ∀ {old new : String}, Live pool.world old →
      Descends pool old new → old = new := by
    intro old new live descends
    rcases Relation.ReflTransGen.cases_head descends with same | ⟨_, head, -⟩
    · exact same
    · exact absurd live (safe.not_live head)
  rcases toFirst.total_of_right_unique safe.successor_unique toSecond with
    below | above
  · exact leaf firstLive below
  · exact (leaf secondLive above).symm

end Invariant

/-! ## The result -/

/-- In every interleaving of token requests whose selections are all careful,
each refresh token is accepted by at most one grant that issues tokens, and of
its descendants at most one is live. -/
theorem rotation_never_forks (deployment : Deployment) {world : World}
    {events : List TokenEvent} {pool : TokenPool}
    (careful : Along (step (system deployment)) Careful (.init world) events)
    (runs : exec (step (system deployment)) (.init world) events = some pool) :
    AcceptedOnce pool ∧ OneLiveLeaf pool := by
  have safe : Safe deployment pool :=
    invariant_along (fun _ event _ safe careful stepEq =>
      safe_step event safe careful stepEq) safe_init careful runs
  exact ⟨safe.acceptedOnce, safe.oneLiveLeaf⟩

/-! ## A fork, and a rotation -/

/-- A client, its user, and an authorization code for them. -/
def oneGrant : World where
  tenants := .single { id := "t" }
  users := .single ⟨"u", "t", "u@t", "pw", "U", "T", none, true, true, 0⟩
  clients :=
    .single ⟨"c", "t", "secret", "App", ["https://app/cb"], ["profile"], true⟩
  codes :=
    .single ⟨"1", "code", "c", "u", "t", "https://app/cb", "profile", none, none,
    none, false, 600⟩

/-- A token request of the client. -/
def tokenCall (random : String) (fields : List (String × PyValue)) :
    TokenCall where
  readings := ⟨fun _ => 0, fun _ => 0, fun _ => random⟩
  request := {
    tenantHeader := some "t"
    contentType := "application/x-www-form-urlencoded"
    form := [("client_id", .text "c"), ("client_secret", .text "secret")] ++
      fields }

/-- The client redeems its code for the refresh token `u-refresh-0`. -/
def original : List TokenEvent :=
  [.start 0 (tokenCall "0" [("grant_type", .text "authorization_code"),
      ("code", .text "code"), ("redirect_uri", .text "https://app/cb")]),
    .advance 0, .advance 0, .advance 0, .advance 0, .advance 0, .advance 0]

/-- A refresh grant for `u-refresh-0`. -/
def rotate (random : String) : TokenCall :=
  tokenCall random [("grant_type", .text "refresh_token"),
    ("refresh_token", .text "u-refresh-0")]

/-- Two grants select the token before either revokes it. -/
def forkEvents : List TokenEvent :=
  original ++ [.start 1 (rotate "1"), .start 2 (rotate "2"), .advance 1,
    .advance 1, .advance 2, .advance 2, .advance 1, .advance 1, .advance 1,
    .advance 1, .advance 2, .advance 2, .advance 2, .advance 2]

theorem fork_exists :
    ∃ pool first second, exec (step (system (.plain []))) (.init oneGrant)
        forkEvents = some pool ∧
      pool.Holds 1 first ∧ pool.Holds 2 second ∧
      (Accepted first.log "u-refresh-0" ∧ Issued first.log "u-refresh-1") ∧
      (Accepted second.log "u-refresh-0" ∧ Issued second.log "u-refresh-2") ∧
      Live pool.world "u-refresh-1" ∧ Live pool.world "u-refresh-2" := by
  refine ⟨_, _, _, rfl, rfl, rfl,
    ⟨⟨some "c", _, .tail _ (.tail _ (.tail _ (.tail _ (.head _))))⟩,
      _, by decide, .head _⟩,
    ⟨⟨some "c", _, .tail _ (.tail _ (.tail _ (.tail _ (.head _))))⟩,
      _, by decide, .head _⟩,
    ⟨_, .tail _ (.head _), by decide, by decide, by decide⟩,
    ⟨_, .tail _ (.tail _ (.head _)), by decide, by decide, by decide⟩⟩

/-- Both grants issue a token, and both tokens are live. -/
theorem rotation_forks :
    ∃ pool, exec (step (system (.plain []))) (.init oneGrant) forkEvents =
        some pool ∧ ¬ AcceptedOnce pool ∧ ¬ OneLiveLeaf pool := by
  obtain ⟨pool, first, second, runs, firstHolds, secondHolds,
    ⟨firstAccepted, firstIssued⟩, ⟨secondAccepted, secondIssued⟩, firstLive,
    secondLive⟩ := fork_exists
  refine ⟨pool, runs, fun once => ?_, fun oneLeaf => ?_⟩
  · exact absurd (once "u-refresh-0" 1 2 first second firstHolds secondHolds
      firstAccepted ⟨_, firstIssued⟩ secondAccepted ⟨_, secondIssued⟩)
      (by decide)
  · exact absurd (oneLeaf "u-refresh-0" "u-refresh-1" "u-refresh-2"
      (.single ⟨1, first, firstHolds, firstAccepted, firstIssued⟩)
      (.single ⟨2, second, secondHolds, secondAccepted, secondIssued⟩)
      firstLive secondLive) (by decide)

theorem careful_of_not_validate {pool : TokenPool} {id : Nat}
    {call : Call TokenCall Stmt Stmt.Resp Exn TokenResponse} {stmt : Stmt}
    {rest : Except Exn stmt.Resp → App TokenResponse}
    (holds : pool.Holds id call) (restEq : call.rest = .perform stmt rest)
    (other : ∀ jti clientId, stmt ≠ .refreshToken (.validate jti clientId)) :
    Careful pool (.advance id) := by
  intro found jti clientId row foundHolds isNext
  have same := (holds.next_unique restEq foundHolds isNext).2
  exact absurd same.symm (other _ _)

/-- The token is rotated once. -/
def rotationEvents : List TokenEvent :=
  original ++ [.start 1 (rotate "1"), .advance 1, .advance 1, .advance 1,
    .advance 1, .advance 1, .advance 1]

theorem rotation_does_not_fork :
    ∃ pool, exec (step (system (.plain []))) (.init oneGrant) rotationEvents =
      some pool ∧ AcceptedOnce pool ∧ OneLiveLeaf pool := by
  have careful : Along (step (system (.plain []))) Careful (.init oneGrant)
      rotationEvents := by
    refine along_of_step rfl trivial (along_of_step rfl ?_ (along_of_step rfl ?_
      (along_of_step rfl ?_ (along_of_step rfl ?_ (along_of_step rfl ?_
      (along_of_step rfl ?_ (along_of_step rfl trivial (along_of_step rfl ?_
      (along_of_step rfl ?selects (along_of_step rfl ?_ (along_of_step rfl ?_
      (along_of_step rfl ?_ (along_of_step rfl ?_ (along_nil _))))))))))))))
    case selects =>
      rintro call jti clientId row - - - other ⟨found, holds, -, ⟨_, _, mem⟩, -⟩
      by_cases first : other = 0
      · subst first
        cases holds
        simp at mem
      by_cases second : other = 1
      · subst second
        cases holds
        simp at mem
      · simp [Pool.Holds, Pool.setCall, Pool.init, Function.update_of_ne first,
          Function.update_of_ne second] at holds
    all_goals
      refine careful_of_not_validate rfl rfl fun jti clientId same => ?_
      cases same
  have runs : exec (step (system (.plain []))) (.init oneGrant)
      rotationEvents = some _ := rfl
  exact ⟨_, runs, rotation_never_forks (.plain []) careful runs⟩

end RefreshRotation

end HexIam
