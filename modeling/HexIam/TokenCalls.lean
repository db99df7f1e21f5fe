import HexIam.CallPool
import HexIam.Footprint
import Mathlib.Tactic.IntervalCases

/-!
# Concurrent token requests

Any number of `token_endpoint` requests over one database, one SQL statement
at a time, while the clock of the database advances.
-/

namespace HexIam

open StatementTree CallPool GuardedRun

namespace TokenCalls

/-- A `token_endpoint` request with what it reads from clocks and `secrets`. -/
structure TokenCall where
  readings : Readings
  request : TokenRequest

/-- A field of the body. -/
def TokenCall.field (call : TokenCall) (name : String) : PyValue :=
  match call.request.data with
  | .ok data => PyValue.get data name
  | .error _ => .none

/-- Token requests over one database. -/
def system (deployment : Deployment) :
    System Empty TokenCall Stmt Stmt.Resp Exn TokenResponse World Nat where
  site _ := none
  program call := postToken deployment call.readings call.request
  perform := perform deployment
  mayFail _ _ := false
  crash site _ := site.elim
  change seconds world := some { world with now := world.now + seconds }

abbrev TokenPool := Pool TokenCall Stmt Stmt.Resp Exn TokenResponse World
abbrev TokenEvent := Event Empty TokenCall Exn Nat
abbrev Log := List (LogEntry Stmt Stmt.Resp Exn)

variable {deployment : Deployment}

theorem answer_of_world {stmt : Stmt} {answer : Except Exn stmt.Resp}
    (may : Answers (system deployment) stmt answer) :
    ∃ world, (perform deployment stmt world).1 = answer := by
  rcases may with answered | ⟨error, fails, -⟩
  · exact answered
  · cases fails

/-- Nothing is asked of a finished call. -/
abbrev anyEnd {α : Type} : Log → Except Exn α → Prop :=
  fun _ _ => True

variable {guard : Log → Stmt → Prop}
variable {answers : (stmt : Stmt) → Except Exn stmt.Resp → Prop}

theorem obeys_anyEnd_of_uses {α : Type} (tables : List Table) {table : Table}
    {program : App α} {log : Log} (uses : Uses tables program)
    (unused : table ∉ tables)
    (free : ∀ log stmt, stmt.table ≠ table → guard log stmt) :
    Obeys guard answers anyEnd program log :=
  (obeys_of_uses tables uses unused free).mono fun _ _ _ => trivial

theorem obeys_postToken {readings : Readings} {request : TokenRequest}
    {table : Table} (notClients : table ≠ .clients)
    (free : ∀ log stmt, stmt.table ≠ table → guard log stmt)
    (granted : ∀ db client clientId data log, request.data = .ok data →
      Untouched table log → Obeys guard answers anyEnd
        (grant deployment db readings client clientId data) log) :
    Obeys guard answers anyEnd (postToken deployment readings request) [] := by
  have unused : table ∉ [Table.clients] := by simpa using notClients
  unfold postToken tokenEndpoint
  refine (obeys_of_uses _ (uses_getDatabasePool (by simp)) unused free).bind ?_
    fun _ _ _ => trivial
  rintro - db ⟨first, rfl, firstOther⟩
  refine obeys_ofExcept_bind ?_ fun _ _ => trivial
  intro data dataEq
  refine (obeys_of_uses _ (uses_validateClient (by simp)) unused free).bind ?_
    fun _ _ _ => trivial
  rintro - found ⟨second, rfl, secondOther⟩
  cases found with
  | none => trivial
  | some client =>
      refine granted db client _ data _ dataEq ?_
      simp [untouched_append, firstOther, secondOther]

/-! ## The tables of the grants -/

section Uses

variable {tables : List Table} {db : Connection} {readings : Readings}
variable {client : ClientRow} {clientId : PyValue}
variable {data : List (String × PyValue)}

attribute [local irreducible] SigningKeyManager.signToken in
theorem uses_clientCredentialsGrant :
    Uses tables (clientCredentialsGrant deployment readings client) :=
  (uses_ofExcept _).bind fun _ => within_done

theorem uses_authorizationCodeGrant (users : .users ∈ tables)
    (codes : .codes ∈ tables) (policies : .policies ∈ tables)
    (refreshTokens : .refreshTokens ∈ tables) :
    Uses tables (authorizationCodeGrant deployment db readings client clientId
      data) := by
  unfold authorizationCodeGrant
  dsimp only
  split
  · exact within_done
  refine (uses_validateAuthorizationCode codes).bind fun found => ?_
  cases found with
  | none => exact within_done
  | some authCode =>
      refine (uses_ask users).bind fun user => ?_
      cases user with
      | none => exact within_done
      | some user =>
          exact (uses_fetchUserPolicies policies).bind fun _ =>
            (uses_ofExcept _).bind fun _ =>
            (uses_createRefreshToken refreshTokens).bind fun _ =>
            (uses_ofExcept _).bind fun _ => within_done

theorem uses_refreshTokenGrant (users : .users ∈ tables)
    (policies : .policies ∈ tables) (refreshTokens : .refreshTokens ∈ tables) :
    Uses tables
      (refreshTokenGrant deployment db readings client clientId data) := by
  unfold refreshTokenGrant
  dsimp only
  split
  · exact within_done
  refine (uses_validateRefreshToken refreshTokens).bind fun found => ?_
  cases found with
  | none => exact within_done
  | some row =>
      refine (uses_ask users).bind fun user => ?_
      cases user with
      | none => exact within_done
      | some user =>
          exact (uses_revokeRefreshToken refreshTokens).bind fun _ =>
            (uses_fetchUserPolicies policies).bind fun _ =>
            (uses_ofExcept _).bind fun _ =>
            (uses_createRefreshToken refreshTokens).bind fun _ => within_done

theorem uses_tokenExchangeGrant (users : .users ∈ tables)
    (identities : .identities ∈ tables) (providers : .providers ∈ tables)
    (upstream : .upstream ∈ tables) (policies : .policies ∈ tables)
    (refreshTokens : .refreshTokens ∈ tables) :
    Uses tables (tokenExchangeGrant deployment db readings client data) := by
  unfold tokenExchangeGrant
  dsimp only
  split
  · exact within_done
  split
  · exact within_done
  refine Within.bind (Within.tryCatch
    ((uses_resolveOrProvisionFederatedUser users identities providers
      upstream).bind fun _ => within_done) fun _ => within_done) fun resolved => ?_
  rcases resolved with cause | ⟨user, provider, claims⟩
  · exact within_done
  refine (uses_fetchUserPolicies policies).bind fun _ =>
    (uses_ofExcept _).bind fun _ =>
    (uses_createRefreshToken refreshTokens).bind fun _ => ?_
  split
  · exact within_done
  · exact (uses_ofExcept _).bind fun _ => within_done

attribute [local irreducible] SigningKeyManager.signToken in
/-- A token request uses the tables of its dependency, its client check and
its grant. -/
theorem uses_postToken {request : TokenRequest} :
    Uses [.clients, .users, .codes, .policies, .refreshTokens, .identities,
      .providers, .upstream] (postToken deployment readings request) := by
  unfold postToken tokenEndpoint
  refine (uses_getDatabasePool (by decide)).bind fun db =>
    (uses_ofExcept _).bind fun data =>
      (uses_validateClient (by decide)).bind fun found => ?_
  cases found with
  | none => exact within_done
  | some client =>
      unfold grant
      dsimp only
      split
      · exact uses_authorizationCodeGrant (by decide) (by decide) (by decide)
          (by decide)
      · split
        · exact uses_refreshTokenGrant (by decide) (by decide) (by decide)
        · split
          · exact uses_clientCredentialsGrant
          · split
            · exact uses_tokenExchangeGrant (by decide) (by decide) (by decide)
                (by decide) (by decide) (by decide)
            · exact within_done

end Uses

end TokenCalls

end HexIam
